import SharedTodo.Proofs.Exchange.Access
import SharedTodo.Request.Handling

/-!
# Requests on todos that the caller does not hold

A request on one issue is refused when the issue is in none of the caller's lists. The answer is the same
whether the issue has a record or not, and whatever else is stored: nobody learns from it what others hold
(`refused_alike`). Some requests read the record before they look into the lists, and a reassignment even
writes the record of a copy, which goes again when the lists turn out not to name the issue; the store is
afterwards the one that it was.
-/

namespace SharedTodo

namespace Directory

/-- Every profile stands under its own identifier. -/
def Keyed (directory : Directory) : Prop :=
  ∀ user profile, directory.find? user = some profile → profile.id = user

theorem keyed_empty : Keyed Table.empty :=
  fun _ _ h => nomatch h

theorem Keyed.register {directory : Directory} (h : directory.Keyed) (profile : Profile) :
    (directory.register profile).Keyed := by
  intro user found hfound
  rw [Directory.register, Table.find?_insert] at hfound
  split at hfound
  · next huser =>
    cases hfound
    exact huser.symm
  · exact h user found hfound

theorem Keyed.foldl_register {directory : Directory} (h : directory.Keyed) (known : List Profile) :
    (known.foldl Directory.register directory).Keyed := by
  induction known generalizing directory with
  | nil => exact h
  | cons profile rest ih => exact ih (h.register profile)

/-- Whoever is found by name is found by identifier. -/
theorem Keyed.find?_of_findByUsername {directory : Directory} (h : directory.Keyed) {username : String}
    {profile : Profile} (hfound : directory.findByUsername username = some profile) :
    directory.find? profile.id = some profile := by
  obtain ⟨⟨user, other⟩, hmem, rfl⟩ := List.mem_map.1 (List.mem_of_find?_eq_some hfound)
  have hlookup : directory.find? user = some other := Table.lookup_of_mem hmem directory.nodup
  rw [h user other hlookup]
  exact hlookup

end Directory

/-- Whoever is found by name is found by identifier. -/
def Surroundings.Keyed (around : Surroundings) : Prop :=
  ∀ username profile, around.byUsername username = .ok (some profile) →
    around.byId profile.id = .ok (some profile)

theorem Session.keyed_around {session : Session} (h : session.world.directory.Keyed) :
    session.around.Keyed := by
  intro username profile hfound
  simp only [around] at hfound ⊢
  cases hdown : session.directoryDown with
  | true => simp [hdown] at hfound
  | false =>
    simp only [hdown, Bool.false_eq_true, if_false, Except.ok.injEq] at hfound ⊢
    exact h.find?_of_findByUsername hfound

namespace Program

variable {ε δ α β : Type}

/-- The program fails and leaves no trace. -/
def Denied (around : Surroundings) (failure : ε) (program : Program ε α) (s : Scene) : Prop :=
  program.Ensures around (fun outcome s' => outcome = .error failure ∧ s'.store = s.store ∧ s'.sent = s.sent) s

variable {around : Surroundings} {failure : ε} {program : Program ε α} {s : Scene}

theorem Denied.bind (h : program.Denied around failure s) (next : α → Program ε β) :
    (program >>= next).Denied around failure s := by
  refine ensures_bind (ensures_mono h fun outcome s' hend => ?_)
  obtain ⟨rfl, hsame⟩ := hend
  exact ⟨rfl, hsame⟩

theorem Denied.mapError (h : program.Denied around failure s) (view : ε → δ) :
    (program.mapError view).Denied around (view failure) s := by
  refine ensures_mapError (ensures_mono h fun outcome s' hend => ?_)
  obtain ⟨rfl, hsame⟩ := hend
  exact ⟨rfl, hsame⟩

end Program

namespace Exchange

open Program

/-- The lists of the user are readable and do not name the issue, whose record is readable, and the next
identifier is new. -/
structure Unheld (around : Surroundings) (user : UserId) (id : IssueId) (s : Scene) : Prop where
  lists : s.store.ListsReadable user
  record : s.store.RecordReadable id
  unlisted : ∀ kind, ∀ entry ∈ (s.store.lists user).list kind, entry.id ≠ id
  fresh : s.store.find? (Issue.key (around.supply s.drawn)) = none

section

variable {around : Surroundings} {user : UserId} {id : IssueId} {s : Scene}

theorem Unheld.find_eq_none (h : Unheld around user id s) : (s.store.lists user).find id = none :=
  UserLists.find_eq_none_iff.2 h.unlisted

theorem Unheld.find?_eq_none (h : Unheld around user id s) (kind : ListKind) :
    ((s.store.lists user).list kind).find? (UserLists.names id) = none :=
  List.find?_eq_none.2 fun entry hentry => by simpa [UserLists.names] using h.unlisted kind entry hentry

theorem Unheld.remove_eq_none (h : Unheld around user id s) : (s.store.lists user).remove id = none := by
  rw [UserLists.remove, h.find_eq_none]
  rfl

/-- A change of the lists that needs the issue's entry. -/
theorem Unheld.denied_updateLists {α : Type} (h : Unheld around user id s) (limits : Limits)
    {change : UserLists → Except OperationError (UserLists × α)}
    (hchange : change (s.store.lists user) = .error (.absent (.issue id))) :
    (updateLists limits user change).Denied around (.absent (.issue id)) s := by
  refine ensures_updateLists (fun failure hfailed => ?_) fun revised outcome _ hdone => ?_
  · cases hchange.symm.trans (hfailed h.lists)
    exact ⟨rfl, rfl, rfl⟩
  · exact nomatch hchange.symm.trans hdone

/-- What comes after the record has been read, denied as a missing record is. -/
theorem Unheld.denied_requireIssue {α : Type} (h : Unheld around user id s) {next : Issue → Operation α}
    (hnext : ∀ issue, (next issue).Denied around (.absent (.issue id)) s) :
    (requireIssue id >>= next).Denied around (.absent (.issue id)) s :=
  ensures_bind (ensures_requireIssue h.record (fun _ => ⟨rfl, rfl, rfl⟩) fun issue _ => hnext issue)

theorem Unheld.denied_edit (h : Unheld around user id s) (limits : Limits) (change : Edit) :
    (edit limits user id change).Denied around (.absent (.issue id)) s := by
  refine ensures_bind (ensures_loadLists h.lists ?_)
  rw [andThen, h.find_eq_none]
  exact ⟨rfl, rfl, rfl⟩

theorem Unheld.denied_bump (h : Unheld around user id s) (limits : Limits) :
    (bump limits user id).Denied around (.absent (.issue id)) s := by
  refine ensures_bind (ensures_loadLists h.lists ?_)
  rw [andThen, h.find?_eq_none .out]
  exact ⟨rfl, rfl, rfl⟩

theorem Unheld.denied_accept (h : Unheld around user id s) (limits : Limits) :
    (accept limits user id).Denied around (.absent (.issue id)) s := by
  refine h.denied_requireIssue fun issue => Denied.bind (h.denied_updateLists limits ?_) _
  rw [acceptEntry, UserLists.removeFrom, h.find?_eq_none .inbox]
  rfl

theorem Unheld.denied_take (h : Unheld around user id s) (limits : Limits) :
    (take limits user id).Denied around (.absent (.issue id)) s := by
  refine h.denied_requireIssue fun issue => Denied.bind (h.denied_updateLists limits ?_) _
  rw [takeEntry, h.remove_eq_none]
  rfl

theorem Unheld.replaceEntry_eq_error (h : Unheld around user id s) (kind : ListKind) (new : Entry) :
    replaceEntry id kind new (s.store.lists user) = .error (.absent (.issue id)) := by
  rw [replaceEntry, h.remove_eq_none]
  rfl

/-- The record of the copy comes and goes. -/
theorem Unheld.denied_handOver (h : Unheld around user id s) (limits : Limits) (newOwner : UserId)
    (issue : Issue) : (handOver limits user newOwner issue id).Denied around (.absent (.issue id)) s := by
  refine ensures_bind (ensures_bind (ensures_freshId (ensures_bind (ensures_saveIssue ?_))))
  let copy := issue.counterpart (around.supply s.drawn)
  let withCopy := s.store.insert (Issue.key copy.id) (Issue.codec.encode copy)
  have hlists : Store.lists withCopy user = s.store.lists user := by rw [Store.lists_insert_issue]
  have hreadable : Store.ListsReadable withCopy user := h.lists.of_eq (s.store.find?_insert_issue user _ _)
  have hchange (new : Entry) : replaceEntry id .out new (Store.lists withCopy user) =
      .error (.absent (.issue id)) := by
    rw [hlists]
    exact h.replaceEntry_eq_error .out new
  refine ensures_bind (ensures_attempt (ensures_updateLists (fun failure hfailed => ?_) ?_))
  · cases (hchange _).symm.trans (hfailed hreadable)
    exact ensures_bind (ensures_deleteIssue ⟨rfl, Table.erase_insert h.fresh _, rfl⟩)
  · exact fun revised outcome _ hdone => nomatch (hchange _).symm.trans hdone

theorem Unheld.denied_reassign (h : Unheld around user id s) (limits : Limits) {newOwner : Profile}
    (hknown : around.byId newOwner.id = .ok (some newOwner)) :
    (reassign limits id user newOwner.id).Denied around (.absent (.issue id)) s := by
  refine h.denied_requireIssue fun issue => ?_
  split
  · exact Denied.bind (h.denied_updateLists limits (h.replaceEntry_eq_error .my _)) _
  · refine ensures_bind (ensures_requireUser (fun profile _ => ?_) ?_ ?_)
    · exact h.denied_handOver limits newOwner.id issue
    · exact fun hunknown => nomatch hknown.symm.trans hunknown
    · exact fun failure hdown => nomatch hknown.symm.trans hdown

end

end Exchange

/-! ## Requests on one issue -/

namespace Request

open Program Exchange

/-- What a request on one issue aims at, and the issue. -/
def target? : Request → Option (Aim × IssueId)
  | .edit id _ => some (.edit, id)
  | .complete id => some (.complete, id)
  | .accept id => some (.accept, id)
  | .remove id => some (.remove, id)
  | .bump id => some (.bump, id)
  | .reassign id _ => some (.reassign, id)
  | .add _ _ => none
  | .list _ _ _ => none

/-- How the directory and the absence of an issue answer a request on it. -/
def refusal (byUsername : String → Except DirectoryFailure (Option Profile)) (aim : Aim) (id : IssueId) :
    Request → Failure
  | .reassign _ username =>
    match byUsername username with
    | .ok (some _) => .operation aim (.absent (.issue id))
    | .ok none => .unknownUser username
    | .error failure => .directory failure
  | _ => .operation aim (.absent (.issue id))

theorem denied_handle {around : Surroundings} {user : UserId} {id : IssueId} {s : Scene} {aim : Aim}
    {request : Request} (hkeyed : around.Keyed) (h : Unheld around user id s)
    (htarget : request.target? = some (aim, id)) (limits : Limits) :
    (handle limits user request).Denied around (refusal around.byUsername aim id request) s := by
  cases request with
  | add draft receiver => exact nomatch htarget
  | list kind reminder offset => exact nomatch htarget
  | edit _ change =>
    cases htarget
    exact ((h.denied_edit limits change).mapError _).bind _
  | complete _ =>
    cases htarget
    exact ((h.denied_take limits).mapError _).bind _
  | accept _ =>
    cases htarget
    exact ((h.denied_accept limits).mapError _).bind _
  | remove _ =>
    cases htarget
    exact (((h.denied_take limits).bind _).mapError _).bind _
  | bump _ =>
    cases htarget
    exact ((h.denied_bump limits).mapError _).bind _
  | reassign _ username =>
    cases htarget
    refine ensures_bind (ensures_bind (ensures_perform ?_))
    rintro found s' ⟨rfl, rfl⟩
    rw [refusal]
    match hfound : around.byUsername username with
    | .error failure => exact ⟨rfl, rfl, rfl⟩
    | .ok none => exact ⟨rfl, rfl, rfl⟩
    | .ok (some newOwner) =>
      exact ((h.denied_reassign limits (hkeyed username newOwner hfound)).mapError _).bind _

end Request

/-! ## Sessions -/

namespace Session

/-- The run fails, and neither what is stored nor what users were told is different afterwards. -/
def Refuses {ε α : Type} (session : Session) (program : Program ε α) (failure : ε) : Prop :=
  (session.run program).1 = .error failure ∧
    (session.run program).2.world.store = session.world.store ∧
    (session.run program).2.world.sent = session.world.sent

/-- An undisturbed session in which a user does not hold an issue. -/
structure Withholds (session : Session) (user : UserId) (id : IssueId) : Prop where
  undisturbed : session.Undisturbed
  keyed : session.world.directory.Keyed
  unheld : Exchange.Unheld session.around user id session.scene

end Session

namespace Request

/-- Two sessions with the same directory answer a request on an issue that the caller does not hold alike,
whatever else is stored in the one or in the other. -/
theorem refused_alike {one other : Session} {user : UserId} {id : IssueId}
    (hone : one.Withholds user id) (hother : other.Withholds user id)
    (hdirectory : other.world.directory = one.world.directory)
    (hdown : other.directoryDown = one.directoryDown) {name body : String} {request : Request} {aim : Aim}
    (hdecode : decode name body = .ok request) (htarget : request.target? = some (aim, id))
    (limits limits' : Exchange.Limits) :
    ∃ failure, one.Refuses (handleNamed limits user name body) failure ∧
      other.Refuses (handleNamed limits' user name body) failure := by
  have hrefuses {session : Session} (h : session.Withholds user id) (limits : Exchange.Limits) :
      session.Refuses (handleNamed limits user name body)
        (refusal session.around.byUsername aim id request) := by
    rw [handleNamed, hdecode]
    exact Session.run_of_ensures _ h.undisturbed
      (denied_handle (Session.keyed_around h.keyed) h.unheld htarget limits)
  have hbyUsername : other.around.byUsername = one.around.byUsername := by
    simp only [Session.around, hdirectory, hdown]
  refine ⟨_, hrefuses hone limits, ?_⟩
  rw [← hbyUsername]
  exact hrefuses hother limits'

theorem withholds_resumed {store : Store} {user : UserId} {id : IssueId} (known : List Profile)
    (hlists : store.lists user = .empty) (hreadable : store.ListsReadable user)
    (hrecord : store.RecordReadable id) (hfresh : store.find? (Issue.key (World.counted 0)) = none) :
    (Session.resumed store 0 known).Withholds user id where
  undisturbed := rfl
  keyed := Directory.keyed_empty.foldl_register known
  unheld := by
    refine ⟨hreadable, hrecord, fun kind entry hentry => ?_, hfresh⟩
    change entry ∈ (store.lists user).list kind at hentry
    rw [hlists] at hentry
    cases kind <;> exact nomatch hentry

/-- A store with one record, which nobody lists. -/
def recordedOnly (issue : Issue) : Store :=
  Table.empty.insert (Issue.key issue.id) (Issue.codec.encode issue)

theorem withholds_recordedOnly (issue : Issue) (hfresh : issue.id ≠ World.counted 0) (user : UserId)
    (known : List Profile) : (Session.resumed (recordedOnly issue) 0 known).Withholds user issue.id := by
  refine withholds_resumed known ?_ (Store.listsReadable_iff.2 fun raw hraw => ?_) (fun raw hraw => ?_) ?_
  · rw [recordedOnly, Store.lists_insert_issue]
    rfl
  · rw [recordedOnly, Store.find?_insert_issue] at hraw
    exact nomatch hraw
  · rw [recordedOnly, Table.find?_insert, if_pos rfl] at hraw
    exact ⟨issue, Option.some.inj hraw ▸ Issue.decode_encode issue⟩
  · exact (Table.find?_insert _ _ _ _).trans (if_neg fun hkey => hfresh (Issue.key_injective hkey).symm)

/-- Amy gives an issue to ben that she does not hold: once there is no such issue, and once it has a record. -/
theorem reassignment_refused_alike :
    ∃ failure,
      (Session.resumed .empty 0 [⟨⟨"ben"⟩, "ben"⟩]).Refuses
        (handleNamed ⟨5, 5⟩ ⟨"amy"⟩ "change_assignment"
          "\x7b\"id\":\"00000000-0000-0000-0000-000000000007\",\"send_to\":\"@ben\"\x7d") failure ∧
      (Session.resumed (recordedOnly ⟨⟨7⟩, "milk", none, none, .epoch⟩) 0 [⟨⟨"ben"⟩, "ben"⟩]).Refuses
        (handleNamed ⟨5, 5⟩ ⟨"amy"⟩ "change_assignment"
          "\x7b\"id\":\"00000000-0000-0000-0000-000000000007\",\"send_to\":\"@ben\"\x7d") failure := by
  have hunknown : (Session.resumed .empty 0 [⟨⟨"ben"⟩, "ben"⟩]).Withholds ⟨"amy"⟩ ⟨7⟩ :=
    withholds_resumed _ rfl (Store.listsReadable_iff.2 nofun) nofun rfl
  have hknown := withholds_recordedOnly ⟨⟨7⟩, "milk", none, none, .epoch⟩ (by decide) ⟨"amy"⟩
    [⟨⟨"ben"⟩, "ben"⟩]
  have hdecode : decode "change_assignment"
      "\x7b\"id\":\"00000000-0000-0000-0000-000000000007\",\"send_to\":\"@ben\"\x7d" =
        .ok (.reassign ⟨7⟩ "ben") := by
    rfl
  exact refused_alike hunknown hknown rfl rfl hdecode rfl ⟨5, 5⟩ ⟨5, 5⟩

end Request

end SharedTodo
