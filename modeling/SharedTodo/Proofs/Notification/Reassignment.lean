import SharedTodo.Proofs.Exchange.Reassigned
import SharedTodo.Proofs.Exchange.SentTodo
import SharedTodo.Proofs.Notification.Telling
import SharedTodo.Proofs.Request.Refusal

/-!
# What is told of a reassignment

A reassignment tells its caller to load the own and the sent todos again, a new owner the received ones, and
whoever was at the other end of the old link the received and the own ones. This covers all lists that new
entries come to. It does not cover all that old entries leave: the lists that change without a word to their
user are known exactly (`reassignment_announced`). They are the caller's received todos when the todo comes
from there, the sent todos of whoever had sent it, and the own list of a new owner who had accepted it.
-/

namespace SharedTodo

open Program

/-- The lists that a reassignment changes without telling their users. -/
def Store.overlooked (store : Store) (user newOwner : UserId) (kind : ListKind) (entry : Entry) : ListSet :=
  fun other kind' => (other = user ∧ kind' = .inbox ∧ kind = .inbox) ∨
    ∃ link half, store.Counterpart user kind entry link half ∧ other = link.user ∧ kind' = half.list ∧
      (kind' = .out ∨ kind' = .my ∧ other = newOwner)

/-- Whoever has a list with other entries afterwards has been told to load it, but for some lists that have
other entries and were not told of. -/
def Scene.AnnouncedButFor (missed : ListSet) (s s' : Scene) : Prop :=
  ∃ new, s'.sent = s.sent ++ new ∧ ∀ user kind,
    Store.changed s.store.lists s'.store.lists user kind ∧ kind ∉ Notification.refreshedFor user new ↔
      missed user kind

namespace Scene

/-- The lists that were not told of are determined by the two scenes. -/
theorem AnnouncedButFor.iff {missed missed' : ListSet} {s s' : Scene} (h : s.AnnouncedButFor missed s')
    (h' : s.AnnouncedButFor missed' s') (user : UserId) (kind : ListKind) :
    missed user kind ↔ missed' user kind := by
  obtain ⟨new, hsent, hnew⟩ := h
  obtain ⟨new', hsent', hnew'⟩ := h'
  obtain rfl := List.append_cancel_left (hsent.symm.trans hsent')
  rw [← hnew, hnew']

end Scene

namespace Request

section

variable {store store' : Store} {user newOwner other : UserId} {kind kind' : ListKind} {entry : Entry}
  {report : Exchange.Reassigned} (h : Exchange.Reassigns store user newOwner kind entry report store')

include h

/-- Who is told to load what, in terms of the entry. -/
theorem told_iff :
    toldOfReassigned user newOwner report other kind' ↔
      (other = user ∧ kind' ≠ .inbox) ∨ (user ≠ newOwner ∧ other = newOwner ∧ kind' = .inbox) ∨
        ((∃ link, entry.link = some link ∧ link.user = other) ∧ other ≠ newOwner ∧ kind' ≠ .out) := by
  have hcaller : ListSet.of (some user) [.my, .out] other kind' ↔ other = user ∧ kind' ≠ .inbox := by
    cases kind' <;> simp [eq_comm]
  have hnew : ListSet.of (report.newIssue.map fun _ => newOwner) [.inbox] other kind' ↔
      user ≠ newOwner ∧ other = newOwner ∧ kind' = .inbox := by
    rw [ne_eq, ← h.copied]
    cases report.newIssue <;> simp [eq_comm]
  have hprevious : ListSet.of report.previous [.inbox, .my] other kind' ↔
      (∃ link, entry.link = some link ∧ link.user = other) ∧ other ≠ newOwner ∧ kind' ≠ .out := by
    rw [ListSet.of_iff, h.previous, Option.filter_eq_some_iff, Option.map_eq_some_iff, and_assoc]
    cases kind' <;> simp
  rw [toldOfReassigned, ListSet.both_iff, ListSet.both_iff, hcaller, hnew, hprevious]

theorem told_of_entered (hin : Exchange.entered user newOwner other kind') :
    toldOfReassigned user newOwner report other kind' := by
  rw [told_iff h]
  rw [Exchange.entered] at hin
  split at hin
  · obtain ⟨huser, hkind⟩ := hin
    exact .inl ⟨(Option.some.inj huser).symm, List.mem_singleton.1 hkind ▸ by decide⟩
  · next hother =>
    rcases hin with ⟨huser, hkind⟩ | ⟨hreceiver, hkind⟩
    · exact .inl ⟨(Option.some.inj huser).symm, List.mem_singleton.1 hkind ▸ by decide⟩
    · exact .inr (.inl ⟨hother, (Option.some.inj hreceiver).symm, List.mem_singleton.1 hkind⟩)

/-- Of the lists that the entry and its counterpart have left, these are not told. -/
theorem untold_halves_iff (hconsistent : store.Consistent) :
    store.halvesOf user kind entry other kind' ∧ ¬ toldOfReassigned user newOwner report other kind' ↔
      store.overlooked user newOwner kind entry other kind' := by
  rw [told_iff h, not_or, not_or]
  constructor
  · rintro ⟨⟨rfl, rfl⟩ | ⟨link, half, hhalf, rfl, rfl⟩, hcaller, hnew, hprevious⟩
    · have hkind : kind' = .inbox := Classical.byContradiction fun hne => hcaller ⟨rfl, hne⟩
      exact .inl ⟨rfl, hkind, hkind⟩
    · refine .inr ⟨link, half, hhalf, rfl, rfl, ?_⟩
      by_cases hout : half.list = .out
      · exact .inl hout
      have howner : link.user = newOwner :=
        Classical.byContradiction fun hne => hprevious ⟨⟨link, hhalf.linked, rfl⟩, hne, hout⟩
      have hinbox : half.list ≠ .inbox := fun heq => hnew ⟨howner ▸ hhalf.other.symm, howner, heq⟩
      refine .inr ⟨?_, howner⟩
      revert hout hinbox
      cases half.list <;> simp
  · rintro (⟨rfl, rfl, rfl⟩ | ⟨link, half, hhalf, rfl, rfl, hlist⟩)
    · refine ⟨.inl ⟨rfl, rfl⟩, fun hcaller => hcaller.2 rfl, fun hnew => hnew.1 hnew.2.1, ?_⟩
      rintro ⟨⟨link, hlink, hsame⟩, -⟩
      exact hconsistent.other other .inbox entry link h.held hlink hsame
    · refine ⟨.inr ⟨link, half, hhalf, rfl, rfl⟩, fun hcaller => hhalf.other hcaller.1, ?_, ?_⟩
      · rintro ⟨-, -, hinbox⟩
        rcases hlist with hout | ⟨hmy, -⟩
        · exact nomatch hout.symm.trans hinbox
        · exact nomatch hmy.symm.trans hinbox
      · rintro ⟨-, howner, hout⟩
        exact hlist.elim hout fun hmy => howner hmy.2

theorem untold_iff (hconsistent : store.Consistent) :
    Store.changed store.lists store'.lists other kind' ∧ ¬ toldOfReassigned user newOwner report other kind' ↔
      store.overlooked user newOwner kind entry other kind' := by
  rw [← untold_halves_iff h hconsistent]
  exact and_congr_left fun huntold => h.vacates other kind' fun hin => huntold (told_of_entered h hin)

end

/-- What a request to reassign a todo comes to. -/
def Reassigned (around : Surroundings) (s : Scene) (id : IssueId) (user : UserId) (username : String) :
    Result Failure Response
  | .ok _, s' => ∃ newOwner kind entry, around.byUsername username = .ok (some newOwner) ∧
      entry ∈ (s.store.lists user).list kind ∧ entry.id = id ∧
      s.AnnouncedButFor (s.store.overlooked user newOwner.id kind entry) s'
  | .error _, _ => (∀ kind, ∀ entry ∈ (s.store.lists user).list kind, entry.id ≠ id) ∨
      ∀ newOwner, around.byUsername username = .ok (some newOwner) →
        user ≠ newOwner.id ∧ ∀ profile, around.byId newOwner.id ≠ .ok (some profile)
  | .unfinished, _ => False

variable {around : Surroundings} {s : Scene} {limits : Exchange.Limits} {user : UserId} {id : IssueId}
  {username : String}

theorem ensures_handleReassign_consistent (hup : around.delivers = true) (h : s.store.Consistent) :
    (handleReassign limits user id username).Ensures around (Reassigned around s id user username) s := by
  refine ensures_handleReassign (fun failure hunknown => ?_) fun newOwner hfound => ?_
  · exact .inr fun newOwner hfound => absurd hfound (hunknown newOwner)
  refine ensures_mono (Exchange.ensures_reassign h) fun outcome s₁ hend => ?_
  cases outcome with
  | ok report =>
    obtain ⟨hsent, kind, entry, hid, hreassigns⟩ := hend
    intro response s' hheard
    obtain ⟨new, hnew, htold⟩ := hheard.sent
    refine ⟨newOwner, kind, entry, hfound, hreassigns.held, hid, new, by rw [hnew, hsent], fun other kind' => ?_⟩
    rw [htold hup, hheard.store]
    exact untold_iff hreassigns h
  | error failure =>
    refine hend.2.imp_right fun hunknown newOwner' hfound' => ?_
    cases hfound.symm.trans hfound'
    exact hunknown
  | unfinished => exact hend

end Request

/-! ## Sessions -/

namespace Session

variable {session : Session} {name body : String} {id : IssueId} {username : String}

theorem run_reassignment (h : session.Undisturbed) (hup : session.notifierDown = false)
    (hconsistent : session.world.store.Consistent) (limits : Exchange.Limits) (user : UserId)
    (hdecode : Request.decode name body = .ok (.reassign id username))
    {outcome : Outcome Request.Failure Request.Response}
    (hdone : (session.run (Request.handleNamed limits user name body)).1 = outcome) :
    Request.Reassigned session.around session.scene id user username outcome
      (session.run (Request.handleNamed limits user name body)).2.scene := by
  rw [← hdone]
  refine run_of_ensures _ h ?_
  rw [Request.handleNamed, hdecode]
  exact Request.ensures_handleReassign_consistent (by simp [around, hup]) hconsistent

/-- A todo that the caller holds goes to every user who is found, be it the caller. -/
theorem reassignment_succeeds (h : session.Undisturbed) (hup : session.notifierDown = false)
    (hdirectory : session.directoryDown = false) (hkeyed : session.world.directory.Keyed)
    (hconsistent : session.world.store.Consistent) (limits : Exchange.Limits) {user : UserId}
    (hdecode : Request.decode name body = .ok (.reassign id username)) {kind : ListKind} {entry : Entry}
    (held : entry ∈ (session.world.store.lists user).list kind) (hid : entry.id = id) {newOwner : Profile}
    (hfound : session.world.directory.findByUsername username = some newOwner) :
    ∃ response, (session.run (Request.handleNamed limits user name body)).1 = .ok response := by
  have hfound' : session.around.byUsername username = .ok (some newOwner) := by
    simp [around, hdirectory, hfound]
  cases hdone : (session.run (Request.handleNamed limits user name body)).1 with
  | ok response => exact ⟨response, rfl⟩
  | error failure =>
    rcases run_reassignment h hup hconsistent limits user hdecode hdone with hunheld | hunknown
    · exact absurd hid (hunheld kind entry held)
    · exact absurd (keyed_around hkeyed username newOwner hfound') ((hunknown newOwner hfound').2 newOwner)
  | unfinished => exact (run_reassignment h hup hconsistent limits user hdecode hdone).elim

/-- After a successful reassignment, all users have been told to load the lists whose entries have changed,
but for the lists that are overlooked; these have changed as well. -/
theorem reassignment_announced (h : session.Undisturbed) (hup : session.notifierDown = false)
    (hconsistent : session.world.store.Consistent) (limits : Exchange.Limits) (user : UserId)
    (hdecode : Request.decode name body = .ok (.reassign id username)) {response : Request.Response}
    (hdone : (session.run (Request.handleNamed limits user name body)).1 = .ok response) :
    ∃ newOwner kind entry, session.world.directory.findByUsername username = some newOwner ∧
      entry ∈ (session.world.store.lists user).list kind ∧ entry.id = id ∧
      session.scene.AnnouncedButFor (session.world.store.overlooked user newOwner.id kind entry)
        (session.run (Request.handleNamed limits user name body)).2.scene := by
  obtain ⟨newOwner, kind, entry, hfound, hend⟩ := run_reassignment h hup hconsistent limits user hdecode hdone
  exact ⟨newOwner, kind, entry, byUsername_around hfound, hend⟩

end Session

/-! ## A received todo that is taken over -/

section

open Session

/-- A session that goes on from a store after two identifiers have been drawn, with ben known. -/
def knowingBen (store : Store) : Session :=
  resumed store 2 [⟨⟨"ben"⟩, "ben"⟩]

/-- Ben's request to have the todo with the second identifier for himself. -/
def ownReassignment : Program Request.Failure Request.Response :=
  Request.handleNamed ⟨5, 5⟩ ⟨"ben"⟩ "change_assignment"
    "\x7b\"id\":\"00000000-0000-4000-8000-000000000002\",\"send_to\":\"ben\"\x7d"

theorem decode_ownReassignment :
    Request.decode "change_assignment"
      "\x7b\"id\":\"00000000-0000-4000-8000-000000000002\",\"send_to\":\"ben\"\x7d" =
        .ok (.reassign (World.counted 1) "ben") := by
  rfl

variable {store : Store}

theorem ownReassignment_ok (h : store.SentTodo ⟨"amy"⟩ ⟨"ben"⟩ (World.counted 0) (World.counted 1)) :
    ∃ response, ((knowingBen store).run ownReassignment).1 = .ok response := by
  obtain ⟨entry, held, hid, -⟩ := h.inbox
  have hkeyed : (knowingBen store).world.directory.Keyed :=
    Directory.keyed_empty.foldl_register _
  have hfound : (knowingBen store).world.directory.findByUsername "ben" =
      some ⟨⟨"ben"⟩, "ben"⟩ := by
    rfl
  exact @reassignment_succeeds (knowingBen store) _ _ _ _ rfl rfl rfl hkeyed h.consistent _ _
    decode_ownReassignment _ _ held hid _ hfound

/-- Ben keeps the todo that amy has sent him. -/
theorem own_reassignment_announced :
    ∃ store : Store, store.SentTodo ⟨"amy"⟩ ⟨"ben"⟩ (World.counted 0) (World.counted 1) ∧
      ∃ newOwner kind entry, (knowingBen store).world.directory.findByUsername "ben" = some newOwner ∧
        entry ∈ (store.lists ⟨"ben"⟩).list kind ∧ entry.id = World.counted 1 ∧
        (knowingBen store).scene.AnnouncedButFor (store.overlooked ⟨"ben"⟩ newOwner.id kind entry)
          ((knowingBen store).run ownReassignment).2.scene := by
  obtain ⟨store, hstore⟩ := Exchange.exists_sentTodo_counted
  obtain ⟨response, hdone⟩ := ownReassignment_ok hstore
  exact ⟨store, hstore, @reassignment_announced (knowingBen store) _ _ _ _ rfl rfl
    hstore.consistent _ _ decode_ownReassignment _ hdone⟩

/-- Ben's received todos are others then, and he is not told. -/
theorem own_reassignment_unannounced :
    ∃ store : Store, store.SentTodo ⟨"amy"⟩ ⟨"ben"⟩ (World.counted 0) (World.counted 1) ∧
      (∃ response, ((knowingBen store).run ownReassignment).1 = .ok response) ∧
      ¬ (knowingBen store).scene.AnnouncedButFor .none
        ((knowingBen store).run ownReassignment).2.scene := by
  obtain ⟨store, hstore⟩ := Exchange.exists_sentTodo_counted
  obtain ⟨response, hdone⟩ := ownReassignment_ok hstore
  refine ⟨store, hstore, ⟨response, hdone⟩, fun hall => ?_⟩
  obtain ⟨newOwner, kind, entry, -, held, hid, hbut⟩ := @run_reassignment (knowingBen store)
    _ _ _ _ rfl rfl hstore.consistent _ _ decode_ownReassignment _ hdone
  obtain ⟨entry', held', hid', -⟩ := hstore.inbox
  obtain ⟨rfl, -⟩ := (hstore.consistent.unique.orderly.distinct ⟨"ben"⟩).eq held held' (hid.trans hid'.symm)
  exact (hall.iff hbut ⟨"ben"⟩ .inbox).2 (.inl ⟨rfl, rfl, rfl⟩)

end

end SharedTodo
