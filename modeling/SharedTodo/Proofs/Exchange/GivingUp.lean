import SharedTodo.Exchange.Create
import SharedTodo.Exchange.Reassign
import SharedTodo.Proofs.Exchange.Access
import SharedTodo.Proofs.Program.Contested

/-!
# Creating operations that give up

Operations that create todos write records first, then the lists of the user who acts, then the lists at the
other end. Among competitors each update of lists can be given up. As long as it is the first one, nobody's
lists have changed, and a reassignment also takes the record of its copy back. Later on there is no way back:
the lists of the user who acts stay as they have been written, and only the lists at the other end lack their
part (`SendStops`, `KeepStops`, `HandOverStops`).
-/

namespace SharedTodo

namespace Store

open Exchange

variable {store store' store'' : Store} {ids ids' : List IssueId} {id : IssueId} {user : UserId}

/-! ## Stores that differ in a few records -/

/-- Records of some issues apart, the documents are the same. -/
def SameBut (store : Store) (ids : List IssueId) (store' : Store) : Prop :=
  ∀ key, (∀ id ∈ ids, key ≠ Issue.key id) → store'.find? key = store.find? key

/-- The documents are the same, but that an issue may have lost its record. -/
def SameWithout (store : Store) (id : IssueId) (store' : Store) : Prop :=
  ∀ key, store'.find? key = store.find? key ∨ (key = Issue.key id ∧ store'.find? key = none)

theorem SameBut.refl (store : Store) (ids : List IssueId) : store.SameBut ids store :=
  fun _ _ => rfl

theorem SameWithout.refl (store : Store) (id : IssueId) : store.SameWithout id store :=
  fun _ => .inl rfl

theorem SameBut.mono (h : store.SameBut ids store') (hsub : ids ⊆ ids') : store.SameBut ids' store' :=
  fun key hkey => h key fun id hid => hkey id (hsub hid)

theorem SameBut.trans (h : store.SameBut ids store') (h' : store'.SameBut ids store'') :
    store.SameBut ids store'' :=
  fun key hkey => (h' key hkey).trans (h key hkey)

theorem SameBut.insert (h : store.SameBut ids store') (hid : id ∈ ids) (raw : String) :
    store.SameBut ids (Table.insert store' (Issue.key id) raw) := by
  intro key hkey
  rw [Table.find?_insert, if_neg (hkey id hid)]
  exact h key hkey

theorem SameBut.erase (h : store.SameBut ids store') (hid : id ∈ ids) :
    store.SameBut ids (Table.erase store' (Issue.key id)) := by
  intro key hkey
  rw [Table.find?_erase, if_neg (hkey id hid)]
  exact h key hkey

/-- A record that has been written is taken back. -/
theorem SameBut.sameWithout (h : store.SameBut [id] store') :
    store.SameWithout id (Table.erase store' (Issue.key id)) := by
  intro key
  rw [Table.find?_erase]
  split
  · next hkey => exact .inr ⟨hkey, rfl⟩
  · next hkey =>
    refine .inl (h key fun other hother => ?_)
    rw [List.mem_singleton.1 hother]
    exact hkey

theorem SameBut.lists (h : store.SameBut ids store') : store'.lists = store.lists :=
  funext fun user => lists_eq (h _ fun id _ => UserLists.key_ne_key user id)

theorem SameBut.listsReadable (h : store.SameBut ids store') (hreadable : store.ListsReadable user) :
    store'.ListsReadable user :=
  hreadable.of_eq (h _ fun id _ => UserLists.key_ne_key user id)

theorem SameBut.withLists (h : store.SameBut ids store') (user : UserId) (lists : UserLists) :
    (store.withLists user lists).SameBut ids (store'.withLists user lists) := by
  intro key hkey
  rw [Store.withLists, Store.withLists, h.lists]
  split
  · exact h key hkey
  · rw [Table.find?_assign, Table.find?_assign]
    split
    · rfl
    · exact h key hkey

/-! ## Entries that are given up -/

/-- The store with the counterpart of an owner's entry taken out of the lists at the other end, if it links
back. -/
def givenUp (store : Store) (owner : UserId) (entry : Entry) : Store :=
  match entry.link with
  | none => store
  | some link =>
    store.withLists link.user (takeCounterpart owner entry.id link.issue (store.lists link.user)).1

theorem ListsReadable.givenUp (h : store.ListsReadable user) (owner : UserId) (entry : Entry) :
    (store.givenUp owner entry).ListsReadable user := by
  rw [Store.givenUp]
  split
  · exact h
  · exact h.withLists _ _

theorem SameBut.givenUp (h : store.SameBut ids store') (owner : UserId) (entry : Entry) :
    (store.givenUp owner entry).SameBut ids (store'.givenUp owner entry) := by
  rw [Store.givenUp, Store.givenUp, h.lists]
  split
  · exact h
  · exact h.withLists _ _

end Store

/-! ## Failures -/

namespace Exchange

open Program Store

/-- The update of a user's lists was refused every time. -/
def gaveUp (limits : Limits) (user : UserId) : OperationError :=
  .storage (.retriesExhausted (UserLists.key user) (attempts limits.updates))

section

variable (limits : Limits) (store : Store)

/-- A todo that could not be sent is in nobody's lists: nothing has been done, or the sender's lists could not
be updated. Or it is with the sender, because it was the receiver's lists that could not be updated. -/
inductive SendStops (sender receiver : UserId) (own received : IssueId) : OperationError → Store → Prop where
  | refused {failure : OperationError} : SendStops sender receiver own received failure store
  | unlisted {store' : Store} (same : store.SameBut [own, received] store') :
      SendStops sender receiver own received (gaveUp limits sender) store'
  | undelivered {store' : Store}
      (recorded : ∀ id ∈ [own, received], store'.find? (Issue.key id) ≠ none)
      (same : (store.withLists sender
        ((store.lists sender).pushed .out (.linked own ⟨receiver, received⟩))).SameBut [own, received] store') :
      SendStops sender receiver own received (gaveUp limits receiver) store'

/-- A todo that could not be taken back is where it was. Or its holder has it back, and it was the lists at
the other end that could not be updated. -/
inductive KeepStops (user : UserId) (id : IssueId) : OperationError → Store → Prop where
  | refused {failure : OperationError} : KeepStops user id failure store
  | attached {lists : UserLists} {old : Entry} {link : Link}
      (replaced : replaceEntry id .my (.unlinked id) (store.lists user) = .ok (lists, old))
      (linked : old.link = some link) :
      KeepStops user id (gaveUp limits link.user) (store.withLists user lists)

/-- A todo that could not be given to somebody else is where it was, and its copy is gone. Or it is with its
holder as a sent one, because the lists at the other end could not be updated: those of whoever had it before,
or those of the new owner. -/
inductive HandOverStops (user newOwner : UserId) (id copy : IssueId) : OperationError → Store → Prop where
  | refused {failure : OperationError} {store' : Store} (same : store.SameWithout copy store') :
      HandOverStops user newOwner id copy failure store'
  | attached {lists : UserLists} {old : Entry} {link : Link} {store' : Store}
      (replaced : replaceEntry id .out (.linked id ⟨newOwner, copy⟩) (store.lists user) = .ok (lists, old))
      (linked : old.link = some link) (same : (store.withLists user lists).SameBut [copy] store') :
      HandOverStops user newOwner id copy (gaveUp limits link.user) store'
  | undelivered {lists : UserLists} {old : Entry} {store' : Store}
      (replaced : replaceEntry id .out (.linked id ⟨newOwner, copy⟩) (store.lists user) = .ok (lists, old))
      (same : ((store.withLists user lists).givenUp user old).SameBut
        (copy :: old.link.toList.map Link.issue) store') :
      HandOverStops user newOwner id copy (gaveUp limits newOwner) store'

end

/-! ## Steps -/

section

variable {α : Type} {around : Surroundings} {s : Scene} {limits : Limits} {user : UserId} {id : IssueId}

/-- What is to hold when an operation fails. -/
def failing (stops : OperationError → Store → Prop) : Result OperationError α
  | .error failure, s' => stops failure s'.store
  | _, _ => True

theorem weathers_saveIssue {issue : Issue} {result : Result OperationError Unit}
    (h : ∀ s', s'.store = s.store.insert (Issue.key issue.id) (Issue.codec.encode issue) → result (.ok ()) s') :
    (saveIssue issue).Weathers around result s :=
  weathers_of_ensures (certain_set _ _) (ensures_saveIssue (h _ rfl))

theorem weathers_deleteIssue {result : Result OperationError Unit}
    (h : result (.ok ()) (s.withStore (s.store.erase (Issue.key id)))) :
    (deleteIssue id).Weathers around result s :=
  weathers_of_ensures (certain_delete _) (ensures_deleteIssue h)

theorem weathers_newIssue (draft : Draft) {result : Result OperationError Issue}
    (h : ∀ issue, issue.id = around.supply s.drawn → result (.ok issue) { s with drawn := s.drawn + 1 }) :
    (newIssue draft).Weathers around result s := by
  refine weathers_of_ensures ?_ (ensures_bind (ensures_freshId (ensures_bind (ensures_now fun _ => h _ rfl))))
  exact certain_freshId.bind fun _ => certain_now.bind fun _ => certain_ended _

theorem weathers_newCounterpart (issue : Issue) {result : Result OperationError Issue}
    (h : ∀ copy, copy.id = around.supply s.drawn → result (.ok copy) { s with drawn := s.drawn + 1 }) :
    (newCounterpart issue).Weathers around result s := by
  refine weathers_of_ensures ?_ (ensures_bind (ensures_freshId (h _ rfl)))
  exact certain_freshId.bind fun _ => certain_ended _

/-- An operation that only asks goes on as things are, or fails. -/
theorem weathers_of_idle {program : Operation α} {result : Result OperationError α} (hcertain : program.Certain)
    (h : program.Idle around) (hok : ∀ value, result (.ok value) s)
    (herror : ∀ failure, result (.error failure) s) : program.Weathers around result s :=
  weathers_of_ensures hcertain (ensures_of_idle h hok herror)

theorem certain_requireIssue (id : IssueId) : (requireIssue id).Certain := by
  refine .bind (.bind (certain_get _) fun raw => ?_) fun _ => certain_ended _
  cases raw with
  | none => exact certain_ended _
  | some raw => exact (certain_ended _).bind fun _ => certain_ended _

theorem certain_requireUser (user : UserId) : (requireUser user).Certain := by
  refine .bind (certain_findById user) fun found => ?_
  cases found with
  | some profile => exact certain_ended _
  | none => exact (certain_forget user).bind fun _ => certain_ended _

theorem weathers_updateLists {change : UserLists → Except OperationError (UserLists × α)}
    {result : Result OperationError α} (h : s.store.ListsReadable user)
    (hfailed : ∀ failure, change (s.store.lists user) = .error failure → result (.error failure) s)
    (hgaveUp : result (.error (gaveUp limits user)) s)
    (hdone : ∀ revised outcome, change (s.store.lists user) = .ok (revised, outcome) →
      result (.ok outcome) (s.withStore (s.store.withLists user revised))) :
    (updateLists limits user change).Weathers around result s := by
  refine weathers_update (fun failure hfailure => hfailed failure (revisedLists_eq_error hfailure h)) hgaveUp
    fun new outcome hnew => ?_
  obtain ⟨revised, -, hchange, hwritten⟩ := rewrite_revisedLists hnew
  rw [hwritten]
  exact hdone revised outcome hchange

theorem weathers_pushEntry {kind : ListKind} {entry : Entry} {result : Result OperationError Unit}
    (h : s.store.ListsReadable user) (hgaveUp : result (.error (gaveUp limits user)) s)
    (hdone : result (.ok ()) (s.withStore (s.store.withLists user ((s.store.lists user).pushed kind entry)))) :
    (pushEntry limits user kind entry).Weathers around result s := by
  refine weathers_updateLists h (fun _ hfailed => nomatch hfailed) hgaveUp fun revised outcome hpushed => ?_
  cases hpushed
  exact hdone

/-- The lists at the other end are updated, and the counterpart may lose its record; or nothing is done. -/
theorem weathers_dissolve {entry : Entry} {result : Result OperationError (Option UserId)}
    (h : ∀ user, s.store.ListsReadable user)
    (hgaveUp : ∀ link, entry.link = some link → result (.error (gaveUp limits link.user)) s)
    (hdone : ∀ value s', (s.store.givenUp user entry).SameBut (entry.link.toList.map Link.issue) s'.store →
      result (.ok value) s') : (dissolve limits user entry).Weathers around result s := by
  rw [dissolve]
  cases hlink : entry.link with
  | none =>
    refine hdone none s ?_
    rw [givenUp, hlink]
    exact .refl _ _
  | some link =>
    refine weathers_bind (weathers_updateLists (h link.user) (fun _ hfailed => nomatch hfailed)
      (hgaveUp link hlink) fun revised half htaken => ?_)
    have hgiven : s.store.givenUp user entry = s.store.withLists link.user revised := by
      rw [givenUp, hlink]
      exact congrArg (fun pair => s.store.withLists link.user pair.1) (Except.ok.inj htaken)
    rw [hlink, hgiven] at hdone
    cases half with
    | removed => exact weathers_bind (weathers_deleteIssue (hdone _ _ ((SameBut.refl _ _).erase (by simp))))
    | missing => exact weathers_bind (weathers_deleteIssue (hdone _ _ ((SameBut.refl _ _).erase (by simp))))
    | stale => exact hdone _ _ (.refl _ _)

/-! ## Operations -/

variable (limits) in
theorem weathers_add (h : s.store.ListsReadable user) (draft : Draft) :
    (add limits user draft).Weathers around (failing fun failure store' =>
      failure = gaveUp limits user ∧ s.store.SameBut [around.supply s.drawn] store') s := by
  refine weathers_bind (weathers_newIssue draft fun issue hid => ?_)
  refine weathers_bind (weathers_saveIssue fun s₁ hs₁ => ?_)
  have hsaved : s.store.SameBut [around.supply s.drawn] s₁.store := by
    rw [hs₁, ← hid]
    exact (SameBut.refl _ _).insert List.mem_cons_self _
  exact weathers_bind (weathers_pushEntry (hsaved.listsReadable h) ⟨rfl, hsaved⟩ trivial)

variable (limits user) in
theorem weathers_send (h : ∀ user, s.store.ListsReadable user) (receiver : UserId) (draft : Draft) :
    (send limits user receiver draft).Weathers around (failing (SendStops limits s.store user receiver
      (around.supply s.drawn) (around.supply (s.drawn + 1)))) s := by
  rw [send]
  split
  · exact .refused
  refine weathers_bind (weathers_of_idle (certain_requireUser receiver) (idle_requireUser receiver) (fun _ => ?_)
    fun _ => .refused)
  refine weathers_bind (weathers_newIssue draft fun own hown => ?_)
  refine weathers_bind (weathers_newCounterpart own fun received hreceived => ?_)
  refine weathers_bind (weathers_saveIssue fun s₁ hs₁ => weathers_bind (weathers_saveIssue fun s₂ hs₂ => ?_))
  rw [← hown, show around.supply (s.drawn + 1) = received.id from hreceived.symm]
  have hsaved : s.store.SameBut [own.id, received.id] s₂.store := by
    rw [hs₂, hs₁]
    exact ((SameBut.refl _ _).insert List.mem_cons_self _).insert (List.mem_cons_of_mem _ List.mem_cons_self) _
  have hrecorded : ∀ id ∈ [own.id, received.id], s₂.store.find? (Issue.key id) ≠ none := by
    intro id hid
    rw [hs₂, hs₁, Table.find?_insert, Table.find?_insert]
    obtain rfl | rfl : id = own.id ∨ id = received.id := by simpa using hid
    · split <;> simp
    · simp
  refine weathers_bind (weathers_pushEntry (hsaved.listsReadable (h user)) (.unlisted hsaved) ?_)
  refine weathers_bind (weathers_pushEntry ((hsaved.listsReadable (h receiver)).withLists user _) ?_ trivial)
  refine .undelivered (fun id hid => ?_) ?_
  · rw [Scene.withStore_store, find?_withLists_issue]
    exact hrecorded id hid
  · have hlisted := hsaved.withLists user
      ((s.store.lists user).pushed .out (.linked own.id ⟨receiver, received.id⟩))
    rw [Scene.withStore_store, hsaved.lists]
    exact hlisted

theorem weathers_keep (h : ∀ user, s.store.ListsReadable user) (issue : Issue) :
    (keep limits user issue id).Weathers around (failing (KeepStops limits s.store user id)) s := by
  refine weathers_bind (weathers_updateLists (h user) (fun _ _ => .refused) .refused fun lists old hreplaced => ?_)
  refine weathers_bind (weathers_dissolve (fun other => (h other).withLists user lists) (fun link hlink => ?_)
    fun _ _ _ => trivial)
  exact .attached hreplaced hlink

theorem weathers_handOver (h : ∀ user, s.store.ListsReadable user) (newOwner : UserId) (issue : Issue) :
    (handOver limits user newOwner issue id).Weathers around
      (failing (HandOverStops limits s.store user newOwner id (around.supply s.drawn))) s := by
  refine weathers_bind (weathers_newCounterpart issue fun copy hcopy => ?_)
  refine weathers_bind (weathers_saveIssue fun s₁ hs₁ => weathers_bind (weathers_attempt ?_))
  rw [← hcopy]
  have hsaved : s.store.SameBut [copy.id] s₁.store := by
    rw [hs₁]
    exact (SameBut.refl _ _).insert List.mem_cons_self _
  refine weathers_updateLists (hsaved.listsReadable (h user)) (fun failure _ => ?_) ?_
    fun lists old hreplaced => ?_
  · exact weathers_bind (weathers_deleteIssue (.refused hsaved.sameWithout))
  · exact weathers_bind (weathers_deleteIssue (.refused hsaved.sameWithout))
  -- from here on there is no way back
  rw [hsaved.lists] at hreplaced
  have hreplacing := hsaved.withLists user lists
  have hreadable (other : UserId) := (hsaved.listsReadable (h other)).withLists user lists
  refine weathers_bind (weathers_dissolve hreadable (fun link hlink => ?_) fun previous s₂ hdissolved => ?_)
  · exact .attached hreplaced hlink hreplacing
  have hgiven := ((hreplacing.givenUp user old).mono (List.cons_subset_cons copy.id (List.nil_subset _))).trans
    (hdissolved.mono (List.subset_cons_self copy.id _))
  refine weathers_bind (weathers_pushEntry (hgiven.listsReadable ?_) (.undelivered hreplaced hgiven) trivial)
  exact ((h newOwner).withLists user lists).givenUp user old

variable (limits user id) in
theorem weathers_reassign (h : ∀ user, s.store.ListsReadable user) (newOwner : UserId) :
    (reassign limits id user newOwner).Weathers around (failing fun failure store' =>
      if user = newOwner then KeepStops limits s.store user id failure store'
      else HandOverStops limits s.store user newOwner id (around.supply s.drawn) failure store') s := by
  rw [reassign]
  refine weathers_bind (weathers_of_idle (certain_requireIssue id) (idle_requireIssue id) (fun issue => ?_)
    fun failure => ?_)
  · split
    · exact weathers_keep h issue
    · refine weathers_bind (weathers_of_idle (certain_requireUser newOwner) (idle_requireUser newOwner) (fun _ => ?_)
        fun _ => .refused (.refl _ _))
      exact weathers_handOver h newOwner issue
  · dsimp only [onward, failing]
    split
    · exact .refused
    · exact .refused (.refl _ _)

end

end Exchange

/-! ## Sessions -/

namespace Contested

open Exchange

variable {contested : Contested}

theorem stops_of_weathers {α : Type} {program : Operation α} {stops : OperationError → Store → Prop}
    (h : contested.session.Undisturbed)
    (hweathers : program.Weathers contested.session.around (failing stops) contested.session.scene)
    {failure : OperationError} (hfailed : (contested.run program).1 = .error failure) :
    stops failure (contested.run program).2.session.world.store := by
  have hend := run_of_weathers _ h hweathers
  rw [hfailed] at hend
  exact hend

/-- Whichever conditional writes come too late, an operation that creates a todo and fails has changed
nobody's lists, and a reassignment has left no copy behind; unless it is the lists at the other end that could
not be updated, after those of the user who acts. -/
theorem creation_stops (h : contested.session.Undisturbed)
    (hreadable : ∀ user, contested.session.world.store.ListsReadable user)
    {store : Store} (hstore : store = contested.session.world.store)
    {own next : IssueId} (hown : own = contested.session.world.supply contested.session.world.drawn)
    (hnext : next = contested.session.world.supply (contested.session.world.drawn + 1))
    (limits : Limits) (user : UserId) :
    (∀ draft failure, (contested.run (add limits user draft)).1 = .error failure →
      failure = gaveUp limits user ∧
        store.SameBut [own] (contested.run (add limits user draft)).2.session.world.store) ∧
    (∀ receiver draft failure, (contested.run (send limits user receiver draft)).1 = .error failure →
      SendStops limits store user receiver own next failure
        (contested.run (send limits user receiver draft)).2.session.world.store) ∧
    (∀ id failure, (contested.run (reassign limits id user user)).1 = .error failure →
      KeepStops limits store user id failure
        (contested.run (reassign limits id user user)).2.session.world.store) ∧
    ∀ id newOwner failure, user ≠ newOwner →
      (contested.run (reassign limits id user newOwner)).1 = .error failure →
        HandOverStops limits store user newOwner id own failure
          (contested.run (reassign limits id user newOwner)).2.session.world.store := by
  subst hstore hown hnext
  have hscene : ∀ user, contested.session.scene.store.ListsReadable user := hreadable
  refine ⟨fun draft failure hfailed => ?_, fun receiver draft failure hfailed => ?_,
    fun id failure hfailed => ?_, fun id newOwner failure hother hfailed => ?_⟩
  · exact stops_of_weathers h (weathers_add limits (hscene user) draft) hfailed
  · exact stops_of_weathers h (weathers_send limits user hscene receiver draft) hfailed
  · have hstops := stops_of_weathers h (weathers_reassign limits user id hscene user) hfailed
    rwa [if_pos rfl] at hstops
  · have hstops := stops_of_weathers h (weathers_reassign limits user id hscene newOwner) hfailed
    rwa [if_neg hother] at hstops

/-- A session that goes on from a store, with ben known, in which every conditional write but the first comes
too late. -/
def crowded (store : Store) : Contested :=
  ⟨Session.resumed store 0 [⟨⟨"ben"⟩, "ben"⟩], fun n => n ≠ 0, 0⟩

/-- Amy sends ben a todo, and his lists cannot be updated: the todo stays in her lists. -/
theorem half_sent :
    let sent := (crowded .empty).run (send ⟨5, 5⟩ ⟨"amy"⟩ ⟨"ben"⟩ ⟨"milk", none, none⟩)
    sent.1 = .error (gaveUp ⟨5, 5⟩ ⟨"ben"⟩) ∧
      sent.2.session.world.store.find? (UserLists.key ⟨"amy"⟩) ≠
        (crowded .empty).session.world.store.find? (UserLists.key ⟨"amy"⟩) := by
  decide +kernel

/-- Amy has a todo in her own list. -/
def milkListed : Store :=
  let milk := Issue.codec.encode ⟨⟨7⟩, "milk", none, none, .epoch⟩
  Store.withLists (Table.insert .empty (Issue.key ⟨7⟩) milk) ⟨"amy"⟩ ⟨[.unlinked ⟨7⟩], [], []⟩

/-- She gives it to ben, and his lists cannot be updated. -/
theorem half_given :
    let given := (crowded milkListed).run (reassign ⟨5, 5⟩ ⟨7⟩ ⟨"amy"⟩ ⟨"ben"⟩)
    given.1 = .error (gaveUp ⟨5, 5⟩ ⟨"ben"⟩) ∧
      HandOverStops ⟨5, 5⟩ milkListed ⟨"amy"⟩ ⟨"ben"⟩ ⟨7⟩ (World.counted 0)
        (gaveUp ⟨5, 5⟩ ⟨"ben"⟩) given.2.session.world.store := by
  have hreadable (user : UserId) : (crowded milkListed).session.world.store.ListsReadable user :=
    ((Store.listsReadable_iff.2 nofun : Store.ListsReadable .empty user).insert_issue _ _).withLists _ _
  have hgiven : ((crowded milkListed).run (reassign ⟨5, 5⟩ ⟨7⟩ ⟨"amy"⟩ ⟨"ben"⟩)).1 =
      .error (gaveUp ⟨5, 5⟩ ⟨"ben"⟩) := by
    decide +kernel
  obtain ⟨-, -, -, hreassign⟩ := @creation_stops (crowded milkListed) rfl hreadable milkListed rfl
    (World.counted 0) (World.counted 1) rfl rfl ⟨5, 5⟩ ⟨"amy"⟩
  exact ⟨hgiven, hreassign ⟨7⟩ ⟨"ben"⟩ _ (by decide) hgiven⟩

end Contested

end SharedTodo
