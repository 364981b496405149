import SharedTodo.Proofs.Exchange.Effects
import SharedTodo.Proofs.Exchange.Runs

/-!
# Operations that fail for what their caller asked

An operation that is refused for what its caller asked, or because something is not there, has changed
nothing (`unmoved_action`). Nothing is asked of the store for that: its links may dangle, its entries may have
no records, and documents may be unreadable. The reason is an order of work. After its first effective write
an operation never fails for a reason of this kind (`Program.Decided`), and up to this write it only reads, or
takes back what it wrote.

The one exception is the removal of the first todo. It drops heads without a record before it finds the list
empty, and then the own list, in which no entry had a record, is empty afterwards (`drained_pop`).
-/

namespace SharedTodo

namespace Program

open Exchange

variable {α β : Type} {around : Surroundings} {s : Scene}

/-! ## Decided programs -/

variable (around) in
/-- Whatever the program meets, it does not fail for a reason that the caller can mend. -/
def Decided (program : Operation α) : Prop :=
  ∀ s, program.Ensures around
    (fun outcome _ => ∀ failure, outcome = .error failure → failure.isUserError = false) s

theorem decided_pure (value : α) : Decided around (pure value : Operation α) := by
  intro s failure h
  cases h

theorem Decided.bind {program : Operation α} {next : α → Operation β} (h : program.Decided around)
    (hnext : ∀ value, (next value).Decided around) : Decided around (program >>= next) := by
  intro s
  apply ensures_bind
  refine ensures_mono (h s) fun outcome s' hend => ?_
  cases outcome with
  | ok value => exact hnext value s'
  | error failure =>
    intro failure' heq
    cases heq
    exact hend failure rfl
  | unfinished =>
    intro failure heq
    cases heq

/-- A program of one call that always has an answer. -/
theorem decided_of_ok {program : Operation α}
    (h : ∀ s, program.Ensures around (fun outcome _ => ∃ value, outcome = .ok value) s) :
    program.Decided around := by
  intro s
  refine ensures_mono (h s) fun outcome _ hend failure heq => ?_
  obtain ⟨value, rfl⟩ := hend
  cases heq

theorem decided_update {key : String} {limit : Nat}
    {compute : Option String → Except OperationError (Option String × α)}
    (h : ∀ raw failure, compute raw = .error failure → failure.isUserError = false) :
    Decided around (update key limit compute) := by
  intro s
  refine ensures_update (fun failure hfailed failure' heq => ?_) fun new outcome _ failure heq => ?_
  · cases heq
    exact h _ failure hfailed
  · cases heq

/-! ## Failures that leave no trace -/

/-- If the caller can mend the failure, store and notifications are as they were. -/
def Unmoved (s : Scene) : Result OperationError α
  | .error failure, s' => failure.isUserError = true → s'.store = s.store ∧ s'.sent = s.sent
  | _, _ => True

theorem unmoved_of_decided {program : Operation α} (h : program.Decided around) (s' : Scene) :
    program.Ensures around (Unmoved s) s' := by
  refine ensures_mono (h s') fun outcome s'' hend => ?_
  cases outcome with
  | ok value => trivial
  | error failure => exact fun hmends => nomatch (hend failure rfl).symm.trans hmends
  | unfinished => trivial

/-- Reading before a program. -/
theorem unmoved_after {program : Operation α} {next : α → Operation β} (h : program.Idle around)
    (hnext : ∀ value, (next value).Ensures around (Unmoved s) s) :
    (program >>= next).Ensures around (Unmoved s) s :=
  ensures_bind (ensures_of_idle h hnext fun _ _ => ⟨rfl, rfl⟩)

/-- Decided work after a program. -/
theorem unmoved_before {program : Operation α} {next : α → Operation β}
    (h : program.Ensures around (Unmoved s) s) (hnext : ∀ value, (next value).Decided around) :
    (program >>= next).Ensures around (Unmoved s) s := by
  apply ensures_bind
  refine ensures_mono h fun outcome s' hend => ?_
  cases outcome with
  | ok value => exact unmoved_of_decided (hnext value) s'
  | error failure => exact hend
  | unfinished => trivial

end Program

namespace Store

theorem find?_withLists_self (store : Store) (user : UserId) (lists : UserLists) :
    (store.withLists user lists).find? (UserLists.key user) =
      if lists = store.lists user then store.find? (UserLists.key user)
      else Exchange.documentOfLists lists := by
  rw [withLists]
  split
  · rfl
  · exact (store.find?_assign _ _ _).trans (if_pos rfl)

end Store

namespace Exchange

open Program

variable {α β : Type} {around : Surroundings} {s : Scene} {limits : Limits} {user : UserId} {id : IssueId}

/-! ## Access to lists and records -/

theorem listsOfDocument_eq_error {key : String} {raw : Option String} {failure : OperationError}
    (h : listsOfDocument key raw = .error failure) : failure.isUserError = false := by
  cases raw with
  | none => cases h
  | some raw =>
    rw [listsOfDocument] at h
    cases hdecode : UserLists.codec.decode raw <;> rw [hdecode] at h <;> cases h
    rfl

theorem recordOfDocument_eq_error {key raw : String} {failure : OperationError}
    (h : recordOfDocument key raw = .error failure) : failure.isUserError = false := by
  rw [recordOfDocument] at h
  cases hdecode : Issue.codec.decode raw <;> rw [hdecode] at h <;> cases h
  rfl

/-- A change of lists that cannot fail. -/
theorem decided_updateLists {change : UserLists → UserLists × α} :
    Decided around (updateLists limits user fun lists => .ok (change lists)) := by
  refine decided_update fun raw failure hfailed => ?_
  cases hlists : listsOfDocument (UserLists.key user) raw with
  | ok lists => cases revisedLists_eq_error hfailed hlists
  | error failure' =>
    rw [revisedLists, hlists] at hfailed
    cases hfailed
    exact listsOfDocument_eq_error hlists

theorem unmoved_updateLists {change : UserLists → Except OperationError (UserLists × α)} :
    (updateLists limits user change).Ensures around (Unmoved s) s :=
  ensures_updateLists (fun _ _ _ => ⟨rfl, rfl⟩) fun _ _ _ _ => trivial

theorem decided_loadLists (user : UserId) : Decided around (loadLists user) := by
  intro s
  refine ensures_bind (ensures_get ?_)
  rw [andThen]
  apply ensures_ofExcept
  · intro lists _ failure heq
    cases heq
  · intro failure hfailed failure' heq
    cases heq
    exact listsOfDocument_eq_error hfailed

theorem decided_saveIssue (issue : Issue) : Decided around (saveIssue issue) :=
  decided_of_ok fun _ => ensures_saveIssue ⟨(), rfl⟩

theorem decided_deleteIssue (id : IssueId) : Decided around (deleteIssue id) :=
  decided_of_ok fun _ => ensures_deleteIssue ⟨(), rfl⟩

theorem decided_editRecord (id : IssueId) (change : Edit) :
    Decided around (editRecord limits id change) := by
  refine decided_update fun raw failure hfailed => ?_
  cases raw with
  | none => cases hfailed
  | some raw =>
    rw [editedRecord] at hfailed
    cases hrecord : recordOfDocument (Issue.key id) raw with
    | ok issue => rw [hrecord] at hfailed; cases hfailed
    | error failure' =>
      rw [hrecord] at hfailed
      cases hfailed
      exact recordOfDocument_eq_error hrecord

theorem decided_newIssue (draft : Draft) : Decided around (newIssue draft) :=
  .bind (decided_of_ok fun _ => ensures_freshId ⟨_, rfl⟩) fun _ =>
    .bind (decided_of_ok fun _ => ensures_now fun _ => ⟨_, rfl⟩) fun _ => decided_pure _

theorem decided_newCounterpart (issue : Issue) : Decided around (newCounterpart issue) :=
  .bind (decided_of_ok fun _ => ensures_freshId ⟨_, rfl⟩) fun _ => decided_pure _

theorem decided_dissolve (owner : UserId) (entry : Entry) : Decided around (dissolve limits owner entry) := by
  rw [dissolve]
  split
  · exact decided_pure none
  · refine .bind decided_updateLists fun half => ?_
    cases half with
    | removed => exact .bind (decided_deleteIssue _) fun _ => decided_pure _
    | missing => exact .bind (decided_deleteIssue _) fun _ => decided_pure _
    | stale => exact decided_pure none

theorem decided_livingCounterpart (owner : UserId) (entry : Entry) :
    Decided around (livingCounterpart owner entry) := by
  rw [livingCounterpart]
  split
  · exact decided_pure none
  · refine .bind (decided_loadLists _) fun lists => ?_
    split
    · exact decided_pure _
    · exact decided_pure none

theorem decided_editCounterpart (change : Edit) (link : Option Link) :
    Decided around (editCounterpart limits change link) := by
  cases link with
  | none => exact decided_pure none
  | some link =>
    refine .bind (decided_editRecord link.issue change) fun message => ?_
    cases message with
    | none => exact decided_pure none
    | some message => exact decided_pure _

/-! ## Operations -/

theorem decided_add (user : UserId) (draft : Draft) : Decided around (add limits user draft) :=
  .bind (decided_newIssue draft) fun _ => .bind (decided_saveIssue _) fun _ =>
    .bind decided_updateLists fun _ => decided_pure _

theorem unmoved_send (sender receiver : UserId) (draft : Draft) :
    (send limits sender receiver draft).Ensures around (Unmoved s) s := by
  rw [send]
  split
  · exact fun _ => ⟨rfl, rfl⟩
  · refine unmoved_after (idle_requireUser receiver) fun _ => unmoved_of_decided ?_ s
    refine .bind (decided_newIssue draft) fun sent => .bind (decided_newCounterpart sent) fun received => ?_
    refine .bind (decided_saveIssue sent) fun _ => .bind (decided_saveIssue received) fun _ => ?_
    exact .bind decided_updateLists fun _ => .bind decided_updateLists fun _ => decided_pure _

theorem unmoved_take (id : IssueId) : (take limits user id).Ensures around (Unmoved s) s := by
  refine unmoved_after (idle_requireIssue id) fun issue => unmoved_before unmoved_updateLists fun located => ?_
  exact .bind (decided_dissolve user _) fun _ => .bind (decided_deleteIssue id) fun _ => decided_pure _

theorem unmoved_accept (id : IssueId) : (accept limits user id).Ensures around (Unmoved s) s := by
  refine unmoved_after (idle_requireIssue id) fun issue => unmoved_before unmoved_updateLists fun entry => ?_
  exact .bind (decided_livingCounterpart user entry) fun _ => decided_pure _

/-- A bump that is refused by the receiver's lists leaves them as they are. -/
theorem unmoved_bump (id : IssueId) : (bump limits user id).Ensures around (Unmoved s) s := by
  refine unmoved_after (idle_loadLists user) fun lists => unmoved_after (idle_ofExcept _) fun entry => ?_
  cases entry.link with
  | none => exact fun _ => ⟨rfl, rfl⟩
  | some link =>
    refine unmoved_after (idle_requireIssue id) fun issue => ensures_bind (ensures_updateLists ?_ ?_)
    · exact fun _ _ _ => ⟨rfl, rfl⟩
    · intro revised moved _ hbumped
      cases moved with
      | true => trivial
      | false =>
        have hmoved := congrArg Prod.snd (Except.ok.inj hbumped)
        have hrevised : _ = revised := congrArg Prod.fst (Except.ok.inj hbumped)
        rw [bumpEntry_refused hmoved] at hrevised
        rw [← hrevised, Store.withLists_self]
        exact fun _ => ⟨rfl, rfl⟩

theorem editedRecord_eq_ok {key : String} {change : Edit} {raw new message : Option String}
    (h : editedRecord key change raw = .ok (new, message)) :
    (new = raw ∧ message = none) ∨
      ∃ issue : Issue, new = some (Issue.codec.encode (issue.edited change)) ∧ message = some issue.message := by
  cases raw with
  | none =>
    cases h
    exact .inl ⟨rfl, rfl⟩
  | some raw =>
    obtain ⟨issue, -, h⟩ := ok_of_bind h
    obtain ⟨hnew, hmessage⟩ := Prod.mk.inj (Except.ok.inj h)
    exact .inr ⟨issue, hnew.symm, hmessage.symm⟩

/-- A record that is missing is not written. -/
theorem unmoved_edit (id : IssueId) (change : Edit) :
    (edit limits user id change).Ensures around (Unmoved s) s := by
  refine unmoved_after (idle_loadLists user) fun lists => unmoved_after (idle_ofExcept _) fun located => ?_
  apply ensures_bind
  apply ensures_update
  · exact fun _ _ _ => ⟨rfl, rfl⟩
  · intro new message hedited
    obtain ⟨rfl, rfl⟩ | ⟨issue, -, rfl⟩ := editedRecord_eq_ok hedited
    · rw [Store.rewrite_self]
      exact fun _ => ⟨rfl, rfl⟩
    · refine unmoved_of_decided (.bind (decided_livingCounterpart user _) fun counterpart => ?_) _
      exact .bind (decided_editCounterpart change counterpart) fun _ => decided_pure _

theorem unmoved_keep (issue : Issue) (id : IssueId) :
    (keep limits user issue id).Ensures around (Unmoved s) s :=
  unmoved_before unmoved_updateLists fun old => .bind (decided_dissolve user old) fun _ => decided_pure _

/-- The record of the copy goes again when the holder's lists refuse the change. -/
theorem unmoved_handOver (hfresh : s.store.find? (Issue.key (around.supply s.drawn)) = none)
    (newOwner : UserId) (issue : Issue) (id : IssueId) :
    (handOver limits user newOwner issue id).Ensures around (Unmoved s) s := by
  refine ensures_bind (ensures_bind (ensures_freshId (ensures_bind (ensures_saveIssue ?_))))
  refine ensures_bind (ensures_attempt (ensures_updateLists (fun failure _ => ?_) fun revised old _ _ => ?_))
  · refine ensures_bind (ensures_deleteIssue fun _ => ⟨?_, rfl⟩)
    exact Table.erase_insert hfresh _
  · refine unmoved_of_decided (.bind (decided_dissolve user old) fun _ => ?_) _
    exact .bind decided_updateLists fun _ => decided_pure _

theorem unmoved_reassign (hfresh : s.store.find? (Issue.key (around.supply s.drawn)) = none)
    (id : IssueId) (newOwner : UserId) :
    (reassign limits id user newOwner).Ensures around (Unmoved s) s := by
  refine unmoved_after (idle_requireIssue id) fun issue => ?_
  split
  · exact unmoved_keep issue id
  · exact unmoved_after (idle_requireUser newOwner) fun _ => unmoved_handOver hfresh newOwner issue id

theorem unmoved_action (hfresh : s.store.find? (Issue.key (around.supply s.drawn)) = none)
    (limits : Limits) {action : Action} (hpop : ∀ user, action ≠ .pop user) :
    (action.program limits).Ensures around (Unmoved s) s := by
  have hreport {β : Type} {operation : Operation β} (h : operation.Ensures around (Unmoved s) s) :
      (operation >>= fun _ => pure ()).Ensures around (Unmoved s) s :=
    unmoved_before h fun _ => decided_pure ()
  cases action with
  | add user draft => exact hreport (unmoved_of_decided (decided_add user draft) s)
  | send user receiver draft => exact hreport (unmoved_send user receiver draft)
  | pop user => exact absurd rfl (hpop user)
  | complete user id => exact hreport (unmoved_take id)
  | accept user id => exact hreport (unmoved_accept id)
  | remove user id => exact hreport (unmoved_before (unmoved_take id) fun _ => decided_pure _)
  | bump user id => exact hreport (unmoved_bump id)
  | edit user id change => exact hreport (unmoved_edit id change)
  | reassign user id newOwner => exact hreport (unmoved_reassign hfresh id newOwner)

/-! ## The first todo -/

/-- No entry of the user's own list has a record, and emptying the list is all that is done. -/
structure Emptied (user : UserId) (s s' : Scene) : Prop where
  unrecorded : ∀ entry ∈ (s.store.lists user).my, s.store.find? (Issue.key entry.id) = none
  store : ∀ key, s'.store.find? key =
    (s.store.withLists user ((s.store.lists user).withList .my [])).find? key
  sent : s'.sent = s.sent

theorem takeHead_eq_error {lists : UserLists} {failure : OperationError}
    (h : takeHead lists = .error failure) : failure = .absent .emptyList ∧ lists.my = [] := by
  obtain ⟨my, inbox, out⟩ := lists
  cases my with
  | nil =>
    cases h
    exact ⟨rfl, rfl⟩
  | cons entry rest => cases h

theorem my_of_takeHead {lists revised : UserLists} {entry : Entry} (h : takeHead lists = .ok (revised, entry)) :
    lists.my = entry :: revised.my ∧ revised = lists.withList .my revised.my := by
  obtain ⟨my, inbox, out⟩ := lists
  cases my with
  | nil => cases h
  | cons first rest =>
    cases h
    exact ⟨rfl, rfl⟩

/-- The last of the writes that empty the own list is the one that counts. -/
theorem find?_emptied (store : Store) (user : UserId) {revised : UserLists} {entry : Entry}
    (h : takeHead (store.lists user) = .ok (revised, entry)) (key : String) :
    ((store.withLists user revised).withLists user (revised.withList .my [])).find? key =
      (store.withLists user ((store.lists user).withList .my [])).find? key := by
  obtain ⟨hmy, hrevised⟩ := my_of_takeHead h
  have hsame : (store.lists user).withList .my [] = revised.withList .my [] := by
    rw [hrevised]
    rfl
  have hne : revised.withList .my [] ≠ store.lists user := by
    intro heq
    rw [← heq] at hmy
    cases hmy
  rw [hsame]
  by_cases hkey : key = UserLists.key user
  · subst hkey
    have hlists : (store.withLists user revised).lists user = revised := by
      rw [Store.lists_withLists, Function.update_self]
    rw [Store.find?_withLists_self, Store.find?_withLists_self, Store.find?_withLists_self, if_neg hne, hlists]
    split
    · next hempty => rw [if_neg (hempty ▸ hne), hempty]
    · rfl
  · rw [Store.find?_withLists_of_ne hkey, Store.find?_withLists_of_ne hkey, Store.find?_withLists_of_ne hkey]

/-- A round that has dropped a head, and the rounds after it. -/
theorem Emptied.after_head {s' : Scene} {revised : UserLists} {entry : Entry}
    (h : takeHead (s.store.lists user) = .ok (revised, entry))
    (hrecord : s.store.find? (Issue.key entry.id) = none)
    (hlater : Emptied user (s.withStore (s.store.withLists user revised)) s') : Emptied user s s' := by
  obtain ⟨hmy, -⟩ := my_of_takeHead h
  have hlists : (s.store.withLists user revised).lists user = revised := by
    rw [Store.lists_withLists, Function.update_self]
  obtain ⟨hunrecorded, hstore, hsent⟩ := hlater
  rw [Scene.withStore_store, hlists] at hunrecorded hstore
  refine ⟨fun other hother => ?_, fun key => (hstore key).trans (find?_emptied s.store user h key), hsent⟩
  rw [hmy] at hother
  rcases List.mem_cons.1 hother with rfl | hother
  · exact hrecord
  · rw [← hunrecorded other hother, Store.find?_withLists_issue]

/-- A failure that the caller can mend is that of a list without a todo. -/
def Drained (user : UserId) (s : Scene) : Result OperationError Popped
  | .error failure, s' => failure.isUserError = true → failure = .absent .emptyList ∧ Emptied user s s'
  | _, _ => True

theorem drained_of_decided {program : Operation Popped} (h : program.Decided around) (s' : Scene) :
    program.Ensures around (Drained user s) s' := by
  refine ensures_mono (h s') fun outcome s'' hend => ?_
  cases outcome with
  | ok value => trivial
  | error failure => exact fun hmends => nomatch (hend failure rfl).symm.trans hmends
  | unfinished => trivial

/-- Lists that cannot be read are not the caller's to mend. -/
theorem ensures_updateLists_of_unreadable (h : ¬ s.store.ListsReadable user)
    {change : UserLists → Except OperationError (UserLists × α)} :
    (updateLists limits user change).Ensures around
      (fun outcome _ => ∃ failure, outcome = .error failure ∧ failure.isUserError = false) s := by
  have hlists : ∃ failure,
      listsOfDocument (UserLists.key user) (s.store.find? (UserLists.key user)) = .error failure := by
    cases hdocument : listsOfDocument (UserLists.key user) (s.store.find? (UserLists.key user)) with
    | error failure => exact ⟨failure, rfl⟩
    | ok lists =>
      refine absurd ?_ h
      rw [Store.ListsReadable, Store.lists, hdocument]
      rfl
  obtain ⟨failure, hfailure⟩ := hlists
  apply ensures_update
  · intro failure' hfailed
    rw [revisedLists, hfailure] at hfailed
    cases hfailed
    exact ⟨failure, rfl, listsOfDocument_eq_error hfailure⟩
  · intro new outcome hdone
    rw [revisedLists, hfailure] at hdone
    cases hdone

/-- A record is loaded, or is not there, or cannot be read. -/
theorem ensures_loadIssue_of_any {result : Result OperationError (Option Issue)}
    (hmissing : s.store.find? (Issue.key id) = none → result (.ok none) s)
    (hfound : ∀ issue, result (.ok (some issue)) s)
    (hfailed : ∀ failure : OperationError, failure.isUserError = false → result (.error failure) s) :
    (loadIssue id).Ensures around result s := by
  refine ensures_bind (ensures_get ?_)
  rw [andThen]
  cases hraw : s.store.find? (Issue.key id) with
  | none => exact hmissing hraw
  | some raw =>
    refine ensures_bind (ensures_ofExcept (fun issue _ => hfound issue) fun failure hunreadable => ?_)
    exact hfailed failure (recordOfDocument_eq_error hunreadable)

theorem drained_popWithin (rounds : Nat) :
    (popWithin limits user rounds).Ensures around (Drained user s) s := by
  -- every round drops a head without a record, or is the last one
  induction rounds generalizing s with
  | zero => trivial
  | succ rounds ih =>
    by_cases hreadable : s.store.ListsReadable user
    · apply ensures_bind
      apply ensures_updateLists
      · intro failure hfailed hmends
        obtain ⟨rfl, hmy⟩ := takeHead_eq_error (hfailed hreadable)
        refine ⟨rfl, fun entry hentry => ?_, fun key => ?_, rfl⟩
        · rw [hmy] at hentry
          cases hentry
        · have hsame : (s.store.lists user).withList .my [] = s.store.lists user := by
            rw [← hmy]
            rfl
          rw [hsame, Store.withLists_self]
      · intro revised entry _ htaken
        apply ensures_bind
        apply ensures_loadIssue_of_any
        · intro hrecord
          rw [Scene.withStore_store, Store.find?_withLists_issue] at hrecord
          refine ensures_mono ih fun outcome s' hlater => ?_
          cases outcome with
          | ok popped => trivial
          | error failure => exact fun hmends => (hlater hmends).imp_right (.after_head htaken hrecord)
          | unfinished => trivial
        · intro issue
          refine drained_of_decided (.bind (decided_dissolve user entry) fun _ => ?_) _
          exact .bind (decided_deleteIssue _) fun _ => decided_pure _
        · exact fun failure hunmended hmends => nomatch hunmended.symm.trans hmends
    · apply ensures_bind
      refine ensures_mono (ensures_updateLists_of_unreadable hreadable) fun outcome s' hend => ?_
      obtain ⟨failure, rfl, hunmended⟩ := hend
      exact fun hmends => nomatch hunmended.symm.trans hmends

theorem drained_pop (limits : Limits) (user : UserId) :
    (pop limits user).Ensures around (Drained user s) s := by
  rw [pop]
  exact drained_popWithin limits.rounds

end Exchange

end SharedTodo
