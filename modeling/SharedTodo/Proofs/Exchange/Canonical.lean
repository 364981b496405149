import SharedTodo.Proofs.Exchange.Access
import SharedTodo.Proofs.Exchange.Sequential

/-!
# One form for the same lists

The documents of records and lists come from one writer each, so that equal lists are stored as equal texts,
and as no text when they are empty. That is not said of a store in which lists were written by others, but of
every store that operations have made from an empty one (`Performed.canonical`). What an operation writes is
read off its tree, whatever its calls are answered (`Program.Writes`).
-/

namespace SharedTodo

/-- What an operation may leave under a key: the document of some lists, or any record or none. -/
inductive Formed : String → Option String → Prop where
  | lists (user : UserId) (lists : UserLists) : Formed (UserLists.key user) (Exchange.documentOfLists lists)
  | record (id : IssueId) (new : Option String) : Formed (Issue.key id) new

namespace StoreCall

/-- The call leaves nothing ill-formed. -/
def Forms : StoreCall → Prop
  | get _ => True
  | set key value => Formed key (some value)
  | delete key => Formed key none
  | compareAndSet key _ new => Formed key new

end StoreCall

namespace Store

variable {store : Store}

/-- Stored lists have the form in which operations write them. -/
def Canonical (store : Store) : Prop :=
  ∀ user, store.find? (UserLists.key user) = Exchange.documentOfLists (store.lists user)

theorem canonical_empty : Canonical Table.empty :=
  fun _ => rfl

theorem canonical_iff :
    store.Canonical ↔ ∀ user, ∃ lists, store.find? (UserLists.key user) = Exchange.documentOfLists lists := by
  constructor
  · exact fun h user => ⟨_, h user⟩
  · intro h user
    obtain ⟨lists, hlists⟩ := h user
    rw [Store.lists, hlists, listsOfDocument_documentOfLists]
    rfl

theorem Canonical.assign (h : store.Canonical) {key : String} {new : Option String} (hnew : Formed key new) :
    Canonical (store.assign key new) := by
  refine canonical_iff.2 fun user => ?_
  rw [Table.find?_assign]
  split
  · next hkey =>
    cases hnew with
    | lists other lists => exact ⟨lists, rfl⟩
    | record id new => exact absurd hkey (UserLists.key_ne_key user id)
  · exact ⟨_, h user⟩

theorem Canonical.perform (h : store.Canonical) {call : StoreCall} (hcall : call.Forms) :
    Canonical (Store.perform call store).2 := by
  cases call with
  | get key => exact h
  | set key value => exact h.assign hcall
  | delete key => exact h.assign hcall
  | compareAndSet key expected new =>
    by_cases hseen : store.find? key = expected
    · simpa [Store.perform, hseen] using h.assign hcall
    · simpa [Store.perform, hseen] using h

end Store

namespace Program

variable {ε δ α β : Type}

/-- Whatever the calls of the program are answered, it writes nothing ill-formed. -/
def Writes : Program ε α → Prop
  | ended _ => True
  | call c next => (∀ access, c = .store access → access.Forms) ∧ ∀ reply, (next reply).Writes

theorem writes_pure (value : α) : (pure value : Program ε α).Writes :=
  trivial

theorem writes_fail (failure : ε) : (fail failure : Program ε α).Writes :=
  trivial

theorem writes_ofExcept (value : Except ε α) : (ofExcept value).Writes :=
  trivial

theorem Writes.bind {program : Program ε α} {next : α → Program ε β} (h : program.Writes)
    (hnext : ∀ value, (next value).Writes) : (program >>= next).Writes := by
  induction program with
  | ended outcome =>
    cases outcome with
    | ok value => exact hnext value
    | error failure => trivial
    | unfinished => trivial
  | call c rest ih => exact ⟨h.1, fun reply => ih reply (h.2 reply)⟩

theorem Writes.attempt {program : Program ε α} (h : program.Writes) :
    (program.attempt : Program δ (Except ε α)).Writes := by
  induction program with
  | ended outcome => cases outcome <;> trivial
  | call c rest ih => exact ⟨h.1, fun reply => ih reply (h.2 reply)⟩

theorem writes_perform {c : Call} (h : ∀ access, c = .store access → access.Forms) :
    (perform c : Program ε c.Reply).Writes :=
  ⟨h, fun _ => trivial⟩

section

variable [OfStorage ε]

theorem writes_storeCall {access : StoreCall} (h : access.Forms) :
    (storeCall access : Program ε access.Answer).Writes := by
  refine .bind (writes_perform fun access' heq => ?_) fun reply => ?_
  · cases heq
    exact h
  · cases reply with
    | ok answer => exact writes_pure answer
    | error failure => exact writes_fail _

/-- An update writes what it computes, unless that is there already. -/
theorem writes_update {key : String} {limit : Nat} {compute : Option String → Except ε (Option String × α)}
    (h : ∀ raw new outcome, compute raw = .ok (new, outcome) → new ≠ raw → Formed key new) :
    (update key limit compute).Writes := by
  rw [update]
  induction attempts limit with
  | zero => exact writes_fail _
  | succ left ih =>
    refine .bind (writes_storeCall trivial) fun raw => ?_
    cases hcompute : compute raw with
    | error failure => exact writes_fail failure
    | ok computed =>
      obtain ⟨new, outcome⟩ := computed
      show Writes (if new = raw then _ else _)
      split
      · exact writes_pure outcome
      · next hne =>
        refine .bind (writes_storeCall (h raw new outcome hcompute hne)) fun swapped => ?_
        cases swapped with
        | true => exact writes_pure outcome
        | false => exact ih

end

end Program

namespace Exchange

open Program

variable {α : Type} {limits : Limits} {user : UserId} {id : IssueId} {s s' : Shared}

theorem writes_updateLists {change : UserLists → Except OperationError (UserLists × α)} :
    (updateLists limits user change).Writes := by
  refine writes_update fun raw new outcome hrevised hne => ?_
  obtain ⟨lists, revised, -, -, rfl⟩ := revisedLists_eq_ok hrevised
  split at hne
  · exact absurd rfl hne
  · next hchanged =>
    rw [if_neg hchanged]
    exact .lists user revised

theorem writes_get (key : String) : (Program.get key : Operation (Option String)).Writes :=
  writes_storeCall trivial

theorem writes_loadLists (user : UserId) : (loadLists user).Writes :=
  .bind (writes_get _) fun _ => writes_ofExcept _

theorem writes_loadIssue (id : IssueId) : (loadIssue id).Writes := by
  refine .bind (writes_get _) fun raw => ?_
  cases raw with
  | none => exact writes_pure none
  | some raw => exact .bind (writes_ofExcept _) fun issue => writes_pure _

theorem writes_requireIssue (id : IssueId) : (requireIssue id).Writes :=
  .bind (writes_loadIssue id) fun _ => writes_ofExcept _

theorem writes_saveIssue (issue : Issue) : (saveIssue issue).Writes :=
  writes_storeCall (.record issue.id _)

theorem writes_deleteIssue (id : IssueId) : (deleteIssue id).Writes :=
  writes_storeCall (.record id none)

theorem writes_editRecord (id : IssueId) (change : Edit) : (editRecord limits id change).Writes :=
  writes_update fun _ new _ _ _ => .record id new

theorem writes_requireUser (user : UserId) : (requireUser user).Writes := by
  refine .bind (.bind (writes_perform nofun) fun reply => ?_) fun found => ?_
  · cases reply with
    | ok profile => exact writes_pure profile
    | error failure => exact writes_fail _
  · cases found with
    | some profile => exact writes_pure ()
    | none => exact .bind (writes_perform nofun) fun _ => writes_fail _

theorem writes_newIssue (draft : Draft) : (newIssue draft).Writes :=
  .bind (writes_perform nofun) fun _ => .bind (writes_perform nofun) fun _ => writes_pure _

theorem writes_newCounterpart (issue : Issue) : (newCounterpart issue).Writes :=
  .bind (writes_perform nofun) fun _ => writes_pure _

theorem writes_dissolve (owner : UserId) (entry : Entry) : (dissolve limits owner entry).Writes := by
  rw [dissolve]
  split
  · exact writes_pure none
  · refine .bind writes_updateLists fun half => ?_
    cases half with
    | removed => exact .bind (writes_deleteIssue _) fun _ => writes_pure _
    | missing => exact .bind (writes_deleteIssue _) fun _ => writes_pure _
    | stale => exact writes_pure none

theorem writes_livingCounterpart (owner : UserId) (entry : Entry) :
    (livingCounterpart owner entry).Writes := by
  rw [livingCounterpart]
  split
  · exact writes_pure none
  · refine .bind (writes_loadLists _) fun lists => ?_
    split
    · exact writes_pure _
    · exact writes_pure none

theorem writes_editCounterpart (change : Edit) (link : Option Link) :
    (editCounterpart limits change link).Writes := by
  cases link with
  | none => exact writes_pure none
  | some link =>
    refine .bind (writes_editRecord link.issue change) fun message => ?_
    cases message with
    | none => exact writes_pure none
    | some message => exact writes_pure _

theorem writes_take (user : UserId) (id : IssueId) : (take limits user id).Writes :=
  .bind (writes_requireIssue id) fun _ => .bind writes_updateLists fun _ =>
    .bind (writes_dissolve user _) fun _ => .bind (writes_deleteIssue id) fun _ => writes_pure _

theorem writes_popWithin (user : UserId) (rounds : Nat) : (popWithin limits user rounds).Writes := by
  induction rounds with
  | zero => trivial
  | succ rounds ih =>
    refine .bind writes_updateLists fun entry => .bind (writes_loadIssue entry.id) fun found => ?_
    cases found with
    | none => exact ih
    | some issue =>
      exact .bind (writes_dissolve user entry) fun _ => .bind (writes_deleteIssue issue.id) fun _ => writes_pure _

theorem writes_bump (user : UserId) (id : IssueId) : (bump limits user id).Writes := by
  refine .bind (writes_loadLists user) fun lists => .bind (writes_ofExcept _) fun entry => ?_
  cases entry.link with
  | none => exact writes_fail _
  | some link =>
    refine .bind (writes_requireIssue id) fun issue => .bind writes_updateLists fun moved => ?_
    cases moved with
    | true => exact writes_pure _
    | false => exact writes_fail _

theorem writes_handOver (user newOwner : UserId) (issue : Issue) (id : IssueId) :
    (handOver limits user newOwner issue id).Writes := by
  refine .bind (writes_newCounterpart issue) fun copy => .bind (writes_saveIssue copy) fun _ => ?_
  refine .bind writes_updateLists.attempt fun replaced => ?_
  cases replaced with
  | error failure => exact .bind (writes_deleteIssue _) fun _ => writes_fail failure
  | ok old => exact .bind (writes_dissolve user old) fun _ => .bind writes_updateLists fun _ => writes_pure _

theorem writes_reassign (id : IssueId) (user newOwner : UserId) : (reassign limits id user newOwner).Writes := by
  refine .bind (writes_requireIssue id) fun issue => ?_
  split
  · exact .bind writes_updateLists fun old => .bind (writes_dissolve user old) fun _ => writes_pure _
  · exact .bind (writes_requireUser newOwner) fun _ => writes_handOver user newOwner issue id

theorem writes_send (sender receiver : UserId) (draft : Draft) : (send limits sender receiver draft).Writes := by
  rw [send]
  split
  · exact writes_fail _
  · refine .bind (writes_requireUser receiver) fun _ => .bind (writes_newIssue draft) fun sent => ?_
    refine .bind (writes_newCounterpart sent) fun received => .bind (writes_saveIssue sent) fun _ => ?_
    refine .bind (writes_saveIssue received) fun _ => .bind writes_updateLists fun _ => ?_
    exact .bind writes_updateLists fun _ => writes_pure _

theorem Action.writes (action : Action) (limits : Limits) : (action.program limits).Writes := by
  have hreport {β : Type} {operation : Operation β} (h : operation.Writes) :
      (operation >>= fun _ => pure ()).Writes :=
    h.bind fun _ => writes_pure ()
  cases action with
  | add user draft =>
    exact hreport (.bind (writes_newIssue draft) fun _ => .bind (writes_saveIssue _) fun _ =>
      .bind writes_updateLists fun _ => writes_pure _)
  | send user receiver draft => exact hreport (writes_send user receiver draft)
  | pop user => exact hreport (writes_popWithin user _)
  | complete user id => exact hreport (writes_take user id)
  | accept user id =>
    exact hreport (.bind (writes_requireIssue id) fun _ => .bind writes_updateLists fun entry =>
      .bind (writes_livingCounterpart user entry) fun _ => writes_pure _)
  | remove user id => exact hreport (.bind (writes_take user id) fun _ => writes_pure _)
  | bump user id => exact hreport (writes_bump user id)
  | edit user id change =>
    exact hreport (.bind (writes_loadLists user) fun _ => .bind (writes_ofExcept _) fun located =>
      .bind (writes_editRecord id change) fun _ => .bind (writes_ofExcept _) fun _ =>
      .bind (writes_livingCounterpart user _) fun counterpart =>
      .bind (writes_editCounterpart change counterpart) fun _ => writes_pure _)
  | reassign user id newOwner => exact hreport (writes_reassign id user newOwner)

/-! ## Runs -/

/-- What is written on the way is well-formed, however far the way goes. -/
theorem Reaches.canonical {faulty : Prop} {program left : Operation α}
    (h : Reaches faulty program s left s') (hwrites : program.Writes) (hcanonical : s.store.Canonical) :
    s'.store.Canonical := by
  induction h with
  | refl program s => exact hcanonical
  | @step c next s s₁ s' reply left answer _ ih =>
    refine ih (hwrites.2 reply) ?_
    cases c with
    | store access =>
      obtain ⟨-, rfl⟩ | ⟨-, rfl, -⟩ := answer
      · exact hcanonical.perform (hwrites.1 access rfl)
      · exact hcanonical
    | freshId =>
      obtain ⟨-, rfl⟩ := answer
      exact hcanonical
    | _ =>
      obtain rfl := answer
      exact hcanonical

theorem Performed.canonical (h : Performed s) : s.store.Canonical := by
  induction h with
  | initial => exact Store.canonical_empty
  | perform before limits action run ih => exact run.canonical (action.writes limits) ih

end Exchange

end SharedTodo
