import Mathlib.Data.List.Perm.Subperm
import SharedTodo.Exchange.Change
import SharedTodo.Exchange.Create
import SharedTodo.Exchange.Finish
import SharedTodo.Exchange.Reassign
import SharedTodo.Proofs.Exchange.Access

/-!
# What operations add to received todos

Only a new todo for a user and a todo given to them add to what they have received. All other operations by
somebody else leave the user's received todos as they are, bring one of them to the head, or take one away.
An operation that adds nothing keeps a relation between scenes: of the received todos of one user there is
nothing new (`Scene.Spares`).
-/

namespace SharedTodo

open Program

/-! ## Lists -/

namespace UserLists

theorem inbox_erase_sublist (lists : UserLists) (kind : ListKind) (id : IssueId) :
    (lists.erase kind id).inbox.Sublist lists.inbox := by
  cases kind with
  | inbox => exact List.eraseP_sublist
  | my => exact .refl _
  | out => exact .refl _

theorem cons_eraseP_perm {p : Entry → Bool} {entry : Entry} {entries : List Entry}
    (h : entries.find? p = some entry) : (entry :: entries.eraseP p).Perm entries := by
  induction entries with
  | nil => exact nomatch h
  | cons first rest ih =>
    cases hp : p first with
    | true =>
      rw [List.find?_cons_of_pos hp] at h
      cases h
      rw [List.eraseP_cons_of_pos hp]
    | false =>
      rw [List.find?_cons_of_neg (by simp [hp])] at h
      rw [List.eraseP_cons_of_neg (by simp [hp])]
      exact (List.Perm.swap _ _ _).trans ((ih h).cons first)

/-- An entry that moves to the head of a list of received todos is none that comes. -/
theorem inbox_moveToFront_perm {lists moved : UserLists} {id : IssueId}
    (h : lists.moveToFront .inbox id = some moved) : moved.inbox.Perm lists.inbox := by
  obtain ⟨⟨entry, rest⟩, hremoved, rfl⟩ := Option.map_eq_some_iff.1 h
  obtain ⟨found, hfound, hpair⟩ := Option.map_eq_some_iff.1 hremoved
  cases hpair
  exact cons_eraseP_perm hfound

end UserLists

namespace Exchange

theorem inbox_takeCounterpart_sublist (owner : UserId) (own foreign : IssueId) (lists : UserLists) :
    (takeCounterpart owner own foreign lists).1.inbox.Sublist lists.inbox := by
  rw [takeCounterpart]
  split
  · exact .refl _
  · split
    · exact lists.inbox_erase_sublist _ _
    · exact .refl _

theorem inbox_bumpEntry_perm (sender : UserId) (sent received : IssueId) (lists : UserLists) :
    (bumpEntry sender sent received lists).1.inbox.Perm lists.inbox := by
  rw [bumpEntry]
  split
  · split
    · next hmoved => exact UserLists.inbox_moveToFront_perm hmoved
    · exact .refl _
  · exact .refl _

end Exchange

/-! ## Nothing new -/

/-- Nothing has come to the received todos of the user. -/
def Scene.Spares (user : UserId) (s s' : Scene) : Prop :=
  ((s'.store.lists user).inbox).Subperm (s.store.lists user).inbox

namespace Program

variable {ε δ α β : Type} {around : Surroundings} {spared : UserId}

theorem spares_of_aside {program : Program ε α} (h : program.Keeps around Scene.Aside) :
    program.Keeps around (Scene.Spares spared) := by
  refine h.mono fun s s' haside => ?_
  rw [Scene.Spares, Store.lists_eq (haside.lists spared)]

theorem spares_of_idle {program : Program ε α} (h : program.Idle around) :
    program.Keeps around (Scene.Spares spared) :=
  spares_of_aside (aside_of_idle h)

theorem spares_bind {program : Program ε α} {next : α → Program ε β}
    (h : program.Keeps around (Scene.Spares spared))
    (hnext : ∀ value, (next value).Keeps around (Scene.Spares spared)) :
    (program >>= next).Keeps around (Scene.Spares spared) :=
  keeps_bind (fun h h' => h'.trans h) h hnext

end Program

/-! ## Operations -/

namespace Exchange

variable {α : Type} {around : Surroundings} {spared user other : UserId} {limits : Limits}

theorem spares_updateLists {change : UserLists → Except OperationError (UserLists × α)}
    (hchange : other = spared → ∀ lists revised outcome, change lists = .ok (revised, outcome) →
      revised.inbox.Subperm lists.inbox) :
    (updateLists limits other change).Keeps around (Scene.Spares spared) := by
  refine fun s => ensures_updateLists (fun _ _ => List.Subperm.refl _) fun revised outcome _ hrevised => ?_
  rw [Scene.Spares, Scene.withStore_store, Store.lists_withLists]
  by_cases hother : other = spared
  · rw [← hother, Function.update_self]
    exact hchange hother _ revised outcome hrevised
  · rw [Function.update_of_ne (Ne.symm hother)]

theorem spares_updateLists_of_ne {change : UserLists → Except OperationError (UserLists × α)}
    (h : other ≠ spared) : (updateLists limits other change).Keeps around (Scene.Spares spared) :=
  spares_updateLists fun hother => absurd hother h

theorem spares_pushEntry {kind : ListKind} (h : other = spared → kind ≠ .inbox) (entry : Entry) :
    (pushEntry limits other kind entry).Keeps around (Scene.Spares spared) := by
  refine spares_updateLists fun hother lists revised outcome hrevised => ?_
  cases hrevised
  rw [show (lists.pushed kind entry).inbox = lists.inbox from lists.list_pushed_of_ne (h hother).symm entry]

theorem spares_of_lists {program : Operation α}
    (h : ∀ s, program.Ensures around (fun _ s' => s'.store.lists = s.store.lists) s) :
    program.Keeps around (Scene.Spares spared) := by
  refine fun s => ensures_mono (h s) fun _ s' hlists => ?_
  rw [Scene.Spares, hlists]

theorem spares_saveIssue (issue : Issue) : (saveIssue issue).Keeps around (Scene.Spares spared) :=
  spares_of_lists fun s => ensures_saveIssue (s.store.lists_insert_issue _ _)

theorem spares_deleteIssue (id : IssueId) : (deleteIssue id).Keeps around (Scene.Spares spared) :=
  spares_of_lists fun s => ensures_deleteIssue (s.store.lists_erase_issue id)

theorem spares_editRecord (id : IssueId) (edit : Edit) :
    (editRecord limits id edit).Keeps around (Scene.Spares spared) :=
  spares_of_lists fun s =>
    ensures_update (fun _ _ => rfl) fun new _ _ => s.store.lists_rewrite_issue id new

theorem spares_newIssue (draft : Draft) : (newIssue draft).Keeps around (Scene.Spares spared) :=
  spares_of_lists fun _ => ensures_bind (ensures_freshId (ensures_bind (ensures_now fun _ => rfl)))

theorem spares_newCounterpart (issue : Issue) : (newCounterpart issue).Keeps around (Scene.Spares spared) :=
  spares_of_lists fun _ => ensures_bind (ensures_freshId rfl)

theorem spares_dissolve (owner : UserId) (entry : Entry) :
    (dissolve limits owner entry).Keeps around (Scene.Spares spared) := by
  rw [dissolve]
  split
  · exact spares_of_idle (idle_pure none)
  · refine spares_bind (spares_updateLists fun _ lists revised half hrevised => ?_) fun half => ?_
    · have hrevised := congrArg Prod.fst (Except.ok.inj hrevised)
      subst hrevised
      exact (inbox_takeCounterpart_sublist _ _ _ lists).subperm
    · cases half with
      | removed => exact spares_bind (spares_deleteIssue _) fun _ => spares_of_idle (idle_pure _)
      | missing => exact spares_bind (spares_deleteIssue _) fun _ => spares_of_idle (idle_pure _)
      | stale => exact spares_of_idle (idle_pure _)

theorem spares_add (user : UserId) (draft : Draft) :
    (add limits user draft).Keeps around (Scene.Spares spared) :=
  spares_bind (spares_newIssue draft) fun _ => spares_bind (spares_saveIssue _) fun _ =>
    spares_bind (spares_pushEntry (fun _ => by decide) _) fun _ => spares_of_idle (idle_pure _)

theorem spares_send (sender : UserId) {receiver : UserId} (h : receiver ≠ spared) (draft : Draft) :
    (send limits sender receiver draft).Keeps around (Scene.Spares spared) := by
  rw [send]
  split
  · exact spares_of_idle (idle_fail _)
  · exact spares_bind (spares_of_idle (idle_requireUser receiver)) fun _ =>
      spares_bind (spares_newIssue draft) fun _ => spares_bind (spares_newCounterpart _) fun _ =>
      spares_bind (spares_saveIssue _) fun _ => spares_bind (spares_saveIssue _) fun _ =>
      spares_bind (spares_pushEntry (fun _ => by decide) _) fun _ =>
      spares_bind (spares_pushEntry (fun hreceiver => absurd hreceiver h) _) fun _ =>
      spares_of_idle (idle_pure _)

section

variable (hne : user ≠ spared)

include hne

theorem spares_take (id : IssueId) : (take limits user id).Keeps around (Scene.Spares spared) :=
  spares_bind (spares_of_idle (idle_requireIssue id)) fun _ =>
    spares_bind (spares_updateLists_of_ne hne) fun _ => spares_bind (spares_dissolve user _) fun _ =>
    spares_bind (spares_deleteIssue id) fun _ => spares_of_idle (idle_pure _)

theorem spares_remove (id : IssueId) : (remove limits user id).Keeps around (Scene.Spares spared) :=
  spares_bind (spares_take hne id) fun _ => spares_of_idle (idle_pure _)

theorem spares_popWithin (rounds : Nat) :
    (popWithin limits user rounds).Keeps around (Scene.Spares spared) := by
  induction rounds with
  | zero => exact fun _ => List.Subperm.refl _
  | succ rounds ih =>
    refine spares_bind (spares_updateLists_of_ne hne) fun entry => ?_
    refine spares_bind (spares_of_idle (idle_loadIssue entry.id)) fun found => ?_
    cases found with
    | none => exact ih
    | some issue =>
      exact spares_bind (spares_dissolve user entry) fun _ =>
        spares_bind (spares_deleteIssue _) fun _ => spares_of_idle (idle_pure _)

theorem spares_accept (id : IssueId) : (accept limits user id).Keeps around (Scene.Spares spared) :=
  spares_bind (spares_of_idle (idle_requireIssue id)) fun _ =>
    spares_bind (spares_updateLists_of_ne hne) fun entry =>
    spares_bind (spares_of_idle (idle_livingCounterpart user entry)) fun _ => spares_of_idle (idle_pure _)

theorem spares_keep (issue : Issue) (id : IssueId) :
    (keep limits user issue id).Keeps around (Scene.Spares spared) :=
  spares_bind (spares_updateLists_of_ne hne) fun _ => spares_bind (spares_dissolve user _) fun _ =>
    spares_of_idle (idle_pure _)

theorem spares_handOver {newOwner : UserId} (h : newOwner ≠ spared) (issue : Issue) (id : IssueId) :
    (handOver limits user newOwner issue id).Keeps around (Scene.Spares spared) := by
  refine spares_bind (spares_newCounterpart issue) fun copy => spares_bind (spares_saveIssue copy) fun _ => ?_
  refine spares_bind (keeps_attempt (spares_updateLists_of_ne hne)) fun changed => ?_
  cases changed with
  | error failure => exact spares_bind (spares_deleteIssue _) fun _ => spares_of_idle (idle_fail _)
  | ok old =>
    exact spares_bind (spares_dissolve user old) fun _ =>
      spares_bind (spares_pushEntry (fun howner => absurd howner h) _) fun _ => spares_of_idle (idle_pure _)

theorem spares_reassign {newOwner : UserId} (h : newOwner ≠ spared) (id : IssueId) :
    (reassign limits id user newOwner).Keeps around (Scene.Spares spared) := by
  refine spares_bind (spares_of_idle (idle_requireIssue id)) fun issue => ?_
  split
  · exact spares_keep hne issue id
  · exact spares_bind (spares_of_idle (idle_requireUser newOwner)) fun _ => spares_handOver hne h issue id

end

theorem spares_bump (user : UserId) (id : IssueId) :
    (bump limits user id).Keeps around (Scene.Spares spared) := by
  refine spares_bind (spares_of_idle (idle_loadLists user)) fun lists => ?_
  refine spares_bind (spares_of_idle (idle_ofExcept _)) fun entry => ?_
  split
  · exact spares_of_idle (idle_fail _)
  · refine spares_bind (spares_of_idle (idle_requireIssue id)) fun issue => ?_
    refine spares_bind (spares_updateLists fun _ lists revised moved hrevised => ?_) fun moved => ?_
    · have hrevised := congrArg Prod.fst (Except.ok.inj hrevised)
      subst hrevised
      exact (inbox_bumpEntry_perm _ _ _ lists).subperm
    · cases moved with
      | true => exact spares_of_idle (idle_pure _)
      | false => exact spares_of_idle (idle_fail _)

theorem spares_edit (user : UserId) (id : IssueId) (change : Edit) :
    (edit limits user id change).Keeps around (Scene.Spares spared) := by
  refine spares_bind (spares_of_idle (idle_loadLists user)) fun lists => ?_
  refine spares_bind (spares_of_idle (idle_ofExcept _)) fun located => ?_
  refine spares_bind (spares_editRecord id change) fun old => ?_
  refine spares_bind (spares_of_idle (idle_ofExcept _)) fun message => ?_
  refine spares_bind (spares_of_idle (idle_livingCounterpart user _)) fun counterpart => ?_
  refine spares_bind ?_ fun _ => spares_of_idle (idle_pure _)
  cases counterpart with
  | none => exact spares_of_idle (idle_pure none)
  | some link =>
    refine spares_bind (spares_editRecord link.issue change) fun old => ?_
    cases old with
    | none => exact spares_of_idle (idle_pure none)
    | some _ => exact spares_of_idle (idle_pure _)

end Exchange

end SharedTodo
