import SharedTodo.Proofs.Exchange.Chronicle

/-!
# Operations among other programs

Operations are not all that is done in a session: users are told, and preferences are read and written. None of
that touches lists or records, so a scene stays balanced in between (`Scene.Balanced`), and an operation leaves
it balanced as long as all identifiers that have been drawn are different.

An operation tells nobody anything. Whoever wants to know what users have been told finds it in the programs
around the operations.
-/

namespace SharedTodo

/-! ## The same lists and records -/

namespace Store

variable {store store' : Store}

theorem Consistent.of_eq (h : store.Consistent)
    (hlists : ∀ user, store'.find? (UserLists.key user) = store.find? (UserLists.key user))
    (hrecords : ∀ id, store'.find? (Issue.key id) = store.find? (Issue.key id)) : store'.Consistent := by
  have hsame : store'.lists = store.lists := funext fun user => lists_eq (hlists user)
  refine ⟨⟨⟨fun user raw hraw => ?_, fun id raw hraw => ?_⟩, ?_⟩, fun id => ?_, ?_, ?_, ?_⟩
  · exact h.unique.orderly.lists user raw ((hlists user).symm.trans hraw)
  · exact h.unique.orderly.records id raw ((hrecords id).symm.trans hraw)
  · rw [hsame]
    exact h.unique.apart
  · rw [hsame, hrecords]
    exact h.recorded id
  · rw [hsame]
    exact h.other
  · rw [hsame]
    exact h.paired
  · rw [hsame]
    exact h.unlinked

theorem Mirrored.of_eq (h : store.Mirrored)
    (hlists : ∀ user, store'.find? (UserLists.key user) = store.find? (UserLists.key user))
    (hrecords : ∀ id, store'.find? (Issue.key id) = store.find? (Issue.key id)) : store'.Mirrored := by
  intro user kind entry link held hlink
  rw [lists_eq (hlists user)] at held
  rw [record_eq (hrecords _), record_eq (hrecords _)]
  exact h user kind entry link held hlink

end Store

namespace Program

variable {ε α : Type} {around : Surroundings} {s : Scene}

/-- What holds in the end, whatever the value, holds without the value. -/
theorem ensures_discarded {program : Program ε α} {ends : Scene → Prop}
    (h : (program >>= fun _ => pure ()).Ensures around (fun _ s' => ends s') s) :
    program.Ensures around (fun _ s' => ends s') s := by
  induction program generalizing s with
  | ended outcome => cases outcome <;> exact h
  | call c next ih => exact fun reply s' hreplies => ih reply (h reply s' hreplies)

/-- Identifiers that have been drawn stay drawn. -/
theorem drawn_le (program : Program ε α) : program.Keeps around fun s s' => s.drawn ≤ s'.drawn := by
  intro s
  induction program generalizing s with
  | ended outcome => exact Nat.le_refl _
  | call c next ih =>
    intro reply s₁ hreplies
    have hnone : ∀ id ∈ ([] : List IssueId), Exchange.Drew around s id := nofun
    obtain ⟨hle, -⟩ := Exchange.exists_answers hreplies hnone
    exact ensures_mono (ih reply s₁) fun _ _ hle' => Nat.le_trans hle hle'

/-- An update of a document tells nobody anything. -/
theorem untold_update [OfStorage ε] (key : String) (limit : Nat)
    (compute : Option String → Except ε (Option String × α)) :
    (update key limit compute).Retains around Scene.sent :=
  fun _ => ensures_update (fun _ _ => rfl) fun _ _ _ => rfl

/-- Nobody is told anything while notifications do not arrive. -/
theorem untold_of_down (h : around.delivers = false) (program : Program ε α) :
    program.Retains around Scene.sent := by
  intro s
  induction program generalizing s with
  | ended outcome => exact rfl
  | call c next ih =>
    intro reply s₁ hreplies
    have hsent : s₁.sent = s.sent := by
      cases c with
      | store call => rw [hreplies.2, Scene.withStore]
      | findById user => rw [hreplies.2]
      | findByUsername username => rw [hreplies.2]
      | freshId => rw [hreplies.2]
      | notify notification =>
        cases hreplies
        rw [Surroundings.notified, h, if_neg (by decide)]
      | _ =>
        cases hreplies
        rfl
    exact ensures_mono (ih reply s₁) fun _ _ hlater => hlater.trans hsent

end Program

/-! ## Operations tell nobody -/

namespace Exchange

open Program

variable {α : Type} {around : Surroundings} {limits : Limits} {user : UserId}

theorem untold_updateLists (user : UserId) (change : UserLists → Except OperationError (UserLists × α)) :
    (updateLists limits user change).Retains around Scene.sent :=
  untold_update _ _ _

theorem untold_pushEntry (user : UserId) (kind : ListKind) (entry : Entry) :
    (pushEntry limits user kind entry).Retains around Scene.sent :=
  untold_updateLists user _

theorem untold_editRecord (id : IssueId) (change : Edit) :
    (editRecord limits id change).Retains around Scene.sent :=
  untold_update _ _ _

theorem untold_saveIssue (issue : Issue) : (saveIssue issue).Retains around Scene.sent :=
  fun _ => ensures_saveIssue rfl

theorem untold_deleteIssue (id : IssueId) : (deleteIssue id).Retains around Scene.sent :=
  fun _ => ensures_deleteIssue rfl

theorem untold_newIssue (draft : Draft) : (newIssue draft).Retains around Scene.sent :=
  fun _ => ensures_bind (ensures_freshId (ensures_bind (ensures_now fun _ => rfl)))

theorem untold_newCounterpart (issue : Issue) : (newCounterpart issue).Retains around Scene.sent :=
  fun _ => ensures_bind (ensures_freshId rfl)

theorem untold_dissolve (owner : UserId) (entry : Entry) :
    (dissolve limits owner entry).Retains around Scene.sent := by
  rw [dissolve]
  split
  · exact retains_pure none
  · next link _ =>
    refine retains_bind (untold_updateLists link.user _) fun half => ?_
    cases half with
    | removed => exact retains_bind (untold_deleteIssue link.issue) fun _ => retains_pure _
    | missing => exact retains_bind (untold_deleteIssue link.issue) fun _ => retains_pure _
    | stale => exact retains_pure none

theorem untold_add (draft : Draft) : (add limits user draft).Retains around Scene.sent :=
  retains_bind (untold_newIssue draft) fun issue => retains_bind (untold_saveIssue issue) fun _ =>
    retains_bind (untold_pushEntry user .my _) fun _ => retains_pure issue

theorem untold_send (receiver : UserId) (draft : Draft) :
    (send limits user receiver draft).Retains around Scene.sent := by
  rw [send]
  split
  · exact retains_of_idle (idle_fail _)
  · refine retains_bind (retains_of_idle (idle_requireUser receiver)) fun _ => ?_
    refine retains_bind (untold_newIssue draft) fun sent => ?_
    refine retains_bind (untold_newCounterpart sent) fun received => ?_
    refine retains_bind (untold_saveIssue sent) fun _ => retains_bind (untold_saveIssue received) fun _ => ?_
    exact retains_bind (untold_pushEntry user .out _) fun _ =>
      retains_bind (untold_pushEntry receiver .inbox _) fun _ => retains_pure _

theorem untold_take (id : IssueId) : (take limits user id).Retains around Scene.sent :=
  retains_bind (retains_of_idle (idle_requireIssue id)) fun _ =>
    retains_bind (untold_updateLists user _) fun located =>
    retains_bind (untold_dissolve user located.entry) fun _ =>
    retains_bind (untold_deleteIssue id) fun _ => retains_pure _

theorem untold_popWithin (rounds : Nat) : (popWithin limits user rounds).Retains around Scene.sent := by
  induction rounds with
  | zero => exact fun _ => rfl
  | succ rounds ih =>
    refine retains_bind (untold_updateLists user _) fun entry => ?_
    refine retains_bind (retains_of_idle (idle_loadIssue entry.id)) fun found => ?_
    cases found with
    | none => exact ih
    | some issue =>
      exact retains_bind (untold_dissolve user entry) fun _ =>
        retains_bind (untold_deleteIssue issue.id) fun _ => retains_pure _

theorem untold_accept (id : IssueId) : (accept limits user id).Retains around Scene.sent :=
  retains_bind (retains_of_idle (idle_requireIssue id)) fun _ =>
    retains_bind (untold_updateLists user _) fun entry =>
    retains_bind (retains_of_idle (idle_livingCounterpart user entry)) fun _ => retains_pure _

theorem untold_bump (id : IssueId) : (bump limits user id).Retains around Scene.sent := by
  refine retains_bind (retains_of_idle (idle_loadLists user)) fun lists => ?_
  refine retains_bind (retains_of_idle (idle_ofExcept _)) fun entry => ?_
  split
  · exact retains_of_idle (idle_fail _)
  · next link _ =>
    refine retains_bind (retains_of_idle (idle_requireIssue id)) fun issue => ?_
    refine retains_bind (untold_updateLists link.user _) fun moved => ?_
    split
    · exact retains_pure _
    · exact retains_of_idle (idle_fail _)

theorem untold_edit (id : IssueId) (change : Edit) : (edit limits user id change).Retains around Scene.sent := by
  refine retains_bind (retains_of_idle (idle_loadLists user)) fun lists => ?_
  refine retains_bind (retains_of_idle (idle_ofExcept _)) fun located => ?_
  refine retains_bind (untold_editRecord id change) fun message => ?_
  refine retains_bind (retains_of_idle (idle_ofExcept _)) fun oldMessage => ?_
  refine retains_bind (retains_of_idle (idle_livingCounterpart user located.entry)) fun counterpart => ?_
  refine retains_bind ?_ fun _ => retains_pure _
  cases counterpart with
  | none => exact retains_pure _
  | some link =>
    refine retains_bind (untold_editRecord link.issue change) fun message => ?_
    cases message <;> exact retains_pure _

theorem untold_keep (issue : Issue) (id : IssueId) :
    (keep limits user issue id).Retains around Scene.sent :=
  retains_bind (untold_updateLists user _) fun old => retains_bind (untold_dissolve user old) fun _ =>
    retains_pure _

theorem untold_handOver (newOwner : UserId) (issue : Issue) (id : IssueId) :
    (handOver limits user newOwner issue id).Retains around Scene.sent := by
  refine retains_bind (untold_newCounterpart issue) fun copy => ?_
  refine retains_bind (untold_saveIssue copy) fun _ => ?_
  refine retains_bind (keeps_attempt (untold_updateLists user _)) fun replaced => ?_
  match replaced with
  | .error failure => exact retains_bind (untold_deleteIssue copy.id) fun _ => retains_of_idle (idle_fail _)
  | .ok old =>
    exact retains_bind (untold_dissolve user old) fun _ =>
      retains_bind (untold_pushEntry newOwner .inbox _) fun _ => retains_pure _

theorem untold_reassign (newOwner : UserId) (id : IssueId) :
    (reassign limits id user newOwner).Retains around Scene.sent := by
  refine retains_bind (retains_of_idle (idle_requireIssue id)) fun issue => ?_
  split
  · exact untold_keep issue id
  · exact retains_bind (retains_of_idle (idle_requireUser newOwner)) fun _ => untold_handOver newOwner issue id

theorem untold_action (action : Action) : (action.program limits).Retains around Scene.sent := by
  cases action with
  | add user draft => exact retains_bind (untold_add draft) fun _ => retains_pure _
  | send user receiver draft => exact retains_bind (untold_send receiver draft) fun _ => retains_pure _
  | pop user => exact retains_bind (untold_popWithin limits.rounds) fun _ => retains_pure _
  | complete user id => exact retains_bind (untold_take id) fun _ => retains_pure _
  | accept user id => exact retains_bind (untold_accept id) fun _ => retains_pure _
  | remove user id =>
    exact retains_bind (retains_bind (untold_take id) fun _ => retains_pure _) fun _ => retains_pure _
  | bump user id => exact retains_bind (untold_bump id) fun _ => retains_pure _
  | edit user id change => exact retains_bind (untold_edit id change) fun _ => retains_pure _
  | reassign user id newOwner => exact retains_bind (untold_reassign newOwner id) fun _ => retains_pure _

end Exchange

/-! ## Balanced scenes -/

theorem Exchange.Unrepeated.earlier {around : Surroundings} {s s' : Scene} (h : Unrepeated around s')
    (hdrawn : s.drawn ≤ s'.drawn) : Unrepeated around s :=
  fun m n hm hn => h m n hm (Nat.lt_of_lt_of_le hn hdrawn)

/-- Identifiers that are counted are different, as long as they are not used up. -/
theorem Exchange.unrepeated_counted {around : Surroundings} {s : Scene} (h : around.supply = World.counted)
    (hdrawn : s.drawn ≤ 0x100000000000000000000000000000000) : Unrepeated around s := by
  intro m n hm hn hsame
  rw [h] at hsame
  have hbits := congrArg (fun id : IssueId => id.bits.toNat) hsame
  simp only [World.counted, BitVec.toNat_ofNat] at hbits
  omega

namespace Scene

open Exchange

/-- Between operations, whatever else is stored; issues have identifiers that have been drawn. -/
structure Balanced (around : Surroundings) (s : Scene) : Prop where
  consistent : s.store.Consistent
  mirrored : s.store.Mirrored
  drew : ∀ id, s.store.find? (Issue.key id) ≠ none → Drew around s id

/-- Every todo that has been attached to a message since then was allowed. -/
def Offers (allowed : UserId → Attachment → Prop) (s s' : Scene) : Prop :=
  ∃ new, s'.sent = s.sent ++ new ∧ ∀ recipient text attachment,
    .directMessage recipient text (some attachment) ∈ new → allowed recipient attachment

/-- A balanced scene is still balanced, if identifiers are different, and no todo has been offered to anybody. -/
structure Calm (around : Surroundings) (s s' : Scene) : Prop where
  drawn : s.drawn ≤ s'.drawn
  balanced : Unrepeated around s' → s.Balanced around → s'.Balanced around
  quiet : s.Offers (fun _ _ => False) s'

variable {around : Surroundings} {s s' s'' : Scene} {allowed : UserId → Attachment → Prop}

theorem balanced_of_empty (around : Surroundings) (h : s.store = .empty) : s.Balanced around where
  consistent := h ▸ settled_initial.consistent
  mirrored := h ▸ settled_initial.mirrored
  drew _ hid := absurd rfl (h ▸ hid)

theorem Balanced.aside (h : s.Balanced around) (haside : s.Aside s') (hdrawn : s.drawn ≤ s'.drawn) :
    s'.Balanced around where
  consistent := h.consistent.of_eq haside.lists haside.records
  mirrored := h.mirrored.of_eq haside.lists haside.records
  drew id hid := (h.drew id (haside.records id ▸ hid)).later hdrawn

theorem Balanced.fresh (h : s.Balanced around) {id : IssueId} (hnew : ¬ Drew around s id) :
    s.store.find? (Issue.key id) = none :=
  Classical.not_not.1 fun hrecord => hnew (h.drew id hrecord)

theorem offers_of_eq (h : s'.sent = s.sent) : s.Offers allowed s' :=
  ⟨[], h.trans (List.append_nil _).symm, fun _ _ _ hoffer => absurd hoffer List.not_mem_nil⟩

theorem Offers.trans (h : s.Offers allowed s') (h' : s'.Offers allowed s'') : s.Offers allowed s'' := by
  obtain ⟨new, hsent, hnew⟩ := h
  obtain ⟨new', hsent', hnew'⟩ := h'
  refine ⟨new ++ new', by rw [hsent', hsent, List.append_assoc], fun recipient text attachment hoffer => ?_⟩
  exact (List.mem_append.1 hoffer).elim (hnew recipient text attachment) (hnew' recipient text attachment)

theorem Offers.mono {allowed' : UserId → Attachment → Prop} (h : s.Offers allowed s')
    (hmono : ∀ recipient attachment, allowed recipient attachment → allowed' recipient attachment) :
    s.Offers allowed' s' := by
  obtain ⟨new, hsent, hnew⟩ := h
  exact ⟨new, hsent, fun recipient text attachment hoffer => hmono _ _ (hnew recipient text attachment hoffer)⟩

theorem Calm.trans (h : s.Calm around s') (h' : s'.Calm around s'') : s.Calm around s'' where
  drawn := Nat.le_trans h.drawn h'.drawn
  balanced hunrepeated hbalanced :=
    h'.balanced hunrepeated (h.balanced (hunrepeated.earlier h'.drawn) hbalanced)
  quiet := h.quiet.trans h'.quiet

theorem Aside.calm (h : s.Aside s') (hdrawn : s.drawn ≤ s'.drawn) (hquiet : s.Offers (fun _ _ => False) s') :
    s.Calm around s' :=
  ⟨hdrawn, fun _ hbalanced => hbalanced.aside h hdrawn, hquiet⟩

end Scene

/-! ## Operations are calm -/

namespace Exchange

open Program

variable {α : Type} {around : Surroundings} {s : Scene} {limits : Limits} {user : UserId}

theorem balanced_action (action : Action) : (action.program limits).Keeps around fun s s' =>
    Unrepeated around s' → s.Balanced around → s'.Balanced around := by
  intro s
  by_cases hbalanced : s.Balanced around
  · have hissued : ∀ id ∈ (List.range s.drawn).map around.supply, Drew around s id := by
      simp [Drew]
    refine ensures_mono (ensures_reaches _ s _ hissued) fun outcome s' hend hunrepeated _ => ?_
    obtain ⟨issued', hreaches, hissued'⟩ := hend.2 hunrepeated
    have hbefore : Balanced ⟨s.store, (List.range s.drawn).map around.supply⟩ := by
      refine ⟨hbalanced.consistent, hbalanced.mirrored, fun id hid => ?_⟩
      simpa [Drew] using hbalanced.drew id hid
    obtain ⟨hafter, -⟩ := hbefore.run limits action hreaches
    exact ⟨hafter.consistent, hafter.mirrored, fun id hid => hissued' id (hafter.issued id hid)⟩
  · exact ensures_mono (drawn_le _ s) fun _ _ _ _ hbefore => absurd hbefore hbalanced

theorem calm_action (action : Action) : (action.program limits).Keeps around (Scene.Calm around) := by
  intro s
  have hbalanced := @balanced_action around limits action s
  refine ensures_mono (ensures_and (ensures_and (drawn_le _ s) hbalanced) (untold_action action s)) ?_
  intro outcome s' hend
  exact ⟨hend.1.1, hend.1.2, Scene.offers_of_eq hend.2⟩

theorem calm_of_action {operation : Operation α} (action : Action)
    (hprogram : action.program limits = operation >>= fun _ => pure ()) :
    operation.Keeps around (Scene.Calm around) :=
  fun s => ensures_discarded (hprogram ▸ calm_action action s)

end Exchange

end SharedTodo
