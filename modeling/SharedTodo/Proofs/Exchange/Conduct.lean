import SharedTodo.Proofs.Exchange.Task

/-!
# Conduct of operations

An operation conforms to a task when every call it makes is one act, whatever the replies, and when the task
is, where it ends, in a state that its outcome allows (`Conforms`). What is said of a call is said of the
state that the call meets. While the client is alone that is the state that the call before it left; among
other clients it is any state that is orderly and that the task still fits.

For every way in which operations access the store there is one rule here. The rule of optimistic updates asks
nothing about attempts that are refused: each of them only reads.
-/

namespace SharedTodo.Exchange

/-- The circumstances of an operation. -/
structure Mode where
  /-- Other clients are at work. -/
  shared : Prop
  /-- Calls to the store may fail. -/
  faulty : Prop

namespace Mode

/-- The state that a call meets when the one before it left another. -/
def Near (mode : Mode) (s s₁ : Shared) : Prop :=
  mode.shared ∨ s₁ = s

theorem near_self (mode : Mode) (s : Shared) : mode.Near s s :=
  .inr rfl

theorem Near.trans {mode : Mode} {s s₁ s₂ : Shared} (h : mode.Near s s₁) (h' : mode.Near s₁ s₂) :
    mode.Near s s₂ := by
  rcases h with h | rfl
  · exact .inl h
  · exact h'

/-- The failures that end an operation wherever it is. -/
def Interrupts (mode : Mode) : OperationError → Prop
  | .storage (.retriesExhausted _ _) => mode.shared
  | .storage (.store _) => mode.faulty
  | _ => False

def Interrupted {α : Type} (mode : Mode) : Outcome OperationError α → Prop
  | .error failure => mode.Interrupts failure
  | _ => False

end Mode

/-- What is to hold where an operation ends: of its outcome, its task and the state it leaves. -/
abbrev Ending (α : Type) :=
  Outcome OperationError α → Task → Shared → Prop

/-- The state a call meets is one in which the task can go on. -/
structure Mode.Meets (mode : Mode) (task : Task) (s s₁ : Shared) : Prop where
  near : mode.Near s s₁
  orderly : s₁.store.Orderly
  fits : task.Fits s₁.view

/-- A call leaves a well-formed state behind, and is an act. -/
structure Conducts (user : UserId) (task : Task) (s₁ : Shared) (task' : Task) (s₂ : Shared) : Prop where
  orderly : s₂.store.Orderly
  tidy : s₁.store.Tidy → s₂.store.Tidy
  act : Act user task s₁.view task' s₂.view

def Conforms {α : Type} (mode : Mode) (user : UserId) :
    Operation α → Ending α → Task → Shared → Prop
  | .ended outcome, ending, task, s => ending outcome task s
  | .call c next, ending, task, s =>
    ∀ s₁, mode.Meets task s s₁ → ∀ reply s₂, Answers mode.faulty c s₁ reply s₂ →
      ∃ task', Conducts user task s₁ task' s₂ ∧ Conforms mode user (next reply) ending task' s₂

/-- An ending that every interruption of a task allows. -/
def Ending.Lenient {α : Type} (mode : Mode) (ending : Ending α) (task : Task) : Prop :=
  ∀ failure s, mode.Interrupts failure → ending (.error failure) task s

section

variable {mode : Mode} {user : UserId} {α β : Type} {task : Task} {s : Shared}

/-! ## Composition -/

theorem conforms_mono {program : Operation α} {ending ending' : Ending α}
    (h : Conforms mode user program ending task s)
    (hending : ∀ outcome task s, ending outcome task s → ending' outcome task s) :
    Conforms mode user program ending' task s := by
  induction program generalizing task s with
  | ended outcome => exact hending _ _ _ h
  | call c next ih =>
    intro s₁ hmeets reply s₂ hanswer
    obtain ⟨task', hconducts, hnext⟩ := h s₁ hmeets reply s₂ hanswer
    exact ⟨task', hconducts, ih reply hnext⟩

variable (mode user) in
/-- The ending of the first of two operations: where it gives a value, the second one conforms. -/
def Ending.andThen (next : α → Operation β) (ending : Ending β) : Ending α
  | .ok value, task, s => Conforms mode user (next value) ending task s
  | .error failure, task, s => ending (.error failure) task s
  | .unfinished, task, s => ending .unfinished task s

theorem conforms_bind {program : Operation α} {next : α → Operation β} {ending : Ending β}
    (h : Conforms mode user program (Ending.andThen mode user next ending) task s) :
    Conforms mode user (program >>= next) ending task s := by
  induction program generalizing task s with
  | ended outcome => cases outcome <;> exact h
  | call c rest ih =>
    intro s₁ hmeets reply s₂ hanswer
    obtain ⟨task', hconducts, hnext⟩ := h s₁ hmeets reply s₂ hanswer
    exact ⟨task', hconducts, ih reply hnext⟩

theorem Ending.Lenient.andThen {ending : Ending β} (h : ending.Lenient mode task)
    {next : α → Operation β} : (Ending.andThen mode user next ending).Lenient mode task := h

/-- The ending of an operation whose failure is a value for what comes next. -/
def Ending.attempted (ending : Ending (Except OperationError α)) : Ending α
  | .ok value, task, s => ending (.ok (.ok value)) task s
  | .error failure, task, s => ending (.ok (.error failure)) task s
  | .unfinished, task, s => ending .unfinished task s

theorem conforms_attempt {program : Operation α} {ending : Ending (Except OperationError α)}
    (h : Conforms mode user program ending.attempted task s) :
    Conforms mode user program.attempt ending task s := by
  induction program generalizing task s with
  | ended outcome => cases outcome <;> exact h
  | call c rest ih =>
    intro s₁ hmeets reply s₂ hanswer
    obtain ⟨task', hconducts, hnext⟩ := h s₁ hmeets reply s₂ hanswer
    exact ⟨task', hconducts, ih reply hnext⟩

theorem conforms_ofExcept {result : Except OperationError α} {ending : Ending α}
    (hok : ∀ value, result = .ok value → ending (.ok value) task s)
    (herror : ∀ failure, result = .error failure → ending (.error failure) task s) :
    Conforms mode user (Program.ofExcept result) ending task s := by
  cases result with
  | ok value => exact hok value rfl
  | error failure => exact herror failure rfl

/-! ## Single calls -/

/-- A call that leaves the state as it is. -/
theorem conducts_of_act {s₁ : Shared} {task' : Task} (horderly : s₁.store.Orderly)
    (hact : Act user task s₁.view task' s₁.view) : Conducts user task s₁ task' s₁ :=
  ⟨horderly, id, hact⟩

/-- A call to neither the store nor the supply of identifiers. -/
theorem conforms_perform {c : Call} {ending : Ending c.Reply}
    (hquiet : ∀ s₁ reply s₂, Answers mode.faulty c s₁ reply s₂ → s₂ = s₁)
    (hending : ∀ reply s₁, mode.Meets task s s₁ → ending (.ok reply) task s₁) :
    Conforms mode user (Program.perform c) ending task s := by
  intro s₁ hmeets reply s₂ hanswer
  obtain rfl := hquiet s₁ reply s₂ hanswer
  exact ⟨task, conducts_of_act hmeets.orderly .rest, hending reply _ hmeets⟩

theorem conforms_now {ending : Ending Time.Instant}
    (hending : ∀ now s₁, mode.Meets task s s₁ → ending (.ok now) task s₁) :
    Conforms mode user Program.now ending task s :=
  conforms_perform (fun _ _ _ h => h) hending

theorem conforms_freshId {ending : Ending IssueId}
    (hending : ∀ id s₁, mode.Meets task s s₁ → id ∉ s₁.issued →
      ending (.ok id) { task with fresh := id :: task.fresh } { s₁ with issued := id :: s₁.issued }) :
    Conforms mode user Program.freshId ending task s := by
  intro s₁ hmeets id s₂ ⟨hunused, hs₂⟩
  subst hs₂
  exact ⟨_, ⟨hmeets.orderly, fun h => h, .draw id hunused⟩, hending id s₁ hmeets hunused⟩

theorem conforms_storeCall {call : StoreCall} {ending : Ending call.Answer}
    (hlenient : ending.Lenient mode task)
    (hending : ∀ s₁, mode.Meets task s s₁ →
      let result := Store.perform call s₁.store
      ∃ task', Conducts user task s₁ task' { s₁ with store := result.2 } ∧
        ending (.ok result.1) task' { s₁ with store := result.2 }) :
    Conforms mode user (Program.storeCall call) ending task s := by
  intro s₁ hmeets reply s₂ hanswer
  rcases hanswer with ⟨rfl, rfl⟩ | ⟨hfaulty, rfl, failure, rfl⟩
  · exact hending s₁ hmeets
  · exact ⟨task, conducts_of_act hmeets.orderly .rest, hlenient _ _ hfaulty⟩

theorem conforms_get {key : String} {ending : Ending (Option String)} (hlenient : ending.Lenient mode task)
    (hending : ∀ s₁, mode.Meets task s s₁ → ∃ task', Act user task s₁.view task' s₁.view ∧
      ending (.ok (s₁.store.find? key)) task' s₁) :
    Conforms mode user (Program.get key) ending task s :=
  conforms_storeCall hlenient fun s₁ hmeets =>
    have ⟨task', hact, hend⟩ := hending s₁ hmeets
    ⟨task', conducts_of_act hmeets.orderly hact, hend⟩

/-! ## Optimistic updates -/

/-- One document stays as it is, or is written. -/
inductive Writes (key : String) (new : Option String) (s₁ : Shared) : Shared → Prop where
  | kept (same : new = s₁.store.find? key) : Writes key new s₁ s₁
  | written (other : new ≠ s₁.store.find? key) :
    Writes key new s₁ { s₁ with store := s₁.store.assign key new }

section

variable {key : String} {compute : Option String → Except OperationError (Option String × α)}
  {ending : Ending α}

/-- The last attempt fails only when somebody else has written in between. -/
theorem conforms_updateWithin (limit : Nat) (hlenient : ending.Lenient mode task)
    (hrefused : ∀ s₁ failure, mode.Meets task s s₁ → compute (s₁.store.find? key) = .error failure →
      ending (.error failure) task s₁)
    (hdone : ∀ s₁ s₂ new outcome, mode.Meets task s s₁ →
      compute (s₁.store.find? key) = .ok (new, outcome) → Writes key new s₁ s₂ →
      ∃ task', Conducts user task s₁ task' s₂ ∧ ending (.ok outcome) task' s₂)
    (left : Nat) (s' : Shared) (hnear : mode.Near s s') (hleft : left = 0 → mode.shared) :
    Conforms mode user (updateWithin key limit compute left) ending task s' := by
  induction left generalizing s' with
  | zero => exact hlenient _ _ (hleft rfl)
  | succ left ih =>
    rw [updateWithin]
    refine conforms_bind (conforms_get hlenient fun s₁ hmeets => ?_)
    have hmeets₁ : mode.Meets task s s₁ := ⟨hnear.trans hmeets.near, hmeets.orderly, hmeets.fits⟩
    cases hcompute : compute (s₁.store.find? key) with
    | error failure =>
      refine ⟨task, .rest, ?_⟩
      rw [Ending.andThen, hcompute]
      exact hrefused s₁ failure hmeets₁ hcompute
    | ok result =>
      obtain ⟨new, outcome⟩ := result
      by_cases hnew : new = s₁.store.find? key
      · obtain ⟨task', hconducts, hend⟩ :=
          hdone s₁ s₁ new outcome hmeets₁ hcompute (.kept hnew)
        refine ⟨task', hconducts.act, ?_⟩
        rw [Ending.andThen, hcompute]
        show Conforms mode user (if new = _ then _ else _) ending task' s₁
        rw [if_pos hnew]
        exact hend
      · refine ⟨task, .rest, ?_⟩
        rw [Ending.andThen, hcompute]
        show Conforms mode user (if new = _ then _ else _) ending task s₁
        rw [if_neg hnew]
        refine conforms_bind (conforms_storeCall hlenient fun s₂ hmeets' => ?_)
        have hmeets₂ : mode.Meets task s s₂ :=
          ⟨hmeets₁.near.trans hmeets'.near, hmeets'.orderly, hmeets'.fits⟩
        by_cases hseen : s₂.store.find? key = s₁.store.find? key
        · obtain ⟨task', hconducts, hend⟩ := hdone s₂ _ new outcome hmeets₂
            (by rw [hseen, hcompute]) (.written (by rw [hseen]; exact hnew))
          refine ⟨task', ?_, ?_⟩ <;> simp only [Store.perform, if_pos hseen]
          · exact hconducts
          · exact hend
        · refine ⟨task, ?_, ?_⟩ <;> simp only [Store.perform, if_neg hseen]
          · exact conducts_of_act hmeets₂.orderly .rest
          · -- the document is not the one that was read, so the client is not alone
            refine ih s₂ hmeets₂.near fun _ => hmeets'.near.resolve_right fun e => hseen ?_
            rw [e]

theorem conforms_update (limit : Nat) (hlenient : ending.Lenient mode task)
    (hrefused : ∀ s₁ failure, mode.Meets task s s₁ → compute (s₁.store.find? key) = .error failure →
      ending (.error failure) task s₁)
    (hdone : ∀ s₁ s₂ new outcome, mode.Meets task s s₁ →
      compute (s₁.store.find? key) = .ok (new, outcome) → Writes key new s₁ s₂ →
      ∃ task', Conducts user task s₁ task' s₂ ∧ ending (.ok outcome) task' s₂) :
    Conforms mode user (update key limit compute) ending task s := by
  refine conforms_updateWithin limit hlenient hrefused hdone _ s (mode.near_self s) fun h => ?_
  rw [attempts] at h
  omega

end

/-! ## Lists -/

theorem conforms_loadLists {other : UserId} {ending : Ending UserLists} (hlenient : ending.Lenient mode task)
    (hending : ∀ s₁, mode.Meets task s s₁ → ending (.ok (s₁.store.lists other)) task s₁) :
    Conforms mode user (loadLists other) ending task s := by
  refine conforms_bind (conforms_get hlenient fun s₁ hmeets => ⟨task, .rest, ?_⟩)
  rw [Ending.andThen, hmeets.orderly.listsOfDocument]
  exact hending s₁ hmeets

theorem Shared.view_of_written {s₁ : Shared} {other : UserId} {revised : UserLists}
    {gone : Option Entry} {come : Option (ListKind × Entry)}
    (hrevision : UserLists.Revision (s₁.store.lists other) revised gone come) :
    Shared.view { s₁ with
        store := s₁.store.assign (UserLists.key other) (documentOfLists revised) } =
      s₁.view.revise other gone come := by
  have hchanges := s₁.store.changes_assign (UserLists.key other) (documentOfLists revised)
  refine Shared.view_of_revision ?_ (fun u hu => hchanges.lists_other hu) hchanges.record rfl
  rw [hchanges.lists_self]
  exact hrevision

/-- Lists are changed by a revision, or left as they are. -/
theorem conforms_updateLists {limits : Limits} {other : UserId}
    {change : UserLists → Except OperationError (UserLists × α)} {ending : Ending α}
    (hlenient : ending.Lenient mode task)
    (hrefused : ∀ s₁ failure, mode.Meets task s s₁ →
      change (s₁.store.lists other) = .error failure → ending (.error failure) task s₁)
    (hdone : ∀ s₁ revised outcome, mode.Meets task s s₁ →
      change (s₁.store.lists other) = .ok (revised, outcome) →
      ∃ gone come task', UserLists.Revision (s₁.store.lists other) revised gone come ∧
        Act user task s₁.view task' (s₁.view.revise other gone come) ∧
        ∀ s₂, s₂.view = s₁.view.revise other gone come → ending (.ok outcome) task' s₂) :
    Conforms mode user (updateLists limits other change) ending task s := by
  refine conforms_update limits.updates hlenient ?_ ?_
  · intro s₁ failure hmeets hcompute
    refine hrefused s₁ failure hmeets ?_
    cases hchange : change (s₁.store.lists other) with
    | error failure' =>
      rw [hmeets.orderly.revisedLists_error hchange] at hcompute
      exact congrArg Except.error (Except.error.inj hcompute)
    | ok result =>
      obtain ⟨revised, outcome⟩ := result
      by_cases hrevised : revised = s₁.store.lists other
      · subst hrevised
        rw [hmeets.orderly.revisedLists_same hchange] at hcompute
        exact nomatch hcompute
      · rw [hmeets.orderly.revisedLists_new hchange hrevised] at hcompute
        exact nomatch hcompute
  · intro s₁ s₂ new outcome hmeets hcompute hwrites
    cases hchange : change (s₁.store.lists other) with
    | error failure =>
      rw [hmeets.orderly.revisedLists_error hchange] at hcompute
      exact nomatch hcompute
    | ok result =>
      obtain ⟨revised, outcome'⟩ := result
      obtain ⟨gone, come, task', hrevision, hact, hending⟩ :=
        hdone s₁ revised outcome' hmeets hchange
      by_cases hrevised : revised = s₁.store.lists other
      · subst hrevised
        rw [hmeets.orderly.revisedLists_same hchange] at hcompute
        cases hcompute
        have hview : s₁.view = s₁.view.revise other gone come :=
          Shared.view_of_revision hrevision (fun _ _ => rfl) rfl rfl
        cases hwrites with
        | kept _ =>
          rw [← hview] at hact
          exact ⟨task', conducts_of_act hmeets.orderly hact, hending s₁ hview⟩
        | written hne => exact absurd rfl hne
      · rw [hmeets.orderly.revisedLists_new hchange hrevised] at hcompute
        cases hcompute
        cases hwrites with
        | kept hraw => exact absurd hraw (hmeets.orderly.documentOfLists_ne hrevised)
        | written _ =>
          have hchanges := s₁.store.changes_assign (UserLists.key other) (documentOfLists revised)
          have hview := Shared.view_of_written hrevision
          refine ⟨task', ⟨hchanges.orderly hmeets.orderly hrevision.distinct, hchanges.tidy, ?_⟩,
            hending _ hview⟩
          rw [hview]
          exact hact

/-! ## Records -/

theorem Shared.view_withRecord (s₁ : Shared) (id : IssueId) (issue : Option Issue) :
    Shared.view { s₁ with
        store := s₁.store.assign (Issue.key id) (issue.map Issue.codec.encode) } =
      s₁.view.withRecord id issue := by
  have hchanges := s₁.store.changes_assign (Issue.key id) (issue.map Issue.codec.encode)
  have hlists := funext fun user => hchanges.lists_of_record user
  have hrecord := funext hchanges.record_of_record
  rw [Shared.view, Shared.view, View.withRecord, hlists, hrecord]

theorem View.withRecord_self {view : View} {id : IssueId} {issue : Option Issue}
    (h : view.record id = issue) : view.withRecord id issue = view := by
  have hrecord : (fun other => if other = id then issue else view.record other) = view.record := by
    funext other
    split
    · next hother => rw [hother, h]
    · rfl
  rw [View.withRecord, hrecord]

theorem conforms_loadIssue {id : IssueId} {ending : Ending (Option Issue)}
    (hlenient : ending.Lenient mode task)
    (hending : ∀ s₁, mode.Meets task s s₁ → ∃ task', Act user task s₁.view task' s₁.view ∧
      ending (.ok (s₁.store.record id)) task' s₁) :
    Conforms mode user (loadIssue id) ending task s := by
  refine conforms_bind (conforms_get hlenient fun s₁ hmeets => ?_)
  obtain ⟨task', hact, hend⟩ := hending s₁ hmeets
  refine ⟨task', hact, ?_⟩
  cases hraw : s₁.store.find? (Issue.key id) with
  | none =>
    rw [Store.record_of_find?_eq_none hraw] at hend
    exact hend
  | some raw =>
    obtain ⟨issue, hdocument, hrecord, -⟩ := hmeets.orderly.recordOfDocument hraw
    rw [hrecord] at hend
    show Conforms mode user (Program.ofExcept (recordOfDocument _ raw) >>= _) ending task' s₁
    rw [hdocument]
    exact hend

theorem conforms_requireIssue {id : IssueId} {ending : Ending Issue} (hlenient : ending.Lenient mode task)
    (hmissing : ∀ s₁, mode.Meets task s s₁ → s₁.store.record id = none →
      ending (.error (.absent (.issue id))) task s₁)
    (hknown : ∀ s₁ issue, mode.Meets task s s₁ → s₁.store.record id = some issue → issue.id = id →
      ending (.ok issue) { task with seen := some issue } s₁) :
    Conforms mode user (requireIssue id) ending task s := by
  refine conforms_bind (conforms_loadIssue hlenient fun s₁ hmeets => ?_)
  cases hrecord : s₁.store.record id with
  | none => exact ⟨task, .rest, hmissing s₁ hmeets hrecord⟩
  | some issue =>
    have hid := hmeets.orderly.id_of_record hrecord
    refine ⟨_, .learn issue ?_, hknown s₁ issue hmeets hrecord hid⟩
    rw [hid]
    exact hrecord

theorem conforms_saveIssue {issue : Issue} {ending : Ending Unit} (hlenient : ending.Lenient mode task)
    (hdrawn : issue.id ∈ task.fresh)
    (hending : ∀ s₁ s₂, mode.Meets task s s₁ →
      s₂.view = s₁.view.withRecord issue.id (some issue) →
      ending (.ok ())
        { task with
          fresh := task.fresh.filter fun other => other ≠ issue.id
          ready := issue :: task.ready }
        s₂) :
    Conforms mode user (saveIssue issue) ending task s := by
  refine conforms_storeCall hlenient fun s₁ hmeets => ?_
  have hchanges := s₁.store.changes_assign (Issue.key issue.id) ((some issue).map Issue.codec.encode)
  have hview := Shared.view_withRecord s₁ issue.id (some issue)
  refine ⟨_, ⟨hchanges.orderly_of_record hmeets.orderly ?_, hchanges.tidy_of_record, ?_⟩,
    hending s₁ _ hmeets hview⟩
  · intro x hx
    rw [Option.mem_some.1 hx]
  · exact hview ▸ .create issue hdrawn

theorem conforms_deleteIssue {id : IssueId} {ending : Ending Unit} (hlenient : ending.Lenient mode task)
    (hdone : ∀ s₁, mode.Meets task s s₁ →
      ∃ task', Act user task s₁.view task' (s₁.view.withRecord id none) ∧
        ∀ s₂, s₂.view = s₁.view.withRecord id none → ending (.ok ()) task' s₂) :
    Conforms mode user (deleteIssue id) ending task s := by
  refine conforms_storeCall hlenient fun s₁ hmeets => ?_
  have hchanges := s₁.store.changes_assign (Issue.key id) (Option.map Issue.codec.encode none)
  have hview := Shared.view_withRecord s₁ id none
  obtain ⟨task', hact, hend⟩ := hdone s₁ hmeets
  refine ⟨task', ⟨hchanges.orderly_of_record hmeets.orderly ?_, hchanges.tidy_of_record, ?_⟩,
    hend _ hview⟩
  · exact fun x hx => nomatch hx
  · exact hview ▸ hact

/-- A record is written with its new content, or has it already. -/
theorem Shared.view_of_edited {s₁ s₂ : Shared} {id : IssueId} {issue : Issue} {change : Edit}
    (horderly : s₁.store.Orderly) (hrecord : s₁.store.record id = some issue)
    (hwrites : Writes (Issue.key id) (some (Issue.codec.encode (issue.edited change))) s₁ s₂) :
    s₂.view = s₁.view.withRecord id (some (issue.edited change)) ∧ s₂.store.Orderly ∧
      (s₁.store.Tidy → s₂.store.Tidy) := by
  have hid := horderly.id_of_record hrecord
  cases hwrites with
  | kept hsame =>
    -- the document is that of the edited record already
    obtain ⟨issue', hdocument, hissue, -⟩ := horderly.recordOfDocument hsame.symm
    rw [recordOfDocument, Issue.decode_encode] at hdocument
    cases hdocument
    exact ⟨(View.withRecord_self hissue).symm, horderly, fun h => h⟩
  | written _ =>
    have hchanges :=
      s₁.store.changes_assign (Issue.key id) ((some (issue.edited change)).map Issue.codec.encode)
    refine ⟨Shared.view_withRecord s₁ id (some (issue.edited change)),
      hchanges.orderly_of_record horderly fun x hx => ?_, hchanges.tidy_of_record⟩
    rw [← Option.mem_some.1 hx]
    exact hid

theorem conforms_editRecord {limits : Limits} {id : IssueId} {edit : Edit}
    {ending : Ending (Option String)} (hlenient : ending.Lenient mode task) (hedits : task.edits = true)
    (hmissing : ∀ s₁, mode.Meets task s s₁ → s₁.store.record id = none → ending (.ok none) task s₁)
    (hdone : ∀ s₁ s₂ issue, mode.Meets task s s₁ → s₁.store.record id = some issue →
      s₂.view = s₁.view.withRecord id (some (issue.edited edit)) →
      ending (.ok (some issue.message)) task s₂) :
    Conforms mode user (editRecord limits id edit) ending task s := by
  refine conforms_update limits.updates hlenient ?_ ?_
  · intro s₁ failure hmeets hcompute
    cases hrecord : s₁.store.record id with
    | none => exact nomatch (hmeets.orderly.editedRecord_none hrecord edit).symm.trans hcompute
    | some issue => exact nomatch (hmeets.orderly.editedRecord hrecord edit).symm.trans hcompute
  · intro s₁ s₂ new outcome hmeets hcompute hwrites
    cases hrecord : s₁.store.record id with
    | none =>
      cases (hmeets.orderly.editedRecord_none hrecord edit).symm.trans hcompute
      cases hwrites with
      | kept _ => exact ⟨task, conducts_of_act hmeets.orderly .rest, hmissing s₁ hmeets hrecord⟩
      | written hne => exact absurd (hmeets.orderly.find?_eq_none_iff.2 hrecord).symm hne
    | some issue =>
      cases (hmeets.orderly.editedRecord hrecord edit).symm.trans hcompute
      obtain ⟨hview, horderly, htidy⟩ := Shared.view_of_edited hmeets.orderly hrecord hwrites
      have hid := hmeets.orderly.id_of_record hrecord
      have hact : Act user task s₁.view task (s₁.view.withRecord id (some (issue.edited edit))) :=
        hid ▸ .amend issue (issue.edited edit) hedits (by rw [hid]; exact hrecord) rfl
      rw [← hview] at hact
      exact ⟨task, ⟨horderly, htidy, hact⟩, hdone s₁ s₂ issue hmeets hrecord hview⟩

/-! ## Users -/

theorem conforms_requireUser {other : UserId} {ending : Ending Unit}
    (hunknown : ∀ failure s₁, mode.Meets task s s₁ → ending (.error failure) task s₁)
    (hknown : ∀ s₁, mode.Meets task s s₁ → ending (.ok ()) task s₁) :
    Conforms mode user (requireUser other) ending task s := by
  refine conforms_bind (conforms_bind (conforms_perform (fun _ _ _ h => h) ?_))
  intro reply s₁ hmeets
  match reply with
  | .error failure => exact hunknown _ s₁ hmeets
  | .ok (some profile) => exact hknown s₁ hmeets
  | .ok none =>
    refine conforms_bind (conforms_perform (fun _ _ _ h => h) ?_)
    intro _ s₂ hmeets'
    exact hunknown _ s₂ ⟨hmeets.near.trans hmeets'.near, hmeets'.orderly, hmeets'.fits⟩

/-! ## Undisturbed operations -/

/-- Nobody else is at work, and the services are healthy. -/
def undisturbed : Mode :=
  ⟨False, False⟩

theorem not_interrupts (failure : OperationError) : ¬ undisturbed.Interrupts failure := by
  intro h
  match failure with
  | .storage (.retriesExhausted _ _) => exact h.elim
  | .storage (.store _) => exact h.elim
  | .storage (.directory _) => exact h.elim
  | .storage (.corrupt _ _) => exact h.elim
  | .rejected _ => exact h.elim
  | .absent _ => exact h.elim

theorem not_interrupted (outcome : Outcome OperationError α) : ¬ undisturbed.Interrupted outcome := by
  match outcome with
  | .ok _ => exact fun h => h
  | .unfinished => exact fun h => h
  | .error failure => exact not_interrupts failure

theorem lenient_undisturbed {ending : Ending α} : ending.Lenient undisturbed task :=
  fun failure _ h => absurd h (not_interrupts failure)

theorem Mode.Meets.eq {s₁ : Shared} (h : undisturbed.Meets task s s₁) : s₁ = s :=
  h.near.resolve_left id

end

end SharedTodo.Exchange
