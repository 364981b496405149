import SharedTodo.Proofs.Exchange.Ownership
import SharedTodo.Proofs.Exchange.Progress

/-!
# Interleaved operations

Any number of operations by any users run at the same time, in any order of their calls and with calls that
may fail. Then identifiers are unique over all lists at every moment, and what has happened to one is final:
it is only ever held by one user, it is not listed again once it has left the lists, and its record does not
come back once it has been deleted. In particular an edit that meets a deletion does not write the record
again.

The proof follows the pool with a task for every client (`Pool.Follows`). One call is one act of one task, so
the order of identifiers is preserved (`Pool.Follows.advance`), and nothing that is final for the stages of an
identifier is undone by later calls (`Later`).
-/

namespace SharedTodo

/-- No issue is listed twice, by whatever users. -/
structure Store.Unique (store : Store) : Prop where
  orderly : store.Orderly
  apart : ∀ user other kind kind' entry entry', entry ∈ (store.lists user).list kind →
    entry' ∈ (store.lists other).list kind' → entry.id = entry'.id → user = other

namespace Exchange

variable {ι : Type} {users : ι → UserId}

/-! ## Tasks that fit -/

/-- In an ordered state every task fits. -/
theorem Ordered.fits {stage : IssueId → Stage ι} {view : View} {tasks : ι → Task}
    (h : Ordered users stage view tasks) (c : ι) : (tasks c).Fits view := by
  have hres := h.reserves c
  refine ⟨fun id hid => ?_, fun issue hissue hlisted => ?_, fun own link hoffer hlisted => ?_⟩
  · have hdrawn := hres.fresh id hid
    refine Decidable.byContradiction fun hunused => ?_
    rw [h.placed.unborn id hunused] at hdrawn
    exact nomatch hdrawn
  · obtain ⟨user, kind, entry, he, hid⟩ := hlisted
    have hsettled := h.placed.held user kind entry he
    rw [hid, hres.ready issue hissue] at hsettled
    exact nomatch hsettled
  · obtain ⟨user, kind, entry, he, hid⟩ := hlisted
    have hsettled := h.placed.held user kind entry he
    rw [hid, (hres.offer own link hoffer).2] at hsettled
    exact nomatch hsettled

/-- Nothing is reserved and nothing has been given up when clients begin in a state that is placed. -/
theorem Placed.ordered {stage : IssueId → Stage ι} {view : View} (h : Placed stage view)
    (hoffered : ∀ id c owner, stage id ≠ .offered c owner) (edits : ι → Bool) :
    Ordered users stage view fun i => { edits := edits i } where
  placed := h
  reserves c :=
    ⟨fun _ hid => absurd hid List.not_mem_nil, fun _ hissue => absurd hissue List.not_mem_nil,
      fun _ _ hoffer => (nomatch hoffer), fun id owner hid => absurd hid (hoffered id c owner)⟩
  releases _ :=
    ⟨fun _ hid => (nomatch hid), fun _ _ hloose => (nomatch hloose),
      fun _ hid => absurd hid List.not_mem_nil⟩

theorem placed_initial : Placed (fun _ => (.unborn : Stage ι)) Shared.initial.view := by
  refine ⟨fun _ _ => rfl, fun id hid => absurd rfl hid, ?_, ?_, ?_⟩
  · exact fun user kind entry he => absurd he (not_holds_initial user kind entry)
  · exact fun user kind _ entry _ he => absurd he (not_holds_initial user kind entry)
  · exact fun user kind entry _ he => absurd he (not_holds_initial user kind entry)

/-! ## What is final -/

/-- What is final in one state is so in a later one. -/
structure Later (stage : IssueId → Stage ι) (view : View) (stage' : IssueId → Stage ι) (view' : View) :
    Prop where
  settled : ∀ id owner, stage id = .settled owner → stage' id = .settled owner
  stored : ∀ id, (stage id).Stored → (stage' id).Stored
  unlisted : ∀ id owner, stage id = .settled owner → ¬ view.Listed id → ¬ view'.Listed id
  deleted : ∀ id, (stage id).Stored → view.record id = none → view'.record id = none

theorem Later.refl (stage : IssueId → Stage ι) (view : View) : Later stage view stage view :=
  ⟨fun _ _ h => h, fun _ h => h, fun _ _ _ h => h, fun _ _ h => h⟩

theorem Later.trans {stage stage₁ stage₂ : IssueId → Stage ι} {view view₁ view₂ : View}
    (h : Later stage view stage₁ view₁) (h' : Later stage₁ view₁ stage₂ view₂) :
    Later stage view stage₂ view₂ where
  settled id owner hid := h'.settled id owner (h.settled id owner hid)
  stored id hid := h'.stored id (h.stored id hid)
  unlisted id owner hid hgone := h'.unlisted id owner (h.settled id owner hid) (h.unlisted id owner hid hgone)
  deleted id hid hgone := h'.deleted id (h.stored id hid) (h.deleted id hid hgone)

theorem Ordered.later_of_act {stage stage' : IssueId → Stage ι} {view view' : View} {tasks : ι → Task}
    {task' : Task} {c : ι} (h : Ordered users stage view tasks)
    (hact : Act (users c) (tasks c) view task' view') (hmoves : Moves c stage stage') :
    Later stage view stage' view' where
  settled _ _ hid := hmoves.settled hid
  stored _ hid := hmoves.stored hid
  unlisted _ _ hid hgone hback := hgone (h.listed_of_act hact hid hback)
  deleted _ hid hgone := by
    refine Decidable.byContradiction fun hback => ?_
    exact h.recorded_of_act hact hid hback hgone

/-! ## Pools -/

namespace Pool

variable {faulty : Prop} {endings : ι → Ending Unit}

/-- A run of one client, during which no other one has its turn. -/
theorem leads_of_reaches [DecidableEq ι] {pool : Pool ι} {i : ι} {left : Operation Unit} {s' : Shared}
    (h : Reaches faulty (pool.clients i) pool.shared left s') :
    pool.Leads faulty ⟨Function.update pool.clients i left, s'⟩ := by
  generalize hprogram : pool.clients i = program at h
  generalize hshared : pool.shared = s at h
  induction h generalizing pool with
  | refl =>
    rw [← hprogram, Function.update_eq_self, ← hshared]
    exact .refl
  | step answer _ ih =>
    refine .head (.call hprogram (hshared ▸ answer)) ?_
    have hlater := @ih ⟨Function.update pool.clients i _, _⟩ (Function.update_self ..) rfl
    rw [Function.update_idem] at hlater
    exact hlater

/-- Every client conforms to its task. -/
def Follows (faulty : Prop) (users : ι → UserId) (endings : ι → Ending Unit) (pool : Pool ι)
    (tasks : ι → Task) : Prop :=
  ∀ i, ∃ s, Conforms ⟨True, faulty⟩ (users i) (pool.clients i) (endings i) (tasks i) s

theorem follows_start (faulty : Prop) (limits : ι → Limits) (actions : ι → Action) (s : Shared) :
    (start limits actions s).Follows faulty (fun i => (actions i).user)
      (fun i => Mode.Settles ⟨True, faulty⟩ (actions i).Allows) fun i => (actions i).task :=
  fun i => ⟨s, (actions i).conforms ⟨True, faulty⟩ (limits i) s⟩

/-- One call of a client is one act of its task. -/
theorem Follows.advance [DecidableEq ι] {pool pool' : Pool ι} {tasks : ι → Task}
    (h : pool.Follows faulty users endings tasks) (horderly : pool.shared.store.Orderly)
    (hfits : ∀ i, (tasks i).Fits pool.shared.view) (hadvances : Advances faulty pool pool') :
    ∃ i task', Conducts (users i) (tasks i) pool.shared task' pool'.shared ∧
      pool'.Follows faulty users endings (Function.update tasks i task') := by
  cases hadvances with
  | @call i c next reply s' client answer =>
    obtain ⟨s, hconforms⟩ := h i
    rw [client] at hconforms
    obtain ⟨task', hconducts, hnext⟩ :=
      hconforms pool.shared ⟨.inl trivial, horderly, hfits i⟩ reply s' answer
    refine ⟨i, task', hconducts, fun j => ?_⟩
    by_cases hj : j = i
    · subst hj
      rw [Function.update_self]
      show ∃ s, Conforms _ _ (Function.update pool.clients j (next reply) j) _ _ s
      rw [Function.update_self]
      exact ⟨s', hnext⟩
    · rw [Function.update_of_ne hj]
      show ∃ s, Conforms _ _ (Function.update pool.clients i (next reply) j) _ _ s
      rw [Function.update_of_ne hj]
      exact h j

/-- A pool whose identifiers are in order. -/
structure InOrder (faulty : Prop) (users : ι → UserId) (endings : ι → Ending Unit) (pool : Pool ι)
    (stage : IssueId → Stage ι) (tasks : ι → Task) : Prop where
  orderly : pool.shared.store.Orderly
  ordered : Ordered users stage pool.shared.view tasks
  follows : pool.Follows faulty users endings tasks

theorem InOrder.leads [DecidableEq ι] {pool pool' : Pool ι} {stage : IssueId → Stage ι} {tasks : ι → Task}
    (h : pool.InOrder faulty users endings stage tasks) (hleads : pool.Leads faulty pool') :
    ∃ stage' tasks', pool'.InOrder faulty users endings stage' tasks' ∧
      Later stage pool.shared.view stage' pool'.shared.view := by
  induction hleads with
  | refl => exact ⟨stage, tasks, h, .refl stage pool.shared.view⟩
  | tail _ hadvances ih =>
    obtain ⟨stage₁, tasks₁, h₁, hlater⟩ := ih
    obtain ⟨i, task', hconducts, hfollows⟩ :=
      h₁.follows.advance h₁.orderly h₁.ordered.fits hadvances
    obtain ⟨stage', hmoves, hordered⟩ := h₁.ordered.act hconducts.act
    exact ⟨stage', _, ⟨hconducts.orderly, hordered, hfollows⟩,
      hlater.trans (h₁.ordered.later_of_act hconducts.act hmoves)⟩

theorem InOrder.unique {pool : Pool ι} {stage : IssueId → Stage ι} {tasks : ι → Task}
    (h : pool.InOrder faulty users endings stage tasks) : pool.shared.store.Unique where
  orderly := h.orderly
  apart user other kind kind' entry entry' he he' hid := by
    have hsettled := h.ordered.placed.held user kind entry he
    rw [hid, h.ordered.placed.held other kind' entry' he'] at hsettled
    exact (Stage.settled.inj hsettled).symm

/-- Uniqueness and finality: of three moments of a run from the empty store, each no earlier than the one
before. -/
theorem unique_and_final [DecidableEq ι] (faulty : Prop) (limits : ι → Limits) (actions : ι → Action)
    {early middle late : Pool ι} (hearly : (start limits actions .initial).Leads faulty early)
    (hmiddle : early.Leads faulty middle) (hlate : middle.Leads faulty late) :
    early.shared.store.Unique ∧
      (∀ user other kind kind' entry entry', entry ∈ (early.shared.store.lists user).list kind →
        entry' ∈ (middle.shared.store.lists other).list kind' → entry.id = entry'.id → user = other) ∧
      (∀ id, early.shared.view.Listed id → ¬ middle.shared.view.Listed id →
        ¬ late.shared.view.Listed id) ∧
      ∀ id, early.shared.store.find? (Issue.key id) ≠ none →
        middle.shared.store.find? (Issue.key id) = none →
        late.shared.store.find? (Issue.key id) = none := by
  have hstart : (start limits actions .initial).InOrder faulty (fun i => (actions i).user) _ _ _ :=
    ⟨Store.orderly_empty, placed_initial.ordered nofun fun i => (actions i).isEdit,
      follows_start faulty limits actions .initial⟩
  obtain ⟨stage₁, tasks₁, h₁, -⟩ := hstart.leads hearly
  obtain ⟨stage₂, tasks₂, h₂, hlater₁₂⟩ := h₁.leads hmiddle
  obtain ⟨stage₃, tasks₃, h₃, hlater₂₃⟩ := h₂.leads hlate
  refine ⟨h₁.unique, ?_, ?_, ?_⟩
  · intro user other kind kind' entry entry' he he' hid
    have hsettled := hlater₁₂.settled _ _ (h₁.ordered.placed.held user kind entry he)
    rw [hid, h₂.ordered.placed.held other kind' entry' he'] at hsettled
    exact (Stage.settled.inj hsettled).symm
  · rintro _ ⟨user, kind, entry, he, rfl⟩ hgone
    have hsettled := h₁.ordered.placed.held user kind entry he
    exact hlater₂₃.unlisted _ user (hlater₁₂.settled _ _ hsettled) hgone
  · intro id hthere hgone
    rw [Ne, h₁.orderly.find?_eq_none_iff] at hthere
    rw [h₂.orderly.find?_eq_none_iff] at hgone
    rw [h₃.orderly.find?_eq_none_iff]
    have hstored := hlater₁₂.stored id (h₁.ordered.placed.recorded id hthere)
    exact hlater₂₃.deleted id hstored hgone

/-- One client adds a todo, and another one completes it. -/
def addAndComplete (user : UserId) (draft : Draft) (id : IssueId) : Bool → Action
  | true => .add user draft
  | false => .complete user id

/-- A todo is added by the one client and then completed by the other one. -/
theorem exists_added_and_completed (limits : Limits) (user : UserId) (draft : Draft) (id : IssueId) :
    ∃ early middle, (start (fun _ => limits) (addAndComplete user draft id) .initial).Leads False early ∧
      early.Leads False middle ∧ early.shared.view.Listed id ∧ ¬ middle.shared.view.Listed id ∧
      early.shared.store.find? (Issue.key id) ≠ none ∧ middle.shared.store.find? (Issue.key id) = none := by
  obtain ⟨s₁, hadd, horderly₁, hview₁⟩ := @reaches_add False .initial user limits
    Store.orderly_empty draft id .epoch List.not_mem_nil (not_listed_initial id)
  have held : s₁.view.holds user .my (.unlinked id) := by
    rw [hview₁]
    exact .inr ⟨rfl, rfl⟩
  have hrecord : s₁.store.record id = _ := congrArg (fun view => view.record id) hview₁
  rw [View.revise_record, View.record_withRecord, if_pos rfl] at hrecord
  obtain ⟨s₂, hcomplete, horderly₂, hview₂⟩ :=
    @reaches_complete_unlinked False s₁ user limits horderly₁ .my _ held rfl _ hrecord
  have hrecord₂ : s₂.store.record id = _ := congrArg (fun view => view.record id) hview₂
  have hearly : Reaches False ((Action.add user draft).program limits) .initial (pure ()) s₁ :=
    hadd.bind (.refl _ _)
  have hmiddle : Reaches False ((Action.complete user id).program limits) s₁ (pure ()) s₂ :=
    hcomplete.bind (.refl _ _)
  let begun := start (fun _ => limits) (addAndComplete user draft id) .initial
  let added : Pool Bool := ⟨Function.update begun.clients true (pure ()), s₁⟩
  refine ⟨added, ⟨Function.update added.clients false (pure ()), s₂⟩, leads_of_reaches hearly,
    leads_of_reaches hmiddle, ⟨user, .my, _, held, rfl⟩, ?_, ?_, ?_⟩
  · rw [hview₂, hview₁]
    rintro ⟨other, kind, entry, ⟨⟨he, -⟩ | ⟨rfl, he⟩, hgone⟩ | ⟨-, he⟩, hid⟩
    · exact not_holds_initial other kind entry he
    · cases he
      exact hgone ⟨rfl, rfl⟩
    · exact nomatch he
  · rw [Ne, horderly₁.find?_eq_none_iff, hrecord]
    exact nofun
  · rw [horderly₂.find?_eq_none_iff, hrecord₂]
    exact if_pos rfl

theorem completed_for_good :
    ∃ middle : Pool Bool,
      (start (fun _ => ⟨5, 5⟩) (addAndComplete ⟨"amy"⟩ ⟨"milk", none, none⟩ ⟨1⟩) .initial).Leads
        False middle ∧
      ∀ late, middle.Leads False late →
        ¬ late.shared.view.Listed ⟨1⟩ ∧ late.shared.store.find? (Issue.key ⟨1⟩) = none := by
  obtain ⟨early, middle, hearly, hmiddle, hlisted, hgone, hstored, hdeleted⟩ :=
    exists_added_and_completed ⟨5, 5⟩ ⟨"amy"⟩ ⟨"milk", none, none⟩ ⟨1⟩
  refine ⟨middle, hearly.trans hmiddle, fun late hlate => ?_⟩
  obtain ⟨-, -, hunlisted, hno⟩ := unique_and_final False _ _ hearly hmiddle hlate
  exact ⟨hunlisted ⟨1⟩ hlisted hgone, hno ⟨1⟩ hstored hdeleted⟩

end Pool

end Exchange

end SharedTodo
