import SharedTodo.Proofs.Exchange.Runs
import SharedTodo.Proofs.Update.Attempt

/-!
# Clients that rely on each other

A regime says what clients may rely on whenever a call of theirs is answered, and what each of them may do
with a call, from one stage of its work to another one. A program obeys a regime when every call that it
makes is such a step, in any state that can be relied on, and when it is at the right stage where it returns
(`Regime.Obeyed`). Others may do anything between two of its calls, as long as they do not break what is
relied on.

Clients that obey a regime can be forgotten: whatever they can come to, the regime has stages for it
(`Pool.Heeds.leads`). What is to be shown of their runs is then shown of the moves of the regime, which know
neither programs nor documents. A regime differs in this from a task, which says of all operations the same.
-/

namespace SharedTodo.Exchange

structure Regime (ι σ : Type) where
  /-- What holds of every state that a call meets. -/
  relies : Shared → Prop
  /-- What a client may do with one call. -/
  allows : ι → σ → Shared → σ → Shared → Prop
  rests : ∀ i stage s, allows i stage s stage s
  keeps : ∀ {i stage s stage' s'}, relies s → allows i stage s stage' s' → relies s'

namespace Regime

variable {ι σ α β : Type}

/-- Every call is allowed, and a value is returned at a stage that goes with it. -/
def Obeyed (regime : Regime ι σ) (faulty : Prop) (i : ι) : Operation α → (α → σ → Prop) → σ → Prop
  | .ended (.ok value), done, stage => done value stage
  | .ended (.error _), _, _ => True
  | .ended .unfinished, _, _ => True
  | .call c next, done, stage =>
    ∀ s reply s', regime.relies s → Answers faulty c s reply s' →
      ∃ stage', regime.allows i stage s stage' s' ∧ Obeyed regime faulty i (next reply) done stage'

/-- The stages and the state after one call of one client. -/
inductive Moves [DecidableEq ι] (regime : Regime ι σ) : (ι → σ) × Shared → (ι → σ) × Shared → Prop where
  | client {stages : ι → σ} {s s' : Shared} {i : ι} {stage' : σ} (relied : regime.relies s)
      (allowed : regime.allows i (stages i) s stage' s') :
    Moves regime (stages, s) (Function.update stages i stage', s')

section

variable {regime : Regime ι σ} {faulty : Prop} {i : ι} {stage : σ}

theorem obeyed_bind {program : Operation α} {next : α → Operation β} {done : β → σ → Prop}
    (h : regime.Obeyed faulty i program (fun value stage => regime.Obeyed faulty i (next value) done stage)
      stage) :
    regime.Obeyed faulty i (program >>= next) done stage := by
  induction program generalizing stage with
  | ended outcome =>
    cases outcome with
    | ok value => exact h
    | error failure => trivial
    | unfinished => trivial
  | call c rest ih =>
    intro s reply s' hrelies answer
    obtain ⟨stage', hallowed, hnext⟩ := h s reply s' hrelies answer
    exact ⟨stage', hallowed, ih reply hnext⟩

theorem obeyed_get {key : String} {done : Option String → σ → Prop}
    (h : ∀ s, regime.relies s → done (s.store.find? key) stage) :
    regime.Obeyed faulty i (Program.get key) done stage := by
  intro s reply s' hrelies answer
  rcases answer with ⟨rfl, rfl⟩ | ⟨-, rfl, failure, rfl⟩
  · exact ⟨stage, regime.rests i stage s, h s hrelies⟩
  · exact ⟨stage, regime.rests i stage s', trivial⟩

theorem obeyed_loadLists (horderly : ∀ s, regime.relies s → s.store.Orderly) {user : UserId}
    {done : UserLists → σ → Prop} (h : ∀ s, regime.relies s → done (s.store.lists user) stage) :
    regime.Obeyed faulty i (loadLists user) done stage := by
  refine obeyed_bind (obeyed_get fun s hrelies => ?_)
  rw [(horderly s hrelies).listsOfDocument user]
  exact h s hrelies

/-- Attempts that are refused change nothing, so only the call that decides an update counts. -/
theorem obeyed_update {key : String} {limit : Nat}
    {compute : Option String → Except OperationError (Option String × α)} {done : α → σ → Prop}
    (h : ∀ s s' new outcome, regime.relies s → compute (s.store.find? key) = .ok (new, outcome) →
      Writes key new s s' → ∃ stage', regime.allows i stage s stage' s' ∧ done outcome stage') :
    regime.Obeyed faulty i (update key limit compute) done stage := by
  suffices hattempt : ∀ program, Attempt key limit compute program →
      regime.Obeyed faulty i program done stage from hattempt _ (attempt_update key limit compute)
  intro program
  induction program with
  | ended outcome =>
    intro hended
    obtain ⟨failure, rfl⟩ := hended.failed_of_ended
    trivial
  | call c next ih =>
    intro hcall s reply s' hrelies answer
    have hattempted := hcall.answered answer
    have hlater := ih reply
    generalize next reply = left at hattempted hlater ⊢
    cases hattempted with
    | again undecided => exact ⟨stage, regime.rests i stage s, hlater undecided⟩
    | failed failure => exact ⟨stage, regime.rests i stage s, trivial⟩
    | decided computed writes => exact h s s' _ _ hrelies computed writes

/-- The edit of a record that can be relied on. -/
theorem obeyed_editRecord {limits : Limits} {id : IssueId} {change : Edit} {done : Option String → σ → Prop}
    (hknown : ∀ s, regime.relies s → s.store.Orderly ∧ s.store.record id ≠ none)
    (h : ∀ s s' issue, regime.relies s → s.view.record id = some issue →
      s'.view = s.view.withRecord id (some (issue.edited change)) → s'.store.Orderly →
      ∃ stage', regime.allows i stage s stage' s' ∧ done (some issue.message) stage') :
    regime.Obeyed faulty i (editRecord limits id change) done stage := by
  refine obeyed_update fun s s' new outcome hrelies hcompute hwrites => ?_
  obtain ⟨horderly, hrecord⟩ := hknown s hrelies
  obtain ⟨issue, hissue⟩ := Option.ne_none_iff_exists'.1 hrecord
  cases (horderly.editedRecord hissue change).symm.trans hcompute
  obtain ⟨hview, horderly', -⟩ := Shared.view_of_edited horderly hissue hwrites
  exact h s s' issue hrelies hissue hview horderly'

end

end Regime

namespace Pool

variable {ι σ : Type} {regime : Regime ι σ} {faulty : Prop} {done : ι → σ → Prop} {pool pool' : Pool ι}
  {stages : ι → σ}

/-- What is left of every client obeys the regime, and what they rely on holds. -/
structure Heeds (regime : Regime ι σ) (faulty : Prop) (done : ι → σ → Prop) (pool : Pool ι)
    (stages : ι → σ) : Prop where
  relied : regime.relies pool.shared
  obeyed : ∀ i, regime.Obeyed faulty i (pool.clients i) (fun _ stage => done i stage) (stages i)

theorem Heeds.advance [DecidableEq ι] (h : pool.Heeds regime faulty done stages)
    (hadvances : Advances faulty pool pool') :
    ∃ stages', pool'.Heeds regime faulty done stages' ∧
      regime.Moves (stages, pool.shared) (stages', pool'.shared) := by
  cases hadvances with
  | @call i c next reply s' client answer =>
    have hcall := h.obeyed i
    rw [client] at hcall
    obtain ⟨stage', hallowed, hnext⟩ := hcall pool.shared reply s' h.relied answer
    refine ⟨Function.update stages i stage', ⟨regime.keeps h.relied hallowed, fun j => ?_⟩,
      .client h.relied hallowed⟩
    show regime.Obeyed faulty j (Function.update pool.clients i (next reply) j) _ _
    by_cases hj : j = i
    · subst hj
      rw [Function.update_self, Function.update_self]
      exact hnext
    · rw [Function.update_of_ne hj, Function.update_of_ne hj]
      exact h.obeyed j

/-- Whatever clients can come to, the regime has moves that lead there. -/
theorem Heeds.leads [DecidableEq ι] (h : pool.Heeds regime faulty done stages)
    (hleads : pool.Leads faulty pool') :
    ∃ stages', pool'.Heeds regime faulty done stages' ∧
      Relation.ReflTransGen regime.Moves (stages, pool.shared) (stages', pool'.shared) := by
  induction hleads with
  | refl => exact ⟨stages, h, .refl⟩
  | tail _ hadvances ih =>
    obtain ⟨stages₁, h₁, hmoves⟩ := ih
    obtain ⟨stages', h', hmove⟩ := h₁.advance hadvances
    exact ⟨stages', h', hmoves.tail hmove⟩

/-- A client that has returned is through with its work. -/
theorem Heeds.returned (h : pool.Heeds regime faulty done stages) {i : ι} (hended : pool.clients i = pure ()) :
    done i (stages i) := by
  have hobeyed := h.obeyed i
  rw [hended] at hobeyed
  exact hobeyed

end Pool

end SharedTodo.Exchange
