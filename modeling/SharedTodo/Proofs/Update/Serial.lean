import Mathlib.Logic.Function.Basic
import Mathlib.Logic.Relation
import SharedTodo.Preferences.Stored
import SharedTodo.Proofs.Documents
import SharedTodo.Proofs.Update.Attempt

/-!
# Updates in series

Any number of callers update one document at the same time, each with a computation and a limit of its own,
and their calls are answered in any order. Others may do what they like with all other documents. Then what
has become of the document at any moment is what the updates that have returned by then make of it one after
the other (`Serial`), with the outcomes that they returned, and an update that fails has changed nothing.

The order is the one in which the updates are decided: with the call that writes, or, where nothing needs
writing, with the call that reads. One call of one caller leaves the series as it is or adds that caller at
its end (`Callers.InSeries.calls`).
-/

namespace SharedTodo

open Exchange

variable {ι : Type} {ε α : ι → Type}

/-- What updates in this order, with these outcomes, make of a document. -/
inductive Serial (compute : ∀ i, Option String → Except (ε i) (Option String × α i))
    (first : Option String) : List (Σ i, α i) → Option String → Prop where
  | nil : Serial compute first [] first
  | next {order : List (Σ i, α i)} {middle last : Option String} {i : ι} {outcome : α i}
      (earlier : Serial compute first order middle)
      (computed : compute i middle = .ok (last, outcome)) :
    Serial compute first (order ++ [⟨i, outcome⟩]) last

/-- Callers of updates with what is left of them, and the state they share. -/
structure Callers (ι : Type) (ε α : ι → Type) where
  programs : ∀ i, Program (ε i) (α i)
  shared : Shared

namespace Callers

def start [∀ i, OfStorage (ε i)] (key : String) (limits : ι → Nat)
    (compute : ∀ i, Option String → Except (ε i) (Option String × α i)) (s : Shared) : Callers ι ε α :=
  ⟨fun i => update key (limits i) (compute i), s⟩

section

variable [DecidableEq ι]

/-- The callers when one of them is left with this program in this state. -/
def proceed (callers : Callers ι ε α) (i : ι) (left : Program (ε i) (α i)) (s' : Shared) :
    Callers ι ε α :=
  ⟨Function.update callers.programs i left, s'⟩

@[simp] theorem proceed_self (callers : Callers ι ε α) (i : ι) (left : Program (ε i) (α i))
    (s' : Shared) : (callers.proceed i left s').programs i = left :=
  Function.update_self ..

theorem proceed_of_ne (callers : Callers ι ε α) {i j : ι} (left : Program (ε i) (α i)) (s' : Shared)
    (h : j ≠ i) : (callers.proceed i left s').programs j = callers.programs j :=
  Function.update_of_ne h ..

/-- One caller has one of its calls answered. -/
inductive Calls (faulty : Prop) (i : ι) : Callers ι ε α → Callers ι ε α → Prop where
  | call {callers : Callers ι ε α} {c : Call} {next : c.Reply → Program (ε i) (α i)} {reply : c.Reply}
      {s' : Shared} (program : callers.programs i = .call c next)
      (answer : Answers faulty c callers.shared reply s') :
      Calls faulty i callers (callers.proceed i (next reply) s')

/-- One call of one caller, or a change by somebody else that leaves the document alone. -/
inductive Advances (faulty : Prop) (key : String) : Callers ι ε α → Callers ι ε α → Prop where
  | caller {callers callers' : Callers ι ε α} {i : ι} (calls : callers.Calls faulty i callers') :
      Advances faulty key callers callers'
  | elsewhere {callers : Callers ι ε α} {s' : Shared}
      (untouched : s'.store.find? key = callers.shared.store.find? key) :
      Advances faulty key callers ⟨callers.programs, s'⟩

/-- What callers can come to after any number of calls. -/
def Leads (faulty : Prop) (key : String) : Callers ι ε α → Callers ι ε α → Prop :=
  Relation.ReflTransGen (Advances faulty key)

end

/-! ## The series so far -/

variable [∀ i, OfStorage (ε i)] {faulty : Prop} {key : String} {limits : ι → Nat}
  {compute : ∀ i, Option String → Except (ε i) (Option String × α i)} {first : Option String}
  {callers callers' : Callers ι ε α} {order : List (Σ i, α i)} {i : ι}

/-- The callers that have returned, in the order in which their updates were decided. -/
structure InSeries (key : String) (limits : ι → Nat)
    (compute : ∀ i, Option String → Except (ε i) (Option String × α i)) (first : Option String)
    (callers : Callers ι ε α) (order : List (Σ i, α i)) : Prop where
  serial : Serial compute first order (callers.shared.store.find? key)
  once : (order.map Sigma.fst).Nodup
  returned : ∀ i outcome, ⟨i, outcome⟩ ∈ order ↔ callers.programs i = .ended (.ok outcome)
  undecided : ∀ i c next, callers.programs i = .call c next →
    Attempt key (limits i) (compute i) (.call c next)

theorem inSeries_start (key : String) (limits : ι → Nat)
    (compute : ∀ i, Option String → Except (ε i) (Option String × α i)) (s : Shared) :
    InSeries key limits compute (s.store.find? key) (start key limits compute s) [] where
  serial := .nil
  once := List.nodup_nil
  returned i outcome := by
    refine ⟨nofun, fun h => ?_⟩
    have hattempt := attempt_update key (limits i) (compute i)
    rw [show update key (limits i) (compute i) = .ended (.ok outcome) from h] at hattempt
    exact absurd hattempt Attempt.not_returned
  undecided i c next h := h ▸ attempt_update key (limits i) (compute i)

/-- A caller with a call to make is not in the series. -/
theorem InSeries.not_mem {c : Call} {next : c.Reply → Program (ε i) (α i)}
    (h : InSeries key limits compute first callers order) (hcall : callers.programs i = .call c next)
    (outcome : α i) : ⟨i, outcome⟩ ∉ order := by
  intro hmem
  have hended := (h.returned i outcome).1 hmem
  rw [hcall] at hended
  exact nomatch hended

variable [DecidableEq ι]

theorem InSeries.undecided_proceed {left : Program (ε i) (α i)} {s' : Shared}
    (h : InSeries key limits compute first callers order)
    (hleft : ∀ c next, left = .call c next → Attempt key (limits i) (compute i) left) (j : ι) (c : Call)
    (next : c.Reply → Program (ε j) (α j)) (hcall : (callers.proceed i left s').programs j = .call c next) :
    Attempt key (limits j) (compute j) (.call c next) := by
  by_cases hj : j = i
  · subst hj
    rw [proceed_self] at hcall
    exact hcall ▸ hleft c next hcall
  · rw [proceed_of_ne callers left s' hj] at hcall
    exact h.undecided j c next hcall

/-- A caller goes on or fails, and the document stays what it is. -/
theorem InSeries.unreturned {left : Program (ε i) (α i)} {s' : Shared}
    (h : InSeries key limits compute first callers order) (hnew : ∀ outcome, ⟨i, outcome⟩ ∉ order)
    (hunreturned : ∀ outcome, left ≠ .ended (.ok outcome))
    (hleft : ∀ c next, left = .call c next → Attempt key (limits i) (compute i) left)
    (hsame : s'.store.find? key = callers.shared.store.find? key) :
    InSeries key limits compute first (callers.proceed i left s') order where
  serial := by
    show Serial compute first order (s'.store.find? key)
    rw [hsame]
    exact h.serial
  once := h.once
  returned j outcome := by
    by_cases hj : j = i
    · subst hj
      rw [proceed_self]
      exact iff_of_false (hnew outcome) (hunreturned outcome)
    · rw [proceed_of_ne callers left s' hj]
      exact h.returned j outcome
  undecided := h.undecided_proceed hleft

/-- A caller returns with what it computes from the document as the others have left it. -/
theorem InSeries.decided {outcome : α i} {s' : Shared}
    (h : InSeries key limits compute first callers order) (hnew : ∀ outcome, ⟨i, outcome⟩ ∉ order)
    (hcomputed : compute i (callers.shared.store.find? key) = .ok (s'.store.find? key, outcome)) :
    InSeries key limits compute first (callers.proceed i (.ended (.ok outcome)) s')
      (order ++ [⟨i, outcome⟩]) where
  serial := .next h.serial hcomputed
  once := by
    have hfresh : i ∉ order.map Sigma.fst := by
      intro hmem
      obtain ⟨⟨j, outcome'⟩, hreturned, rfl⟩ := List.mem_map.1 hmem
      exact hnew outcome' hreturned
    rw [List.map_append, List.nodup_append]
    refine ⟨h.once, List.nodup_cons.2 ⟨List.not_mem_nil, .nil⟩, fun j hj k hk => ?_⟩
    rw [List.mem_singleton.1 hk]
    exact ne_of_mem_of_not_mem hj hfresh
  returned j outcome' := by
    rw [List.mem_append, List.mem_singleton]
    by_cases hj : j = i
    · subst hj
      rw [proceed_self, or_iff_right (hnew outcome')]
      constructor
      · intro hlast
        rw [eq_of_heq (Sigma.mk.inj hlast).2]
      · intro hended
        cases hended
        rfl
    · rw [proceed_of_ne callers _ s' hj, ← h.returned j outcome']
      exact or_iff_left fun hlast => hj (Sigma.mk.inj hlast).1
  undecided := h.undecided_proceed nofun

theorem find?_of_writes {new : Option String} {s s' : Shared} (h : Writes key new s s') :
    s'.store.find? key = new := by
  cases h with
  | kept same => exact same.symm
  | written other => exact (s.store.find?_assign key key new).trans (if_pos rfl)

/-- One call of a caller: nothing has changed, or the caller has returned and is the last of the series. -/
theorem InSeries.calls (h : InSeries key limits compute first callers order)
    (hcalls : callers.Calls faulty i callers') :
    (callers'.shared = callers.shared ∧ InSeries key limits compute first callers' order) ∨
      ∃ outcome, callers'.programs i = .ended (.ok outcome) ∧
        InSeries key limits compute first callers' (order ++ [⟨i, outcome⟩]) := by
  cases hcalls with
  | @call c next reply s' program answer =>
    have hnew := h.not_mem program
    have hattempted := (h.undecided i c next program).answered answer
    generalize hleft : next reply = left at hattempted
    cases hattempted with
    | again undecided =>
      refine .inl ⟨rfl, h.unreturned hnew (fun outcome => ?_) (fun _ _ _ => undecided) rfl⟩
      rintro rfl
      exact absurd undecided Attempt.not_returned
    | failed failure => exact .inl ⟨rfl, h.unreturned hnew nofun nofun rfl⟩
    | @decided new outcome _ computed writes =>
      refine .inr ⟨outcome, callers.proceed_self .., h.decided hnew ?_⟩
      rw [find?_of_writes writes]
      exact computed

theorem InSeries.advances (h : InSeries key limits compute first callers order)
    (hadvances : Advances faulty key callers callers') :
    ∃ order', InSeries key limits compute first callers' order' := by
  cases hadvances with
  | caller calls =>
    rcases h.calls calls with ⟨-, hsame⟩ | ⟨outcome, -, hnext⟩
    · exact ⟨order, hsame⟩
    · exact ⟨_, hnext⟩
  | elsewhere untouched =>
    refine ⟨order, ?_, h.once, h.returned, h.undecided⟩
    rw [untouched]
    exact h.serial

theorem InSeries.leads (h : InSeries key limits compute first callers order)
    (hleads : callers.Leads faulty key callers') :
    ∃ order', InSeries key limits compute first callers' order' := by
  induction hleads with
  | refl => exact ⟨order, h⟩
  | tail _ hadvances ih =>
    obtain ⟨_, hmiddle⟩ := ih
    exact hmiddle.advances hadvances

/-- Serialisability: at every moment of every run, the document is what the updates that have returned make of
its first value one after the other, and a call that changes anything is one with which its update returns. -/
theorem serial_of_leads (s : Shared) (hleads : (start key limits compute s).Leads faulty key callers) :
    (∃ order, Serial compute (s.store.find? key) order (callers.shared.store.find? key) ∧
      (order.map Sigma.fst).Nodup ∧
      ∀ i outcome, ⟨i, outcome⟩ ∈ order ↔ callers.programs i = .ended (.ok outcome)) ∧
    ∀ i callers', callers.Calls faulty i callers' → callers'.shared ≠ callers.shared →
      ∃ outcome, callers'.programs i = .ended (.ok outcome) := by
  obtain ⟨order, h⟩ := (inSeries_start key limits compute s).leads hleads
  refine ⟨⟨order, h.serial, h.once, h.returned⟩, fun i callers' hcalls hchanged => ?_⟩
  rcases h.calls hcalls with ⟨hsame, -⟩ | ⟨outcome, hreturned, -⟩
  · exact absurd hsame hchanged
  · exact ⟨outcome, hreturned⟩

/-! ## A run with a refused write -/

section

variable {left : Nat} {seen new : Option String} {outcome : α i}

/-- The first call of an attempt reads the document. -/
theorem calls_read (hprogram : callers.programs i = updateWithin key (limits i) (compute i) (left + 1))
    (hcomputed : compute i (callers.shared.store.find? key) = .ok (new, outcome))
    (hother : new ≠ callers.shared.store.find? key) :
    callers.Calls faulty i (callers.proceed i
      (writing key (limits i) (compute i) left (callers.shared.store.find? key) new outcome)
      callers.shared) := by
  have hnext : (Program.ofExcept (compute i (callers.shared.store.find? key)) >>= fun (new, outcome) =>
      if new = callers.shared.store.find? key then pure outcome
      else writing key (limits i) (compute i) left (callers.shared.store.find? key) new outcome) =
      writing key (limits i) (compute i) left (callers.shared.store.find? key) new outcome := by
    rw [hcomputed]
    exact if_neg hother
  rw [← hnext]
  exact .call hprogram (.inl ⟨rfl, rfl⟩)

/-- The second call writes it as long as it is what was read. -/
theorem calls_write (hprogram : callers.programs i = writing key (limits i) (compute i) left seen new outcome)
    (hseen : callers.shared.store.find? key = seen) :
    callers.Calls faulty i (callers.proceed i (.ended (.ok outcome))
      { callers.shared with store := callers.shared.store.assign key new }) := by
  have hcall := Calls.call hprogram
    (.inl ⟨rfl, rfl⟩ : Answers faulty (.store (.compareAndSet key seen new)) callers.shared _ _)
  simp only [Store.perform, if_pos hseen] at hcall
  exact hcall

theorem calls_refused (hprogram : callers.programs i = writing key (limits i) (compute i) left seen new outcome)
    (hseen : callers.shared.store.find? key ≠ seen) :
    callers.Calls faulty i (callers.proceed i (updateWithin key (limits i) (compute i) left) callers.shared) := by
  have hcall := Calls.call hprogram
    (.inl ⟨rfl, rfl⟩ : Answers faulty (.store (.compareAndSet key seen new)) callers.shared _ _)
  simp only [Store.perform, if_neg hseen] at hcall
  exact hcall

end

/-- Two callers read the same document. The one writes, the write of the other one is refused, and it begins
again with what the first one has written. -/
theorem exists_contended {j : ι} (hji : j ≠ i) (s : Shared) {early raced late : Option String}
    {outcome : α i} {wasted returned : α j}
    (hearly : compute i (s.store.find? key) = .ok (early, outcome)) (hearly' : early ≠ s.store.find? key)
    (hraced : compute j (s.store.find? key) = .ok (raced, wasted)) (hraced' : raced ≠ s.store.find? key)
    (hlate : compute j early = .ok (late, returned)) (hlate' : late ≠ early) (hlimit : 2 ≤ limits j) :
    ∃ callers, (start key limits compute s).Leads faulty key callers ∧
      callers.programs i = .ended (.ok outcome) ∧ callers.programs j = .ended (.ok returned) := by
  obtain ⟨left, hleft⟩ : ∃ left, attempts (limits i) = left + 1 :=
    ⟨attempts (limits i) - 1, by rw [attempts]; omega⟩
  obtain ⟨left', hleft'⟩ : ∃ left', attempts (limits j) = left' + 1 + 1 :=
    ⟨attempts (limits j) - 2, by rw [attempts]; omega⟩
  let s₁ : Shared := { s with store := s.store.assign key early }
  have hwritten : s₁.store.find? key = early := (s.store.find?_assign key key early).trans (if_pos rfl)
  let c₀ := start key limits compute s
  let c₁ := c₀.proceed j (writing key (limits j) (compute j) (left' + 1) (s.store.find? key) raced wasted) s
  let c₂ := c₁.proceed i (writing key (limits i) (compute i) left (s.store.find? key) early outcome) s
  let c₃ := c₂.proceed i (.ended (.ok outcome)) s₁
  let c₄ := c₃.proceed j (updateWithin key (limits j) (compute j) (left' + 1)) s₁
  let c₅ := c₄.proceed j (writing key (limits j) (compute j) left' (s₁.store.find? key) late returned) s₁
  have hi₀ : c₀.programs i = updateWithin key (limits i) (compute i) (left + 1) := by
    rw [← hleft]
    rfl
  have hj₀ : c₀.programs j = updateWithin key (limits j) (compute j) (left' + 1 + 1) := by
    rw [← hleft']
    rfl
  have h₁ : c₀.Calls faulty j c₁ := calls_read hj₀ hraced hraced'
  have h₂ : c₁.Calls faulty i c₂ :=
    calls_read ((proceed_of_ne _ _ _ hji.symm).trans hi₀) hearly hearly'
  have h₃ : c₂.Calls faulty i c₃ := calls_write (proceed_self ..) rfl
  have hj₃ : c₃.programs j = _ :=
    (proceed_of_ne _ _ _ hji).trans ((proceed_of_ne _ _ _ hji).trans (proceed_self ..))
  have h₄ : c₃.Calls faulty j c₄ := calls_refused hj₃ (hwritten ▸ hearly')
  have h₅ : c₄.Calls faulty j c₅ :=
    calls_read (proceed_self ..) (hwritten.symm ▸ hlate) (hwritten.symm ▸ hlate')
  have h₆ : c₅.Calls faulty j (c₅.proceed j (.ended (.ok returned))
      { s₁ with store := s₁.store.assign key late }) := calls_write (proceed_self ..) rfl
  refine ⟨_, .head (.caller h₁) (.head (.caller h₂) (.head (.caller h₃) (.head (.caller h₄)
    (.head (.caller h₅) (.single (.caller h₆)))))), ?_, proceed_self ..⟩
  rw [proceed_of_ne _ _ _ hji.symm, proceed_of_ne _ _ _ hji.symm, proceed_of_ne _ _ _ hji.symm]
  exact proceed_self ..

/-- One client turns the daily summary off, and another one the requests of others. -/
def turnOff : Bool → Preferences → Preferences
  | true, prefs => { prefs with dailySummary := false }
  | false, prefs => { prefs with allowIncoming := false }

theorem switched_encode (key : String) (change : Preferences → Preferences) (prefs : Preferences) :
    PreferenceStore.switched key change (some (Preferences.codec.encode prefs)) =
      .ok (some (Preferences.codec.encode (change prefs)), change prefs) := by
  rw [PreferenceStore.switched, PreferenceStore.ofDocument, Preferences.decode_encode]
  rfl

/-- Two clients of a user without stored preferences turn off one of them each. The later write is refused
once, and both changes are kept. -/
theorem turnedOff_serial :
    ∃ callers : Callers Bool (fun _ => StorageError) fun _ => Preferences,
      (start "pref_amy" (fun _ => 5) (fun i => PreferenceStore.switched "pref_amy" (turnOff i)) .initial).Leads
        False "pref_amy" callers ∧
      ∃ order, Serial (fun i => PreferenceStore.switched "pref_amy" (turnOff i)) none order
          (callers.shared.store.find? "pref_amy") ∧
        ∀ i, ∃ prefs, ⟨i, prefs⟩ ∈ order := by
  have hdiffer : some (Preferences.codec.encode ⟨false, false, none⟩) ≠
      some (Preferences.codec.encode ⟨false, true, none⟩) := fun h =>
    nomatch Preferences.lawful_codec.eq_of_encode_eq (Option.some.inj h)
  obtain ⟨callers, hleads, hdaily, hincoming⟩ :=
    @exists_contended Bool (fun _ => StorageError) (fun _ => Preferences) _ False "pref_amy" (fun _ => 5)
      (fun i => PreferenceStore.switched "pref_amy" (turnOff i)) true _ false nofun .initial _ _ _ _ _ _
      rfl nofun rfl nofun (switched_encode "pref_amy" (turnOff false) ⟨false, true, none⟩) hdiffer (by decide)
  obtain ⟨⟨order, hserial, -, hreturned⟩, -⟩ := serial_of_leads .initial hleads
  refine ⟨callers, hleads, order, hserial, fun i => ?_⟩
  cases i with
  | true => exact ⟨_, (hreturned true _).2 hdaily⟩
  | false => exact ⟨_, (hreturned false _).2 hincoming⟩

end Callers

end SharedTodo
