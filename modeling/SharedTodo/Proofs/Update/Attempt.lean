import SharedTodo.Proofs.Exchange.Conduct

/-!
# Attempts at an update

An optimistic update that has not been decided is about to read its document, or about to write what it has
computed from it (`Attempt`). Whatever state its next call meets, and whatever others have done before, there
are three things that can become of it (`Attempt.answered`): it goes on, or it fails, and in both cases nothing
has changed; or it is decided, and returns with what it computes from the document that this call meets.
-/

namespace SharedTodo

open Exchange

variable {ε α : Type} [OfStorage ε] {key : String} {limit : Nat}
  {compute : Option String → Except ε (Option String × α)}

/-- An update that has read its document and is about to write it. -/
def writing (key : String) (limit : Nat) (compute : Option String → Except ε (Option String × α))
    (left : Nat) (seen new : Option String) (outcome : α) : Program ε α := do
  if ← Program.compareAndSet key seen new then pure outcome
  else updateWithin key limit compute left

/-- What is left of an update that has not been decided. -/
inductive Attempt (key : String) (limit : Nat)
    (compute : Option String → Except ε (Option String × α)) : Program ε α → Prop where
  | read (left : Nat) : Attempt key limit compute (updateWithin key limit compute left)
  | write (left : Nat) {seen new : Option String} {outcome : α}
      (computed : compute seen = .ok (new, outcome)) (other : new ≠ seen) :
    Attempt key limit compute (writing key limit compute left seen new outcome)

/-- What is left of an update after one of its calls, and the state that the call leaves. -/
inductive Attempted (key : String) (limit : Nat)
    (compute : Option String → Except ε (Option String × α)) (s : Shared) :
    Program ε α → Shared → Prop where
  | again {left : Program ε α} (undecided : Attempt key limit compute left) :
    Attempted key limit compute s left s
  | failed (failure : ε) : Attempted key limit compute s (.ended (.error failure)) s
  | decided {new : Option String} {outcome : α} {s' : Shared}
      (computed : compute (s.store.find? key) = .ok (new, outcome)) (writes : Writes key new s s') :
    Attempted key limit compute s (.ended (.ok outcome)) s'

theorem attempt_update (key : String) (limit : Nat)
    (compute : Option String → Except ε (Option String × α)) :
    Attempt key limit compute (update key limit compute) :=
  .read (attempts limit)

/-- An update that ends without having been decided has failed. -/
theorem Attempt.failed_of_ended {outcome : Outcome ε α} (h : Attempt key limit compute (.ended outcome)) :
    ∃ failure, outcome = .error failure := by
  generalize hprogram : Program.ended outcome = program at h
  cases h with
  | read left =>
    cases left with
    | zero =>
      cases hprogram
      exact ⟨_, rfl⟩
    | succ left => exact nomatch hprogram
  | write left computed other => exact nomatch hprogram

theorem Attempt.not_returned {outcome : α} : ¬ Attempt key limit compute (.ended (.ok outcome)) := by
  intro h
  obtain ⟨failure, hfailed⟩ := h.failed_of_ended
  exact nomatch hfailed

section

variable {faulty : Prop} {s s' : Shared}

/-- A call to the store that fails ends an update, and otherwise it goes on with the answer. -/
theorem attempted_of_storeCall {call : StoreCall} {rest : call.Answer → Program ε α}
    {reply : Call.Reply (.store call)} (answer : Answers faulty (.store call) s reply s')
    (hrest : Attempted key limit compute s (rest (Store.perform call s.store).1)
      { s with store := (Store.perform call s.store).2 }) :
    Attempted key limit compute s
      ((match reply with
        | .ok answer => pure answer
        | .error failure => Program.fail (ofStorage (.store failure))) >>= rest) s' := by
  rcases answer with ⟨rfl, rfl⟩ | ⟨-, rfl, failure, rfl⟩
  · exact hrest
  · exact .failed _

theorem Attempt.answered {c : Call} {next : c.Reply → Program ε α} {reply : c.Reply}
    (h : Attempt key limit compute (.call c next)) (answer : Answers faulty c s reply s') :
    Attempted key limit compute s (next reply) s' := by
  generalize hprogram : Program.call c next = program at h
  cases h with
  | read left =>
    cases left with
    | zero => exact nomatch hprogram
    | succ left =>
      cases hprogram
      refine attempted_of_storeCall answer ?_
      show Attempted key limit compute s (Program.ofExcept (compute (s.store.find? key)) >>= _) s
      cases hcompute : compute (s.store.find? key) with
      | error failure => exact .failed failure
      | ok result =>
        obtain ⟨new, outcome⟩ := result
        show Attempted key limit compute s (if new = s.store.find? key then _ else _) s
        split
        · next hsame => exact .decided hcompute (.kept hsame)
        · next hother => exact .again (.write left hcompute hother)
  | @write left seen new outcome computed other =>
    cases hprogram
    refine attempted_of_storeCall answer ?_
    simp only [Store.perform]
    split
    · next hseen =>
      -- the document is what it was when it was read, whatever it has been in between
      rw [← hseen] at computed other
      exact .decided computed (.written other)
    · exact .again (.read left)

end

end SharedTodo
