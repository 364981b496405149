import SharedTodo.Services

/-!
# Optimistic updates

A document is read, its new value is computed, and it is replaced on condition that it still is what was
read; otherwise all of it happens again, a limited number of times and at least once. A computation that
leaves the document as it is writes nothing, and one that fails ends the update with nothing written.
-/

namespace SharedTodo

variable {ε α : Type} [OfStorage ε]

/-- The attempts that are really made under a limit. -/
def attempts (limit : Nat) : Nat :=
  max limit 1

/-- An update with some attempts left. -/
def updateWithin (key : String) (limit : Nat)
    (compute : Option String → Except ε (Option String × α)) : Nat → Program ε α
  | 0 => .fail (ofStorage (.retriesExhausted key (attempts limit)))
  | left + 1 => do
    let current ← Program.get key
    let (next, outcome) ← Program.ofExcept (compute current)
    if next = current then pure outcome
    else if ← Program.compareAndSet key current next then pure outcome
    else updateWithin key limit compute left

def update (key : String) (limit : Nat) (compute : Option String → Except ε (Option String × α)) :
    Program ε α :=
  updateWithin key limit compute (attempts limit)

end SharedTodo
