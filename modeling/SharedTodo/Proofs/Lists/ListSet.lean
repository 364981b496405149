import SharedTodo.Lists.UserLists

/-!
# Sets of lists

Some lists of some users: those that an operation touches, and those that users are told to load again.
-/

namespace SharedTodo

abbrev ListSet :=
  UserId → ListKind → Prop

namespace ListSet

def none : ListSet :=
  fun _ _ => False

/-- Lists of one user, if there is one. -/
def of (user : Option UserId) (kinds : List ListKind) : ListSet :=
  fun other kind => user = some other ∧ kind ∈ kinds

def both (lists lists' : ListSet) : ListSet :=
  fun user kind => lists user kind ∨ lists' user kind

/-- The list of an entry, and the lists of the counterpart user in which the counterpart can be. -/
def halves (user : UserId) (kind : ListKind) (other : Option UserId) : ListSet :=
  both (of (some user) [kind]) (of other (if kind = .out then [.my, .inbox] else [.out]))

variable {lists lists' : ListSet} {user : UserId} {kind : ListKind}

@[simp] theorem none_iff : none user kind ↔ False :=
  .rfl

@[simp] theorem of_iff {other : Option UserId} {kinds : List ListKind} :
    of other kinds user kind ↔ other = some user ∧ kind ∈ kinds :=
  .rfl

@[simp] theorem both_iff : both lists lists' user kind ↔ lists user kind ∨ lists' user kind :=
  .rfl

theorem halves_of_sides {kind' : ListKind} {other : Option UserId} (hsides : kind = .out ↔ kind' ≠ .out)
    {owner : UserId} {k : ListKind} (h : both (of (some user) [kind]) (of other [kind']) owner k) :
    halves user kind other owner k := by
  rcases h with hown | ⟨hother, hk⟩
  · exact .inl hown
  · refine .inr ⟨hother, ?_⟩
    rw [List.mem_singleton.1 hk]
    revert hsides
    cases kind <;> cases kind' <;> decide

end ListSet

end SharedTodo
