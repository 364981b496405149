import SharedTodo.Json.Record

/-!
# Where the values of a record come from

Every value of a record that has been read from an object was read by the codec of its field, or is the one
that a missing field stands for (`Record.sourced_of_readObject`). So what holds of all values that a field's
codec reads, holds of the field in every record that is read.
-/

namespace SharedTodo

/-- Two steps succeed together when each of them does. -/
theorem ok_of_bind {ε α β : Type} {first : Except ε α} {next : α → Except ε β} {b : β}
    (h : (first >>= next) = .ok b) : ∃ a, first = .ok a ∧ next a = .ok b := by
  cases first with
  | error problem => exact nomatch h
  | ok a => exact ⟨a, rfl, h⟩

namespace Json

/-- The codec of the field reads this value from some text. -/
def Field.Reads (field : Field) (value : field.Value) : Prop :=
  ∃ cs rest, field.codec.read cs = .ok (value, rest)

/-- Every value is one that its field reads, or the one that the missing field stands for. -/
def Values.Sourced : (fields : List Field) → Values fields → Prop
  | [], _ => True
  | field :: fields, (value, values) =>
    (field.Reads value ∨ field.absent = some value) ∧ Values.Sourced fields values

/-- Whatever has been read so far is a value that its field reads. -/
def Slots.Sourced : (fields : List Field) → Slots fields → Prop
  | [], _ => True
  | field :: fields, (slot, slots) =>
    (∀ value, slot = some value → field.Reads value) ∧ Slots.Sourced fields slots

theorem Codec.read_of_optional {α : Type} {codec : Codec α} {cs rest : List Char} {a : α}
    (h : codec.optional.read cs = .ok (some a, rest)) : codec.read cs = .ok (a, rest) := by
  simp only [Codec.optional] at h
  split at h
  · next tail _ => cases hword : word wordNull tail <;> simp [hword, Except.map] at h
  · cases hread : codec.read cs with
    | error problem => simp [hread, Except.map] at h
    | ok result =>
      simp only [hread, Except.map] at h
      cases h
      rfl

namespace Slots

theorem sourced_blank (fields : List Field) : Sourced fields (blank fields) := by
  induction fields with
  | nil => trivial
  | cons field fields ih => exact ⟨nofun, ih⟩

/-- Reading one more value keeps the others. -/
theorem Sourced.read {fields : List Field} {name : String} {slots slots' : Slots fields}
    {cs rest : List Char} (h : Sourced fields slots)
    (hread : read fields name slots cs = some (.ok (slots', rest))) : Sourced fields slots' := by
  induction fields with
  | nil => exact nomatch hread
  | cons field fields ih =>
    obtain ⟨slot, slots⟩ := slots
    obtain ⟨slot', slots'⟩ := slots'
    simp only [Slots.read] at hread
    split at hread
    · cases slot with
      | some value => exact nomatch hread
      | none =>
        obtain ⟨cs', -, hread⟩ := ok_of_bind (Option.some.inj hread)
        obtain ⟨⟨value, rest'⟩, hvalue, hread⟩ := ok_of_bind hread
        cases hread
        refine ⟨fun value hsome => ?_, h.2⟩
        cases hsome
        exact ⟨cs', _, hvalue⟩
    · cases hlater : Slots.read fields name slots cs with
      | none => simp [hlater] at hread
      | some result =>
        cases result with
        | error problem => simp [hlater, Except.map] at hread
        | ok result =>
          simp only [hlater, Option.map, Except.map] at hread
          cases hread
          exact ⟨h.1, ih h.2 hlater⟩

theorem Sourced.close {fields : List Field} {slots : Slots fields} {values : Values fields}
    (h : Sourced fields slots) (hclose : close fields slots = .ok values) : Values.Sourced fields values := by
  induction fields with
  | nil => trivial
  | cons field fields ih =>
    obtain ⟨slot, slots⟩ := slots
    obtain ⟨value, values⟩ := values
    simp only [Slots.close] at hclose
    split at hclose
    · exact nomatch hclose
    · next found hfound =>
      cases hrest : Slots.close fields slots with
      | error problem => simp [hrest, Except.map] at hclose
      | ok others =>
        simp only [hrest, Except.map] at hclose
        cases hclose
        refine ⟨?_, ih h.2 hrest⟩
        cases slot with
        | none => exact .inr hfound
        | some read => exact .inl (h.1 value hfound)

end Slots

namespace Record

variable {fields : List Field} {skip : List Char → Except Problem (List Char)}

/-- One member more, and from it on all that follow it. -/
theorem sourced_of_readMembers {fuel : Nat} {slots slots' : Slots fields} {cs rest : List Char}
    (h : Slots.Sourced fields slots) (hread : readMembers fields skip fuel slots cs = .ok (slots', rest)) :
    Slots.Sourced fields slots' := by
  induction fuel generalizing slots cs with
  | zero => exact nomatch hread
  | succ fuel ih =>
    obtain ⟨⟨name, cs₁⟩, -, hread⟩ := ok_of_bind hread
    obtain ⟨⟨slots₁, cs₂⟩, hmember, hread⟩ := ok_of_bind hread
    have h₁ : Slots.Sourced fields slots₁ := by
      split at hmember
      · next result hresult =>
        rw [hmember] at hresult
        exact h.read hresult
      · -- the value of a name that is no field's
        obtain ⟨cs', -, hmember⟩ := ok_of_bind hmember
        obtain ⟨cs'', -, hmember⟩ := ok_of_bind hmember
        cases hmember
        exact h
    obtain ⟨later, -, hread⟩ := ok_of_bind hread
    cases later with
    | none =>
      cases hread
      exact h₁
    | some cs₃ => exact ih h₁ hread

theorem sourced_of_readObject {cs rest : List Char} {values : Values fields}
    (hread : readObject fields skip cs = .ok (values, rest)) : Values.Sourced fields values := by
  obtain ⟨⟨slots, cs₁⟩, hmembers, hread⟩ := ok_of_bind hread
  have hslots : Slots.Sourced fields slots := by
    split at hmembers
    · exact nomatch hmembers
    · cases hmembers
      exact Slots.sourced_blank fields
    · obtain ⟨cs₂, -, hmembers⟩ := ok_of_bind hmembers
      exact sourced_of_readMembers (Slots.sourced_blank fields) hmembers
  obtain ⟨values', hclose, hread⟩ := ok_of_bind hread
  obtain ⟨cs₃, -, hread⟩ := ok_of_bind hread
  cases hread
  exact hslots.close hclose

/-- The values of a record that has been read from an object alone. -/
theorem sourced_of_openCodec {title : String} {cs rest : List Char} {values : Values fields}
    (hread : (openCodec title fields).read cs = .ok (values, rest)) : Values.Sourced fields values := by
  simp only [openCodec] at hread
  split at hread
  · exact sourced_of_readObject hread
  · exact nomatch hread

end Record

end Json

end SharedTodo
