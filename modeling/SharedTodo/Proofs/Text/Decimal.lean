import SharedTodo.Text.Ascii

/-!
# Decimal digits read back

A number written at a fixed width that it fits into, or without leading zeros, is the number that its digits
stand for (`ofDigits_decimalPadded`, `ofDigits_decimal`). Every character written is a digit, so a reader
that stops at the first other character stops exactly behind it (`takeWhile_digits`).
-/

namespace SharedTodo.Text

theorem isDigit_digitChar : ∀ n < 10, (digitChar n).isDigit = true := by
  decide

theorem digitValue_digitChar : ∀ n < 10, digitValue (digitChar n) = n := by
  decide

/-! ## Digits at a fixed width -/

theorem length_decimalPadded (width n : Nat) : (decimalPadded width n).length = width := by
  induction width generalizing n with
  | zero => rfl
  | succ w ih => simp [decimalPadded, ih]

theorem isDigit_of_mem_decimalPadded {width n : Nat} {c : Char} (h : c ∈ decimalPadded width n) :
    c.isDigit = true := by
  induction width generalizing n with
  | zero => simp [decimalPadded] at h
  | succ w ih =>
    rcases List.mem_append.1 h with h | h
    · exact ih h
    · rw [List.mem_singleton.1 h]
      exact isDigit_digitChar _ (Nat.mod_lt n (by decide))

theorem ofDigits_append_singleton (ds : List Char) (c : Char) :
    ofDigits (ds ++ [c]) = 10 * ofDigits ds + digitValue c := by
  simp [ofDigits, List.foldl_append]

theorem ofDigits_decimalPadded (width n : Nat) (h : n < Nat.pow 10 width) :
    ofDigits (decimalPadded width n) = n := by
  induction width generalizing n with
  | zero =>
    have hn : n = 0 := Nat.lt_one_iff.1 h
    rw [hn]
    rfl
  | succ w ih =>
    have hpow : Nat.pow 10 (w + 1) = Nat.pow 10 w * 10 := rfl
    have hdiv : n / 10 < Nat.pow 10 w := Nat.div_lt_of_lt_mul (by omega)
    rw [decimalPadded, ofDigits_append_singleton, ih _ hdiv,
      digitValue_digitChar _ (Nat.mod_lt n (by decide))]
    omega

/-! ## Digits without leading zeros -/

theorem ofDigits_eq_ofDigitChars (ds : List Char) : ofDigits ds = Nat.ofDigitChars 10 ds 0 := by
  rw [Nat.ofDigitChars_eq_foldl]
  rfl

theorem isDigit_of_mem_decimal {n : Nat} {c : Char} (h : c ∈ decimal n) : c.isDigit = true :=
  Nat.isDigit_of_mem_toDigits (by decide) (by decide) h

theorem ofDigits_decimal (n : Nat) : ofDigits (decimal n) = n := by
  rw [ofDigits_eq_ofDigitChars]
  exact Nat.ofDigitChars_ten_toDigits

theorem ofDigits_zeros_append (k : Nat) (ds : List Char) :
    ofDigits (List.replicate k '0' ++ ds) = ofDigits ds := by
  rw [ofDigits_eq_ofDigitChars, ofDigits_eq_ofDigitChars, Nat.ofDigitChars_append,
    Nat.ofDigitChars_replicate_zero, Nat.mul_zero]

/-- Only zero is written with a zero in front. -/
theorem head?_decimal {n : Nat} (h : 0 < n) : (decimal n).head? ≠ some '0' := by
  have hdigit : ∀ n < 10, 0 < n → [Nat.digitChar n].head? ≠ some '0' := by decide
  induction n using Nat.strongRecOn with
  | ind n ih =>
    rw [decimal, Nat.toDigits_eq_if (by decide)]
    split
    · next hlt => exact hdigit n hlt h
    · next hge =>
      have hhead := ih (n / 10) (by omega) (by omega)
      rw [decimal] at hhead
      cases hdigits : Nat.toDigits 10 (n / 10) with
      | nil => exact absurd hdigits Nat.toDigits_ne_nil
      | cons c cs =>
        rw [hdigits] at hhead
        exact hhead

/-! ## Where digits end -/

theorem takeWhile_digits {ds : List Char} (hds : ∀ c ∈ ds, c.isDigit = true) {c : Char}
    (hc : c.isDigit = false) (rest : List Char) :
    (ds ++ c :: rest).takeWhile Char.isDigit = ds := by
  rw [List.takeWhile_append_of_pos hds, List.takeWhile_cons_of_neg (by simp [hc]), List.append_nil]

end SharedTodo.Text
