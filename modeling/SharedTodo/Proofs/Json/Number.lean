import SharedTodo.Proofs.Json.Lawful
import SharedTodo.Proofs.Text.Decimal

/-!
# Integers read back

An integer is written in decimal, with a sign in front if it is negative, and read back as long as it fits
into 64 bits (`Codec.lawfulAt_integer`). What may stand behind a value is neither a digit nor a point nor the
letter of an exponent, so the reader stops where the digits end, and what it has read is no fraction.
-/

namespace SharedTodo.Json

/-- A sign that ends a value is none of those that the number before it could go on with. -/
theorem Ends.head?_any {rest : List Char} (h : Ends rest) {p : Char → Bool} (hcomma : p ',' = false)
    (hbracket : p ']' = false) (hbrace : p '\x7d' = false) : rest.head?.any p = false := by
  cases rest with
  | nil => rfl
  | cons c cs => rcases h c cs rfl with rfl | rfl | rfl <;> assumption

namespace Numeral

/-! ## The digits of a word -/

theorem le_foldl_digits (n : Nat) (cs : List Char) :
    n ≤ cs.foldl (fun n c => 10 * n + Text.digitValue c) n := by
  induction cs generalizing n with
  | nil => exact Nat.le_refl n
  | cons c cs ih =>
    have := ih (10 * n + Text.digitValue c)
    rw [List.foldl_cons]
    omega

/-- Digits that write a word are all taken in. -/
theorem absorb_of_le {n : Nat} {cs : List Char}
    (h : cs.foldl (fun n c => 10 * n + Text.digitValue c) n ≤ maxWord) :
    absorb n cs = (cs.foldl (fun n c => 10 * n + Text.digitValue c) n, []) := by
  induction cs generalizing n with
  | nil => rfl
  | cons c cs ih =>
    have hnext := le_foldl_digits (10 * n + Text.digitValue c) cs
    rw [List.foldl_cons] at h ⊢
    rw [absorb, if_pos (by omega), ih h]

theorem spanDigits_append {ds : List Char} (hds : ∀ c ∈ ds, c.isDigit = true) {rest : List Char}
    (hrest : Ends rest) : spanDigits (ds ++ rest) = (ds, rest) := by
  have hstop := hrest.head?_any (p := Char.isDigit) rfl rfl rfl
  rw [spanDigits, List.takeWhile_append_of_pos hds, List.dropWhile_append_of_pos hds]
  cases rest with
  | nil => rw [List.takeWhile_nil, List.dropWhile_nil, List.append_nil]
  | cons c cs =>
    have hc : ¬ c.isDigit = true := Bool.eq_false_iff.1 hstop
    rw [List.takeWhile_cons_of_neg hc, List.dropWhile_cons_of_neg hc, List.append_nil]

theorem readTail_of_ends (negative : Bool) {ds rest : List Char} (hds : Text.ofDigits ds ≤ maxWord)
    (hrest : Ends rest) : readTail negative ds rest = (ofWord negative (Text.ofDigits ds)).map (·, rest) := by
  have habsorb : absorb 0 ds = (Text.ofDigits ds, []) := absorb_of_le hds
  have hexponent := hrest.head?_any (p := isExponentLetter) rfl rfl rfl
  rw [readTail, habsorb]
  cases rest with
  | nil => rfl
  | cons c cs => rcases hrest c cs rfl with rfl | rfl | rfl <;> rfl

theorem read_decimal (negative : Bool) {n : Nat} (h : n ≤ maxWord) {rest : List Char} (hrest : Ends rest) :
    read negative (Text.decimal n ++ rest) = (ofWord negative n).map (·, rest) := by
  have hdigits := @Text.isDigit_of_mem_decimal n
  have htail := @readTail_of_ends negative (Text.decimal n) rest
    (by rw [Text.ofDigits_decimal]; exact h) hrest
  rw [Text.ofDigits_decimal] at htail
  rcases Nat.eq_zero_or_pos n with rfl | hpos
  · have hstop := hrest.head?_any (p := Char.isDigit) rfl rfl rfl
    show (if rest.head?.any Char.isDigit = true then _ else _) = _
    rw [if_neg (by simp [hstop])]
    exact htail
  · have hhead := Text.head?_decimal hpos
    have hspan := spanDigits_append (fun c hc => hdigits hc) hrest
    cases hdecimal : Text.decimal n with
    | nil => exact absurd hdecimal Nat.toDigits_ne_nil
    | cons c cs =>
      rw [hdecimal] at hdigits hhead hspan htail
      have hc : c.isDigit = true := hdigits List.mem_cons_self
      have hzero : c ≠ '0' := fun e => hhead (congrArg some e)
      rw [List.cons_append] at hspan ⊢
      simp [read, hc, hspan, htail]

end Numeral

/-! ## Codecs of integers -/

/-- An integer that fits into 64 bits is read back from its digits. -/
theorem readNumeral_decimalInt {n : Int} (hge : Int64.minValue.toInt ≤ n) (hlt : n < UInt64.size) {rest : List Char}
    (hrest : Ends rest) :
    ∃ c cs numeral, SharedTodo.Text.decimalInt n = c :: cs ∧ (c = '-' ∨ c.isDigit) ∧
      readNumeral (c :: (cs ++ rest)) = .ok (numeral, rest) ∧ numeral.found = .integer n := by
  cases n with
  | ofNat n =>
    have hword : n ≤ Numeral.maxWord :=
      Nat.le_of_lt_succ (Int.ofNat_lt.1 hlt)
    have hread := Numeral.read_decimal false hword hrest
    cases hdecimal : SharedTodo.Text.decimal n with
    | nil => exact absurd hdecimal Nat.toDigits_ne_nil
    | cons c cs =>
      have hc : c.isDigit = true :=
        SharedTodo.Text.isDigit_of_mem_decimal (n := n) (hdecimal ▸ List.mem_cons_self)
      have hsign : c ≠ '-' := by
        rintro rfl
        exact nomatch hc
      rw [hdecimal, List.cons_append] at hread
      refine ⟨c, cs, .natural n, hdecimal, .inr hc, ?_, rfl⟩
      rw [readNumeral, hread]
      · rfl
      · rintro _ ⟨⟩
        exact hsign rfl
  | negSucc n =>
    have hmin : Int64.minValue.toInt = -9223372036854775808 := rfl
    have hhalf : n + 1 ≤ 1 <<< 63 := by omega
    have hword : n + 1 ≤ Numeral.maxWord := Nat.le_trans hhalf (by decide)
    have hread := Numeral.read_decimal true hword hrest
    have hnegative : Numeral.ofWord true (n + 1) = .ok (.negative (n + 1)) := by
      rw [Numeral.ofWord, if_neg (by decide), if_pos ⟨Nat.succ_pos n, hhalf⟩]
    rw [hnegative] at hread
    exact ⟨'-', SharedTodo.Text.decimal (n + 1), .negative (n + 1), rfl, .inl rfl, hread, rfl⟩

/-- A digit or a minus sign starts no other value. -/
theorem startsNumber {c : Char} (h : c = '-' ∨ c.isDigit) :
    isSpace c = false ∧ c ≠ ']' ∧ c ≠ 'n' := by
  rcases h with rfl | h
  · decide
  · refine ⟨?_, ?_, ?_⟩
    · refine Bool.eq_false_iff.2 fun hspace => ?_
      simp only [isSpace, Bool.or_eq_true, beq_iff_eq] at hspace
      rcases hspace with ((rfl | rfl) | rfl) | rfl <;> exact nomatch h
    · rintro rfl
      exact nomatch h
    · rintro rfl
      exact nomatch h

namespace Codec

variable {α : Type} {accept : Int → Option α} {view : α → Int}

theorem lawfulAt_integer (expected : String) {a : α} (hge : Int64.minValue.toInt ≤ view a)
    (hlt : view a < UInt64.size) (haccept : accept (view a) = some a) :
    (integer expected accept view).LawfulAt a where
  starts := by
    obtain ⟨c, cs, -, hwrite, hc, -⟩ := readNumeral_decimalInt hge hlt ends_nil
    obtain ⟨hspace, hbracket, hnull⟩ := startsNumber hc
    exact ⟨c, cs, hwrite, hspace, hbracket, hnull⟩
  read_write rest hrest := by
    obtain ⟨c, cs, numeral, hwrite, hc, hread, hfound⟩ := readNumeral_decimalInt hge hlt hrest
    obtain ⟨hspace, -, -⟩ := startsNumber hc
    have hskip : skipSpace (c :: (cs ++ rest)) = c :: (cs ++ rest) :=
      List.dropWhile_cons_of_neg (by simp [hspace])
    rw [show (integer expected accept view).write a = c :: cs from hwrite, List.cons_append]
    simp only [integer, hskip, if_pos hc, hread, hfound, haccept, bind, Except.bind]

/-- Only what is accepted is read. -/
theorem accepted_of_read {expected : String} {cs rest : List Char} {a : α}
    (h : (integer expected accept view).read cs = .ok (a, rest)) : ∃ n, accept n = some a := by
  simp only [integer] at h
  split at h
  · exact nomatch h
  · split at h
    · next c tail _ _ =>
      cases hread : readNumeral (c :: tail) with
      | error problem => simp [hread, bind, Except.bind] at h
      | ok result =>
        simp only [hread, bind, Except.bind] at h
        split at h
        · next n _ =>
          split at h
          · next haccept =>
            cases h
            exact ⟨n, haccept⟩
          · exact nomatch h
        · exact nomatch h
    · exact nomatch h

theorem Lawful.int32 : Codec.int32.Lawful :=
  .of_lawfulAt fun n => by
    have hlt := n.toInt_lt
    have hge := n.le_toInt
    have hleast : Int64.minValue.toInt = -9223372036854775808 := rfl
    have hsize : UInt64.size = 18446744073709551616 := rfl
    refine lawfulAt_integer "i32" (by omega) (by omega) ?_
    have hmin : Int32.minValue.toInt = -2147483648 := rfl
    have hmax : Int32.maxValue.toInt = 2147483647 := rfl
    rw [if_pos ⟨by omega, by omega⟩, Int32.ofInt_toInt]

theorem lawfulAt_word64 {n : Nat} (h : n < UInt64.size) : word64.LawfulAt n := by
  have hpos : (0 : Int) ≤ Int.ofNat n := Int.natCast_nonneg n
  have hlt : Int.ofNat n < UInt64.size := Int.ofNat_lt.2 h
  exact lawfulAt_integer "usize" (Int.le_trans (by decide) hpos) hlt (if_pos ⟨hpos, hlt⟩)

theorem lt_of_read_word64 {cs rest : List Char} {n : Nat} (h : word64.read cs = .ok (n, rest)) :
    n < UInt64.size := by
  obtain ⟨m, hm⟩ := accepted_of_read h
  split at hm
  · next hbounds =>
    cases hm
    omega
  · exact nomatch hm

end Codec

end SharedTodo.Json
