import SharedTodo.Proofs.Text.Decimal
import SharedTodo.Time.Rfc3339

/-!
# RFC 3339 texts read back

Every instant comes back from its text (`read_write`), leap seconds included. The reader takes blanks, short
numbers and offsets that are never written, so the proof goes through the written form alone: each component
is a run of digits with a sign behind it that is no digit, which is where the reader of a number stops.

What has to be known of the calendar is that a day number gives a month and a day that two digits can write,
and that the instants of the supported range have years of the supported range.
-/

namespace SharedTodo.Time

namespace CivilDate

/-! ## The bounds of a date -/

theorem month_ofDays (days : Int) : 1 ≤ (ofDays days).month ∧ (ofDays days).month ≤ 12 := by
  have hpos := Int.emod_nonneg (days + epochShift) (show (146097 : Int) ≠ 0 by decide)
  have hlt := Int.emod_lt_of_pos (days + epochShift) (show (0 : Int) < 146097 by decide)
  obtain ⟨hd0, hd1⟩ := dayOfYear_bounds hpos hlt
  obtain ⟨hm0, hm1, -⟩ := daysBeforeMonth_add hd0 hd1
  simp only [ofDays]
  split <;> omega

theorem day_ofDays (days : Int) : 1 ≤ (ofDays days).day ∧ (ofDays days).day ≤ 31 := by
  have hpos := Int.emod_nonneg (days + epochShift) (show (146097 : Int) ≠ 0 by decide)
  have hlt := Int.emod_lt_of_pos (days + epochShift) (show (0 : Int) < 146097 by decide)
  obtain ⟨hd0, hd1⟩ := dayOfYear_bounds hpos hlt
  simp only [ofDays, daysBeforeMonth]
  omega

/-- The days before a year that starts in March, counted over whole cycles. -/
def daysBefore (year : Int) : Int :=
  year / 400 * 146097 + daysBeforeYear (year % 400)

theorem daysBefore_mono {y z : Int} (h : y ≤ z) : daysBefore y ≤ daysBefore z := by
  simp only [daysBefore, daysBeforeYear]
  rcases Int.lt_or_le (y / 400) (z / 400) with hlt | hle
  · omega
  · have heq : y / 400 = z / 400 := by omega
    omega

/-- A date counts from the March before it. -/
theorem toDays_eq (date : CivilDate) :
    date.toDays =
      if date.month ≤ 2 then
        daysBefore (date.year - 1) + daysBeforeMonth (date.month + 9) + date.day - 1 - epochShift
      else daysBefore date.year + daysBeforeMonth (date.month - 3) + date.day - 1 - epochShift := by
  simp only [toDays, daysBefore]
  split <;> rfl

/-- The years of the days from -262143-01-01 to 262142-12-31. -/
theorem year_ofDays {days : Int} (h0 : -96465292 ≤ days) (h1 : days ≤ 95026236) :
    -262143 ≤ (ofDays days).year ∧ (ofDays days).year ≤ 262142 := by
  have hback := toDays_ofDays days
  obtain ⟨hm0, hm1⟩ := month_ofDays days
  obtain ⟨hd0, hd1⟩ := day_ofDays days
  rw [toDays_eq] at hback
  have hfirst : daysBefore (-262144) = -95746130 := by decide
  have hlast : daysBefore 262142 = 95745399 := by decide
  simp only [daysBeforeMonth, epochShift] at hback
  refine ⟨Int.not_lt.1 fun hlow => ?_, Int.not_lt.1 fun hhigh => ?_⟩
  · have hmono := daysBefore_mono (show (ofDays days).year ≤ -262144 by omega)
    have hprev := daysBefore_mono (show (ofDays days).year - 1 ≤ -262144 - 1 by omega)
    have hbefore : daysBefore (-262144 - 1) = -95746496 := by decide
    split at hback <;> omega
  · have hmono := daysBefore_mono (show 262142 ≤ (ofDays days).year - 1 by omega)
    have hnext := daysBefore_mono (show 262143 ≤ (ofDays days).year by omega)
    have hafter : daysBefore 262143 = 95745764 := by decide
    split at hback <;> omega

end CivilDate

namespace Rfc3339

/-! ## Numbers -/

theorem isBlank_of_isDigit {c : Char} (h : c.isDigit = true) : Text.isBlank c = false := by
  have hd : 48 ≤ c.toNat ∧ c.toNat ≤ 57 := by
    simpa [Char.isDigit, UInt32.le_iff_toNat_le] using h
  simp only [Text.isBlank, Bool.or_eq_false_iff, Bool.and_eq_false_iff, beq_eq_false_iff_ne,
    decide_eq_false_iff_not]
  omega

theorem trimStart_digits {ds : List Char} (hne : ds ≠ []) (hds : ∀ c ∈ ds, c.isDigit = true)
    (rest : List Char) : Text.trimStart (ds ++ rest) = ds ++ rest := by
  cases ds with
  | nil => exact absurd rfl hne
  | cons d ds =>
    exact List.dropWhile_cons_of_neg (by simp [isBlank_of_isDigit (hds d (by simp))])

/-- The reader of a number stops at the first character that is no digit. -/
theorem number_digits {width : Nat} {ds : List Char} (hne : ds ≠ [])
    (hds : ∀ c ∈ ds, c.isDigit = true) (hlen : ds.length ≤ width) {c : Char}
    (hc : c.isDigit = false) (rest : List Char) :
    number width (ds ++ c :: rest) = .ok (Text.ofDigits ds, c :: rest) := by
  have hend : ((c :: rest).take (width - ds.length)).takeWhile Char.isDigit = [] := by
    cases width - ds.length with
    | zero => rfl
    | succ n => exact List.takeWhile_cons_of_neg (by simp [hc])
  have htake : ((ds ++ c :: rest).take width).takeWhile Char.isDigit = ds := by
    rw [List.take_append, List.take_of_length_le hlen, List.takeWhile_append_of_pos hds, hend,
      List.append_nil]
  cases ds with
  | nil => exact absurd rfl hne
  | cons d ds =>
    have hd : d.isDigit = true := hds d (by simp)
    simp only [List.cons_append] at htake ⊢
    simp only [number, hd, if_true, htake]
    simp

theorem numberWithin_padded {width low high n : Nat} (hw : 0 < width) (hn : n < Nat.pow 10 width)
    (hlow : low ≤ n) (hhigh : n ≤ high) {c : Char} (hc : c.isDigit = false) (rest : List Char) :
    numberWithin width low high (Text.decimalPadded width n ++ c :: rest) =
      .ok (n, c :: rest) := by
  have hne : Text.decimalPadded width n ≠ [] := by
    intro h
    have hlen := Text.length_decimalPadded width n
    rw [h] at hlen
    exact absurd hlen (by simp; omega)
  have hds : ∀ d ∈ Text.decimalPadded width n, d.isDigit = true :=
    fun d hd => Text.isDigit_of_mem_decimalPadded hd
  have hnum := number_digits hne hds (Nat.le_of_eq (Text.length_decimalPadded width n)) hc rest
  rw [Text.ofDigits_decimalPadded width n hn] at hnum
  simp [numberWithin, trimStart_digits hne hds, hnum, bind, Except.bind, hlow, hhigh]

/-- A written number starts with a digit, so with no sign. -/
theorem decimalPadded_cons {width n : Nat} (hw : 0 < width) :
    ∃ d ds, Text.decimalPadded width n = d :: ds ∧ d.isDigit = true := by
  cases hds : Text.decimalPadded width n with
  | nil =>
    have hlen := Text.length_decimalPadded width n
    rw [hds] at hlen
    exact absurd hlen (Nat.ne_of_lt hw)
  | cons d ds =>
    exact ⟨d, ds, rfl, Text.isDigit_of_mem_decimalPadded (by rw [hds]; simp)⟩

/-! ## The components of a text -/

theorem literal_cons {c : Char} (hc : Text.isBlank c = false) (rest : List Char) :
    literal c (c :: rest) = .ok rest := by
  have htrim : Text.trimStart (c :: rest) = c :: rest := List.dropWhile_cons_of_neg (by simp [hc])
  simp [literal, htrim]

theorem readYear_yearText {year : Int} (h0 : -262143 ≤ year) (h1 : year ≤ 262142)
    (rest : List Char) : readYear (yearText year ++ '-' :: rest) = .ok (year, '-' :: rest) := by
  have hdash : ('-' : Char).isDigit = false := by decide
  unfold yearText
  split
  case isTrue hshort =>
    obtain ⟨d, ds, hds, hd⟩ := decimalPadded_cons (n := year.toNat) (show 0 < 4 by decide)
    have hnum := @number_digits 4 (Text.decimalPadded 4 year.toNat)
      (by rw [hds]; simp) (fun c hc => Text.isDigit_of_mem_decimalPadded hc)
      (Nat.le_of_eq (Text.length_decimalPadded 4 _)) _ hdash rest
    rw [Text.ofDigits_decimalPadded 4 _ (show year.toNat < 10000 by omega)] at hnum
    have htrim : Text.trimStart (Text.decimalPadded 4 year.toNat ++ '-' :: rest) =
        Text.decimalPadded 4 year.toNat ++ '-' :: rest :=
      trimStart_digits (by rw [hds]; simp) (fun c hc => Text.isDigit_of_mem_decimalPadded hc) _
    have hminus : d ≠ '-' := by rintro rfl; exact absurd hd (by decide)
    have hplus : d ≠ '+' := by rintro rfl; exact absurd hd (by decide)
    simp only [readYear, htrim]
    rw [hds, List.cons_append] at hnum ⊢
    simp [hminus, hplus, hnum, Except.map, bind, Except.bind]
    rw [Int.max_eq_left hshort.1]
    exact if_pos (by omega)
  case isFalse hlong =>
    have hdigits : ∀ c ∈ List.replicate (4 - (Text.decimal year.natAbs).length) '0' ++
        Text.decimal year.natAbs, c.isDigit = true := by
      intro c hc
      rcases List.mem_append.1 hc with hc | hc
      · rw [List.eq_of_mem_replicate hc]
        rfl
      · exact Text.isDigit_of_mem_decimal hc
    have hne : List.replicate (4 - (Text.decimal year.natAbs).length) '0' ++
        Text.decimal year.natAbs ≠ [] := by
      intro h
      exact Nat.toDigits_ne_nil (List.append_eq_nil_iff.1 h).2
    have hnum := fun width hlen => @number_digits width _ hne hdigits hlen _ hdash rest
    rw [Text.ofDigits_zeros_append, Text.ofDigits_decimal] at hnum
    generalize hds : List.replicate (4 - (Text.decimal year.natAbs).length) '0' ++
      Text.decimal year.natAbs = ds at hnum
    have hlen : ds.length ≤ (ds ++ '-' :: rest).length := by simp
    by_cases hneg : year < 0
    · have htrim : Text.trimStart ('-' :: (ds ++ '-' :: rest)) = '-' :: (ds ++ '-' :: rest) := rfl
      have hyear : -((year.natAbs : Nat) : Int) = year := by omega
      simp only [hneg, if_true, List.cons_append, hds, readYear, htrim, hnum _ hlen, Except.map,
        bind, Except.bind, hyear]
      exact if_pos (by omega)
    · have htrim : Text.trimStart ('+' :: (ds ++ '-' :: rest)) = '+' :: (ds ++ '-' :: rest) := rfl
      have hyear : ((year.natAbs : Nat) : Int) = year := by omega
      simp only [hneg, if_false, List.cons_append, hds, readYear, htrim, hnum _ hlen, Except.map,
        bind, Except.bind, hyear]
      exact if_pos (by omega)

theorem readDate_dateText {date : CivilDate} (hyear : -262143 ≤ date.year ∧ date.year ≤ 262142)
    (hmonth : 1 ≤ date.month ∧ date.month ≤ 12) (hday : 1 ≤ date.day ∧ date.day ≤ 31)
    (rest : List Char) : readDate (dateText date ++ 'T' :: rest) = .ok (date, 'T' :: rest) := by
  have hmonth' := numberWithin_padded (c := '-') (show 0 < 2 by decide)
    (show date.month < 100 by omega) hmonth.1 hmonth.2 (by decide)
    (Text.decimalPadded 2 date.day ++ 'T' :: rest)
  have hday' := numberWithin_padded (c := 'T') (show 0 < 2 by decide)
    (show date.day < 100 by omega) hday.1 hday.2 (by decide) rest
  simp only [readDate, dateText, List.append_assoc, List.cons_append,
    readYear_yearText hyear.1 hyear.2, literal_cons (c := '-') (by decide), hmonth', hday',
    bind, Except.bind]

/-- A fraction has the fewest of 0, 3, 6 or 9 digits; what is read is filled up to nanoseconds again. -/
theorem readFraction_fractionText {nano : Nat} (h : nano < 1000000000) :
    readFraction (fractionText nano ++ ['Z']) = .ok (nano, ['Z']) := by
  have hread : ∀ places n, 0 < places → places ≤ 9 → n < 10 ^ places →
      readFraction ('.' :: Text.decimalPadded places n ++ ['Z']) =
        .ok (n * 10 ^ (9 - places), ['Z']) := by
    intro places n hpos hle hn
    obtain ⟨d, ds, hds, -⟩ := decimalPadded_cons (n := n) hpos
    have hdigits : ∀ c ∈ Text.decimalPadded places n, c.isDigit = true :=
      fun c hc => Text.isDigit_of_mem_decimalPadded hc
    have hZ : ('Z' : Char).isDigit = false := by decide
    have hnum := @number_digits 9 _ (by rw [hds]; simp) hdigits
      (by rw [Text.length_decimalPadded]; exact hle) _ hZ []
    rw [Text.ofDigits_decimalPadded places n hn] at hnum
    have htake := Text.takeWhile_digits hdigits hZ []
    have hmin : min 9 places = places := Nat.min_eq_right hle
    simp only [List.cons_append, readFraction, hnum, htake, Text.length_decimalPadded, hmin, bind,
      Except.bind]
    simp [hZ]
  unfold fractionText
  split
  case isTrue h0 =>
    rw [h0]
    rfl
  case isFalse h0 =>
    split
    case isTrue h3 =>
      rw [hread 3 _ (by decide) (by decide) (by omega)]
      simp only [Except.ok.injEq, Prod.mk.injEq, and_true]
      omega
    case isFalse h3 =>
      split
      case isTrue h6 =>
        rw [hread 6 _ (by decide) (by decide) (by omega)]
        simp only [Except.ok.injEq, Prod.mk.injEq, and_true]
        omega
      case isFalse h6 =>
        rw [hread 9 _ (by decide) (by decide) (by omega)]
        simp

theorem isDigit_head_fractionText (nano : Nat) :
    ∃ c rest, fractionText nano ++ ['Z'] = c :: rest ∧ c.isDigit = false := by
  unfold fractionText
  split
  · exact ⟨'Z', [], rfl, by decide⟩
  · split
    · exact ⟨'.', _, rfl, by decide⟩
    · split <;> exact ⟨'.', _, rfl, by decide⟩

theorem readTime_timeText {second nano : Nat} (hsecond : second < 86400) (hnano : nano < 2000000000)
    (hleap : 1000000000 ≤ nano → second % 60 = 59) :
    readTime (timeText second nano ++ ['Z']) = .ok ((second, nano), ['Z']) := by
  obtain ⟨c, rest, hfrac, hc⟩ := isDigit_head_fractionText (nano % 1000000000)
  have hfraction := readFraction_fractionText (Nat.mod_lt nano (show 0 < 1000000000 by decide))
  have hhour := @numberWithin_padded 2 0 23 _ (show 0 < 2 by decide)
    (show second / 3600 < 100 by omega) (Nat.zero_le _) (by omega) ':' (by decide)
  have hminute := @numberWithin_padded 2 0 59 _ (show 0 < 2 by decide)
    (show second / 60 % 60 < 100 by omega) (Nat.zero_le _) (by omega) ':' (by decide)
  have hsec := @numberWithin_padded 2 0 60 _ (show 0 < 2 by decide)
    (show second % 60 + nano / 1000000000 < 100 by omega) (Nat.zero_le _) (by omega) c hc rest
  rw [hfrac] at hfraction
  simp only [readTime, timeText, List.append_assoc, List.cons_append, hhour, hminute, hfrac, hsec,
    literal_cons (c := ':') (by decide), hfraction, bind, Except.bind]
  -- a second written as 60 is the leap second after second 59
  split
  · simp only [Except.ok.injEq, Prod.mk.injEq, and_true]
    omega
  · simp only [Except.ok.injEq, Prod.mk.injEq, and_true]
    omega

/-- Every instant comes back from its text. -/
theorem read_write (t : Instant) : read (write t) = .ok t := by
  have hge := t.second_ge
  have hle := t.second_le
  simp only [Instant.firstSecond, Instant.lastSecond] at hge hle
  have hyear := @CivilDate.year_ofDays t.dayNumber
    (by simp only [Instant.dayNumber]; omega) (by simp only [Instant.dayNumber]; omega)
  have hdate := readDate_dateText hyear (CivilDate.month_ofDays t.dayNumber)
    (CivilDate.day_ofDays t.dayNumber)
  have hsecond : ((t.secondOfDay.toNat : Nat) : Int) = t.second % 86400 := by
    simp only [Instant.secondOfDay]
    omega
  have htime := @readTime_timeText t.secondOfDay.toNat _ (by omega) t.nano_lt
    (fun h => by have := t.leap h; omega)
  have hparts : t.dayNumber * 86400 + (t.secondOfDay.toNat : Nat) - 0 = t.second := by
    simp only [Instant.dayNumber]
    omega
  have hvalid : ¬ (¬ (CivilDate.ofDays t.dayNumber).Valid ∨
      (CivilDate.ofDays t.dayNumber).year < -262143 ∨
      262142 < (CivilDate.ofDays t.dayNumber).year) := by
    have := CivilDate.valid_ofDays t.dayNumber
    simp only [this, not_true_eq_false, false_or]
    omega
  have hoffset : readOffset ['Z'] = .ok (0, []) := rfl
  simp only [read, write, List.append_assoc, List.cons_append, hdate, htime, separator, true_or,
    if_true, hoffset, hvalid, if_false, CivilDate.toDays_ofDays, hparts, Instant.ofParts?_parts,
    bind, Except.bind]
  simp [Text.trimStart]

end Rfc3339

end SharedTodo.Time
