import Mathlib.Data.List.Chain
import SharedTodo.Proofs.Preferences.Reminder
import SharedTodo.Proofs.Update.Serial

/-!
# Reminders are claimed once

Any number of clients change the preferences of one user at the same time: some claim the daily reminder, each
with a clock reading and an offset of its own, and others turn a preference on or off. Their calls are answered
in any order, so claims need not be decided in the order of their readings.

A history keeps the claims that have been granted, in the order in which they were. One call of one client
leaves the stored reminder as it is, or it is the last call of a claim that was due on what is stored and
replaces that (`PendingChange.answered`, `computed_lastReminder`). So each claim that is granted is due after the one
before it, an hour and a date away (`ClaimHistory.reminders`), and hours add up over all of them.
-/

namespace SharedTodo

open Exchange Time

/-- A change to the preferences of a user. -/
inductive PreferenceChange where
  | claim (offset : TimezoneOffset)
  | dailySummary (enabled : Bool)
  | allowIncoming (allowed : Bool)

namespace PreferenceChange

/-- Whether the caller has the reminder, or the new preferences. -/
def Answer : PreferenceChange → Type
  | claim _ => Bool
  | dailySummary _ => Preferences
  | allowIncoming _ => Preferences

def program (limit : Nat) (user : UserId) :
    (change : PreferenceChange) → Program StorageError change.Answer
  | claim offset => PreferenceStore.claimReminder limit user offset
  | dailySummary enabled => PreferenceStore.setDailySummary limit user enabled
  | allowIncoming allowed => PreferenceStore.setAllowIncoming limit user allowed

/-- What it makes of the document, when the clock shows this. -/
def compute (key : String) (reading : Instant) :
    (change : PreferenceChange) → Option String → Except StorageError (Option String × change.Answer)
  | claim offset => PreferenceStore.claimed key reading offset
  | dailySummary enabled =>
    PreferenceStore.switched key fun prefs => { prefs with dailySummary := enabled }
  | allowIncoming allowed =>
    PreferenceStore.switched key fun prefs => { prefs with allowIncoming := allowed }

/-- The answer that gives the caller the reminder. -/
def grants : (change : PreferenceChange) → change.Answer → Bool
  | claim _, granted => granted
  | dailySummary _, _ => false
  | allowIncoming _, _ => false

end PreferenceChange

/-! ## One change -/

section

variable {key : String} {document new : Option String} {prefs prefs' : Preferences} {reading : Instant}
  {offset : TimezoneOffset} {change : PreferenceChange}

theorem not_reminderDue_self (reading : Instant) (offset : TimezoneOffset) :
    ¬ reminderDue reading (some reading) offset = true :=
  fun h => lt_irrefl _ (reminderDue_iff.1 h).1.second_lt

theorem Preferences.claimed_eq_some :
    prefs.claimed reading offset = some prefs' ↔
      prefs.dailySummary = true ∧ reminderDue reading prefs.lastReminder offset = true ∧
        prefs' = { prefs with lastReminder := some reading } := by
  rw [claimed]
  split
  · next h =>
    rw [Bool.and_eq_true] at h
    rw [Option.some.injEq, and_iff_right h.1, and_iff_right h.2]
    exact eq_comm
  · next h =>
    rw [Bool.and_eq_true] at h
    exact iff_of_false nofun fun ⟨hdaily, hdue, _⟩ => h ⟨hdaily, hdue⟩

theorem PreferenceStore.ofDocument_encode (key : String) (prefs : Preferences) :
    ofDocument key (some (Preferences.codec.encode prefs)) = .ok prefs := by
  rw [ofDocument, Preferences.decode_encode]
  rfl

theorem PreferenceStore.claimed_of_due (hprefs : ofDocument key document = .ok prefs)
    (hclaimed : prefs.claimed reading offset = some prefs') :
    claimed key reading offset document = .ok (some (Preferences.codec.encode prefs'), true) := by
  simp only [claimed, hprefs, bind, Except.bind, hclaimed]

/-- A claim that is granted changes the document. -/
theorem encode_claimed_ne (hprefs : PreferenceStore.ofDocument key document = .ok prefs)
    (hclaimed : prefs.claimed reading offset = some prefs') :
    some (Preferences.codec.encode prefs') ≠ document := by
  rintro rfl
  rw [PreferenceStore.ofDocument_encode] at hprefs
  cases hprefs
  obtain ⟨-, hdue, hprefs⟩ := Preferences.claimed_eq_some.1 hclaimed
  rw [hprefs] at hdue
  exact not_reminderDue_self reading offset hdue

theorem switched_lastReminder {switch : Preferences → Preferences} {outcome : Preferences}
    (hprefs : PreferenceStore.ofDocument key document = .ok prefs)
    (h : PreferenceStore.switched key switch document = .ok (new, outcome))
    (hswitch : ∀ prefs, (switch prefs).lastReminder = prefs.lastReminder) :
    ∃ prefs', PreferenceStore.ofDocument key new = .ok prefs' ∧
      prefs'.lastReminder = prefs.lastReminder := by
  rw [PreferenceStore.switched, hprefs] at h
  cases h
  exact ⟨_, PreferenceStore.ofDocument_encode .., hswitch prefs⟩

/-- The stored reminder stays what it is, except when a claim is granted, which is due on it. -/
theorem computed_lastReminder {answer : change.Answer}
    (hprefs : PreferenceStore.ofDocument key document = .ok prefs)
    (h : change.compute key reading document = .ok (new, answer)) :
    ∃ prefs', PreferenceStore.ofDocument key new = .ok prefs' ∧
      ((change.grants answer = false ∧ prefs'.lastReminder = prefs.lastReminder) ∨
        (change.grants answer = true ∧ new ≠ document ∧ prefs'.lastReminder = some reading ∧
          ∃ offset, change = .claim offset ∧ reminderDue reading prefs.lastReminder offset = true)) := by
  cases change with
  | claim offset =>
    cases hclaimed : prefs.claimed reading offset with
    | none =>
      simp only [PreferenceChange.compute, PreferenceStore.claimed, hprefs, bind, Except.bind, hclaimed] at h
      cases h
      exact ⟨prefs, hprefs, .inl ⟨rfl, rfl⟩⟩
    | some prefs' =>
      change PreferenceStore.claimed key reading offset document = _ at h
      rw [PreferenceStore.claimed_of_due hprefs hclaimed] at h
      cases h
      obtain ⟨-, hdue, hprefs'⟩ := Preferences.claimed_eq_some.1 hclaimed
      refine ⟨prefs', PreferenceStore.ofDocument_encode .., .inr ⟨rfl, encode_claimed_ne hprefs hclaimed, ?_,
        offset, rfl, hdue⟩⟩
      rw [hprefs']
  | dailySummary enabled =>
    obtain ⟨prefs', hprefs', hsame⟩ := switched_lastReminder hprefs h fun _ => rfl
    exact ⟨prefs', hprefs', .inl ⟨rfl, hsame⟩⟩
  | allowIncoming allowed =>
    obtain ⟨prefs', hprefs', hsame⟩ := switched_lastReminder hprefs h fun _ => rfl
    exact ⟨prefs', hprefs', .inl ⟨rfl, hsame⟩⟩

end

/-! ## What is left of a change -/

section

variable {limit : Nat} {user : UserId} {reading : Instant} {change : PreferenceChange} {faulty : Prop}
  {s s' : Shared}

/-- A claim reads the clock before its update, a switch only updates. -/
inductive PendingChange (limit : Nat) (user : UserId) (reading : Instant) :
    (change : PreferenceChange) → Program StorageError change.Answer → Prop where
  | unread (offset : TimezoneOffset) :
    PendingChange limit user reading (.claim offset) (PreferenceStore.claimReminder limit user offset)
  | update {change : PreferenceChange} {program : Program StorageError change.Answer}
      (attempt : Attempt (Preferences.key user) limit (change.compute (Preferences.key user) reading) program) :
    PendingChange limit user reading change program

theorem pendingChange_program (limit : Nat) (user : UserId) (reading : Instant) (change : PreferenceChange) :
    PendingChange limit user reading change (change.program limit user) := by
  cases change with
  | claim offset => exact .unread offset
  | dailySummary enabled => exact .update (attempt_update ..)
  | allowIncoming allowed => exact .update (attempt_update ..)

theorem PendingChange.not_returned {answer : change.Answer} :
    ¬ PendingChange limit user reading change (.ended (.ok answer)) := by
  intro h
  generalize hprogram : Program.ended (.ok answer) = program at h
  cases h with
  | unread offset => exact nomatch hprogram
  | update attempt => exact Attempt.not_returned (hprogram ▸ attempt)

/-- One call of a change: it goes on or fails, with the document as it was, or it is decided. -/
theorem PendingChange.answered {c : Call} {next : c.Reply → Program StorageError change.Answer} {reply : c.Reply}
    (h : PendingChange limit user reading change (.call c next)) (answer : Answers faulty c s reply s')
    (clock : ∀ ask, Program.call c next = .call .now ask → next reply = ask reading) :
    (s'.store.find? (Preferences.key user) = s.store.find? (Preferences.key user) ∧
        (PendingChange limit user reading change (next reply) ∨ ∃ failure, next reply = .ended (.error failure))) ∨
      ∃ granted, next reply = .ended (.ok granted) ∧
        change.compute (Preferences.key user) reading (s.store.find? (Preferences.key user)) =
          .ok (s'.store.find? (Preferences.key user), granted) := by
  generalize hprogram : Program.call c next = program at h
  cases h with
  | unread offset =>
    have hnext := clock _ hprogram
    cases hprogram
    rw [hnext, show s' = s from answer]
    exact .inl ⟨rfl, .inl (.update (attempt_update ..))⟩
  | update attempt =>
    subst hprogram
    have hattempted := attempt.answered answer
    generalize next reply = left at hattempted
    cases hattempted with
    | again undecided => exact .inl ⟨rfl, .inl (.update undecided)⟩
    | failed failure => exact .inl ⟨rfl, .inr ⟨failure, rfl⟩⟩
    | decided computed writes =>
      rw [Callers.find?_of_writes writes]
      exact .inr ⟨_, rfl, computed⟩

end

/-! ## Reminders after one another -/

section

variable {ι : Type} {changes : ι → PreferenceChange} {readings : ι → Instant} {first last : Option Instant}
  {wins : List ι} {i : ι} {offset : TimezoneOffset}

/-- The moments of all reminders, with the one from before the history. -/
def reminderMoments (first : Option Instant) (readings : ι → Instant) (wins : List ι) : List Instant :=
  first.toList ++ wins.map readings

theorem getLast?_reminderMoments (first : Option Instant) (readings : ι → Instant) (wins : List ι) :
    (reminderMoments first readings wins).getLast? = (wins.map readings).getLast?.or first := by
  rw [reminderMoments, List.getLast?_append]
  cases first <;> rfl

/-- Each reminder is due on the one before it. -/
structure SuccessiveReminders (changes : ι → PreferenceChange) (readings : ι → Instant) (first : Option Instant)
    (wins : List ι) (last : Option Instant) : Prop where
  hours : (reminderMoments first readings wins).IsChain Instant.HourAfter
  due : wins.IsChain fun i j => ∃ offset, changes j = .claim offset ∧
    reminderDue (readings j) (some (readings i)) offset = true
  stored : last = (wins.map readings).getLast?.or first

theorem successiveReminders_nil (changes : ι → PreferenceChange) (readings : ι → Instant)
    (first : Option Instant) :
    SuccessiveReminders changes readings first [] first where
  hours := by
    rw [reminderMoments, List.map_nil, List.append_nil]
    cases first with
    | none => exact .nil
    | some reading => exact .singleton reading
  due := .nil
  stored := rfl

theorem SuccessiveReminders.next (h : SuccessiveReminders changes readings first wins last)
    (hclaim : changes i = .claim offset) (hdue : reminderDue (readings i) last offset = true) :
    SuccessiveReminders changes readings first (wins ++ [i]) (some (readings i)) where
  hours := by
    rw [reminderMoments, List.map_append, ← List.append_assoc]
    refine h.hours.append (.singleton _) fun before hbefore reading hreading => ?_
    rw [Option.mem_def, getLast?_reminderMoments, ← h.stored] at hbefore
    cases Option.mem_some.1 hreading
    rw [hbefore] at hdue
    exact (reminderDue_iff.1 hdue).1
  due := by
    refine h.due.append (.singleton _) fun before hbefore j hj => ⟨offset, ?_⟩
    cases Option.mem_some.1 hj
    have hlast : last = some (readings before) := by
      rw [h.stored, List.getLast?_map, Option.mem_def.1 hbefore]
      rfl
    rw [hlast] at hdue
    exact ⟨hclaim, hdue⟩
  stored := by
    rw [List.map_append, List.getLast?_append]
    rfl

theorem SuccessiveReminders.pairwise_hourAfter (h : SuccessiveReminders changes readings first wins last) :
    (reminderMoments first readings wins).Pairwise Instant.HourAfter :=
  haveI : Trans Instant.HourAfter Instant.HourAfter Instant.HourAfter := ⟨Instant.HourAfter.trans⟩
  List.isChain_iff_pairwise.1 h.hours

/-- What the claims have in common that have been granted in this order. -/
structure Reminders (changes : ι → PreferenceChange) (readings : ι → Instant) (first : Option Instant)
    (wins : List ι) : Prop where
  hours : wins.Pairwise fun i j =>
    (readings i).HourAfter (readings j) ∧ (readings i).second < (readings j).second
  hoursAfterFirst : ∀ reading, first = some reading → ∀ i ∈ wins, reading.HourAfter (readings i)
  days : wins.IsChain fun i j => ∃ offset, changes j = .claim offset ∧
    (readings j).localDate offset.eastSeconds ≠ (readings i).localDate offset.eastSeconds
  dates : ∀ offset, (∀ i ∈ wins, changes i = .claim offset) →
    (wins.map fun i => (readings i).localDate offset.eastSeconds).Nodup

theorem SuccessiveReminders.hours_pairwise (h : SuccessiveReminders changes readings first wins last) :
    wins.Pairwise fun i j =>
      (readings i).HourAfter (readings j) ∧ (readings i).second < (readings j).second := by
  have hpairwise := (List.pairwise_append.1 h.pairwise_hourAfter).2.1
  exact (List.pairwise_map.1 hpairwise).imp fun hhour => ⟨hhour, hhour.second_lt⟩

/-- With one offset days only grow, and they differ from one reminder to the next. -/
theorem SuccessiveReminders.localDay_lt (h : SuccessiveReminders changes readings first wins last)
    (hclaims : ∀ i ∈ wins, changes i = .claim offset) :
    wins.Pairwise fun i j =>
      (readings i).localDay offset.eastSeconds < (readings j).localDay offset.eastSeconds := by
  have hlt : (wins.map fun i => (readings i).localDay offset.eastSeconds).IsChain (· < ·) := by
    refine (List.isChain_map _).2 (h.due.imp_of_mem_imp fun i j _ hj hij => ?_)
    obtain ⟨offset', hclaim, hdue⟩ := hij
    cases (hclaims j hj).symm.trans hclaim
    obtain ⟨hhour, hday⟩ := reminderDue_iff.1 hdue
    exact lt_of_le_of_ne (Instant.localDay_mono hhour.second_lt.le _) hday.symm
  exact List.pairwise_map.1 (List.isChain_iff_pairwise.1 hlt)

theorem SuccessiveReminders.reminders (h : SuccessiveReminders changes readings first wins last) :
    Reminders changes readings first wins where
  hours := h.hours_pairwise
  hoursAfterFirst reading hfirst i hi := by
    have hpairwise := (List.pairwise_append.1 h.pairwise_hourAfter).2.2
    exact hpairwise reading (Option.mem_toList.2 hfirst) (readings i) (List.mem_map_of_mem hi)
  days := by
    refine h.due.imp fun i j hij => ?_
    obtain ⟨offset, hclaim, hdue⟩ := hij
    exact ⟨offset, hclaim, mt (Instant.localDate_eq_iff _).1 (reminderDue_iff.1 hdue).2⟩
  dates offset hclaims :=
    List.pairwise_map.2 ((h.localDay_lt hclaims).imp fun hlt =>
      mt (Instant.localDate_eq_iff _).1 hlt.ne)

end

/-! ## Histories -/

/-- Callers of changes to preferences. -/
abbrev PreferenceCallers {ι : Type} (changes : ι → PreferenceChange) : Type :=
  Callers ι (fun _ => StorageError) fun i => (changes i).Answer

variable {ι : Type} {faulty : Prop} {limits : ι → Nat} {user : UserId}
  {changes : ι → PreferenceChange} {readings : ι → Instant} {s : Shared} {wins : List ι} {i : ι}
  {callers callers' : PreferenceCallers changes}

namespace Callers

/-- Callers of changes to the preferences of one user, none of which has begun. -/
def changing (limits : ι → Nat) (user : UserId) (changes : ι → PreferenceChange) (s : Shared) :
    PreferenceCallers changes :=
  ⟨fun i => (changes i).program (limits i) user, s⟩

/-- The caller has returned with the reminder. -/
def Granted (callers : PreferenceCallers changes) (i : ι) : Prop :=
  ∃ answer, callers.programs i = .ended (.ok answer) ∧ (changes i).grants answer = true

theorem not_granted_of_call {c : Call} {next : c.Reply → Program StorageError (changes i).Answer}
    (h : callers.programs i = .call c next) : ¬ callers.Granted i := by
  rintro ⟨answer, hended, -⟩
  rw [h] at hended
  exact nomatch hended

theorem not_granted_of_attempt
    (hattempt : Attempt (Preferences.key user) (limits i)
      ((changes i).compute (Preferences.key user) (readings i)) (callers.programs i)) :
    ¬ callers.Granted i := by
  rintro ⟨answer, hended, -⟩
  rw [hended] at hattempt
  exact Attempt.not_returned hattempt

variable [DecidableEq ι]

/-- One caller has one of its calls answered, and the clock shows it its own reading. -/
def Clocked (faulty : Prop) (readings : ι → Instant) (i : ι)
    (callers callers' : PreferenceCallers changes) : Prop :=
  callers.Calls faulty i callers' ∧
    ∀ ask, callers.programs i = .call .now ask → callers'.programs i = ask (readings i)

end Callers

variable [DecidableEq ι]

/-- What callers have come to, and which of them have been given a reminder by then, in this order. Others may
do what they like with all other documents. -/
inductive ClaimHistory (faulty : Prop) (limits : ι → Nat) (user : UserId) (changes : ι → PreferenceChange)
    (readings : ι → Instant) (s : Shared) : List ι → PreferenceCallers changes → Prop where
  | start : ClaimHistory faulty limits user changes readings s [] (.changing limits user changes s)
  | elsewhere {wins : List ι} {callers : PreferenceCallers changes} {s' : Shared}
      (earlier : ClaimHistory faulty limits user changes readings s wins callers)
      (untouched : s'.store.find? (Preferences.key user) =
        callers.shared.store.find? (Preferences.key user)) :
    ClaimHistory faulty limits user changes readings s wins ⟨callers.programs, s'⟩
  | call {wins : List ι} {callers callers' : PreferenceCallers changes} {i : ι}
      (earlier : ClaimHistory faulty limits user changes readings s wins callers)
      (clocked : callers.Clocked faulty readings i callers') (lost : ¬ callers'.Granted i) :
    ClaimHistory faulty limits user changes readings s wins callers'
  | win {wins : List ι} {callers callers' : PreferenceCallers changes} {i : ι}
      (earlier : ClaimHistory faulty limits user changes readings s wins callers)
      (clocked : callers.Clocked faulty readings i callers') (granted : callers'.Granted i) :
    ClaimHistory faulty limits user changes readings s (wins ++ [i]) callers'

namespace Callers

theorem Clocked.not_granted (h : callers.Clocked faulty readings i callers') : ¬ callers.Granted i := by
  cases h.1 with
  | call program answer => exact not_granted_of_call program

theorem Clocked.programs_of_ne {j : ι} (h : callers.Clocked faulty readings i callers') (hj : j ≠ i) :
    callers'.programs j = callers.programs j := by
  cases h.1 with
  | call program answer => exact proceed_of_ne callers _ _ hj

theorem Clocked.granted_of_ne {j : ι} (h : callers.Clocked faulty readings i callers') (hj : j ≠ i) :
    callers'.Granted j ↔ callers.Granted j := by
  rw [Granted, Granted, h.programs_of_ne hj]

/-- One call of a caller that is not done, as the document sees it. -/
theorem Clocked.answered
    (hpending : ∀ c next, callers.programs i = .call c next →
      PendingChange (limits i) user (readings i) (changes i) (.call c next))
    (h : callers.Clocked faulty readings i callers') :
    (callers'.shared.store.find? (Preferences.key user) = callers.shared.store.find? (Preferences.key user) ∧
        (PendingChange (limits i) user (readings i) (changes i) (callers'.programs i) ∨
          ∃ failure, callers'.programs i = .ended (.error failure))) ∨
      ∃ answer, callers'.programs i = .ended (.ok answer) ∧
        (changes i).compute (Preferences.key user) (readings i)
            (callers.shared.store.find? (Preferences.key user)) =
          .ok (callers'.shared.store.find? (Preferences.key user), answer) := by
  obtain ⟨hcalls, hclock⟩ := h
  cases hcalls with
  | @call c next reply s' program answer =>
    rw [proceed_self] at hclock ⊢
    exact (hpending c next program).answered answer fun ask hask => hclock ask (program.trans hask)

/-- A claim is granted by the call that changes the document. -/
theorem Clocked.computed_of_granted
    (hpending : ∀ c next, callers.programs i = .call c next →
      PendingChange (limits i) user (readings i) (changes i) (.call c next))
    (h : callers.Clocked faulty readings i callers') (hgranted : callers'.Granted i) :
    ∃ answer, (changes i).compute (Preferences.key user) (readings i)
        (callers.shared.store.find? (Preferences.key user)) =
          .ok (callers'.shared.store.find? (Preferences.key user), answer) ∧
      (changes i).grants answer = true := by
  obtain ⟨granted, hended, hgrants⟩ := hgranted
  rcases h.answered hpending with ⟨-, hleft | ⟨failure, hfailed⟩⟩ | ⟨answer, hreturned, hcomputed⟩
  · rw [hended] at hleft
    exact absurd hleft PendingChange.not_returned
  · exact nomatch hended.symm.trans hfailed
  · cases hended.symm.trans hreturned
    exact ⟨granted, hcomputed, hgrants⟩

end Callers

namespace ClaimHistory

theorem mem_wins (h : ClaimHistory faulty limits user changes readings s wins callers) (j : ι) :
    j ∈ wins ↔ callers.Granted j := by
  induction h with
  | start =>
    refine iff_of_false List.not_mem_nil ?_
    rintro ⟨answer, hended, -⟩
    have hpending := pendingChange_program (limits j) user (readings j) (changes j)
    rw [show (changes j).program (limits j) user = .ended (.ok answer) from hended] at hpending
    exact PendingChange.not_returned hpending
  | elsewhere earlier untouched ih => exact ih
  | @call wins callers callers' i earlier clocked lost ih =>
    by_cases hj : j = i
    · subst hj
      exact iff_of_false (fun hmem => clocked.not_granted (ih.1 hmem)) lost
    · exact ih.trans (clocked.granted_of_ne hj).symm
  | @win wins callers callers' i earlier clocked granted ih =>
    by_cases hj : j = i
    · subst hj
      exact iff_of_true (List.mem_append_right _ (List.mem_singleton_self j)) granted
    · rw [List.mem_append, List.mem_singleton, or_iff_left hj, clocked.granted_of_ne hj]
      exact ih

theorem pending_clocked
    (hpending : ∀ j c next, callers.programs j = .call c next →
      PendingChange (limits j) user (readings j) (changes j) (.call c next))
    (clocked : callers.Clocked faulty readings i callers') (j : ι) (c : Call)
    (next : c.Reply → Program StorageError (changes j).Answer) (hcall : callers'.programs j = .call c next) :
    PendingChange (limits j) user (readings j) (changes j) (.call c next) := by
  by_cases hj : j = i
  · subst hj
    rcases clocked.answered (hpending j) with ⟨-, hleft | ⟨failure, hfailed⟩⟩ | ⟨answer, hreturned, -⟩
    · rwa [hcall] at hleft
    · exact nomatch hcall.symm.trans hfailed
    · exact nomatch hcall.symm.trans hreturned
  · rw [clocked.programs_of_ne hj] at hcall
    exact hpending j c next hcall

theorem pending (h : ClaimHistory faulty limits user changes readings s wins callers) (j : ι) (c : Call)
    (next : c.Reply → Program StorageError (changes j).Answer) (hcall : callers.programs j = .call c next) :
    PendingChange (limits j) user (readings j) (changes j) (.call c next) := by
  induction h generalizing j c next with
  | start => exact hcall ▸ pendingChange_program (limits j) user (readings j) (changes j)
  | elsewhere earlier untouched ih => exact ih j c next hcall
  | call earlier clocked lost ih => exact pending_clocked ih clocked j c next hcall
  | win earlier clocked granted ih => exact pending_clocked ih clocked j c next hcall

end ClaimHistory

namespace ClaimHistory

variable {first : Preferences}

/-- The stored reminder is the last of the history. -/
theorem successive (hfirst : PreferenceStore.ofDocument (Preferences.key user)
      (s.store.find? (Preferences.key user)) = .ok first)
    (h : ClaimHistory faulty limits user changes readings s wins callers) :
    ∃ prefs, PreferenceStore.ofDocument (Preferences.key user)
        (callers.shared.store.find? (Preferences.key user)) = .ok prefs ∧
      SuccessiveReminders changes readings first.lastReminder wins prefs.lastReminder := by
  induction h with
  | start => exact ⟨first, hfirst, successiveReminders_nil ..⟩
  | elsewhere earlier untouched ih =>
    rw [untouched]
    exact ih
  | @call wins callers callers' i earlier clocked lost ih =>
    obtain ⟨prefs, hprefs, hsuccessive⟩ := ih
    rcases clocked.answered (earlier.pending i) with ⟨hsame, -⟩ | ⟨answer, hreturned, hcomputed⟩
    · exact ⟨prefs, hsame ▸ hprefs, hsuccessive⟩
    · obtain ⟨prefs', hprefs', ⟨-, hsame⟩ | ⟨hgrants, -⟩⟩ := computed_lastReminder hprefs hcomputed
      · exact ⟨prefs', hprefs', hsame ▸ hsuccessive⟩
      · exact absurd ⟨answer, hreturned, hgrants⟩ lost
  | @win wins callers callers' i earlier clocked granted ih =>
    obtain ⟨prefs, hprefs, hsuccessive⟩ := ih
    obtain ⟨answer, hcomputed, hgrants⟩ := clocked.computed_of_granted (earlier.pending i) granted
    obtain ⟨prefs', hprefs', ⟨hlost, -⟩ | ⟨-, -, hlast, offset, hclaim, hdue⟩⟩ :=
      computed_lastReminder hprefs hcomputed
    · exact absurd (hgrants.symm.trans hlost) nofun
    · exact ⟨prefs', hprefs', hlast ▸ hsuccessive.next hclaim hdue⟩

section

variable {new : Option String} {answer : (changes i).Answer}

theorem clocked_of_attempt
    (hattempt : Attempt (Preferences.key user) (limits i)
      ((changes i).compute (Preferences.key user) (readings i)) (callers.programs i))
    (hcalls : callers.Calls faulty i callers') : callers.Clocked faulty readings i callers' := by
  refine ⟨hcalls, fun ask hask => ?_⟩
  rw [hask] at hattempt
  generalize hprogram : Program.call .now ask = program at hattempt
  cases hattempt with
  | read left =>
    cases left with
    | zero => exact nomatch hprogram
    | succ left => exact nomatch hprogram
  | write left computed other => exact nomatch hprogram

/-- A claim that is due is granted when nobody else is at work. -/
theorem exists_granted (h : ClaimHistory faulty limits user changes readings s wins callers)
    (hprogram : callers.programs i =
      .call .now fun now => update (Preferences.key user) (limits i)
        ((changes i).compute (Preferences.key user) now))
    (hcomputed : (changes i).compute (Preferences.key user) (readings i)
      (callers.shared.store.find? (Preferences.key user)) = .ok (new, answer))
    (hother : new ≠ callers.shared.store.find? (Preferences.key user))
    (hgrants : (changes i).grants answer = true) :
    ∃ callers', ClaimHistory faulty limits user changes readings s (wins ++ [i]) callers' ∧
      callers'.shared.store.find? (Preferences.key user) = new ∧
      ∀ j, j ≠ i → callers'.programs j = callers.programs j := by
  obtain ⟨left, hleft⟩ : ∃ left, attempts (limits i) = left + 1 :=
    ⟨attempts (limits i) - 1, by rw [attempts]; omega⟩
  let compute := fun i => (changes i).compute (Preferences.key user) (readings i)
  let asked := callers.proceed i (update (Preferences.key user) (limits i) (compute i)) callers.shared
  let computed := asked.proceed i (writing (Preferences.key user) (limits i) (compute i) left
    (callers.shared.store.find? (Preferences.key user)) new answer) callers.shared
  let written : Shared :=
    { callers.shared with store := callers.shared.store.assign (Preferences.key user) new }
  let granted := computed.proceed i (.ended (.ok answer)) written
  have hasked : asked.programs i = updateWithin (Preferences.key user) (limits i) (compute i) (left + 1) := by
    rw [← hleft]
    exact Callers.proceed_self ..
  have hasks : callers.Clocked faulty readings i asked := by
    refine ⟨.call hprogram rfl, fun ask hask => ?_⟩
    cases hprogram.symm.trans hask
    exact Callers.proceed_self ..
  have hreads : asked.Calls faulty i computed := Callers.calls_read hasked hcomputed hother
  have hwrites : computed.Calls faulty i granted := Callers.calls_write (Callers.proceed_self ..) rfl
  have hread : Attempt (Preferences.key user) (limits i) (compute i) (asked.programs i) :=
    hasked ▸ .read (left + 1)
  have hwrite : Attempt (Preferences.key user) (limits i) (compute i) (computed.programs i) := by
    rw [Callers.proceed_self]
    exact .write left hcomputed hother
  have hhistory : ClaimHistory faulty limits user changes readings s wins computed :=
    .call (.call h hasks (Callers.not_granted_of_attempt hread)) (clocked_of_attempt hread hreads)
      (Callers.not_granted_of_attempt hwrite)
  refine ⟨granted, .win hhistory (clocked_of_attempt hwrite hwrites)
    ⟨answer, Callers.proceed_self .., hgrants⟩, ?_, fun j hj => ?_⟩
  · exact (callers.shared.store.find?_assign (Preferences.key user) (Preferences.key user) new).trans (if_pos rfl)
  · rw [Callers.proceed_of_ne _ _ _ hj, Callers.proceed_of_ne _ _ _ hj, Callers.proceed_of_ne _ _ _ hj]

end

/-- Claims of the daily reminder, whatever switches are turned in between: those that are granted are hours
apart in their order, each on another day than the one before it, and the stored reminder is the last of them.
A claim is granted by the call that writes it. -/
theorem claimed_once (hfirst : PreferenceStore.ofDocument (Preferences.key user)
      (s.store.find? (Preferences.key user)) = .ok first)
    (h : ClaimHistory faulty limits user changes readings s wins callers) :
    (∀ i, i ∈ wins ↔ callers.Granted i) ∧
      Reminders changes readings first.lastReminder wins ∧
      (∃ prefs, PreferenceStore.ofDocument (Preferences.key user)
          (callers.shared.store.find? (Preferences.key user)) = .ok prefs ∧
        prefs.lastReminder = (wins.map readings).getLast?.or first.lastReminder) ∧
      ∀ i callers', callers.Clocked faulty readings i callers' → callers'.Granted i →
        callers'.shared.store.find? (Preferences.key user) ≠
          callers.shared.store.find? (Preferences.key user) := by
  obtain ⟨prefs, hprefs, hsuccessive⟩ := h.successive hfirst
  refine ⟨h.mem_wins, hsuccessive.reminders, ⟨prefs, hprefs, hsuccessive.stored⟩,
    fun i callers' clocked granted => ?_⟩
  obtain ⟨answer, hcomputed, hgrants⟩ := clocked.computed_of_granted (h.pending i) granted
  obtain ⟨_, -, ⟨hlost, -⟩ | ⟨-, hwritten, -⟩⟩ := computed_lastReminder hprefs hcomputed
  · exact absurd (hgrants.symm.trans hlost) nofun
  · exact hwritten

/-- Two clients at noon of two days in a row. -/
theorem noon_claimed_twice :
    ∃ (readings : Bool → Instant)
      (callers : Callers Bool (fun _ => StorageError) fun _ => (PreferenceChange.claim ⟨0⟩).Answer),
      ClaimHistory False (fun _ => 5) ⟨"amy"⟩ (fun _ => .claim ⟨0⟩) readings .initial [true, false] callers ∧
        Reminders (fun _ => .claim ⟨0⟩) readings none [true, false] := by
  let noon : Instant := ⟨43200, 0, by decide, by decide, by decide, by decide⟩
  let nextNoon : Instant := ⟨129600, 0, by decide, by decide, by decide, by decide⟩
  let readings (first : Bool) : Instant := cond first noon nextNoon
  have hstart : ClaimHistory False (fun _ => 5) ⟨"amy"⟩ (fun _ => .claim ⟨0⟩) readings .initial [] _ := .start
  have hfirst : Preferences.default.claimed (readings true) ⟨0⟩ = some ⟨true, true, some (readings true)⟩ :=
    rfl
  have hsecond : Preferences.claimed ⟨true, true, some (readings true)⟩ (readings false) ⟨0⟩ =
      some ⟨true, true, some (readings false)⟩ := by decide
  obtain ⟨middle, hmiddle, hdocument, hothers⟩ := exists_granted (i := true) hstart rfl
    (PreferenceStore.claimed_of_due rfl hfirst) nofun rfl
  have hprefs : PreferenceStore.ofDocument "pref_amy" (middle.shared.store.find? "pref_amy") =
      .ok ⟨true, true, some (readings true)⟩ := by
    rw [show middle.shared.store.find? "pref_amy" = _ from hdocument]
    exact PreferenceStore.ofDocument_encode ..
  obtain ⟨callers, hlast, -⟩ := exists_granted (i := false) hmiddle (hothers false nofun)
    (PreferenceStore.claimed_of_due hprefs hsecond) (encode_claimed_ne hprefs hsecond) rfl
  exact ⟨readings, callers, hlast, (claimed_once rfl hlast).2.1⟩

end ClaimHistory

end SharedTodo
