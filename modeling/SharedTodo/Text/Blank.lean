/-!
# Blanks and words

A blank is a character of Unicode's `White_Space`. Trimming takes blanks off both ends of a text, and a
word is a longest stretch of a text without a blank.

Every word is non-empty and free of blanks (`mem_words`), and splitting words that are joined by single
spaces gives them back (`words_unwords`).
-/

namespace SharedTodo.Text

/-- Unicode's `White_Space`; narrower than many tables: the zero-width space is no blank. -/
def isBlank (c : Char) : Bool :=
  let n := c.toNat
  (9 ≤ n && n ≤ 13) || n == 0x20 || n == 0x85 || n == 0xA0 || n == 0x1680 ||
    (0x2000 ≤ n && n ≤ 0x200A) || n == 0x2028 || n == 0x2029 || n == 0x202F || n == 0x205F ||
    n == 0x3000

theorem isBlank_space : isBlank ' ' = true := rfl

/-! ## Trimming -/

def trimStart (cs : List Char) : List Char :=
  cs.dropWhile isBlank

def trimEnd (cs : List Char) : List Char :=
  (trimStart cs.reverse).reverse

def trimList (cs : List Char) : List Char :=
  trimEnd (trimStart cs)

def trim (s : String) : String :=
  String.ofList (trimList s.toList)

/-- A text of blanks only. -/
def isBlankText (s : String) : Bool :=
  s.toList.all isBlank

/-! ## Words -/

/-- Puts a finished word in front of the later ones; an empty stretch is no word. -/
def consWord (word : List Char) (later : List (List Char)) : List (List Char) :=
  if word.isEmpty then later else word :: later

/-- The stretch that the text starts with, and the words after it. -/
def splitWords : List Char → List Char × List (List Char)
  | [] => ([], [])
  | c :: cs =>
    let rest := splitWords cs
    if isBlank c then ([], consWord rest.1 rest.2) else (c :: rest.1, rest.2)

def wordLists (cs : List Char) : List (List Char) :=
  consWord (splitWords cs).1 (splitWords cs).2

def words (s : String) : List String :=
  (wordLists s.toList).map String.ofList

/-- Words joined by single spaces. -/
def unwordLists (ws : List (List Char)) : List Char :=
  List.intercalate [' '] ws

def unwords (ws : List String) : String :=
  String.ofList (unwordLists (ws.map String.toList))

/-- What a word is made of. -/
def IsWord (w : List Char) : Prop :=
  w ≠ [] ∧ ∀ c ∈ w, isBlank c = false

theorem mem_consWord {w x : List Char} {later : List (List Char)} :
    x ∈ consWord w later ↔ (x = w ∧ w ≠ []) ∨ x ∈ later := by
  unfold consWord
  cases w with
  | nil => simp
  | cons c cs => simp

theorem splitWords_spec (cs : List Char) :
    (∀ c ∈ (splitWords cs).1, isBlank c = false) ∧ ∀ w ∈ (splitWords cs).2, IsWord w := by
  induction cs with
  | nil => simp [splitWords]
  | cons c cs ih =>
    by_cases h : isBlank c = true
    · simp only [splitWords, h, if_true, List.not_mem_nil, false_implies, implies_true, true_and]
      intro w hw
      rcases mem_consWord.1 hw with ⟨rfl, hne⟩ | hw
      · exact ⟨hne, ih.1⟩
      · exact ih.2 w hw
    · have hc : isBlank c = false := by simpa using h
      simp only [splitWords, hc, Bool.false_eq_true, if_false, List.mem_cons]
      exact ⟨fun d hd => hd.elim (fun e => e ▸ hc) (ih.1 d), ih.2⟩

theorem isWord_of_mem_wordLists {cs w : List Char} (h : w ∈ wordLists cs) : IsWord w := by
  rcases mem_consWord.1 h with ⟨rfl, hne⟩ | hw
  · exact ⟨hne, (splitWords_spec cs).1⟩
  · exact (splitWords_spec cs).2 w hw

theorem splitWords_append_word {w : List Char} (hw : ∀ c ∈ w, isBlank c = false) (cs : List Char) :
    splitWords (w ++ cs) = (w ++ (splitWords cs).1, (splitWords cs).2) := by
  induction w with
  | nil => simp
  | cons c w ih =>
    have hc := hw c (by simp)
    simp [splitWords, hc, ih fun d hd => hw d (by simp [hd])]

theorem wordLists_unwordLists {ws : List (List Char)} (h : ∀ w ∈ ws, IsWord w) :
    wordLists (unwordLists ws) = ws := by
  induction ws with
  | nil => rfl
  | cons w ws ih =>
    have hw := h w (by simp)
    have ih := ih fun v hv => h v (by simp [hv])
    have hcons : ∀ later, consWord w later = w :: later := by
      intro later
      cases w with
      | nil => exact absurd rfl hw.1
      | cons c cs => rfl
    cases ws with
    | nil =>
      have hsplit := splitWords_append_word hw.2 []
      simp only [List.append_nil, splitWords] at hsplit
      simp [unwordLists, List.intercalate, wordLists, hsplit, hcons]
    | cons v vs =>
      have hjoin : unwordLists (w :: v :: vs) = w ++ ' ' :: unwordLists (v :: vs) := by
        simp [unwordLists, List.intercalate, List.intersperse]
      rw [hjoin, wordLists, splitWords_append_word hw.2]
      simp only [splitWords, isBlank_space, if_true, List.append_nil]
      rw [hcons]
      exact congrArg (w :: ·) ih

theorem mem_words {s w : String} (h : w ∈ words s) : IsWord w.toList := by
  obtain ⟨v, hv, rfl⟩ := List.mem_map.1 h
  simpa using isWord_of_mem_wordLists hv

theorem words_unwords {ws : List String} (h : ∀ w ∈ ws, IsWord w.toList) :
    words (unwords ws) = ws := by
  have h' : ∀ w ∈ ws.map String.toList, IsWord w := by
    intro w hw
    obtain ⟨v, hv, rfl⟩ := List.mem_map.1 hw
    exact h v hv
  simp [words, unwords, wordLists_unwordLists h']

end SharedTodo.Text
