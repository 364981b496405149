import Mathlib.Data.List.Chain
import SharedTodo.Directory
import SharedTodo.Text.Blank

/-!
# Words and trimmed texts

A text that begins and ends with a character that is no blank is trimmed. So are words, and words that are
joined by single spaces; the spaces between them are the only blanks of the joined text. The text of an
identifier is a word, and is read as that identifier. A username that is a word is looked for without the signs
in front of it, however many of them have been taken off before.
-/

namespace SharedTodo

namespace Text

variable {cs : List Char} {c : Char}

theorem trimStart_cons (h : isBlank c = false) (cs : List Char) : trimStart (c :: cs) = c :: cs :=
  List.dropWhile_cons_of_neg (by simp [h])

theorem trimEnd_append_singleton (h : isBlank c = false) (cs : List Char) :
    trimEnd (cs ++ [c]) = cs ++ [c] := by
  rw [trimEnd, List.reverse_append, List.reverse_singleton, List.singleton_append, trimStart_cons h]
  simp

/-- The text begins and ends with characters that are no blanks. -/
def Trimmed (cs : List Char) : Prop :=
  (∃ c rest, cs = c :: rest ∧ isBlank c = false) ∧ ∃ rest c, cs = rest ++ [c] ∧ isBlank c = false

theorem Trimmed.trimList (h : Trimmed cs) : trimList cs = cs := by
  obtain ⟨⟨first, rest, hfirst, hblank⟩, ⟨rest', last, hlast, hblank'⟩⟩ := h
  have hstart : trimStart cs = cs := by
    rw [hfirst, trimStart_cons hblank]
  rw [Text.trimList, hstart, hlast, trimEnd_append_singleton hblank']

theorem Trimmed.not_blank (h : Trimmed cs) : cs.all isBlank = false := by
  obtain ⟨⟨first, rest, rfl, hblank⟩, -⟩ := h
  simp [hblank]

instance : DecidablePred IsWord := fun w =>
  decidable_of_iff (!w.isEmpty && w.all fun c => !isBlank c) (by simp [IsWord])

theorem trimmed_of_isWord (h : IsWord cs) : Trimmed cs := by
  obtain ⟨hne, hblank⟩ := h
  obtain ⟨first, rest, rfl⟩ := List.exists_cons_of_ne_nil hne
  exact ⟨⟨first, rest, rfl, hblank first List.mem_cons_self⟩, (first :: rest).dropLast,
    (first :: rest).getLast hne, (List.dropLast_concat_getLast hne).symm, hblank _ (List.getLast_mem hne)⟩

theorem unwordLists_cons_cons (w v : List Char) (ws : List (List Char)) :
    unwordLists (w :: v :: ws) = w ++ ' ' :: unwordLists (v :: ws) := by
  rw [unwordLists, List.intercalate_cons_cons, List.append_assoc]
  rfl

/-- Words that are joined by single spaces. -/
theorem trimmed_unwordLists {ws : List (List Char)} (hne : ws ≠ []) (h : ∀ w ∈ ws, IsWord w) :
    Trimmed (unwordLists ws) := by
  induction ws with
  | nil => exact absurd rfl hne
  | cons w ws ih =>
    have hw := trimmed_of_isWord (h w List.mem_cons_self)
    cases ws with
    | nil =>
      rw [unwordLists, List.intercalate_singleton]
      exact hw
    | cons v vs =>
      obtain ⟨⟨first, rest, hfirst, hblank⟩, -⟩ := hw
      obtain ⟨-, rest', last, hlast, hblank'⟩ := ih (by simp) fun v hv => h v (List.mem_cons_of_mem _ hv)
      rw [unwordLists_cons_cons]
      refine ⟨⟨first, rest ++ ' ' :: unwordLists (v :: vs), by rw [hfirst]; rfl, hblank⟩,
        w ++ ' ' :: rest', last, by rw [hlast]; simp, hblank'⟩

theorem unwords_cons_cons (word next : String) (words : List String) :
    unwords (word :: next :: words) = word ++ " " ++ unwords (next :: words) := by
  refine String.toList_inj.1 ?_
  simp only [unwords, List.map_cons, unwordLists_cons_cons, String.toList_append, String.toList_ofList]
  simp

/-- A message of words is kept as it is. -/
theorem trim_unwords {words : List String} (hne : words ≠ []) (h : ∀ word ∈ words, IsWord word.toList) :
    isBlankText (unwords words) = false ∧ trim (unwords words) = unwords words := by
  have htrimmed : Trimmed (unwords words).toList := by
    rw [unwords, String.toList_ofList]
    refine trimmed_unwordLists (by simpa using hne) fun w hw => ?_
    obtain ⟨word, hword, rfl⟩ := List.mem_map.1 hw
    exact h word hword
  refine ⟨htrimmed.not_blank, ?_⟩
  rw [trim, htrimmed.trimList, String.ofList_toList]

theorem unwords_singleton (word : String) : unwords [word] = word := by
  rw [unwords, List.map_singleton, unwordLists, List.intercalate_singleton, String.ofList_toList]

/-- Joined words can be joined again. -/
theorem unwords_append_unwords {later : List String} (hne : later ≠ []) (words : List String) :
    unwords (words ++ [unwords later]) = unwords (words ++ later) := by
  obtain ⟨first, rest, rfl⟩ := List.exists_cons_of_ne_nil hne
  induction words with
  | nil => exact unwords_singleton _
  | cons word words ih =>
    cases words with
    | nil =>
      show unwords [word, _] = unwords (word :: first :: rest)
      rw [unwords_cons_cons, unwords_cons_cons, unwords_singleton]
    | cons next words =>
      show unwords (word :: next :: (words ++ _)) = unwords (word :: next :: (words ++ _))
      rw [unwords_cons_cons, unwords_cons_cons]
      exact congrArg (word ++ " " ++ ·) ih

/-- The text begins and ends with characters that are no blanks, and its blanks are spaces that stand alone. -/
structure SingleSpaced (cs : List Char) : Prop where
  trimmed : Trimmed cs
  spaces : ∀ c ∈ cs, isBlank c = true → c = ' '
  alone : cs.IsChain fun c d => isBlank c = false ∨ isBlank d = false

theorem singleSpaced_of_isWord (h : IsWord cs) : SingleSpaced cs where
  trimmed := trimmed_of_isWord h
  spaces c hc hblank := by
    rw [h.2 c hc] at hblank
    cases hblank
  alone := (List.pairwise_of_forall_mem_list fun c hc _ _ => .inl (h.2 c hc)).isChain

theorem singleSpaced_unwordLists {ws : List (List Char)} (hne : ws ≠ []) (h : ∀ w ∈ ws, IsWord w) :
    SingleSpaced (unwordLists ws) := by
  induction ws with
  | nil => exact absurd rfl hne
  | cons w ws ih =>
    have hw := h w List.mem_cons_self
    cases ws with
    | nil =>
      rw [unwordLists, List.intercalate_singleton]
      exact singleSpaced_of_isWord hw
    | cons v vs =>
      have hrest := ih (by simp) fun v hv => h v (List.mem_cons_of_mem _ hv)
      have htrimmed := trimmed_unwordLists hne h
      rw [unwordLists_cons_cons] at htrimmed ⊢
      refine ⟨htrimmed, fun c hc hblank => ?_, ?_⟩
      · obtain hc | hc := List.mem_append.1 hc
        · exact (singleSpaced_of_isWord hw).spaces c hc hblank
        · obtain rfl | hc := List.mem_cons.1 hc
          · rfl
          · exact hrest.spaces c hc hblank
      · -- The space comes after a character of the first word and before the first of the next.
        obtain ⟨⟨first, rest, hfirst, hblank⟩, -⟩ := hrest.trimmed
        refine List.isChain_append.2 ⟨(singleSpaced_of_isWord hw).alone, ?_, fun c hc d _ => ?_⟩
        · have halone := hrest.alone
          rw [hfirst] at halone ⊢
          exact List.isChain_cons_cons.2 ⟨.inr hblank, halone⟩
        · exact .inl (hw.2 c (List.mem_of_mem_getLast? hc))

end Text

/-! ## Identifiers -/

theorem Text.isBlank_digitChar : ∀ n < 16, isBlank (digitChar n) = false := by
  decide

theorem Text.isBlank_of_mem_hexPadded {width n : Nat} {c : Char} (h : c ∈ hexPadded width n) :
    isBlank c = false := by
  induction width generalizing n with
  | zero => cases h
  | succ width ih =>
    obtain h | h := List.mem_append.1 h
    · exact ih h
    · rw [List.mem_singleton.1 h]
      exact isBlank_digitChar _ (Nat.mod_lt n (by decide))

theorem IssueId.mem_hyphenate {ds : List Char} {c : Char} (h : c ∈ hyphenate ds) : c = '-' ∨ c ∈ ds := by
  have hpart {n m : Nat} (h : c ∈ (ds.drop n).take m) : c = '-' ∨ c ∈ ds :=
    .inr (List.mem_of_mem_drop (List.mem_of_mem_take h))
  simp only [hyphenate, List.mem_append, List.mem_cons] at h
  rcases h with (((h | rfl | h) | rfl | h) | rfl | h) | rfl | h
  · exact .inr (List.mem_of_mem_take h)
  · exact .inl rfl
  · exact hpart h
  · exact .inl rfl
  · exact hpart h
  · exact .inl rfl
  · exact hpart h
  · exact .inl rfl
  · exact .inr (List.mem_of_mem_drop h)

/-- The text of an identifier is a word. -/
theorem IssueId.isWord_text (id : IssueId) : Text.IsWord id.text.toList := by
  rw [text, String.toList_ofList]
  refine ⟨List.append_ne_nil_of_right_ne_nil _ (List.cons_ne_nil _ _), fun c hc => ?_⟩
  obtain rfl | hc := mem_hyphenate hc
  · rfl
  · exact Text.isBlank_of_mem_hexPadded hc

theorem IssueId.ofInput_text (id : IssueId) : ofInput id.text = .ok id := by
  rw [ofInput, Text.trim, (Text.trimmed_of_isWord id.isWord_text).trimList, String.ofList_toList, ofText?_text]

/-! ## Usernames -/

namespace Directory

/-- A name without the signs in front of it. -/
def bare (name : List Char) : List Char :=
  name.dropWhile fun c => c = '@'

theorem bare_sign (name : List Char) : bare ('@' :: name) = bare name :=
  List.dropWhile_cons_of_pos rfl

theorem bare_cons {c : Char} (h : c ≠ '@') (name : List Char) : bare (c :: name) = c :: name :=
  List.dropWhile_cons_of_neg (by simpa using h)

theorem bare_bare (name : List Char) : bare (bare name) = bare name := by
  induction name with
  | nil => rfl
  | cons c cs ih =>
    by_cases hsign : c = '@'
    · rw [hsign, bare_sign, ih]
    · rw [bare_cons hsign, bare_cons hsign]

/-- What is left of a word that has more than signs. -/
theorem isWord_bare {name : List Char} (hblank : ∀ c ∈ name, Text.isBlank c = false)
    (hsign : ∃ c ∈ name, c ≠ '@') : Text.IsWord (bare name) := by
  obtain ⟨other, hother, hne⟩ := hsign
  induction name with
  | nil => cases hother
  | cons c cs ih =>
    by_cases hsign : c = '@'
    · obtain rfl | hother := List.mem_cons.1 hother
      · exact absurd hsign hne
      · rw [hsign, bare_sign]
        exact ih (fun d hd => hblank d (List.mem_cons_of_mem _ hd)) hother
    · rw [bare_cons hsign]
      exact ⟨List.cons_ne_nil _ _, hblank⟩

theorem wanted_of_isWord {name : String} (h : Text.IsWord name.toList) :
    wanted name = String.ofList (bare name.toList) := by
  rw [wanted, (Text.trimmed_of_isWord h).trimList]
  rfl

end Directory

end SharedTodo
