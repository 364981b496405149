import SharedTodo.Command.Basic
import SharedTodo.Proofs.Request.Sending

/-!
# Canonical lines

A line in chat is read word by word, so that blanks only separate. What a line is read as has a canonical line
of its own, in words: the trigger, the action, and the arguments in the one spelling that is written. Reading
the canonical line gives back the same command.

The sign in front of a receiver is taken off once and put back once, so that a receiver with a sign of their own
is read again as they were.
-/

namespace SharedTodo

namespace Command

/-- The words of the canonical line of a command. -/
inductive Line : Command → List String → Prop
  | list (kind : ListKind) : Line (list kind) [trigger, "list", kind.name]
  | add {message : List String} (hne : message ≠ []) (hmessage : ∀ word ∈ message, Text.IsWord word.toList) :
      Line (add (Text.unwords message)) (trigger :: "add" :: message)
  | pop : Line pop [trigger, "pop"]
  | send {receiver : String} {message : List String} (hreceiver : Text.IsWord receiver.toList)
      (hne : message ≠ []) (hmessage : ∀ word ∈ message, Text.IsWord word.toList) :
      Line (send receiver (Text.unwords message)) (trigger :: "send" :: ("@" ++ receiver) :: message)
  | showSettings : Line showSettings [trigger, "settings"]
  | showSetting (setting : Setting) : Line (showSetting setting) [trigger, "settings", setting.name]
  | switch (setting : Setting) (on : Bool) :
      Line (switch setting on) [trigger, "settings", setting.name, toggle on]
  | help : Line help [trigger, "help"]

variable {command : Command} {words : List String}

/-! ## What is read has a canonical line -/

theorem line_of_addOfWords (hwords : ∀ word ∈ words, Text.IsWord word.toList)
    (h : addOfWords words = .ok command) : ∃ line, Line command line := by
  cases words with
  | nil => cases h
  | cons word rest =>
    cases h
    exact ⟨_, .add (List.cons_ne_nil _ _) hwords⟩

theorem line_of_listOfWords (h : listOfWords words = .ok command) : ∃ line, Line command line := by
  cases words with
  | nil =>
    cases h
    exact ⟨_, .list .my⟩
  | cons name rest =>
    rw [listOfWords] at h
    cases hkind : ListKind.ofInput? name with
    | none =>
      rw [hkind] at h
      cases h
    | some kind =>
      rw [hkind] at h
      cases h
      exact ⟨_, .list kind⟩

theorem isBlank_receiverOfWord {word : String} (h : ∀ c ∈ word.toList, Text.isBlank c = false) :
    ∀ c ∈ (receiverOfWord word).toList, Text.isBlank c = false := by
  rw [receiverOfWord]
  split
  · next rest hword =>
    rw [String.toList_ofList]
    exact fun c hc => h c (hword ▸ List.mem_cons_of_mem _ hc)
  · exact h

theorem line_of_sendOfWords (hwords : ∀ word ∈ words, Text.IsWord word.toList)
    (h : sendOfWords words = .ok command) : ∃ line, Line command line := by
  cases words with
  | nil => cases h
  | cons word message =>
    obtain ⟨hword, hmessage⟩ := List.forall_mem_cons.1 hwords
    rw [sendOfWords] at h
    split at h
    · cases h
    · next hboth =>
      cases h
      obtain ⟨hne, hreceiver⟩ := not_or.1 hboth
      have hlist : (receiverOfWord word).toList ≠ [] := fun hnil =>
        hreceiver (String.toList_inj.1 hnil)
      exact ⟨_, .send ⟨hlist, isBlank_receiverOfWord hword.2⟩ hne hmessage⟩

theorem line_of_toggleOfWord {setting : Setting} {value : String}
    (h : toggleOfWord setting value = .ok command) : ∃ line, Line command line := by
  unfold toggleOfWord at h
  split at h
  · cases h
    exact ⟨_, .switch setting true⟩
  · cases h
    exact ⟨_, .switch setting false⟩
  · cases h

theorem line_of_settingsOfWords (h : settingsOfWords words = .ok command) : ∃ line, Line command line := by
  cases words with
  | nil =>
    cases h
    exact ⟨_, .showSettings⟩
  | cons name values =>
    rw [settingsOfWords] at h
    split at h
    · cases h
    · next setting _ =>
      split at h
      · cases h
        exact ⟨_, .showSetting setting⟩
      · exact line_of_toggleOfWord h
      · cases h

theorem line_of_ofWords (hwords : ∀ word ∈ words, Text.IsWord word.toList) (h : ofWords words = .ok command) :
    ∃ line, Line command line := by
  cases words with
  | nil => cases h
  | cons word rest =>
    have hrest := (List.forall_mem_cons.1 hwords).2
    by_cases htrigger : Text.sameFolded word trigger = true
    · cases rest with
      | nil =>
        rw [ofWords.eq_def] at h
        cases (if_pos htrigger).symm.trans h
        exact ⟨_, .list .my⟩
      | cons action arguments =>
        have harguments := (List.forall_mem_cons.1 hrest).2
        rw [ofWords.eq_def] at h
        replace h := (if_pos htrigger).symm.trans h
        dsimp only at h
        split at h
        · exact line_of_addOfWords harguments h
        · exact line_of_listOfWords h
        · cases h
          exact ⟨_, .pop⟩
        · exact line_of_sendOfWords harguments h
        · exact line_of_settingsOfWords h
        · cases h
          exact ⟨_, .help⟩
    · rw [ofWords.eq_def] at h
      cases (if_neg htrigger).symm.trans h

theorem line_of_parse {text : String} (h : parse text = .ok command) : ∃ line, Line command line :=
  line_of_ofWords (fun _ => Text.mem_words) h

/-! ## The canonical line is read as its command -/

section

variable {line : List String}

theorem Line.text (h : Line command line) : command.text = Text.unwords line := by
  cases h with
  | @add message hne hmessage => exact Text.unwords_append_unwords hne [trigger, "add"]
  | @send receiver message hreceiver hne hmessage =>
    exact Text.unwords_append_unwords hne [trigger, "send", "@" ++ receiver]
  | _ => rfl

theorem Line.isWord (h : Line command line) : ∀ word ∈ line, Text.IsWord word.toList := by
  cases h with
  | list kind => cases kind <;> decide
  | add hne hmessage => exact List.forall_mem_cons.2 ⟨by decide, List.forall_mem_cons.2 ⟨by decide, hmessage⟩⟩
  | @send receiver message hreceiver hne hmessage =>
    have hsigned : Text.IsWord ("@" ++ receiver).toList := by
      rw [String.toList_append]
      exact ⟨List.cons_ne_nil _ _, List.forall_mem_cons.2 ⟨rfl, hreceiver.2⟩⟩
    exact List.forall_mem_cons.2
      ⟨by decide, List.forall_mem_cons.2 ⟨by decide, List.forall_mem_cons.2 ⟨hsigned, hmessage⟩⟩⟩
  | showSetting setting => cases setting <;> decide
  | switch setting on => cases setting <;> cases on <;> decide
  | _ => decide

theorem receiverOfWord_sign (receiver : String) : receiverOfWord ("@" ++ receiver) = receiver := by
  have hlist : ("@" ++ receiver).toList = '@' :: receiver.toList := by
    rw [String.toList_append]
    rfl
  rw [receiverOfWord, hlist]
  exact String.ofList_toList

theorem Line.ofWords (h : Line command line) : ofWords line = .ok command := by
  cases h with
  | list kind => cases kind <;> decide
  | @add message hne hmessage =>
    obtain ⟨word, rest, rfl⟩ := List.exists_cons_of_ne_nil hne
    rfl
  | @send receiver message hreceiver hne hmessage =>
    have hempty : receiver ≠ "" := by
      rintro rfl
      exact hreceiver.1 rfl
    show sendOfWords (("@" ++ receiver) :: message) = _
    rw [sendOfWords, receiverOfWord_sign, if_neg (not_or.2 ⟨hne, hempty⟩)]
  | showSetting setting => cases setting <;> decide
  | switch setting on => cases setting <;> cases on <;> decide
  | _ => decide

theorem Line.parse (h : Line command line) : parse command.text = .ok command := by
  rw [Command.parse, h.text, Text.words_unwords h.isWord, h.ofWords]

end

/-! ## Messages and receivers -/

/-- A message that a draft takes as it is written. -/
structure Kept (message : String) : Prop where
  ne_empty : message ≠ ""
  singleSpaced : Text.SingleSpaced message.toList
  drafted : Draft.ofMessage message = .ok ⟨message, none, none⟩

theorem kept_unwords (hne : words ≠ []) (hwords : ∀ word ∈ words, Text.IsWord word.toList) :
    Kept (Text.unwords words) := by
  have hspaced : Text.SingleSpaced (Text.unwords words).toList := by
    rw [Text.unwords, String.toList_ofList]
    refine Text.singleSpaced_unwordLists (by simpa using hne) fun w hw => ?_
    obtain ⟨word, hword, rfl⟩ := List.mem_map.1 hw
    exact hwords word hword
  refine ⟨fun hempty => ?_, hspaced, Draft.ofMessage_unwords hne hwords⟩
  obtain ⟨⟨c, rest, hcons, -⟩, -⟩ := hspaced.trimmed
  rw [hempty] at hcons
  cases hcons

theorem Line.kept {line : List String} {message : String} (h : Line (.add message) line) : Kept message := by
  cases h with
  | add hne hmessage => exact kept_unwords hne hmessage

theorem Line.kept_sent {line : List String} {receiver message : String}
    (h : Line (.send receiver message) line) : Text.IsWord receiver.toList ∧ Kept message := by
  cases h with
  | send hreceiver hne hmessage => exact ⟨hreceiver, kept_unwords hne hmessage⟩

/-- Only the words of a line are read, and the canonical line of what is read is read as the same command. -/
theorem parse_canonical (text : String) :
    parse text = parse (Text.unwords (Text.words text)) ∧
      ∀ command, parse text = .ok command →
        parse command.text = .ok command ∧
          (∀ message, command = .add message → Kept message) ∧
          ∀ receiver message, command = .send receiver message →
            Text.IsWord receiver.toList ∧ Kept message := by
  refine ⟨?_, fun command h => ?_⟩
  · have hwords : Text.words (Text.unwords (Text.words text)) = Text.words text :=
      Text.words_unwords fun _ => Text.mem_words
    rw [parse, parse, hwords]
  · obtain ⟨line, hline⟩ := line_of_parse h
    refine ⟨hline.parse, ?_, ?_⟩
    · rintro message rfl
      exact hline.kept
    · rintro receiver message rfl
      exact hline.kept_sent

/-- One of the two signs is taken off, and the canonical line has it again. -/
theorem shouted_send_canonical :
    text (.send "@ben" "buy milk") = "/todo send @@ben buy milk" ∧
      parse "/todo send @@ben buy milk" = .ok (.send "@ben" "buy milk") ∧
      Text.IsWord "@ben".toList ∧ Kept "buy milk" := by
  have hparse : parse " /TODO\tSend @@ben  buy \n milk" = .ok (.send "@ben" "buy milk") := by
    decide +kernel
  have hcanonical := (parse_canonical " /TODO\tSend @@ben  buy \n milk").2 _ hparse
  have htext : text (.send "@ben" "buy milk") = "/todo send @@ben buy milk" := by
    decide +kernel
  exact ⟨htext, htext ▸ hcanonical.1, hcanonical.2.2 _ _ rfl⟩

end Command

end SharedTodo
