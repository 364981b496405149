import SharedTodo.Json.Record

/-!
# Lawful codecs

A codec is lawful when reading what it wrote gives the value back and leaves what stands behind it, whatever
that is as long as it ends a value (`Ends`). Lawful codecs of whole documents decode what they encode
(`Lawful.decode_encode`).

The combinators keep lawfulness: values under other names (`Lawful.mapped`, `Lawful.refined`), arrays
(`Lawful.array`) and records (`Record.lawful_codec`). A record is described by its fields, so its law is a law
of each field: a value that is written is read back, and a value that is left out is the one that a missing
field stands for (`Field.Lawful`).

A bounded number is read back only within its bounds. The laws of codecs and of fields are therefore laws of
one value each (`Codec.LawfulAt`, `Field.LawfulAt`), and a record is read back when each of its values is
(`Values.Lawful`).
-/

namespace SharedTodo.Json

/-- What may stand behind a value: nothing, or a sign that goes on with what the value is part of. -/
def Ends (rest : List Char) : Prop :=
  ∀ c cs, rest = c :: cs → c = ',' ∨ c = ']' ∨ c = '\x7d'

theorem ends_nil : Ends [] := by
  intro c cs h
  cases h

theorem ends_comma (cs : List Char) : Ends (',' :: cs) := by
  intro c cs h
  cases h
  exact .inl rfl

theorem ends_bracket (cs : List Char) : Ends (']' :: cs) := by
  intro c cs h
  cases h
  exact .inr (.inl rfl)

theorem ends_brace (cs : List Char) : Ends ('\x7d' :: cs) := by
  intro c cs h
  cases h
  exact .inr (.inr rfl)

/-- A text that starts a value; `null` is no value that stands alone, but the absence of one. -/
def StartsValue (cs : List Char) : Prop :=
  ∃ c rest, cs = c :: rest ∧ isSpace c = false ∧ c ≠ ']' ∧ c ≠ 'n'

theorem skipSpace_of_startsValue {cs : List Char} (h : StartsValue cs) (rest : List Char) :
    skipSpace (cs ++ rest) = cs ++ rest := by
  obtain ⟨c, tail, rfl, hc, -⟩ := h
  exact List.dropWhile_cons_of_neg (by simp [hc])

/-- What the codec writes of a value is read back. -/
structure Codec.LawfulAt {α : Type} (codec : Codec α) (a : α) : Prop where
  starts : StartsValue (codec.write a)
  read_write : ∀ rest, Ends rest → codec.read (codec.write a ++ rest) = .ok (a, rest)

structure Codec.Lawful {α : Type} (codec : Codec α) : Prop where
  starts : ∀ a, StartsValue (codec.write a)
  read_write : ∀ a rest, Ends rest → codec.read (codec.write a ++ rest) = .ok (a, rest)

namespace Codec.LawfulAt

variable {α β : Type} {codec : Codec α}

theorem decode_encode {a : α} (h : codec.LawfulAt a) : codec.decode (codec.encode a) = .ok a := by
  have hread := h.read_write [] ends_nil
  rw [List.append_nil] at hread
  simp [decode, encode, hread, skipSpace]

theorem refined {check : α → Except Problem β} {view : β → α} {b : β} (h : codec.LawfulAt (view b))
    (hcheck : check (view b) = .ok b) : (codec.refined check view).LawfulAt b where
  starts := h.starts
  read_write rest hrest := by
    simp [Codec.refined, h.read_write rest hrest, hcheck, bind, Except.bind]

theorem mapped {make : α → β} {view : β → α} {b : β} (h : codec.LawfulAt (view b))
    (hmake : make (view b) = b) : (codec.mapped make view).LawfulAt b :=
  h.refined (congrArg Except.ok hmake)

end Codec.LawfulAt

namespace Codec.Lawful

variable {α β : Type} {codec : Codec α}

theorem lawfulAt (h : codec.Lawful) (a : α) : codec.LawfulAt a :=
  ⟨h.starts a, h.read_write a⟩

theorem of_lawfulAt (h : ∀ a, codec.LawfulAt a) : codec.Lawful :=
  ⟨fun a => (h a).starts, fun a => (h a).read_write⟩

theorem decode_encode (h : codec.Lawful) (a : α) : codec.decode (codec.encode a) = .ok a :=
  (h.lawfulAt a).decode_encode

theorem eq_of_encode_eq (h : codec.Lawful) {a b : α} (heq : codec.encode a = codec.encode b) : a = b := by
  have hdecode := h.decode_encode a
  rw [heq, h.decode_encode b] at hdecode
  exact (Except.ok.inj hdecode).symm

theorem refined (h : codec.Lawful) {check : α → Except Problem β} {view : β → α}
    (hcheck : ∀ b, check (view b) = .ok b) : (codec.refined check view).Lawful :=
  of_lawfulAt fun b => (h.lawfulAt (view b)).refined (hcheck b)

theorem mapped (h : codec.Lawful) {make : α → β} {view : β → α} (hmake : ∀ b, make (view b) = b) :
    (codec.mapped make view).Lawful :=
  h.refined fun b => congrArg Except.ok (hmake b)

/-! ## Texts -/

theorem textNamed (expected : String) : (Codec.textNamed expected).Lawful where
  starts s := ⟨'"', Text.body s.toList, rfl, by decide, by decide, by decide⟩
  read_write s rest _ := by
    obtain ⟨after, hwrite, hread⟩ := Text.read_write s rest
    have hspace : skipSpace ('"' :: after) = '"' :: after := rfl
    simp only [Codec.textNamed, hwrite, hspace]
    exact hread

theorem text : Codec.text.Lawful :=
  textNamed "a string"

/-! ## Truth values and choices -/

theorem flag : Codec.flag.Lawful where
  starts b := by
    cases b
    · exact ⟨'f', wordFalse, rfl, by decide, by decide, by decide⟩
    · exact ⟨'t', wordTrue, rfl, by decide, by decide, by decide⟩
  read_write b rest _ := by cases b <;> rfl

theorem choice (choices : List String) {ofName? : String → Option α} {view : α → String}
    (hname : ∀ a, ofName? (view a) = some a) : (Codec.choice choices ofName? view).Lawful where
  starts a := ⟨'"', Text.body (view a).toList, rfl, by decide, by decide, by decide⟩
  read_write a rest _ := by
    obtain ⟨after, hwrite, hread⟩ := Text.read_write (view a) rest
    have hspace : skipSpace ('"' :: after) = '"' :: after := rfl
    simp [Codec.choice, Codec.choice.pick, hwrite, hspace, hread, hname, bind, Except.bind]

/-! ## Arrays -/

end Codec.Lawful

theorem Codec.joined_singleton (part : List Char) : joined [part] = part := by
  simp [joined, List.intercalate]

theorem Codec.joined_cons_cons (part next : List Char) (parts : List (List Char)) :
    joined (part :: next :: parts) = part ++ ',' :: joined (next :: parts) := by
  simp [joined, List.intercalate, List.intersperse]

theorem Codec.joined_cons (part : List Char) (parts : List (List Char)) :
    ∃ tail, joined (part :: parts) = part ++ tail := by
  cases parts with
  | nil => exact ⟨[], by rw [joined_singleton, List.append_nil]⟩
  | cons next parts => exact ⟨_, joined_cons_cons part next parts⟩

/-- The commas alone are as many as the parts, but for one. -/
theorem Codec.length_le_length_joined (parts : List (List Char)) :
    parts.length ≤ (joined parts).length + 1 := by
  induction parts with
  | nil => simp
  | cons part parts ih =>
    cases parts with
    | nil => simp
    | cons next parts =>
      rw [joined_cons_cons]
      simp only [List.length_cons, List.length_append] at ih ⊢
      omega

theorem nextItem_bracket (rest : List Char) : nextItem (']' :: rest) = .ok none := rfl

theorem nextItem_comma {cs : List Char} (h : StartsValue cs) (rest : List Char) :
    nextItem (',' :: (cs ++ rest)) = .ok (some (cs ++ rest)) := by
  have hcomma : skipSpace (',' :: (cs ++ rest)) = ',' :: (cs ++ rest) := rfl
  have hspace := skipSpace_of_startsValue h rest
  obtain ⟨c, tail, rfl, -, hc, -⟩ := h
  simp only [nextItem, hcomma, hspace]
  simp [hc]

theorem firstItem_of_startsValue {cs : List Char} (h : StartsValue cs) (rest : List Char) :
    Codec.firstItem (cs ++ rest) = .ok (some (cs ++ rest)) := by
  have hspace := skipSpace_of_startsValue h rest
  obtain ⟨c, tail, rfl, -, hc, -⟩ := h
  simp only [Codec.firstItem, hspace]
  simp [hc]

namespace Codec.Lawful

variable {α : Type} {codec : Codec α}

theorem readItems (h : codec.Lawful) (items : List α) (hne : items ≠ []) {fuel : Nat}
    (hfuel : items.length ≤ fuel) (rest : List Char) :
    codec.readItems fuel (joined (items.map codec.write) ++ ']' :: rest) =
      .ok (items, ']' :: rest) := by
  induction items generalizing fuel with
  | nil => exact absurd rfl hne
  | cons item items ih =>
    obtain ⟨fuel, rfl⟩ : ∃ n, fuel = n + 1 := ⟨fuel - 1, by simp at hfuel; omega⟩
    cases items with
    | nil =>
      rw [List.map_cons, List.map_nil, joined_singleton]
      simp [Codec.readItems, h.read_write item _ (ends_bracket rest), nextItem_bracket, bind,
        Except.bind]
    | cons next items =>
      obtain ⟨tail, htail⟩ := joined_cons (codec.write next) (items.map codec.write)
      have hrec := @ih (by simp) fuel (by simpa using hfuel)
      rw [List.map_cons, List.map_cons, joined_cons_cons, ← List.map_cons, List.append_assoc,
        List.cons_append]
      have hcomma := nextItem_comma (h.starts next) (tail ++ ']' :: rest)
      rw [← List.append_assoc, ← htail, ← List.map_cons] at hcomma
      simp only [Codec.readItems, h.read_write item _ (ends_comma _), hcomma, hrec, bind,
        Except.bind]

theorem array (h : codec.Lawful) : codec.array.Lawful where
  starts items := ⟨'[', _, rfl, by decide, by decide, by decide⟩
  read_write items rest _ := by
    have hopen : ∀ cs, skipSpace ('[' :: cs) = '[' :: cs := fun _ => rfl
    have hclose : endArray (']' :: rest) = .ok rest := rfl
    simp only [Codec.array, List.cons_append, List.append_assoc, List.nil_append, hopen]
    cases items with
    | nil => rfl
    | cons item items =>
      obtain ⟨tail, htail⟩ := joined_cons (codec.write item) (items.map codec.write)
      have hstart := firstItem_of_startsValue (h.starts item) (tail ++ ']' :: rest)
      rw [← List.append_assoc, ← htail, ← List.map_cons] at hstart
      have hlen := length_le_length_joined ((item :: items).map codec.write)
      have hitems := @readItems _ _ h (item :: items) (by simp)
        ((joined ((item :: items).map codec.write) ++ ']' :: rest).length + 1)
        (by simp only [List.length_map, List.length_append] at hlen ⊢; omega) rest
      simp only [hstart, hitems, hclose, bind, Except.bind]

end Codec.Lawful

/-! ## Records -/

/-- A value that is written is read back; a value that is left out is what a missing field stands for. -/
structure Field.LawfulAt (field : Field) (value : field.Value) : Prop where
  read_write : field.shown value = true → ∀ rest, Ends rest →
    field.codec.read (field.codec.write value ++ rest) = .ok (value, rest)
  absent : field.shown value = false → field.absent = some value

def Field.Lawful (field : Field) : Prop :=
  ∀ value, field.LawfulAt value

namespace Field

variable {α : Type} {codec : Codec α}

theorem lawfulAt_required (name : String) {value : α} (h : codec.LawfulAt value) :
    (required name codec).LawfulAt value where
  read_write _ := h.read_write
  absent hshown := nomatch hshown

theorem lawfulAt_optional (name : String) {value : Option α} (h : ∀ a, value = some a → codec.LawfulAt a) :
    (optional name codec).LawfulAt value where
  read_write hshown rest hrest := by
    cases value with
    | none => exact nomatch hshown
    | some a =>
      have hread := (h a rfl).read_write rest hrest
      have hspace := skipSpace_of_startsValue (h a rfl).starts rest
      obtain ⟨c, tail, hwrite, -, -, hc⟩ := (h a rfl).starts
      simp only [optional, Codec.optional, hspace]
      rw [hwrite, List.cons_append] at hread ⊢
      simp [hc, hread, Except.map]
  absent hshown := by
    cases value with
    | none => rfl
    | some a => exact nomatch hshown

theorem lawful_required (name : String) (h : codec.Lawful) : (required name codec).Lawful :=
  fun value => lawfulAt_required name (h.lawfulAt value)

theorem lawful_defaulting (name : String) (h : codec.Lawful) (value : α) :
    (defaulting name codec value).Lawful :=
  fun value => ⟨fun _ => h.read_write value, fun hshown => nomatch hshown⟩

theorem lawful_optional (name : String) (h : codec.Lawful) : (optional name codec).Lawful :=
  fun _ => lawfulAt_optional name fun a _ => h.lawfulAt a

end Field

/-- The laws of the fields hold at these values. -/
def Values.Lawful : (fields : List Field) → Values fields → Prop
  | [], _ => True
  | field :: fields, (value, values) => field.LawfulAt value ∧ Values.Lawful fields values

theorem Values.lawful_of_fields {fields : List Field} (h : ∀ field ∈ fields, field.Lawful)
    (values : Values fields) : Values.Lawful fields values := by
  induction fields with
  | nil => trivial
  | cons field fields ih =>
    obtain ⟨value, values⟩ := values
    exact ⟨h field List.mem_cons_self value, ih (fun f hf => h f (List.mem_cons_of_mem _ hf)) values⟩

namespace Slots

/-- What has been read of a record when some of its fields are still to come. -/
def awaiting : (fields : List Field) → Values fields → List String → Slots fields
  | [], _, _ => ()
  | field :: fields, (value, values), todo =>
    (if field.shown value = true ∧ field.name ∉ todo then some value else none,
      awaiting fields values todo)

/-- The fields that are written, with the texts of their values. -/
def written : (fields : List Field) → Values fields → List (String × List Char)
  | [], _ => []
  | field :: fields, (value, values) =>
    if field.shown value then (field.name, field.codec.write value) :: written fields values
    else written fields values

theorem awaiting_cons {field : Field} {fields : List Field} (value : field.Value)
    (values : Values fields) (todo : List String) :
    awaiting (field :: fields) (value, values) todo =
      (if field.shown value = true ∧ field.name ∉ todo then some value else none,
        awaiting fields values todo) := rfl

theorem written_cons {field : Field} {fields : List Field} (value : field.Value)
    (values : Values fields) :
    written (field :: fields) (value, values) =
      if field.shown value then (field.name, field.codec.write value) :: written fields values
      else written fields values := rfl

theorem mem_names_of_mem_written {fields : List Field} {values : Values fields} {name : String}
    {text : List Char} (h : (name, text) ∈ written fields values) : name ∈ fields.map Field.name := by
  induction fields with
  | nil => simp [written] at h
  | cons field fields ih =>
    obtain ⟨value, values⟩ := values
    rw [written_cons] at h
    split at h
    · rcases List.mem_cons.1 h with h | h
      · cases h
        simp
      · simp [ih h]
    · simp [ih h]

theorem nodup_written {fields : List Field} (hnames : (fields.map Field.name).Nodup)
    (values : Values fields) : ((written fields values).map Prod.fst).Nodup := by
  induction fields with
  | nil => exact List.nodup_nil
  | cons field fields ih =>
    obtain ⟨value, values⟩ := values
    obtain ⟨hnew, hrest⟩ := List.nodup_cons.1 hnames
    rw [written_cons]
    split
    · refine List.nodup_cons.2 ⟨fun hmem => ?_, ih hrest values⟩
      obtain ⟨⟨name, text⟩, hwritten, rfl⟩ := List.mem_map.1 hmem
      exact hnew (mem_names_of_mem_written hwritten)
    · exact ih hrest values

/-- A name that is not among the fields makes no difference to what is still to come. -/
theorem awaiting_cons_of_not_mem {fields : List Field} {name : String}
    (h : name ∉ fields.map Field.name) (values : Values fields) (todo : List String) :
    awaiting fields values (name :: todo) = awaiting fields values todo := by
  induction fields with
  | nil => rfl
  | cons field fields ih =>
    obtain ⟨value, values⟩ := values
    simp only [List.map_cons, List.mem_cons, not_or] at h
    have hne : field.name ≠ name := fun e => h.1 e.symm
    rw [awaiting_cons, awaiting_cons, ih h.2]
    refine Prod.ext ?_ rfl
    simp [hne]

/-- As long as all fields that are written are to come, nothing has been read. -/
theorem awaiting_eq_blank {fields : List Field} {values : Values fields} {todo : List String}
    (h : ∀ name text, (name, text) ∈ written fields values → name ∈ todo) :
    awaiting fields values todo = blank fields := by
  induction fields with
  | nil => rfl
  | cons field fields ih =>
    obtain ⟨value, values⟩ := values
    refine Prod.ext ?_ ?_
    · refine if_neg fun ⟨hshown, hname⟩ => hname (h field.name (field.codec.write value) ?_)
      rw [written_cons, if_pos hshown]
      exact List.mem_cons_self
    · refine ih fun name text hmem => h name text ?_
      rw [written_cons]
      split
      · exact List.mem_cons_of_mem _ hmem
      · exact hmem

/-- Once no field is to come any more, closing gives all values. -/
theorem close_awaiting_nil {fields : List Field} {values : Values fields}
    (hvalues : Values.Lawful fields values) : close fields (awaiting fields values []) = .ok values := by
  induction fields with
  | nil => rfl
  | cons field fields ih =>
    obtain ⟨value, values⟩ := values
    have ih := ih hvalues.2
    cases hshown : field.shown value with
    | true => simp [awaiting, close, hshown, ih, Except.map]
    | false =>
      have habsent := hvalues.1.absent hshown
      simp [awaiting, close, hshown, habsent, ih, Except.map]

/-- Reading the value of a field that was to come. -/
theorem read_awaiting {fields : List Field} (hnames : (fields.map Field.name).Nodup)
    {values : Values fields} (hvalues : Values.Lawful fields values) {name : String}
    {text : List Char} (hmem : (name, text) ∈ written fields values) {todo : List String}
    (htodo : name ∉ todo) {rest : List Char} (hrest : Ends rest) :
    read fields name (awaiting fields values (name :: todo)) (':' :: (text ++ rest)) =
      some (.ok (awaiting fields values todo, rest)) := by
  induction fields with
  | nil => simp [written] at hmem
  | cons field fields ih =>
    obtain ⟨value, values⟩ := values
    obtain ⟨hnew, hdistinct⟩ := List.nodup_cons.1 hnames
    by_cases hname : name = field.name
    · subst hname
      have hother : ∀ text, (field.name, text) ∉ written fields values :=
        fun text h => hnew (mem_names_of_mem_written h)
      have hhead : field.shown value = true ∧ text = field.codec.write value := by
        rw [written_cons] at hmem
        split at hmem
        case isTrue hshown =>
          rcases List.mem_cons.1 hmem with h | h
          · cases h
            exact ⟨hshown, rfl⟩
          · exact absurd h (hother text)
        case isFalse => exact absurd hmem (hother text)
      obtain ⟨hshown, rfl⟩ := hhead
      have hcolon : ∀ cs, colon (':' :: cs) = .ok cs := fun _ => rfl
      have hread := hvalues.1.read_write hshown rest hrest
      simp [read, awaiting, hshown, htodo, hcolon, hread, awaiting_cons_of_not_mem hnew, bind,
        Except.bind]
    · have htail : (name, text) ∈ written fields values := by
        rw [written_cons] at hmem
        split at hmem
        · rcases List.mem_cons.1 hmem with h | h
          · exact absurd (congrArg Prod.fst h) hname
          · exact h
        · exact hmem
      have ih := ih hdistinct hvalues.2 htail
      have hne : field.name ≠ name := fun e => hname e.symm
      simp [read, awaiting, hname, hne, ih, Except.map]

end Slots

namespace Record

/-- The members of an object in its text, quotes, colons and all. -/
def memberText (member : String × List Char) : List Char :=
  Text.write member.1 ++ ':' :: member.2

theorem members_eq (fields : List Field) (values : Values fields) :
    members fields values = (Slots.written fields values).map memberText := by
  induction fields with
  | nil => rfl
  | cons field fields ih =>
    obtain ⟨value, values⟩ := values
    simp only [members, Slots.written, ih]
    split <;> rfl

theorem nextMember_brace (rest : List Char) : nextMember ('\x7d' :: rest) = .ok none := rfl

theorem nextMember_comma (cs : List Char) : nextMember (',' :: '"' :: cs) = .ok (some cs) := rfl

theorem readMembers_awaiting {fields : List Field} (hnames : (fields.map Field.name).Nodup)
    {values : Values fields} (hvalues : Values.Lawful fields values)
    {skip : List Char → Except Problem (List Char)} (member : String × List Char)
    (later : List (String × List Char))
    (hmem : ∀ m ∈ member :: later, m ∈ Slots.written fields values)
    (hdistinct : ((member :: later).map Prod.fst).Nodup) {fuel : Nat} (hfuel : later.length < fuel)
    (rest : List Char) {text : List Char}
    (htext : '"' :: text =
      Codec.joined ((member :: later).map memberText) ++ '\x7d' :: rest) :
    readMembers fields skip fuel (Slots.awaiting fields values ((member :: later).map Prod.fst)) text =
      .ok (Slots.awaiting fields values [], '\x7d' :: rest) := by
  induction later generalizing member fuel text with
  | nil =>
    obtain ⟨fuel, rfl⟩ : ∃ n, fuel = n + 1 := ⟨fuel - 1, by omega⟩
    obtain ⟨name, value⟩ := member
    rw [List.map_cons, List.map_nil, Codec.joined_singleton, memberText, List.append_assoc] at htext
    obtain ⟨after, hwrite, hread⟩ :=
      Text.read_write name (':' :: (value ++ '\x7d' :: rest))
    rw [List.cons_append, hwrite] at htext
    cases htext
    have hslot := @Slots.read_awaiting fields hnames values hvalues name value
      (hmem (name, value) (by simp)) [] (by simp) _ (ends_brace rest)
    simp [readMembers, hread, hslot, nextMember_brace, bind, Except.bind]
  | cons next later ih =>
    obtain ⟨fuel, rfl⟩ : ∃ n, fuel = n + 1 := ⟨fuel - 1, by omega⟩
    obtain ⟨name, value⟩ := member
    obtain ⟨hnew, hrest⟩ := List.nodup_cons.1 hdistinct
    obtain ⟨tail, htail⟩ : ∃ tail, '"' :: tail =
        Codec.joined ((next :: later).map memberText) ++ '\x7d' :: rest := by
      obtain ⟨more, hmore⟩ := Codec.joined_cons (memberText next) (later.map memberText)
      exact ⟨_, by rw [List.map_cons, hmore]; rfl⟩
    rw [List.map_cons, List.map_cons, Codec.joined_cons_cons, ← List.map_cons, List.append_assoc,
      List.cons_append, ← htail, memberText, List.append_assoc] at htext
    obtain ⟨after, hwrite, hread⟩ := Text.read_write name (':' :: (value ++ ',' :: '"' :: tail))
    rw [List.cons_append, hwrite] at htext
    cases htext
    have hslot := @Slots.read_awaiting fields hnames values hvalues name value
      (hmem (name, value) (by simp)) ((next :: later).map Prod.fst) hnew _ (ends_comma ('"' :: tail))
    have hrec := @ih next (fun m hm => hmem m (by simp [hm])) hrest fuel
      (by simpa using hfuel) tail htail
    simp only [readMembers, hread, List.map_cons, bind, Except.bind] at hslot hrec ⊢
    simp only [hslot, nextMember_comma, hrec]

theorem readObject_write {fields : List Field} (hnames : (fields.map Field.name).Nodup)
    {values : Values fields} (hvalues : Values.Lawful fields values)
    (skip : List Char → Except Problem (List Char)) (rest : List Char) :
    readObject fields skip (Codec.joined (members fields values) ++ '\x7d' :: rest) =
      .ok (values, rest) := by
  have hclose := Slots.close_awaiting_nil hvalues
  have hend : endObject ('\x7d' :: rest) = .ok rest := rfl
  have hblank := @Slots.awaiting_eq_blank fields values
    ((Slots.written fields values).map Prod.fst)
    (fun name text h => List.mem_map_of_mem (f := Prod.fst) h)
  have hdistinct := Slots.nodup_written hnames values
  have hmem : ∀ m ∈ Slots.written fields values, m ∈ Slots.written fields values := fun _ h => h
  rw [members_eq]
  cases hwritten : Slots.written fields values with
  | nil =>
    rw [hwritten, List.map_nil] at hblank
    have hspace : skipSpace ('\x7d' :: rest) = '\x7d' :: rest := rfl
    simp only [List.map_nil, Codec.joined, List.intercalate, List.intersperse, List.flatten_nil,
      List.nil_append, readObject, hspace, bind, Except.bind]
    rw [← hblank, hclose]
    simp only [hend]
  | cons member later =>
    obtain ⟨more, hmore⟩ := Codec.joined_cons (memberText member) (later.map memberText)
    obtain ⟨text, htext⟩ : ∃ text, '"' :: text =
        Codec.joined ((member :: later).map memberText) ++ '\x7d' :: rest :=
      ⟨_, by rw [List.map_cons, hmore]; rfl⟩
    have hlen := Codec.length_le_length_joined ((member :: later).map memberText)
    have hlength := congrArg List.length htext
    simp only [List.length_cons, List.length_append, List.length_map] at hlen hlength
    have hread := @readMembers_awaiting fields hnames values hvalues skip member later
      (fun m hm => by rw [hwritten]; exact hm) (by rw [← hwritten]; exact hdistinct)
      (text.length + 1) (by omega) rest text htext
    rw [← hwritten, hblank] at hread
    have hspace : skipSpace ('"' :: text) = '"' :: text := rfl
    have hkey : keyStart ('"' :: text) = .ok text := rfl
    rw [← htext]
    simp [readObject, hspace, hkey, hread, hclose, hend, bind, Except.bind]

theorem lawful_codec {fields : List Field} (title : String) (hnames : (fields.map Field.name).Nodup)
    (hfields : ∀ field ∈ fields, field.Lawful) : (codec title fields).Lawful where
  starts values := ⟨'{', _, rfl, by decide, by decide, by decide⟩
  read_write values rest _ := by
    have hspace : ∀ cs, skipSpace ('{' :: cs) = '{' :: cs := fun _ => rfl
    have hread := readObject_write hnames (values.lawful_of_fields hfields) Json.skip rest
    simp only [codec, write, List.cons_append, List.append_assoc, List.nil_append, hspace]
    exact hread

theorem lawfulAt_openCodec {fields : List Field} (title : String) (hnames : (fields.map Field.name).Nodup)
    {values : Values fields} (hvalues : Values.Lawful fields values) :
    (openCodec title fields).LawfulAt values where
  starts := ⟨'{', _, rfl, by decide, by decide, by decide⟩
  read_write rest _ := by
    have hspace : ∀ cs, skipSpace ('{' :: cs) = '{' :: cs := fun _ => rfl
    have hread := readObject_write hnames hvalues Json.check rest
    simp only [openCodec, write, List.cons_append, List.append_assoc, List.nil_append, hspace]
    exact hread

end Record

end SharedTodo.Json
