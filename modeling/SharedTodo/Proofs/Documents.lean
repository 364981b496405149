import SharedTodo.Documents
import SharedTodo.Proofs.Json.Number
import SharedTodo.Proofs.Json.Sources
import SharedTodo.Proofs.Time.Rfc3339

/-!
# Documents read back

The codecs of issues, of lists and of what belongs to a user are lawful, so what is stored under a key decodes
to exactly what was encoded. The fields of a record have different names, which is all that the law of records
asks beside the laws of the fields. An issue with its place in the lists is read back as long as its positions
are indices of 64 bits, and no others are ever read.

A value that was read from any document, written by whomever in whatever form, is therefore written in one
form that stays what it is when it is read and written again (`Codec.Faithful`).
-/

namespace SharedTodo

open Json

theorem IssueId.lawful_codec : IssueId.codec.Lawful :=
  (Codec.Lawful.textNamed _).refined fun id => by
    rw [IssueId.text, String.toList_ofList, IssueId.read_textList]
    rfl

theorem Time.Instant.lawful_codec : Time.Instant.codec.Lawful :=
  (Codec.Lawful.textNamed _).refined fun t => by
    rw [String.toList_ofList, Time.Rfc3339.read_write]
    rfl

theorem UserId.lawful_codec : UserId.codec.Lawful :=
  Codec.Lawful.text.mapped fun _ => rfl

theorem PostId.lawful_codec : PostId.codec.Lawful :=
  Codec.Lawful.text.mapped fun _ => rfl

/-! ## Issues -/

theorem Issue.lawful_fields : ∀ field ∈ Issue.fields, field.Lawful := by
  intro field h
  simp only [Issue.fields, List.mem_cons, List.not_mem_nil, or_false] at h
  rcases h with rfl | rfl | rfl | rfl | rfl
  · exact Field.lawful_required _ IssueId.lawful_codec
  · exact Field.lawful_required _ Codec.Lawful.text
  · exact Field.lawful_optional _ Codec.Lawful.text
  · exact Field.lawful_optional _ PostId.lawful_codec
  · exact Field.lawful_required _ Time.Instant.lawful_codec

theorem Issue.lawful_codec : Issue.codec.Lawful :=
  (Record.lawful_codec _ (by decide) lawful_fields).mapped fun _ => rfl

theorem Issue.decode_encode (issue : Issue) : codec.decode (codec.encode issue) = .ok issue :=
  lawful_codec.decode_encode issue

/-! ## Lists -/

theorem Entry.lawful_fields : ∀ field ∈ Entry.fields, field.Lawful := by
  intro field h
  simp only [Entry.fields, List.mem_cons, List.not_mem_nil, or_false] at h
  rcases h with rfl | rfl | rfl
  · exact Field.lawful_required _ IssueId.lawful_codec
  · exact Field.lawful_optional _ IssueId.lawful_codec
  · exact Field.lawful_optional _ UserId.lawful_codec

theorem Entry.lawful_codec : Entry.codec.Lawful :=
  (Record.lawful_codec _ (by decide) lawful_fields).mapped fun _ => rfl

theorem UserLists.lawful_fields : ∀ field ∈ UserLists.fields, field.Lawful := by
  intro field h
  simp only [UserLists.fields, List.mem_cons, List.not_mem_nil, or_false] at h
  rcases h with rfl | rfl | rfl <;> exact Field.lawful_defaulting _ Entry.lawful_codec.array []

theorem UserLists.lawful_codec : UserLists.codec.Lawful :=
  (Record.lawful_codec _ (by decide) lawful_fields).mapped fun _ => rfl

theorem UserLists.decode_encode (lists : UserLists) :
    codec.decode (codec.encode lists) = .ok lists :=
  lawful_codec.decode_encode lists

/-! ## Users -/

theorem TimezoneOffset.lawful_codec : TimezoneOffset.codec.Lawful :=
  Codec.Lawful.int32.mapped fun _ => rfl

theorem Preferences.lawful_fields : ∀ field ∈ Preferences.fields, field.Lawful := by
  intro field h
  simp only [Preferences.fields, List.mem_cons, List.not_mem_nil, or_false] at h
  rcases h with rfl | rfl | rfl
  · exact Field.lawful_defaulting _ Codec.Lawful.flag true
  · exact Field.lawful_defaulting _ Codec.Lawful.flag true
  · exact Field.lawful_optional _ Time.Instant.lawful_codec

theorem Preferences.lawful_codec : Preferences.codec.Lawful :=
  (Record.lawful_codec _ (by decide) lawful_fields).mapped fun _ => rfl

theorem Preferences.decode_encode (prefs : Preferences) : codec.decode (codec.encode prefs) = .ok prefs :=
  lawful_codec.decode_encode prefs

theorem Profile.lawful_codec : Profile.codec.Lawful := by
  refine Codec.Lawful.mapped (Record.lawful_codec _ (by decide) ?_) fun _ => rfl
  intro field h
  simp only [List.mem_cons, List.not_mem_nil, or_false] at h
  rcases h with rfl | rfl
  · exact Field.lawful_required _ UserId.lawful_codec
  · exact Field.lawful_required _ Codec.Lawful.text

/-! ## Issues with their places -/

theorem ListKind.lawful_codec : ListKind.codec.Lawful :=
  Codec.Lawful.choice _ ofName?_name

/-- The positions are indices of 64 bits. -/
structure ListedIssue.Placed (item : ListedIssue) : Prop where
  position : item.position < UInt64.size
  foreignPosition : ∀ n, item.foreignPosition = some n → n < UInt64.size

theorem ListedIssue.lawfulAt_codec {item : ListedIssue} (h : item.Placed) :
    ListedIssue.codec.LawfulAt item := by
  refine (Record.lawfulAt_openCodec _ (by decide) ?_).mapped rfl
  exact ⟨Field.lawfulAt_required _ (IssueId.lawful_codec.lawfulAt _),
    Field.lawfulAt_required _ (Codec.Lawful.text.lawfulAt _),
    Field.lawful_optional _ Codec.Lawful.text _,
    Field.lawful_optional _ PostId.lawful_codec _,
    Field.lawfulAt_required _ (Time.Instant.lawful_codec.lawfulAt _),
    Field.lawfulAt_required _ (Codec.lawfulAt_word64 h.position),
    Field.lawful_optional _ ListKind.lawful_codec _,
    Field.lawfulAt_optional _ fun n hn => Codec.lawfulAt_word64 (h.foreignPosition n hn),
    Field.lawful_optional _ UserId.lawful_codec _,
    Field.lawful_optional _ Codec.Lawful.text _, trivial⟩

theorem ListedIssue.placed_of_read {cs rest : List Char} {item : ListedIssue}
    (h : ListedIssue.codec.read cs = .ok (item, rest)) : item.Placed := by
  obtain ⟨⟨values, rest'⟩, hvalues, hitem⟩ := ok_of_bind h
  obtain ⟨id, message, description, post, createdAt, position, foreignList, foreignPosition, foreignUser,
    foreignName, ⟨⟩⟩ := values
  cases hitem
  obtain ⟨-, -, -, -, -, hposition, -, hforeign, -⟩ := Record.sourced_of_openCodec hvalues
  constructor
  · rcases hposition with ⟨cs, rest, hread⟩ | habsent
    · exact Codec.lt_of_read_word64 hread
    · exact nomatch habsent
  · rintro n rfl
    rcases hforeign with ⟨cs, rest, hread⟩ | habsent
    · exact Codec.lt_of_read_word64 (Codec.read_of_optional hread)
    · exact nomatch habsent

/-! ## All documents -/

/-- Valid values are read back, and what is written of a value that was read is written again of the value that
is read from it. -/
structure Json.Codec.Faithful {α : Type} (codec : Codec α) (Valid : α → Prop) : Prop where
  decode_encode : ∀ a, Valid a → codec.decode (codec.encode a) = .ok a
  encode_decode : ∀ document a, codec.decode document = .ok a →
    (codec.decode (codec.encode a)).map codec.encode = .ok (codec.encode a)

theorem Json.Codec.read_of_decode {α : Type} {codec : Codec α} {document : String} {a : α}
    (h : codec.decode document = .ok a) : ∃ rest, codec.read document.toList = .ok (a, rest) := by
  rw [Codec.decode] at h
  cases hread : codec.read document.toList with
  | error problem => simp only [hread, reduceCtorEq] at h
  | ok result =>
    obtain ⟨b, rest⟩ := result
    simp only [hread] at h
    by_cases hrest : skipSpace rest = []
    · rw [if_pos hrest] at h
      exact ⟨rest, by rw [Except.ok.inj h]⟩
    · rw [if_neg hrest] at h
      cases h

theorem Json.Codec.faithful {α : Type} {codec : Codec α} {Valid : α → Prop}
    (hlawful : ∀ a, Valid a → codec.LawfulAt a)
    (hread : ∀ cs a rest, codec.read cs = .ok (a, rest) → Valid a) : codec.Faithful Valid where
  decode_encode a ha := (hlawful a ha).decode_encode
  encode_decode document a hdecode := by
    obtain ⟨rest, hrest⟩ := Codec.read_of_decode hdecode
    have ha := hread _ _ _ hrest
    rw [(hlawful a ha).decode_encode]
    rfl

theorem Json.Codec.Lawful.faithful {α : Type} {codec : Codec α} (h : codec.Lawful) :
    codec.Faithful fun _ => True :=
  Codec.faithful (fun a _ => h.lawfulAt a) fun _ _ _ _ => trivial

/-- Every kind of document is read back from its text, and reading and writing any text that can be read leads
to a text that reading and writing leave as it is. -/
theorem documents_faithful :
    (Issue.codec.Faithful fun _ => True) ∧ (Entry.codec.Faithful fun _ => True) ∧
      (UserLists.codec.Faithful fun _ => True) ∧ ListedIssue.codec.Faithful ListedIssue.Placed ∧
      (Preferences.codec.Faithful fun _ => True) ∧ (TimezoneOffset.codec.Faithful fun _ => True) ∧
      Profile.codec.Faithful fun _ => True :=
  ⟨Issue.lawful_codec.faithful, Entry.lawful_codec.faithful, UserLists.lawful_codec.faithful,
    Codec.faithful (fun _ => ListedIssue.lawfulAt_codec) fun _ _ _ => ListedIssue.placed_of_read,
    Preferences.lawful_codec.faithful, TimezoneOffset.lawful_codec.faithful, Profile.lawful_codec.faithful⟩

end SharedTodo
