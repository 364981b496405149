import SharedTodo.Exchange.Access
import SharedTodo.Proofs.Documents
import SharedTodo.Proofs.Lists.Revision

/-!
# What the store holds

A store is read as lists for every user and records for some issues. It is orderly when every document under
such a key decodes, the lists of a user name no issue twice, and a record carries the identifier that it is
stored under. The writes that operations make are three: the document of a user's lists, the document of a
record, and the absence of a record. Each of them changes one user's lists or one record and nothing else,
and leaves an orderly store orderly.
-/

namespace SharedTodo

/-! ## Keys -/

theorem append_left_injective {first s t : String} (h : first ++ s = first ++ t) : s = t := by
  have hlist := congrArg String.toList h
  rw [String.toList_append, String.toList_append] at hlist
  exact String.toList_inj.1 (List.append_cancel_left hlist)

theorem UserLists.key_injective {user other : UserId} (h : key user = key other) : user = other := by
  have htext : user.text = other.text := append_left_injective h
  cases user
  cases other
  exact congrArg UserId.mk htext

theorem Issue.key_injective {id other : IssueId} (h : key id = key other) : id = other := by
  have htext : id.text = other.text := append_left_injective h
  exact IssueId.text_injective htext

theorem UserLists.key_ne_key (user : UserId) (id : IssueId) : key user ≠ Issue.key id := by
  intro h
  have hlist := congrArg String.toList h
  rw [key, Issue.key, String.toList_append, String.toList_append] at hlist
  exact absurd (congrArg List.head? hlist) (by simp)

namespace Store

open Exchange

/-! ## Reading a store -/

/-- The lists of a user; a document that does not decode counts as none. -/
def lists (store : Store) (user : UserId) : UserLists :=
  (listsOfDocument (UserLists.key user) (store.find? (UserLists.key user))).toOption.getD .empty

/-- The record of an issue; a document that does not decode counts as none. -/
def record (store : Store) (id : IssueId) : Option Issue :=
  (store.find? (Issue.key id)).bind fun raw => (Issue.codec.decode raw).toOption

structure Orderly (store : Store) : Prop where
  lists : ∀ user raw, store.find? (UserLists.key user) = some raw →
    ∃ lists, UserLists.codec.decode raw = .ok lists ∧ lists.Distinct
  records : ∀ id raw, store.find? (Issue.key id) = some raw →
    ∃ issue, Issue.codec.decode raw = .ok issue ∧ issue.id = id

/-- Nothing is stored but lists and records, and no lists for a user without entries. -/
structure Tidy (store : Store) : Prop where
  lists : ∀ user raw, store.find? (UserLists.key user) = some raw →
    UserLists.codec.decode raw ≠ .ok .empty
  keys : ∀ key, store.find? key ≠ none →
    (∃ user, key = UserLists.key user) ∨ ∃ id, key = Issue.key id

theorem orderly_empty : Orderly Table.empty :=
  ⟨fun _ _ h => (nomatch h), fun _ _ h => nomatch h⟩

theorem tidy_empty : Tidy Table.empty :=
  ⟨fun _ _ h => (nomatch h), fun _ h => absurd rfl h⟩

theorem lists_eq {store other : Store} {user : UserId}
    (h : store.find? (UserLists.key user) = other.find? (UserLists.key user)) :
    store.lists user = other.lists user := by
  rw [lists, lists, h]

theorem record_eq {store other : Store} {id : IssueId}
    (h : store.find? (Issue.key id) = other.find? (Issue.key id)) :
    store.record id = other.record id := by
  rw [record, record, h]

theorem listsOfDocument_some {key raw : String} {lists : UserLists}
    (h : UserLists.codec.decode raw = .ok lists) :
    Exchange.listsOfDocument key (some raw) = .ok lists := by
  rw [Exchange.listsOfDocument, h]
  rfl

theorem recordOfDocument_of_decode {key raw : String} {issue : Issue}
    (h : Issue.codec.decode raw = .ok issue) :
    Exchange.recordOfDocument key raw = .ok issue := by
  rw [Exchange.recordOfDocument, h]
  rfl

section

variable {store : Store}

theorem Orderly.listsOfDocument (h : store.Orderly) (user : UserId) :
    Exchange.listsOfDocument (UserLists.key user) (store.find? (UserLists.key user)) =
      .ok (store.lists user) := by
  rw [Store.lists]
  cases hraw : store.find? (UserLists.key user) with
  | none => rfl
  | some raw =>
    obtain ⟨lists, hdecode, -⟩ := h.lists user raw hraw
    rw [listsOfDocument_some hdecode]
    rfl

theorem Orderly.distinct (h : store.Orderly) (user : UserId) : (store.lists user).Distinct := by
  rw [Store.lists]
  cases hraw : store.find? (UserLists.key user) with
  | none => exact UserLists.distinct_empty
  | some raw =>
    obtain ⟨lists, hdecode, hdistinct⟩ := h.lists user raw hraw
    rw [listsOfDocument_some hdecode]
    exact hdistinct

/-- What stands under the key of an issue is the record of that issue. -/
theorem Orderly.recordOfDocument (h : store.Orderly) {id : IssueId} {raw : String}
    (hraw : store.find? (Issue.key id) = some raw) :
    ∃ issue, Exchange.recordOfDocument (Issue.key id) raw = .ok issue ∧
      store.record id = some issue ∧ issue.id = id := by
  obtain ⟨issue, hdecode, hid⟩ := h.records id raw hraw
  refine ⟨issue, recordOfDocument_of_decode hdecode, ?_, hid⟩
  · simp [record, hraw, hdecode, Except.toOption]

theorem record_of_find?_eq_none {id : IssueId} (h : store.find? (Issue.key id) = none) :
    store.record id = none := by
  rw [record, h]
  rfl

theorem Orderly.find?_eq_none_iff (h : store.Orderly) {id : IssueId} :
    store.find? (Issue.key id) = none ↔ store.record id = none := by
  refine ⟨record_of_find?_eq_none, fun hrecord => ?_⟩
  cases hraw : store.find? (Issue.key id) with
  | none => rfl
  | some raw =>
    obtain ⟨issue, -, hissue, -⟩ := h.recordOfDocument hraw
    exact nomatch hrecord.symm.trans hissue

theorem Orderly.id_of_record (h : store.Orderly) {id : IssueId} {issue : Issue}
    (hrecord : store.record id = some issue) : issue.id = id := by
  obtain ⟨raw, hraw, hdecode⟩ := Option.bind_eq_some_iff.1 hrecord
  obtain ⟨issue', hdecode', hid⟩ := h.records id raw hraw
  rw [hdecode'] at hdecode
  cases hdecode
  exact hid

theorem Orderly.editedRecord (h : store.Orderly) {id : IssueId} {issue : Issue}
    (hrecord : store.record id = some issue) (edit : Edit) :
    Exchange.editedRecord (Issue.key id) edit (store.find? (Issue.key id)) =
      .ok (some (Issue.codec.encode (issue.edited edit)), some issue.message) := by
  cases hraw : store.find? (Issue.key id) with
  | none => exact nomatch (record_of_find?_eq_none hraw).symm.trans hrecord
  | some raw =>
    obtain ⟨issue', hdocument, hissue, -⟩ := h.recordOfDocument hraw
    cases hissue.symm.trans hrecord
    simp only [Exchange.editedRecord, hdocument, bind, Except.bind]

theorem Orderly.editedRecord_none (h : store.Orderly) {id : IssueId} (hrecord : store.record id = none)
    (edit : Edit) : Exchange.editedRecord (Issue.key id) edit (store.find? (Issue.key id)) = .ok (none, none) := by
  rw [h.find?_eq_none_iff.2 hrecord]
  rfl

/-! ## Writing lists -/

/-- A store with one document written or taken out. -/
def Changes (store : Store) (key : String) (new : Option String) (store' : Store) : Prop :=
  ∀ other, store'.find? other = if other = key then new else store.find? other

theorem changes_assign (store : Store) (key : String) (new : Option String) :
    Changes store key new (store.assign key new) :=
  fun other => store.find?_assign key other new

theorem listsOfDocument_documentOfLists (key : String) (lists : UserLists) :
    Exchange.listsOfDocument key (documentOfLists lists) = .ok lists := by
  rw [documentOfLists]
  split
  · next hempty =>
    rw [UserLists.isEmpty_iff.1 hempty]
    rfl
  · exact listsOfDocument_some (lists.decode_encode)

section

variable {α : Type} {change : UserLists → Except OperationError (UserLists × α)} {user : UserId}
  {revised : UserLists} {outcome : α} {failure : OperationError}

theorem Orderly.revisedLists_error (h : store.Orderly)
    (hchange : change (store.lists user) = .error failure) :
    revisedLists (UserLists.key user) change (store.find? (UserLists.key user)) = .error failure := by
  rw [revisedLists, h.listsOfDocument user]
  simp only [bind, Except.bind, hchange]

theorem Orderly.revisedLists_same (h : store.Orderly)
    (hchange : change (store.lists user) = .ok (store.lists user, outcome)) :
    revisedLists (UserLists.key user) change (store.find? (UserLists.key user)) =
      .ok (store.find? (UserLists.key user), outcome) := by
  rw [revisedLists, h.listsOfDocument user]
  simp only [bind, Except.bind, hchange, if_pos]

theorem Orderly.revisedLists_new (h : store.Orderly)
    (hchange : change (store.lists user) = .ok (revised, outcome)) (hne : revised ≠ store.lists user) :
    revisedLists (UserLists.key user) change (store.find? (UserLists.key user)) =
      .ok (documentOfLists revised, outcome) := by
  rw [revisedLists, h.listsOfDocument user]
  simp only [bind, Except.bind, hchange, if_neg hne]

theorem Orderly.documentOfLists_ne (h : store.Orderly) (hne : revised ≠ store.lists user) :
    documentOfLists revised ≠ store.find? (UserLists.key user) := by
  intro hsame
  have hlists := h.listsOfDocument user
  rw [← hsame, listsOfDocument_documentOfLists] at hlists
  exact hne (Except.ok.inj hlists)

end

theorem decode_of_documentOfLists {lists : UserLists} {raw : String}
    (h : documentOfLists lists = some raw) :
    UserLists.codec.decode raw = .ok lists ∧ lists ≠ .empty := by
  rw [documentOfLists] at h
  split at h
  · exact nomatch h
  · next hempty =>
    cases h
    exact ⟨UserLists.decode_encode lists, fun he => hempty (UserLists.isEmpty_iff.2 he)⟩

section

variable {store' : Store} {user : UserId} {lists : UserLists}
  (h : store.Changes (UserLists.key user) (documentOfLists lists) store')

include h

theorem Changes.lists_self : store'.lists user = lists := by
  rw [Store.lists, h, if_pos rfl, listsOfDocument_documentOfLists]
  rfl

theorem Changes.lists_other {other : UserId} (hother : other ≠ user) :
    store'.lists other = store.lists other :=
  lists_eq ((h _).trans (if_neg fun hkey => hother (UserLists.key_injective hkey)))

theorem Changes.record : store'.record = store.record :=
  funext fun id => record_eq ((h _).trans (if_neg (UserLists.key_ne_key user id).symm))

theorem Changes.orderly (horderly : store.Orderly) (hdistinct : lists.Distinct) : store'.Orderly where
  lists other raw hraw := by
    rw [h] at hraw
    split at hraw
    · exact ⟨lists, (decode_of_documentOfLists hraw).1, hdistinct⟩
    · exact horderly.lists other raw hraw
  records id raw hraw := by
    rw [h, if_neg (UserLists.key_ne_key user id).symm] at hraw
    exact horderly.records id raw hraw

theorem Changes.tidy (htidy : store.Tidy) : store'.Tidy where
  lists other raw hraw := by
    rw [h] at hraw
    split at hraw
    · obtain ⟨hdecode, hne⟩ := decode_of_documentOfLists hraw
      rw [hdecode]
      exact fun e => hne (Except.ok.inj e)
    · exact htidy.lists other raw hraw
  keys other hother := by
    rw [h] at hother
    split at hother
    · next hkey => exact .inl ⟨user, hkey⟩
    · exact htidy.keys other hother

end

/-! ## Writing records -/

section

variable {store' : Store} {id : IssueId} {issue : Option Issue}
  (h : store.Changes (Issue.key id) (issue.map Issue.codec.encode) store')

include h

theorem Changes.lists_of_record (user : UserId) : store'.lists user = store.lists user :=
  lists_eq ((h _).trans (if_neg (UserLists.key_ne_key user id)))

theorem Changes.record_of_record (other : IssueId) :
    store'.record other = if other = id then issue else store.record other := by
  by_cases hother : other = id
  · rw [if_pos hother, Store.record, hother, h, if_pos rfl]
    cases issue with
    | none => rfl
    | some issue => simp [Issue.decode_encode, Except.toOption]
  · rw [if_neg hother]
    exact record_eq ((h _).trans (if_neg fun hkey => hother (Issue.key_injective hkey)))

theorem Changes.orderly_of_record (horderly : store.Orderly) (hid : ∀ x ∈ issue, x.id = id) :
    store'.Orderly where
  lists user raw hraw := by
    rw [h, if_neg (UserLists.key_ne_key user id)] at hraw
    exact horderly.lists user raw hraw
  records other raw hraw := by
    rw [h] at hraw
    split at hraw
    · next hkey =>
      obtain ⟨x, hx, rfl⟩ := Option.map_eq_some_iff.1 hraw
      exact ⟨x, Issue.decode_encode x, (hid x hx).trans (Issue.key_injective hkey).symm⟩
    · exact horderly.records other raw hraw

theorem Changes.tidy_of_record (htidy : store.Tidy) : store'.Tidy where
  lists user raw hraw := by
    rw [h, if_neg (UserLists.key_ne_key user id)] at hraw
    exact htidy.lists user raw hraw
  keys other hother := by
    rw [h] at hother
    split at hother
    · next hkey => exact .inr ⟨id, hkey⟩
    · exact htidy.keys other hother

end

end

end Store

end SharedTodo
