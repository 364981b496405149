import Mathlib.Logic.Function.Basic
import SharedTodo.Proofs.Program.Keeps

/-!
# What access to lists and records comes to

A write of a user's lists changes the lists of this user to what was written (`Store.lists_withLists`), and a
write or a deletion of a record changes no lists. From that and from the rules for single calls there is one
rule for every way in which operations get at lists and records, as long as the documents they meet can be
read. Nothing is asked of other documents.
-/

namespace SharedTodo

namespace Table

variable {κ ν : Type} [DecidableEq κ]

theorem lookup_eq_none_iff {entries : List (κ × ν)} {key : κ} :
    entries.lookup key = none ↔ ∀ e ∈ entries, e.1 ≠ key := by
  induction entries with
  | nil => simp
  | cons e rest ih =>
    obtain ⟨k, v⟩ := e
    rw [lookup_cons_ite]
    by_cases hk : key = k
    · simp [hk]
    · simp [hk, ih, Ne.symm hk]

theorem filter_put_of_fresh {key : κ} {value : ν} {entries : List (κ × ν)} (h : ∀ e ∈ entries, e.1 ≠ key) :
    (put key value entries).filter (fun e => e.1 ≠ key) = entries := by
  induction entries with
  | nil => simp [put]
  | cons e rest ih =>
    obtain ⟨k, v⟩ := e
    obtain ⟨hk, hrest⟩ := List.forall_mem_cons.1 h
    rw [put, if_neg hk, List.filter_cons_of_pos (by simpa using hk), ih hrest]

theorem lookup_of_mem {entries : List (κ × ν)} {key : κ} {value : ν} (h : (key, value) ∈ entries)
    (hnodup : (entries.map Prod.fst).Nodup) : entries.lookup key = some value := by
  induction entries with
  | nil => exact nomatch h
  | cons e rest ih =>
    obtain ⟨k, v⟩ := e
    obtain ⟨hnew, hrest⟩ := List.nodup_cons.1 hnodup
    rw [lookup_cons_ite]
    rcases List.mem_cons.1 h with heq | hin
    · cases heq
      exact if_pos rfl
    · have hkey : key ∈ rest.map Prod.fst := List.mem_map_of_mem hin
      rw [if_neg fun (heq : key = k) => hnew (heq ▸ hkey)]
      exact ih hin hrest

/-- What comes in and goes again leaves no trace. -/
theorem erase_insert {t : Table κ ν} {key : κ} (h : t.find? key = none) (value : ν) :
    (t.insert key value).erase key = t := by
  obtain ⟨entries, nodup⟩ := t
  rw [erase, insert, mk.injEq]
  exact filter_put_of_fresh (lookup_eq_none_iff.1 h)

end Table

/-! ## Documents that can be read -/

namespace Store

open Exchange

variable {store : Store} {user other : UserId} {id : IssueId} {lists : UserLists}

def ListsReadable (store : Store) (user : UserId) : Prop :=
  listsOfDocument (UserLists.key user) (store.find? (UserLists.key user)) = .ok (store.lists user)

/-- There is no record of the issue, or it can be read. -/
def RecordReadable (store : Store) (id : IssueId) : Prop :=
  ∀ raw, store.find? (Issue.key id) = some raw → ∃ issue, Issue.codec.decode raw = .ok issue

/-- Lists can be read when their document can, if there is one. -/
theorem listsReadable_iff :
    store.ListsReadable user ↔
      ∀ raw, store.find? (UserLists.key user) = some raw → ∃ lists, UserLists.codec.decode raw = .ok lists := by
  rw [ListsReadable, Store.lists]
  cases store.find? (UserLists.key user) with
  | none => exact ⟨fun _ raw hraw => (by cases hraw), fun _ => rfl⟩
  | some raw =>
    constructor
    · intro h found hfound
      cases hfound
      cases hdecode : UserLists.codec.decode raw with
      | ok lists => exact ⟨lists, rfl⟩
      | error problem =>
        rw [listsOfDocument, hdecode] at h
        cases h
    · intro h
      obtain ⟨lists, hdecode⟩ := h raw rfl
      rw [listsOfDocument_some hdecode]
      rfl

theorem Orderly.listsReadable (h : store.Orderly) (user : UserId) : store.ListsReadable user :=
  h.listsOfDocument user

theorem Orderly.recordReadable (h : store.Orderly) (id : IssueId) : store.RecordReadable id := by
  intro raw hraw
  obtain ⟨issue, hdecode, -⟩ := h.records id raw hraw
  exact ⟨issue, hdecode⟩

/-- Documents under the same keys can be read alike. -/
theorem ListsReadable.of_eq {store' : Store} (h : store.ListsReadable user)
    (heq : store'.find? (UserLists.key user) = store.find? (UserLists.key user)) :
    store'.ListsReadable user := by
  rw [listsReadable_iff, heq]
  exact listsReadable_iff.1 h

/-! ## Writing lists -/

/-- The store after a change of a user's lists. -/
def withLists (store : Store) (user : UserId) (lists : UserLists) : Store :=
  if lists = store.lists user then store
  else store.assign (UserLists.key user) (documentOfLists lists)

theorem withLists_self (store : Store) (user : UserId) : store.withLists user (store.lists user) = store :=
  if_pos rfl

theorem find?_withLists_of_ne {key : String} (h : key ≠ UserLists.key user) (lists : UserLists) :
    (store.withLists user lists).find? key = store.find? key := by
  rw [withLists]
  split
  · rfl
  · exact (store.find?_assign _ _ _).trans (if_neg h)

@[simp] theorem find?_withLists_issue (store : Store) (user : UserId) (lists : UserLists) (id : IssueId) :
    (store.withLists user lists).find? (Issue.key id) = store.find? (Issue.key id) :=
  find?_withLists_of_ne (UserLists.key_ne_key user id).symm lists

theorem find?_withLists_other (h : other ≠ user) (lists : UserLists) :
    (store.withLists user lists).find? (UserLists.key other) = store.find? (UserLists.key other) :=
  find?_withLists_of_ne (fun hkey => h (UserLists.key_injective hkey)) lists

@[simp] theorem lists_withLists (store : Store) (user : UserId) (lists : UserLists) :
    (store.withLists user lists).lists = Function.update store.lists user lists := by
  funext other
  by_cases hother : other = user
  · subst hother
    rw [Function.update_self, withLists]
    split
    · next hsame => exact hsame.symm
    · exact (store.changes_assign _ _).lists_self
  · rw [Function.update_of_ne hother]
    exact lists_eq (find?_withLists_other hother lists)

theorem ListsReadable.withLists (h : store.ListsReadable other) (user : UserId) (lists : UserLists) :
    (store.withLists user lists).ListsReadable other := by
  by_cases hother : other = user
  · subst hother
    rw [ListsReadable, lists_withLists, Function.update_self, Store.withLists]
    split
    · next hsame => rw [hsame, h]
    · rw [Table.find?_assign, if_pos rfl, listsOfDocument_documentOfLists]
  · exact h.of_eq (find?_withLists_other hother lists)

theorem Orderly.withLists (h : store.Orderly) (hdistinct : lists.Distinct) :
    (store.withLists user lists).Orderly := by
  rw [Store.withLists]
  split
  · exact h
  · exact (store.changes_assign _ _).orderly h hdistinct

/-! ## Writing records -/

theorem find?_insert_issue (store : Store) (user : UserId) (id : IssueId) (raw : String) :
    (store.insert (Issue.key id) raw).find? (UserLists.key user) = store.find? (UserLists.key user) :=
  (store.find?_insert _ _ _).trans (if_neg (UserLists.key_ne_key user id))

theorem find?_erase_issue (store : Store) (user : UserId) (id : IssueId) :
    (store.erase (Issue.key id)).find? (UserLists.key user) = store.find? (UserLists.key user) :=
  (store.find?_erase _ _).trans (if_neg (UserLists.key_ne_key user id))

theorem find?_rewrite_issue (store : Store) (user : UserId) (id : IssueId) (new : Option String) :
    (store.rewrite (Issue.key id) new).find? (UserLists.key user) = store.find? (UserLists.key user) :=
  (store.find?_rewrite _ _ _).trans (if_neg (UserLists.key_ne_key user id))

theorem ListsReadable.insert_issue (h : store.ListsReadable user) (id : IssueId) (raw : String) :
    Store.ListsReadable (store.insert (Issue.key id) raw) user :=
  h.of_eq (store.find?_insert_issue user id raw)

theorem ListsReadable.erase_issue (h : store.ListsReadable user) (id : IssueId) :
    Store.ListsReadable (store.erase (Issue.key id)) user :=
  h.of_eq (store.find?_erase_issue user id)

theorem ListsReadable.rewrite_issue (h : store.ListsReadable user) (id : IssueId) (new : Option String) :
    Store.ListsReadable (store.rewrite (Issue.key id) new) user :=
  h.of_eq (store.find?_rewrite_issue user id new)

theorem RecordReadable.rewrite_issue (h : store.RecordReadable id) (other : IssueId) (issue : Issue) :
    Store.RecordReadable (store.rewrite (Issue.key other) (some (Issue.codec.encode issue))) id := by
  intro raw hraw
  rw [find?_rewrite] at hraw
  split at hraw
  · exact ⟨issue, Option.some.inj hraw ▸ Issue.decode_encode issue⟩
  · exact h raw hraw

@[simp] theorem lists_insert_issue (store : Store) (id : IssueId) (raw : String) :
    Store.lists (store.insert (Issue.key id) raw) = store.lists :=
  funext fun user => lists_eq (store.find?_insert_issue user id raw)

@[simp] theorem lists_erase_issue (store : Store) (id : IssueId) :
    Store.lists (store.erase (Issue.key id)) = store.lists :=
  funext fun user => lists_eq (store.find?_erase_issue user id)

@[simp] theorem lists_rewrite_issue (store : Store) (id : IssueId) (new : Option String) :
    (store.rewrite (Issue.key id) new).lists = store.lists :=
  funext fun user => lists_eq (store.find?_rewrite_issue user id new)

end Store

/-! ## Rules -/

namespace Exchange

open Program

variable {α : Type} {around : Surroundings} {s : Scene} {limits : Limits} {user : UserId} {id : IssueId}

section

variable {change : UserLists → Except OperationError (UserLists × α)} {result : Result OperationError α}

theorem ensures_loadLists (h : s.store.ListsReadable user) {result : Result OperationError UserLists}
    (hresult : result (.ok (s.store.lists user)) s) : (loadLists user).Ensures around result s := by
  refine ensures_bind (ensures_get ?_)
  rw [andThen, h]
  exact hresult

theorem revisedLists_eq_ok {raw new : Option String} {key : String} {outcome : α}
    (h : revisedLists key change raw = .ok (new, outcome)) :
    ∃ lists revised, listsOfDocument key raw = .ok lists ∧ change lists = .ok (revised, outcome) ∧
      new = if revised = lists then raw else documentOfLists revised := by
  obtain ⟨lists, hlists, h⟩ := ok_of_bind h
  obtain ⟨⟨revised, outcome'⟩, hchange, h⟩ := ok_of_bind h
  refine ⟨lists, revised, hlists, ?_⟩
  dsimp only at h
  split at h <;> cases h <;> simp_all

theorem revisedLists_eq_error {raw : Option String} {key : String} {lists : UserLists}
    {failure : OperationError} (h : revisedLists key change raw = .error failure)
    (hlists : listsOfDocument key raw = .ok lists) : change lists = .error failure := by
  rw [revisedLists, hlists] at h
  cases hchange : change lists with
  | error failure' =>
    simp only [Bind.bind, Except.bind, hchange] at h
    exact congrArg _ (Except.error.inj h)
  | ok pair =>
    simp only [Bind.bind, Except.bind, hchange] at h
    split at h <;> cases h

/-- What an update of lists writes: the revised lists, if they are others. -/
theorem rewrite_revisedLists {store : Store} {new : Option String} {outcome : α}
    (h : revisedLists (UserLists.key user) change (store.find? (UserLists.key user)) = .ok (new, outcome)) :
    ∃ revised, store.ListsReadable user ∧ change (store.lists user) = .ok (revised, outcome) ∧
      store.rewrite (UserLists.key user) new = store.withLists user revised := by
  obtain ⟨lists, revised, hlists, hchange, rfl⟩ := revisedLists_eq_ok h
  have heq : store.lists user = lists := by
    rw [Store.lists, hlists]
    rfl
  rw [← heq] at hlists hchange ⊢
  refine ⟨revised, hlists, hchange, ?_⟩
  rw [Store.withLists]
  by_cases hsame : revised = store.lists user
  · rw [if_pos hsame, if_pos hsame, Store.rewrite_self]
  · have hne : documentOfLists revised ≠ store.find? (UserLists.key user) := by
      intro hraw
      rw [← hraw, Store.listsOfDocument_documentOfLists] at hlists
      exact hsame (Except.ok.inj hlists)
    rw [if_neg hsame, if_neg hsame, Store.rewrite, if_neg hne]

/-- An update of lists; one of lists that cannot be read fails. -/
theorem ensures_updateLists
    (hfailed : ∀ failure, (s.store.ListsReadable user → change (s.store.lists user) = .error failure) →
      result (.error failure) s)
    (hdone : ∀ revised outcome, s.store.ListsReadable user →
      change (s.store.lists user) = .ok (revised, outcome) →
        result (.ok outcome) (s.withStore (s.store.withLists user revised))) :
    (updateLists limits user change).Ensures around result s := by
  refine ensures_update (fun failure hfailure => hfailed failure (revisedLists_eq_error hfailure))
    fun new outcome hnew => ?_
  obtain ⟨revised, hreadable, hchange, hwritten⟩ := rewrite_revisedLists hnew
  rw [hwritten]
  exact hdone revised outcome hreadable hchange

end

theorem ensures_pushEntry (h : s.store.ListsReadable user) {kind : ListKind} {entry : Entry}
    {result : Result OperationError Unit}
    (hresult : result (.ok ())
      (s.withStore (s.store.withLists user ((s.store.lists user).pushed kind entry)))) :
    (pushEntry limits user kind entry).Ensures around result s := by
  refine ensures_updateLists (fun failure hfailure => nomatch hfailure h) fun revised outcome _ hpushed => ?_
  cases hpushed
  exact hresult

theorem ensures_loadIssue (h : s.store.RecordReadable id) {result : Result OperationError (Option Issue)}
    (hresult : result (.ok (s.store.record id)) s) : (loadIssue id).Ensures around result s := by
  refine ensures_bind (ensures_get ?_)
  rw [andThen]
  rw [Store.record] at hresult
  cases hraw : s.store.find? (Issue.key id) with
  | none =>
    rw [hraw] at hresult
    exact hresult
  | some raw =>
    obtain ⟨issue, hdecode⟩ := h raw hraw
    rw [hraw, Option.bind_some, hdecode] at hresult
    dsimp only
    rw [Store.recordOfDocument_of_decode hdecode]
    exact hresult

theorem ensures_requireIssue (h : s.store.RecordReadable id) {result : Result OperationError Issue}
    (habsent : s.store.record id = none → result (.error (.absent (.issue id))) s)
    (hfound : ∀ issue, s.store.record id = some issue → result (.ok issue) s) :
    (requireIssue id).Ensures around result s := by
  refine ensures_bind (ensures_loadIssue h ?_)
  rw [andThen]
  cases hrecord : s.store.record id with
  | none => exact habsent hrecord
  | some issue => exact hfound issue hrecord

theorem ensures_saveIssue {issue : Issue} {result : Result OperationError Unit}
    (hresult : result (.ok ())
      (s.withStore (s.store.insert (Issue.key issue.id) (Issue.codec.encode issue)))) :
    (saveIssue issue).Ensures around result s :=
  ensures_set hresult

theorem ensures_deleteIssue {result : Result OperationError Unit}
    (hresult : result (.ok ()) (s.withStore (s.store.erase (Issue.key id)))) :
    (deleteIssue id).Ensures around result s :=
  ensures_delete hresult

theorem ensures_editRecord (h : s.store.RecordReadable id) {edit : Edit}
    {result : Result OperationError (Option String)}
    (hmissing : s.store.record id = none → result (.ok none) s)
    (hedited : ∀ issue, s.store.record id = some issue →
      result (.ok (some issue.message)) (s.withStore
        (s.store.rewrite (Issue.key id) (some (Issue.codec.encode (issue.edited edit)))))) :
    (editRecord limits id edit).Ensures around result s := by
  cases hraw : s.store.find? (Issue.key id) with
  | none =>
    have hcomputed : editedRecord (Issue.key id) edit (s.store.find? (Issue.key id)) = .ok (none, none) := by
      rw [hraw]
      rfl
    refine ensures_update (fun failure hfailed => by cases hcomputed.symm.trans hfailed)
      fun new message hdone => ?_
    cases hcomputed.symm.trans hdone
    have hsame := s.store.rewrite_self (Issue.key id)
    rw [hraw] at hsame
    rw [hsame]
    exact hmissing (Store.record_of_find?_eq_none hraw)
  | some raw =>
    obtain ⟨issue, hdecode⟩ := h raw hraw
    have hcomputed : editedRecord (Issue.key id) edit (s.store.find? (Issue.key id)) =
        .ok (some (Issue.codec.encode (issue.edited edit)), some issue.message) := by
      rw [hraw, editedRecord, Store.recordOfDocument_of_decode hdecode]
      rfl
    refine ensures_update (fun failure hfailed => by cases hcomputed.symm.trans hfailed)
      fun new message hdone => ?_
    cases hcomputed.symm.trans hdone
    exact hedited issue (by simp [Store.record, hraw, hdecode, Except.toOption])

theorem ensures_requireUser {result : Result OperationError Unit}
    (hknown : ∀ profile, around.byId user = .ok (some profile) → result (.ok ()) s)
    (hunknown : around.byId user = .ok none → result (.error (.absent (.user user))) s)
    (hdown : ∀ failure, around.byId user = .error failure →
      result (.error (.storage (.directory failure))) s) :
    (requireUser user).Ensures around result s := by
  refine ensures_bind (ensures_bind (ensures_perform ?_))
  rintro found s' ⟨rfl, rfl⟩
  match hfound : around.byId user with
  | .ok (some profile) => exact hknown profile hfound
  | .ok none =>
    refine ensures_bind (ensures_perform ?_)
    rintro _ s' rfl
    exact hunknown hfound
  | .error failure => exact hdown failure hfound

end Exchange

end SharedTodo
