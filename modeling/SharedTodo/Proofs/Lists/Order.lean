import SharedTodo.Proofs.Lists.Revision

/-!
# Order in a user's lists

An issue is found at its first place: the own todos are looked at first, then the received, then the sent
ones, each from the head on. What is taken out of the lists is taken from a place, and the entries before and
after it stay as they are.
-/

namespace SharedTodo.UserLists

variable {lists : UserLists} {kind : ListKind} {id : IssueId} {place : Located}

/-- The lists without the entry at a place. -/
def without (lists : UserLists) (place : Located) : UserLists :=
  lists.withList place.list ((lists.list place.list).eraseIdx place.position)

theorem position_of_find (h : lists.find id = some place) :
    lists.position place.list id = some place.position := by
  obtain ⟨kind, -, hfound⟩ := List.exists_of_findSome?_eq_some h
  obtain ⟨position, hposition, hentry⟩ := Option.bind_eq_some_iff.1 hfound
  obtain ⟨entry, -, rfl⟩ := Option.map_eq_some_iff.1 hentry
  exact hposition

/-- The first entry that names the issue in a list is the one at its place. -/
theorem erase_eq_without (h : lists.find id = some place) : lists.erase place.list id = lists.without place := by
  have hposition : (lists.list place.list).findIdx? (names id) = some place.position := position_of_find h
  rw [erase, without, List.eraseP_eq_eraseIdx, hposition]

/-- Among all entries, in the order in which they are looked for, the first one of the issue is found. -/
theorem find_eq_first (lists : UserLists) (id : IssueId) :
    (lists.find id).map Located.entry = lists.entries.find? (names id) := by
  have hfindIn (kind : ListKind) :
      (lists.findIn kind id).map Located.entry = (lists.list kind).find? (names id) := by
    rw [findIn, position]
    cases hposition : (lists.list kind).findIdx? (names id) with
    | none => exact (List.find?_eq_none.2 (by simpa using hposition)).symm
    | some position =>
      rw [Option.bind_some, Option.map_map]
      exact Option.map_id'
  have hentries : lists.entries = lists.list .my ++ lists.list .inbox ++ lists.list .out := rfl
  rw [hentries, List.find?_append, List.find?_append, ← hfindIn .my, ← hfindIn .inbox, ← hfindIn .out]
  simp only [find, ListKind.all, List.findSome?_cons, List.findSome?_nil]
  cases lists.findIn .my id <;> cases lists.findIn .inbox id <;> cases lists.findIn .out id <;> rfl

/-- The entries of an issue, of which distinct lists have one at most. -/
def naming (lists : UserLists) (id : IssueId) : List Entry :=
  lists.entries.filter (names id)

theorem mem_naming {entry : Entry} :
    entry ∈ lists.naming id ↔ (∃ kind, entry ∈ lists.list kind) ∧ entry.id = id := by
  rw [naming, List.mem_filter, mem_entries, names, decide_eq_true_iff]

/-! ## Entries that stay

A predicate picks entries. Where it picks none of those that an operation takes out, adds or moves, the
picked entries of every list are the same ones in the same order.
-/

section

variable {picks : Entry → Bool} {entry : Entry}

theorem filter_eraseP_names (h : ∀ entry, entry.id = id → picks entry = false) (entries : List Entry) :
    (entries.eraseP (names id)).filter picks = entries.filter picks := by
  induction entries with
  | nil => rfl
  | cons first rest ih =>
    by_cases hid : first.id = id
    · rw [List.eraseP_cons_of_pos (by simpa [names] using hid), List.filter_cons_of_neg (by simp [h first hid])]
    · rw [List.eraseP_cons_of_neg (by simpa [names] using hid), List.filter_cons, List.filter_cons, ih]

theorem filter_erase (lists : UserLists) (kind : ListKind) (h : ∀ entry, entry.id = id → picks entry = false)
    (other : ListKind) : ((lists.erase kind id).list other).filter picks = (lists.list other).filter picks := by
  by_cases hother : other = kind
  · rw [hother, erase, list_withList_self, filter_eraseP_names h]
  · rw [list_erase_of_ne _ hother]

theorem filter_pushed (lists : UserLists) (kind : ListKind) (h : picks entry = false) (other : ListKind) :
    ((lists.pushed kind entry).list other).filter picks = (lists.list other).filter picks := by
  by_cases hother : other = kind
  · rw [hother, pushed, push]
    split
    · rfl
    · rw [Option.getD_some, list_withList_self, List.filter_append, List.filter_cons_of_neg (by simp [h]),
        List.filter_nil, List.append_nil]
  · rw [list_pushed_of_ne _ hother]

theorem filter_moveToFront {moved : UserLists} (hmoved : lists.moveToFront kind id = some moved)
    (h : ∀ entry, entry.id = id → picks entry = false) (other : ListKind) :
    (moved.list other).filter picks = (lists.list other).filter picks := by
  obtain ⟨⟨entry, rest⟩, hremoved, rfl⟩ := Option.map_eq_some_iff.1 hmoved
  obtain ⟨-, hid, rfl⟩ := removeFrom_eq_some hremoved
  rw [hid, ← filter_erase lists kind h other]
  by_cases hother : other = kind
  · rw [hother, list_withList_self, List.filter_cons_of_neg (by simp [h entry hid])]
  · rw [list_withList_of_ne _ _ hother]

end

/-! ## Entries that come last -/

theorem list_erase_sublist (lists : UserLists) (kind : ListKind) (id : IssueId) (other : ListKind) :
    ((lists.erase kind id).list other).Sublist (lists.list other) := by
  by_cases hother : other = kind
  · rw [hother, erase, list_withList_self]
    exact List.eraseP_sublist
  · have hsame : (lists.erase kind id).list other = lists.list other := list_erase_of_ne _ hother _
    exact hsame ▸ List.Sublist.refl _

/-- In distinct lists no other entry of the issue is left. -/
theorem ne_of_mem_erase (h : lists.Distinct) {entry : Entry} (held : entry ∈ lists.list kind)
    {other : ListKind} {left : Entry} (hleft : left ∈ (lists.erase kind entry.id).list other) :
    left.id ≠ entry.id := by
  intro hid
  obtain ⟨hmem, hgone⟩ | hcome := ((revision_erase h held).mem other left).1 hleft
  · exact hgone (congrArg some (h.eq hmem held hid).2.symm)
  · cases hcome

/-- An entry that is added comes last, unless its issue is listed already. -/
theorem list_pushed (lists : UserLists) (kind : ListKind) (entry : Entry) :
    (lists.pushed kind entry).list kind = lists.list kind ∨
      (lists.pushed kind entry).list kind = lists.list kind ++ [entry] := by
  rw [pushed, push]
  split
  · exact .inl rfl
  · exact .inr (list_withList_self lists kind _)

/-- Some entries have gone, none of certain issues has stayed, and behind those that have stayed, in their
order, there is at most one that has come. -/
def Settles (gone : IssueId → Prop) (come : Entry → Prop) (before after : List Entry) : Prop :=
  ∃ (kept : List Entry) (new : Option Entry), kept.Sublist before ∧ after = kept ++ new.toList ∧
    (∀ entry ∈ kept, ¬ gone entry.id) ∧ ∀ entry ∈ new, come entry

section

variable {gone gone' : IssueId → Prop} {come come' : Entry → Prop} {before after : List Entry}

theorem settles_self (entries : List Entry) (hgone : ∀ entry ∈ entries, ¬ gone entry.id) :
    Settles gone come entries entries :=
  ⟨entries, none, List.Sublist.refl _, (List.append_nil _).symm, hgone, fun _ hnone => by cases hnone⟩

theorem Settles.mono (h : Settles gone come before after) (hgone : ∀ id, gone' id → gone id)
    (hcome : ∀ entry, come entry → come' entry) : Settles gone' come' before after := by
  obtain ⟨kept, new, hkept, heq, hstays, hnew⟩ := h
  exact ⟨kept, new, hkept, heq, fun entry hentry hid => hstays entry hentry (hgone _ hid),
    fun entry hentry => hcome entry (hnew entry hentry)⟩

/-- While nothing has come, more entries can go. -/
theorem Settles.sublist (h : Settles gone come before after) (hnone : ∀ entry, ¬ come entry)
    {left : List Entry} (hleft : left.Sublist after) : Settles gone come before left := by
  obtain ⟨kept, new, hkept, rfl, hstays, hnew⟩ := h
  cases new with
  | some entry => exact absurd (hnew entry rfl) (hnone entry)
  | none =>
    rw [Option.toList_none, List.append_nil] at hleft
    exact ⟨left, none, hleft.trans hkept, (List.append_nil _).symm,
      fun entry hentry => hstays entry (hleft.subset hentry), fun _ hnone => by cases hnone⟩

theorem Settles.append (h : Settles gone come before after) (hnone : ∀ entry, ¬ come entry) {entry : Entry}
    (hcome : come' entry) : Settles gone come' before (after ++ [entry]) := by
  obtain ⟨kept, new, hkept, rfl, hstays, hnew⟩ := h
  cases new with
  | some other => exact absurd (hnew other rfl) (hnone other)
  | none =>
    refine ⟨kept, some entry, hkept, by simp, hstays, fun other hother => ?_⟩
    cases hother
    exact hcome

end

end SharedTodo.UserLists
