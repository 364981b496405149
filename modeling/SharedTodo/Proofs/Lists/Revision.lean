import SharedTodo.Lists.UserLists

/-!
# Revisions of a user's lists

The lists are distinct when no issue is named twice in all three of them. Then an entry is known by its issue,
and every change of the lists is a revision: at most one entry goes, at most one comes, and all others stay
in the list in which they are (`Revision`). What stands here is which revision each of the operations on lists
makes; the order within a list is none of its business, so moving an entry to the head revises nothing.
-/

namespace SharedTodo.UserLists

/-- No issue is named twice. -/
def Distinct (lists : UserLists) : Prop :=
  (lists.entries.map Entry.id).Nodup

theorem distinct_empty : empty.Distinct :=
  List.nodup_nil

theorem distinct_iff {lists : UserLists} :
    lists.Distinct ↔
      (∀ kind, ((lists.list kind).map Entry.id).Nodup) ∧
        ∀ kind kind' entry entry', entry ∈ lists.list kind → entry' ∈ lists.list kind' →
          entry.id = entry'.id → kind = kind' := by
  simp only [Distinct, entries, List.map_append, List.nodup_append, List.mem_append, List.mem_map]
  constructor
  · rintro ⟨⟨hmy, hinbox, hmi⟩, hout, hmio⟩
    refine ⟨fun kind => by cases kind <;> assumption, ?_⟩
    intro kind kind' entry entry' h h' hid
    cases kind <;> cases kind' <;> first | rfl | skip
    · exact absurd hid (hmi _ ⟨entry, h, rfl⟩ _ ⟨entry', h', rfl⟩)
    · exact absurd hid (hmio _ (.inl ⟨entry, h, rfl⟩) _ ⟨entry', h', rfl⟩)
    · exact absurd hid.symm (hmi _ ⟨entry', h', rfl⟩ _ ⟨entry, h, rfl⟩)
    · exact absurd hid (hmio _ (.inr ⟨entry, h, rfl⟩) _ ⟨entry', h', rfl⟩)
    · exact absurd hid.symm (hmio _ (.inl ⟨entry', h', rfl⟩) _ ⟨entry, h, rfl⟩)
    · exact absurd hid.symm (hmio _ (.inr ⟨entry', h', rfl⟩) _ ⟨entry, h, rfl⟩)
  · rintro ⟨hnodup, hkind⟩
    refine ⟨⟨hnodup .my, hnodup .inbox, ?_⟩, hnodup .out, ?_⟩
    · rintro _ ⟨entry, h, rfl⟩ _ ⟨entry', h', rfl⟩ hid
      exact absurd (hkind .my .inbox entry entry' h h' hid) (by decide)
    · rintro _ (⟨entry, h, rfl⟩ | ⟨entry, h, rfl⟩) _ ⟨entry', h', rfl⟩ hid
      · exact absurd (hkind .my .out entry entry' h h' hid) (by decide)
      · exact absurd (hkind .inbox .out entry entry' h h' hid) (by decide)

theorem eq_of_mem_of_nodup {entries : List Entry} (h : (entries.map Entry.id).Nodup)
    {entry entry' : Entry} (hmem : entry ∈ entries) (hmem' : entry' ∈ entries)
    (hid : entry.id = entry'.id) : entry = entry' := by
  induction entries with
  | nil => simp at hmem
  | cons first rest ih =>
    obtain ⟨hnew, hrest⟩ := List.nodup_cons.1 h
    rcases List.mem_cons.1 hmem with hfirst | hin <;> rcases List.mem_cons.1 hmem' with hfirst' | hin'
    · rw [hfirst, hfirst']
    · exact absurd (List.mem_map.2 ⟨entry', hin', by rw [← hid, hfirst]⟩) hnew
    · exact absurd (List.mem_map.2 ⟨entry, hin, by rw [hid, hfirst']⟩) hnew
    · exact ih hrest hin hin'

/-- In distinct lists an entry is known by its issue. -/
theorem Distinct.eq {lists : UserLists} (h : lists.Distinct) {kind kind' : ListKind}
    {entry entry' : Entry} (hmem : entry ∈ lists.list kind) (hmem' : entry' ∈ lists.list kind')
    (hid : entry.id = entry'.id) : kind = kind' ∧ entry = entry' := by
  obtain ⟨hnodup, hkind⟩ := distinct_iff.1 h
  obtain rfl := hkind kind kind' entry entry' hmem hmem' hid
  exact ⟨rfl, eq_of_mem_of_nodup (hnodup kind) hmem hmem' hid⟩

/-! ## Looking up -/

theorem findIn_eq_some {lists : UserLists} {kind : ListKind} {id : IssueId} {located : Located}
    (h : lists.findIn kind id = some located) :
    located.list = kind ∧ located.entry ∈ lists.list kind ∧ located.entry.id = id := by
  obtain ⟨position, -, h⟩ := Option.bind_eq_some_iff.1 h
  obtain ⟨entry, hentry, rfl⟩ := Option.map_eq_some_iff.1 h
  exact ⟨rfl, List.mem_of_find?_eq_some hentry, by simpa [names] using List.find?_some hentry⟩

theorem findIn_eq_none_iff {lists : UserLists} {kind : ListKind} {id : IssueId} :
    lists.findIn kind id = none ↔ ∀ entry ∈ lists.list kind, entry.id ≠ id := by
  simp only [findIn, position, Option.bind_eq_none_iff, Option.map_eq_none_iff]
  constructor
  · intro h entry hentry hid
    cases hpos : (lists.list kind).findIdx? (names id) with
    | none =>
      have hno := List.findIdx?_eq_none_iff.1 hpos entry hentry
      exact absurd hid (by simpa [names] using hno)
    | some n =>
      have hno := List.find?_eq_none.1 (h n hpos) entry hentry
      exact absurd hid (by simpa [names] using hno)
  · intro h n _
    refine List.find?_eq_none.2 fun entry hentry => ?_
    simpa [names] using h entry hentry

theorem find_eq_some {lists : UserLists} {id : IssueId} {located : Located}
    (h : lists.find id = some located) :
    located.entry ∈ lists.list located.list ∧ located.entry.id = id := by
  obtain ⟨kind, -, h⟩ := List.exists_of_findSome?_eq_some h
  obtain ⟨rfl, hmem, hid⟩ := findIn_eq_some h
  exact ⟨hmem, hid⟩

theorem find_eq_none_iff {lists : UserLists} {id : IssueId} :
    lists.find id = none ↔ ∀ kind, ∀ entry ∈ lists.list kind, entry.id ≠ id := by
  simp only [find, List.findSome?_eq_none_iff, findIn_eq_none_iff]
  exact ⟨fun h kind => h kind (ListKind.mem_all kind), fun h kind _ => h kind⟩

theorem Distinct.find_of_mem {lists : UserLists} (h : lists.Distinct) {kind : ListKind} {entry : Entry}
    (hmem : entry ∈ lists.list kind) :
    ∃ located, lists.find entry.id = some located ∧ located.list = kind ∧ located.entry = entry := by
  cases hfind : lists.find entry.id with
  | none => exact absurd rfl (find_eq_none_iff.1 hfind kind entry hmem)
  | some located =>
    obtain ⟨hmem', hid⟩ := find_eq_some hfind
    exact ⟨located, rfl, h.eq hmem' hmem hid⟩

/-- An entry that links to an issue of the owner is found as one that does. -/
theorem Distinct.findLinked_of_mem {lists : UserLists} (h : lists.Distinct) {kind : ListKind} {entry : Entry}
    (hmem : entry ∈ lists.list kind) {owner : UserId} {own : IssueId} (hlink : entry.link = some ⟨owner, own⟩) :
    ∃ located, lists.findLinked entry.id owner own = some located := by
  obtain ⟨located, hfind, -, rfl⟩ := h.find_of_mem hmem
  exact ⟨located, by simp [findLinked, hfind, Entry.linksTo, hlink]⟩

/-! ## The other lists -/

theorem withList_withList (lists : UserLists) (kind : ListKind) (entries entries' : List Entry) :
    (lists.withList kind entries).withList kind entries' = lists.withList kind entries' := by
  cases kind <;> rfl

theorem list_erase_of_ne (lists : UserLists) {kind kind' : ListKind} (h : kind' ≠ kind) (id : IssueId) :
    (lists.erase kind id).list kind' = lists.list kind' :=
  list_withList_of_ne lists _ h

/-- Taking an entry out of its list makes this list another one. -/
theorem list_erase_ne_iff {lists : UserLists} {kind kind' : ListKind} {entry : Entry}
    (held : entry ∈ lists.list kind) :
    (lists.erase kind entry.id).list kind' ≠ lists.list kind' ↔ kind' = kind := by
  constructor
  · exact fun hne => Classical.byContradiction fun hkind => hne (lists.list_erase_of_ne hkind _)
  · rintro rfl hsame
    rw [erase, list_withList_self] at hsame
    have hshorter := List.length_eraseP_of_mem held (p := names entry.id) (by simp [names])
    have hpos := List.length_pos_of_mem held
    rw [hsame] at hshorter
    omega

theorem list_pushed_of_ne (lists : UserLists) {kind kind' : ListKind} (h : kind' ≠ kind) (entry : Entry) :
    (lists.pushed kind entry).list kind' = lists.list kind' := by
  rw [pushed, push]
  split
  · rfl
  · exact list_withList_of_ne lists _ h

theorem mem_of_mem_erase {lists : UserLists} {kind kind' : ListKind} {id : IssueId} {entry : Entry}
    (h : entry ∈ (lists.erase kind id).list kind') : entry ∈ lists.list kind' := by
  by_cases hkind : kind' = kind
  · subst hkind
    rw [erase, list_withList_self] at h
    exact List.mem_of_mem_eraseP h
  · rwa [list_erase_of_ne lists hkind] at h

/-! ## Revisions -/

/-- At most one entry goes, at most one comes to a list, and no other entry changes its list. -/
structure Revision (before after : UserLists) (gone : Option Entry)
    (come : Option (ListKind × Entry)) : Prop where
  distinct : after.Distinct
  mem : ∀ kind entry, entry ∈ after.list kind ↔
    (entry ∈ before.list kind ∧ gone ≠ some entry) ∨ come = some (kind, entry)

variable {lists : UserLists}

theorem revision_self (h : lists.Distinct) : Revision lists lists none none where
  distinct := h
  mem kind entry := by simp

/-- An entry that goes, and another one that comes then. -/
theorem Revision.trans {middle after : UserLists} {gone : Option Entry}
    {come : Option (ListKind × Entry)} (h : Revision lists middle gone none)
    (h' : Revision middle after none come) : Revision lists after gone come where
  distinct := h'.distinct
  mem kind entry := by rw [h'.mem, h.mem]; simp

/-- Lists that have lost an entry are different, unless it has come back to its place. -/
theorem Revision.ne {before after : UserLists} {kind : ListKind} {gone : Entry}
    {come : Option (ListKind × Entry)} (h : Revision before after (some gone) come)
    (held : gone ∈ before.list kind) (hcome : come ≠ some (kind, gone)) : after ≠ before := by
  intro hsame
  obtain ⟨-, hgone⟩ | hback := (h.mem kind gone).1 (hsame ▸ held)
  · exact hgone rfl
  · exact hcome hback

/-- New entries of one list that are again distinct, and distinct from those of the other lists. -/
theorem distinct_withList (h : lists.Distinct) {kind : ListKind} {entries : List Entry}
    (hnodup : (entries.map Entry.id).Nodup)
    (hother : ∀ kind' ≠ kind, ∀ entry ∈ entries, ∀ entry' ∈ lists.list kind', entry.id ≠ entry'.id) :
    (lists.withList kind entries).Distinct := by
  obtain ⟨hnodups, hkinds⟩ := distinct_iff.1 h
  refine distinct_iff.2 ⟨fun kind' => ?_, ?_⟩
  · by_cases hk : kind' = kind
    · rw [hk, list_withList_self]
      exact hnodup
    · rw [list_withList_of_ne lists entries hk]
      exact hnodups kind'
  · intro k k' e e' he he' hid
    by_cases hk : k = kind <;> by_cases hk' : k' = kind
    · rw [hk, hk']
    · rw [hk, list_withList_self] at he
      rw [list_withList_of_ne lists entries hk'] at he'
      exact absurd hid (hother k' hk' e he e' he')
    · rw [list_withList_of_ne lists entries hk] at he
      rw [hk', list_withList_self] at he'
      exact absurd hid.symm (hother k hk e' he' e he)
    · rw [list_withList_of_ne lists entries hk] at he
      rw [list_withList_of_ne lists entries hk'] at he'
      exact hkinds k k' e e' he he' hid

theorem mem_eraseP_names (h : lists.Distinct) {kind : ListKind} {id : IssueId} {entry : Entry} :
    entry ∈ (lists.list kind).eraseP (names id) ↔ entry ∈ lists.list kind ∧ entry.id ≠ id := by
  have hnodup := (distinct_iff.1 h).1 kind
  by_cases hid : entry.id = id
  · refine ⟨fun hmem => ?_, fun hmem => absurd hid hmem.2⟩
    have hin := List.mem_of_mem_eraseP hmem
    obtain ⟨gone, before, after, -, hgone, hsplit, herase⟩ :=
      List.exists_of_eraseP hin (p := names id) (by simpa [names] using hid)
    rw [herase] at hmem
    rw [hsplit, List.map_append, List.map_cons, List.nodup_append, List.nodup_cons] at hnodup
    have hgone : gone.id = id := by simpa [names] using hgone
    rcases List.mem_append.1 hmem with hmem | hmem
    · exact absurd (hid.trans hgone.symm) (hnodup.2.2 _ (List.mem_map_of_mem hmem) _ (by simp))
    · exact absurd (List.mem_map.2 ⟨entry, hmem, hid.trans hgone.symm⟩) hnodup.2.1.1
  · rw [List.mem_eraseP_of_neg (by simpa [names] using hid)]
    exact ⟨fun hmem => ⟨hmem, hid⟩, fun hmem => hmem.1⟩

/-- Taking an entry out of its list. -/
theorem revision_erase (h : lists.Distinct) {kind : ListKind} {entry : Entry}
    (hmem : entry ∈ lists.list kind) : Revision lists (lists.erase kind entry.id) (some entry) none where
  distinct := by
    refine distinct_withList h (((distinct_iff.1 h).1 kind).sublist (List.eraseP_sublist.map _)) ?_
    intro kind' hk e he e' he' hid
    exact hk (h.eq he' (List.mem_of_mem_eraseP he) hid.symm).1
  mem kind' entry' := by
    have hne : entry' ∈ lists.list kind' → (entry'.id = entry.id ↔ entry = entry') := fun hmem' =>
      ⟨fun hid => ((h.eq hmem' hmem hid).2).symm, fun e => by rw [e]⟩
    by_cases hk : kind' = kind
    · subst hk
      rw [erase, list_withList_self, mem_eraseP_names h]
      constructor
      · exact fun ⟨hin, hid⟩ => .inl ⟨hin, fun e => hid ((hne hin).2 (Option.some.inj e))⟩
      · rintro (⟨hin, hgone⟩ | hcome)
        · exact ⟨hin, fun hid => hgone (congrArg some ((hne hin).1 hid))⟩
        · exact nomatch hcome
    · rw [erase, list_withList_of_ne lists _ hk]
      constructor
      · intro hin
        refine .inl ⟨hin, fun e => hk (h.eq hin hmem ?_).1⟩
        rw [Option.some.inj e]
      · rintro (⟨hin, -⟩ | hcome)
        · exact hin
        · exact nomatch hcome

/-- Adding an entry whose issue is in none of the lists. -/
theorem revision_pushed (h : lists.Distinct) (kind : ListKind) {entry : Entry}
    (hnew : ∀ kind', ∀ e ∈ lists.list kind', e.id ≠ entry.id) :
    Revision lists (lists.pushed kind entry) none (some (kind, entry)) := by
  have hpushed : lists.pushed kind entry = lists.withList kind (lists.list kind ++ [entry]) := by
    simp [pushed, push, find_eq_none_iff.2 hnew]
  rw [hpushed]
  refine ⟨distinct_withList h ?_ ?_, ?_⟩
  · rw [List.map_append, List.nodup_append]
    refine ⟨(distinct_iff.1 h).1 kind, by simp, ?_⟩
    intro id hid id' hid' e
    obtain ⟨e', he', rfl⟩ := List.mem_map.1 hid
    simp only [List.map_cons, List.map_nil, List.mem_singleton] at hid'
    exact hnew kind e' he' (e.trans hid')
  · intro kind' hk e he e' he' hid
    rcases List.mem_append.1 he with he | he
    · exact hk (h.eq he' he hid.symm).1
    · rw [List.mem_singleton.1 he] at hid
      exact hnew kind' e' he' hid.symm
  · intro kind' entry'
    by_cases hk : kind' = kind
    · rw [hk, list_withList_self]
      simp [eq_comm]
    · rw [list_withList_of_ne lists _ hk]
      have hne : ¬ kind = kind' := fun e => hk e.symm
      simp [hne]

/-- An issue that gets a new entry, or the same one in another list. -/
theorem revision_replace (h : lists.Distinct) {kind kind' : ListKind} {entry new : Entry}
    (hmem : entry ∈ lists.list kind) (hid : new.id = entry.id) :
    Revision lists ((lists.erase kind entry.id).pushed kind' new) (some entry) (some (kind', new)) := by
  have herase := revision_erase h hmem
  refine herase.trans (revision_pushed herase.distinct kind' fun k e he heid => ?_)
  rcases (herase.mem k e).1 he with ⟨hin, hgone⟩ | hcome
  · exact hgone (congrArg some (h.eq hin hmem (heid.trans hid)).2.symm)
  · exact nomatch hcome

theorem popFront_eq_some {kind : ListKind} {entry : Entry} {rest : UserLists}
    (h : lists.popFront kind = some (entry, rest)) :
    entry ∈ lists.list kind ∧ rest = lists.erase kind entry.id := by
  unfold popFront at h
  split at h
  case h_1 => exact nomatch h
  case h_2 first later hlist =>
    cases h
    rw [erase, hlist, List.eraseP_cons_of_pos (by simp [names])]
    exact ⟨List.mem_cons_self, rfl⟩

theorem removeFrom_eq_some {kind : ListKind} {id : IssueId} {entry : Entry} {rest : UserLists}
    (h : lists.removeFrom kind id = some (entry, rest)) :
    entry ∈ lists.list kind ∧ entry.id = id ∧ rest = lists.erase kind entry.id := by
  obtain ⟨found, hfound, hpair⟩ := Option.map_eq_some_iff.1 h
  cases hpair
  have hid : entry.id = id := by simpa [names] using List.find?_some hfound
  exact ⟨List.mem_of_find?_eq_some hfound, hid, by rw [hid]⟩

theorem Distinct.removeFrom_of_mem (h : lists.Distinct) {kind : ListKind} {entry : Entry}
    (held : entry ∈ lists.list kind) :
    lists.removeFrom kind entry.id = some (entry, lists.erase kind entry.id) := by
  rw [removeFrom]
  cases hfind : (lists.list kind).find? (names entry.id) with
  | none => simpa [names] using List.find?_eq_none.1 hfind entry held
  | some found =>
    have hid : found.id = entry.id := by simpa [names] using List.find?_some hfind
    obtain ⟨-, rfl⟩ := h.eq (List.mem_of_find?_eq_some hfind) held hid
    rfl

/-- An entry that moves to the head of its list stays in it. -/
theorem revision_moveToFront (h : lists.Distinct) {kind : ListKind} {id : IssueId} {moved : UserLists}
    (hmoved : lists.moveToFront kind id = some moved) : Revision lists moved none none := by
  obtain ⟨⟨entry, rest⟩, hremoved, rfl⟩ := Option.map_eq_some_iff.1 hmoved
  obtain ⟨hmem, hid, rfl⟩ := removeFrom_eq_some hremoved
  have herase := revision_erase h hmem
  have hout : ∀ kind', ∀ e ∈ (lists.erase kind entry.id).list kind', e.id ≠ entry.id := by
    intro kind' e he heid
    rcases (herase.mem kind' e).1 he with ⟨hin, hgone⟩ | hcome
    · exact hgone (congrArg some (h.eq hin hmem heid).2.symm)
    · exact nomatch hcome
  refine ⟨distinct_withList herase.distinct ?_ ?_, ?_⟩
  · refine List.nodup_cons.2 ⟨fun hin => ?_, (distinct_iff.1 herase.distinct).1 kind⟩
    obtain ⟨e, he, heid⟩ := List.mem_map.1 hin
    exact hout kind e he heid
  · intro kind' hk e he e' he' hid'
    rcases List.mem_cons.1 he with rfl | he
    · exact hout kind' e' he' hid'.symm
    · exact hk (herase.distinct.eq he' he hid'.symm).1
  · intro kind' e
    by_cases hk : kind' = kind
    · subst hk
      rw [list_withList_self, List.mem_cons, herase.mem]
      by_cases heq : e = entry
      · simp [heq, hmem]
      · have hne : ¬ entry = e := fun h => heq h.symm
        simp [heq, hne]
    · rw [list_withList_of_ne _ _ hk, herase.mem]
      have hne : e ∈ lists.list kind' → entry ≠ e := by
        rintro hin rfl
        exact hk (h.eq hin hmem rfl).1
      constructor
      · rintro (⟨hin, -⟩ | hcome)
        · exact .inl ⟨hin, by simp⟩
        · exact nomatch hcome
      · rintro (⟨hin, -⟩ | hcome)
        · exact .inl ⟨hin, fun e' => hne hin (Option.some.inj e')⟩
        · exact nomatch hcome

end SharedTodo.UserLists
