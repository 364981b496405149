import SharedTodo.Proofs.Exchange.Canonical
import SharedTodo.Proofs.Exchange.Effects
import SharedTodo.Proofs.Exchange.SentTodo

/-!
# Todos that come and go

A new todo adds to a store one entry for its holder, one for the receiver if it has been sent, and a record
for each (`Store.Adds`). Whatever either side does with its half, the store is still the one from before with
the same todo more: entries change their place, records their text, and nothing else is touched
(`adds_handled`). When either side completes or removes its half, the store has again the same documents as
before, to the letter (`ensures_take_added`). For that the lists must have been stored in the form in which
operations write them. For a session with any operations of either side in between, this is
`Session.undone_restores`.
-/

namespace SharedTodo

theorem Entry.eq_linked {entry : Entry} {link : Link} (h : entry.link = some link) :
    entry = .linked entry.id link := by
  obtain ⟨id, foreignIssue, foreignUser⟩ := entry
  cases foreignIssue with
  | none => cases foreignUser <;> cases h
  | some issue =>
    cases foreignUser with
    | none => cases h
    | some user =>
      cases h
      rfl

namespace UserLists

variable {base lists : UserLists} {entry : Entry} {kind : ListKind}

/-! ## One entry more -/

/-- The lists are other lists with one entry more, at some place. -/
structure Plus (base : UserLists) (entry : Entry) (lists : UserLists) : Prop where
  held : ∃ kind, entry ∈ lists.list kind ∧ lists.erase kind entry.id = base
  new : ∀ kind, ∀ e ∈ base.list kind, e.id ≠ entry.id

/-- New entries of one list from which the new one can be taken out. -/
theorem plus_withList {entries : List Entry} (hmem : entry ∈ entries)
    (herase : entries.eraseP (names entry.id) = base.list kind)
    (hnew : ∀ kind, ∀ e ∈ base.list kind, e.id ≠ entry.id) : base.Plus entry (base.withList kind entries) where
  held := by
    refine ⟨kind, ?_, ?_⟩
    · rw [list_withList_self]
      exact hmem
    · rw [erase, list_withList_self, withList_withList, herase, withList_list]
  new := hnew

theorem plus_pushed (kind : ListKind) (hnew : ∀ kind, ∀ e ∈ base.list kind, e.id ≠ entry.id) :
    base.Plus entry (base.pushed kind entry) := by
  have hpushed : base.pushed kind entry = base.withList kind (base.list kind ++ [entry]) := by
    simp [pushed, push, find_eq_none_iff.2 hnew]
  rw [hpushed]
  refine plus_withList (List.mem_append_right _ List.mem_cons_self) ?_ hnew
  rw [List.eraseP_append_right, List.eraseP_cons_of_pos (by simp [names]), List.append_nil]
  exact fun e he => by simpa [names] using hnew kind e he

theorem plus_head (kind : ListKind) (hnew : ∀ kind, ∀ e ∈ base.list kind, e.id ≠ entry.id) :
    base.Plus entry (base.withList kind (entry :: base.list kind)) := by
  refine plus_withList List.mem_cons_self ?_ hnew
  rw [List.eraseP_cons_of_pos (by simp [names])]

namespace Plus

variable (h : base.Plus entry lists)

include h

/-- The new entry is the only one of its issue. -/
theorem eq_of_mem {e : Entry} (hmem : e ∈ lists.list kind) (hid : e.id = entry.id) :
    e = entry ∧ lists.erase kind entry.id = base := by
  obtain ⟨kind', hentry, herase⟩ := h.held
  by_cases hkind : kind = kind'
  · subst hkind
    refine ⟨?_, herase⟩
    obtain ⟨first, before, after, hbefore, -, hsplit, hrest⟩ :=
      List.exists_of_eraseP hentry (p := names entry.id) (by simp [names])
    have hbase : base.list kind = before ++ after := by
      rw [← herase, erase, list_withList_self, hrest]
    have honly : ∀ e ∈ lists.list kind, e.id = entry.id → e = first := by
      intro e he hid
      rw [hsplit] at he
      rcases List.mem_append.1 he with he | he
      · exact absurd hid (by simpa [names] using hbefore e he)
      · rcases List.mem_cons.1 he with he | he
        · exact he
        · exact absurd hid (h.new kind e (hbase ▸ List.mem_append_right _ he))
    rw [honly e hmem hid, honly entry hentry rfl]
  · have hother : e ∈ base.list kind := by
      rw [← herase, list_erase_of_ne lists hkind]
      exact hmem
    exact absurd hid (h.new kind e hother)

theorem find_eq_some : ∃ located, lists.find entry.id = some located ∧ located.entry = entry ∧
    lists.erase located.list entry.id = base := by
  obtain ⟨kind, hentry, -⟩ := h.held
  cases hfind : lists.find entry.id with
  | none => exact absurd rfl (find_eq_none_iff.1 hfind kind entry hentry)
  | some located =>
    obtain ⟨hmem, hid⟩ := UserLists.find_eq_some hfind
    obtain ⟨heq, herase⟩ := h.eq_of_mem hmem hid
    exact ⟨located, rfl, heq, herase⟩

theorem ne : base ≠ lists := by
  rintro rfl
  obtain ⟨kind, hentry, -⟩ := h.held
  exact h.new kind entry hentry rfl

theorem removeFrom {e : Entry} {rest : UserLists} (hremoved : lists.removeFrom kind entry.id = some (e, rest)) :
    e = entry ∧ rest = base := by
  obtain ⟨hmem, hid, hrest⟩ := removeFrom_eq_some hremoved
  obtain ⟨heq, herase⟩ := h.eq_of_mem hmem hid
  rw [hrest, heq]
  exact ⟨rfl, herase⟩

theorem moveToFront {moved : UserLists} (hmoved : lists.moveToFront kind entry.id = some moved) :
    base.Plus entry moved := by
  obtain ⟨⟨e, rest⟩, hremoved, rfl⟩ := Option.map_eq_some_iff.1 hmoved
  obtain ⟨rfl, rfl⟩ := h.removeFrom hremoved
  exact plus_head kind h.new

end Plus

end UserLists

namespace Store

open Exchange

variable {base store : Store} {user other : UserId} {entry : Entry} {link : Link} {id : IssueId}

/-! ## One todo more -/

/-- A user holds one entry more, with a record that can be read. -/
structure AddsHalf (base : Store) (user : UserId) (entry : Entry) (store : Store) : Prop where
  plus : (base.lists user).Plus entry (store.lists user)
  readable : store.ListsReadable user
  recorded : ∃ raw issue, store.find? (Issue.key entry.id) = some raw ∧ Issue.codec.decode raw = .ok issue
  fresh : base.find? (Issue.key entry.id) = none

/-- A store is another one and one todo more: the entry of a user, its counterpart if it is linked, and their
records. -/
structure Adds (base : Store) (user : UserId) (entry : Entry) (store : Store) : Prop where
  own : base.AddsHalf user entry store
  counterpart : ∀ link, entry.link = some link → link.user ≠ user ∧ link.issue ≠ entry.id ∧
    base.AddsHalf link.user (.linked link.issue ⟨user, entry.id⟩) store
  elsewhere : ∀ key, key ≠ UserLists.key user → key ≠ Issue.key entry.id →
    (∀ link, entry.link = some link → key ≠ UserLists.key link.user ∧ key ≠ Issue.key link.issue) →
      store.find? key = base.find? key

theorem AddsHalf.recordReadable (h : base.AddsHalf user entry store) : store.RecordReadable entry.id := by
  obtain ⟨raw, issue, hraw, hdecode⟩ := h.recorded
  intro raw' hraw'
  cases hraw.symm.trans hraw'
  exact ⟨issue, hdecode⟩

theorem AddsHalf.record_ne_none (h : base.AddsHalf user entry store) : store.record entry.id ≠ none := by
  obtain ⟨raw, issue, hraw, hdecode⟩ := h.recorded
  simp [Store.record, hraw, hdecode, Except.toOption]

/-- The same seen from the other side. -/
theorem Adds.symm (h : base.Adds user (.linked id link) store) :
    base.Adds link.user (.linked link.issue ⟨user, id⟩) store := by
  obtain ⟨huser, hissue, hhalf⟩ := h.counterpart link rfl
  refine ⟨hhalf, ?_, ?_⟩
  · intro back hback
    cases hback
    exact ⟨huser.symm, hissue.symm, h.own⟩
  · intro key huser hissue hback
    obtain ⟨huser', hissue'⟩ := hback ⟨user, id⟩ rfl
    refine h.elsewhere key huser' hissue' fun link' hlink => ?_
    cases hlink
    exact ⟨huser, hissue⟩

/-- What is true of the counterpart's half is true of both. -/
theorem Adds.of_counterpart {store' : Store} (h : base.Adds user entry store) (hlink : entry.link = some link)
    (hchange : base.Adds link.user (.linked link.issue ⟨user, entry.id⟩) store →
      base.Adds link.user (.linked link.issue ⟨user, entry.id⟩) store') : base.Adds user entry store' := by
  rw [Entry.eq_linked hlink] at h ⊢
  exact (hchange h.symm).symm

/-! ### Changes of the own half -/

theorem AddsHalf.withLists_other (h : base.AddsHalf other entry store) (hne : other ≠ user) (lists : UserLists) :
    base.AddsHalf other entry (store.withLists user lists) where
  plus := by
    rw [lists_withLists, Function.update_of_ne hne]
    exact h.plus
  readable := h.readable.withLists user lists
  recorded := by
    rw [find?_withLists_issue]
    exact h.recorded
  fresh := h.fresh

/-- The holder's lists change, and still have the one entry more. -/
theorem Adds.withLists (h : base.Adds user entry store) {lists : UserLists}
    (hplus : (base.lists user).Plus entry lists) : base.Adds user entry (store.withLists user lists) where
  own := by
    refine ⟨?_, h.own.readable.withLists user lists, ?_, h.own.fresh⟩
    · rw [lists_withLists, Function.update_self]
      exact hplus
    · rw [find?_withLists_issue]
      exact h.own.recorded
  counterpart link hlink := by
    obtain ⟨huser, hissue, hhalf⟩ := h.counterpart link hlink
    exact ⟨huser, hissue, hhalf.withLists_other huser lists⟩
  elsewhere key huser hissue hlink := by
    rw [find?_withLists_of_ne huser]
    exact h.elsewhere key huser hissue hlink

theorem AddsHalf.rewrite (h : base.AddsHalf user entry store) (id : IssueId) (issue : Issue) :
    base.AddsHalf user entry (store.rewrite (Issue.key id) (some (Issue.codec.encode issue))) where
  plus := by
    rw [lists_rewrite_issue]
    exact h.plus
  readable := h.readable.rewrite_issue id _
  recorded := by
    rw [find?_rewrite]
    split
    · exact ⟨_, issue, rfl, Issue.decode_encode issue⟩
    · exact h.recorded
  fresh := h.fresh

/-- The record of the holder's half is written again. -/
theorem Adds.rewrite (h : base.Adds user entry store) (issue : Issue) :
    base.Adds user entry (store.rewrite (Issue.key entry.id) (some (Issue.codec.encode issue))) where
  own := h.own.rewrite entry.id issue
  counterpart link hlink := by
    obtain ⟨huser, hissue, hhalf⟩ := h.counterpart link hlink
    exact ⟨huser, hissue, hhalf.rewrite entry.id issue⟩
  elsewhere key huser hissue hlink := by
    rw [find?_rewrite, if_neg hissue]
    exact h.elsewhere key huser hissue hlink

/-! ### Taking the todo out again -/

/-- The holder's lists are put back as they were. -/
theorem AddsHalf.find?_withLists (h : base.AddsHalf user entry store) (hbase : base.Canonical) :
    (store.withLists user (base.lists user)).find? (UserLists.key user) = base.find? (UserLists.key user) := by
  rw [Store.withLists, if_neg h.plus.ne, Table.find?_assign, if_pos rfl, hbase user]

/-- An unlinked todo goes with its entry and its record. -/
theorem Adds.undone (h : base.Adds user entry store) (hbase : base.Canonical) (hlink : entry.link = none)
    (key : String) :
    (Table.erase (store.withLists user (base.lists user)) (Issue.key entry.id)).find? key = base.find? key := by
  rw [Table.find?_erase]
  split
  · next hkey => rw [hkey, h.own.fresh]
  · next hissue =>
    by_cases huser : key = UserLists.key user
    · rw [huser, h.own.find?_withLists hbase]
    · rw [find?_withLists_of_ne huser]
      exact h.elsewhere key huser hissue fun link hsome => by cases hlink.symm.trans hsome

/-- A linked todo goes with the entries and the records of both sides. -/
theorem Adds.undone_linked (h : base.Adds user entry store) (hbase : base.Canonical)
    (hlink : entry.link = some link) (key : String) :
    (Table.erase (Table.erase ((store.withLists user (base.lists user)).withLists link.user (base.lists link.user))
      (Issue.key link.issue)) (Issue.key entry.id)).find? key = base.find? key := by
  obtain ⟨huser, -, hhalf⟩ := h.counterpart link hlink
  rw [Table.find?_erase, Table.find?_erase]
  split
  · next hkey => rw [hkey, h.own.fresh]
  · next hown =>
    split
    · next hkey => rw [hkey]; exact hhalf.fresh.symm
    · next hother =>
      by_cases hkey : key = UserLists.key link.user
      · rw [hkey, (hhalf.withLists_other huser _).find?_withLists hbase]
      · rw [find?_withLists_of_ne hkey]
        by_cases hkey' : key = UserLists.key user
        · rw [hkey', h.own.find?_withLists hbase]
        · rw [find?_withLists_of_ne hkey']
          refine h.elsewhere key hkey' hown fun link' hlink' => ?_
          cases hlink.symm.trans hlink'
          exact ⟨hkey, hother⟩

end Store

namespace Store

open Exchange

variable {base store : Store} {user other : UserId} {entry : Entry} {id : IssueId}

/-! ### A new todo -/

/-- The store with an entry at the end of a user's list. -/
def listed (store : Store) (user : UserId) (kind : ListKind) (entry : Entry) : Store :=
  store.withLists user ((store.lists user).pushed kind entry)

theorem addsHalf_listed (entry : Entry) (h : base.Unlisted entry.id) (hlists : store.lists user = base.lists user)
    (hreadable : store.ListsReadable user) (hfresh : base.find? (Issue.key entry.id) = none)
    {raw : String} {issue : Issue} (hdecode : Issue.codec.decode raw = .ok issue)
    (hrecord : store.find? (Issue.key entry.id) = some raw) (kind : ListKind) :
    base.AddsHalf user entry (store.listed user kind entry) where
  plus := by
    rw [listed, lists_withLists, Function.update_self, hlists]
    exact UserLists.plus_pushed kind (h user)
  readable := hreadable.withLists user _
  recorded := by
    rw [listed, find?_withLists_issue]
    exact ⟨raw, issue, hrecord, hdecode⟩
  fresh := hfresh

theorem adds_unlinked (h : base.Unlisted id) (hreadable : base.ListsReadable user)
    (hfresh : base.find? (Issue.key id) = none) {raw : String} {issue : Issue}
    (hdecode : Issue.codec.decode raw = .ok issue) (kind : ListKind) :
    base.Adds user (.unlinked id) (listed (base.insert (Issue.key id) raw) user kind (.unlinked id)) where
  own := by
    have hrecord : (base.insert (Issue.key id) raw).find? (Issue.key id) = some raw := by
      rw [Table.find?_insert, if_pos rfl]
    refine addsHalf_listed (.unlinked id) h ?_ (hreadable.insert_issue id raw) hfresh hdecode hrecord kind
    rw [lists_insert_issue]
  counterpart link hlink := nomatch hlink
  elsewhere key huser hissue _ := by
    rw [listed, find?_withLists_of_ne huser, Table.find?_insert]
    exact if_neg hissue

/-- The halves of a todo that has been sent. -/
theorem adds_linked {sent received : IssueId} (hsent : base.Unlisted sent) (hreceived : base.Unlisted received)
    (hne : user ≠ other) (hapart : sent ≠ received) (hreadable : ∀ user, base.ListsReadable user)
    (hfresh : base.find? (Issue.key sent) = none) (hfresh' : base.find? (Issue.key received) = none)
    {raw raw' : String} {issue counterpart : Issue} (hdecode : Issue.codec.decode raw = .ok issue)
    (hdecode' : Issue.codec.decode raw' = .ok counterpart) :
    base.Adds user (.linked sent ⟨other, received⟩)
      (listed (listed (Table.insert (base.insert (Issue.key sent) raw) (Issue.key received) raw')
        user .out (.linked sent ⟨other, received⟩)) other .inbox (.linked received ⟨user, sent⟩)) := by
  -- the store with both records, before anybody lists them
  generalize hrecords : Table.insert (base.insert (Issue.key sent) raw) (Issue.key received) raw' = records
  have hlists : Store.lists records = base.lists := by
    rw [← hrecords, lists_insert_issue, lists_insert_issue]
  have hreadable' (user : UserId) : Store.ListsReadable records user := by
    rw [← hrecords]
    exact ((hreadable user).insert_issue _ _).insert_issue _ _
  have hfind (key : String) : records.find? key =
      if key = Issue.key received then some raw' else if key = Issue.key sent then some raw
      else base.find? key := by
    rw [← hrecords, Table.find?_insert, Table.find?_insert]
  have hkeys : Issue.key sent ≠ Issue.key received := fun hkey => hapart (Issue.key_injective hkey)
  refine ⟨?_, ?_, ?_⟩
  · have hrecord : records.find? (Issue.key sent) = some raw := by
      rw [hfind, if_neg hkeys, if_pos rfl]
    have hown := addsHalf_listed (.linked sent ⟨other, received⟩) hsent (by rw [hlists]) (hreadable' user) hfresh
      hdecode hrecord .out
    exact hown.withLists_other hne _
  · intro link hlink
    cases hlink
    have hrecord : (listed records user .out (.linked sent ⟨other, received⟩)).find? (Issue.key received) =
        some raw' := by
      rw [listed, find?_withLists_issue, hfind, if_pos rfl]
    refine ⟨hne.symm, hapart.symm, addsHalf_listed (.linked received ⟨user, sent⟩) hreceived ?_
      ((hreadable' other).withLists user _) hfresh' hdecode' hrecord .inbox⟩
    rw [lists_withLists, Function.update_of_ne hne.symm, hlists]
  · intro key huser hissue hlink
    obtain ⟨hother, hissue'⟩ := hlink ⟨other, received⟩ rfl
    rw [listed, find?_withLists_of_ne hother, listed, find?_withLists_of_ne huser, hfind, if_neg hissue']
    exact if_neg hissue

end Store

namespace Exchange

open Program

variable {base : Store} {around : Surroundings} {s : Scene} {limits : Limits} {user : UserId} {entry : Entry}

/-! ## Coming -/

variable (limits) in
theorem ensures_add_added (h : s.store.Consistent)
    (hfresh : s.store.find? (Issue.key (around.supply s.drawn)) = none) (user : UserId) (draft : Draft) :
    (add limits user draft).Ensures around (fun outcome s' =>
      (∃ issue, outcome = .ok issue ∧ issue.id = around.supply s.drawn) ∧
        s.store.Adds user (.unlinked (around.supply s.drawn)) s'.store) s := by
  refine ensures_bind (ensures_bind (ensures_freshId (ensures_bind (ensures_now fun now => ?_))))
  have hreadable := h.unique.orderly.listsReadable user
  refine ensures_bind (ensures_saveIssue (ensures_bind (ensures_pushEntry (hreadable.insert_issue _ _) ?_)))
  exact ⟨⟨_, rfl, rfl⟩, Store.adds_unlinked (h.unlisted hfresh) hreadable hfresh (Issue.decode_encode _) .my⟩

variable (limits) in
theorem ensures_send_added (h : s.store.Consistent) (hfresh : Fresh around s)
    (hapart : around.supply s.drawn ≠ around.supply (s.drawn + 1)) {sender receiver : UserId}
    (hne : sender ≠ receiver) {profile : Profile} (hknown : around.byId receiver = .ok (some profile))
    (draft : Draft) :
    (send limits sender receiver draft).Ensures around (fun outcome s' =>
      outcome = .ok (around.supply (s.drawn + 1)) ∧
        s.store.Adds sender (.linked (around.supply s.drawn) ⟨receiver, around.supply (s.drawn + 1)⟩)
          s'.store) s := by
  rw [send, if_neg hne]
  refine ensures_bind (ensures_requireUser (fun _ _ => ?_) ?_ ?_)
  · refine ensures_bind (ensures_bind (ensures_freshId (ensures_bind (ensures_now fun now => ?_))))
    refine ensures_bind (ensures_bind (ensures_freshId ?_))
    have hreadable (other : UserId) := h.unique.orderly.listsReadable other
    have hfreshSent := hfresh 0 (by decide)
    have hfreshReceived := hfresh 1 (by decide)
    refine ensures_bind (ensures_saveIssue (ensures_bind (ensures_saveIssue ?_)))
    refine ensures_bind (ensures_pushEntry (((hreadable sender).insert_issue _ _).insert_issue _ _) ?_)
    refine ensures_bind (ensures_pushEntry
      ((((hreadable receiver).insert_issue _ _).insert_issue _ _).withLists _ _) ?_)
    exact ⟨rfl, Store.adds_linked (h.unlisted hfreshSent) (h.unlisted hfreshReceived) hne hapart hreadable
      hfreshSent hfreshReceived (Issue.decode_encode _) (Issue.decode_encode _)⟩
  · intro hunknown
    cases hknown.symm.trans hunknown
  · intro failure hdown
    cases hknown.symm.trans hdown

/-! ## Going -/

/-- Completing or removing a half. -/
theorem ensures_take_added (h : base.Adds user entry s.store) (hbase : base.Canonical) :
    (take limits user entry.id).Ensures around
      (fun outcome s' => (∃ report, outcome = .ok report) ∧ ∀ key, s'.store.find? key = base.find? key) s := by
  refine ensures_bind (ensures_requireIssue h.own.recordReadable (fun hmissing => ?_) fun issue _ => ?_)
  · exact absurd hmissing h.own.record_ne_none
  obtain ⟨located, hfind, rfl, herase⟩ := h.own.plus.find_eq_some
  have htaken : takeEntry located.entry.id (s.store.lists user) = .ok (base.lists user, located) := by
    rw [takeEntry, UserLists.remove, hfind, ← herase]
    rfl
  refine ensures_bind (ensures_updateLists (fun failure hfailed => ?_) fun revised taken _ hdone => ?_)
  · cases htaken.symm.trans (hfailed h.own.readable)
  cases htaken.symm.trans hdone
  -- in the other lists the counterpart is found, and it links back
  have hcounterpart {link : Link} (hlink : located.entry.link = some link) :
      ∃ half, ((s.store.withLists user (base.lists user)).lists link.user).find link.issue = some half ∧
        half.entry.linksTo user located.entry.id ∧
        ((s.store.withLists user (base.lists user)).lists link.user).erase half.list link.issue =
          base.lists link.user := by
    obtain ⟨hne, -, hhalf⟩ := h.counterpart link hlink
    obtain ⟨half, hfind, hentry, herase⟩ := hhalf.plus.find_eq_some
    rw [Store.lists_withLists, Function.update_of_ne hne]
    refine ⟨half, hfind, ?_, herase⟩
    rw [hentry, Entry.linksTo, Entry.link_linked]
    exact decide_eq_true rfl
  refine ensures_bind (ensures_dissolve (fun link hlink => ?_) (fun hlink => ?_)
    (fun link half hlink hhalf _ => ?_) (fun link hlink hmissing => ?_) fun link half hlink hhalf hstale => ?_)
  · exact (h.counterpart link hlink).2.2.readable.withLists user _
  · exact ensures_bind (ensures_deleteIssue ⟨⟨_, rfl⟩, h.undone hbase hlink⟩)
  · obtain ⟨half', hhalf', -, herase'⟩ := hcounterpart hlink
    cases hhalf.symm.trans hhalf'
    refine ensures_bind (ensures_deleteIssue ⟨⟨_, rfl⟩, fun key => ?_⟩)
    simp only [Scene.withStore_store]
    rw [herase']
    exact h.undone_linked hbase hlink key
  · obtain ⟨half, hhalf, -⟩ := hcounterpart hlink
    cases hmissing.symm.trans hhalf
  · obtain ⟨half', hhalf', hback, -⟩ := hcounterpart hlink
    cases hhalf.symm.trans hhalf'
    exact absurd hback hstale

/-! ## In between -/

/-- The action accepts, bumps or edits the issue. -/
def Action.Handles : Action → IssueId → Prop
  | accept _ own, id => id = own
  | bump _ own, id => id = own
  | edit _ own _, id => id = own
  | _, _ => False

theorem adds_accept (h : base.Adds user entry s.store) :
    (accept limits user entry.id).Ensures around (fun _ s' => base.Adds user entry s'.store) s := by
  refine ensures_bind (ensures_of_idle (idle_requireIssue _) (fun issue => ?_) fun _ => h)
  refine ensures_bind (ensures_updateLists (fun _ _ => h) fun revised taken _ hdone => ?_)
  have hlater : base.Adds user entry (s.store.withLists user revised) := by
    obtain ⟨⟨taken', rest⟩, hremoved, hpair⟩ := map_require_eq_ok hdone
    obtain ⟨rfl, rfl⟩ := h.own.plus.removeFrom hremoved
    cases hpair
    exact h.withLists (UserLists.plus_pushed .my h.own.plus.new)
  exact ensures_bind (ensures_of_idle (idle_livingCounterpart user taken) (fun _ => hlater) fun _ => hlater)

/-- A bump moves the entry or leaves it where it is. -/
theorem plus_bumpEntry {lists base : UserLists} (h : base.Plus entry lists) (sender : UserId) (sent : IssueId) :
    base.Plus entry (bumpEntry sender sent entry.id lists).1 := by
  rw [bumpEntry]
  split
  · split
    · next hmoved => exact h.moveToFront hmoved
    · exact h
  · exact h

theorem adds_bump (h : base.Adds user entry s.store) :
    (bump limits user entry.id).Ensures around (fun _ s' => base.Adds user entry s'.store) s := by
  refine ensures_bind (ensures_loadLists h.own.readable ?_)
  refine ensures_bind (ensures_ofExcept (fun found hfound => ?_) fun _ _ => h)
  have hmem := require_eq_ok hfound
  obtain ⟨rfl, -⟩ := h.own.plus.eq_of_mem (List.mem_of_find?_eq_some hmem)
    (by simpa [UserLists.names] using List.find?_some hmem)
  rw [andThen]
  cases hlink : found.link with
  | none => exact h
  | some link =>
    refine ensures_bind (ensures_of_idle (idle_requireIssue _) (fun issue => ?_) fun _ => h)
    refine ensures_bind (ensures_updateLists (fun _ _ => h) fun revised moved _ hdone => ?_)
    have hlater : base.Adds user found (s.store.withLists link.user revised) := by
      have hrevised : _ = revised := congrArg Prod.fst (Except.ok.inj hdone)
      rw [← hrevised]
      exact h.of_counterpart hlink fun hhalf => hhalf.withLists (plus_bumpEntry hhalf.own.plus user found.id)
    cases moved with
    | true => exact hlater
    | false => exact hlater

theorem adds_edit (h : base.Adds user entry s.store) (change : Edit) :
    (edit limits user entry.id change).Ensures around (fun _ s' => base.Adds user entry s'.store) s := by
  refine ensures_bind (ensures_loadLists h.own.readable ?_)
  refine ensures_bind (ensures_ofExcept (fun located hlocated => ?_) fun _ _ => h)
  obtain ⟨located', hfind, hentry, -⟩ := h.own.plus.find_eq_some
  cases hfind.symm.trans (require_eq_ok hlocated)
  refine ensures_bind (ensures_editRecord h.own.recordReadable (fun _ => h) fun issue _ => ?_)
  have hown := h.rewrite (issue.edited change)
  refine ensures_bind (ensures_ofExcept (fun _ _ => ?_) fun _ _ => hown)
  rw [hentry]
  refine ensures_bind (ensures_livingCounterpart (fun link hlink => ?_) (fun link half hlink _ => ?_) fun _ => ?_)
  · exact (hown.counterpart link hlink).2.2.readable
  · refine ensures_bind (ensures_bind (ensures_editRecord ?_ (fun _ => hown) fun counterpart _ => ?_))
    · exact (hown.counterpart link hlink).2.2.recordReadable
    · exact hown.of_counterpart hlink fun hhalf => hhalf.rewrite (counterpart.edited change)
  · exact hown

theorem adds_handled (h : base.Adds user entry s.store) {action : Action} (huser : action.user = user)
    (haction : action.Handles entry.id) :
    (action.program limits).Ensures around (fun _ s' => base.Adds user entry s'.store) s := by
  have hreport {β : Type} {operation : Operation β}
      (hoperation : operation.Ensures around (fun _ s' => base.Adds user entry s'.store) s) :
      (operation >>= fun _ => pure ()).Ensures around (fun _ s' => base.Adds user entry s'.store) s := by
    apply ensures_bind
    refine ensures_mono hoperation fun outcome s' hend => ?_
    cases outcome <;> exact hend
  cases action with
  | accept user id =>
    cases huser
    cases haction
    exact hreport (adds_accept h)
  | bump user id =>
    cases huser
    cases haction
    exact hreport (adds_bump h)
  | edit user id change =>
    cases huser
    cases haction
    exact hreport (adds_edit h change)
  | _ => exact haction.elim

theorem ensures_finished (h : base.Adds user entry s.store) (hbase : base.Canonical) {action : Action}
    (huser : action.user = user) (haction : action.Finishes entry.id) :
    (action.program limits).Ensures around
      (fun outcome s' => outcome = .ok () ∧ ∀ key, s'.store.find? key = base.find? key) s := by
  cases action with
  | complete user id =>
    cases huser
    cases haction
    refine ensures_bind (ensures_mono (ensures_take_added h hbase) ?_)
    rintro _ s' ⟨⟨report, rfl⟩, hsame⟩
    exact ⟨rfl, hsame⟩
  | remove user id =>
    cases huser
    cases haction
    refine ensures_bind (ensures_bind (ensures_mono (ensures_take_added h hbase) ?_))
    rintro _ s' ⟨⟨report, rfl⟩, hsame⟩
    exact ⟨rfl, hsame⟩
  | _ => exact haction.elim

end Exchange

/-! ## Sides -/

/-- Who holds the todo of a user's entry, and as which issue: the user, and whoever is at the other end. -/
def Entry.Side (user : UserId) (entry : Entry) (other : UserId) (id : IssueId) : Prop :=
  (other = user ∧ id = entry.id) ∨ entry.link = some ⟨other, id⟩

/-- From either side it is a todo more, and what is true of one side is true of the other. -/
theorem Store.Adds.side {base store : Store} {user other : UserId} {entry : Entry} {id : IssueId}
    (h : base.Adds user entry store) (hside : entry.Side user other id) :
    ∃ half : Entry, half.id = id ∧ base.Adds other half store ∧
      ∀ store', base.Adds other half store' → base.Adds user entry store' := by
  obtain ⟨rfl, rfl⟩ | hlink := hside
  · exact ⟨entry, rfl, h, fun _ h' => h'⟩
  · rw [Entry.eq_linked hlink] at h ⊢
    exact ⟨_, rfl, h.symm, fun _ => Store.Adds.symm⟩

namespace Session

open Exchange

variable {session later : Session} {user : UserId} {entry : Entry}

/-- The session after more operations. -/
def after (session : Session) (steps : List (Limits × Action)) : Session :=
  steps.foldl (fun session step => (session.run (step.2.program step.1)).2) session

/-- Whatever is done about the todo of an entry on either side, once one side completes or removes it the
documents in the store are those of the session before. -/
def RestoredFrom (session later : Session) (user : UserId) (entry : Entry) : Prop :=
  ∀ steps, (∀ step ∈ steps, ∃ id, entry.Side user step.2.user id ∧ step.2.Handles id) →
    ∀ (limits : Limits) (last : Action), (∃ id, entry.Side user last.user id ∧ last.Finishes id) →
      ((later.after steps).run (last.program limits)).1 = .ok () ∧
        ∀ key, ((later.after steps).run (last.program limits)).2.world.store.find? key =
          session.world.store.find? key

theorem restoredFrom_of_adds (hbase : session.world.store.Canonical) (hlater : later.Undisturbed)
    (h : session.world.store.Adds user entry later.world.store) : session.RestoredFrom later user entry := by
  intro steps
  induction steps generalizing later with
  | nil =>
    rintro - limits last ⟨id, hside, hfinishes⟩
    obtain ⟨half, rfl, hhalf, -⟩ := h.side hside
    have hscene : session.world.store.Adds last.user half later.scene.store := hhalf
    exact run_of_ensures _ hlater (ensures_finished hscene hbase rfl hfinishes)
  | cons step steps ih =>
    intro hsteps
    obtain ⟨id, hside, hhandles⟩ := hsteps step List.mem_cons_self
    obtain ⟨half, rfl, hhalf, hback⟩ := h.side hside
    have hscene : session.world.store.Adds step.2.user half later.scene.store := hhalf
    refine ih (goesOn_run hlater _).1 ?_ fun step hstep => hsteps step (List.mem_cons_of_mem _ hstep)
    exact hback _ (run_of_ensures (fun _ s' => session.world.store.Adds step.2.user half s'.store) hlater
      (adds_handled hscene rfl hhandles))

/-- In a store that operations have made, a todo that is sent or added leaves nothing behind when it has been
completed or removed, by whichever side and whatever has been done about it before: no record, no entry and
no empty document, and all other entries in their places. -/
theorem undone_restores (h : session.Undisturbed) {issued : List IssueId}
    (hperformed : Performed ⟨session.world.store, issued⟩) (hfresh : Fresh session.around session.scene)
    {own received : IssueId} (hown : own = session.world.supply session.world.drawn)
    (hreceived : received = session.world.supply (session.world.drawn + 1)) (hapart : own ≠ received)
    (limits : Limits) (user : UserId) (draft : Draft) :
    (∀ receiver profile, user ≠ receiver → session.around.byId receiver = .ok (some profile) →
      let sent := session.run (send limits user receiver draft)
      sent.1 = .ok received ∧ session.RestoredFrom sent.2 user (.linked own ⟨receiver, received⟩)) ∧
    let added := session.run (add limits user draft)
    (∃ issue, added.1 = .ok issue ∧ issue.id = own) ∧ session.RestoredFrom added.2 user (.unlinked own) := by
  subst hown hreceived
  have hconsistent : session.scene.store.Consistent := hperformed.settled.consistent
  refine ⟨fun receiver profile hne hknown => ?_, ?_⟩
  · obtain ⟨hsent, hadds⟩ := run_of_ensures _ h
      (ensures_send_added limits hconsistent hfresh hapart hne hknown draft)
    exact ⟨hsent, restoredFrom_of_adds hperformed.canonical (goesOn_run h _).1 hadds⟩
  · obtain ⟨hadded, hadds⟩ := run_of_ensures _ h
      (ensures_add_added limits hconsistent (hfresh 0 (by decide)) user draft)
    exact ⟨hadded, restoredFrom_of_adds hperformed.canonical (goesOn_run h _).1 hadds⟩

/-- Amy has sent ben a todo. She sends him another one and words it anew, he accepts it and completes it. -/
theorem sentTodo_restored :
    ∃ store : Store, store.SentTodo ⟨"amy"⟩ ⟨"ben"⟩ (World.counted 0) (World.counted 1) ∧
      let session := resumed store 2 [⟨⟨"ben"⟩, "ben"⟩]
      let sent := session.run (send ⟨5, 5⟩ ⟨"amy"⟩ ⟨"ben"⟩ ⟨"bread", none, none⟩)
      let handled := sent.2.after
        [(⟨5, 5⟩, .edit ⟨"amy"⟩ (World.counted 2) ⟨"rolls", none⟩),
          (⟨5, 5⟩, .accept ⟨"ben"⟩ (World.counted 3))]
      let finished := handled.run ((Action.complete ⟨"ben"⟩ (World.counted 3)).program ⟨5, 5⟩)
      sent.1 = .ok (World.counted 3) ∧ finished.1 = .ok () ∧
        ∀ key, finished.2.world.store.find? key = store.find? key := by
  obtain ⟨s, hperformed, hstore⟩ := @exists_sentTodo ⟨"amy"⟩ ⟨"ben"⟩ (by decide) (World.counted 0)
    (World.counted 1) (by decide)
  refine ⟨s.store, hstore, ?_⟩
  have hapart : World.counted 2 ≠ World.counted 3 := by decide
  obtain ⟨hsend, -⟩ := @undone_restores (resumed s.store 2 [⟨⟨"ben"⟩, "ben"⟩]) rfl s.issued hperformed
    (hstore.fresh _) _ _ rfl rfl hapart ⟨5, 5⟩ ⟨"amy"⟩ ⟨"bread", none, none⟩
  obtain ⟨hsent, hrestored⟩ := hsend ⟨"ben"⟩ ⟨⟨"ben"⟩, "ben"⟩ (by decide) rfl
  refine ⟨hsent, hrestored _ ?_ ⟨5, 5⟩ (.complete ⟨"ben"⟩ (World.counted 3)) ⟨_, .inr rfl, rfl⟩⟩
  intro step hstep
  obtain rfl | rfl : step = _ ∨ step = _ := by simpa using hstep
  · exact ⟨_, .inl ⟨rfl, rfl⟩, rfl⟩
  · exact ⟨_, .inr rfl, rfl⟩

end Session

end SharedTodo
