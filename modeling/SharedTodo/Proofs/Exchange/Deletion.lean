import SharedTodo.Proofs.Exchange.Operations
import SharedTodo.Proofs.Exchange.SentTodo
import SharedTodo.Proofs.Exchange.UserErrors
import SharedTodo.Proofs.Lists.Order

/-!
# What a deletion deletes

Completing and removing a todo delete the first entry of the issue and its record, and dissolve the link of
this entry. Links may dangle, be stale or cross each other: what becomes of the other side is decided by what
the linked user lists under the linked issue (`Cascades`). A counterpart that links back goes with its record,
a record that nobody lists goes alone, and a counterpart that belongs to another link stays with its record.

Two issues are in play, and they need not be different. The record of the deleted issue always goes. So a
counterpart that links elsewhere keeps its record only if it is not of the very same issue
(`stale_record_deleted`).
-/

namespace SharedTodo

namespace Store

variable {store : Store} {user : UserId} {id : IssueId}

/-- All lists and all records can be read. -/
structure Readable (store : Store) : Prop where
  lists : ∀ user, store.ListsReadable user
  records : ∀ id, store.RecordReadable id

theorem Orderly.readable (h : store.Orderly) : store.Readable :=
  ⟨h.listsReadable, h.recordReadable⟩

theorem readable_empty : Readable Table.empty :=
  orderly_empty.readable

theorem Readable.withLists (h : store.Readable) (user : UserId) (lists : UserLists) :
    (store.withLists user lists).Readable where
  lists other := (h.lists other).withLists user lists
  records id raw hraw := by
    rw [find?_withLists_issue] at hraw
    exact h.records id raw hraw

theorem Readable.insert_issue (h : store.Readable) (id : IssueId) (issue : Issue) :
    Store.Readable (store.insert (Issue.key id) (Issue.codec.encode issue)) where
  lists user := (h.lists user).insert_issue id _
  records other raw hraw := by
    rw [Table.find?_insert] at hraw
    split at hraw
    · exact ⟨issue, Option.some.inj hraw ▸ Issue.decode_encode issue⟩
    · exact h.records other raw hraw

theorem Readable.erase_issue (h : store.Readable) (id : IssueId) :
    Store.Readable (store.erase (Issue.key id)) where
  lists user := (h.lists user).erase_issue id
  records other raw hraw := by
    rw [Table.find?_erase] at hraw
    split at hraw
    · cases hraw
    · exact h.records other raw hraw

/-- The entry that the user's entry links to, where it is found, links back. -/
structure Living (store : Store) (user : UserId) (entry : Entry) (link : Link) (half : Located) : Prop where
  linked : entry.link = some link
  found : (store.lists link.user).find link.issue = some half
  back : half.entry.link = some ⟨user, entry.id⟩

theorem living_iff {entry : Entry} {link : Link} (hlink : entry.link = some link) {half : Located} :
    store.Living user entry link half ↔
      (store.lists link.user).findLinked link.issue user entry.id = some half := by
  rw [UserLists.findLinked, Option.filter_eq_some_iff, Entry.linksTo, decide_eq_true_iff]
  exact ⟨fun h => ⟨h.found, h.back⟩, fun h => ⟨hlink, h.1, h.2⟩⟩

theorem Living.unique {entry : Entry} {link link' : Link} {half half' : Located}
    (h : store.Living user entry link half) (h' : store.Living user entry link' half') :
    link' = link ∧ half' = half := by
  obtain rfl := Option.some.inj (h'.linked.symm.trans h.linked)
  exact ⟨rfl, Option.some.inj (h'.found.symm.trans h.found)⟩

theorem Counterpart.living {kind : ListKind} {entry : Entry} {link : Link} {half : Located}
    (h : store.Counterpart user kind entry link half) : store.Living user entry link half :=
  ⟨h.linked, h.found, by simpa [Entry.linksTo] using h.back⟩

/-- No entry links to the user who holds it. -/
def Outward (store : Store) : Prop :=
  ∀ user kind entry link, entry ∈ (store.lists user).list kind → entry.link = some link → link.user ≠ user

theorem find?_erase_of_ne {key other : String} (h : key ≠ other) :
    (store.erase other).find? key = store.find? key :=
  (store.find?_erase other key).trans (if_neg h)

theorem find?_erase_self (store : Store) (key : String) : (store.erase key).find? key = none :=
  (store.find?_erase key key).trans (if_pos rfl)

/-- A list that loses an entry is written. -/
theorem find?_withLists_erase {kind : ListKind} {entry : Entry} (held : entry ∈ (store.lists user).list kind) :
    (store.withLists user ((store.lists user).erase kind entry.id)).find? (UserLists.key user) =
      Exchange.documentOfLists ((store.lists user).erase kind entry.id) := by
  rw [find?_withLists_self, if_neg fun hsame => ?_]
  exact (UserLists.list_erase_ne_iff held).2 rfl (by rw [hsame])

end Store

namespace Exchange

open Program

variable {around : Surroundings} {s : Scene} {limits : Limits} {user : UserId} {id : IssueId}

/-- What becomes of the other side when a user gives up an entry, and which user is reported. -/
inductive Cascades (before : Store) (user : UserId) (entry : Entry) (after : Store) : Option UserId → Prop where
  | unlinked (link : entry.link = none) : Cascades before user entry after none
  /-- The counterpart links back and goes with its record. -/
  | removed {link : Link} {half : Located} (linked : entry.link = some link)
      (found : (before.lists link.user).find link.issue = some half)
      (back : half.entry.link = some ⟨user, entry.id⟩)
      (lists : after.find? (UserLists.key link.user) = documentOfLists ((before.lists link.user).without half))
      (record : after.find? (Issue.key link.issue) = none) : Cascades before user entry after (some link.user)
  /-- There is no counterpart, and the record goes. -/
  | missing {link : Link} (linked : entry.link = some link)
      (absent : (before.lists link.user).find link.issue = none)
      (lists : after.find? (UserLists.key link.user) = before.find? (UserLists.key link.user))
      (record : after.find? (Issue.key link.issue) = none) : Cascades before user entry after none
  /-- The counterpart belongs to another link and stays. -/
  | stale {link : Link} {half : Located} (linked : entry.link = some link)
      (found : (before.lists link.user).find link.issue = some half)
      (elsewhere : half.entry.link ≠ some ⟨user, entry.id⟩)
      (lists : after.find? (UserLists.key link.user) = before.find? (UserLists.key link.user))
      (record : link.issue ≠ entry.id →
        after.find? (Issue.key link.issue) = before.find? (Issue.key link.issue)) :
      Cascades before user entry after none

/-- The effect of deleting the entry at a place, and the user it reports. -/
structure Deletes (before : Store) (user : UserId) (place : Located) (after : Store)
    (foreignUser : Option UserId) : Prop where
  own : after.find? (UserLists.key user) = documentOfLists ((before.lists user).without place)
  record : after.find? (Issue.key place.entry.id) = none
  other : Cascades before user place.entry after foreignUser
  rest : ∀ key, key ≠ UserLists.key user → key ≠ Issue.key place.entry.id →
    (∀ link, place.entry.link = some link → key ≠ UserLists.key link.user ∧ key ≠ Issue.key link.issue) →
    after.find? key = before.find? key

/-- How a deletion ends, with some form of report: it is done for the first place of an issue that has a
record, or else refused. -/
inductive Deleted {ρ : Type} (report : Completed → ρ) (before : Store) (user : UserId) (id : IssueId) :
    Outcome OperationError ρ → Store → Prop where
  | done {issue : Issue} {place : Located} {foreignUser : Option UserId} {after : Store}
      (recorded : before.record id = some issue) (found : (before.lists user).find id = some place)
      (effect : Deletes before user place after foreignUser) :
      Deleted report before user id (.ok (report ⟨issue, foreignUser, place.list⟩)) after
  | refused {after : Store} (missing : before.record id = none ∨ (before.lists user).find id = none)
      (same : after = before) : Deleted report before user id (.error (.absent (.issue id))) after

/-- Giving up an entry deletes nothing but the counterpart. -/
structure GivesUp (before : Store) (user : UserId) (entry : Entry) (after : Store)
    (foreignUser : Option UserId) : Prop where
  other : Cascades before user entry after foreignUser
  rest : ∀ key,
    (∀ link, entry.link = some link → key ≠ UserLists.key link.user ∧ key ≠ Issue.key link.issue) →
    after.find? key = before.find? key

theorem givesUp_dissolve {entry : Entry} (hreadable : s.store.Readable) :
    (dissolve limits user entry).Ensures around
      (fun outcome s' => ∃ foreignUser, outcome = .ok foreignUser ∧
        GivesUp s.store user entry s'.store foreignUser) s := by
  apply ensures_dissolve
  · exact fun link _ => hreadable.lists link.user
  · exact fun hlink => ⟨none, rfl, .unlinked hlink, fun _ _ => rfl⟩
  · intro link half hlink hfind hback
    obtain ⟨held, hid⟩ := UserLists.find_eq_some hfind
    have hwritten := Store.find?_withLists_erase held
    rw [hid, UserLists.erase_eq_without hfind] at hwritten
    rw [UserLists.erase_eq_without hfind]
    refine ⟨_, rfl, .removed hlink hfind (by simpa [Entry.linksTo] using hback) ?_ ?_, fun key hkey => ?_⟩
    · rw [Scene.withStore_store, Store.find?_erase_of_ne (UserLists.key_ne_key _ _), hwritten]
    · exact Store.find?_erase_self _ _
    · obtain ⟨hlists, hrecord⟩ := hkey link hlink
      rw [Scene.withStore_store, Store.find?_erase_of_ne hrecord, Store.find?_withLists_of_ne hlists]
  · intro link hlink hfind
    refine ⟨none, rfl, .missing hlink hfind ?_ ?_, fun key hkey => ?_⟩
    · exact Store.find?_erase_of_ne (UserLists.key_ne_key _ _)
    · exact Store.find?_erase_self _ _
    · exact Store.find?_erase_of_ne (hkey link hlink).2
  · intro link half hlink hfind hback
    exact ⟨none, rfl, .stale hlink hfind (by simpa [Entry.linksTo] using hback) rfl fun _ => rfl,
      fun _ _ => rfl⟩

/-- The entry is taken out of its holder's lists first, and its record is deleted last. -/
theorem GivesUp.deletes {before : Store} {place : Located} {after : Store} {foreignUser : Option UserId}
    (hfind : (before.lists user).find id = some place)
    (houtward : ∀ link, place.entry.link = some link → link.user ≠ user)
    (h : GivesUp (before.withLists user ((before.lists user).without place)) user place.entry after
      foreignUser) :
    Deletes before user place (after.erase (Issue.key id)) foreignUser := by
  obtain ⟨held, rfl⟩ := UserLists.find_eq_some hfind
  have hwritten := Store.find?_withLists_erase held
  rw [UserLists.erase_eq_without hfind] at hwritten
  have hothers : ∀ other, other ≠ user →
      (before.withLists user ((before.lists user).without place)).lists other = before.lists other :=
    fun other hother => Store.lists_eq (Store.find?_withLists_other hother _)
  refine ⟨?_, Store.find?_erase_self _ _, ?_, fun key hown hrecord hkey => ?_⟩
  · rw [Store.find?_erase_of_ne (UserLists.key_ne_key _ _), h.rest, hwritten]
    exact fun link hlink => ⟨fun hkey => houtward link hlink (UserLists.key_injective hkey).symm,
      UserLists.key_ne_key _ _⟩
  · cases h.other with
    | unlinked hlink => exact .unlinked hlink
    | removed hlink hfound hback hlists hgone =>
      rw [hothers _ (houtward _ hlink)] at hfound hlists
      refine .removed hlink hfound hback ?_ ?_
      · rw [Store.find?_erase_of_ne (UserLists.key_ne_key _ _), hlists]
      · rw [Table.find?_erase, hgone, ite_self]
    | missing hlink hfound hlists hgone =>
      rw [hothers _ (houtward _ hlink)] at hfound
      refine .missing hlink hfound ?_ ?_
      · rw [Store.find?_erase_of_ne (UserLists.key_ne_key _ _), hlists,
          Store.find?_withLists_other (houtward _ hlink)]
      · rw [Table.find?_erase, hgone, ite_self]
    | stale hlink hfound helsewhere hlists hsame =>
      rw [hothers _ (houtward _ hlink)] at hfound
      refine .stale hlink hfound helsewhere ?_ fun hne => ?_
      · rw [Store.find?_erase_of_ne (UserLists.key_ne_key _ _), hlists,
          Store.find?_withLists_other (houtward _ hlink)]
      · rw [Store.find?_erase_of_ne fun hkey => hne (Issue.key_injective hkey), hsame hne,
          Store.find?_withLists_issue]
  · rw [Store.find?_erase_of_ne hrecord, h.rest key hkey, Store.find?_withLists_of_ne hown]

theorem deleted_take (hreadable : s.store.Readable) (houtward : s.store.Outward) :
    (take limits user id).Ensures around
      (fun outcome s' => Deleted (fun taken => taken) s.store user id outcome s'.store) s := by
  refine ensures_bind (ensures_requireIssue (hreadable.records id) (fun hmissing => ?_) fun issue hrecord => ?_)
  · exact .refused (.inl hmissing) rfl
  refine ensures_bind (ensures_updateLists (fun failure hfailed => ?_) fun revised place _ htaken => ?_)
  · have hrefused := hfailed (hreadable.lists user)
    have hfind := Option.map_eq_none_iff.1 (map_require_eq_error hrefused)
    rw [takeEntry, UserLists.remove, hfind] at hrefused
    cases hrefused
    exact .refused (.inr hfind) rfl
  · obtain ⟨⟨place', rest⟩, hremove, hpair⟩ := map_require_eq_ok htaken
    cases hpair
    obtain ⟨hfind, rfl⟩ := UserLists.remove_eq_some_iff.1 hremove
    obtain ⟨held, -⟩ := UserLists.find_eq_some hfind
    rw [UserLists.erase_eq_without hfind]
    apply ensures_bind
    refine ensures_mono (givesUp_dissolve (hreadable.withLists _ _)) fun outcome s' hend => ?_
    obtain ⟨foreignUser, rfl, hgivesUp⟩ := hend
    refine ensures_bind (ensures_deleteIssue (.done hrecord hfind (hgivesUp.deletes hfind fun link => ?_)))
    exact houtward user place.list place.entry link held

theorem Cascades.of_counterpart {store after : Store} {kind : ListKind} {entry : Entry} {link : Link}
    {half : Located} {foreignUser : Option UserId} (hhalf : store.Counterpart user kind entry link half)
    (h : Cascades store user entry after foreignUser) :
    foreignUser = some link.user ∧ after.find? (Issue.key link.issue) = none := by
  obtain ⟨hlink, -, hfind, -, -, hback, -⟩ := hhalf
  cases h with
  | unlinked hnone => cases hlink.symm.trans hnone
  | removed hlinked _ _ _ hgone =>
    cases hlink.symm.trans hlinked
    exact ⟨rfl, hgone⟩
  | missing hlinked habsent =>
    cases hlink.symm.trans hlinked
    cases hfind.symm.trans habsent
  | stale hlinked hfound helsewhere =>
    cases hlink.symm.trans hlinked
    cases hfind.symm.trans hfound
    exact absurd (by simpa [Entry.linksTo] using hback) helsewhere

/-- A todo that has a record and is listed is deleted. -/
theorem Deleted.effect {ρ : Type} {report : Completed → ρ} {before after : Store}
    {outcome : Outcome OperationError ρ} {issue : Issue} {place : Located}
    (hrecord : before.record id = some issue) (hfind : (before.lists user).find id = some place)
    (h : Deleted report before user id outcome after) :
    ∃ foreignUser, outcome = .ok (report ⟨issue, foreignUser, place.list⟩) ∧
      Deletes before user place after foreignUser := by
  cases h with
  | done hrecord' hfound heffect =>
    cases hrecord.symm.trans hrecord'
    cases hfind.symm.trans hfound
    exact ⟨_, rfl, heffect⟩
  | refused hmissing =>
    rcases hmissing with hmissing | hmissing
    · cases hrecord.symm.trans hmissing
    · cases hfind.symm.trans hmissing

/-- In a consistent store a shared todo is deleted on both sides. -/
theorem Deleted.of_linked {ρ : Type} {report : Completed → ρ} {store after : Store}
    {outcome : Outcome OperationError ρ} {kind : ListKind} {entry : Entry} {link : Link}
    (hconsistent : store.Consistent) (held : entry ∈ (store.lists user).list kind)
    (hlink : entry.link = some link) (h : Deleted report store user entry.id outcome after) :
    (∃ issue, outcome = .ok (report ⟨issue, some link.user, kind⟩)) ∧
      after.find? (Issue.key entry.id) = none ∧ after.find? (Issue.key link.issue) = none := by
  obtain ⟨place, hfind, rfl, rfl⟩ := (hconsistent.unique.orderly.distinct user).find_of_mem held
  obtain ⟨half, hhalf⟩ := hconsistent.exists_counterpart held hlink
  obtain ⟨issue, hrecord, -⟩ := hconsistent.exists_record held
  obtain ⟨foreignUser, rfl, heffect⟩ := h.effect hrecord hfind
  obtain ⟨rfl, hgone⟩ := heffect.other.of_counterpart hhalf
  exact ⟨⟨issue, rfl⟩, heffect.record, hgone⟩

end Exchange

namespace Session

open Exchange

variable {session : Session}

theorem deleted_run (hundisturbed : session.Undisturbed) (hreadable : session.world.store.Readable)
    (houtward : session.world.store.Outward) (limits : Limits) (user : UserId) (id : IssueId) :
    Deleted (fun taken => taken) session.world.store user id (session.run (take limits user id)).1
      (session.run (take limits user id)).2.world.store :=
  run_of_ensures (fun outcome s' => Deleted (fun taken => taken) session.world.store user id outcome s'.store)
    hundisturbed (deleted_take hreadable houtward)

theorem deletion_exact (hundisturbed : session.Undisturbed) (hreadable : session.world.store.Readable)
    (houtward : session.world.store.Outward) (limits : Limits) (user : UserId) (id : IssueId) :
    let completed := session.run (complete limits user id)
    let removed := session.run (remove limits user id)
    Deleted (fun taken => taken) session.world.store user id completed.1 completed.2.world.store ∧
      Deleted (fun taken => (⟨taken.issue, taken.foreignUser, taken.list = .out, taken.list⟩ : Removed))
        session.world.store user id removed.1 removed.2.world.store := by
  refine ⟨deleted_run hundisturbed hreadable houtward limits user id, ?_⟩
  refine run_of_ensures (fun outcome s' => Deleted _ session.world.store user id outcome s'.store) hundisturbed ?_
  apply Program.ensures_bind
  refine Program.ensures_mono (deleted_take hreadable houtward) fun outcome s' hdeleted => ?_
  cases hdeleted with
  | done hrecord hfind heffect => exact .done hrecord hfind heffect
  | refused hmissing hsame => exact .refused hmissing hsame

/-- Amy has sent ben a todo, and he completes it. -/
theorem sentTodo_deleted :
    ∃ store : Store, store.SentTodo ⟨"amy"⟩ ⟨"ben"⟩ (World.counted 0) (World.counted 1) ∧
      let completed := (resumed store 2 []).run (complete ⟨5, 5⟩ ⟨"ben"⟩ (World.counted 1))
      (∃ issue, completed.1 = .ok ⟨issue, some ⟨"amy"⟩, .inbox⟩) ∧
        completed.2.world.store.find? (Issue.key (World.counted 1)) = none ∧
        completed.2.world.store.find? (Issue.key (World.counted 0)) = none := by
  obtain ⟨store, hstore⟩ := exists_sentTodo_counted
  obtain ⟨entry, held, hid, hlink⟩ := hstore.inbox
  obtain ⟨hcompleted, -⟩ := @deletion_exact (resumed store 2 []) rfl hstore.consistent.unique.orderly.readable
    hstore.consistent.other ⟨5, 5⟩ ⟨"ben"⟩ (World.counted 1)
  rw [← hid] at hcompleted
  refine ⟨store, hstore, ?_⟩
  have hboth := hcompleted.of_linked hstore.consistent held hlink
  rwa [hid] at hboth

/-- Amy's todo links to an issue of the same identifier, which in ben's lists is a todo of his own. -/
def sameIssue : Store :=
  Store.withLists
    (Store.withLists
      (Table.empty.insert (Issue.key (World.counted 0))
        (Issue.codec.encode ⟨World.counted 0, "milk", none, none, .epoch⟩))
      ⟨"amy"⟩ ⟨[.linked (World.counted 0) ⟨⟨"ben"⟩, World.counted 0⟩], [], []⟩)
    ⟨"ben"⟩ ⟨[.unlinked (World.counted 0)], [], []⟩

theorem readable_sameIssue : sameIssue.Readable :=
  ((Store.readable_empty.insert_issue _ _).withLists _ _).withLists _ _

theorem lists_sameIssue (user : UserId) :
    sameIssue.lists user =
      if user = ⟨"ben"⟩ then ⟨[.unlinked (World.counted 0)], [], []⟩
      else if user = ⟨"amy"⟩ then ⟨[.linked (World.counted 0) ⟨⟨"ben"⟩, World.counted 0⟩], [], []⟩
      else .empty := by
  rw [sameIssue, Store.lists_withLists, Store.lists_withLists, Store.lists_insert_issue, Function.update_apply,
    Function.update_apply]
  rfl

theorem outward_sameIssue : sameIssue.Outward := by
  intro user kind entry link held hlink
  rw [lists_sameIssue] at held
  split at held
  · cases kind <;> simp [UserLists.list] at held
    rw [held] at hlink
    cases hlink
  · split at held
    · next hamy =>
      cases kind <;> simp [UserLists.list] at held
      rw [held] at hlink
      cases hlink
      rw [hamy]
      decide
    · cases kind <;> cases held

/-- The counterpart links elsewhere, and yet its record goes: it is that of the deleted todo. -/
theorem stale_record_deleted :
    sameIssue.Readable ∧ sameIssue.Outward ∧
      ∃ place half : Located, (sameIssue.lists ⟨"amy"⟩).find (World.counted 0) = some place ∧
        place.entry.link = some ⟨⟨"ben"⟩, World.counted 0⟩ ∧
        (sameIssue.lists ⟨"ben"⟩).find (World.counted 0) = some half ∧
        half.entry.link ≠ some ⟨⟨"amy"⟩, World.counted 0⟩ ∧
        ((resumed sameIssue 1 []).run (complete ⟨5, 5⟩ ⟨"amy"⟩ (World.counted 0))).2.world.store.find?
          (Issue.key (World.counted 0)) ≠ sameIssue.find? (Issue.key (World.counted 0)) := by
  have hplace : (sameIssue.lists ⟨"amy"⟩).find (World.counted 0) =
      some ⟨.my, 0, .linked (World.counted 0) ⟨⟨"ben"⟩, World.counted 0⟩⟩ := by
    rw [lists_sameIssue]
    decide
  have hhalf : (sameIssue.lists ⟨"ben"⟩).find (World.counted 0) =
      some ⟨.my, 0, .unlinked (World.counted 0)⟩ := by
    rw [lists_sameIssue]
    decide
  have hraw : sameIssue.find? (Issue.key (World.counted 0)) =
      some (Issue.codec.encode ⟨World.counted 0, "milk", none, none, .epoch⟩) := by
    rw [sameIssue, Store.find?_withLists_issue, Store.find?_withLists_issue, Table.find?_insert, if_pos rfl]
  have hrecord : sameIssue.record (World.counted 0) = some ⟨World.counted 0, "milk", none, none, .epoch⟩ := by
    rw [Store.record, hraw, Option.bind_some, Issue.decode_encode]
    rfl
  refine ⟨readable_sameIssue, outward_sameIssue, _, _, hplace, rfl, hhalf, (Option.some_ne_none _).symm, ?_⟩
  have hdeleted := @deleted_run (resumed sameIssue 1 []) rfl readable_sameIssue outward_sameIssue ⟨5, 5⟩
    ⟨"amy"⟩ (World.counted 0)
  obtain ⟨foreignUser, -, heffect⟩ := hdeleted.effect hrecord hplace
  have hgone : Table.find? _ (Issue.key (World.counted 0)) = none := heffect.record
  rw [hraw, complete, hgone]
  exact (Option.some_ne_none _).symm

end Session

end SharedTodo
