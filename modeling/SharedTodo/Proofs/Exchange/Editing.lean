import SharedTodo.Proofs.Exchange.Deletion

/-!
# What an edit writes

An edit gives the record of an issue that its holder lists a new message and a new description. The issue that
the first entry of the edited one links to gets the same content if it is listed with a link back and has a
record (`Mirrors`). Identifiers, posts and times of creation stay, and so do all lists and all other records.

The edited issue is its own counterpart when its holder and somebody else list the very same issue, linked
with each other. Then the record is found to have the new content already, and the other user is reported
(`own_issue_mirrored`).
-/

namespace SharedTodo

namespace Store

variable {store : Store} {id other : IssueId} {issue : Issue}

theorem record_rewrite (store : Store) (id other : IssueId) (issue : Issue) :
    (store.rewrite (Issue.key id) (some (Issue.codec.encode issue))).record other =
      if other = id then some issue else store.record other := by
  have hchanges : store.Changes (Issue.key id) ((some issue).map Issue.codec.encode)
      (store.rewrite (Issue.key id) (some (Issue.codec.encode issue))) := fun key => store.find?_rewrite _ key _
  exact hchanges.record_of_record other

end Store

/-- The content that typed texts make: a trimmed message, and no description for a blank one. -/
theorem Edit.ofInput_eq_ok {message description : String} {change : Edit}
    (h : Edit.ofInput message description = .ok change) :
    change.message = Text.trim message ∧
      change.description = if Text.isBlankText description then none else some description := by
  rw [Edit.ofInput, messageOfInput] at h
  split at h
  · cases h
  · cases h
    exact ⟨rfl, rfl⟩

namespace Exchange

open Program

variable {around : Surroundings} {s : Scene} {limits : Limits} {user : UserId} {id : IssueId} {change : Edit}

/-- The record is that of the issue before, with the content of the edit. -/
def Rewritten (before : Issue) (change : Edit) (after : Option Issue) : Prop :=
  after = some ⟨before.id, change.message, change.description, before.post, before.createdAt⟩

/-- What the edit of an issue, through an entry of its holder, does to all other documents, and which user it
reports. -/
inductive Mirrors (before : Store) (user : UserId) (entry : Entry) (change : Edit) (after : Store) :
    Option UserId → Prop where
  /-- The counterpart is living and has a record, which gets the content as well. -/
  | mirrored {link : Link} {half : Located} {other : Issue} (living : before.Living user entry link half)
      (recorded : before.record link.issue = some other)
      (record : Rewritten other change (after.record link.issue))
      (rest : ∀ key, key ≠ Issue.key entry.id → key ≠ Issue.key link.issue →
        after.find? key = before.find? key) : Mirrors before user entry change after (some link.user)
  /-- There is no living counterpart that has a record. -/
  | alone (unrecorded : ∀ link half, before.Living user entry link half → before.record link.issue = none)
      (rest : ∀ key, key ≠ Issue.key entry.id → after.find? key = before.find? key) :
      Mirrors before user entry change after none

/-- How an edit ends: it is done for the first place of an issue that has a record, or else refused. -/
inductive EditEnds (before : Store) (user : UserId) (id : IssueId) (change : Edit) :
    Outcome OperationError Edited → Store → Prop where
  | done {issue : Issue} {place : Located} {foreignUser : Option UserId} {after : Store}
      (recorded : before.record id = some issue) (found : (before.lists user).find id = some place)
      (record : Rewritten issue change (after.record id))
      (others : Mirrors before user place.entry change after foreignUser) :
      EditEnds before user id change (.ok ⟨foreignUser, place.list, issue.message⟩) after
  | refused {after : Store} (missing : before.record id = none ∨ (before.lists user).find id = none)
      (same : after = before) : EditEnds before user id change (.error (.absent (.issue id))) after

theorem ensures_livingCounterpart_of_readable {entry : Entry} {result : Result OperationError (Option Link)}
    (hreadable : ∀ user, s.store.ListsReadable user)
    (hliving : ∀ link half, s.store.Living user entry link half → result (.ok (some link)) s)
    (hnone : (∀ link half, ¬ s.store.Living user entry link half) → result (.ok none) s) :
    (livingCounterpart user entry).Ensures around result s := by
  refine ensures_livingCounterpart (fun link _ => hreadable link.user)
    (fun link half hlink hfound => hliving link half ((Store.living_iff hlink).2 hfound)) fun hmissing => ?_
  refine hnone fun link half hhalf => ?_
  cases (hmissing link hhalf.linked).symm.trans ((Store.living_iff hhalf.linked).1 hhalf)

/-- Lists that are the same have the same living counterparts. -/
theorem living_congr {store store' : Store} (h : store'.lists = store.lists) {entry : Entry} {link : Link}
    {half : Located} : store'.Living user entry link half ↔ store.Living user entry link half :=
  ⟨fun ⟨hlink, hfound, hback⟩ => ⟨hlink, h ▸ hfound, hback⟩,
    fun ⟨hlink, hfound, hback⟩ => ⟨hlink, h.symm ▸ hfound, hback⟩⟩

section

variable {store : Store} {entry : Entry} {issue : Issue} (hrecord : store.record entry.id = some issue)

include hrecord

/-- Both edits are there once the counterpart has been edited after the issue itself. The record that the
second one finds is that of the first if the issue is its own counterpart. -/
theorem mirrors_rewrite {edited : Store}
    (hedited : edited = store.rewrite (Issue.key entry.id) (some (Issue.codec.encode (issue.edited change))))
    {link : Link} {half : Located} (hliving : store.Living user entry link half) {other : Issue}
    (hother : edited.record link.issue = some other) :
    let after := edited.rewrite (Issue.key link.issue) (some (Issue.codec.encode (other.edited change)))
    after.record entry.id = some (issue.edited change) ∧
      Mirrors store user entry change after (some link.user) := by
  intro after
  have hrecords (id : IssueId) :
      edited.record id = if id = entry.id then some (issue.edited change) else store.record id := by
    rw [hedited, Store.record_rewrite]
  obtain ⟨original, horiginal, hsame⟩ : ∃ original, store.record link.issue = some original ∧
      other.edited change = original.edited change := by
    rw [hrecords] at hother
    split at hother
    · next hown =>
      cases hother
      exact ⟨issue, hown ▸ hrecord, rfl⟩
    · exact ⟨other, hother, rfl⟩
  refine ⟨?_, .mirrored hliving horiginal ?_ fun key hkey hkey' => ?_⟩
  · rw [Store.record_rewrite]
    split
    · next hown =>
      rw [← hown, hrecord] at horiginal
      rw [hsame, ← Option.some.inj horiginal]
    · exact (hrecords entry.id).trans (if_pos rfl)
  · rw [Store.record_rewrite, if_pos rfl, hsame]
    rfl
  · rw [Store.find?_rewrite, if_neg hkey', hedited, Store.find?_rewrite, if_neg hkey]

/-- The edit of the counterpart, after that of the issue itself. -/
theorem mirrors_editCounterpart (hreadable : store.Readable)
    (hstore : s.store = store.rewrite (Issue.key entry.id) (some (Issue.codec.encode (issue.edited change)))) :
    (livingCounterpart user entry >>= editCounterpart limits change).Ensures around
      (fun outcome s' => ∃ foreignUser, outcome = .ok foreignUser ∧
        s'.store.record entry.id = some (issue.edited change) ∧
        Mirrors store user entry change s'.store foreignUser) s := by
  have hlists : s.store.lists = store.lists := by rw [hstore, Store.lists_rewrite_issue]
  have hlistsReadable (other : UserId) : s.store.ListsReadable other := by
    rw [hstore]
    exact (hreadable.lists other).rewrite_issue entry.id _
  have hrecordReadable (other : IssueId) : s.store.RecordReadable other := by
    rw [hstore]
    exact (hreadable.records other).rewrite_issue entry.id _
  have halone (hunrecorded : ∀ link half, store.Living user entry link half → store.record link.issue = none) :
      s.store.record entry.id = some (issue.edited change) ∧ Mirrors store user entry change s.store none := by
    refine ⟨by rw [hstore, Store.record_rewrite, if_pos rfl], .alone hunrecorded fun key hkey => ?_⟩
    rw [hstore, Store.find?_rewrite, if_neg hkey]
  refine ensures_bind (ensures_livingCounterpart_of_readable hlistsReadable (fun link half hhalf => ?_)
    fun hnone => ?_)
  · have hliving := (living_congr hlists).1 hhalf
    refine ensures_bind (ensures_editRecord (hrecordReadable link.issue) (fun hmissing => ?_)
      fun other hother => ?_)
    · -- the counterpart is listed, but has no record
      refine ⟨none, rfl, halone fun link' half' hhalf' => ?_⟩
      rw [hstore, Store.record_rewrite] at hmissing
      split at hmissing
      · cases hmissing
      · rwa [(hliving.unique hhalf').1]
    · exact ⟨some link.user, rfl, mirrors_rewrite hrecord hstore hliving hother⟩
  · exact ⟨none, rfl, halone fun link half hhalf => absurd ((living_congr hlists).2 hhalf) (hnone link half)⟩

end

theorem editEnds_edit (hreadable : s.store.Readable) :
    (edit limits user id change).Ensures around
      (fun outcome s' => EditEnds s.store user id change outcome s'.store) s := by
  refine ensures_bind (ensures_loadLists (hreadable.lists user) ?_)
  refine ensures_bind (ensures_ofExcept (fun place hplace => ?_) fun failure hfailed => ?_)
  · have hfound := require_eq_ok hplace
    obtain ⟨-, rfl⟩ := UserLists.find_eq_some hfound
    refine ensures_bind (ensures_editRecord (hreadable.records _) (fun hmissing => ?_) fun issue hrecord => ?_)
    · exact .refused (.inl hmissing) rfl
    · refine ensures_bind (ensures_ofExcept (fun message hmessage => ?_) fun _ hmissing => by cases hmissing)
      cases hmessage
      rw [andThen, ← bind_assoc]
      refine ensures_bind (ensures_mono (mirrors_editCounterpart hrecord hreadable rfl) ?_)
      rintro outcome s' ⟨foreignUser, rfl, hedited, hmirrors⟩
      exact .done hrecord hfound hedited hmirrors
  · cases hfind : (s.store.lists user).find id with
    | none =>
      rw [hfind] at hfailed
      cases hfailed
      exact .refused (.inr hfind) rfl
    | some place =>
      rw [hfind] at hfailed
      cases hfailed

/-- An edit writes records only. -/
theorem EditEnds.lists_eq {before after : Store} {outcome : Outcome OperationError Edited}
    (h : EditEnds before user id change outcome after) (other : UserId) :
    after.find? (UserLists.key other) = before.find? (UserLists.key other) := by
  cases h with
  | done _ _ _ hothers =>
    cases hothers with
    | mirrored _ _ _ hrest => exact hrest _ (UserLists.key_ne_key _ _) (UserLists.key_ne_key _ _)
    | alone _ hrest => exact hrest _ (UserLists.key_ne_key _ _)
  | refused _ hsame => rw [hsame]

theorem EditEnds.effect {before after : Store} {outcome : Outcome OperationError Edited} {issue : Issue}
    {place : Located} (hrecord : before.record id = some issue) (hfind : (before.lists user).find id = some place)
    (h : EditEnds before user id change outcome after) :
    ∃ foreignUser, outcome = .ok ⟨foreignUser, place.list, issue.message⟩ ∧
      Rewritten issue change (after.record id) ∧ Mirrors before user place.entry change after foreignUser := by
  cases h with
  | done hrecord' hfound hedited hothers =>
    cases hrecord.symm.trans hrecord'
    cases hfind.symm.trans hfound
    exact ⟨_, rfl, hedited, hothers⟩
  | refused hmissing =>
    rcases hmissing with hmissing | hmissing
    · cases hrecord.symm.trans hmissing
    · cases hfind.symm.trans hmissing

/-- The living counterpart is reported when it has a record. -/
theorem Mirrors.of_living {before after : Store} {entry : Entry} {link : Link} {half : Located} {other : Issue}
    {foreignUser : Option UserId} (hliving : before.Living user entry link half)
    (hrecord : before.record link.issue = some other) (h : Mirrors before user entry change after foreignUser) :
    foreignUser = some link.user ∧ Rewritten other change (after.record link.issue) := by
  cases h with
  | mirrored hliving' hrecord' hedited =>
    obtain ⟨rfl, -⟩ := hliving.unique hliving'
    cases hrecord.symm.trans hrecord'
    exact ⟨rfl, hedited⟩
  | alone hunrecorded => cases hrecord.symm.trans (hunrecorded _ _ hliving)

end Exchange

namespace Session

open Exchange

variable {session : Session}

theorem editEnds_run (hundisturbed : session.Undisturbed) (hreadable : session.world.store.Readable)
    (limits : Limits) (user : UserId) (id : IssueId) (change : Edit) :
    EditEnds session.world.store user id change (session.run (edit limits user id change)).1
      (session.run (edit limits user id change)).2.world.store :=
  run_of_ensures (fun outcome s' => EditEnds session.world.store user id change outcome s'.store) hundisturbed
    (editEnds_edit hreadable)

theorem edit_exact (hundisturbed : session.Undisturbed) (hreadable : session.world.store.Readable)
    (limits : Limits) (user : UserId) (id : IssueId) (change : Edit) :
    let edited := session.run (edit limits user id change)
    EditEnds session.world.store user id change edited.1 edited.2.world.store ∧
      (∀ other, edited.2.world.store.find? (UserLists.key other) =
        session.world.store.find? (UserLists.key other)) ∧
      ∀ message description, Edit.ofInput message description = .ok change →
        change.message = Text.trim message ∧
          change.description = if Text.isBlankText description then none else some description := by
  have hends := editEnds_run hundisturbed hreadable limits user id change
  exact ⟨hends, hends.lists_eq, fun _ _ => Edit.ofInput_eq_ok⟩

/-- Amy has sent ben a todo, and he corrects it. -/
theorem sentTodo_edited :
    ∃ store : Store, store.SentTodo ⟨"amy"⟩ ⟨"ben"⟩ (World.counted 0) (World.counted 1) ∧
      let edited := (resumed store 2 []).run (edit ⟨5, 5⟩ ⟨"ben"⟩ (World.counted 1) ⟨"bread", none⟩)
      (∃ message, edited.1 = .ok ⟨some ⟨"amy"⟩, .inbox, message⟩) ∧
        ∃ sent received, Rewritten sent ⟨"bread", none⟩ (edited.2.world.store.record (World.counted 0)) ∧
          Rewritten received ⟨"bread", none⟩ (edited.2.world.store.record (World.counted 1)) := by
  obtain ⟨store, hstore⟩ := exists_sentTodo_counted
  obtain ⟨entry, held, hid, hlink⟩ := hstore.inbox
  obtain ⟨half, hhalf⟩ := hstore.consistent.exists_counterpart held hlink
  obtain ⟨received, hreceived, -⟩ := hstore.consistent.exists_record held
  obtain ⟨sent, hsent, -⟩ := hstore.consistent.exists_record hhalf.held
  obtain ⟨place, hfind, hkind, rfl⟩ := (hstore.consistent.unique.orderly.distinct _).find_of_mem held
  rw [hid] at hreceived hfind
  rw [hhalf.same] at hsent
  obtain ⟨hends, -⟩ := @edit_exact (resumed store 2 []) rfl hstore.consistent.unique.orderly.readable ⟨5, 5⟩
    ⟨"ben"⟩ (World.counted 1) ⟨"bread", none⟩
  obtain ⟨foreignUser, hok, hedited, hmirrors⟩ := hends.effect hreceived hfind
  obtain ⟨rfl, hother⟩ := hmirrors.of_living hhalf.living hsent
  rw [hkind] at hok
  exact ⟨store, hstore, ⟨_, hok⟩, sent, received, hother, hedited⟩

/-- Amy and ben list the very same issue, sent and received. -/
def twins : Store :=
  Store.withLists
    (Store.withLists
      (Table.empty.insert (Issue.key (World.counted 0))
        (Issue.codec.encode ⟨World.counted 0, "milk", none, none, .epoch⟩))
      ⟨"amy"⟩ ⟨[], [], [.linked (World.counted 0) ⟨⟨"ben"⟩, World.counted 0⟩]⟩)
    ⟨"ben"⟩ ⟨[], [.linked (World.counted 0) ⟨⟨"amy"⟩, World.counted 0⟩], []⟩

theorem readable_twins : twins.Readable :=
  ((Store.readable_empty.insert_issue _ _).withLists _ _).withLists _ _

theorem lists_twins (user : UserId) :
    twins.lists user =
      if user = ⟨"ben"⟩ then ⟨[], [.linked (World.counted 0) ⟨⟨"amy"⟩, World.counted 0⟩], []⟩
      else if user = ⟨"amy"⟩ then ⟨[], [], [.linked (World.counted 0) ⟨⟨"ben"⟩, World.counted 0⟩]⟩
      else .empty := by
  rw [twins, Store.lists_withLists, Store.lists_withLists, Store.lists_insert_issue, Function.update_apply,
    Function.update_apply]
  rfl

theorem record_twins :
    twins.record (World.counted 0) = some ⟨World.counted 0, "milk", none, none, .epoch⟩ := by
  rw [twins, Store.record, Store.find?_withLists_issue, Store.find?_withLists_issue, Table.find?_insert,
    if_pos rfl, Option.bind_some, Issue.decode_encode]
  rfl

/-- The edited issue and the one it links to are the same, and yet there is a counterpart user to report. -/
theorem own_issue_mirrored :
    twins.Readable ∧
      ∃ place : Located, (twins.lists ⟨"amy"⟩).find (World.counted 0) = some place ∧
        place.entry.link = some ⟨⟨"ben"⟩, World.counted 0⟩ ∧
        ((resumed twins 1 []).run (edit ⟨5, 5⟩ ⟨"amy"⟩ (World.counted 0) ⟨"bread", none⟩)).1 =
          .ok ⟨some ⟨"ben"⟩, .out, "milk"⟩ := by
  have hplace : (twins.lists ⟨"amy"⟩).find (World.counted 0) =
      some ⟨.out, 0, .linked (World.counted 0) ⟨⟨"ben"⟩, World.counted 0⟩⟩ := by
    rw [lists_twins]
    decide
  have hhalf : twins.Living ⟨"amy"⟩ (.linked (World.counted 0) ⟨⟨"ben"⟩, World.counted 0⟩)
      ⟨⟨"ben"⟩, World.counted 0⟩ ⟨.inbox, 0, .linked (World.counted 0) ⟨⟨"amy"⟩, World.counted 0⟩⟩ := by
    refine ⟨rfl, ?_, rfl⟩
    rw [lists_twins]
    decide
  have hends := @editEnds_run (resumed twins 1 []) rfl readable_twins ⟨5, 5⟩ ⟨"amy"⟩ (World.counted 0)
    ⟨"bread", none⟩
  obtain ⟨foreignUser, hok, -, hmirrors⟩ := hends.effect record_twins hplace
  obtain ⟨rfl, -⟩ := hmirrors.of_living hhalf record_twins
  exact ⟨readable_twins, _, hplace, rfl, hok⟩

end Session

end SharedTodo
