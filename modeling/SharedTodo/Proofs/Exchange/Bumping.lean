import SharedTodo.Proofs.Exchange.Deletion

/-!
# When a bump raises a todo

A sent todo waits when its receiver has the counterpart among the received ones, linked back to it
(`Waiting`). Then a bump puts the counterpart before all other received todos of the receiver, and nothing else
in the store changes (`Raised`). It does not when the issue has no record, and where nothing waits it refuses.

Where no lists name an issue twice, the half that waits is the only entry of its issue. So whether it is found
does not depend on the order in which lists are searched, and a second bump finds it at the head.
-/

namespace SharedTodo

namespace UserLists

variable {lists : UserLists} {kind : ListKind} {entry : Entry}

/-- The lists with an entry at the head of its list. -/
def raise (lists : UserLists) (kind : ListKind) (entry : Entry) : UserLists :=
  lists.withList kind (entry :: (lists.list kind).eraseP (names entry.id))

theorem raise_raise (lists : UserLists) (kind : ListKind) (entry : Entry) :
    (lists.raise kind entry).raise kind entry = lists.raise kind entry := by
  rw [raise, raise, list_withList_self, withList_withList, List.eraseP_cons_of_pos (by simp [names])]

theorem list_raise_of_ne (lists : UserLists) {other : ListKind} (h : other ≠ kind) (entry : Entry) :
    (lists.raise kind entry).list other = lists.list other :=
  list_withList_of_ne lists _ h

theorem mem_raise (lists : UserLists) (kind : ListKind) (entry : Entry) :
    entry ∈ (lists.raise kind entry).list kind := by
  rw [raise, list_withList_self]
  exact List.mem_cons_self

theorem Distinct.moveToFront_of_mem (h : lists.Distinct) (held : entry ∈ lists.list kind) :
    lists.moveToFront kind entry.id = some (lists.raise kind entry) := by
  rw [moveToFront, h.removeFrom_of_mem held, Option.map_some]
  dsimp only
  rw [erase, list_withList_self, withList_withList, raise]

theorem Distinct.raise (h : lists.Distinct) (held : entry ∈ lists.list kind) :
    (lists.raise kind entry).Distinct :=
  (revision_moveToFront h (h.moveToFront_of_mem held)).distinct

/-- The other entries keep their order. -/
theorem Distinct.list_raise (h : lists.Distinct) {earlier later : List Entry}
    (hsplit : lists.list kind = earlier ++ entry :: later) :
    (lists.raise kind entry).list kind = entry :: (earlier ++ later) := by
  have hearlier : ∀ other ∈ earlier, ¬ names entry.id other := by
    intro other hother hid
    have hnodup := (distinct_iff.1 h).1 kind
    rw [hsplit, List.map_append, List.map_cons, List.nodup_append] at hnodup
    have hid : other.id = entry.id := by simpa [names] using hid
    exact hnodup.2.2 _ (List.mem_map_of_mem hother) _ List.mem_cons_self hid
  rw [UserLists.raise, list_withList_self, hsplit, List.eraseP_append_right _ hearlier,
    List.eraseP_cons_of_pos (by simp [names])]

end UserLists

/-- Raising an entry does not touch any list of another kind, whoever holds it. -/
theorem Store.list_raised_of_ne (store : Store) (receiver : UserId) {kind other : ListKind} (h : other ≠ kind)
    (entry : Entry) (user : UserId) :
    ((store.withLists receiver ((store.lists receiver).raise kind entry)).lists user).list other =
      (store.lists user).list other := by
  rw [lists_withLists]
  by_cases huser : user = receiver
  · rw [huser, Function.update_self, UserLists.list_raise_of_ne _ h]
  · rw [Function.update_of_ne huser]

/-- The user has sent the issue to where the link leads, and it waits there. -/
structure Store.Waiting (store : Store) (user : UserId) (id : IssueId) (link : Link) : Prop where
  sent : ∃ entry ∈ (store.lists user).list .out, entry.id = id ∧ entry.link = some link
  received : ∃ half ∈ (store.lists link.user).list .inbox, half.id = link.issue ∧ half.link = some ⟨user, id⟩

namespace Exchange

open Program

variable {around : Surroundings} {s : Scene} {limits : Limits} {user : UserId} {id : IssueId}

/-! ## The receiver's lists -/

section

variable {lists : UserLists} {sender : UserId} {sent received : IssueId} {half : Entry}

theorem bumpEntry_of_waiting (h : lists.Distinct) (held : half ∈ lists.list .inbox)
    (hback : half.link = some ⟨sender, sent⟩) :
    bumpEntry sender sent half.id lists = (lists.raise .inbox half, true) := by
  obtain ⟨⟨kind, position, entry⟩, hfind, rfl, rfl⟩ := h.find_of_mem held
  have hlinked : lists.findLinked entry.id sender sent = some ⟨.inbox, position, entry⟩ := by
    rw [UserLists.findLinked, hfind, Option.filter_some, if_pos (by simpa [Entry.linksTo] using hback)]
  simp only [bumpEntry, hlinked, h.moveToFront_of_mem held]

theorem bumpEntry_of_not_waiting
    (h : ∀ half ∈ lists.list .inbox, half.id = received → half.link ≠ some ⟨sender, sent⟩) :
    bumpEntry sender sent received lists = (lists, false) := by
  rw [bumpEntry]
  split
  · next position half hlinked =>
    obtain ⟨hfind, hback⟩ := Option.filter_eq_some_iff.1 hlinked
    obtain ⟨held, hid⟩ := UserLists.find_eq_some hfind
    exact absurd (by simpa [Entry.linksTo] using hback) (h half held hid)
  · rfl

end

/-! ## Whole bumps -/

/-- The half that waits has come to the head of its list, and nothing else has changed. -/
structure Raised (before : Store) (user : UserId) (id : IssueId) (link : Link) (after : Store) : Prop where
  inbox : ∃ earlier half later, half.id = link.issue ∧ half.link = some ⟨user, id⟩ ∧
    (before.lists link.user).list .inbox = earlier ++ half :: later ∧
    (after.lists link.user).list .inbox = half :: (earlier ++ later)
  others : ∀ kind, kind ≠ .inbox → (after.lists link.user).list kind = (before.lists link.user).list kind
  rest : ∀ key, key ≠ UserLists.key link.user → after.find? key = before.find? key

/-- How a bump ends. -/
inductive BumpEnds (before : Store) (user : UserId) (id : IssueId) :
    Outcome OperationError Bumped → Store → Prop where
  | raised {link : Link} {half : Entry} {issue : Issue}
      (sent : ∃ entry ∈ (before.lists user).list .out, entry.id = id ∧ entry.link = some link)
      (held : half ∈ (before.lists link.user).list .inbox) (same : half.id = link.issue)
      (back : half.link = some ⟨user, id⟩) (recorded : before.record id = some issue) :
      BumpEnds before user id (.ok ⟨issue.message, link.user, link.issue⟩)
        (before.withLists link.user ((before.lists link.user).raise .inbox half))
  | refused (listed : ∃ entry ∈ (before.lists user).list .out, entry.id = id)
      (unmatched : ∀ link, ¬ before.Waiting user id link) :
      BumpEnds before user id (.error (.rejected (.notBumpable id))) before
  | absent (missing : (∀ entry ∈ (before.lists user).list .out, entry.id ≠ id) ∨ before.record id = none) :
      BumpEnds before user id (.error (.absent (.issue id))) before

theorem bumpEnds_bump (hreadable : s.store.Readable) (hdistinct : ∀ user, (s.store.lists user).Distinct) :
    (bump limits user id).Ensures around
      (fun outcome s' => BumpEnds s.store user id outcome s'.store) s := by
  refine ensures_bind (ensures_loadLists (hreadable.lists user) ?_)
  refine ensures_bind (ensures_ofExcept (fun entry hentry => ?_) fun failure hfailed => ?_)
  · have hfind := require_eq_ok hentry
    have held := List.mem_of_find?_eq_some hfind
    have hid : entry.id = id := by simpa [UserLists.names] using List.find?_some hfind
    -- the entry is the only one of its issue, so it is the link of this one that decides
    have hlink_of (link : Link) (hwaits : s.store.Waiting user id link) : entry.link = some link := by
      obtain ⟨entry', held', hid', hlink'⟩ := hwaits.sent
      obtain ⟨-, rfl⟩ := (hdistinct user).eq held held' (hid.trans hid'.symm)
      exact hlink'
    rw [andThen]
    cases hlink : entry.link with
    | none =>
      exact .refused ⟨entry, held, hid⟩ fun link hwaits => by cases hlink.symm.trans (hlink_of link hwaits)
    | some link =>
      refine ensures_bind (ensures_requireIssue (hreadable.records id) (fun hmissing => .absent (.inr hmissing))
        fun issue hrecord => ?_)
      refine ensures_bind (ensures_updateLists (fun _ hfailed => by cases hfailed (hreadable.lists link.user)) ?_)
      intro revised moved _ hbumped
      have hbumped := Except.ok.inj hbumped
      by_cases hwaits : ∃ half ∈ (s.store.lists link.user).list .inbox,
          half.id = link.issue ∧ half.link = some ⟨user, id⟩
      · obtain ⟨half, hhalf, hsame, hback⟩ := hwaits
        rw [← hsame, bumpEntry_of_waiting (hdistinct link.user) hhalf hback] at hbumped
        cases hbumped
        exact .raised ⟨entry, held, hid, hlink⟩ hhalf hsame hback hrecord
      · have hnone : ∀ half ∈ (s.store.lists link.user).list .inbox,
            half.id = link.issue → half.link ≠ some ⟨user, id⟩ :=
          fun half hhalf hsame hback => hwaits ⟨half, hhalf, hsame, hback⟩
        rw [bumpEntry_of_not_waiting hnone] at hbumped
        cases hbumped
        rw [Store.withLists_self]
        refine .refused ⟨entry, held, hid⟩ fun link' hwaits' => hwaits ?_
        cases hlink.symm.trans (hlink_of link' hwaits')
        exact hwaits'.received
  · cases hfind : ((s.store.lists user).list .out).find? (UserLists.names id) with
    | none =>
      rw [hfind] at hfailed
      cases hfailed
      exact .absent (.inl fun entry hentry => by simpa [UserLists.names] using List.find?_eq_none.1 hfind entry hentry)
    | some entry =>
      rw [hfind] at hfailed
      cases hfailed

theorem BumpEnds.of_ok {before after : Store} {report : Bumped} (hdistinct : ∀ user, (before.lists user).Distinct)
    (h : BumpEnds before user id (.ok report) after) :
    ∃ link issue, before.Waiting user id link ∧ before.record id = some issue ∧
      report = ⟨issue.message, link.user, link.issue⟩ ∧ Raised before user id link after := by
  cases h with
  | @raised link half issue hsent held hsame hback hrecord =>
    obtain ⟨earlier, later, hsplit⟩ := List.append_of_mem held
    refine ⟨link, issue, ⟨hsent, half, held, hsame, hback⟩, hrecord, rfl, ?_⟩
    refine ⟨⟨earlier, half, later, hsame, hback, hsplit, ?_⟩, fun kind hkind => ?_, fun key hkey => ?_⟩
    · rw [Store.lists_withLists, Function.update_self, (hdistinct link.user).list_raise hsplit]
    · exact Store.list_raised_of_ne before link.user hkind half link.user
    · exact Store.find?_withLists_of_ne hkey _

/-- A half at the head is raised no further. -/
theorem BumpEnds.again {before after after' : Store} {report : Bumped} {outcome : Outcome OperationError Bumped}
    (hdistinct : ∀ user, (before.lists user).Distinct) (h : BumpEnds before user id (.ok report) after)
    (h' : BumpEnds after user id outcome after') : after' = after := by
  cases h' with
  | refused => rfl
  | absent => rfl
  | @raised link' half' issue' hsent' held' hsame' =>
    cases h with
    | @raised link half issue hsent held hsame =>
      have hlists : (before.withLists link.user ((before.lists link.user).raise .inbox half)).lists =
          Function.update before.lists link.user ((before.lists link.user).raise .inbox half) :=
        Store.lists_withLists _ _ _
      obtain rfl : link' = link := by
        obtain ⟨entry, hentry, hid, hlink⟩ := hsent
        obtain ⟨entry', hentry', hid', hlink'⟩ := hsent'
        -- the list of sent todos is the same, also when the sender bumps a todo of their own
        rw [Store.list_raised_of_ne _ _ (by decide)] at hentry'
        obtain ⟨-, rfl⟩ := (hdistinct user).eq hentry hentry' (hid.trans hid'.symm)
        exact Option.some.inj (hlink'.symm.trans hlink)
      rw [hlists, Function.update_self] at held' ⊢
      obtain ⟨-, rfl⟩ := ((hdistinct link'.user).raise held).eq held' (UserLists.mem_raise _ _ half)
        (hsame'.trans hsame.symm)
      rw [UserLists.raise_raise]
      have hself := Store.withLists_self (before.withLists link'.user ((before.lists link'.user).raise .inbox half'))
        link'.user
      rwa [hlists, Function.update_self] at hself

theorem BumpEnds.isOk_iff {before after : Store} {outcome : Outcome OperationError Bumped}
    (hdistinct : ∀ user, (before.lists user).Distinct) (h : BumpEnds before user id outcome after) :
    (∃ report, outcome = .ok report) ↔ ∃ link, before.Waiting user id link ∧ before.record id ≠ none := by
  constructor
  · rintro ⟨report, rfl⟩
    obtain ⟨link, issue, hwaits, hrecord, -⟩ := h.of_ok hdistinct
    exact ⟨link, hwaits, by simp [hrecord]⟩
  · rintro ⟨link, hwaits, hrecord⟩
    obtain ⟨entry, held, hid, -⟩ := hwaits.sent
    cases h with
    | raised => exact ⟨_, rfl⟩
    | refused _ hunmatched => exact absurd hwaits (hunmatched link)
    | absent hmissing => exact (hmissing.elim (fun hnone => hnone entry held hid) hrecord).elim

theorem BumpEnds.eq_of_not_waiting {before after : Store} {outcome : Outcome OperationError Bumped}
    (h : BumpEnds before user id outcome after) (hlisted : ∃ entry ∈ (before.lists user).list .out, entry.id = id)
    (hrecord : before.record id ≠ none) (hnone : ∀ link, ¬ before.Waiting user id link) :
    outcome = .error (.rejected (.notBumpable id)) ∧ after = before := by
  cases h with
  | raised hsent held hsame hback => exact absurd ⟨hsent, _, held, hsame, hback⟩ (hnone _)
  | refused => exact ⟨rfl, rfl⟩
  | absent hmissing =>
    obtain ⟨entry, held, hid⟩ := hlisted
    exact (hmissing.elim (fun hnot => hnot entry held hid) hrecord).elim

/-- A bump leaves lists and records in the state that it asks for. -/
theorem BumpEnds.readable_distinct {before after : Store} {outcome : Outcome OperationError Bumped}
    (hreadable : before.Readable) (hdistinct : ∀ user, (before.lists user).Distinct)
    (h : BumpEnds before user id outcome after) : after.Readable ∧ ∀ user, (after.lists user).Distinct := by
  cases h with
  | @raised link half _ _ held =>
    refine ⟨hreadable.withLists _ _, fun other => ?_⟩
    rw [Store.lists_withLists]
    by_cases hother : other = link.user
    · rw [hother, Function.update_self]
      exact (hdistinct link.user).raise held
    · rw [Function.update_of_ne hother]
      exact hdistinct other
  | refused => exact ⟨hreadable, hdistinct⟩
  | absent => exact ⟨hreadable, hdistinct⟩

end Exchange

namespace Session

open Exchange

variable {session : Session}

theorem bumpEnds_run (hundisturbed : session.Undisturbed) (hreadable : session.world.store.Readable)
    (hdistinct : ∀ user, (session.world.store.lists user).Distinct) (limits : Limits) (user : UserId)
    (id : IssueId) :
    BumpEnds session.world.store user id (session.run (bump limits user id)).1
      (session.run (bump limits user id)).2.world.store :=
  run_of_ensures (fun outcome s' => BumpEnds session.world.store user id outcome s'.store) hundisturbed
    (bumpEnds_bump hreadable hdistinct)

theorem bump_exact (hundisturbed : session.Undisturbed) (hreadable : session.world.store.Readable)
    (hdistinct : ∀ user, (session.world.store.lists user).Distinct) (limits : Limits) (user : UserId)
    (id : IssueId) :
    let store := session.world.store
    let bumped := session.run (bump limits user id)
    ((∃ report, bumped.1 = .ok report) ↔ ∃ link, store.Waiting user id link ∧ store.record id ≠ none) ∧
      (∀ report, bumped.1 = .ok report →
        (∃ link issue, store.Waiting user id link ∧ store.record id = some issue ∧
          report = ⟨issue.message, link.user, link.issue⟩ ∧ Raised store user id link bumped.2.world.store) ∧
        ∀ limits, (bumped.2.run (bump limits user id)).2.world.store = bumped.2.world.store) ∧
      ((∃ entry ∈ (store.lists user).list .out, entry.id = id) → store.record id ≠ none →
        (∀ link, ¬ store.Waiting user id link) →
          bumped.1 = .error (.rejected (.notBumpable id)) ∧ bumped.2.world.store = store) := by
  intro store bumped
  have hends := bumpEnds_run hundisturbed hreadable hdistinct limits user id
  refine ⟨hends.isOk_iff hdistinct, fun report hok => ?_, hends.eq_of_not_waiting⟩
  obtain ⟨hreadable', hdistinct'⟩ := hends.readable_distinct hreadable hdistinct
  have hundisturbed' := (goesOn_run hundisturbed (bump limits user id)).1
  rw [hok] at hends
  refine ⟨hends.of_ok hdistinct, fun limits' => ?_⟩
  exact hends.again hdistinct (bumpEnds_run hundisturbed' hreadable' hdistinct' limits' user id)

/-- Amy has sent ben a todo, and bumps it. -/
theorem sentTodo_bumped :
    ∃ store : Store, store.SentTodo ⟨"amy"⟩ ⟨"ben"⟩ (World.counted 0) (World.counted 1) ∧
      let bumped := (resumed store 2 []).run (bump ⟨5, 5⟩ ⟨"amy"⟩ (World.counted 0))
      ∃ message, bumped.1 = .ok ⟨message, ⟨"ben"⟩, World.counted 1⟩ ∧
        Raised store ⟨"amy"⟩ (World.counted 0) ⟨⟨"ben"⟩, World.counted 1⟩ bumped.2.world.store := by
  obtain ⟨store, hstore⟩ := exists_sentTodo_counted
  obtain ⟨entry, held, hid, hlink⟩ := hstore.out
  obtain ⟨issue, hrecord, -⟩ := hstore.consistent.exists_record held
  rw [hid] at hrecord
  have horderly := hstore.consistent.unique.orderly
  obtain ⟨hiff, hbumped, -⟩ := @bump_exact (resumed store 2 []) rfl horderly.readable horderly.distinct ⟨5, 5⟩
    ⟨"amy"⟩ (World.counted 0)
  have hwaits : store.Waiting ⟨"amy"⟩ (World.counted 0) ⟨⟨"ben"⟩, World.counted 1⟩ := ⟨hstore.out, hstore.inbox⟩
  obtain ⟨report, hok⟩ := hiff.2 ⟨_, hwaits, Option.ne_none_iff_exists'.2 ⟨issue, hrecord⟩⟩
  obtain ⟨⟨link, issue', hwaits', -, rfl, hraised⟩, -⟩ := hbumped report hok
  -- the todo is linked to one issue only
  obtain ⟨entry', held', hid', hlink'⟩ := hwaits'.sent
  obtain ⟨-, rfl⟩ := (horderly.distinct ⟨"amy"⟩).eq held held' (hid.trans hid'.symm)
  cases hlink.symm.trans hlink'
  exact ⟨store, hstore, _, hok, hraised⟩

end Session

end SharedTodo
