import Mathlib.Data.List.TakeWhile
import SharedTodo.Proofs.Exchange.Bystanders

/-!
# Removing the first todo is completing it

The removal of the first todo drops the entries without a record from the head of the own list, and nothing
else: the store that it then works on is `Store.cleared`, which differs from the one before in one document.
When no entry is left, the list is empty, and that is the answer. Otherwise the head has a record, and the
removal does to it what completing it would do (`Session.popped_as_completed`).

The two differ in one thing. Completing deletes the record under the identifier of the entry, the removal the
one under the identifier in the record. Records are stored under their own identifiers, so that is the same; but
a record that is stored under another one stays, and the record that it names goes
(`Session.misfiled_popped_otherwise`).
-/

namespace SharedTodo

namespace Table

variable {κ ν : Type} [DecidableEq κ]

theorem put_put (key : κ) (value value' : ν) (entries : List (κ × ν)) :
    put key value' (put key value entries) = put key value' entries := by
  induction entries with
  | nil => simp [put]
  | cons e rest ih =>
    obtain ⟨k, v⟩ := e
    by_cases hk : k = key
    · simp [put, hk]
    · simp [put, hk, ih]

theorem filter_put (key : κ) (value : ν) (entries : List (κ × ν)) :
    (put key value entries).filter (fun e => e.1 ≠ key) = entries.filter fun e => e.1 ≠ key := by
  induction entries with
  | nil => simp [put]
  | cons e rest ih =>
    obtain ⟨k, v⟩ := e
    by_cases hk : k = key
    · simp [put, hk]
    · rw [put, if_neg hk, List.filter_cons_of_pos (by simpa using hk), ih,
        List.filter_cons_of_pos (by simpa using hk)]

/-- The later of two writes counts. -/
theorem assign_insert (t : Table κ ν) (key : κ) (value : ν) (new : Option ν) :
    (t.insert key value).assign key new = t.assign key new := by
  cases new with
  | some value' =>
    rw [assign, assign, insert, insert, insert, mk.injEq]
    exact put_put ..
  | none =>
    rw [assign, assign, erase, erase, mk.injEq]
    exact filter_put ..

end Table

/-! ## Entries without a record -/

namespace Store

open Exchange

variable {store : Store} {user : UserId} {lists lists' : UserLists} {entry : Entry} {rest : List Entry}
  {issue : Issue}

/-- The store without the entries that stand before the first one with a record in a user's own list. -/
def cleared (store : Store) (user : UserId) : Store :=
  store.withLists user ((store.lists user).withList .my
    ((store.lists user).my.dropWhile fun entry => (store.record entry.id).isNone))

theorem find?_cleared_of_ne {key : String} (h : key ≠ UserLists.key user) :
    (store.cleared user).find? key = store.find? key :=
  find?_withLists_of_ne h _

theorem record_cleared (store : Store) (user : UserId) (id : IssueId) :
    (store.cleared user).record id = store.record id :=
  record_eq (store.find?_withLists_issue user _ id)

theorem lists_cleared (store : Store) (user : UserId) :
    (store.cleared user).lists user = (store.lists user).withList .my
      ((store.lists user).my.dropWhile fun entry => (store.record entry.id).isNone) := by
  rw [cleared, lists_withLists, Function.update_self]

theorem Readable.cleared (h : store.Readable) (user : UserId) : (store.cleared user).Readable :=
  h.withLists user _

theorem cleared_of_nil (hmy : (store.lists user).my = []) : store.cleared user = store := by
  rw [cleared, hmy, List.dropWhile_nil, ← hmy]
  exact (congrArg _ (UserLists.withList_list _ .my)).trans (store.withLists_self user)

theorem cleared_of_record (hmy : (store.lists user).my = entry :: rest)
    (hrecord : store.record entry.id = some issue) : store.cleared user = store := by
  rw [cleared, hmy, List.dropWhile_cons_of_neg (by simp [hrecord]), ← hmy]
  exact (congrArg _ (UserLists.withList_list _ .my)).trans (store.withLists_self user)

/-- The last of the writes of some lists is the one that counts, unless it brings back a document. -/
theorem withLists_withLists (hempty : lists.isEmpty = true → lists'.isEmpty = true)
    (hne : lists' ≠ store.lists user) :
    (store.withLists user lists).withLists user lists' = store.withLists user lists' := by
  by_cases hsame : lists = store.lists user
  · rw [hsame, withLists_self]
  · have hlists : (store.withLists user lists).lists user = lists := by
      rw [lists_withLists, Function.update_self]
    by_cases hlast : lists' = lists
    · subst hlast
      exact if_pos hlists.symm
    · have hfull : lists.isEmpty = false := by
        rw [← Bool.not_eq_true]
        intro h
        exact hlast ((UserLists.isEmpty_iff.1 (hempty h)).trans (UserLists.isEmpty_iff.1 h).symm)
      rw [withLists, hlists, if_neg hlast, withLists, if_neg hsame, withLists, if_neg hne]
      rw [show documentOfLists lists = some (UserLists.codec.encode lists) from if_neg (by simp [hfull])]
      exact Table.assign_insert ..

/-- A head without a record makes no difference. -/
theorem cleared_withLists (hmy : (store.lists user).my = entry :: rest) (hrecord : store.record entry.id = none) :
    (store.withLists user ((store.lists user).withList .my rest)).cleared user = store.cleared user := by
  have hrecords (id : IssueId) :
      (store.withLists user ((store.lists user).withList .my rest)).record id = store.record id :=
    record_eq (store.find?_withLists_issue user _ id)
  simp only [cleared, lists_withLists, Function.update_self, hrecords]
  rw [hmy, List.dropWhile_cons_of_pos (by simp [hrecord])]
  refine withLists_withLists (fun hempty => ?_) fun hsame => ?_
  · obtain rfl : rest = [] := congrArg UserLists.my (UserLists.isEmpty_iff.1 hempty)
    exact hempty
  · have hle := (List.dropWhile_suffix fun entry => (store.record entry.id).isNone : _ <:+ rest).length_le
    have hlength := congrArg (fun lists => lists.my.length) hsame
    simp only [UserLists.withList, hmy, List.length_cons] at hlength
    omega

/-- The user who is reported, and the store, when an owner's entry is given up. -/
def dissolved (store : Store) (owner : UserId) (entry : Entry) : Option UserId × Store :=
  match entry.link with
  | none => (none, store)
  | some link =>
    match takeCounterpart owner entry.id link.issue (store.lists link.user) with
    | (lists, .removed) =>
      (some link.user, Table.erase (store.withLists link.user lists) (Issue.key link.issue))
    | (lists, .missing) => (none, Table.erase (store.withLists link.user lists) (Issue.key link.issue))
    | (lists, .stale) => (none, store.withLists link.user lists)

/-- The same when the entry is the head of the owner's own list, and has been taken out of it. -/
def headDissolved (store : Store) (owner : UserId) (head : Entry) (rest : List Entry) : Option UserId × Store :=
  (store.withLists owner ((store.lists owner).withList .my rest)).dissolved owner head

theorem headDissolved_of_unlinked {owner : UserId} {head : Entry} (h : head.link = none) :
    store.headDissolved owner head rest =
      (none, store.withLists owner ((store.lists owner).withList .my rest)) := by
  rw [headDissolved, dissolved, h]

end Store

namespace Exchange

open Program

variable {around : Surroundings} {s : Scene} {limits : Limits} {user : UserId} {entry : Entry}
  {rest : List Entry} {issue : Issue}

theorem ensures_dissolved (h : ∀ link, entry.link = some link → s.store.ListsReadable link.user) :
    (dissolve limits user entry).Ensures around (fun outcome s' =>
      outcome = .ok (s.store.dissolved user entry).1 ∧ s'.store = (s.store.dissolved user entry).2) s := by
  rw [dissolve, Store.dissolved]
  cases hlink : entry.link with
  | none => exact ⟨rfl, rfl⟩
  | some link =>
    refine ensures_bind (ensures_updateLists (fun failure hfailed => by cases hfailed (h link hlink))
      fun revised half _ htaken => ?_)
    dsimp only
    rw [Except.ok.inj htaken, andThen]
    cases half with
    | removed => exact ensures_bind (ensures_deleteIssue ⟨rfl, rfl⟩)
    | missing => exact ensures_bind (ensures_deleteIssue ⟨rfl, rfl⟩)
    | stale => exact ⟨rfl, rfl⟩

/-- How the removal of the first todo ends, in terms of the store without the entries that it drops. -/
inductive Pops (cleared : Store) (user : UserId) : Outcome OperationError Popped → Store → Prop where
  | empty (my : (cleared.lists user).my = []) : Pops cleared user (.error (.absent .emptyList)) cleared
  | head {head : Entry} {rest : List Entry} {issue : Issue} (my : (cleared.lists user).my = head :: rest)
      (record : cleared.record head.id = some issue) :
    Pops cleared user (.ok ⟨issue, (cleared.headDissolved user head rest).1⟩)
      (Table.erase (cleared.headDissolved user head rest).2 (Issue.key issue.id))

theorem Pops.of_nil {cleared store : Store} {outcome : Outcome OperationError Popped}
    (h : Pops cleared user outcome store) (hmy : (cleared.lists user).my = []) :
    outcome = .error (.absent .emptyList) ∧ store = cleared := by
  cases h with
  | empty my => exact ⟨rfl, rfl⟩
  | head my record => exact nomatch my.symm.trans hmy

theorem Pops.of_cons {cleared store : Store} {outcome : Outcome OperationError Popped}
    (h : Pops cleared user outcome store) (hmy : (cleared.lists user).my = entry :: rest)
    (hrecord : cleared.record entry.id = some issue) :
    outcome = .ok ⟨issue, (cleared.headDissolved user entry rest).1⟩ ∧
      store = Table.erase (cleared.headDissolved user entry rest).2 (Issue.key issue.id) := by
  cases h with
  | empty my => exact nomatch my.symm.trans hmy
  | head my record =>
    cases my.symm.trans hmy
    cases record.symm.trans hrecord
    exact ⟨rfl, rfl⟩

theorem ensures_popWithin (rounds : Nat) (hreadable : s.store.Readable)
    (hrounds : (s.store.lists user).my.length < rounds) :
    (popWithin limits user rounds).Ensures around
      (fun outcome s' => Pops (s.store.cleared user) user outcome s'.store) s := by
  induction rounds generalizing s with
  | zero => exact absurd hrounds (Nat.not_lt_zero _)
  | succ rounds ih =>
    rw [popWithin]
    refine ensures_bind (ensures_updateLists (fun failure hfailed => ?_) fun revised head _ htaken => ?_)
    · obtain ⟨rfl, hmy⟩ := takeHead_eq_error (hfailed (hreadable.lists user))
      show Pops (s.store.cleared user) user _ s.store
      rw [Store.cleared_of_nil hmy]
      exact .empty hmy
    · obtain ⟨hmy, hrevised⟩ := my_of_takeHead htaken
      have hreadable' := hreadable.withLists user revised
      have hrecord' := Store.record_eq (s.store.find?_withLists_issue user revised head.id)
      refine ensures_bind (ensures_loadIssue (hreadable'.records head.id) ?_)
      rw [Scene.withStore_store, hrecord', andThen]
      cases hrecord : s.store.record head.id with
      | none =>
        rw [← Store.cleared_withLists hmy hrecord, ← hrevised]
        refine ih (s := s.withStore (s.store.withLists user revised)) hreadable' ?_
        rw [Scene.withStore_store, Store.lists_withLists, Function.update_self]
        rw [hmy, List.length_cons] at hrounds
        omega
      | some issue =>
        rw [Store.cleared_of_record hmy hrecord]
        refine ensures_bind (ensures_mono (ensures_dissolved fun link _ => hreadable'.lists link.user) ?_)
        rintro outcome s' ⟨rfl, hstore⟩
        refine ensures_bind (ensures_deleteIssue ?_)
        show Pops s.store user _ (s'.store.erase (Issue.key issue.id))
        rw [hstore]
        rw [hrevised]
        exact .head hmy hrecord

/-- The entry of an issue that heads the own list is found there, before all others that name the issue. -/
theorem takeEntry_head {lists : UserLists} (hmy : lists.my = entry :: rest) :
    takeEntry entry.id lists = .ok (lists.withList .my rest, ⟨.my, 0, entry⟩) := by
  have hfindIn : lists.findIn .my entry.id = some ⟨.my, 0, entry⟩ := by
    simp [UserLists.findIn, UserLists.position, UserLists.list, UserLists.names, hmy, List.findIdx?_cons]
  have hfind : lists.find entry.id = some ⟨.my, 0, entry⟩ := by
    rw [UserLists.find, ListKind.all, List.findSome?_cons, hfindIn]
  have herase : lists.erase .my entry.id = lists.withList .my rest := by
    simp [UserLists.erase, UserLists.list, UserLists.names, hmy]
  rw [takeEntry, UserLists.remove, hfind, Option.map_some, herase]
  rfl

theorem ensures_complete_head (hreadable : s.store.Readable) (hmy : (s.store.lists user).my = entry :: rest)
    (hrecord : s.store.record entry.id = some issue) :
    (complete limits user entry.id).Ensures around (fun outcome s' =>
      outcome = .ok ⟨issue, (s.store.headDissolved user entry rest).1, .my⟩ ∧
        s'.store = Table.erase (s.store.headDissolved user entry rest).2 (Issue.key entry.id)) s := by
  refine ensures_bind (ensures_requireIssue (hreadable.records entry.id) (fun hnone => ?_) fun found hfound => ?_)
  · exact absurd (hrecord.symm.trans hnone) nofun
  · cases hrecord.symm.trans hfound
    refine ensures_bind (ensures_updateLists (fun failure hfailed => ?_) fun revised located _ htaken => ?_)
    · exact nomatch (takeEntry_head hmy).symm.trans (hfailed (hreadable.lists user))
    · cases (takeEntry_head hmy).symm.trans htaken
      refine ensures_bind (ensures_mono
        (ensures_dissolved fun link _ => (hreadable.withLists user _).lists link.user) ?_)
      rintro outcome s' ⟨rfl, hstore⟩
      refine ensures_bind (ensures_deleteIssue ⟨rfl, ?_⟩)
      rw [Scene.withStore_store, hstore]
      rfl

end Exchange

/-! ## Sessions -/

namespace Session

open Exchange

variable {session : Session} {limits : Limits} {user : UserId} {entry : Entry} {issue : Issue}

/-- The same session over another store. -/
def onStore (session : Session) (store : Store) : Session :=
  { session with world := { session.world with store } }

theorem pops_run (h : session.Undisturbed) (hreadable : session.world.store.Readable)
    (hrounds : roundsFor session.world.store user ≤ limits.rounds) :
    Pops (session.world.store.cleared user) user (session.run (pop limits user)).1
      (session.run (pop limits user)).2.world.store := by
  refine run_of_ensures (fun outcome s' => Pops (session.scene.store.cleared user) user outcome s'.store) h
    (ensures_popWithin limits.rounds hreadable ?_)
  rw [roundsFor, hreadable.lists user] at hrounds
  exact hrounds

theorem run_complete_head (h : session.Undisturbed) (hreadable : session.world.store.Readable)
    {rest : List Entry} (hmy : (session.world.store.lists user).my = entry :: rest)
    (hrecord : session.world.store.record entry.id = some issue) :
    (session.run (complete limits user entry.id)).1 =
        .ok ⟨issue, (session.world.store.headDissolved user entry rest).1, .my⟩ ∧
      (session.run (complete limits user entry.id)).2.world.store =
        Table.erase (session.world.store.headDissolved user entry rest).2 (Issue.key entry.id) :=
  run_of_ensures (fun outcome s' =>
    outcome = .ok (⟨issue, (session.world.store.headDissolved user entry rest).1, .my⟩ : Completed) ∧
      s'.store = Table.erase (session.world.store.headDissolved user entry rest).2 (Issue.key entry.id)) h
    (ensures_complete_head (s := session.scene) hreadable hmy hrecord)

/-- The removal of the first todo ends. When no entry has a record, the list is emptied, and that is all.
Otherwise the entries before the first one that has are dropped, which changes no other document, and that one is
completed, up to the record that is deleted: it is the one that the record itself names. -/
theorem popped_as_completed (h : session.Undisturbed) (hreadable : session.world.store.Readable)
    (hrounds : roundsFor session.world.store user ≤ limits.rounds) :
    let store := session.world.store
    let popped := session.run (pop limits user)
    (∀ key, key ≠ UserLists.key user → (store.cleared user).find? key = store.find? key) ∧
      ((∀ entry ∈ (store.lists user).my, store.record entry.id = none) →
        popped.1 = .error (.absent .emptyList) ∧ popped.2.world.store = store.cleared user ∧
          (store.cleared user).lists user = (store.lists user).withList .my []) ∧
      ∀ dropped head rest issue, (store.lists user).my = dropped ++ head :: rest →
        (∀ entry ∈ dropped, store.record entry.id = none) → store.record head.id = some issue →
          let completed := (session.onStore (store.cleared user)).run (complete limits user head.id)
          (store.cleared user).lists user = (store.lists user).withList .my (head :: rest) ∧
            ∃ foreignUser, popped.1 = .ok ⟨issue, foreignUser⟩ ∧ completed.1 = .ok ⟨issue, foreignUser, .my⟩ ∧
              (∃ left : Store, popped.2.world.store = left.erase (Issue.key issue.id) ∧
                completed.2.world.store = left.erase (Issue.key head.id)) ∧
              (issue.id = head.id → popped.2.world.store = completed.2.world.store) := by
  intro store popped
  have hpops : Pops (store.cleared user) user popped.1 popped.2.world.store := pops_run h hreadable hrounds
  refine ⟨fun key hkey => Store.find?_cleared_of_ne hkey, fun hnone => ?_, fun dropped head rest issue hmy
    hdropped hrecord => ?_⟩
  · have hnil : (store.lists user).my.dropWhile (fun entry => (store.record entry.id).isNone) = [] :=
      List.dropWhile_eq_nil_iff.2 fun entry hentry => by rw [hnone entry hentry]; rfl
    have hcleared : (store.cleared user).lists user = (store.lists user).withList .my [] := by
      rw [Store.lists_cleared, hnil]
    obtain ⟨houtcome, hstore⟩ := hpops.of_nil (congrArg UserLists.my hcleared)
    exact ⟨houtcome, hstore, hcleared⟩
  · have hhead : (store.lists user).my.dropWhile (fun entry => (store.record entry.id).isNone) =
        head :: rest := by
      rw [hmy, List.dropWhile_append_of_pos (by simpa using hdropped),
        List.dropWhile_cons_of_neg (by simp [hrecord])]
    have hcleared : (store.cleared user).lists user = (store.lists user).withList .my (head :: rest) := by
      rw [Store.lists_cleared, hhead]
    have hmy' : ((store.cleared user).lists user).my = head :: rest := congrArg UserLists.my hcleared
    have hrecord' := (store.record_cleared user head.id).trans hrecord
    obtain ⟨hpopped, hpopped'⟩ := hpops.of_cons hmy' hrecord'
    obtain ⟨hcompleted, hcompleted'⟩ := @run_complete_head (session.onStore (store.cleared user)) limits user
      head issue h (hreadable.cleared user) rest hmy' hrecord'
    refine ⟨hcleared, _, hpopped, hcompleted, ⟨_, hpopped', hcompleted'⟩, fun hsame => ?_⟩
    rw [hpopped', hcompleted', hsame]
    rfl

/-- Amy has an entry without a record in front of one that has one. -/
def haunted : Store :=
  Store.withLists
    (Table.empty.insert (Issue.key (World.counted 1))
      (Issue.codec.encode ⟨World.counted 1, "bread", none, none, .epoch⟩))
    ⟨"amy"⟩ ⟨[.unlinked (World.counted 0), .unlinked (World.counted 1)], [], []⟩

/-- She gets the second one, and all that is left is what completing it would leave. -/
theorem bread_popped :
    let session := resumed haunted 2 []
    let head : Entry := .unlinked (World.counted 1)
    let popped := session.run (pop ⟨5, 5⟩ ⟨"amy"⟩)
    let completed := (session.onStore (session.world.store.cleared ⟨"amy"⟩)).run (complete ⟨5, 5⟩ ⟨"amy"⟩ head.id)
    haunted.Readable ∧ roundsFor haunted ⟨"amy"⟩ ≤ 5 ∧
      (∃ foreignUser,
        popped.1 = .ok ⟨⟨World.counted 1, "bread", none, none, .epoch⟩, foreignUser⟩) ∧
      popped.2.world.store = completed.2.world.store := by
  have hreadable : haunted.Readable := (Store.readable_empty.insert_issue _ _).withLists _ _
  have hlists : haunted.lists ⟨"amy"⟩ = ⟨[.unlinked (World.counted 0), .unlinked (World.counted 1)], [], []⟩ := by
    rw [haunted, Store.lists_withLists, Function.update_self]
  have hrounds : roundsFor haunted ⟨"amy"⟩ ≤ 5 := by
    rw [roundsFor, hreadable.lists, hlists]
    decide
  have hghost : haunted.record (World.counted 0) = none := by
    have hkey : Issue.key (World.counted 0) ≠ Issue.key (World.counted 1) :=
      fun hsame => absurd (Issue.key_injective hsame) (by decide)
    refine Store.record_of_find?_eq_none ?_
    rw [haunted, Store.find?_withLists_issue, Table.find?_insert, if_neg hkey, Table.find?_empty]
  have hrecord : haunted.record (World.counted 1) = some ⟨World.counted 1, "bread", none, none, .epoch⟩ := by
    rw [haunted, Store.record, Store.find?_withLists_issue, Table.find?_insert, if_pos rfl, Option.bind_some,
      Issue.decode_encode]
    rfl
  have hdropped : ∀ entry ∈ [Entry.unlinked (World.counted 0)], haunted.record entry.id = none := by
    intro entry hentry
    obtain rfl := List.mem_singleton.1 hentry
    exact hghost
  obtain ⟨-, -, hhead⟩ := @popped_as_completed (resumed haunted 2 []) ⟨5, 5⟩ ⟨"amy"⟩ rfl hreadable hrounds
  obtain ⟨-, foreignUser, hpopped, -, -, hsame⟩ := hhead [.unlinked (World.counted 0)]
    (.unlinked (World.counted 1)) [] _ (congrArg UserLists.my hlists)
    hdropped hrecord
  have hid : (⟨World.counted 1, "bread", none, none, .epoch⟩ : Issue).id = (Entry.unlinked (World.counted 1)).id :=
    rfl
  exact ⟨hreadable, hrounds, ⟨foreignUser, hpopped⟩, hsame hid⟩

theorem outward_neighbours (named : IssueId) : (neighbours named).Outward := by
  intro user kind entry link hentry hlink
  have hunlinked : entry.link = none := by
    have hmem := UserLists.mem_entries.2 ⟨kind, hentry⟩
    rw [lists_neighbours] at hmem
    split at hmem
    · exact List.mem_singleton.1 hmem ▸ rfl
    · split at hmem
      · exact List.mem_singleton.1 hmem ▸ rfl
      · exact nomatch hmem
  exact nomatch hunlinked.symm.trans hlink

/-- The record of amy's todo names that of ben. Completing her todo would leave ben's record, and its removal
does not. -/
theorem misfiled_popped_otherwise :
    let session := resumed (neighbours (World.counted 1)) 2 []
    let store := session.world.store
    let completed := (session.onStore (store.cleared ⟨"amy"⟩)).run (complete ⟨5, 5⟩ ⟨"amy"⟩ (World.counted 0))
    store.Readable ∧ store.Outward ∧ (store.lists ⟨"amy"⟩).my = [.unlinked (World.counted 0)] ∧
      store.record (World.counted 0) = some ⟨World.counted 1, "milk", none, none, .epoch⟩ ∧
        (session.run (pop ⟨5, 5⟩ ⟨"amy"⟩)).2.world.store ≠ completed.2.world.store := by
  intro session store completed
  have hreadable : store.Readable := readable_neighbours (World.counted 1)
  have hmy : (store.lists ⟨"amy"⟩).my = [.unlinked (World.counted 0)] := my_neighbours (World.counted 1)
  have hrecord : store.record (World.counted 0) = some ⟨World.counted 1, "milk", none, none, .epoch⟩ :=
    record_neighbours (World.counted 1)
  have hrounds : roundsFor store ⟨"amy"⟩ ≤ 5 := by
    rw [roundsFor, hreadable.lists]
    dsimp only
    rw [hmy]
    decide
  have hcleared : store.cleared ⟨"amy"⟩ = store := Store.cleared_of_record hmy hrecord
  have hpops : Pops (store.cleared ⟨"amy"⟩) ⟨"amy"⟩ _ _ :=
    @pops_run session ⟨5, 5⟩ ⟨"amy"⟩ rfl hreadable hrounds
  rw [hcleared] at hpops
  obtain ⟨-, hpopped⟩ := hpops.of_cons hmy hrecord
  obtain ⟨-, hcompleted⟩ := @run_complete_head (session.onStore store) ⟨5, 5⟩ ⟨"amy"⟩ _ _ rfl hreadable _ hmy hrecord
  have hcompleted' : ((session.onStore store).run (complete ⟨5, 5⟩ ⟨"amy"⟩ (World.counted 0))).2.world.store =
      Table.erase (store.headDissolved ⟨"amy"⟩ (.unlinked (World.counted 0)) []).2 (Issue.key (World.counted 0)) :=
    hcompleted
  have hkey : Issue.key (World.counted 1) ≠ Issue.key (World.counted 0) :=
    fun hsame => absurd (Issue.key_injective hsame) (by decide)
  refine ⟨hreadable, outward_neighbours _, hmy, hrecord, fun hsame => ?_⟩
  have hkept := congrArg (fun after : Store => after.find? (Issue.key (World.counted 1))) hsame
  simp only [completed, hcleared] at hkept
  rw [hpopped, hcompleted', Store.find?_erase_self, Store.find?_erase_of_ne hkey,
    Store.headDissolved_of_unlinked rfl] at hkept
  exact neighbour_recorded (World.counted 1) (hkept.trans (Store.find?_withLists_issue ..)).symm

end Session

end SharedTodo
