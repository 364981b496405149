import SharedTodo.Exchange.Change
import SharedTodo.Exchange.Create
import SharedTodo.Exchange.Finish
import SharedTodo.Exchange.Reassign
import SharedTodo.Proofs.Exchange.Access
import SharedTodo.Proofs.Exchange.Consistency
import SharedTodo.Proofs.Lists.ListSet

/-!
# Effects of operations on consistent stores

What users see of the store is the contents of their lists: the entries in order, each with the document of its
record. The lists that an operation touches are those whose contents it may change. A change of a user's
lists touches the lists in which it makes a difference, and a record that nobody lists touches none.

In a consistent store the counterpart of a linked entry is there and links back, so that giving up the entry
takes the counterpart as well. The rules for whole operations say which lists these are, in terms of what the
operation reports.
-/

namespace SharedTodo

namespace Store

variable {store store' store'' : Store} {user other : UserId} {kind : ListKind} {id : IssueId}
  {lists : UserLists} {touched touched' : ListSet}

/-! ## Touched lists -/

/-- The entries of a list with the documents of their records. -/
def contents (store : Store) (user : UserId) (kind : ListKind) : List (Entry × Option String) :=
  ((store.lists user).list kind).map fun entry => (entry, store.find? (Issue.key entry.id))

/-- The contents of all other lists are the same. -/
def Touches (store : Store) (touched : ListSet) (store' : Store) : Prop :=
  ∀ user kind, ¬ touched user kind → store'.contents user kind = store.contents user kind

theorem Touches.refl (store : Store) : store.Touches .none store :=
  fun _ _ _ => rfl

theorem Touches.trans (h : store.Touches touched store') (h' : store'.Touches touched' store'') :
    store.Touches (.both touched touched') store'' :=
  fun user kind hnot => (h' user kind fun ht => hnot (.inr ht)).trans (h user kind fun ht => hnot (.inl ht))

theorem Touches.mono (h : store.Touches touched store')
    (hmono : ∀ user kind, touched user kind → touched' user kind) : store.Touches touched' store' :=
  fun user kind hnot => h user kind fun ht => hnot (hmono user kind ht)

theorem Touches.before (h : store.Touches touched store') (h' : store'.Touches .none store'') :
    store.Touches touched store'' :=
  (h.trans h').mono fun _ _ ht => ht.elim id False.elim

theorem Touches.after (h' : store'.Touches touched store'') (h : store.Touches .none store') :
    store.Touches touched store'' :=
  (h.trans h').mono fun _ _ ht => ht.elim False.elim id

/-- A change of some lists of one user leaves the entries of all others. -/
theorem list_withLists_of_not {kinds : List ListKind}
    (h : ∀ kind, kind ∉ kinds → lists.list kind = (store.lists user).list kind)
    (hnot : ¬ ListSet.of (some user) kinds other kind) :
    ((store.withLists user lists).lists other).list kind = (store.lists other).list kind := by
  rw [lists_withLists]
  by_cases hother : other = user
  · subst hother
    rw [Function.update_self]
    exact h kind fun hmem => hnot ⟨rfl, hmem⟩
  · rw [Function.update_of_ne hother]

theorem touches_withLists {kinds : List ListKind}
    (h : ∀ kind, kind ∉ kinds → lists.list kind = (store.lists user).list kind) :
    store.Touches (.of (some user) kinds) (store.withLists user lists) := by
  intro other kind hnot
  rw [contents, contents, list_withLists_of_not h hnot]
  simp only [find?_withLists_issue]

theorem touches_pushed (store : Store) (user : UserId) (kind : ListKind) (entry : Entry) :
    store.Touches (.of (some user) [kind]) (store.withLists user ((store.lists user).pushed kind entry)) :=
  touches_withLists fun _ hkind => UserLists.list_pushed_of_ne _ (mt List.mem_singleton.2 hkind) entry

theorem touches_erased (store : Store) (user : UserId) (kind : ListKind) (id : IssueId) :
    store.Touches (.of (some user) [kind]) (store.withLists user ((store.lists user).erase kind id)) :=
  touches_withLists fun _ hkind => UserLists.list_erase_of_ne _ (mt List.mem_singleton.2 hkind) id

/-! ## Issues that nobody lists -/

def Unlisted (store : Store) (id : IssueId) : Prop :=
  ∀ user kind, ∀ entry ∈ (store.lists user).list kind, entry.id ≠ id

theorem Unlisted.of_lists (h : store.Unlisted id) (hlists : store'.lists = store.lists) : store'.Unlisted id := by
  intro user kind entry hentry
  rw [hlists] at hentry
  exact h user kind entry hentry

/-- Lists that lose entries. -/
theorem mem_of_mem_withLists
    (hlists : ∀ kind, ∀ entry ∈ lists.list kind, entry ∈ (store.lists user).list kind) {entry : Entry}
    (hentry : entry ∈ ((store.withLists user lists).lists other).list kind) :
    entry ∈ (store.lists other).list kind := by
  rw [lists_withLists] at hentry
  by_cases hother : other = user
  · subst hother
    rw [Function.update_self] at hentry
    exact hlists kind entry hentry
  · rwa [Function.update_of_ne hother] at hentry

theorem Unlisted.erased (h : store.Unlisted id) (user : UserId) (kind : ListKind) (other : IssueId) :
    (store.withLists user ((store.lists user).erase kind other)).Unlisted id :=
  fun holder kind' entry hentry =>
    h holder kind' entry (mem_of_mem_withLists (fun _ _ hmem => UserLists.mem_of_mem_erase hmem) hentry)

theorem Unique.erased (h : store.Unique) {entry : Entry} (held : entry ∈ (store.lists user).list kind) :
    (store.withLists user ((store.lists user).erase kind entry.id)).Unique where
  orderly := h.orderly.withLists (UserLists.revision_erase (h.orderly.distinct user) held).distinct
  apart holder holder' kind' kind'' e e' he he' hid := by
    have hmem {holder : UserId} {kind' : ListKind} {e : Entry}
        (he : e ∈ ((store.withLists user ((store.lists user).erase kind entry.id)).lists holder).list kind') :
        e ∈ (store.lists holder).list kind' :=
      mem_of_mem_withLists (fun _ _ hin => UserLists.mem_of_mem_erase hin) he
    exact h.apart holder holder' kind' kind'' e e' (hmem he) (hmem he') hid

theorem Unique.unlisted_erase (h : store.Unique) {entry : Entry} (held : entry ∈ (store.lists user).list kind) :
    (store.withLists user ((store.lists user).erase kind entry.id)).Unlisted entry.id := by
  intro other kind' entry' hentry' hid
  rw [lists_withLists] at hentry'
  by_cases hother : other = user
  · subst hother
    rw [Function.update_self] at hentry'
    have hrevision := UserLists.revision_erase (h.orderly.distinct other) held
    obtain ⟨hmem, hgone⟩ | hcome := (hrevision.mem kind' entry').1 hentry'
    · exact hgone (congrArg some ((h.orderly.distinct other).eq hmem held hid).2.symm)
    · exact nomatch hcome
  · rw [Function.update_of_ne hother] at hentry'
    exact hother (h.apart other user kind' kind entry' entry hentry' held hid)

theorem Consistent.unlisted (h : store.Consistent) (hfresh : store.find? (Issue.key id) = none) :
    store.Unlisted id :=
  fun user kind entry hentry hid => (h.recorded id).2 ⟨user, kind, entry, hentry, hid⟩ hfresh

/-! ## Touching records -/

/-- A change of one record touches the lists that name its issue. -/
theorem touches_record (hlists : store'.lists = store.lists)
    (hothers : ∀ other ≠ id, store'.find? (Issue.key other) = store.find? (Issue.key other)) :
    store.Touches (fun user kind => ∃ entry ∈ (store.lists user).list kind, entry.id = id) store' := by
  intro user kind hnot
  rw [contents, contents, hlists]
  refine List.map_congr_left fun entry hentry => ?_
  rw [hothers entry.id fun hid => hnot ⟨entry, hentry, hid⟩]

theorem Unlisted.touches (h : store.Unlisted id) (hlists : store'.lists = store.lists)
    (hothers : ∀ other ≠ id, store'.find? (Issue.key other) = store.find? (Issue.key other)) :
    store.Touches .none store' :=
  (touches_record hlists hothers).mono fun user kind ⟨entry, hentry, hid⟩ => h user kind entry hentry hid

theorem Unlisted.touches_insert (h : store.Unlisted id) (raw : String) :
    store.Touches .none (store.insert (Issue.key id) raw) :=
  h.touches (store.lists_insert_issue id raw) fun _ hother =>
    (store.find?_insert _ _ _).trans (if_neg fun hkey => hother (Issue.key_injective hkey))

theorem Unlisted.touches_erase (h : store.Unlisted id) : store.Touches .none (store.erase (Issue.key id)) :=
  h.touches (store.lists_erase_issue id) fun _ hother =>
    (store.find?_erase _ _).trans (if_neg fun hkey => hother (Issue.key_injective hkey))

/-- The record of a listed issue, in a store with the same lists. -/
theorem Unique.touches_rewrite (h : store.Unique) {entry : Entry}
    (held : entry ∈ (store.lists user).list kind) (hlists : store'.lists = store.lists) (new : Option String) :
    store'.Touches (.of (some user) [kind]) (store'.rewrite (Issue.key entry.id) new) := by
  have hothers : ∀ other ≠ entry.id,
      (store'.rewrite (Issue.key entry.id) new).find? (Issue.key other) = store'.find? (Issue.key other) :=
    fun other hother =>
      (store'.find?_rewrite _ _ _).trans (if_neg fun hkey => hother (Issue.key_injective hkey))
  refine (touches_record (store'.lists_rewrite_issue entry.id new) hothers).mono ?_
  rintro other kind' ⟨entry', held', hid⟩
  rw [hlists] at held'
  obtain rfl := h.apart other user kind' kind entry' entry held' held hid
  exact ⟨rfl, List.mem_singleton.2 ((h.orderly.distinct other).eq held' held hid).1⟩

/-! ## Entries of a consistent store -/

/-- A listed issue has a record that carries its identifier. -/
theorem Consistent.exists_record (h : store.Consistent) {entry : Entry}
    (held : entry ∈ (store.lists user).list kind) :
    ∃ issue, store.record entry.id = some issue ∧ issue.id = entry.id := by
  have hrecorded := (h.recorded entry.id).2 ⟨user, kind, entry, held, rfl⟩
  rw [Ne, h.unique.orderly.find?_eq_none_iff] at hrecorded
  obtain ⟨issue, hissue⟩ := Option.ne_none_iff_exists'.1 hrecorded
  exact ⟨issue, hissue, h.unique.orderly.id_of_record hissue⟩

/-- The counterpart of an entry that a user holds in some list: another user holds it on the other side, and
it links back. -/
structure Counterpart (store : Store) (user : UserId) (kind : ListKind) (entry : Entry) (link : Link)
    (half : Located) : Prop where
  linked : entry.link = some link
  other : link.user ≠ user
  found : (store.lists link.user).find link.issue = some half
  held : half.entry ∈ (store.lists link.user).list half.list
  same : half.entry.id = link.issue
  back : half.entry.linksTo user entry.id
  sides : kind = .out ↔ half.list ≠ .out

theorem Consistent.exists_counterpart (h : store.Consistent) {entry : Entry} {link : Link}
    (held : entry ∈ (store.lists user).list kind) (hlink : entry.link = some link) :
    ∃ half, store.Counterpart user kind entry link half := by
  obtain ⟨kind', entry', held', hid, hback, hsides⟩ := h.paired user kind entry link held hlink
  obtain ⟨half, hfind, rfl, rfl⟩ := (h.unique.orderly.distinct link.user).find_of_mem held'
  rw [hid] at hfind
  exact ⟨half, hlink, h.other user kind entry link held hlink, hfind, held', hid,
    by simp [Entry.linksTo, hback], hsides⟩

end Store

namespace Exchange

open Program

variable {α : Type} {around : Surroundings} {s : Scene} {limits : Limits} {user : UserId} {id : IssueId}

/-- Dissolving a link, by what the counterpart user's lists hold. -/
theorem ensures_dissolve {owner : UserId} {entry : Entry} {result : Result OperationError (Option UserId)}
    (hlists : ∀ link, entry.link = some link → s.store.ListsReadable link.user)
    (hunlinked : entry.link = none → result (.ok none) s)
    (hremoved : ∀ link half, entry.link = some link → (s.store.lists link.user).find link.issue = some half →
      half.entry.linksTo owner entry.id → result (.ok (some link.user)) (s.withStore
        (Table.erase (s.store.withLists link.user ((s.store.lists link.user).erase half.list link.issue))
          (Issue.key link.issue))))
    (hmissing : ∀ link, entry.link = some link → (s.store.lists link.user).find link.issue = none →
      result (.ok none) (s.withStore (s.store.erase (Issue.key link.issue))))
    (hstale : ∀ link half, entry.link = some link → (s.store.lists link.user).find link.issue = some half →
      ¬ half.entry.linksTo owner entry.id → result (.ok none) s) :
    (dissolve limits owner entry).Ensures around result s := by
  rw [dissolve]
  cases hlink : entry.link with
  | none => exact hunlinked hlink
  | some link =>
    refine ensures_bind (ensures_updateLists (fun failure hfailed => by cases hfailed (hlists link hlink)) ?_)
    intro revised half _ htaken
    have htaken := Except.ok.inj htaken
    rw [takeCounterpart] at htaken
    cases hfind : (s.store.lists link.user).find link.issue with
    | none =>
      simp only [hfind] at htaken
      cases htaken
      rw [Store.withLists_self]
      exact ensures_bind (ensures_deleteIssue (hmissing link hlink hfind))
    | some half =>
      simp only [hfind] at htaken
      by_cases hback : half.entry.linksTo owner entry.id
      · rw [if_pos hback] at htaken
        cases htaken
        exact ensures_bind (ensures_deleteIssue (hremoved link half hlink hfind hback))
      · rw [if_neg hback] at htaken
        cases htaken
        rw [Store.withLists_self]
        exact hstale link half hlink hfind hback

theorem ensures_livingCounterpart {owner : UserId} {entry : Entry}
    {result : Result OperationError (Option Link)}
    (hlists : ∀ link, entry.link = some link → s.store.ListsReadable link.user)
    (hliving : ∀ link half, entry.link = some link →
      (s.store.lists link.user).findLinked link.issue owner entry.id = some half → result (.ok (some link)) s)
    (hnone : (∀ link, entry.link = some link →
      (s.store.lists link.user).findLinked link.issue owner entry.id = none) → result (.ok none) s) :
    (livingCounterpart owner entry).Ensures around result s := by
  rw [livingCounterpart]
  cases hlink : entry.link with
  | none => exact hnone fun link hsome => by cases hlink.symm.trans hsome
  | some link =>
    refine ensures_bind (ensures_loadLists (hlists link hlink) ?_)
    rw [andThen]
    cases hfind : (s.store.lists link.user).findLinked link.issue owner entry.id with
    | some half => exact hliving link half hlink hfind
    | none =>
      refine hnone fun link' hlink' => ?_
      cases hlink.symm.trans hlink'
      exact hfind

/-! ## Changes of the counterpart's lists -/

theorem list_bumpEntry_of_ne {kind : ListKind} (hkind : kind ≠ .inbox) (sender : UserId)
    (sent received : IssueId) (lists : UserLists) :
    (bumpEntry sender sent received lists).1.list kind = lists.list kind := by
  rw [bumpEntry]
  split
  · split
    · next hmoved =>
      obtain ⟨⟨entry, rest⟩, hremoved, rfl⟩ := Option.map_eq_some_iff.1 hmoved
      obtain ⟨-, -, rfl⟩ := UserLists.removeFrom_eq_some hremoved
      rw [UserLists.list_withList_of_ne _ _ hkind, UserLists.list_erase_of_ne _ hkind]
    · rfl
  · rfl

theorem bumpEntry_refused {sender : UserId} {sent received : IssueId} {lists : UserLists}
    (h : (bumpEntry sender sent received lists).2 = false) :
    (bumpEntry sender sent received lists).1 = lists := by
  revert h
  rw [bumpEntry]
  split
  · split
    · exact fun hmoved => by cases hmoved
    · exact fun _ => rfl
  · exact fun _ => rfl

theorem require_eq_ok {β : Type} {absence : Absence} {found : Option β} {value : β}
    (h : require absence found = .ok value) : found = some value := by
  cases found with
  | none => exact nomatch h
  | some found => exact congrArg some (Except.ok.inj h)

/-! ## Operations -/

/-- By what it reports, the operation has touched some lists at most; if it has failed, none. -/
def Effect (touched : α → ListSet) (s : Scene) : Result OperationError α
  | .ok report, s' => s'.sent = s.sent ∧ s.store.Touches (touched report) s'.store
  | .error _, s' => s'.sent = s.sent ∧ s.store.Touches .none s'.store
  | .unfinished, s' => s'.sent = s.sent ∧ s.store.Touches .none s'.store

variable {touched : α → ListSet}

theorem nothing_done (s : Scene) : s.sent = s.sent ∧ s.store.Touches .none s.store :=
  ⟨rfl, .refl s.store⟩

/-- The next identifiers that are drawn have no records. -/
def Fresh (around : Surroundings) (s : Scene) : Prop :=
  ∀ n < 2, s.store.find? (Issue.key (around.supply (s.drawn + n))) = none

section

variable (h : s.store.Consistent)

include h

theorem effect_add (hfresh : Fresh around s) (draft : Draft) :
    (add limits user draft).Ensures around (Effect (fun _ => .of (some user) [.my]) s) s := by
  refine ensures_bind (ensures_bind (ensures_freshId (ensures_bind (ensures_now fun now => ?_))))
  have hunlisted : s.store.Unlisted (around.supply s.drawn) := h.unlisted (hfresh 0 (by decide))
  have hreadable := (h.unique.orderly.listsReadable user).insert_issue
  refine ensures_bind (ensures_saveIssue (ensures_bind (ensures_pushEntry (hreadable _ _) ?_)))
  exact ⟨rfl, (Store.touches_pushed _ _ _ _).after (hunlisted.touches_insert _)⟩

theorem effect_send (hfresh : Fresh around s) (receiver : UserId) (draft : Draft) :
    (send limits user receiver draft).Ensures around
      (Effect (fun _ => .both (.of (some user) [.out]) (.of (some receiver) [.inbox])) s) s := by
  rw [send]
  split
  · exact nothing_done s
  · refine ensures_bind (ensures_of_idle (idle_requireUser receiver) (fun _ => ?_)
      fun _ => nothing_done s)
    refine ensures_bind (ensures_bind (ensures_freshId (ensures_bind (ensures_now fun now => ?_))))
    refine ensures_bind (ensures_bind (ensures_freshId ?_))
    have hsent : s.store.Unlisted (around.supply s.drawn) := h.unlisted (hfresh 0 (by decide))
    have hreceived : s.store.Unlisted (around.supply (s.drawn + 1)) := h.unlisted (hfresh 1 (by decide))
    have hreadable (other : UserId) := h.unique.orderly.listsReadable other
    refine ensures_bind (ensures_saveIssue (ensures_bind (ensures_saveIssue ?_)))
    refine ensures_bind (ensures_pushEntry (((hreadable user).insert_issue _ _).insert_issue _ _) ?_)
    refine ensures_bind (ensures_pushEntry
      ((((hreadable receiver).insert_issue _ _).insert_issue _ _).withLists _ _) ?_)
    refine ⟨rfl, .trans ?_ (Store.touches_pushed _ _ _ _)⟩
    have hreceived' (raw : String) := hreceived.of_lists (s.store.lists_insert_issue (around.supply s.drawn) raw)
    exact ((Store.touches_pushed _ _ _ _).after ((hreceived' _).touches_insert _)).after (hsent.touches_insert _)

end

/-- Giving up the counterpart of an entry, when only the holder's lists have been changed. -/
theorem ensures_dissolve_held {store : Store} (h : store.Consistent) {entry : Entry} {kind : ListKind}
    (held : entry ∈ (store.lists user).list kind) (hreadable : ∀ other, s.store.ListsReadable other)
    (hothers : ∀ other ≠ user, s.store.lists other = store.lists other)
    {result : Result OperationError (Option UserId)} (hunlinked : entry.link = none → result (.ok none) s)
    (hlinked : ∀ link half, store.Counterpart user kind entry link half →
      result (.ok (some link.user)) (s.withStore
        (Table.erase (s.store.withLists link.user ((s.store.lists link.user).erase half.list link.issue))
          (Issue.key link.issue)))) :
    (dissolve limits user entry).Ensures around result s := by
  have hcounterpart {link : Link} (hlink : entry.link = some link) :
      ∃ half, store.Counterpart user kind entry link half ∧
        (s.store.lists link.user).find link.issue = some half := by
    obtain ⟨half, hhalf⟩ := h.exists_counterpart held hlink
    exact ⟨half, hhalf, by rw [hothers link.user hhalf.other, hhalf.found]⟩
  refine ensures_dissolve (fun link _ => hreadable link.user) hunlinked (fun link half hlink hfind _ => ?_)
    (fun link hlink hfind => ?_) fun link half hlink hfind hback => ?_
  · obtain ⟨half', hhalf, hfound⟩ := hcounterpart hlink
    cases hfind.symm.trans hfound
    exact hlinked link half hhalf
  · obtain ⟨half', -, hfound⟩ := hcounterpart hlink
    exact nomatch hfind.symm.trans hfound
  · obtain ⟨half', hhalf, hfound⟩ := hcounterpart hlink
    cases hfind.symm.trans hfound
    exact absurd hhalf.back hback

section

variable (h : s.store.Consistent)

include h

/-- Giving up an entry that has been taken out of its list. -/
theorem effect_dissolve {entry : Entry} {kind : ListKind} (held : entry ∈ (s.store.lists user).list kind)
    {result : Result OperationError (Option UserId)}
    (hresult : ∀ store', store'.Unlisted entry.id →
      s.store.Touches (.halves user kind (entry.link.map Link.user)) store' →
      result (.ok (entry.link.map Link.user)) (s.withStore store')) :
    (dissolve limits user entry).Ensures around result
      (s.withStore (s.store.withLists user ((s.store.lists user).erase kind entry.id))) := by
  have hunlisted := h.unique.unlisted_erase held
  have htouches := s.store.touches_erased user kind entry.id
  have hothers : ∀ other ≠ user,
      (s.store.withLists user ((s.store.lists user).erase kind entry.id)).lists other = s.store.lists other :=
    fun other hother => by rw [Store.lists_withLists, Function.update_of_ne hother]
  refine ensures_dissolve_held h held (fun other => (h.unique.orderly.listsReadable other).withLists _ _) hothers
    (fun hlink => ?_) fun link half hhalf => ?_
  · rw [hlink] at hresult
    exact hresult _ hunlisted (htouches.mono fun _ _ ht => .inl ht)
  · have held' := hhalf.held
    rw [← hothers link.user hhalf.other] at held'
    have hgone := (h.unique.erased held).unlisted_erase held'
    rw [hhalf.same] at hgone
    rw [hhalf.linked] at hresult
    refine hresult _ ((hunlisted.erased _ _ _).of_lists (Store.lists_erase_issue _ _)) ?_
    exact ((htouches.trans (Store.touches_erased _ _ _ _)).before hgone.touches_erase).mono
      fun _ _ => ListSet.halves_of_sides hhalf.sides

theorem effect_take (id : IssueId) :
    (take limits user id).Ensures around
      (Effect (fun completed => .halves user completed.list completed.foreignUser) s) s := by
  refine ensures_bind (ensures_requireIssue (h.unique.orderly.recordReadable id) (fun _ => nothing_done s) ?_)
  refine fun issue _ => ensures_bind (ensures_updateLists (fun _ _ => nothing_done s) ?_)
  intro revised located _ htaken
  obtain ⟨held, rfl, rfl⟩ := takeEntry_exact htaken
  refine ensures_bind (effect_dissolve h held fun store' hunlisted htouches => ?_)
  exact ensures_bind (ensures_deleteIssue ⟨rfl, htouches.before hunlisted.touches_erase⟩)

theorem effect_remove (id : IssueId) :
    (remove limits user id).Ensures around
      (Effect (fun removed => .both (.of (some user) [removed.list])
        (.of removed.foreignUser (if removed.isSender then [.inbox, .my] else [.out]))) s) s := by
  refine ensures_bind (ensures_mono (effect_take h id) fun outcome s' heffect => ?_)
  cases outcome with
  | ok taken =>
    refine ⟨heffect.1, heffect.2.mono fun other kind ht => ht.imp_right fun hother => ?_⟩
    by_cases hlist : taken.list = .out <;> simp_all [or_comm]
  | error failure => exact heffect
  | unfinished => exact heffect

/-- Every head has a record, so the first round decides. -/
theorem effect_pop : (pop limits user).Ensures around
    (Effect (fun popped => .both (.of popped.foreignUser [.out]) (.of (some user) [.my])) s) s := by
  rw [pop]
  cases limits.rounds with
  | zero => exact nothing_done s
  | succ rounds =>
    refine ensures_bind (ensures_updateLists (fun _ _ => nothing_done s) ?_)
    intro revised entry _ htaken
    obtain ⟨held, rfl⟩ := takeHead_exact htaken
    obtain ⟨issue, hrecord, hid⟩ := h.exists_record held
    have hsame := s.store.find?_withLists_issue user ((s.store.lists user).erase .my entry.id) entry.id
    refine ensures_bind (ensures_loadIssue (fun raw hraw => ?_) ?_)
    · exact h.unique.orderly.recordReadable entry.id raw (hsame ▸ hraw)
    · rw [Scene.withStore_store, Store.record_eq hsame, hrecord]
      refine ensures_bind (effect_dissolve h held fun store' hunlisted htouches => ?_)
      rw [← hid] at hunlisted
      refine ensures_bind (ensures_deleteIssue ⟨rfl, ?_⟩)
      exact (htouches.before hunlisted.touches_erase).mono fun _ _ ht => ht.symm

theorem effect_accept (id : IssueId) :
    (accept limits user id).Ensures around
      (Effect (fun accepted => .both (.of (some user) [.my, .inbox]) (.of accepted.foreignUser [.out])) s) s := by
  refine ensures_bind (ensures_requireIssue (h.unique.orderly.recordReadable id) (fun _ => nothing_done s) ?_)
  refine fun issue _ => ensures_bind (ensures_updateLists (fun _ _ => nothing_done s) ?_)
  intro revised entry _ htaken
  obtain ⟨held, rfl⟩ := acceptEntry_exact htaken
  have htouches : s.store.Touches (.of (some user) [.my, .inbox]) (s.store.withLists user
      (((s.store.lists user).erase .inbox entry.id).pushed .my entry)) := by
    refine Store.touches_withLists fun kind hkind => ?_
    have hne : kind ≠ .my ∧ kind ≠ .inbox := by simpa using hkind
    rw [UserLists.list_pushed_of_ne _ hne.1, UserLists.list_erase_of_ne _ hne.2]
  refine ensures_bind (ensures_livingCounterpart (fun link _ => ?_) (fun link half _ _ => ?_) fun _ => ?_)
  · exact (h.unique.orderly.listsReadable link.user).withLists _ _
  · exact ⟨rfl, htouches.mono fun _ _ ht => .inl ht⟩
  · exact ⟨rfl, htouches.mono fun _ _ ht => .inl ht⟩

theorem effect_bump (id : IssueId) :
    (bump limits user id).Ensures around
      (Effect (fun bumped => .of (some bumped.receiver) [.inbox]) s) s := by
  have hreadable (other : UserId) := h.unique.orderly.listsReadable other
  refine ensures_bind (ensures_loadLists (hreadable user) ?_)
  refine ensures_bind (ensures_of_idle (idle_ofExcept _) (fun entry => ?_) fun _ => nothing_done s)
  rw [andThen]
  cases hlink : entry.link with
  | none => exact nothing_done s
  | some link =>
    refine ensures_bind (ensures_requireIssue (h.unique.orderly.recordReadable id) (fun _ => nothing_done s) ?_)
    refine fun issue _ => ensures_bind (ensures_updateLists (fun _ _ => nothing_done s) ?_)
    intro revised moved _ hbumped
    have hrevised : (bumpEntry user id link.issue (s.store.lists link.user)).1 = revised :=
      congrArg Prod.fst (Except.ok.inj hbumped)
    cases moved with
    | false =>
      have hmoved := congrArg Prod.snd (Except.ok.inj hbumped)
      rw [bumpEntry_refused hmoved] at hrevised
      rw [← hrevised, Store.withLists_self]
      exact nothing_done s
    | true =>
      subst hrevised
      exact ⟨rfl, Store.touches_withLists fun kind hkind =>
        list_bumpEntry_of_ne (mt List.mem_singleton.2 hkind) _ _ _ _⟩

theorem effect_edit (id : IssueId) (change : Edit) :
    (edit limits user id change).Ensures around
      (Effect (fun edited => .halves user edited.list edited.foreignUser) s) s := by
  have hreadable (other : UserId) := h.unique.orderly.listsReadable other
  have hrecords (other : IssueId) := h.unique.orderly.recordReadable other
  refine ensures_bind (ensures_loadLists (hreadable user) ?_)
  refine ensures_bind (ensures_ofExcept (fun located hlocated => ?_) fun _ _ => nothing_done s)
  obtain ⟨held, rfl⟩ := UserLists.find_eq_some (require_eq_ok hlocated)
  refine ensures_bind (ensures_editRecord (hrecords _) (fun _ => nothing_done s) fun issue _ => ?_)
  have htouches := h.unique.touches_rewrite held rfl (some (Issue.codec.encode (issue.edited change)))
  have hlists := s.store.lists_rewrite_issue located.entry.id (some (Issue.codec.encode (issue.edited change)))
  refine ensures_bind (ensures_ofExcept (fun message _ => ?_) fun _ hmissing => nomatch hmissing)
  refine ensures_bind (ensures_livingCounterpart (fun link _ => (hreadable link.user).rewrite_issue _ _)
    (fun link half hlink hfind => ?_) fun _ => ?_)
  · obtain ⟨half', hhalf⟩ := h.exists_counterpart held hlink
    refine ensures_bind (ensures_bind (ensures_editRecord ((hrecords _).rewrite_issue _ _) (fun _ => ?_)
      fun counterpart _ => ?_))
    · exact ⟨rfl, htouches.mono fun _ _ ht => .inl ht⟩
    · have htouches' := h.unique.touches_rewrite hhalf.held hlists
        (some (Issue.codec.encode (counterpart.edited change)))
      rw [hhalf.same] at htouches'
      exact ⟨rfl, (htouches.trans htouches').mono fun _ _ => ListSet.halves_of_sides hhalf.sides⟩
  · exact ⟨rfl, htouches.mono fun _ _ ht => .inl ht⟩

end

end Exchange

end SharedTodo
