import SharedTodo.Exchange.Reassign
import SharedTodo.Proofs.Exchange.Effects

/-!
# The lists after a reassignment

A holder who gives a todo to a new owner replaces its entry, wherever it is, by a new one at the end of a
list, the new owner may get a copy, and the counterpart of the old entry goes. Apart from the lists that new
entries come to, the lists that are then different are just those that the old entry and its counterpart have
left (`ensures_reassign`).
-/

namespace SharedTodo

namespace Store

variable {store : Store} {user : UserId} {kind : ListKind} {entry : Entry}

/-- The lists with other entries, or with the same in another order. -/
def changed (before after : UserId → UserLists) : ListSet :=
  fun user kind => (after user).list kind ≠ (before user).list kind

/-- The lists that an entry and its counterpart are in. -/
def halvesOf (store : Store) (user : UserId) (kind : ListKind) (entry : Entry) : ListSet :=
  fun other kind' => (other = user ∧ kind' = kind) ∨
    ∃ link half, store.Counterpart user kind entry link half ∧ other = link.user ∧ kind' = half.list

/-- Apart from lists that new entries come to, the lists that are others now are those that an entry and its
counterpart were in. -/
def Vacates (store : Store) (user : UserId) (kind : ListKind) (entry : Entry) (entered : ListSet)
    (after : UserId → UserLists) : Prop :=
  ∀ other kind', ¬ entered other kind' →
    (changed store.lists after other kind' ↔ store.halvesOf user kind entry other kind')

theorem Counterpart.unique {link link' : Link} {half half' : Located}
    (h : store.Counterpart user kind entry link half) (h' : store.Counterpart user kind entry link' half') :
    link' = link ∧ half' = half := by
  obtain rfl := Option.some.inj (h'.linked.symm.trans h.linked)
  exact ⟨rfl, Option.some.inj (h'.found.symm.trans h.found)⟩

section

variable {after : UserId → UserLists} {target : ListKind} (held : entry ∈ (store.lists user).list kind)
  (hown : ∀ kind' ≠ target, (after user).list kind' = ((store.lists user).erase kind entry.id).list kind')

include held hown

/-- The holder's lists, when the entry has gone and another one may have come to the target. -/
theorem changed_own_iff {kind' : ListKind} (hkind : kind' ≠ target) :
    changed store.lists after user kind' ↔ store.halvesOf user kind entry user kind' := by
  rw [changed, hown kind' hkind, UserLists.list_erase_ne_iff held]
  refine ⟨fun heq => .inl ⟨rfl, heq⟩, ?_⟩
  rintro (⟨-, heq⟩ | ⟨link, half, hhalf, hother, -⟩)
  · exact heq
  · exact absurd hother.symm hhalf.other

/-- There was no counterpart, and only the holder's lists have been changed. -/
theorem vacates_of_unlinked (hlink : entry.link = none)
    (hothers : ∀ other ≠ user, after other = store.lists other) :
    store.Vacates user kind entry (.of (some user) [target]) after := by
  intro other kind' hnot
  by_cases hother : other = user
  · subst hother
    exact changed_own_iff held hown fun hkind => hnot ⟨rfl, List.mem_singleton.2 hkind⟩
  · rw [changed, hothers other hother]
    refine ⟨fun hne => absurd rfl hne, ?_⟩
    rintro (⟨heq, -⟩ | ⟨link, half, hhalf, -⟩)
    · exact absurd heq hother
    · exact nomatch hlink.symm.trans hhalf.linked

/-- The counterpart has gone, and all others have the lists they had. -/
theorem vacates_of_linked {link : Link} {half : Located} (hhalf : store.Counterpart user kind entry link half)
    (hlinked : after link.user = (store.lists link.user).erase half.list link.issue)
    (hothers : ∀ other ≠ user, other ≠ link.user → after other = store.lists other) :
    store.Vacates user kind entry (.of (some user) [target]) after := by
  intro other kind' hnot
  by_cases hother : other = user
  · subst hother
    exact changed_own_iff held hown fun hkind => hnot ⟨rfl, List.mem_singleton.2 hkind⟩
  have hhalves : store.halvesOf user kind entry other kind' ↔ other = link.user ∧ kind' = half.list := by
    constructor
    · rintro (⟨heq, -⟩ | ⟨link', half', hhalf', hin⟩)
      · exact absurd heq hother
      · obtain ⟨rfl, rfl⟩ := hhalf.unique hhalf'
        exact hin
    · exact fun hin => .inr ⟨link, half, hhalf, hin⟩
  rw [hhalves, changed]
  by_cases hcounterpart : other = link.user
  · rw [hcounterpart, hlinked, ← hhalf.same, UserLists.list_erase_ne_iff hhalf.held]
    exact (and_iff_right rfl).symm
  · rw [hothers other hother hcounterpart]
    exact iff_of_false (fun hne => hne rfl) fun hin => hcounterpart hin.1

end

end Store

namespace Exchange

open Program

variable {around : Surroundings} {s : Scene} {limits : Limits} {user newOwner : UserId} {id : IssueId}

/-- The lists that new entries come to. -/
def entered (user newOwner : UserId) : ListSet :=
  if user = newOwner then .of (some user) [.my]
  else .both (.of (some user) [.out]) (.of (some newOwner) [.inbox])

/-- What a reassignment of a held entry reports and does to everybody's lists. -/
structure Reassigns (store : Store) (user newOwner : UserId) (kind : ListKind) (entry : Entry)
    (report : Reassigned) (store' : Store) : Prop where
  held : entry ∈ (store.lists user).list kind
  previous : report.previous = (entry.link.map Link.user).filter fun other => other ≠ newOwner
  copied : report.newIssue = none ↔ user = newOwner
  vacates : store.Vacates user kind entry (entered user newOwner) store'.lists

/-- Nobody is told anything. A success has reassigned the issue's entry; there is a failure when the user has
none, or when the new owner is another one who is not known. -/
def Handed (around : Surroundings) (s : Scene) (id : IssueId) (user newOwner : UserId) :
    Result OperationError Reassigned
  | .ok report, s' => s'.sent = s.sent ∧ ∃ kind entry, entry.id = id ∧
      Reassigns s.store user newOwner kind entry report s'.store
  | .error _, s' => s'.sent = s.sent ∧
      ((∀ kind, ∀ entry ∈ (s.store.lists user).list kind, entry.id ≠ id) ∨
        user ≠ newOwner ∧ ∀ profile, around.byId newOwner ≠ .ok (some profile))
  | .unfinished, _ => False

/-- Dissolving the link of an entry that has been replaced. -/
theorem ensures_dissolve_replaced {store : Store} (h : store.Consistent) {kind target : ListKind}
    {entry new : Entry} (held : entry ∈ (store.lists user).list kind)
    (hreadable : ∀ other, s.store.ListsReadable other)
    (hlists : s.store.lists =
      Function.update store.lists user (((store.lists user).erase kind entry.id).pushed target new))
    {result : Result OperationError (Option UserId)}
    (hresult : ∀ store', (∀ other, store'.ListsReadable other) →
      store.Vacates user kind entry (.of (some user) [target]) store'.lists →
      result (.ok (entry.link.map Link.user)) (s.withStore store')) :
    (dissolve limits user entry).Ensures around result s := by
  have hown : ∀ kind' ≠ target,
      (s.store.lists user).list kind' = ((store.lists user).erase kind entry.id).list kind' := by
    intro kind' hkind
    rw [hlists, Function.update_self, UserLists.list_pushed_of_ne _ hkind]
  have hothers : ∀ other ≠ user, s.store.lists other = store.lists other := fun other hother => by
    rw [hlists, Function.update_of_ne hother]
  refine ensures_dissolve_held h held hreadable hothers (fun hlink => ?_) fun link half hhalf => ?_
  · rw [hlink] at hresult
    exact hresult s.store hreadable (Store.vacates_of_unlinked held hown hlink hothers)
  · rw [hhalf.linked] at hresult
    refine hresult _ (fun other => ((hreadable other).withLists _ _).erase_issue _) ?_
    rw [Store.lists_erase_issue, Store.lists_withLists]
    refine Store.vacates_of_linked held (fun kind' hkind => ?_) hhalf ?_ fun other hother hcounterpart => ?_
    · rw [Function.update_of_ne hhalf.other.symm, hown kind' hkind]
    · rw [Function.update_self, hothers link.user hhalf.other]
    · rw [Function.update_of_ne hcounterpart, hothers other hother]

section

variable (h : s.store.Consistent) {issue : Issue}

include h

theorem ensures_keep : (keep limits user issue id).Ensures around (Handed around s id user user) s := by
  have hreadable (other : UserId) := h.unique.orderly.listsReadable other
  refine ensures_bind (ensures_updateLists (fun failure hfailed => ?_) fun revised entry _ hreplaced => ?_)
  · exact ⟨rfl, .inl (replaceEntry_eq_error (hfailed (hreadable user)))⟩
  obtain ⟨kind, held, hid, rfl⟩ := replaceEntry_exact hreplaced
  refine ensures_bind (ensures_dissolve_replaced h held
    (fun other => (hreadable other).withLists _ _) (Store.lists_withLists _ _ _) ?_)
  intro store' _ hvacates
  refine ⟨rfl, kind, entry, hid, held, ?_, iff_of_true rfl rfl, ?_⟩
  · -- the counterpart is not the holder's
    cases hlink : entry.link with
    | none => rfl
    | some link =>
      obtain ⟨half, hhalf⟩ := h.exists_counterpart held hlink
      exact (Option.filter_some_pos (by simp [hhalf.other])).symm
  · rw [entered, if_pos rfl]
    exact hvacates

theorem ensures_handOver (hother : user ≠ newOwner) :
    (handOver limits user newOwner issue id).Ensures around (Handed around s id user newOwner) s := by
  refine ensures_bind (ensures_bind (ensures_freshId (ensures_bind (ensures_saveIssue ?_))))
  have hlists := s.store.lists_insert_issue (issue.counterpart (around.supply s.drawn)).id
    (Issue.codec.encode (issue.counterpart (around.supply s.drawn)))
  have hreadable (other : UserId) := (h.unique.orderly.listsReadable other).insert_issue
    (issue.counterpart (around.supply s.drawn)).id (Issue.codec.encode (issue.counterpart (around.supply s.drawn)))
  -- all that is needed of the store with the copy is that its lists are the same
  generalize issue.counterpart (around.supply s.drawn) = copy at hlists hreadable ⊢
  dsimp only at hlists hreadable ⊢
  generalize s.store.insert (Issue.key copy.id) (Issue.codec.encode copy) = copied at hlists hreadable ⊢
  refine ensures_bind (ensures_attempt (ensures_updateLists (fun failure hfailed => ?_)
    fun revised entry _ hreplaced => ?_))
  · have hfailed := hfailed (hreadable user)
    rw [Scene.withStore_store, hlists] at hfailed
    exact ensures_bind (ensures_deleteIssue ⟨rfl, .inl (replaceEntry_eq_error hfailed)⟩)
  rw [Scene.withStore_store, hlists] at hreplaced
  obtain ⟨kind, held, hid, rfl⟩ := replaceEntry_exact hreplaced
  refine ensures_bind (ensures_dissolve_replaced h held (fun other => (hreadable other).withLists _ _)
    ((Store.lists_withLists _ _ _).trans (by rw [Scene.withStore_store, hlists])) ?_)
  refine fun store' hreadable hvacates => ensures_bind (ensures_pushEntry (hreadable newOwner) ?_)
  refine ⟨rfl, kind, entry, hid, held, rfl, iff_of_false nofun hother, fun other kind' hnot => ?_⟩
  rw [entered, if_neg hother, ListSet.both_iff, not_or] at hnot
  have hpushed := Store.list_withLists_of_not (fun kind hkind =>
    (store'.lists newOwner).list_pushed_of_ne (mt List.mem_singleton.2 hkind) (.linked copy.id ⟨user, id⟩)) hnot.2
  exact (iff_of_eq (congrArg (· ≠ (s.store.lists other).list kind') hpushed)).trans (hvacates other kind' hnot.1)

theorem ensures_reassign :
    (reassign limits id user newOwner).Ensures around (Handed around s id user newOwner) s := by
  refine ensures_bind (ensures_requireIssue (h.unique.orderly.recordReadable id) (fun habsent => ?_)
    fun issue _ => ?_)
  · -- a listed issue has a record
    refine ⟨rfl, .inl ?_⟩
    rintro kind entry held rfl
    obtain ⟨issue, hrecord, -⟩ := h.exists_record held
    cases habsent.symm.trans hrecord
  rw [andThen]
  split
  · next hsame =>
    subst hsame
    exact ensures_keep h
  · next hother =>
    refine ensures_bind (ensures_requireUser (fun _ _ => ensures_handOver h hother) (fun hunknown => ?_)
      fun failure hdown => ?_)
    · exact ⟨rfl, .inr ⟨hother, fun profile hfound => by cases hunknown.symm.trans hfound⟩⟩
    · exact ⟨rfl, .inr ⟨hother, fun profile hfound => by cases hdown.symm.trans hfound⟩⟩

end

end Exchange

end SharedTodo
