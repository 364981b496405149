import SharedTodo.Proofs.Exchange.Interleaving
import SharedTodo.Proofs.Exchange.Links

/-!
# Consistency

A store is consistent when no issue is listed twice, the records are those of the listed issues, every link
is mutual with one half in a list of sent todos and the other in another list, and whatever has no link is a
todo of one's own. While clients of different users are at work, each with one operation, a state is sound
instead: identifiers are in order, listed todos have records, and links are joined (`Sound`). A consistent
state is sound for clients that begin, and a sound state in which no client has anything left to do is
consistent.
-/

namespace SharedTodo

structure Store.Consistent (store : Store) : Prop where
  unique : store.Unique
  recorded : ∀ id, store.find? (Issue.key id) ≠ none ↔
    ∃ user kind entry, entry ∈ (store.lists user).list kind ∧ entry.id = id
  other : ∀ user kind entry link, entry ∈ (store.lists user).list kind → entry.link = some link →
    link.user ≠ user
  paired : ∀ user kind entry link, entry ∈ (store.lists user).list kind → entry.link = some link →
    ∃ kind' entry', entry' ∈ (store.lists link.user).list kind' ∧ entry'.id = link.issue ∧
      entry'.link = some ⟨user, entry.id⟩ ∧ (kind = .out ↔ kind' ≠ .out)
  unlinked : ∀ user kind entry, entry ∈ (store.lists user).list kind → entry.link = none → kind = .my

namespace Exchange

/-- A state with one client for each user, among which links are in transit. -/
structure Sound (stage : IssueId → Stage UserId) (s : Shared) (tasks : UserId → Task) : Prop where
  orderly : s.store.Orderly
  place : InPlace stage s.view tasks
  joined : Joined s.view tasks

section

variable {stage : IssueId → Stage UserId} {s s' : Shared} {tasks : UserId → Task} {user : UserId}
  {task' : Task}

theorem Sound.act (h : Sound stage s tasks) (hconducts : Conducts user (tasks user) s task' s') :
    ∃ stage', Moves user stage stage' ∧ Sound stage' s' (Function.update tasks user task') := by
  have hact := hconducts.act
  obtain ⟨stage', hmoves, hordered⟩ := h.place.ordered.act hact
  have hkept := h.place.kept.act h.place.ordered hact hmoves (h.joined.ties h.place)
  exact ⟨stage', hmoves, hconducts.orderly, ⟨hordered, hkept⟩, h.joined.act h.place hact⟩

theorem Sound.mem_issued (h : Sound stage s tasks) {id : IssueId}
    (hid : s.store.find? (Issue.key id) ≠ none) : id ∈ s.issued := by
  refine Decidable.byContradiction fun hunused => ?_
  have hstored := h.place.ordered.placed.recorded id (mt h.orderly.find?_eq_none_iff.2 hid)
  rw [h.place.ordered.placed.unborn id hunused] at hstored
  exact hstored

theorem record_ne_none (hconsistent : s.store.Consistent) {id : IssueId} (hlisted : s.view.Listed id) :
    s.store.record id ≠ none :=
  mt hconsistent.unique.orderly.find?_eq_none_iff.2 ((hconsistent.recorded id).2 hlisted)

/-! ## From consistent states to sound ones -/

/-- Every listed issue is settled with its holder. -/
theorem exists_placed (hconsistent : s.store.Consistent)
    (hissued : ∀ id, s.store.find? (Issue.key id) ≠ none → id ∈ s.issued) :
    ∃ stage : IssueId → Stage UserId, Placed stage s.view ∧
      ∀ id c owner, stage id ≠ .offered c owner := by
  have hstage : ∀ id, ∃ st : Stage UserId, (¬ s.view.Listed id → st = .unborn) ∧
      (∀ user kind entry, s.view.holds user kind entry → entry.id = id → st = .settled user) ∧
      ∀ c owner, st ≠ .offered c owner := by
    intro id
    by_cases hlisted : s.view.Listed id
    · obtain ⟨user, kind, entry, he, hid⟩ := hlisted
      refine ⟨.settled user, fun hno => absurd ⟨user, kind, entry, he, hid⟩ hno, ?_, nofun⟩
      intro other kind' entry' he' hid'
      rw [hconsistent.unique.apart user other kind kind' entry entry' he he' (hid.trans hid'.symm)]
    · refine ⟨.unborn, fun _ => rfl, ?_, nofun⟩
      exact fun other kind entry he hid => absurd ⟨other, kind, entry, he, hid⟩ hlisted
  obtain ⟨stage, hstage⟩ := Classical.skolem.1 hstage
  have hheld := fun id => (hstage id).2.1
  refine ⟨stage, ⟨?_, ?_, ?_, ?_, ?_⟩, fun id => (hstage id).2.2⟩
  · intro id hid
    refine (hstage id).1 fun hlisted => hid (hissued id ?_)
    exact (hconsistent.recorded id).2 hlisted
  · intro id hid
    have hraw := mt hconsistent.unique.orderly.find?_eq_none_iff.1 hid
    obtain ⟨user, kind, entry, he, rfl⟩ := (hconsistent.recorded id).1 hraw
    rw [hheld entry.id user kind entry he rfl]
    trivial
  · exact fun user kind entry he => hheld entry.id user kind entry he rfl
  · intro user kind kind' entry entry' he he' hid
    exact (hconsistent.unique.orderly.distinct user).eq he he' hid
  · intro user kind entry link he hlink
    obtain ⟨kind', entry', he', hid', -⟩ := hconsistent.paired user kind entry link he hlink
    exact .inl (hheld link.issue link.user kind' entry' he' hid')

theorem exists_sound (hconsistent : s.store.Consistent)
    (hissued : ∀ id, s.store.find? (Issue.key id) ≠ none → id ∈ s.issued) (edits : UserId → Bool) :
    ∃ stage, Sound stage s fun user => { edits := edits user } := by
  obtain ⟨stage, hplaced, hoffered⟩ := exists_placed hconsistent hissued
  have horderly := hconsistent.unique.orderly
  refine ⟨stage, horderly,
    ⟨hplaced.ordered hoffered edits, fun _ => record_ne_none hconsistent, fun user => ?_⟩, ?_⟩
  · exact ⟨fun _ hissue => absurd hissue List.not_mem_nil, fun _ _ h => (nomatch h),
      fun _ _ h => (nomatch h), fun _ h => nomatch h⟩
  · refine ⟨?_, hconsistent.unlinked, ?_, ?_, ?_, fun _ _ _ h => (nomatch h), fun _ _ h => (nomatch h),
      fun _ _ _ h => (nomatch h), fun _ _ h => nomatch h⟩
    · rintro user kind id link ⟨entry, he, -, hlink⟩
      exact hconsistent.other user kind entry link he hlink
    · rintro user kind id link ⟨entry, he, rfl, hlink⟩
      obtain ⟨kind', entry', he', hid', hlink', hkinds⟩ := hconsistent.paired user kind entry link he hlink
      exact .inl ⟨kind', ⟨entry', he', hid', hlink'⟩, hkinds⟩
    · rintro user kind id link ⟨entry, he, -, hlink⟩
      obtain ⟨kind', entry', he', hid', -⟩ := hconsistent.paired user kind entry link he hlink
      exact record_ne_none hconsistent ⟨link.user, kind', entry', he', hid'⟩
    · intro id hid
      exact .inl ((hconsistent.recorded id).1 (mt horderly.find?_eq_none_iff.1 hid))

/-! ## From sound states to consistent ones -/

theorem Task.Clear.not_owes {task : Task} (h : task.Clear) (id : IssueId) : ¬ task.Owes id := by
  rintro (⟨issue, hissue, -⟩ | ⟨own, link, hoffer, -⟩ | htaken | horphan)
  · rw [h.ready] at hissue
    exact absurd hissue List.not_mem_nil
  · exact nomatch h.offer.symm.trans hoffer
  · exact nomatch h.taken.symm.trans htaken
  · exact nomatch h.orphan.symm.trans horphan

/-- What is left when nobody has anything to do. -/
theorem Sound.consistent (h : Sound stage s tasks) (hclear : ∀ user, (tasks user).Clear) :
    s.store.Consistent where
  unique := by
    refine ⟨h.orderly, fun user other kind kind' entry entry' he he' hid => ?_⟩
    have hsettled := h.place.ordered.placed.held user kind entry he
    rw [hid, h.place.ordered.placed.held other kind' entry' he'] at hsettled
    exact (Stage.settled.inj hsettled).symm
  recorded id := by
    rw [Ne, h.orderly.find?_eq_none_iff]
    refine ⟨fun hid => (h.joined.recorded id hid).resolve_right ?_, h.place.kept.listed id⟩
    exact fun ⟨user, howes⟩ => (hclear user).not_owes id howes
  other user kind entry link he hlink :=
    h.joined.other user kind entry.id link ⟨entry, he, rfl, hlink⟩
  paired user kind entry link he hlink := by
    rcases h.joined.paired user kind entry.id link ⟨entry, he, rfl, hlink⟩ with
      ⟨kind', ⟨entry', he', hid', hlink'⟩, hkinds⟩ | ⟨-, hoffer⟩ | hloose
    · exact ⟨kind', entry', he', hid', hlink', hkinds⟩
    · exact nomatch (hclear user).offer.symm.trans hoffer
    · exact nomatch (hclear link.user).loose.symm.trans hloose
  unlinked := h.joined.unlinked

end

end Exchange

end SharedTodo
