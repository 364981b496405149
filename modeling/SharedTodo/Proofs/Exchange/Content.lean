import SharedTodo.Proofs.Exchange.Consistency

/-!
# The content of linked todos

Both halves of a todo have the same content. They are created so, as a record and its counterpart, and an
operation that does not edit writes no record twice: a record that it meets stays as it is or goes
(`Faithful`). What a reassignment copies is the record that it has read before, so that must not have
changed in between. With one operation at a time this is so; an edit changes both halves, and is dealt with
for itself.
-/

namespace SharedTodo

theorem Issue.counterpart_counterpart (issue : Issue) (id : IssueId) :
    (issue.counterpart id).counterpart issue.id = issue := rfl

/-- Linked todos have the same content. -/
def Store.Mirrored (store : Store) : Prop :=
  ∀ user kind entry link, entry ∈ (store.lists user).list kind → entry.link = some link →
    ∃ issue, store.record entry.id = some issue ∧
      store.record link.issue = some (issue.counterpart link.issue)

namespace Exchange

/-- What an operation that does not edit relies on. -/
structure Faithful (stage : IssueId → Stage UserId) (view : View) (task : Task) : Prop where
  linked : ∀ user kind id link, view.Linked user kind id link → ∃ issue, view.record id = some issue ∧
    view.record link.issue = some (issue.counterpart link.issue)
  ready : ∀ issue ∈ task.ready, view.record issue.id = some issue
  seen : ∀ issue, task.seen = some issue → (stage issue.id).Stored ∧
    (view.record issue.id = some issue ∨ view.record issue.id = none)

section

variable {stage stage' : IssueId → Stage UserId} {view view' : View} {tasks : UserId → Task}
  {user other : UserId} {task task' : Task} {kind : ListKind} {id : IssueId} {link : Link} {issue : Issue}

/-! ## What an act can do to contents -/

theorem Act.edits (hact : Act user task view task' view') : task'.edits = task.edits := by
  cases hact <;> rfl

/-- A stored record stays as it is or goes, where nothing is edited. -/
theorem Ordered.record_of_act (h : Ordered (fun user => user) stage view tasks)
    (hact : Act user (tasks user) view task' view') (hedits : (tasks user).edits = false)
    (hstored : (stage id).Stored) : view'.record id = view.record id ∨ view'.record id = none := by
  have herased : ∀ gone, (view.withRecord gone none).record id = view.record id ∨
      (view.withRecord gone none).record id = none := by
    intro gone
    rw [View.record_withRecord]
    split
    · exact .inr rfl
    · exact .inl rfl
  cases hact with
  | create created drawn =>
    rw [View.record_withRecord]
    split
    · next hid =>
      rw [hid, (h.reserves user).fresh created.id drawn] at hstored
      exact hstored.elim
    · exact .inl rfl
  | drop gone | finish gone => exact herased gone
  | discard gone => exact herased gone.id
  | amend _ _ edits => exact nomatch hedits.symm.trans edits
  | _ => exact .inl rfl

theorem Act.ready (hact : Act user task view task' view') (h : issue ∈ task'.ready) :
    issue ∈ task.ready ∨ view'.record issue.id = some issue := by
  cases hact with
  | create created drawn =>
    rcases List.mem_cons.1 h with rfl | h
    · rw [View.record_withRecord, if_pos rfl]
      exact .inr rfl
    · exact .inl h
  | list | handOver | discard => exact .inl (mem_without.1 h).1
  | publish => exact .inl (mem_without.1 (mem_without.1 h).1).1
  | _ => exact .inl h

theorem Act.seen (hact : Act user task view task' view') (h : task'.seen = some issue) :
    task.seen = some issue ∨ (view.record issue.id = some issue ∧ view'.record = view.record) := by
  cases hact with
  | learn known hknown =>
    cases h
    exact .inr ⟨hknown, rfl⟩
  | _ => exact .inl h

/-- A half that is published has the content of its counterpart. -/
theorem Act.published (hact : Act user task view task' view') (hfaithful : Faithful stage view task)
    (hlisted : ∀ id, view.Listed id → view.record id ≠ none) (hfree : task.Free)
    (h : task'.offer = some (id, link)) :
    view'.record = view.record ∧ ∃ issue, view.record id = some issue ∧
      view.record link.issue = some (issue.counterpart link.issue) := by
  cases hact with
  | publish sent received receiver ready ready' same =>
    cases h
    refine ⟨rfl, sent, hfaithful.ready sent ready, ?_⟩
    rw [← same]
    exact hfaithful.ready received ready'
  | handOver kind entry copy owner held free ready same =>
    cases h
    obtain ⟨issue, hseen, hid, hcopy⟩ := same
    have hrecord := hlisted entry.id ⟨user, kind, entry, held, rfl⟩
    rw [← hid] at hrecord ⊢
    refine ⟨rfl, issue, ((hfaithful.seen issue hseen).2.resolve_right hrecord), ?_⟩
    rw [← hcopy]
    exact hfaithful.ready copy ready
  | deliver => exact nomatch h
  | _ => exact nomatch hfree.offer.symm.trans h

/-! ## One act -/

/-- Where nothing is edited, linked todos keep the same content. -/
theorem Faithful.act (h : Faithful stage view (tasks user)) (hplace : InPlace stage view tasks)
    (hjoined : Joined view tasks) (hids : ∀ id issue, view.record id = some issue → issue.id = id)
    (hact : Act user (tasks user) view task' view') (hedits : (tasks user).edits = false)
    (hmoves : Moves user stage stage')
    (hkept : Kept stage' view' (Function.update tasks user task')) : Faithful stage' view' task' where
  linked other kind id link hl := by
    have hsame : ∀ {id}, view.record id ≠ none → view'.record id ≠ none →
        view'.record id = view.record id := by
      intro id hbefore hafter
      have hstored := hplace.ordered.placed.recorded id hbefore
      exact (hplace.ordered.record_of_act hact hedits hstored).resolve_right hafter
    have hafter := hkept.listed id hl.listed
    have hafter' := hjoined.pointed_act hplace hact hl
    rcases hact.linked hl with ⟨kind', hold, -⟩ | ⟨-, -, hoffer, -, -, hfree⟩ | ⟨huser, -, hoffer, -⟩
    · obtain ⟨issue, hrecord, hrecord'⟩ := h.linked other kind' id link hold
      refine ⟨issue, ?_, ?_⟩
      · rw [hsame (by rw [hrecord]; exact nofun) hafter, hrecord]
      · rw [hsame (by rw [hrecord']; exact nofun) hafter', hrecord']
    · obtain ⟨hrecords, hcontent⟩ := hact.published h hplace.kept.listed hfree hoffer
      rw [hrecords]
      exact hcontent
    · -- the half that is delivered mirrors the one that has been published
      obtain ⟨issue, hrecord, hrecord'⟩ := h.linked user .out link.issue _ (hjoined.offer user _ _ hoffer).1
      refine ⟨issue.counterpart id, ?_, ?_⟩
      · rw [hsame (by rw [hrecord']; exact nofun) hafter, hrecord']
      · rw [hsame (by rw [hrecord]; exact nofun) hafter', hrecord, ← hids _ _ hrecord,
          Issue.counterpart_counterpart]
  ready issue hissue := by
    rcases hact.ready hissue with hbefore | hcreated
    · have hstored : (stage issue.id).Stored := by
        rw [(hplace.ordered.reserves user).ready issue hbefore]
        trivial
      have hkeeps := hkept.keeps user
      rw [Function.update_self] at hkeeps
      rw [(hplace.ordered.record_of_act hact hedits hstored).resolve_right (hkeeps.ready issue hissue)]
      exact h.ready issue hbefore
    · exact hcreated
  seen issue hseen := by
    rcases hact.seen hseen with hbefore | ⟨hknown, hsame⟩
    · obtain ⟨hstored, hrecord⟩ := h.seen issue hbefore
      refine ⟨hmoves.stored hstored, ?_⟩
      rcases hplace.ordered.record_of_act hact hedits hstored with hsame | hnone
      · rw [hsame]
        exact hrecord
      · exact .inr hnone
    · refine ⟨hmoves.stored (hplace.ordered.placed.recorded issue.id ?_), .inl ?_⟩
      · rw [hknown]
        exact nofun
      · rw [hsame]
        exact hknown

end

end Exchange

end SharedTodo
