import SharedTodo.Proofs.Exchange.Inversion

/-!
# Records of listed todos

Records come before entries and go after them: whatever is listed has a record, and so has whatever a client
is about to list (`Kept`). The one step that could break this is the deletion of a counterpart's record by
the holder of the other half. It is safe when the counterpart is settled, so that it cannot be listed any
more once it has left the lists; that the link of an entry given up leads to a settled counterpart is
therefore asked of the clients.
-/

namespace SharedTodo.Exchange

section

variable {ι : Type} {users : ι → UserId} {stage stage' : IssueId → Stage ι} {view view' : View}
  {tasks : ι → Task} {task task' : Task} {c : ι} {id : IssueId}

/-- What a client is about to list has a record, and what it is about to delete is out of the lists for
good. -/
structure Keeps (stage : IssueId → Stage ι) (view : View) (task : Task) : Prop where
  ready : ∀ issue ∈ task.ready, view.record issue.id ≠ none
  offer : ∀ own link, task.offer = some (own, link) → view.record link.issue ≠ none
  loose : ∀ own link, task.loose = some (own, link) → stage link.issue = .settled link.user
  orphan : ∀ id, task.orphan = some id → (∃ owner, stage id = .settled owner) ∧ ¬ view.Listed id

structure Kept (stage : IssueId → Stage ι) (view : View) (tasks : ι → Task) : Prop where
  listed : ∀ id, view.Listed id → view.record id ≠ none
  keeps : ∀ c, Keeps stage view (tasks c)

/-- An entry that a client could give up links to a settled counterpart. -/
def Ties (stage : IssueId → Stage ι) (view : View) (user : UserId) (task : Task) : Prop :=
  task.Free → ∀ kind entry link, view.holds user kind entry → entry.link = some link →
    stage link.issue = .settled link.user

/-- What is listed after an act had a record before it. -/
theorem Kept.recorded_of_listed (hkept : Kept stage view tasks)
    (hact : Act (users c) (tasks c) view task' view') (hlisted : view'.Listed id) :
    view.record id ≠ none := by
  have hkeeps := hkept.keeps c
  cases hact with
  | rest | learn | draw | create | lose | leave | drop | finish | discard | skip | amend =>
    exact hkept.listed id hlisted
  | list issue ready =>
    rcases View.listed_revise hlisted with hlisted | ⟨kind, entry, hcome, rfl⟩
    · exact hkept.listed _ hlisted
    · cases hcome
      exact hkeeps.ready issue ready
  | publish sent received receiver ready =>
    rcases View.listed_revise hlisted with hlisted | ⟨kind, entry, hcome, rfl⟩
    · exact hkept.listed _ hlisted
    · cases hcome
      exact hkeeps.ready sent ready
  | deliver own link offered =>
    rcases View.listed_revise hlisted with hlisted | ⟨kind, entry, hcome, rfl⟩
    · exact hkept.listed _ hlisted
    · cases hcome
      exact hkeeps.offer own link offered
  | take | sever =>
    rcases View.listed_revise hlisted with hlisted | ⟨kind, entry, hcome, hid⟩
    · exact hkept.listed _ hlisted
    · exact nomatch hcome
  | keep kind entry held | handOver kind entry copy receiver held =>
    rcases View.listed_revise hlisted with hlisted | ⟨kind', entry', hcome, rfl⟩
    · exact hkept.listed _ hlisted
    · cases hcome
      exact hkept.listed _ ⟨users c, kind, entry, held, rfl⟩
  | move entry held =>
    rcases View.listed_revise hlisted with hlisted | ⟨kind', entry', hcome, rfl⟩
    · exact hkept.listed _ hlisted
    · cases hcome
      exact hkept.listed _ ⟨users c, .inbox, entry, held, rfl⟩

/-- What loses its record in an act is not listed, and was settled or the client's own, which it then has
ready no more. -/
theorem Kept.deleted_of_act (hordered : Ordered users stage view tasks) (hkept : Kept stage view tasks)
    (hact : Act (users c) (tasks c) view task' view') (hbefore : view.record id ≠ none)
    (hafter : view'.record id = none) :
    ¬ view'.Listed id ∧ ((∃ owner, stage id = .settled owner) ∨
      stage id = .ready c ∧ ∀ issue ∈ task'.ready, issue.id ≠ id) := by
  have herased : ∀ other, (view.withRecord other none).record id = none → id = other := by
    intro other hnone
    by_contra hid
    exact View.record_erased_ne_none.2 ⟨hid, hbefore⟩ hnone
  cases hact with
  | rest | learn | draw | list | publish | deliver | take | keep | handOver | move | sever | lose | leave
  | skip => exact absurd hafter hbefore
  | create issue drawn | amend issue edited edits known same =>
    exact absurd hafter (View.record_written_ne_none.2 (.inr hbefore))
  | drop other owed =>
    obtain rfl := herased other hafter
    exact ⟨((hkept.keeps c).orphan id owed).2, .inl ((hkept.keeps c).orphan id owed).1⟩
  | finish other owed tied =>
    obtain rfl := herased other hafter
    obtain ⟨hsettled, hgone⟩ := (hordered.releases c).taken id owed
    exact ⟨hgone, .inl ⟨users c, hsettled⟩⟩
  | discard issue ready =>
    obtain rfl := herased issue.id hafter
    have hready := (hordered.reserves c).ready issue ready
    refine ⟨fun ⟨user, kind, entry, he, hid⟩ => ?_, .inr ⟨hready, fun other hother => ?_⟩⟩
    · have hsettled := hordered.placed.held user kind entry he
      rw [hid, hready] at hsettled
      exact nomatch hsettled
    · exact (mem_without.1 hother).2

/-- What another client is about to list keeps its record. -/
theorem Kept.keeps_of_ne (hordered : Ordered users stage view tasks) (hkept : Kept stage view tasks)
    (hact : Act (users c) (tasks c) view task' view') (hmoves : Moves c stage stage') {c' : ι}
    (hc : c' ≠ c) : Keeps stage' view' (tasks c') := by
  have hkeeps := hkept.keeps c'
  have hres := hordered.reserves c'
  have hrecord : ∀ id, view.record id ≠ none → (∀ owner, stage id ≠ .settled owner) →
      stage id ≠ .ready c → view'.record id ≠ none := by
    intro id hbefore hsettled hready hafter
    rcases (hkept.deleted_of_act hordered hact hbefore hafter).2 with ⟨owner, hid⟩ | ⟨hid, -⟩
    · exact hsettled owner hid
    · exact hready hid
  refine ⟨fun issue hissue => ?_, fun own link hoffer => ?_, fun own link hloose => ?_, fun id hid => ?_⟩
  · have hstage := hres.ready issue hissue
    refine hrecord issue.id (hkeeps.ready issue hissue) (by rw [hstage]; exact nofun) ?_
    rw [hstage]
    exact fun e => hc (Stage.ready.inj e)
  · have hstage := (hres.offer own link hoffer).2
    exact hrecord link.issue (hkeeps.offer own link hoffer) (by rw [hstage]; exact nofun)
      (by rw [hstage]; exact nofun)
  · exact hmoves.settled (hkeeps.loose own link hloose)
  · obtain ⟨⟨owner, hsettled⟩, hgone⟩ := hkeeps.orphan id hid
    exact ⟨⟨owner, hmoves.settled hsettled⟩, fun hback => hgone (hordered.listed_of_act hact hsettled hback)⟩

/-! ## The client's own act -/

theorem Kept.ready_self (hordered : Ordered users stage view tasks) (hkept : Kept stage view tasks)
    (hact : Act (users c) (tasks c) view task' view') {issue : Issue} (h : issue ∈ task'.ready) :
    view'.record issue.id ≠ none := by
  have hold : issue ∈ (tasks c).ready → view'.record issue.id ≠ none := by
    intro hissue hafter
    have hready := (hordered.reserves c).ready issue hissue
    have hbefore := (hkept.keeps c).ready issue hissue
    rcases (hkept.deleted_of_act hordered hact hbefore hafter).2 with ⟨owner, hid⟩ | ⟨-, hgone⟩
    · exact nomatch hready.symm.trans hid
    · exact hgone issue h rfl
  cases hact with
  | create new drawn =>
    rcases List.mem_cons.1 h with rfl | hissue
    · exact View.record_written_ne_none.2 (.inl rfl)
    · exact hold hissue
  | publish => exact hold (mem_without.1 (mem_without.1 h).1).1
  | list | handOver | discard => exact hold (mem_without.1 h).1
  | _ => exact hold h

theorem Kept.offer_self (hordered : Ordered users stage view tasks) (hkept : Kept stage view tasks)
    (hact : Act (users c) (tasks c) view task' view') {own : IssueId} {link : Link}
    (h : task'.offer = some (own, link)) : view'.record link.issue ≠ none := by
  have hold : (tasks c).offer = some (own, link) → view'.record link.issue ≠ none := by
    intro hoffer hafter
    have hoffered := ((hordered.reserves c).offer own link hoffer).2
    have hbefore := (hkept.keeps c).offer own link hoffer
    rcases (hkept.deleted_of_act hordered hact hbefore hafter).2 with ⟨owner, hid⟩ | ⟨hid, -⟩
    · exact nomatch hoffered.symm.trans hid
    · exact nomatch hoffered.symm.trans hid
  cases hact with
  | publish sent received receiver ready ready' =>
    cases h
    exact (hkept.keeps c).ready received ready'
  | handOver kind entry copy receiver held free ready =>
    cases h
    exact (hkept.keeps c).ready copy ready
  | deliver => exact nomatch h
  | _ => exact hold h

theorem Kept.loose_self (hordered : Ordered users stage view tasks) (hkept : Kept stage view tasks)
    (hact : Act (users c) (tasks c) view task' view') (hties : Ties stage view (users c) (tasks c))
    {own : IssueId} {link : Link} (h : task'.loose = some (own, link)) :
    stage link.issue = .settled link.user := by
  rcases hact.loose hordered.placed h with hloose | ⟨free, ⟨kind, entry, held, -, hlink⟩, -⟩
  · exact (hkept.keeps c).loose own link hloose
  · exact hties free kind entry link held hlink

theorem Kept.orphan_self (hordered : Ordered users stage view tasks) (hkept : Kept stage view tasks)
    (hact : Act (users c) (tasks c) view task' view') (h : task'.orphan = some id) :
    (∃ owner, stage id = .settled owner) ∧ ¬ view'.Listed id := by
  have hkeeps := hkept.keeps c
  have hold : (tasks c).orphan = some id → (∃ owner, stage id = .settled owner) ∧ ¬ view'.Listed id := by
    intro horphan
    obtain ⟨⟨owner, hsettled⟩, hgone⟩ := hkeeps.orphan id horphan
    exact ⟨⟨owner, hsettled⟩, fun hback => hgone (hordered.listed_of_act hact hsettled hback)⟩
  cases hact with
  | sever own link kind entry tied paid held same back =>
    cases h
    refine ⟨⟨link.user, hkeeps.loose own link tied⟩, ?_⟩
    rw [← same]
    exact hordered.placed.not_listed_of_gone held
  | lose own link tied paid missing =>
    cases h
    refine ⟨⟨link.user, hkeeps.loose own link tied⟩, fun ⟨user, kind, entry, he, hid⟩ => ?_⟩
    have hsettled := hordered.placed.held user kind entry he
    rw [hid, hkeeps.loose own link tied] at hsettled
    cases hsettled
    exact missing kind entry he hid
  | drop => exact nomatch h
  | _ => exact hold h

/-- What the client itself is about to list has a record after its act as well. -/
theorem Kept.keeps_self (hordered : Ordered users stage view tasks) (hkept : Kept stage view tasks)
    (hact : Act (users c) (tasks c) view task' view') (hmoves : Moves c stage stage')
    (hties : Ties stage view (users c) (tasks c)) : Keeps stage' view' task' where
  ready _ h := hkept.ready_self hordered hact h
  offer _ _ h := hkept.offer_self hordered hact h
  loose _ _ h := hmoves.settled (hkept.loose_self hordered hact hties h)
  orphan _ h :=
    have ⟨⟨owner, hsettled⟩, hgone⟩ := hkept.orphan_self hordered hact h
    ⟨⟨owner, hmoves.settled hsettled⟩, hgone⟩

/-- An act preserves that listed todos have records, if the entries that its client could give up have
settled counterparts. -/
theorem Kept.act [DecidableEq ι] (hkept : Kept stage view tasks)
    (hordered : Ordered users stage view tasks)
    (hact : Act (users c) (tasks c) view task' view') (hmoves : Moves c stage stage')
    (hties : Ties stage view (users c) (tasks c)) :
    Kept stage' view' (Function.update tasks c task') where
  listed id hlisted := by
    intro hafter
    have hbefore := hkept.recorded_of_listed hact hlisted
    exact (hkept.deleted_of_act hordered hact hbefore hafter).1 hlisted
  keeps c' := by
    by_cases hc : c' = c
    · subst hc
      rw [Function.update_self]
      exact hkept.keeps_self hordered hact hmoves hties
    · rw [Function.update_of_ne hc]
      exact hkept.keeps_of_ne hordered hact hmoves hc

end

end SharedTodo.Exchange
