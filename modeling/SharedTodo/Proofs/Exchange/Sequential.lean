import SharedTodo.Proofs.Exchange.Content

/-!
# Operations one after the other

Operations run to their ends, each where the one before it has left the store, and the services are healthy.
Whatever they are, by whatever users and with whatever results, the store is consistent after each of them:
no lists document is empty, no issue is listed twice, the records are those of the listed issues, links are
mutual, and linked todos have the same content (`performed_consistent`).

An operation is followed call by call as one client among users that have nothing to do (`Underway`). The
content of linked todos after an edit is that of the two records that the edit writes, which is shown of the
edit directly (`conforms_edit_alone`).
-/

namespace SharedTodo.Exchange

/-- The states that operations lead to, each of them performed to its end. -/
inductive Performed : Shared → Prop where
  | initial : Performed .initial
  | perform {s s' : Shared} {outcome : Outcome OperationError Unit} (before : Performed s)
      (limits : Limits) (action : Action)
      (run : Reaches False (action.program limits) s (.ended outcome) s') : Performed s'

/-! ## One operation -/

/-- One user has something to do. -/
def onlyTask (user : UserId) (task : Task) : UserId → Task :=
  Function.update (fun _ => {}) user task

section

variable {α : Type} {user : UserId} {stage : IssueId → Stage UserId} {task : Task} {s s' : Shared}

theorem onlyTask_self (user : UserId) (task : Task) : onlyTask user task user = task :=
  Function.update_self ..

theorem update_onlyTask (user : UserId) (task task' : Task) :
    Function.update (onlyTask user task) user task' = onlyTask user task' :=
  Function.update_idem ..

theorem clear_onlyTask (h : task.Clear) (other : UserId) : (onlyTask user task other).Clear := by
  by_cases hother : other = user
  · subst hother
    rw [onlyTask_self]
    exact h
  · rw [onlyTask, Function.update_of_ne hother]
    exact ⟨rfl, rfl, rfl, rfl, rfl⟩

/-- An operation on its way, in a state that is sound but for what it has left to do. -/
structure Underway (user : UserId) (program : Operation α) (ending : Ending α)
    (stage : IssueId → Stage UserId) (task : Task) (s : Shared) : Prop where
  sound : Sound stage s (onlyTask user task)
  conforms : Conforms undisturbed user program ending task s
  faithful : task.edits = false → Faithful stage s.view task

theorem Underway.reaches {program left : Operation α} {ending : Ending α}
    (h : Underway user program ending stage task s) (hreaches : Reaches False program s left s') :
    ∃ stage' task', Underway user left ending stage' task' s' ∧ task'.edits = task.edits ∧
      (s.store.Tidy → s'.store.Tidy) := by
  induction hreaches generalizing stage task with
  | refl => exact ⟨stage, task, h, rfl, id⟩
  | @step c next s s₁ s' reply left answer _ ih =>
    have htask := onlyTask_self user task
    have hfits := h.sound.place.ordered.fits user
    rw [htask] at hfits
    obtain ⟨task', hconducts, hnext⟩ :=
      h.conforms _ ⟨.inr rfl, h.sound.orderly, hfits⟩ _ _ answer
    have hconducts' := hconducts
    rw [← htask] at hconducts'
    obtain ⟨stage', hmoves, hsound⟩ := h.sound.act hconducts'
    have hfaithful : task'.edits = false → Faithful stage' s₁.view task' := by
      intro hedits
      rw [hconducts.act.edits] at hedits
      have hbefore := h.faithful hedits
      rw [← htask] at hbefore hedits
      exact hbefore.act h.sound.place h.sound.joined (fun _ _ => h.sound.orderly.id_of_record)
        hconducts'.act hedits hmoves hsound.place.kept
    rw [update_onlyTask] at hsound
    obtain ⟨stage₂, task₂, hlater, hedits, htidy⟩ := ih ⟨hsound, hnext, hfaithful⟩
    exact ⟨stage₂, task₂, hlater, hedits.trans hconducts.act.edits, fun h => htidy (hconducts.tidy h)⟩

/-- Between operations, whatever else is stored. -/
structure Balanced (s : Shared) : Prop where
  consistent : s.store.Consistent
  mirrored : s.store.Mirrored
  issued : ∀ id, s.store.find? (Issue.key id) ≠ none → id ∈ s.issued

/-- Between operations, when nothing else is stored. -/
structure Settled (s : Shared) : Prop extends Balanced s where
  tidy : s.store.Tidy

theorem settled_initial : Settled .initial := by
  have hempty := not_holds_initial
  refine ⟨⟨⟨⟨Store.orderly_empty, ?_⟩, ?_, ?_, ?_, ?_⟩, ?_, ?_⟩, Store.tidy_empty⟩
  · exact fun user _ kind _ entry _ he => absurd he (hempty user kind entry)
  · exact fun id =>
      ⟨fun h => absurd rfl h, fun ⟨user, kind, entry, he, _⟩ => absurd he (hempty user kind entry)⟩
  · exact fun user kind entry _ he => absurd he (hempty user kind entry)
  · exact fun user kind entry _ he => absurd he (hempty user kind entry)
  · exact fun user kind entry he => absurd he (hempty user kind entry)
  · exact fun user kind entry _ he => absurd he (hempty user kind entry)
  · exact fun id h => absurd rfl h

theorem Balanced.underway (h : Balanced s) {program : Operation α} {ending : Ending α} (edits : Bool)
    (hconforms : Conforms undisturbed user program ending { edits := edits } s) :
    ∃ stage, Underway user program ending stage { edits := edits } s := by
  obtain ⟨stage, hsound⟩ := exists_sound h.consistent h.issued
    (Function.update (fun _ => false) user edits)
  refine ⟨stage, ?_, hconforms, fun _ => ⟨?_, fun _ hissue => absurd hissue List.not_mem_nil,
    fun _ h => nomatch h⟩⟩
  · have htasks : (fun other => ({ edits := Function.update (fun _ => false) user edits other } : Task)) =
        onlyTask user { edits := edits } := by
      funext other
      by_cases hother : other = user
      · rw [hother, Function.update_self, onlyTask_self]
      · rw [Function.update_of_ne hother, onlyTask, Function.update_of_ne hother]
    rw [← htasks]
    exact hsound
  · rintro other kind id link ⟨entry, he, rfl, hlink⟩
    exact h.mirrored other kind entry link he hlink

/-- An operation that has run to its end leaves the state as its ending says. -/
theorem Balanced.ends (h : Balanced s) {program : Operation α} {ending : Ending α}
    {outcome : Outcome OperationError α} (edits : Bool)
    (hconforms : Conforms undisturbed user program ending { edits := edits } s)
    (hreaches : Reaches False program s (.ended outcome) s') :
    ∃ stage task, Underway user (.ended outcome) ending stage task s' ∧ task.edits = edits ∧
      (s.store.Tidy → s'.store.Tidy) := by
  obtain ⟨stage, hunderway⟩ := h.underway edits hconforms
  exact hunderway.reaches hreaches

end

/-! ## Edits -/

section

variable {user : UserId} {s s' : Shared} {id : IssueId} {change : Edit} {task : Task} {limits : Limits}

/-- What an edit can do to the records of a consistent store: nothing, or it writes the issue and its
counterpart, if it has one. -/
inductive Edits (user : UserId) (id : IssueId) (change : Edit) (view : View) : View → Prop where
  | refused : Edits user id change view view
  | single {kind : ListKind} {entry : Entry} {issue : Issue} (held : view.holds user kind entry)
      (same : entry.id = id) (unlinked : entry.link = none) (known : view.record id = some issue) :
      Edits user id change view (view.withRecord id (some (issue.edited change)))
  | both {kind : ListKind} {link : Link} {issue other : Issue} (linked : view.Linked user kind id link)
      (known : view.record id = some issue) (known' : view.record link.issue = some other) :
      Edits user id change view
        ((view.withRecord id (some (issue.edited change))).withRecord link.issue
          (some (other.edited change)))

/-- A counterpart that links back is found. -/
theorem conforms_livingCounterpart_linked {entry : Entry} {link : Link} {ending : Ending (Option Link)}
    (hlink : entry.link = some link) {kind : ListKind}
    (hback : s.view.Linked link.user kind link.issue ⟨user, entry.id⟩)
    (hending : ending (.ok (some link)) task s) :
    Conforms undisturbed user (livingCounterpart user entry) ending task s := by
  rw [livingCounterpart, hlink]
  refine conforms_bind (conforms_loadLists lenient_undisturbed fun s₁ hmeets => ?_)
  have hs₁ := hmeets.eq
  subst hs₁
  obtain ⟨half, he, hid, hhalf⟩ := hback
  have hfound := (hmeets.orderly.distinct link.user).findLinked_of_mem he hhalf
  rw [hid] at hfound
  obtain ⟨located, hfound⟩ := hfound
  rw [Ending.andThen]
  rw [hfound]
  exact hending

theorem linked_unique (h : s.store.Consistent) {user other : UserId} {kind kind' : ListKind}
    {link link' : Link} (hlinked : s.view.Linked user kind id link)
    (hlinked' : s.view.Linked other kind' id link') : user = other ∧ link = link' := by
  obtain ⟨entry, he, hid, hlink⟩ := hlinked
  obtain ⟨entry', he', hid', hlink'⟩ := hlinked'
  obtain rfl := h.unique.apart user other kind kind' entry entry' he he' (hid.trans hid'.symm)
  obtain ⟨-, rfl⟩ := (h.unique.orderly.distinct user).eq he he' (hid.trans hid'.symm)
  exact ⟨rfl, Option.some.inj (hlink.symm.trans hlink')⟩

theorem linked_back (h : s.store.Consistent) {user : UserId} {kind : ListKind} {link : Link}
    (hlinked : s.view.Linked user kind id link) :
    ∃ kind', s.view.Linked link.user kind' link.issue ⟨user, id⟩ := by
  obtain ⟨entry, he, rfl, hlink⟩ := hlinked
  obtain ⟨kind', entry', he', hid', hlink', -⟩ := h.paired user kind entry link he hlink
  exact ⟨kind', entry', he', hid', hlink'⟩

/-- The two halves of a todo are different issues. -/
theorem linked_ne (h : s.store.Consistent) {user : UserId} {kind : ListKind} {link : Link}
    (hlinked : s.view.Linked user kind id link) : link.issue ≠ id := by
  intro hsame
  obtain ⟨kind', hback⟩ := linked_back h hlinked
  rw [hsame] at hback
  have huser := (linked_unique h hlinked hback).1
  obtain ⟨entry, he, -, hlink⟩ := hlinked
  exact h.other user kind entry link he hlink huser.symm

theorem conforms_edit_alone (h : s.store.Consistent) (hedits : task.edits = true) :
    Conforms undisturbed user (edit limits user id change)
      (fun _ _ s' => Edits user id change s.view s'.view) task s := by
  refine conforms_bind (conforms_loadLists lenient_undisturbed fun s₁ hmeets => ?_)
  have hs₁ := hmeets.eq
  subst hs₁
  refine conforms_bind (conforms_ofExcept (fun located hlocated => ?_) fun _ _ => .refused)
  have hfind : (s₁.store.lists user).find id = some located := by
    cases hfind : (s₁.store.lists user).find id with
    | none =>
      rw [hfind] at hlocated
      exact nomatch hlocated
    | some found =>
      rw [hfind] at hlocated
      exact congrArg some (Except.ok.inj hlocated)
  obtain ⟨he, hid⟩ := UserLists.find_eq_some hfind
  refine conforms_bind (conforms_editRecord lenient_undisturbed hedits ?_ ?_)
  · intro s₂ hmeets₂ hmissing
    rw [hmeets₂.eq, ← hid] at hmissing
    exact absurd hmissing (record_ne_none h ⟨user, _, _, he, rfl⟩)
  intro s₂ s₃ issue hmeets₂ hissue hview
  have hs₂ := hmeets₂.eq
  subst hs₂
  show Conforms undisturbed user (Program.ofExcept _ >>= _) _ task s₃
  refine conforms_bind (conforms_ofExcept (fun message _ => ?_) fun _ hmissing => nomatch hmissing)
  cases hlink : located.entry.link with
  | none =>
    have hsingle : Edits user id change s₂.view (s₂.view.withRecord id (some (issue.edited change))) :=
      .single he hid hlink hissue
    rw [← hview] at hsingle
    refine conforms_bind ?_
    rw [livingCounterpart, hlink]
    exact hsingle
  | some link =>
    obtain ⟨kind', half, he', hid', hlink', -⟩ := h.paired user _ _ link he hlink
    have hne : link.issue ≠ id := linked_ne h ⟨_, he, hid, hlink⟩
    have hrecord' : s₃.store.record link.issue = s₂.store.record link.issue := by
      have hsame := congrArg (fun view => view.record link.issue) hview
      rw [View.record_withRecord, if_neg hne] at hsame
      exact hsame
    have hback : s₃.view.Linked link.user kind' link.issue ⟨user, located.entry.id⟩ := by
      rw [hview]
      exact ⟨half, he', hid', hlink'⟩
    refine conforms_bind (conforms_livingCounterpart_linked hlink hback ?_)
    refine conforms_bind (conforms_bind (conforms_editRecord lenient_undisturbed hedits ?_ ?_))
    · intro s₄ hmeets₄ hmissing
      rw [hmeets₄.eq, hrecord', ← hid'] at hmissing
      exact absurd hmissing (record_ne_none h ⟨link.user, _, _, he', rfl⟩)
    · intro s₄ s₅ other hmeets₄ hknown hview'
      have hs₄ := hmeets₄.eq
      subst hs₄
      have hboth : Edits user id change s₂.view
          ((s₂.view.withRecord id (some (issue.edited change))).withRecord link.issue
            (some (other.edited change))) :=
        .both ⟨_, he, hid, hlink⟩ hissue (hrecord'.symm.trans hknown)
      rw [← hview, ← hview'] at hboth
      exact hboth

/-- After an edit linked todos have the same content again. -/
theorem Edits.mirrored {view' : View} (hedits : Edits user id change s.view view')
    (h : s.store.Consistent) (hmirrored : s.store.Mirrored) {other : UserId} {kind : ListKind}
    {own : IssueId} {link : Link} (hlinked : view'.Linked other kind own link) :
    ∃ issue, view'.record own = some issue ∧
      view'.record link.issue = some (issue.counterpart link.issue) := by
  have hbefore : ∀ {other kind own link}, s.view.Linked other kind own link →
      ∃ issue, s.view.record own = some issue ∧
        s.view.record link.issue = some (issue.counterpart link.issue) := by
    rintro other kind own link ⟨entry, he, rfl, hlink⟩
    exact hmirrored other kind entry link he hlink
  cases hedits with
  | refused => exact hbefore hlinked
  | @single kind' entry issue held same unlinked known =>
    -- the issue has no link, so it is neither half of one
    have hne : ∀ {other kind own link}, s.view.Linked other kind own link → own ≠ id := by
      rintro other kind own link ⟨entry', he', hid', hlink'⟩ rfl
      obtain rfl := h.unique.apart _ _ _ _ _ _ he' held (hid'.trans same.symm)
      obtain ⟨-, rfl⟩ := (h.unique.orderly.distinct _).eq he' held (hid'.trans same.symm)
      exact nomatch unlinked.symm.trans hlink'
    obtain ⟨kind', hback⟩ := linked_back h hlinked
    rw [View.record_withRecord, View.record_withRecord, if_neg (hne hlinked), if_neg (hne hback)]
    exact hbefore hlinked
  | @both kind' tie issue counterpart linked known known' =>
    obtain ⟨kind'', hback⟩ := linked_back h linked
    obtain ⟨content, hrecord, hrecord'⟩ := hbefore linked
    cases known.symm.trans hrecord
    cases known'.symm.trans hrecord'
    have hne : tie.issue ≠ id := linked_ne h linked
    have hid : ((s.view.withRecord id (some (issue.edited change))).withRecord tie.issue
        (some ((issue.counterpart tie.issue).edited change))).record id = some (issue.edited change) := by
      rw [View.record_withRecord, if_neg hne.symm, View.record_withRecord, if_pos rfl]
    have htie : ((s.view.withRecord id (some (issue.edited change))).withRecord tie.issue
        (some ((issue.counterpart tie.issue).edited change))).record tie.issue =
          some ((issue.edited change).counterpart tie.issue) := by
      rw [View.record_withRecord, if_pos rfl]
      rfl
    by_cases hown : own = id
    · subst hown
      obtain ⟨-, rfl⟩ := linked_unique h hlinked linked
      exact ⟨issue.edited change, hid, htie⟩
    by_cases hown' : own = tie.issue
    · subst hown'
      obtain ⟨-, rfl⟩ := linked_unique h hlinked hback
      have hissue : issue.id = id := h.unique.orderly.id_of_record known
      refine ⟨_, htie, hid.trans (congrArg some ?_)⟩
      rw [← hissue]
      exact ((issue.edited change).counterpart_counterpart tie.issue).symm
    · have hfar : link.issue ≠ id ∧ link.issue ≠ tie.issue := by
        obtain ⟨kind₃, hback'⟩ := linked_back h hlinked
        constructor <;> intro hsame <;> rw [hsame] at hback'
        · exact hown' (congrArg Link.issue (linked_unique h linked hback').2).symm
        · exact hown (congrArg Link.issue (linked_unique h hback hback').2).symm
      rw [View.record_withRecord, if_neg hown', View.record_withRecord, if_neg hown,
        View.record_withRecord, if_neg hfar.2, View.record_withRecord, if_neg hfar.1]
      exact hbefore hlinked

end

/-! ## Runs -/

section

variable {s s' : Shared}

/-- An operation leaves both halves of a link with the same content. -/
theorem Balanced.mirrored_of_run (h : Balanced s) {outcome : Outcome OperationError Unit} (limits : Limits)
    (action : Action) (run : Reaches False (action.program limits) s (.ended outcome) s') :
    s'.store.Mirrored := by
  rintro user kind entry link he hlink
  cases hedits : action.isEdit with
  | false =>
    obtain ⟨stage, task, hend, htask, -⟩ :=
      h.ends action.isEdit (action.conforms undisturbed limits s) run
    exact (hend.faithful (htask.trans hedits)).linked user kind entry.id link ⟨entry, he, rfl, hlink⟩
  | true =>
    cases action with
    | edit editor id change =>
      have hconforms : Conforms undisturbed editor ((Action.edit editor id change).program limits)
          (fun _ _ s' => Edits editor id change s.view s'.view) { edits := true } s := by
        refine conforms_bind (conforms_mono (conforms_edit_alone h.consistent rfl) ?_)
        intro outcome task s₁ hview
        cases outcome <;> exact hview
      obtain ⟨stage, task, hend, -⟩ := h.ends true hconforms run
      exact Edits.mirrored hend.conforms h.consistent h.mirrored ⟨entry, he, rfl, hlink⟩
    | _ => exact nomatch hedits

theorem Balanced.run (h : Balanced s) {outcome : Outcome OperationError Unit} (limits : Limits)
    (action : Action) (run : Reaches False (action.program limits) s (.ended outcome) s') :
    Balanced s' ∧ (s.store.Tidy → s'.store.Tidy) := by
  obtain ⟨stage, task, hend, -, htidy⟩ := h.ends action.isEdit (action.conforms undisturbed limits s) run
  have hclear : task.Clear := (hend.conforms.resolve_left (not_interrupted outcome)).1
  exact ⟨⟨hend.sound.consistent (clear_onlyTask hclear), h.mirrored_of_run limits action run,
    fun id => hend.sound.mem_issued⟩, htidy⟩

theorem Settled.run (h : Settled s) {outcome : Outcome OperationError Unit} (limits : Limits)
    (action : Action) (run : Reaches False (action.program limits) s (.ended outcome) s') : Settled s' := by
  obtain ⟨hbalanced, htidy⟩ := h.toBalanced.run limits action run
  exact ⟨hbalanced, htidy h.tidy⟩

theorem Performed.settled (h : Performed s) : Settled s := by
  induction h with
  | initial => exact settled_initial
  | perform before limits action run ih => exact ih.run limits action run

/-- Operations one after the other keep the store consistent: every lists document decodes and is not empty,
identifiers are unique, records are those of the listed issues, links are mutual between a sent and another
list, todos without a link are in the own list, and linked todos have the same content. -/
theorem performed_consistent (h : Performed s) :
    s.store.Consistent ∧ s.store.Tidy ∧ s.store.Mirrored :=
  ⟨h.settled.consistent, h.settled.tidy, h.settled.mirrored⟩

theorem exists_sent (limits : Limits) {user receiver : UserId} (hother : user ≠ receiver) (draft : Draft)
    {sent received : IssueId} (hne : received ≠ sent) :
    ∃ s, Performed s ∧ s.view.Linked user .out sent ⟨receiver, received⟩ ∧
      s.view.Linked receiver .inbox received ⟨user, sent⟩ := by
  obtain ⟨s, hsend, -, hview⟩ :=
    @reaches_send_initial False user limits receiver hother draft sent received hne
  have hrun : Reaches False ((Action.send user receiver draft).program limits) .initial (pure ()) s :=
    hsend.bind (.refl _ _)
  refine ⟨s, .perform .initial limits (.send user receiver draft) hrun, ?_, ?_⟩
  · rw [hview]
    exact ⟨_, .inl ⟨.inr ⟨rfl, rfl⟩, nofun⟩, rfl, rfl⟩
  · rw [hview]
    exact ⟨_, .inr ⟨rfl, rfl⟩, rfl, rfl⟩

theorem sent_consistent :
    ∃ s, Performed s ∧ s.view.Linked ⟨"amy"⟩ .out ⟨1⟩ ⟨⟨"ben"⟩, ⟨2⟩⟩ ∧ s.store.Consistent ∧ s.store.Tidy ∧
      s.store.Mirrored := by
  obtain ⟨s, hperformed, hlinked, -⟩ := @exists_sent ⟨5, 5⟩ ⟨"amy"⟩ ⟨"ben"⟩ (by decide)
    ⟨"milk", none, none⟩ ⟨1⟩ ⟨2⟩ (by decide)
  exact ⟨s, hperformed, hlinked, performed_consistent hperformed⟩

end

end SharedTodo.Exchange
