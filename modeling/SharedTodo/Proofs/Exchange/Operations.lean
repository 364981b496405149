import SharedTodo.Proofs.Exchange.Conduct

/-!
# The operations conform

Every operation conforms to its task, call by call, among other clients and under failures. An operation that
is not interrupted leaves nothing to be done (`Task.Clear`): no record without an entry, no link half
dissolved, no counterpart undelivered. That is so however it ends, with a result or with a refusal, and also
when a removal of the first todo has used up its rounds.
-/

namespace SharedTodo.Exchange

/-- The task of a client that has not begun, or is done with all it has begun and has not reassigned. -/
structure Task.Begins (task : Task) : Prop extends task.Free where
  ready : task.ready = []

theorem Task.Begins.clear {task : Task} (h : task.Begins) : task.Clear :=
  ⟨h.ready, h.offer, h.taken, h.loose, h.orphan⟩

/-- Where an operation ends that was not interrupted, nothing is left to be done. -/
def Mode.Settles {α : Type} (mode : Mode) (more : Outcome OperationError α → Task → Prop) : Ending α :=
  fun outcome task _ => mode.Interrupted outcome ∨ (task.Clear ∧ more outcome task)

/-! ## What operations make of lists -/

/-- What can become of the lists that the counterpart of an entry is in. -/
inductive TakesHalf (owner : UserId) (own foreign : IssueId) (lists : UserLists) :
    UserLists → Half → Prop where
  | missing (absent : ∀ kind entry, entry ∈ lists.list kind → entry.id ≠ foreign) :
    TakesHalf owner own foreign lists lists .missing
  | stale {kind : ListKind} {entry : Entry} (listed : entry ∈ lists.list kind) (same : entry.id = foreign)
      (elsewhere : entry.link ≠ some ⟨owner, own⟩) : TakesHalf owner own foreign lists lists .stale
  | removed {kind : ListKind} {entry : Entry} {revised : UserLists} (listed : entry ∈ lists.list kind)
      (same : entry.id = foreign) (back : entry.link = some ⟨owner, own⟩)
      (revision : UserLists.Revision lists revised (some entry) none) :
    TakesHalf owner own foreign lists revised .removed

theorem map_require_eq_ok {α β : Type} {absence : Absence} {found : Option α} {f : α → β} {value : β}
    (h : (require absence found).map f = .ok value) : ∃ a, found = some a ∧ f a = value := by
  cases found with
  | none => exact nomatch h
  | some a => exact ⟨a, rfl, Except.ok.inj h⟩

theorem map_require_eq_error {α β : Type} {absence : Absence} {found : Option α} {f : α → β}
    {failure : OperationError} (h : (require absence found).map f = .error failure) : found = none := by
  cases found with
  | none => rfl
  | some a => exact nomatch h

variable {lists revised : UserLists}

theorem takeEntry_exact {id : IssueId} {located : Located}
    (h : takeEntry id lists = .ok (revised, located)) :
    located.entry ∈ lists.list located.list ∧ located.entry.id = id ∧
      revised = lists.erase located.list located.entry.id := by
  obtain ⟨⟨located', rest⟩, hremove, hpair⟩ := map_require_eq_ok h
  cases hpair
  obtain ⟨hfind, rfl⟩ := UserLists.remove_eq_some_iff.1 hremove
  obtain ⟨hmem, hid⟩ := UserLists.find_eq_some hfind
  exact ⟨hmem, hid, by rw [hid]⟩

theorem replaceEntry_exact {id : IssueId} {kind : ListKind} {new entry : Entry}
    (h : replaceEntry id kind new lists = .ok (revised, entry)) :
    ∃ kind', entry ∈ lists.list kind' ∧ entry.id = id ∧
      revised = (lists.erase kind' entry.id).pushed kind new := by
  obtain ⟨⟨located, rest⟩, hremove, hpair⟩ := map_require_eq_ok h
  cases hpair
  obtain ⟨hfind, rfl⟩ := UserLists.remove_eq_some_iff.1 hremove
  obtain ⟨hmem, hid⟩ := UserLists.find_eq_some hfind
  exact ⟨located.list, hmem, hid, by rw [hid]⟩

/-- An entry is missing only when the lists do not name the issue. -/
theorem replaceEntry_eq_error {id : IssueId} {kind : ListKind} {new : Entry} {failure : OperationError}
    (h : replaceEntry id kind new lists = .error failure) :
    ∀ kind', ∀ entry ∈ lists.list kind', entry.id ≠ id :=
  UserLists.find_eq_none_iff.1 (Option.map_eq_none_iff.1 (map_require_eq_error h))

theorem takeHead_exact {entry : Entry} (h : takeHead lists = .ok (revised, entry)) :
    entry ∈ lists.list .my ∧ revised = lists.erase .my entry.id := by
  obtain ⟨⟨entry', rest⟩, hpop, hpair⟩ := map_require_eq_ok h
  cases hpair
  exact UserLists.popFront_eq_some hpop

theorem acceptEntry_exact {id : IssueId} {entry : Entry} (h : acceptEntry id lists = .ok (revised, entry)) :
    entry ∈ lists.list .inbox ∧ revised = (lists.erase .inbox entry.id).pushed .my entry := by
  obtain ⟨⟨entry', rest⟩, hremove, hpair⟩ := map_require_eq_ok h
  cases hpair
  obtain ⟨hmem, -, rfl⟩ := UserLists.removeFrom_eq_some hremove
  exact ⟨hmem, rfl⟩

section

variable (hdistinct : lists.Distinct)

include hdistinct

theorem takeEntry_eq_ok {id : IssueId} {located : Located}
    (h : takeEntry id lists = .ok (revised, located)) :
    located.entry ∈ lists.list located.list ∧ located.entry.id = id ∧
      UserLists.Revision lists revised (some located.entry) none := by
  obtain ⟨hmem, hid, rfl⟩ := takeEntry_exact h
  exact ⟨hmem, hid, UserLists.revision_erase hdistinct hmem⟩

theorem replaceEntry_eq_ok {id : IssueId} {kind : ListKind} {new entry : Entry} (hnew : new.id = id)
    (h : replaceEntry id kind new lists = .ok (revised, entry)) :
    entry.id = id ∧ UserLists.Revision lists revised (some entry) (some (kind, new)) ∧
      ∃ kind', entry ∈ lists.list kind' := by
  obtain ⟨kind', hmem, hid, rfl⟩ := replaceEntry_exact h
  exact ⟨hid, UserLists.revision_replace hdistinct hmem (hnew.trans hid.symm), kind', hmem⟩

theorem takeHead_eq_ok {entry : Entry} (h : takeHead lists = .ok (revised, entry)) :
    entry ∈ lists.list .my ∧ UserLists.Revision lists revised (some entry) none := by
  obtain ⟨hmem, rfl⟩ := takeHead_exact h
  exact ⟨hmem, UserLists.revision_erase hdistinct hmem⟩

theorem acceptEntry_eq_ok {id : IssueId} {entry : Entry}
    (h : acceptEntry id lists = .ok (revised, entry)) :
    entry ∈ lists.list .inbox ∧ UserLists.Revision lists revised (some entry) (some (.my, entry)) := by
  obtain ⟨hmem, rfl⟩ := acceptEntry_exact h
  exact ⟨hmem, UserLists.revision_replace hdistinct hmem rfl⟩

theorem takesHalf_takeCounterpart (owner : UserId) (own foreign : IssueId) :
    TakesHalf owner own foreign lists (takeCounterpart owner own foreign lists).1
      (takeCounterpart owner own foreign lists).2 := by
  rw [takeCounterpart]
  split
  · next hfind => exact .missing (UserLists.find_eq_none_iff.1 hfind)
  · next located hfind =>
    obtain ⟨hmem, hid⟩ := UserLists.find_eq_some hfind
    split
    · next hback =>
      have hrevision := UserLists.revision_erase hdistinct hmem
      rw [hid] at hrevision
      exact .removed hmem hid (by simpa [Entry.linksTo] using hback) hrevision
    · next hback => exact .stale hmem hid (by simpa [Entry.linksTo] using hback)

/-- Bumping changes the order at most. -/
theorem revision_bumpEntry (sender : UserId) (sent received : IssueId) :
    UserLists.Revision lists (bumpEntry sender sent received lists).1 none none := by
  rw [bumpEntry]
  split
  · split
    · next hmoved => exact UserLists.revision_moveToFront hdistinct hmoved
    · exact UserLists.revision_self hdistinct
  · exact UserLists.revision_self hdistinct

end

section

variable {mode : Mode} {user : UserId} {α : Type} {task : Task} {s : Shared} {limits : Limits}

theorem lenient_settles {more : Outcome OperationError α → Task → Prop} :
    (mode.Settles more).Lenient mode task :=
  fun _ _ h => .inl h

/-! ## TakesHalf of operations -/

theorem conforms_pushEntry {other : UserId} {kind : ListKind} {entry : Entry} {ending : Ending Unit}
    {task' : Task} (hlenient : ending.Lenient mode task)
    (hnew : ∀ s₁, mode.Meets task s s₁ → ¬ s₁.view.Listed entry.id)
    (hact : ∀ view, Act user task view task' (view.revise other none (some (kind, entry))))
    (hending : ∀ s₁ s₂, mode.Meets task s s₁ →
      s₂.view = s₁.view.revise other none (some (kind, entry)) → ending (.ok ()) task' s₂) :
    Conforms mode user (pushEntry limits other kind entry) ending task s := by
  refine conforms_updateLists hlenient (fun _ _ _ h => by cases h) ?_
  intro s₁ revised outcome hmeets hchange
  cases hchange
  refine ⟨none, some (kind, entry), task', ?_, hact _, fun s₂ hview => hending s₁ s₂ hmeets hview⟩
  refine UserLists.revision_pushed (hmeets.orderly.distinct other) kind fun kind' e he hid => ?_
  exact hnew s₁ hmeets ⟨other, kind', e, he, hid⟩

/-- The record and the tie of an entry given up are dealt with, whatever has become of the counterpart. -/
theorem conforms_dissolve {entry : Entry} {ending : Ending (Option UserId)}
    (hlenient : ∀ task, ending.Lenient mode task) (hloose : task.loose = entry.tie)
    (horphan : task.orphan = none)
    (hending : ∀ result s₂, ending (.ok result) { task with loose := none, orphan := none } s₂) :
    Conforms mode user (dissolve limits user entry) ending task s := by
  rw [dissolve]
  cases hlink : entry.link with
  | none =>
    have htie : task.loose = none := by rw [hloose, Entry.tie, hlink]; rfl
    have htask : task = { task with loose := none, orphan := none } := by
      cases task
      cases htie
      cases horphan
      rfl
    rw [htask]
    exact hending none s
  | some link =>
    have htie : task.loose = some (entry.id, link) := by rw [hloose, Entry.tie, hlink]; rfl
    have hdelete : ∀ result s₂, Conforms mode user
        (deleteIssue link.issue >>= fun _ => pure result) ending
        { task with loose := none, orphan := some link.issue } s₂ := by
      intro result s₂
      refine conforms_bind (conforms_deleteIssue (hlenient _).andThen fun s₃ _ => ?_)
      exact ⟨_, .drop link.issue rfl, fun s₄ _ => hending result s₄⟩
    refine conforms_bind (conforms_updateLists (hlenient _).andThen (fun _ _ _ h => by cases h) ?_)
    intro s₁ revised half hmeets hchange
    have hdistinct := hmeets.orderly.distinct link.user
    have htakes := takesHalf_takeCounterpart hdistinct user entry.id link.issue
    rw [Except.ok.inj hchange] at htakes
    cases htakes with
    | missing absent =>
      refine ⟨none, none, _, UserLists.revision_self hdistinct, ?_, fun s₂ _ => hdelete none s₂⟩
      rw [View.revise_none]
      exact .lose entry.id link htie horphan absent
    | removed listed same back hrevision =>
      exact ⟨_, none, _, hrevision, .sever entry.id link _ _ htie horphan listed same back,
        fun s₂ _ => hdelete _ s₂⟩
    | stale listed same elsewhere =>
      refine ⟨none, none, { task with loose := none }, UserLists.revision_self hdistinct, ?_, ?_⟩
      · rw [View.revise_none]
        exact .leave entry.id link _ _ htie listed same elsewhere
      · intro s₂ _
        have htask : { task with loose := none } = { task with loose := none, orphan := none } := by
          rw [← horphan]
        rw [htask]
        exact hending none s₂

theorem conforms_livingCounterpart {entry : Entry} {ending : Ending (Option Link)}
    (hlenient : ending.Lenient mode task) (hending : ∀ result s₂, ending (.ok result) task s₂) :
    Conforms mode user (livingCounterpart user entry) ending task s := by
  rw [livingCounterpart]
  cases entry.link with
  | none => exact hending none s
  | some link =>
    refine conforms_bind (conforms_loadLists hlenient.andThen fun s₁ _ => ?_)
    rw [Ending.andThen]
    split
    · exact hending (some link) s₁
    · exact hending none s₁

/-! ## New todos -/

theorem conforms_newId {ending : Ending IssueId}
    (hending : ∀ id s₂, id ∉ task.fresh → ending (.ok id) { task with fresh := id :: task.fresh } s₂) :
    Conforms mode user Program.freshId ending task s :=
  conforms_freshId fun id _ hmeets hunused =>
    hending id _ fun hmem => hunused (hmeets.fits.fresh id hmem)

theorem conforms_newIssue {draft : Draft} {ending : Ending Issue}
    (hending : ∀ issue s₂, issue.id ∉ task.fresh →
      ending (.ok issue) { task with fresh := issue.id :: task.fresh } s₂) :
    Conforms mode user (newIssue draft) ending task s := by
  refine conforms_bind (conforms_newId fun id s₁ hid => ?_)
  refine conforms_bind (conforms_now fun now s₂ _ => ?_)
  exact hending (Issue.ofDraft draft id now) s₂ hid

theorem conforms_newCounterpart {issue : Issue} {ending : Ending Issue}
    (hending : ∀ id s₂, id ∉ task.fresh →
      ending (.ok (issue.counterpart id)) { task with fresh := id :: task.fresh } s₂) :
    Conforms mode user (newCounterpart issue) ending task s := by
  refine conforms_bind (conforms_newId fun id s₁ hid => ?_)
  exact hending id s₁ hid

theorem conforms_add {draft : Draft} (hbegins : task.Begins) :
    Conforms mode user (add limits user draft) (mode.Settles fun _ task => task.spent = false) task s := by
  refine conforms_bind (conforms_newIssue fun issue s₁ _ => ?_)
  refine conforms_bind (conforms_saveIssue lenient_settles.andThen List.mem_cons_self fun s₁ s₂ _ _ => ?_)
  refine conforms_bind (conforms_pushEntry lenient_settles.andThen
    (fun s₁ hmeets => hmeets.fits.ready issue List.mem_cons_self)
    (fun view => .list issue List.mem_cons_self) fun s₁ s₂ _ _ => .inr ?_)
  refine ⟨⟨?_, hbegins.offer, hbegins.taken, hbegins.loose, hbegins.orphan⟩, hbegins.unspent⟩
  simp [without, hbegins.ready]

theorem conforms_send {receiver : UserId} {draft : Draft} (hbegins : task.Begins) :
    Conforms mode user (send limits user receiver draft)
      (mode.Settles fun _ task => task.spent = false) task s := by
  rw [send]
  split
  · exact .inr ⟨hbegins.clear, hbegins.unspent⟩
  · next hself =>
    refine conforms_bind (conforms_requireUser ?_ fun s₁ _ => ?_)
    · exact fun _ _ _ => .inr ⟨hbegins.clear, hbegins.unspent⟩
    refine conforms_bind (conforms_newIssue fun sent s₂ _ => ?_)
    refine conforms_bind (conforms_newCounterpart fun id s₃ hid => ?_)
    have hne : sent.id ≠ id := fun e => hid (List.mem_cons.2 (.inl e.symm))
    refine conforms_bind (conforms_saveIssue lenient_settles.andThen (by simp) fun s₁ s₂ _ _ => ?_)
    refine conforms_bind (conforms_saveIssue lenient_settles.andThen
      (by simp [Issue.counterpart, hne.symm]) fun s₁ s₂ _ _ => ?_)
    have hfree := hbegins.toFree
    refine conforms_bind (conforms_pushEntry lenient_settles.andThen
      (fun s₁ hmeets => hmeets.fits.ready sent (by simp))
      (fun view => .publish sent (sent.counterpart id) receiver (by simp) (by simp) rfl hne
        (fun e => hself e.symm)
        ⟨hfree.unspent, hfree.offer, hfree.taken, hfree.loose, hfree.orphan⟩)
      fun s₁ s₂ _ _ => ?_)
    refine conforms_bind (conforms_pushEntry lenient_settles.andThen
      (fun s₁ hmeets => hmeets.fits.offer sent.id ⟨receiver, id⟩ rfl)
      (fun view => .deliver sent.id ⟨receiver, id⟩ rfl hfree.loose) fun s₁ s₂ _ _ => .inr ?_)
    refine ⟨⟨?_, rfl, hfree.taken, hfree.loose, hfree.orphan⟩, hfree.unspent⟩
    simp [without, hbegins.ready, Issue.counterpart]

/-! ## Finished and removed todos -/

theorem conforms_take {id : IssueId} (hbegins : task.Begins) :
    Conforms mode user (take limits user id)
      (mode.Settles fun outcome task =>
        task.spent = false ∧ ((∃ value, outcome = .ok value) → id ∈ task.gone)) task s := by
  refine conforms_bind (conforms_requireIssue lenient_settles.andThen ?_ fun s₁ issue _ _ _ => ?_)
  · refine fun s₁ _ _ => .inr ⟨hbegins.clear, hbegins.unspent, ?_⟩
    exact fun ⟨value, h⟩ => nomatch h
  have hfree : Task.Free { task with seen := some issue } :=
    ⟨hbegins.unspent, hbegins.offer, hbegins.taken, hbegins.loose, hbegins.orphan⟩
  refine conforms_bind (conforms_updateLists lenient_settles.andThen ?_ ?_)
  · refine fun s₁ _ _ _ => .inr ⟨⟨hbegins.ready, hfree.offer, hfree.taken, hfree.loose, hfree.orphan⟩,
      hfree.unspent, fun ⟨value, h⟩ => nomatch h⟩
  · intro s₁ revised located hmeets hchange
    obtain ⟨hmem, hid, hrevision⟩ := takeEntry_eq_ok (hmeets.orderly.distinct user) hchange
    refine ⟨_, none, _, hrevision, .take _ _ hmem hfree, fun s₂ _ => ?_⟩
    refine conforms_bind (conforms_dissolve (fun _ => lenient_settles.andThen) rfl hfree.orphan ?_)
    intro result s₃
    refine conforms_bind (conforms_deleteIssue lenient_settles.andThen fun s₄ _ => ?_)
    refine ⟨_, .finish id (congrArg some hid) rfl, fun s₅ _ => .inr ?_⟩
    refine ⟨⟨hbegins.ready, hfree.offer, rfl, rfl, rfl⟩, hfree.unspent, fun _ => ?_⟩
    exact List.mem_cons.2 (.inl hid.symm)

/-- Undisturbed, whatever is listed and has a record can be completed. -/
theorem conforms_complete_listed {limits : Limits} {id : IssueId} (hbegins : task.Begins)
    (hrecord : s.store.record id ≠ none)
    (hlisted : ∃ kind, ∃ entry ∈ (s.store.lists user).list kind, entry.id = id) :
    Conforms undisturbed user (complete limits user id)
      (fun outcome task _ => (∃ completed, outcome = .ok completed) ∧ id ∈ task.gone) task s := by
  refine conforms_bind (conforms_requireIssue lenient_undisturbed ?_ fun s₁ issue hmeets _ _ => ?_)
  · intro s₁ hmeets hmissing
    rw [hmeets.eq] at hmissing
    exact absurd hmissing hrecord
  have hs₁ := hmeets.eq
  subst hs₁
  refine conforms_bind (conforms_updateLists lenient_undisturbed ?_ ?_)
  · intro s₂ failure hmeets₂ hrefused
    rw [hmeets₂.eq, takeEntry, UserLists.remove] at hrefused
    obtain ⟨kind, entry, he, hid⟩ := hlisted
    cases hfind : (s₁.store.lists user).find id with
    | none => exact absurd hid (UserLists.find_eq_none_iff.1 hfind kind entry he)
    | some located =>
      rw [hfind] at hrefused
      cases hrefused
  · intro s₂ revised located hmeets₂ hchange
    obtain ⟨hmem, hid, hrevision⟩ := takeEntry_eq_ok (hmeets₂.orderly.distinct user) hchange
    refine ⟨_, none, _, hrevision, .take _ _ hmem ⟨hbegins.unspent, hbegins.offer, hbegins.taken,
      hbegins.loose, hbegins.orphan⟩, fun s₃ _ => ?_⟩
    refine conforms_bind (conforms_dissolve (fun _ => lenient_undisturbed) rfl hbegins.orphan ?_)
    intro result s₄
    refine conforms_bind (conforms_deleteIssue lenient_undisturbed fun s₅ _ => ?_)
    exact ⟨_, .finish id (congrArg some hid) rfl, fun s₆ _ => ⟨⟨_, rfl⟩, List.mem_cons.2 (.inl hid.symm)⟩⟩

theorem conforms_remove {id : IssueId} (hbegins : task.Begins) :
    Conforms mode user (remove limits user id)
      (mode.Settles fun outcome task =>
        task.spent = false ∧ ((∃ value, outcome = .ok value) → id ∈ task.gone)) task s := by
  refine conforms_bind (conforms_mono (conforms_take hbegins) fun outcome task s h => ?_)
  match outcome with
  | .ok taken => exact h.imp_right fun h => ⟨h.1, h.2.1, fun _ => h.2.2 ⟨taken, rfl⟩⟩
  | .error failure => exact h.imp_right fun h => ⟨h.1, h.2.1, fun ⟨value, he⟩ => nomatch he⟩
  | .unfinished => exact h.imp_right fun h => ⟨h.1, h.2.1, fun ⟨value, he⟩ => nomatch he⟩

theorem conforms_popWithin (rounds : Nat) (hbegins : task.Begins) :
    Conforms mode user (popWithin limits user rounds) (mode.Settles fun _ task => task.spent = false)
      task s := by
  induction rounds generalizing task s with
  | zero => exact .inr ⟨hbegins.clear, hbegins.unspent⟩
  | succ rounds ih =>
    refine conforms_bind (conforms_updateLists lenient_settles.andThen ?_ ?_)
    · exact fun s₁ _ _ _ => .inr ⟨hbegins.clear, hbegins.unspent⟩
    · intro s₁ revised entry hmeets hchange
      obtain ⟨hmem, hrevision⟩ := takeHead_eq_ok (hmeets.orderly.distinct user) hchange
      refine ⟨_, none, _, hrevision, .take _ _ hmem hbegins.toFree, fun s₂ _ => ?_⟩
      refine conforms_bind (conforms_loadIssue lenient_settles.andThen fun s₃ hmeets₃ => ?_)
      cases hrecord : s₃.store.record entry.id with
      | none =>
        refine ⟨_, .skip entry.id rfl hrecord fun own link h => (Entry.tie_eq_some.1 h).1.symm,
          ih ⟨⟨?_, ?_, rfl, rfl, ?_⟩, ?_⟩⟩
        · exact hbegins.unspent
        · exact hbegins.offer
        · exact hbegins.orphan
        · exact hbegins.ready
      | some issue =>
        refine ⟨_, .rest, ?_⟩
        have hid := hmeets₃.orderly.id_of_record hrecord
        refine conforms_bind (conforms_dissolve (fun _ => lenient_settles.andThen) rfl hbegins.orphan ?_)
        intro result s₄
        refine conforms_bind (conforms_deleteIssue lenient_settles.andThen fun s₅ _ => ?_)
        rw [hid]
        refine ⟨_, .finish entry.id rfl rfl, fun s₆ _ => .inr ?_⟩
        exact ⟨⟨hbegins.ready, hbegins.offer, rfl, rfl, rfl⟩, hbegins.unspent⟩

/-! ## Accepted, bumped and edited todos -/

theorem conforms_accept {id : IssueId} (hbegins : task.Begins) :
    Conforms mode user (accept limits user id) (mode.Settles fun _ task => task.spent = false) task s := by
  refine conforms_bind (conforms_requireIssue lenient_settles.andThen ?_ fun s₁ issue _ _ _ => ?_)
  · exact fun _ _ _ => .inr ⟨hbegins.clear, hbegins.unspent⟩
  have hend : Task.Clear { task with seen := some issue } ∧ task.spent = false :=
    ⟨⟨hbegins.ready, hbegins.offer, hbegins.taken, hbegins.loose, hbegins.orphan⟩, hbegins.unspent⟩
  refine conforms_bind (conforms_updateLists lenient_settles.andThen (fun _ _ _ _ => .inr hend) ?_)
  intro s₁ revised entry hmeets hchange
  obtain ⟨hmem, hrevision⟩ := acceptEntry_eq_ok (hmeets.orderly.distinct user) hchange
  refine ⟨_, _, _, hrevision, .move entry hmem, fun s₂ _ => ?_⟩
  exact conforms_bind (conforms_livingCounterpart lenient_settles.andThen fun _ _ => .inr hend)

theorem conforms_bump {id : IssueId} (hbegins : task.Begins) :
    Conforms mode user (bump limits user id) (mode.Settles fun _ task => task.spent = false) task s := by
  have hend := hbegins.clear
  refine conforms_bind (conforms_loadLists lenient_settles.andThen fun s₁ _ => ?_)
  refine conforms_bind (conforms_ofExcept (fun entry _ => ?_) fun _ _ => .inr ⟨hend, hbegins.unspent⟩)
  rw [Ending.andThen]
  cases entry.link with
  | none => exact .inr ⟨hend, hbegins.unspent⟩
  | some link =>
    refine conforms_bind (conforms_requireIssue lenient_settles.andThen ?_ fun s₁ issue _ _ _ => ?_)
    · exact fun _ _ _ => .inr ⟨hend, hbegins.unspent⟩
    refine conforms_bind (conforms_updateLists lenient_settles.andThen (fun _ _ _ h => by cases h) ?_)
    intro s₂ revised bumped hmeets hchange
    have hrevision := revision_bumpEntry (hmeets.orderly.distinct link.user) user id link.issue
    rw [Except.ok.inj hchange] at hrevision
    refine ⟨none, none, _, hrevision, .rest_revise link.user, fun s₃ _ => ?_⟩
    have hdone : Task.Clear { task with seen := some issue } :=
      ⟨hbegins.ready, hbegins.offer, hbegins.taken, hbegins.loose, hbegins.orphan⟩
    cases bumped <;> exact .inr ⟨hdone, hbegins.unspent⟩

theorem conforms_edit {id : IssueId} {change : Edit} (hbegins : task.Begins) (hedits : task.edits = true) :
    Conforms mode user (edit limits user id change) (mode.Settles fun _ task => task.spent = false)
      task s := by
  have hend : task.Clear ∧ task.spent = false := ⟨hbegins.clear, hbegins.unspent⟩
  refine conforms_bind (conforms_loadLists lenient_settles.andThen fun s₁ _ => ?_)
  refine conforms_bind (conforms_ofExcept (fun located _ => ?_) fun _ _ => .inr hend)
  have hrest : ∀ message s₂, Conforms mode user (do
        let oldMessage ← Program.ofExcept (require (.issue id) message)
        let counterpart ← livingCounterpart user located.entry
        let foreignUser ← editCounterpart limits change counterpart
        pure (⟨foreignUser, located.list, oldMessage⟩ : Edited))
      (mode.Settles fun _ task => task.spent = false) task s₂ := by
    intro message s₂
    refine conforms_bind (conforms_ofExcept (fun old _ => ?_) fun _ _ => .inr hend)
    refine conforms_bind (conforms_livingCounterpart lenient_settles.andThen fun counterpart s₃ => ?_)
    refine conforms_bind ?_
    cases counterpart with
    | none => exact .inr hend
    | some link =>
      refine conforms_bind (conforms_editRecord lenient_settles.andThen.andThen hedits ?_ ?_)
      · exact fun s₄ _ _ => .inr hend
      · exact fun s₄ s₅ issue _ _ _ => .inr hend
  refine conforms_bind (conforms_editRecord lenient_settles.andThen hedits ?_ ?_)
  · exact fun s₂ _ _ => hrest none s₂
  · exact fun s₂ s₃ issue _ _ _ => hrest _ s₃

/-! ## Reassigned todos -/

theorem conforms_keep {id : IssueId} {issue : Issue} (hbegins : task.Begins) :
    Conforms mode user (keep limits user issue id) (mode.Settles fun _ _ => True) task s := by
  refine conforms_bind (conforms_updateLists lenient_settles.andThen ?_ ?_)
  · exact fun _ _ _ _ => .inr ⟨hbegins.clear, trivial⟩
  · intro s₁ revised old hmeets hchange
    obtain ⟨rfl, hrevision, kind, hmem⟩ :=
      replaceEntry_eq_ok (hmeets.orderly.distinct user) rfl hchange
    refine ⟨_, _, _, hrevision, .keep kind old hmem hbegins.toFree, fun s₂ _ => ?_⟩
    refine conforms_bind (conforms_dissolve (fun _ => lenient_settles.andThen) rfl hbegins.orphan ?_)
    exact fun _ _ => .inr ⟨⟨hbegins.ready, hbegins.offer, hbegins.taken, rfl, rfl⟩, trivial⟩

theorem conforms_handOver {newOwner : UserId} {id : IssueId} {issue : Issue} (hbegins : task.Begins)
    (hseen : task.seen = some issue) (hid : issue.id = id) (hother : newOwner ≠ user) :
    Conforms mode user (handOver limits user newOwner issue id) (mode.Settles fun _ _ => True) task s := by
  refine conforms_bind (conforms_newCounterpart fun new s₁ _ => ?_)
  refine conforms_bind (conforms_saveIssue lenient_settles.andThen List.mem_cons_self fun s₁ s₂ _ _ => ?_)
  -- the copy has no entry yet, and goes again when the lists cannot be changed
  have hdiscard : ∀ (ready : List Issue) (fresh : List IssueId) (failure : OperationError) (s₃ : Shared),
      ready = [issue.counterpart new] →
      Conforms mode user (deleteIssue (issue.counterpart new).id >>= fun _ => Program.fail failure)
        (mode.Settles fun (_ : Outcome OperationError Reassigned) _ => True)
        { task with fresh := fresh, ready := ready } s₃ := by
    intro ready fresh failure s₃ hready
    subst hready
    refine conforms_bind (conforms_deleteIssue lenient_settles.andThen fun s₄ _ => ?_)
    refine ⟨_, .discard (issue.counterpart new) List.mem_cons_self, fun s₅ _ => .inr ⟨?_, trivial⟩⟩
    exact ⟨by simp [without], hbegins.offer, hbegins.taken, hbegins.loose, hbegins.orphan⟩
  have hready : issue.counterpart new :: task.ready = [issue.counterpart new] := by rw [hbegins.ready]
  refine conforms_bind (conforms_attempt (conforms_updateLists ?_ ?_ ?_))
  · exact fun failure s₃ _ => hdiscard _ _ failure s₃ hready
  · exact fun s₃ failure _ _ => hdiscard _ _ failure s₃ hready
  · intro s₃ revised old hmeets hchange
    obtain ⟨rfl, hrevision, kind, hmem⟩ :=
      replaceEntry_eq_ok (hmeets.orderly.distinct user) rfl hchange
    refine ⟨_, _, _, hrevision, .handOver kind old (issue.counterpart new) newOwner hmem
      ⟨hbegins.unspent, hbegins.offer, hbegins.taken, hbegins.loose, hbegins.orphan⟩
      List.mem_cons_self ⟨issue, hseen, hid, rfl⟩ hother, fun s₄ _ => ?_⟩
    refine conforms_bind (conforms_dissolve (fun _ => lenient_settles.andThen) rfl hbegins.orphan ?_)
    intro previous s₅
    refine conforms_bind (conforms_pushEntry lenient_settles.andThen
      (fun s₆ hmeets => hmeets.fits.offer old.id ⟨newOwner, new⟩ rfl)
      (fun view => .deliver old.id ⟨newOwner, new⟩ rfl rfl) fun s₆ s₇ _ _ => .inr ⟨?_, trivial⟩)
    refine ⟨?_, rfl, hbegins.taken, rfl, rfl⟩
    simp [without, hbegins.ready]

theorem conforms_reassign {id : IssueId} {newOwner : UserId} (hbegins : task.Begins) :
    Conforms mode user (reassign limits id user newOwner) (mode.Settles fun _ _ => True) task s := by
  refine conforms_bind (conforms_requireIssue lenient_settles.andThen ?_ fun s₁ issue _ _ hid => ?_)
  · exact fun _ _ _ => .inr ⟨hbegins.clear, trivial⟩
  have hbegins' : Task.Begins { task with seen := some issue } :=
    ⟨⟨hbegins.unspent, hbegins.offer, hbegins.taken, hbegins.loose, hbegins.orphan⟩, hbegins.ready⟩
  show Conforms mode user (if user = newOwner then _ else _) _ _ _
  split
  · exact conforms_keep hbegins'
  · next hother =>
    refine conforms_bind (conforms_requireUser ?_ fun s₂ _ => ?_)
    · exact fun _ _ _ => .inr ⟨hbegins'.clear, trivial⟩
    exact conforms_handOver hbegins' rfl hid fun e => hother e.symm

/-- The outcome of an operation whose result does not matter. -/
def unitOutcome : Outcome OperationError α → Outcome OperationError Unit
  | .ok _ => .ok ()
  | .error failure => .error failure
  | .unfinished => .unfinished

theorem conforms_unit {program : Operation α} {more : Outcome OperationError α → Task → Prop}
    {more' : Outcome OperationError Unit → Task → Prop}
    (h : Conforms mode user program (mode.Settles more) task s)
    (hmore : ∀ outcome task, more outcome task → more' (unitOutcome outcome) task) :
    Conforms mode user (program >>= fun _ => pure ()) (mode.Settles more') task s := by
  refine conforms_bind (conforms_mono h fun outcome task s h => ?_)
  cases outcome with
  | ok value => exact h.imp (fun h => h) fun h => ⟨h.1, hmore (.ok value) task h.2⟩
  | error failure => exact h.imp (fun h => h) fun h => ⟨h.1, hmore (.error failure) task h.2⟩
  | unfinished => exact h.imp (fun h => h) fun h => ⟨h.1, hmore .unfinished task h.2⟩

end

/-! ## Any operation -/

namespace Action

/-- The task that an action begins with. -/
def task (action : Action) : Task :=
  { edits := action.isEdit }

/-- Only a reassignment gives an entry a new link, and a todo that is completed or removed is gone. -/
structure Allows (action : Action) (outcome : Outcome OperationError Unit) (task : Task) : Prop where
  unspent : action.isReassign = false → task.spent = false
  gone : ∀ id, action.Finishes id → outcome = .ok () → id ∈ task.gone

theorem begins_task (action : Action) : action.task.Begins :=
  ⟨⟨rfl, rfl, rfl, rfl, rfl⟩, rfl⟩

theorem allows_of_not_finishes (action : Action) (h : ∀ id, ¬ action.Finishes id)
    {outcome : Outcome OperationError Unit} {task : Task} (hspent : task.spent = false) :
    action.Allows outcome task :=
  ⟨fun _ => hspent, fun id hfinishes => absurd hfinishes (h id)⟩

theorem allows_of_gone (action : Action) {id : IssueId} (h : ∀ id', action.Finishes id' → id' = id)
    {α : Type} {outcome : Outcome OperationError α} {task : Task}
    (hmore : task.spent = false ∧ ((∃ value, outcome = .ok value) → id ∈ task.gone)) :
    action.Allows (unitOutcome outcome) task := by
  refine ⟨fun _ => hmore.1, fun id' hfinishes hok => ?_⟩
  rw [h id' hfinishes]
  cases outcome with
  | ok value => exact hmore.2 ⟨value, rfl⟩
  | error failure => exact nomatch hok
  | unfinished => exact nomatch hok

theorem conforms (mode : Mode) (limits : Limits) (action : Action) (s : Shared) :
    Conforms mode action.user (action.program limits) (mode.Settles action.Allows) action.task s := by
  have hbegins := action.begins_task
  cases action with
  | add user draft =>
    exact conforms_unit (conforms_add hbegins) fun _ _ h =>
      allows_of_not_finishes (.add user draft) (fun _ h => h) h
  | send user receiver draft =>
    exact conforms_unit (conforms_send hbegins) fun _ _ h =>
      allows_of_not_finishes (.send user receiver draft) (fun _ h => h) h
  | pop user =>
    exact conforms_unit (conforms_popWithin _ hbegins) fun _ _ h =>
      allows_of_not_finishes (.pop user) (fun _ h => h) h
  | complete user id =>
    exact conforms_unit (conforms_take hbegins) fun _ _ h =>
      allows_of_gone (.complete user id) (fun _ h => h) h
  | accept user id =>
    exact conforms_unit (conforms_accept hbegins) fun _ _ h =>
      allows_of_not_finishes (.accept user id) (fun _ h => h) h
  | remove user id =>
    exact conforms_unit (conforms_remove hbegins) fun _ _ h =>
      allows_of_gone (.remove user id) (fun _ h => h) h
  | bump user id =>
    exact conforms_unit (conforms_bump hbegins) fun _ _ h =>
      allows_of_not_finishes (.bump user id) (fun _ h => h) h
  | edit user id change =>
    exact conforms_unit (conforms_edit hbegins rfl) fun _ _ h =>
      allows_of_not_finishes (.edit user id change) (fun _ h => h) h
  | reassign user id newOwner =>
    exact conforms_unit (conforms_reassign hbegins) fun _ _ _ =>
      Allows.mk (fun h => nomatch h) fun _ h => h.elim

end Action

end SharedTodo.Exchange
