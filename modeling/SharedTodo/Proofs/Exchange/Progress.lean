import SharedTodo.Exchange.Listing
import SharedTodo.Proofs.Exchange.Operations
import SharedTodo.Proofs.Exchange.Ownership

/-!
# Runs that come to an end

What conforms is said of every run, so it says nothing where there is none. Here are the runs: an operation
that asks for no new identifier has an end wherever it begins, and todos that meet no obstacle are created,
with one act on the view for each call that matters. Runs are composed as programs are, the end of the one
being the beginning of the next (`Reaches.bind`).

An attempt of an update is also cut in two, between its reading and its writing, for what others do there
(`reaches_writing`, `reaches_overtaken`).
-/

namespace SharedTodo.Exchange

section

variable {α β : Type} {faulty : Prop} {s s₁ s' : Shared} {user : UserId} {limits : Limits}

/-! ## Composition -/

/-- A run of the first of two operations is one of both. -/
theorem Reaches.carried {program left : Operation α} {next : α → Operation β}
    (h : Reaches faulty program s left s') : Reaches faulty (program >>= next) s (left >>= next) s' := by
  induction h with
  | refl => exact .refl _ _
  | step answer _ ih => exact .step answer ih

theorem Reaches.trans {program middle left : Operation α} (h : Reaches faulty program s middle s₁)
    (h' : Reaches faulty middle s₁ left s') : Reaches faulty program s left s' := by
  induction h with
  | refl => exact h'
  | step answer _ ih => exact .step answer (ih h')

theorem Reaches.bind {program : Operation α} {next : α → Operation β} {left : Operation β} {value : α}
    (h : Reaches faulty program s (.ended (.ok value)) s₁) (h' : Reaches faulty (next value) s₁ left s') :
    Reaches faulty (program >>= next) s left s' := by
  have hfirst : Reaches faulty (program >>= next) s (next value) s₁ := h.carried
  exact hfirst.trans h'

theorem reaches_perform {c : Call} {reply : c.Reply} (h : Answers faulty c s reply s') :
    Reaches faulty (Program.perform c) s (.ended (.ok reply)) s' :=
  .step h (.refl _ _)

theorem reaches_storeCall (call : StoreCall) (s : Shared) :
    Reaches faulty (Program.storeCall call) s (.ended (.ok (Store.perform call s.store).1))
      { s with store := (Store.perform call s.store).2 } :=
  .step (.inl ⟨rfl, rfl⟩) (.refl _ _)

/-! ## Optimistic updates -/

section

variable {key : String} {limit : Nat} {compute : Option String → Except OperationError (Option String × α)}

theorem exists_attempts (limit : Nat) : ∃ left, attempts limit = left + 1 :=
  ⟨attempts limit - 1, by rw [attempts]; omega⟩

/-- What is left of an attempt that has computed a new value, with the attempts after it. -/
def writing (key : String) (limit : Nat) (compute : Option String → Except OperationError (Option String × α))
    (current new : Option String) (outcome : α) (left : Nat) : Operation α := do
  if ← Program.compareAndSet key current new then pure outcome
  else updateWithin key limit compute left

variable {new : Option String} {outcome : α}

theorem reaches_writing (left : Nat) (hcompute : compute (s.store.find? key) = .ok (new, outcome))
    (hnew : new ≠ s.store.find? key) :
    Reaches faulty (updateWithin key limit compute (left + 1)) s
      (writing key limit compute (s.store.find? key) new outcome left) s := by
  apply (reaches_storeCall (.get key) s).bind
  show Reaches faulty (Program.ofExcept (compute (s.store.find? key)) >>= _) s _ _
  rw [hcompute]
  show Reaches faulty (if new = s.store.find? key then _ else _) s _ _
  rw [if_neg hnew]
  exact .refl _ _

/-- A value that has not been written in the meantime is replaced. -/
theorem reaches_written (left : Nat) :
    Reaches faulty (writing key limit compute (s.store.find? key) new outcome left) s (.ended (.ok outcome))
      { s with store := s.store.assign key new } := by
  have hcall := @reaches_storeCall faulty (.compareAndSet key (s.store.find? key) new) s
  simp only [Store.perform, if_pos] at hcall
  exact hcall.bind (.refl _ _)

/-- A value that has been written in the meantime is read again. -/
theorem reaches_overtaken {current : Option String} (left : Nat) (hother : s.store.find? key ≠ current) :
    Reaches faulty (writing key limit compute current new outcome left) s (updateWithin key limit compute left) s := by
  have hcall := @reaches_storeCall faulty (.compareAndSet key current new) s
  simp only [Store.perform, if_neg hother] at hcall
  exact hcall.bind (.refl _ _)

/-- An attempt succeeds while nobody else is at work. -/
theorem reaches_updateWithin (left : Nat) (hcompute : compute (s.store.find? key) = .ok (new, outcome)) :
    ∃ s', Reaches faulty (updateWithin key limit compute (left + 1)) s (.ended (.ok outcome)) s' ∧
      Writes key new s s' := by
  by_cases hnew : new = s.store.find? key
  · refine ⟨s, (reaches_storeCall (.get key) s).bind ?_, .kept hnew⟩
    show Reaches faulty (Program.ofExcept (compute (s.store.find? key)) >>= _) s _ _
    rw [hcompute]
    show Reaches faulty (if new = s.store.find? key then _ else _) s _ _
    rw [if_pos hnew]
    exact .refl _ _
  · exact ⟨_, (reaches_writing left hcompute hnew).trans (reaches_written left), .written hnew⟩

theorem reaches_update (hcompute : compute (s.store.find? key) = .ok (new, outcome)) :
    ∃ s', Reaches faulty (update key limit compute) s (.ended (.ok outcome)) s' ∧ Writes key new s s' := by
  obtain ⟨left, hleft⟩ := exists_attempts limit
  rw [update, hleft]
  exact reaches_updateWithin left hcompute

end

/-! ## Changes of lists -/

theorem reaches_updateLists (horderly : s.store.Orderly)
    {change : UserLists → Except OperationError (UserLists × α)} {revised : UserLists} {outcome : α}
    (hchange : change (s.store.lists user) = .ok (revised, outcome))
    (hne : revised ≠ s.store.lists user) :
    Reaches faulty (updateLists limits user change) s (.ended (.ok outcome))
      { s with store := s.store.assign (UserLists.key user) (documentOfLists revised) } := by
  obtain ⟨s', hreaches, hwrites⟩ := reaches_update (horderly.revisedLists_new hchange hne)
  cases hwrites with
  | kept hsame => exact absurd hsame (horderly.documentOfLists_ne hne)
  | written _ => exact hreaches

/-- A change that leaves the lists as they are writes nothing. -/
theorem reaches_updateLists_same (horderly : s.store.Orderly)
    {change : UserLists → Except OperationError (UserLists × α)} {outcome : α}
    (hchange : change (s.store.lists user) = .ok (s.store.lists user, outcome)) :
    Reaches faulty (updateLists limits user change) s (.ended (.ok outcome)) s := by
  obtain ⟨s', hreaches, hwrites⟩ := reaches_update (horderly.revisedLists_same hchange)
  cases hwrites with
  | kept _ => exact hreaches
  | written hother => exact absurd rfl hother

/-- Lists that others write between the reading and the writing of a change are read again, and changed as they
are then. -/
theorem reaches_updateLists_overtaken (horderly : s.store.Orderly) (hlimit : 2 ≤ limits.updates)
    {change : UserLists → Except OperationError (UserLists × α)} {revised : UserLists} {outcome : α}
    (hchange : change (s.store.lists user) = .ok (revised, outcome)) (hne : revised ≠ s.store.lists user) :
    ∃ left, Reaches faulty (updateLists limits user change) s left s ∧
      ∀ (s₁ : Shared) (revised₁ : UserLists) (outcome₁ : α), s₁.store.Orderly →
        s₁.store.lists user ≠ s.store.lists user → change (s₁.store.lists user) = .ok (revised₁, outcome₁) →
          revised₁ ≠ s₁.store.lists user → ∃ s₂, Reaches faulty left s₁ (.ended (.ok outcome₁)) s₂ := by
  obtain ⟨later, hlater⟩ : ∃ later, attempts limits.updates = later + 1 + 1 :=
    ⟨attempts limits.updates - 2, by rw [attempts]; omega⟩
  have hread := @reaches_writing _ faulty s _ limits.updates _ _ _ (later + 1)
    (horderly.revisedLists_new hchange hne) (horderly.documentOfLists_ne hne)
  rw [updateLists, update, hlater]
  refine ⟨_, hread, fun s₁ revised₁ outcome₁ horderly₁ hwritten hchange₁ hne₁ => ?_⟩
  have hother : s₁.store.find? (UserLists.key user) ≠ s.store.find? (UserLists.key user) :=
    fun hsame => hwritten (Store.lists_eq hsame)
  obtain ⟨s₂, hreaches, -⟩ :=
    @reaches_updateWithin _ faulty s₁ _ limits.updates _ _ _ later (horderly₁.revisedLists_new hchange₁ hne₁)
  exact ⟨s₂, (reaches_overtaken (later + 1) hother).trans hreaches⟩

theorem reaches_revision (horderly : s.store.Orderly)
    {change : UserLists → Except OperationError (UserLists × α)} {revised : UserLists} {outcome : α}
    {gone : Option Entry} {come : Option (ListKind × Entry)}
    (hchange : change (s.store.lists user) = .ok (revised, outcome)) (hne : revised ≠ s.store.lists user)
    (hrevision : UserLists.Revision (s.store.lists user) revised gone come) :
    ∃ s', Reaches faulty (updateLists limits user change) s (.ended (.ok outcome)) s' ∧ s'.store.Orderly ∧
      s'.view = s.view.revise user gone come :=
  ⟨_, reaches_updateLists horderly hchange hne,
    (s.store.changes_assign _ (documentOfLists revised)).orderly horderly hrevision.distinct,
    Shared.view_of_written hrevision⟩

/-! ## New todos -/

theorem reaches_pushEntry (horderly : s.store.Orderly) (kind : ListKind) {entry : Entry}
    (hnew : ¬ s.view.Listed entry.id) :
    ∃ s', Reaches faulty (pushEntry limits user kind entry) s (.ended (.ok ())) s' ∧ s'.store.Orderly ∧
      s'.view = s.view.revise user none (some (kind, entry)) := by
  have hrevision := UserLists.revision_pushed (horderly.distinct user) kind
    fun kind' e he hid => hnew ⟨user, kind', e, he, hid⟩
  have hne : (s.store.lists user).pushed kind entry ≠ s.store.lists user := by
    intro hsame
    have hmem := (hrevision.mem kind entry).2 (.inr rfl)
    rw [hsame] at hmem
    exact hnew ⟨user, kind, entry, hmem, rfl⟩
  exact reaches_revision horderly rfl hne hrevision

theorem reaches_saveIssue (horderly : s.store.Orderly) (issue : Issue) :
    ∃ s', Reaches faulty (saveIssue issue) s (.ended (.ok ())) s' ∧ s'.store.Orderly ∧
      s'.view = s.view.withRecord issue.id (some issue) := by
  have hchanges := s.store.changes_assign (Issue.key issue.id) ((some issue).map Issue.codec.encode)
  refine ⟨_, reaches_storeCall _ s, hchanges.orderly_of_record horderly fun x hx => ?_,
    Shared.view_withRecord s issue.id (some issue)⟩
  rw [Option.mem_some.1 hx]

theorem reaches_newIssue (draft : Draft) {id : IssueId} (now : Time.Instant) (hid : id ∉ s.issued) :
    Reaches faulty (newIssue draft) s (.ended (.ok (Issue.ofDraft draft id now)))
      { s with issued := id :: s.issued } := by
  have hdrawn : Answers faulty .freshId s id { s with issued := id :: s.issued } := ⟨hid, rfl⟩
  have hnow : Answers faulty .now { s with issued := id :: s.issued } now
    { s with issued := id :: s.issued } := rfl
  exact (reaches_perform hdrawn).bind ((reaches_perform hnow).bind (.refl _ _))

theorem reaches_newCounterpart (issue : Issue) {id : IssueId} (hid : id ∉ s.issued) :
    Reaches faulty (newCounterpart issue) s (.ended (.ok (issue.counterpart id)))
      { s with issued := id :: s.issued } := by
  have hdrawn : Answers faulty .freshId s id { s with issued := id :: s.issued } := ⟨hid, rfl⟩
  exact (reaches_perform hdrawn).bind (.refl _ _)

theorem reaches_requireUser (profile : Profile) :
    Reaches faulty (requireUser user) s (.ended (.ok ())) s := by
  have hfound : Answers faulty (.findById user) s (Except.ok (some profile)) s := rfl
  exact Reaches.bind (Reaches.bind (reaches_perform hfound) (.refl _ _)) (.refl _ _)

/-- A todo of one's own is created with its record and its entry. -/
theorem reaches_add (horderly : s.store.Orderly) (draft : Draft) {id : IssueId} (now : Time.Instant)
    (hid : id ∉ s.issued) (hnew : ¬ s.view.Listed id) :
    ∃ s', Reaches faulty (add limits user draft) s (.ended (.ok (Issue.ofDraft draft id now))) s' ∧
      s'.store.Orderly ∧
      s'.view = ((s.view.issue id).withRecord id (some (Issue.ofDraft draft id now))).revise user none
        (some (.my, .unlinked id)) := by
  obtain ⟨s₁, hsave, horderly₁, hview₁⟩ := @reaches_saveIssue faulty { s with issued := id :: s.issued }
    horderly (Issue.ofDraft draft id now)
  have hnew₁ : ¬ s₁.view.Listed id := by
    rw [hview₁]
    exact hnew
  obtain ⟨s₂, hpush, horderly₂, hview₂⟩ :=
    @reaches_pushEntry faulty s₁ user limits horderly₁ .my (.unlinked id) hnew₁
  refine ⟨s₂, ?_, horderly₂, ?_⟩
  · exact (reaches_newIssue draft now hid).bind (hsave.bind (hpush.bind (.refl _ _)))
  · rw [hview₂, hview₁]
    rfl

/-- The view in which a todo that is sent has both records and its sender's entry. -/
def View.halfSent (view : View) (user receiver : UserId) (issue : Issue) (received : IssueId) : View :=
  ((((view.issue issue.id).issue received).withRecord issue.id (some issue)).withRecord received
    (some (issue.counterpart received))).revise user none (some (.out, .linked issue.id ⟨receiver, received⟩))

theorem View.record_halfSent {view : View} {receiver : UserId} {issue : Issue} {received : IssueId}
    (hne : received ≠ issue.id) :
    (view.halfSent user receiver issue received).record issue.id = some issue := by
  rw [halfSent, revise_record, record_withRecord, if_neg hne.symm, record_withRecord, if_pos rfl]

/-- The half that is still to be delivered is not listed yet. -/
theorem View.not_listed_halfSent {view : View} {receiver : UserId} {issue : Issue} {received : IssueId}
    (hne : received ≠ issue.id) (hnew : ¬ view.Listed received) :
    ¬ (view.halfSent user receiver issue received).Listed received := by
  intro hlisted
  rcases View.listed_revise hlisted with hlisted | ⟨kind, entry, hcome, hid⟩
  · exact hnew hlisted
  · cases hcome
    exact hne hid.symm

/-- Sending a todo to a known user comes to the point where only the receiver's entry is missing. -/
theorem reaches_halfSent (horderly : s.store.Orderly) (draft : Draft) {receiver : UserId} (profile : Profile)
    {sent received : IssueId} (now : Time.Instant) (hother : user ≠ receiver) (hsent : sent ∉ s.issued)
    (hreceived : received ∉ sent :: s.issued) (hnew : ¬ s.view.Listed sent) :
    ∃ s', Reaches faulty (send limits user receiver draft) s
        (pushEntry limits receiver .inbox (.linked received ⟨user, sent⟩) >>= fun _ => pure received) s' ∧
      s'.store.Orderly ∧ s'.view = s.view.halfSent user receiver (Issue.ofDraft draft sent now) received := by
  obtain ⟨s₁, hsave₁, horderly₁, hview₁⟩ := @reaches_saveIssue faulty
    { s with issued := received :: sent :: s.issued } horderly (Issue.ofDraft draft sent now)
  obtain ⟨s₂, hsave₂, horderly₂, hview₂⟩ := @reaches_saveIssue faulty s₁ horderly₁
    ((Issue.ofDraft draft sent now).counterpart received)
  have hnew₂ : ¬ s₂.view.Listed sent := by
    rw [hview₂, hview₁]
    exact hnew
  obtain ⟨s₃, hpush, horderly₃, hview₃⟩ :=
    @reaches_pushEntry faulty s₂ user limits horderly₂ .out (.linked sent ⟨receiver, received⟩) hnew₂
  refine ⟨s₃, ?_, horderly₃, ?_⟩
  · rw [send, if_neg hother]
    refine (reaches_requireUser profile).bind ((reaches_newIssue draft now hsent).bind ?_)
    refine (reaches_newCounterpart _ hreceived).bind (hsave₁.bind (hsave₂.bind (hpush.bind ?_)))
    exact .refl _ _
  · rw [hview₃, hview₂, hview₁]
    rfl

/-- Sending a todo to a known user succeeds. -/
theorem reaches_send (horderly : s.store.Orderly) (draft : Draft) {receiver : UserId} (profile : Profile)
    {sent received : IssueId} (now : Time.Instant) (hother : user ≠ receiver) (hsent : sent ∉ s.issued)
    (hreceived : received ∉ sent :: s.issued) (hnew : ¬ s.view.Listed sent)
    (hnew' : ¬ s.view.Listed received) :
    ∃ s', Reaches faulty (send limits user receiver draft) s (.ended (.ok received)) s' ∧
      s'.store.Orderly ∧
      s'.view = (s.view.halfSent user receiver (Issue.ofDraft draft sent now) received).revise
        receiver none (some (.inbox, .linked received ⟨user, sent⟩)) := by
  obtain ⟨s₁, hhalf, horderly₁, hview₁⟩ := @reaches_halfSent faulty s user limits horderly draft receiver
    profile sent received now hother hsent hreceived hnew
  have hne : received ≠ sent := List.ne_of_not_mem_cons hreceived
  have hnew₁ : ¬ s₁.view.Listed received := by
    rw [hview₁]
    exact View.not_listed_halfSent hne hnew'
  obtain ⟨s₂, hpush, horderly₂, hview₂⟩ :=
    @reaches_pushEntry faulty s₁ receiver limits horderly₁ .inbox (.linked received ⟨user, sent⟩) hnew₁
  refine ⟨s₂, hhalf.trans (hpush.bind (.refl _ _)), horderly₂, ?_⟩
  rw [hview₂, hview₁]

/-- The first todo of all, up to the point where only the receiver's entry is missing. -/
theorem reaches_halfSent_initial {receiver : UserId} (hother : user ≠ receiver) (draft : Draft)
    {sent received : IssueId} (hne : received ≠ sent) :
    ∃ s', Reaches faulty (send limits user receiver draft) .initial
        (pushEntry limits receiver .inbox (.linked received ⟨user, sent⟩) >>= fun _ => pure received) s' ∧
      s'.store.Orderly ∧
      s'.view = Shared.initial.view.halfSent user receiver (Issue.ofDraft draft sent .epoch) received :=
  reaches_halfSent Store.orderly_empty draft ⟨receiver, receiver.text⟩ .epoch hother List.not_mem_nil
    (fun h => hne (List.mem_singleton.1 h)) (not_listed_initial sent)

theorem reaches_send_initial {receiver : UserId} (hother : user ≠ receiver) (draft : Draft)
    {sent received : IssueId} (hne : received ≠ sent) :
    ∃ s', Reaches faulty (send limits user receiver draft) .initial (.ended (.ok received)) s' ∧
      s'.store.Orderly ∧
      s'.view = (Shared.initial.view.halfSent user receiver (Issue.ofDraft draft sent .epoch) received).revise
        receiver none (some (.inbox, .linked received ⟨user, sent⟩)) :=
  reaches_send Store.orderly_empty draft ⟨receiver, receiver.text⟩ .epoch hother List.not_mem_nil
    (fun h => hne (List.mem_singleton.1 h)) (not_listed_initial sent) (not_listed_initial received)

/-! ## Edited todos -/

theorem reaches_loadLists (horderly : s.store.Orderly) (user : UserId) :
    Reaches faulty (loadLists user) s (.ended (.ok (s.store.lists user))) s := by
  refine (reaches_storeCall (.get (UserLists.key user)) s).bind ?_
  show Reaches faulty (Program.ofExcept (listsOfDocument _ (s.store.find? (UserLists.key user)))) s _ _
  rw [horderly.listsOfDocument]
  exact .refl _ _

theorem reaches_editRecord (horderly : s.store.Orderly) {id : IssueId} {issue : Issue}
    (hrecord : s.store.record id = some issue) (change : Edit) :
    ∃ s', Reaches faulty (editRecord limits id change) s (.ended (.ok (some issue.message))) s' ∧
      s'.store.Orderly ∧ s'.view = s.view.withRecord id (some (issue.edited change)) := by
  obtain ⟨s', hreaches, hwrites⟩ := reaches_update (horderly.editedRecord hrecord change)
  obtain ⟨hview, horderly', -⟩ := Shared.view_of_edited horderly hrecord hwrites
  exact ⟨s', hreaches, horderly', hview⟩

/-- What is left of an edit when it has written the record of its own half. -/
def mirroring (limits : Limits) (user : UserId) (located : Located) (change : Edit) (message : String) :
    Operation Edited := do
  let counterpart ← livingCounterpart user located.entry
  let foreignUser ← editCounterpart limits change counterpart
  pure ⟨foreignUser, located.list, message⟩

theorem reaches_mirroring (horderly : s.store.Orderly) {kind : ListKind} {id : IssueId} {link : Link}
    (hlinked : s.view.Linked user kind id link) {issue : Issue} (hrecord : s.store.record id = some issue)
    (change : Edit) :
    ∃ s' located, Reaches faulty (edit limits user id change) s
        (mirroring limits user located change issue.message) s' ∧
      located.entry.id = id ∧ located.entry.link = some link ∧ s'.store.Orderly ∧
      s'.view = s.view.withRecord id (some (issue.edited change)) := by
  obtain ⟨entry, held, rfl, hlink⟩ := hlinked
  obtain ⟨located, hfind, -, rfl⟩ := (horderly.distinct user).find_of_mem held
  obtain ⟨s', hedit, horderly', hview⟩ := @reaches_editRecord faulty s limits horderly _ _ hrecord change
  refine ⟨s', located, (reaches_loadLists horderly user).bind ?_, rfl, hlink, horderly', hview⟩
  rw [hfind]
  exact hedit.bind (.refl _ _)

/-- The record of a counterpart that links back is written too. -/
theorem reaches_mirrored (horderly : s.store.Orderly) {located : Located} {own : IssueId}
    (hown : located.entry.id = own) {other : UserId} {foreign : IssueId}
    (hlink : located.entry.link = some ⟨other, foreign⟩) {kind : ListKind}
    (hback : s.view.Linked other kind foreign ⟨user, own⟩) {issue : Issue}
    (hrecord : s.store.record foreign = some issue) (change : Edit) (message : String) :
    ∃ s', Reaches faulty (mirroring limits user located change message) s
        (.ended (.ok ⟨some other, located.list, message⟩)) s' ∧ s'.store.Orderly ∧
      s'.view = s.view.withRecord foreign (some (issue.edited change)) := by
  obtain ⟨half, held, rfl, hhalf⟩ := hback
  obtain ⟨found, hfound⟩ := (horderly.distinct other).findLinked_of_mem held hhalf
  have hliving : Reaches faulty (livingCounterpart user located.entry) s
      (.ended (.ok (some ⟨other, half.id⟩))) s := by
    rw [livingCounterpart, hlink]
    refine (reaches_loadLists horderly other).bind ?_
    rw [hown, hfound]
    exact .refl _ _
  obtain ⟨s', hedit, horderly', hview⟩ := @reaches_editRecord faulty s limits horderly _ _ hrecord change
  exact ⟨s', hliving.bind (Reaches.bind (hedit.bind (.refl _ _)) (.refl _ _)), horderly', hview⟩

/-- An edit of a linked todo writes both records. -/
theorem reaches_edit (horderly : s.store.Orderly) {kind kind' : ListKind} {own foreign : IssueId}
    {other : UserId} (hlinked : s.view.Linked user kind own ⟨other, foreign⟩)
    (hback : s.view.Linked other kind' foreign ⟨user, own⟩) (hne : foreign ≠ own) {issue issue' : Issue}
    (hrecord : s.store.record own = some issue) (hrecord' : s.store.record foreign = some issue')
    (change : Edit) :
    ∃ s' list, Reaches faulty (edit limits user own change) s
        (.ended (.ok ⟨some other, list, issue.message⟩)) s' ∧ s'.store.Orderly ∧
      s'.view = (s.view.withRecord own (some (issue.edited change))).withRecord foreign
        (some (issue'.edited change)) := by
  obtain ⟨s₁, located, hown, hid, hlink, horderly₁, hview₁⟩ :=
    @reaches_mirroring faulty s user limits horderly _ _ _ hlinked _ hrecord change
  have hback₁ : s₁.view.Linked other kind' foreign ⟨user, own⟩ := by
    rw [hview₁]
    exact hback
  have hrecord₁ : s₁.view.record foreign = some issue' := by
    rw [hview₁, View.record_withRecord, if_neg hne]
    exact hrecord'
  obtain ⟨s₂, hmirror, horderly₂, hview₂⟩ := @reaches_mirrored faulty s₁ user limits horderly₁ _ _ hid _ _
    hlink _ hback₁ _ hrecord₁ change issue.message
  exact ⟨s₂, _, hown.trans hmirror, horderly₂, hview₂.trans (hview₁ ▸ rfl)⟩

/-! ## Finished todos -/

theorem reaches_requireIssue (horderly : s.store.Orderly) {id : IssueId} {issue : Issue}
    (hrecord : s.store.record id = some issue) :
    Reaches faulty (requireIssue id) s (.ended (.ok issue)) s := by
  cases hraw : s.store.find? (Issue.key id) with
  | none => exact nomatch (Store.record_of_find?_eq_none hraw).symm.trans hrecord
  | some raw =>
    obtain ⟨found, hdocument, hfound, -⟩ := horderly.recordOfDocument hraw
    cases hfound.symm.trans hrecord
    have hload : Reaches faulty (loadIssue id) s (.ended (.ok (some issue))) s := by
      refine (reaches_storeCall (.get (Issue.key id)) s).bind ?_
      rw [show (Store.perform (.get (Issue.key id)) s.store).1 = some raw from hraw]
      show Reaches faulty (Program.ofExcept (recordOfDocument (Issue.key id) raw) >>= _) s _ _
      rw [hdocument]
      exact .refl _ _
    exact hload.bind (.refl _ _)

theorem reaches_deleteIssue (horderly : s.store.Orderly) (id : IssueId) :
    ∃ s', Reaches faulty (deleteIssue id) s (.ended (.ok ())) s' ∧ s'.store.Orderly ∧
      s'.view = s.view.withRecord id none := by
  have hchanges := s.store.changes_assign (Issue.key id) (Option.map Issue.codec.encode none)
  exact ⟨_, reaches_storeCall _ s, hchanges.orderly_of_record horderly (fun x hx => nomatch hx),
    Shared.view_withRecord s id none⟩

/-- What is listed is found and taken out. -/
theorem takeEntry_of_mem {lists : UserLists} (hdistinct : lists.Distinct) {kind : ListKind} {entry : Entry}
    (hmem : entry ∈ lists.list kind) :
    ∃ rest located, takeEntry entry.id lists = .ok (rest, located) ∧ located.entry = entry ∧
      located.list = kind ∧ UserLists.Revision lists rest (some entry) none := by
  obtain ⟨located, hfind, hkind, hentry⟩ := hdistinct.find_of_mem hmem
  have htake : takeEntry entry.id lists = .ok (lists.erase located.list entry.id, located) := by
    rw [takeEntry, UserLists.remove, hfind]
    rfl
  have hrevision := (takeEntry_eq_ok hdistinct htake).2.2
  rw [hentry] at hrevision
  exact ⟨_, located, htake, hentry, hkind, hrevision⟩

/-- What is listed is found, and another entry takes its place. -/
theorem replaceEntry_of_mem {lists : UserLists} (hdistinct : lists.Distinct) {kind : ListKind}
    {entry new : Entry} (hmem : entry ∈ lists.list kind) (kind' : ListKind) (hnew : new.id = entry.id) :
    ∃ revised, replaceEntry entry.id kind' new lists = .ok (revised, entry) ∧
      UserLists.Revision lists revised (some entry) (some (kind', new)) := by
  obtain ⟨located, hfind, -, hentry⟩ := hdistinct.find_of_mem hmem
  have hreplace : replaceEntry entry.id kind' new lists =
      .ok ((lists.erase located.list entry.id).pushed kind' new, entry) := by
    rw [replaceEntry, UserLists.remove, hfind, ← hentry]
    rfl
  have hrevision := (replaceEntry_eq_ok hdistinct hnew hreplace).2.1
  exact ⟨_, hreplace, hrevision⟩

/-- Taking back a todo whose other half nobody lists: its entry loses its link, and the other half its record.
-/
theorem reaches_reassign_self (horderly : s.store.Orderly) {kind : ListKind} {entry : Entry}
    (held : s.view.holds user kind entry) {link : Link} (hlink : entry.link = some link)
    (hmissing : ¬ s.view.Listed link.issue) {issue : Issue} (hrecord : s.store.record entry.id = some issue) :
    ∃ s', Reaches faulty (reassign limits entry.id user user) s
        (.ended (.ok ⟨issue.message, none, none⟩)) s' ∧ s'.store.Orderly ∧
      s'.view = (s.view.revise user (some entry) (some (.my, .unlinked entry.id))).withRecord link.issue none := by
  have hunlinked : (Entry.unlinked entry.id).id = entry.id := rfl
  obtain ⟨revised, hreplace, hrevision⟩ :=
    replaceEntry_of_mem (horderly.distinct user) held .my hunlinked
  have hne : revised ≠ s.store.lists user := by
    apply hrevision.ne held
    intro hsame
    rw [← (Prod.mk.inj (Option.some.inj hsame)).2] at hlink
    cases hlink
  obtain ⟨s₁, hupdate, horderly₁, hview₁⟩ :=
    @reaches_revision _ faulty s user limits horderly _ _ _ _ _ hreplace hne hrevision
  have hmissing₁ : (s₁.store.lists link.user).find link.issue = none := by
    refine UserLists.find_eq_none_iff.2 fun kind' half hhalf hid => ?_
    have hlisted : s₁.view.Listed link.issue := ⟨link.user, kind', half, hhalf, hid⟩
    rw [hview₁] at hlisted
    rcases View.listed_revise hlisted with hlisted | ⟨kind'', new, hcome, hid'⟩
    · exact hmissing hlisted
    · cases hcome
      exact hmissing ⟨user, kind, entry, held, hid'⟩
  have hhalf : Except.ok (takeCounterpart user entry.id link.issue (s₁.store.lists link.user)) =
      (.ok (s₁.store.lists link.user, .missing) : Except OperationError _) := by
    rw [takeCounterpart, hmissing₁]
  have hfound := @reaches_updateLists_same _ faulty s₁ link.user limits horderly₁
    (fun lists => .ok (takeCounterpart user entry.id link.issue lists)) _ hhalf
  obtain ⟨s₂, hdelete, horderly₂, hview₂⟩ := @reaches_deleteIssue faulty s₁ horderly₁ link.issue
  refine ⟨s₂, ?_, horderly₂, ?_⟩
  · refine (reaches_requireIssue horderly hrecord).bind ?_
    rw [if_pos rfl]
    refine hupdate.bind (Reaches.bind ?_ (.refl _ _))
    rw [dissolve, hlink]
    exact hfound.bind (hdelete.bind (.refl _ _))
  · rw [hview₂, hview₁]

/-- What is left of a completion when the entry is out of its holder's lists. -/
def dissolving (limits : Limits) (user : UserId) (issue : Issue) (located : Located) : Operation Completed := do
  let foreignUser ← dissolve limits user located.entry
  deleteIssue located.entry.id
  pure ⟨issue, foreignUser, located.list⟩

theorem reaches_dissolving (horderly : s.store.Orderly) {kind : ListKind} {entry : Entry}
    (held : s.view.holds user kind entry) {issue : Issue} (hrecord : s.store.record entry.id = some issue) :
    ∃ s' located, Reaches faulty (complete limits user entry.id) s (dissolving limits user issue located) s' ∧
      located.entry = entry ∧ located.list = kind ∧ s'.store.Orderly ∧
      s'.view = s.view.revise user (some entry) none := by
  obtain ⟨rest, located, htake, rfl, rfl, hrevision⟩ := takeEntry_of_mem (horderly.distinct user) held
  obtain ⟨s₁, hupdate, horderly₁, hview₁⟩ :=
    @reaches_revision _ faulty s user limits horderly _ _ _ _ _ htake (hrevision.ne held nofun) hrevision
  exact ⟨s₁, located, (reaches_requireIssue horderly hrecord).bind (hupdate.bind (.refl _ _)), rfl, rfl,
    horderly₁, hview₁⟩

/-- Completing a todo without a link takes out its entry and its record. -/
theorem reaches_complete_unlinked (horderly : s.store.Orderly) {kind : ListKind} {entry : Entry}
    (held : s.view.holds user kind entry) (hlink : entry.link = none) {issue : Issue}
    (hrecord : s.store.record entry.id = some issue) :
    ∃ s', Reaches faulty (complete limits user entry.id) s (.ended (.ok ⟨issue, none, kind⟩)) s' ∧
      s'.store.Orderly ∧ s'.view = (s.view.revise user (some entry) none).withRecord entry.id none := by
  obtain ⟨s₁, located, htaken, rfl, rfl, horderly₁, hview₁⟩ :=
    @reaches_dissolving faulty s user limits horderly _ _ held _ hrecord
  obtain ⟨s₂, hdelete, horderly₂, hview₂⟩ := @reaches_deleteIssue faulty s₁ horderly₁ located.entry.id
  refine ⟨s₂, htaken.trans ?_, horderly₂, ?_⟩
  · rw [dissolving, dissolve, hlink]
    exact hdelete.bind (.refl _ _)
  · rw [hview₂, hview₁]

/-- A half that links back is taken out of the lists that it is in. -/
theorem takeCounterpart_of_mem {lists : UserLists} (hdistinct : lists.Distinct) {kind : ListKind} {half : Entry}
    (hmem : half ∈ lists.list kind) {own : IssueId} (hback : half.link = some ⟨user, own⟩) :
    ∃ rest, takeCounterpart user own half.id lists = (rest, .removed) ∧ rest ≠ lists := by
  obtain ⟨located, hfind, rfl, rfl⟩ := hdistinct.find_of_mem hmem
  have hrevision := UserLists.revision_erase hdistinct hmem
  refine ⟨_, ?_, hrevision.ne hmem nofun⟩
  rw [takeCounterpart, hfind]
  exact if_pos (by rw [Entry.linksTo, hback]; exact decide_eq_true rfl)

/-- The lists of the other user have been read to take the counterpart out of them. If they are written before
the operation goes on, they are read again, and the counterpart is found in whichever list it is then. -/
theorem reaches_dissolve_overtaken (horderly : s.store.Orderly) (hlimit : 2 ≤ limits.updates) {entry half : Entry}
    {other : UserId} (hlink : entry.link = some ⟨other, half.id⟩) (hback : half.link = some ⟨user, entry.id⟩)
    {kind : ListKind} (hhalf : s.view.holds other kind half) :
    ∃ left, Reaches faulty (dissolve limits user entry) s left s ∧
      ∀ (s₁ : Shared) (kind₁ : ListKind), s₁.store.Orderly → s₁.view.holds other kind₁ half →
        s₁.store.lists other ≠ s.store.lists other →
          ∃ s₂, Reaches faulty left s₁ (.ended (.ok (some other))) s₂ := by
  obtain ⟨rest, htake, hne⟩ := takeCounterpart_of_mem (horderly.distinct other) hhalf hback
  obtain ⟨left, hread, hwrite⟩ := @reaches_updateLists_overtaken _ faulty s other limits horderly hlimit
    (fun lists => .ok (takeCounterpart user entry.id half.id lists)) _ _ (congrArg Except.ok htake) hne
  rw [dissolve, hlink]
  refine ⟨_, hread.carried, fun s₁ kind₁ horderly₁ hhalf₁ hwritten => ?_⟩
  obtain ⟨rest₁, htake₁, hne₁⟩ := takeCounterpart_of_mem (horderly₁.distinct other) hhalf₁ hback
  obtain ⟨s₂, hreaches⟩ := hwrite s₁ rest₁ .removed horderly₁ hwritten (congrArg Except.ok htake₁) hne₁
  have hdelete := @reaches_storeCall faulty (.delete (Issue.key half.id)) s₂
  exact ⟨_, hreaches.bind (hdelete.bind (.refl _ _))⟩

/-- Completing a linked todo comes to the point where its entry is out of the lists and those of the other user
have been read; from there it goes on although they are written. -/
theorem reaches_complete_overtaken (horderly : s.store.Orderly) (hlimit : 2 ≤ limits.updates) {kind : ListKind}
    {entry : Entry} (held : s.view.holds user kind entry) {issue : Issue}
    (hrecord : s.store.record entry.id = some issue) {other : UserId} (hother : other ≠ user) {half : Entry}
    (hlink : entry.link = some ⟨other, half.id⟩) (hback : half.link = some ⟨user, entry.id⟩) {kind' : ListKind}
    (hhalf : s.view.holds other kind' half) :
    ∃ left s₁, Reaches faulty (complete limits user entry.id) s left s₁ ∧ s₁.store.Orderly ∧
      s₁.view = s.view.revise user (some entry) none ∧
      ∀ (s₂ : Shared) (kind₂ : ListKind), s₂.store.Orderly → s₂.view.holds other kind₂ half →
        s₂.store.lists other ≠ s₁.store.lists other →
          ∃ s₃, Reaches faulty left s₂ (.ended (.ok ⟨issue, some other, kind⟩)) s₃ := by
  obtain ⟨s₁, located, htaken, rfl, rfl, horderly₁, hview₁⟩ :=
    @reaches_dissolving faulty s user limits horderly _ _ held _ hrecord
  have hhalf₁ : s₁.view.holds other kind' half := by
    rw [hview₁]
    exact .inl ⟨hhalf, fun hgone => hother hgone.1⟩
  obtain ⟨left, hread, hwrite⟩ := @reaches_dissolve_overtaken faulty s₁ user limits horderly₁ hlimit located.entry
    half other hlink hback kind' hhalf₁
  refine ⟨_, s₁, htaken.trans hread.carried, horderly₁, hview₁, fun s₂ kind₂ horderly₂ hhalf₂ hwritten => ?_⟩
  obtain ⟨s₃, hreaches⟩ := hwrite s₂ kind₂ horderly₂ hhalf₂ hwritten
  have hdelete := @reaches_storeCall faulty (.delete (Issue.key located.entry.id)) s₃
  exact ⟨_, hreaches.bind (hdelete.bind (.refl _ _))⟩

/-! ## Accepted todos -/

theorem acceptEntry_of_mem {lists : UserLists} (hdistinct : lists.Distinct) {entry : Entry}
    (hmem : entry ∈ lists.list .inbox) :
    acceptEntry entry.id lists = .ok ((lists.erase .inbox entry.id).pushed .my entry, entry) := by
  rw [acceptEntry, hdistinct.removeFrom_of_mem hmem]
  rfl

theorem reaches_livingCounterpart (horderly : s.store.Orderly) (entry : Entry) :
    ∃ found, Reaches faulty (livingCounterpart user entry) s (.ended (.ok found)) s := by
  rw [livingCounterpart]
  split
  · exact ⟨none, .refl _ _⟩
  · next link _ =>
    cases hfind : (s.store.lists link.user).findLinked link.issue user entry.id with
    | none =>
      refine ⟨none, (reaches_loadLists horderly link.user).bind ?_⟩
      rw [hfind]
      exact .refl _ _
    | some located =>
      refine ⟨some link, (reaches_loadLists horderly link.user).bind ?_⟩
      rw [hfind]
      exact .refl _ _

/-- Accepting a todo moves its entry, whether or not its link is still living. -/
theorem reaches_accept (horderly : s.store.Orderly) {entry : Entry} (held : s.view.holds user .inbox entry)
    {issue : Issue} (hrecord : s.store.record entry.id = some issue) :
    ∃ s' accepted, Reaches faulty (accept limits user entry.id) s (.ended (.ok accepted)) s' ∧
      s'.store.Orderly ∧ s'.view = s.view.revise user (some entry) (some (.my, entry)) := by
  have hrevision := @UserLists.revision_replace _ (horderly.distinct user) .inbox .my entry entry held rfl
  obtain ⟨s₁, hupdate, horderly₁, hview₁⟩ := @reaches_revision _ faulty s user limits horderly _ _ _ _ _
    (acceptEntry_of_mem (horderly.distinct user) held) (hrevision.ne held nofun) hrevision
  obtain ⟨found, hfound⟩ := @reaches_livingCounterpart faulty s₁ user horderly₁ entry
  exact ⟨s₁, _, (reaches_requireIssue horderly hrecord).bind (hupdate.bind (hfound.bind (.refl _ _))),
    horderly₁, hview₁⟩

end

section

variable {α : Type} {user : UserId}

/-! ## Operations that draw nothing have an end -/

/-- No call asks for a new identifier, whatever the replies. -/
def Drawless : Operation α → Prop
  | .ended _ => True
  | .call c next => c ≠ .freshId ∧ ∀ reply, Drawless (next reply)

theorem Drawless.ends {program : Operation α} (h : Drawless program) (s : Shared) :
    ∃ outcome s', Reaches False program s (.ended outcome) s' := by
  induction program generalizing s with
  | ended outcome => exact ⟨outcome, s, .refl _ s⟩
  | call c next ih =>
    have hreply : ∃ reply s₁, Answers False c s reply s₁ := by
      cases c with
      | store call => exact ⟨_, _, .inl ⟨rfl, rfl⟩⟩
      | freshId => exact absurd rfl h.1
      | findById user => exact ⟨.ok none, s, rfl⟩
      | findByUsername username => exact ⟨.ok none, s, rfl⟩
      | now => exact ⟨.epoch, s, rfl⟩
      | cachedName user => exact ⟨none, s, rfl⟩
      | cacheName user name => exact ⟨(), s, rfl⟩
      | forgetName user => exact ⟨(), s, rfl⟩
      | notify notification => exact ⟨(), s, rfl⟩
    obtain ⟨reply, s₁, hanswer⟩ := hreply
    obtain ⟨outcome, s', hlater⟩ := ih reply (h.2 reply) s₁
    exact ⟨outcome, s', .step hanswer hlater⟩

theorem drawless_bind {β : Type} {program : Operation α} {next : α → Operation β}
    (h : Drawless program) (h' : ∀ value, Drawless (next value)) : Drawless (program >>= next) := by
  induction program with
  | ended outcome =>
    cases outcome with
    | ok value => exact h' value
    | error failure => trivial
    | unfinished => trivial
  | call c rest ih => exact ⟨h.1, fun reply => ih reply (h.2 reply)⟩

theorem drawless_ofExcept (result : Except OperationError α) : Drawless (Program.ofExcept result) :=
  trivial

theorem drawless_storeCall (call : StoreCall) :
    Drawless (Program.storeCall call : Operation call.Answer) := by
  refine ⟨nofun, fun reply => ?_⟩
  match reply with
  | .ok answer => trivial
  | .error failure => trivial

theorem drawless_updateWithin (key : String) (limit : Nat)
    (compute : Option String → Except OperationError (Option String × α)) (left : Nat) :
    Drawless (updateWithin key limit compute left) := by
  induction left with
  | zero => trivial
  | succ left ih =>
    refine drawless_bind (drawless_storeCall _) fun current => ?_
    refine drawless_bind (drawless_ofExcept _) fun ⟨next, outcome⟩ => ?_
    show Drawless (if next = current then _ else _)
    split
    · trivial
    · refine drawless_bind (drawless_storeCall _) fun done => ?_
      cases done with
      | false => exact ih
      | true => trivial

theorem drawless_updateLists (limits : Limits) (other : UserId)
    (change : UserLists → Except OperationError (UserLists × α)) :
    Drawless (updateLists limits other change) :=
  drawless_updateWithin _ _ _ _

theorem drawless_loadLists (other : UserId) : Drawless (loadLists other) :=
  drawless_bind (drawless_storeCall _) fun _ => drawless_ofExcept _

theorem drawless_loadIssue (id : IssueId) : Drawless (loadIssue id) := by
  refine drawless_bind (drawless_storeCall _) fun raw => ?_
  cases raw with
  | none => trivial
  | some raw => exact drawless_bind (drawless_ofExcept _) fun _ => trivial

theorem drawless_complete (limits : Limits) (id : IssueId) : Drawless (complete limits user id) := by
  refine drawless_bind (drawless_bind (drawless_loadIssue id) fun _ => drawless_ofExcept _) fun _ => ?_
  refine drawless_bind (drawless_updateLists _ _ _) fun located => ?_
  refine drawless_bind ?_ fun _ => drawless_bind (drawless_storeCall _) fun _ => trivial
  rw [dissolve]
  cases located.entry.link with
  | none => trivial
  | some link =>
    refine drawless_bind (drawless_updateLists _ _ _) fun half => ?_
    cases half with
    | removed => exact drawless_bind (drawless_storeCall _) fun _ => trivial
    | missing => exact drawless_bind (drawless_storeCall _) fun _ => trivial
    | stale => trivial

theorem drawless_resolve (other : UserId) : Drawless (Naming.resolve other : Operation String) := by
  refine ⟨nofun, fun cached => ?_⟩
  cases cached with
  | some name => trivial
  | none =>
    refine ⟨nofun, fun found => ?_⟩
    match found with
    | .ok (some profile) => exact ⟨nofun, fun _ => trivial⟩
    | .ok none => trivial
    | .error _ => trivial

theorem drawless_listEntry (position : Nat) (entry : Entry) (issue : Issue) (loaded : Loaded) :
    Drawless (listEntry user position entry issue loaded) := by
  rw [listEntry]
  cases entry.link with
  | none => trivial
  | some link =>
    refine drawless_bind ?_ fun ⟨lists, loaded'⟩ => ?_
    · rw [loadOnce]
      cases loaded.find? link.user with
      | some lists => trivial
      | none => exact drawless_bind (drawless_loadLists _) fun _ => trivial
    · dsimp only
      split
      · trivial
      · exact drawless_bind (drawless_resolve _) fun _ => trivial

theorem drawless_listing (kind : ListKind) : Drawless (listing user kind) := by
  refine drawless_bind (drawless_loadLists _) fun lists => ?_
  have hfrom : ∀ entries position loaded, Drawless (listFrom user position entries loaded) := by
    intro entries
    induction entries with
    | nil => exact fun _ _ => trivial
    | cons entry rest ih =>
      intro position loaded
      refine drawless_bind (drawless_loadIssue _) fun issue => ?_
      cases issue with
      | none => exact ih _ _
      | some issue =>
        refine drawless_bind (drawless_listEntry _ _ _ _) fun ⟨item, loaded'⟩ => ?_
        exact drawless_bind (ih _ _) fun _ => trivial
  exact hfrom _ _ _

end

end SharedTodo.Exchange
