import SharedTodo.Proofs.Exchange.Runs
import SharedTodo.Proofs.Exchange.Stored

/-!
# Tasks

What the lists and records of a shared state say is a view. A task is how far one client has come with what
it has taken on: identifiers drawn for new todos, records that are not yet listed, a published half whose
counterpart is still to be delivered, an entry taken out whose record is still to go, a link that is still to
be dissolved. Programs do not mention tasks; every call of an operation is one act on task and view together
(`Act`), and what holds of views in the presence of tasks is shown act by act.
-/

namespace SharedTodo

/-- The link of an entry, as a thing to be dissolved. -/
def Entry.tie (entry : Entry) : Option (IssueId × Link) :=
  entry.link.map fun link => (entry.id, link)

theorem Entry.tie_eq_some {entry : Entry} {own : IssueId} {link : Link} :
    entry.tie = some (own, link) ↔ entry.id = own ∧ entry.link = some link := by
  simp only [tie, Option.map_eq_some_iff, Prod.mk.injEq]
  constructor
  · rintro ⟨_, hlink, hid, rfl⟩
    exact ⟨hid, hlink⟩
  · rintro ⟨hid, hlink⟩
    exact ⟨link, hlink, hid, rfl⟩

namespace Exchange

/-! ## Views -/

structure View where
  holds : UserId → ListKind → Entry → Prop
  record : IssueId → Option Issue
  issued : List IssueId

def Shared.view (s : Shared) : View where
  holds user kind entry := entry ∈ (s.store.lists user).list kind
  record := s.store.record
  issued := s.issued

theorem not_holds_initial (user : UserId) (kind : ListKind) (entry : Entry) :
    ¬ Shared.initial.view.holds user kind entry := by
  intro he
  cases kind <;> exact nomatch he

namespace View

/-- Some user lists the issue. -/
def Listed (view : View) (id : IssueId) : Prop :=
  ∃ user kind entry, view.holds user kind entry ∧ entry.id = id

/-- A user lists the issue with a link. -/
def Linked (view : View) (user : UserId) (kind : ListKind) (id : IssueId) (link : Link) : Prop :=
  ∃ entry, view.holds user kind entry ∧ entry.id = id ∧ entry.link = some link

/-- One entry of a user goes and one comes. -/
def revise (view : View) (user : UserId) (gone : Option Entry) (come : Option (ListKind × Entry)) :
    View :=
  { view with
    holds := fun other kind entry =>
      (view.holds other kind entry ∧ ¬ (other = user ∧ gone = some entry)) ∨
        (other = user ∧ come = some (kind, entry)) }

def withRecord (view : View) (id : IssueId) (issue : Option Issue) : View :=
  { view with record := fun other => if other = id then issue else view.record other }

def issue (view : View) (id : IssueId) : View :=
  { view with issued := id :: view.issued }

@[simp] theorem revise_record (view : View) (user : UserId) (gone : Option Entry)
    (come : Option (ListKind × Entry)) : (view.revise user gone come).record = view.record := rfl

theorem holds_revise {view : View} {user other : UserId} {gone : Option Entry}
    {come : Option (ListKind × Entry)} {kind : ListKind} {entry : Entry} :
    (view.revise user gone come).holds other kind entry ↔
      (view.holds other kind entry ∧ ¬ (other = user ∧ gone = some entry)) ∨
        (other = user ∧ come = some (kind, entry)) := Iff.rfl

theorem record_withRecord (view : View) (id other : IssueId) (issue : Option Issue) :
    (view.withRecord id issue).record other = if other = id then issue else view.record other := rfl

theorem record_erased_ne_none {view : View} {id other : IssueId} :
    (view.withRecord id none).record other ≠ none ↔ other ≠ id ∧ view.record other ≠ none := by
  rw [record_withRecord]
  split
  · next hid => exact ⟨absurd rfl, fun h => absurd hid h.1⟩
  · next hid => exact ⟨fun h => ⟨hid, h⟩, And.right⟩

theorem record_written_ne_none {view : View} {id other : IssueId} {issue : Issue} :
    (view.withRecord id (some issue)).record other ≠ none ↔ other = id ∨ view.record other ≠ none := by
  rw [record_withRecord]
  split
  · next hid => exact ⟨fun _ => .inl hid, fun _ => Option.some_ne_none issue⟩
  · next hid => exact ⟨.inr, fun h => h.resolve_left hid⟩

@[simp] theorem mem_issued_issue {view : View} {id other : IssueId} :
    other ∈ (view.issue id).issued ↔ other = id ∨ other ∈ view.issued := List.mem_cons

end View

theorem not_listed_initial (id : IssueId) : ¬ Shared.initial.view.Listed id :=
  fun ⟨user, kind, entry, held, _⟩ => not_holds_initial user kind entry held

/-- A revision of one user's lists, as a change of the view. -/
theorem Shared.view_of_revision {s s' : Shared} {user : UserId} {gone : Option Entry}
    {come : Option (ListKind × Entry)}
    (hrevision : UserLists.Revision (s.store.lists user) (s'.store.lists user) gone come)
    (hother : ∀ other, other ≠ user → s'.store.lists other = s.store.lists other)
    (hrecord : s'.store.record = s.store.record) (hissued : s'.issued = s.issued) :
    s'.view = s.view.revise user gone come := by
  have hholds : s'.view.holds = (s.view.revise user gone come).holds := by
    funext other kind entry
    refine propext ?_
    show entry ∈ (s'.store.lists other).list kind ↔ _
    by_cases hu : other = user
    · subst hu
      rw [hrevision.mem, View.holds_revise]
      simp [Shared.view]
    · rw [hother other hu, View.holds_revise]
      simp [hu, Shared.view]
  show View.mk s'.view.holds s'.store.record s'.issued = _
  rw [hholds, hrecord, hissued]
  rfl

/-- Nothing goes and nothing comes. -/
theorem View.revise_none (view : View) (user : UserId) : view.revise user none none = view := by
  have hholds : (view.revise user none none).holds = view.holds := by
    funext other kind entry
    simp [View.revise]
  show View.mk (view.revise user none none).holds view.record view.issued = view
  rw [hholds]

/-! ## Tasks -/

/-- The records of all other issues. -/
def without (id : IssueId) (issues : List Issue) : List Issue :=
  issues.filter fun issue => issue.id ≠ id

@[simp] theorem mem_without {id : IssueId} {issues : List Issue} {issue : Issue} :
    issue ∈ without id issues ↔ issue ∈ issues ∧ issue.id ≠ id := by
  simp [without]

structure Task where
  /-- Identifiers drawn for records that are not yet stored. -/
  fresh : List IssueId := []
  /-- Records stored for issues that are not yet listed. -/
  ready : List Issue := []
  /-- A listed issue, and its counterpart that is not yet listed. -/
  offer : Option (IssueId × Link) := none
  /-- An issue that has left the lists and is to lose its record. -/
  taken : Option IssueId := none
  /-- An issue whose entry has gone or changed, and the link that the old entry had. -/
  loose : Option (IssueId × Link) := none
  /-- A counterpart that is to lose its record. -/
  orphan : Option IssueId := none
  /-- All issues taken out so far. -/
  gone : List IssueId := []
  /-- An entry has been given a new link, or none. -/
  spent : Bool := false
  seen : Option Issue := none
  /-- The client may change records that are listed. -/
  edits : Bool := false

namespace Task

/-- The task has not given up any entry, or is through with that and has not put another in its place. -/
structure Free (task : Task) : Prop where
  unspent : task.spent = false
  offer : task.offer = none
  taken : task.taken = none
  loose : task.loose = none
  orphan : task.orphan = none

/-- Nothing is left to be done. -/
structure Clear (task : Task) : Prop where
  ready : task.ready = []
  offer : task.offer = none
  taken : task.taken = none
  loose : task.loose = none
  orphan : task.orphan = none

/-- What the task has reserved is still its own. -/
structure Fits (task : Task) (view : View) : Prop where
  fresh : ∀ id ∈ task.fresh, id ∈ view.issued
  ready : ∀ issue ∈ task.ready, ¬ view.Listed issue.id
  offer : ∀ own link, task.offer = some (own, link) → ¬ view.Listed link.issue

end Task

/-! ## Acts -/

/-- What one call of an operation of `user` does to its task and to the view. -/
inductive Act (user : UserId) (task : Task) (view : View) : Task → View → Prop where
  | rest : Act user task view task view
  | learn (issue : Issue) (known : view.record issue.id = some issue) :
    Act user task view { task with seen := some issue } view
  | draw (id : IssueId) (unused : id ∉ view.issued) :
    Act user task view { task with fresh := id :: task.fresh } (view.issue id)
  | create (issue : Issue) (drawn : issue.id ∈ task.fresh) :
    Act user task view { task with
        fresh := task.fresh.filter fun other => other ≠ issue.id
        ready := issue :: task.ready }
      (view.withRecord issue.id (some issue))
  | list (issue : Issue) (ready : issue ∈ task.ready) :
    Act user task view { task with ready := without issue.id task.ready }
      (view.revise user none (some (.my, .unlinked issue.id)))
  | publish (sent received : Issue) (receiver : UserId) (ready : sent ∈ task.ready)
      (ready' : received ∈ task.ready) (same : received = sent.counterpart received.id)
      (apart : sent.id ≠ received.id) (other : receiver ≠ user) (free : task.Free) :
    Act user task view
      { task with
        ready := without received.id (without sent.id task.ready)
        offer := some (sent.id, ⟨receiver, received.id⟩) }
      (view.revise user none (some (.out, .linked sent.id ⟨receiver, received.id⟩)))
  | deliver (own : IssueId) (link : Link) (offered : task.offer = some (own, link))
      (tied : task.loose = none) :
    Act user task view { task with offer := none }
      (view.revise link.user none (some (.inbox, .linked link.issue ⟨user, own⟩)))
  | take (kind : ListKind) (entry : Entry) (held : view.holds user kind entry) (free : task.Free) :
    Act user task view
      { task with taken := some entry.id, loose := entry.tie, gone := entry.id :: task.gone }
      (view.revise user (some entry) none)
  | keep (kind : ListKind) (entry : Entry) (held : view.holds user kind entry) (free : task.Free) :
    Act user task view { task with loose := entry.tie, spent := true }
      (view.revise user (some entry) (some (.my, .unlinked entry.id)))
  | handOver (kind : ListKind) (entry : Entry) (copy : Issue) (owner : UserId)
      (held : view.holds user kind entry) (free : task.Free) (ready : copy ∈ task.ready)
      (same : ∃ issue, task.seen = some issue ∧ issue.id = entry.id ∧
        copy = issue.counterpart copy.id)
      (other : owner ≠ user) :
    Act user task view
      { task with
        ready := without copy.id task.ready
        loose := entry.tie
        offer := some (entry.id, ⟨owner, copy.id⟩)
        spent := true }
      (view.revise user (some entry) (some (.out, .linked entry.id ⟨owner, copy.id⟩)))
  | move (entry : Entry) (held : view.holds user .inbox entry) :
    Act user task view task (view.revise user (some entry) (some (.my, entry)))
  | sever (own : IssueId) (link : Link) (kind : ListKind) (entry : Entry)
      (tied : task.loose = some (own, link)) (paid : task.orphan = none)
      (held : view.holds link.user kind entry) (same : entry.id = link.issue)
      (back : entry.link = some ⟨user, own⟩) :
    Act user task view { task with loose := none, orphan := some link.issue }
      (view.revise link.user (some entry) none)
  | lose (own : IssueId) (link : Link) (tied : task.loose = some (own, link))
      (paid : task.orphan = none)
      (missing : ∀ kind entry, view.holds link.user kind entry → entry.id ≠ link.issue) :
    Act user task view { task with loose := none, orphan := some link.issue } view
  | leave (own : IssueId) (link : Link) (kind : ListKind) (entry : Entry)
      (tied : task.loose = some (own, link)) (held : view.holds link.user kind entry)
      (same : entry.id = link.issue) (elsewhere : entry.link ≠ some ⟨user, own⟩) :
    Act user task view { task with loose := none } view
  | drop (id : IssueId) (owed : task.orphan = some id) :
    Act user task view { task with orphan := none } (view.withRecord id none)
  | finish (id : IssueId) (owed : task.taken = some id) (tied : task.loose = none) :
    Act user task view { task with taken := none } (view.withRecord id none)
  | discard (issue : Issue) (ready : issue ∈ task.ready) :
    Act user task view { task with ready := without issue.id task.ready } (view.withRecord issue.id none)
  | skip (id : IssueId) (owed : task.taken = some id) (missing : view.record id = none)
      (tied : ∀ own link, task.loose = some (own, link) → own = id) :
    Act user task view { task with taken := none, loose := none } view
  | amend (issue edited : Issue) (edits : task.edits = true)
      (known : view.record issue.id = some issue) (same : edited.id = issue.id) :
    Act user task view task (view.withRecord issue.id (some edited))

/-- A revision in which nothing goes and nothing comes is no change. -/
theorem Act.rest_revise {user : UserId} {task : Task} {view : View} (other : UserId) :
    Act user task view task (view.revise other none none) := by
  rw [View.revise_none]
  exact .rest

end Exchange

end SharedTodo
