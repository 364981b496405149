import SharedTodo.Proofs.Exchange.Task

/-!
# Ownership

Every identifier goes one way: it is drawn by a client, gets a record, is promised to a user when an entry
with a link to it is published, and is settled with its user when it is listed. It is never promised to or
settled with anybody else, and it is never promised again. This is a property of states with any number of
clients at work on behalf of any users (`Ordered`), and every act preserves it (`Ordered.act`).

What follows for single identifiers is that a settled one is only ever listed by its user, that it does not
come back once it has left the lists (`Ordered.listed_of_act`), and that a record that has gone does not come
back (`Ordered.recorded_of_act`).
-/

namespace SharedTodo.Exchange

/-! ## The stages of an identifier -/

/-- How far an identifier has come; `c` is the client that has drawn it. -/
inductive Stage (ι : Type) where
  | unborn
  | drawn (c : ι)
  | ready (c : ι)
  | offered (c : ι) (owner : UserId)
  | settled (owner : UserId)

namespace Stage

variable {ι : Type}

/-- There has been a record. -/
def Stored : Stage ι → Prop
  | unborn => False
  | drawn _ => False
  | _ => True

/-- What one act of a client can do to the stage of an identifier. -/
inductive Next (c : ι) : Stage ι → Stage ι → Prop where
  | draw : Next c unborn (drawn c)
  | store : Next c (drawn c) (ready c)
  | offer (owner : UserId) : Next c (ready c) (offered c owner)
  | settle (owner : UserId) : Next c (ready c) (settled owner)
  | deliver (owner : UserId) : Next c (offered c owner) (settled owner)

theorem Next.stored {c : ι} {a b : Stage ι} (h : Next c a b) (ha : a.Stored) : b.Stored := by
  cases h with
  | draw => exact ha
  | store => exact trivial
  | offer owner => exact trivial
  | settle owner => exact trivial
  | deliver owner => exact trivial

theorem Next.ne_settled {c : ι} {a b : Stage ι} (h : Next c a b) (owner : UserId) :
    a ≠ settled owner := by
  cases h <;> exact fun e => nomatch e

/-- The identifiers of other clients stay where they are. -/
theorem Next.of_ne {c c' : ι} {a b : Stage ι} (h : Next c a b) (hc : c' ≠ c) :
    a ≠ drawn c' ∧ a ≠ ready c' ∧ (∀ owner, a ≠ offered c' owner) ∧
      ∀ owner, b ≠ offered c' owner := by
  cases h <;> simp [hc.symm]

end Stage

section

variable {ι : Type} {stage stage' : IssueId → Stage ι} {c c' : ι} {id : IssueId} {owner : UserId}

/-- A client acts on some identifiers, if any. -/
def Moves (c : ι) (stage stage' : IssueId → Stage ι) : Prop :=
  ∀ id, stage' id = stage id ∨ (stage id).Next c (stage' id)

/-- The identifier is a user's, or will be. -/
def Destined (stage : IssueId → Stage ι) (id : IssueId) (user : UserId) : Prop :=
  stage id = .settled user ∨ ∃ c, stage id = .offered c user

theorem moves_self (c : ι) (stage : IssueId → Stage ι) : Moves c stage stage :=
  fun _ => .inl rfl

theorem Moves.update {new : Stage ι} (hmoves : Moves c stage stage') (h : (stage id).Next c new) :
    Moves c stage (Function.update stage' id new) := by
  intro other
  by_cases hother : other = id
  · subst hother
    rw [Function.update_self]
    exact .inr h
  · rw [Function.update_of_ne hother]
    exact hmoves other

theorem moves_update {a new : Stage ι} (hid : stage id = a) (h : a.Next c new) :
    Moves c stage (Function.update stage id new) :=
  (moves_self c stage).update (hid ▸ h)

/-- An identifier at one stage is not the one that was moved from another stage. -/
theorem update_of_stage {a b new : Stage ι} {other : IssueId} (hid : stage id = b) (hne : b ≠ a)
    (hother : stage other = a) : Function.update stage id new other = a := by
  rw [Function.update_of_ne (fun e => hne (by rw [← hid, ← e, hother]))]
  exact hother

theorem stage_of_update {a new : Stage ι} {other : IssueId}
    (hother : Function.update stage id new other = a) (hnew : new ≠ a) : stage other = a := by
  by_cases he : other = id
  · subst he
    rw [Function.update_self] at hother
    exact absurd hother hnew
  · rw [Function.update_of_ne he] at hother
    exact hother

theorem Moves.settled (h : Moves c stage stage') (hid : stage id = .settled owner) :
    stage' id = .settled owner := by
  rcases h id with hsame | hnext
  · rw [hsame, hid]
  · exact absurd hid (hnext.ne_settled owner)

theorem Moves.stored (h : Moves c stage stage') (hid : (stage id).Stored) : (stage' id).Stored := by
  rcases h id with hsame | hnext
  · rw [hsame]
    exact hid
  · exact hnext.stored hid

theorem Moves.destined (h : Moves c stage stage') (hid : Destined stage id owner) :
    Destined stage' id owner := by
  rcases hid with hid | ⟨c', hid⟩
  · exact .inl (h.settled hid)
  · rcases h id with hsame | hnext
    · exact .inr ⟨c', hsame.trans hid⟩
    · rw [hid] at hnext
      generalize hid' : stage' id = b at hnext
      cases hnext
      exact .inl hid'

theorem Moves.drawn_of_ne (h : Moves c stage stage') (hc : c' ≠ c) (hid : stage id = .drawn c') :
    stage' id = .drawn c' :=
  (h id).elim (fun hsame => hsame.trans hid) fun hnext => absurd hid (hnext.of_ne hc).1

theorem Moves.ready_of_ne (h : Moves c stage stage') (hc : c' ≠ c) (hid : stage id = .ready c') :
    stage' id = .ready c' :=
  (h id).elim (fun hsame => hsame.trans hid) fun hnext => absurd hid (hnext.of_ne hc).2.1

theorem Moves.offered_of_ne (h : Moves c stage stage') (hc : c' ≠ c) :
    stage' id = .offered c' owner ↔ stage id = .offered c' owner := by
  rcases h id with hsame | hnext
  · rw [hsame]
  · exact ⟨fun hid => absurd hid ((hnext.of_ne hc).2.2.2 owner),
      fun hid => absurd hid ((hnext.of_ne hc).2.2.1 owner)⟩

/-! ## The invariant -/

/-- What is listed and recorded fits the stages. -/
structure Placed (stage : IssueId → Stage ι) (view : View) : Prop where
  unborn : ∀ id, id ∉ view.issued → stage id = .unborn
  recorded : ∀ id, view.record id ≠ none → (stage id).Stored
  held : ∀ user kind entry, view.holds user kind entry → stage entry.id = .settled user
  unique : ∀ user kind kind' entry entry', view.holds user kind entry → view.holds user kind' entry' →
    entry.id = entry'.id → kind = kind' ∧ entry = entry'
  target : ∀ user kind entry link, view.holds user kind entry → entry.link = some link →
    Destined stage link.issue link.user

/-- What a client has reserved is at its stages. -/
structure Reserves (stage : IssueId → Stage ι) (c : ι) (user : UserId) (task : Task) : Prop where
  fresh : ∀ id ∈ task.fresh, stage id = .drawn c
  ready : ∀ issue ∈ task.ready, stage issue.id = .ready c
  offer : ∀ own link, task.offer = some (own, link) →
    stage own = .settled user ∧ stage link.issue = .offered c link.user
  offered : ∀ id owner, stage id = .offered c owner → ∃ own, task.offer = some (own, ⟨owner, id⟩)

/-- What a client has given up was its user's. -/
structure Releases (stage : IssueId → Stage ι) (view : View) (user : UserId) (task : Task) : Prop where
  taken : ∀ id, task.taken = some id → stage id = .settled user ∧ ¬ view.Listed id
  loose : ∀ own link, task.loose = some (own, link) →
    stage own = .settled user ∧ Destined stage link.issue link.user
  gone : ∀ id ∈ task.gone, stage id = .settled user ∧ ¬ view.Listed id

structure Ordered (users : ι → UserId) (stage : IssueId → Stage ι) (view : View) (tasks : ι → Task) :
    Prop where
  placed : Placed stage view
  reserves : ∀ c, Reserves stage c (users c) (tasks c)
  releases : ∀ c, Releases stage view (users c) (tasks c)

/-! ## Lists and records -/

variable {view view' : View} {user : UserId} {task : Task}

theorem Placed.ne_of_holds (h : Placed stage view) {a : Stage ι} (hid : stage id = a)
    (hne : a ≠ .settled user) {kind : ListKind} {entry : Entry} (held : view.holds user kind entry) :
    entry.id ≠ id := by
  rintro rfl
  exact hne (hid.symm.trans (h.held user kind entry held))

theorem Placed.tie (h : Placed stage view) {kind : ListKind} {entry : Entry}
    (held : view.holds user kind entry) {own : IssueId} {link : Link}
    (htie : entry.tie = some (own, link)) :
    stage own = .settled user ∧ Destined stage link.issue link.user := by
  obtain ⟨rfl, hlink⟩ := Entry.tie_eq_some.1 htie
  exact ⟨h.held user kind entry held, h.target user kind entry link held hlink⟩

theorem Placed.not_listed_of_gone (h : Placed stage view) {kind : ListKind} {entry : Entry}
    (held : view.holds user kind entry) : ¬ (view.revise user (some entry) none).Listed entry.id := by
  rintro ⟨user', kind', entry', he | he, hid⟩
  · obtain ⟨he, hgone⟩ := he
    have hstage := h.held user' kind' entry' he
    rw [hid, h.held user kind entry held] at hstage
    cases hstage
    exact hgone ⟨rfl, congrArg some (h.unique user kind kind' entry entry' held he hid.symm).2⟩
  · exact nomatch he.2

/-- Stages that move on, without what is listed and recorded. -/
theorem Placed.moved (h : Placed stage view) (hmoves : Moves c stage stage')
    (hunborn : ∀ id, stage id = .unborn → stage' id = .unborn) : Placed stage' view where
  unborn id hid := hunborn id (h.unborn id hid)
  recorded id hid := hmoves.stored (h.recorded id hid)
  held user kind entry he := hmoves.settled (h.held user kind entry he)
  unique := h.unique
  target user kind entry link he hlink := hmoves.destined (h.target user kind entry link he hlink)

theorem Placed.draw (h : Placed stage view) (hunborn : stage id = .unborn) (c : ι) :
    Placed (Function.update stage id (.drawn c)) (view.issue id) where
  unborn other hother := by
    rw [View.mem_issued_issue, not_or] at hother
    rw [Function.update_of_ne hother.1]
    exact h.unborn other hother.2
  recorded other hother := (moves_update hunborn (.draw (c := c))).stored (h.recorded other hother)
  held user kind entry he := update_of_stage hunborn nofun (h.held user kind entry he)
  unique := h.unique
  target user kind entry link he hlink :=
    (moves_update hunborn (.draw (c := c))).destined (h.target user kind entry link he hlink)

theorem Placed.withRecord (h : Placed stage view) {record : Option Issue}
    (hid : record ≠ none → (stage id).Stored) : Placed stage (view.withRecord id record) where
  unborn := h.unborn
  recorded other hother := by
    rw [View.record_withRecord] at hother
    split at hother
    · next he =>
      rw [he]
      exact hid hother
    · exact h.recorded other hother
  held := h.held
  unique := h.unique
  target := h.target

/-- What changes the lists of one user: the entry that comes is settled, or takes the place of another one
with the same issue. -/
theorem Placed.revise (h : Placed stage view) {other : UserId} {gone : Option Entry}
    {come : Option (ListKind × Entry)}
    (hcome : ∀ kind entry, come = some (kind, entry) → stage entry.id = .settled other ∧
      (∀ link, entry.link = some link → Destined stage link.issue link.user) ∧
      ∀ kind' entry', view.holds other kind' entry' → entry'.id = entry.id → gone = some entry') :
    Placed stage (view.revise other gone come) where
  unborn := h.unborn
  recorded := h.recorded
  held user kind entry he := by
    rcases he with ⟨he, -⟩ | ⟨rfl, he⟩
    · exact h.held user kind entry he
    · exact (hcome kind entry he).1
  unique := by
    intro user kind kind' entry entry' he he' hid
    rcases he with ⟨he, hgone⟩ | ⟨rfl, he⟩ <;> rcases he' with ⟨he', hgone'⟩ | ⟨hu, he'⟩
    · exact h.unique user kind kind' entry entry' he he' hid
    · subst hu
      exact absurd ⟨rfl, (hcome kind' entry' he').2.2 kind entry he hid⟩ hgone
    · exact absurd ⟨rfl, (hcome kind entry he).2.2 kind' entry' he' hid.symm⟩ hgone'
    · cases he.symm.trans he'
      exact ⟨rfl, rfl⟩
  target user kind entry link he hlink := by
    rcases he with ⟨he, -⟩ | ⟨rfl, he⟩
    · exact h.target user kind entry link he hlink
    · exact (hcome kind entry he).2.1 link hlink

theorem Placed.withdraw (h : Placed stage view) (other : UserId) (entry : Entry) :
    Placed stage (view.revise other (some entry) none) :=
  h.revise fun _ _ hcome => nomatch hcome

/-- A newcomer is settled, and nobody has listed it before. -/
theorem Placed.admit (h : Placed stage view) {kind : ListKind} {entry : Entry}
    (hsettled : stage entry.id = .settled user)
    (hnew : ∀ kind' entry', view.holds user kind' entry' → entry'.id ≠ entry.id)
    (htarget : ∀ link, entry.link = some link → Destined stage link.issue link.user) :
    Placed stage (view.revise user none (some (kind, entry))) := by
  refine h.revise fun kind' entry' hcome => ?_
  cases hcome
  exact ⟨hsettled, htarget, fun kind' entry' he hid => absurd hid (hnew kind' entry' he)⟩

/-- What comes in place of an entry stands for the same issue. -/
theorem Placed.replace (h : Placed stage view) {kind kind' : ListKind} {entry new : Entry}
    (held : view.holds user kind entry) (hid : new.id = entry.id)
    (htarget : ∀ link, new.link = some link → Destined stage link.issue link.user) :
    Placed stage (view.revise user (some entry) (some (kind', new))) := by
  refine h.revise fun kind₂ new₂ hcome => ?_
  cases hcome
  refine ⟨?_, htarget, fun kind₂ entry' he hsame => ?_⟩
  · rw [hid]
    exact h.held user kind entry held
  · exact congrArg some (h.unique user kind kind₂ entry entry' held he (hsame.trans hid).symm).2

/-! ## Reservations -/

theorem Reserves.draw (h : Reserves stage c user task) (hunborn : stage id = .unborn) :
    Reserves (Function.update stage id (.drawn c)) c user { task with fresh := id :: task.fresh } where
  fresh other hother := by
    rcases List.mem_cons.1 hother with rfl | hother
    · exact Function.update_self ..
    · exact update_of_stage hunborn nofun (h.fresh other hother)
  ready issue hissue := update_of_stage hunborn nofun (h.ready issue hissue)
  offer own link hoffer :=
    have ⟨hown, hlink⟩ := h.offer own link hoffer
    ⟨update_of_stage hunborn nofun hown, update_of_stage hunborn nofun hlink⟩
  offered other owner hother := h.offered other owner (stage_of_update hother nofun)

theorem Reserves.create (h : Reserves stage c user task) {issue : Issue}
    (hdrawn : stage issue.id = .drawn c) :
    Reserves (Function.update stage issue.id (.ready c)) c user { task with
      fresh := task.fresh.filter fun other => other ≠ issue.id
      ready := issue :: task.ready } where
  fresh other hother := by
    obtain ⟨hother, hne⟩ := List.mem_filter.1 hother
    rw [Function.update_of_ne (by simpa using hne)]
    exact h.fresh other hother
  ready other hother := by
    rcases List.mem_cons.1 hother with rfl | hother
    · exact Function.update_self ..
    · exact update_of_stage hdrawn nofun (h.ready other hother)
  offer own link hoffer :=
    have ⟨hown, hlink⟩ := h.offer own link hoffer
    ⟨update_of_stage hdrawn nofun hown, update_of_stage hdrawn nofun hlink⟩
  offered other owner hother := h.offered other owner (stage_of_update hother nofun)

/-- A record that is ready is listed. -/
theorem Reserves.settle (h : Reserves stage c user task) (hready : stage id = .ready c)
    (owner : UserId) :
    Reserves (Function.update stage id (.settled owner)) c user
      { task with ready := without id task.ready } where
  fresh other hother := update_of_stage hready nofun (h.fresh other hother)
  ready other hother := by
    obtain ⟨hother, hne⟩ := mem_without.1 hother
    rw [Function.update_of_ne hne]
    exact h.ready other hother
  offer own link hoffer :=
    have ⟨hown, hlink⟩ := h.offer own link hoffer
    ⟨update_of_stage hready nofun hown, update_of_stage hready nofun hlink⟩
  offered other owner' hother := h.offered other owner' (stage_of_update hother nofun)

/-- A record that is ready is promised. -/
theorem Reserves.promise (h : Reserves stage c user task) (hfree : task.offer = none) {own : IssueId}
    (hown : stage own = .settled user) (hready : stage id = .ready c) (owner : UserId) :
    Reserves (Function.update stage id (.offered c owner)) c user
      { task with ready := without id task.ready, offer := some (own, ⟨owner, id⟩) } where
  fresh other hother := update_of_stage hready nofun (h.fresh other hother)
  ready other hother := by
    obtain ⟨hother, hne⟩ := mem_without.1 hother
    rw [Function.update_of_ne hne]
    exact h.ready other hother
  offer own' link hoffer := by
    cases hoffer
    exact ⟨update_of_stage hready nofun hown, Function.update_self ..⟩
  offered other owner' hother := by
    by_cases he : other = id
    · subst he
      rw [Function.update_self] at hother
      cases hother
      exact ⟨own, rfl⟩
    · rw [Function.update_of_ne he] at hother
      obtain ⟨own', hoffer⟩ := h.offered other owner' hother
      exact nomatch hfree.symm.trans hoffer

/-- What was promised is listed. -/
theorem Reserves.deliver (h : Reserves stage c user task) {own : IssueId} {link : Link}
    (hoffer : task.offer = some (own, link)) :
    Reserves (Function.update stage link.issue (.settled link.user)) c user
      { task with offer := none } where
  fresh other hother := update_of_stage (h.offer own link hoffer).2 nofun (h.fresh other hother)
  ready issue hissue := update_of_stage (h.offer own link hoffer).2 nofun (h.ready issue hissue)
  offer _ _ hnone := nomatch hnone
  offered other owner hother := by
    obtain ⟨own', hoffer'⟩ := h.offered other owner (stage_of_update hother nofun)
    cases hoffer.symm.trans hoffer'
    rw [Function.update_self] at hother
    exact nomatch hother

/-! ## Frames -/

/-- What another client has reserved is as it was. -/
theorem Reserves.of_ne (h : Reserves stage c' user task) (hmoves : Moves c stage stage')
    (hc : c' ≠ c) : Reserves stage' c' user task where
  fresh id hid := hmoves.drawn_of_ne hc (h.fresh id hid)
  ready issue hissue := hmoves.ready_of_ne hc (h.ready issue hissue)
  offer own link hoffer :=
    ⟨hmoves.settled (h.offer own link hoffer).1, (hmoves.offered_of_ne hc).2 (h.offer own link hoffer).2⟩
  offered id owner hid := h.offered id owner ((hmoves.offered_of_ne hc).1 hid)

/-- What has been given up stays so, as long as nothing settled comes back. -/
theorem Releases.mono (h : Releases stage view user task) (hmoves : Moves c stage stage')
    (hlisted : ∀ id owner, stage id = .settled owner → view'.Listed id → view.Listed id) :
    Releases stage' view' user task where
  taken id hid :=
    have ⟨hsettled, hgone⟩ := h.taken id hid
    ⟨hmoves.settled hsettled, fun hback => hgone (hlisted id user hsettled hback)⟩
  loose own link hloose :=
    have ⟨hsettled, htarget⟩ := h.loose own link hloose
    ⟨hmoves.settled hsettled, hmoves.destined htarget⟩
  gone id hid :=
    have ⟨hsettled, hgone⟩ := h.gone id hid
    ⟨hmoves.settled hsettled, fun hback => hgone (hlisted id user hsettled hback)⟩

theorem View.listed_revise {other : UserId} {gone : Option Entry} {come : Option (ListKind × Entry)}
    (h : (view.revise other gone come).Listed id) :
    view.Listed id ∨ ∃ kind entry, come = some (kind, entry) ∧ entry.id = id := by
  obtain ⟨user, kind, entry, he, hid⟩ := h
  rcases he with ⟨he, -⟩ | ⟨-, he⟩
  · exact .inl ⟨user, kind, entry, he, hid⟩
  · exact .inr ⟨kind, entry, he, hid⟩

/-! ## One act -/

variable {users : ι → UserId} {tasks : ι → Task} {task' : Task}

/-- An issue that has left the lists does not come back. -/
theorem Ordered.listed_of_act (h : Ordered users stage view tasks)
    (hact : Act (users c) (tasks c) view task' view') (hsettled : stage id = .settled owner)
    (hlisted : view'.Listed id) : view.Listed id := by
  have hres := h.reserves c
  cases hact with
  | rest | learn | draw | create | lose | leave | drop | finish | discard | skip | amend => exact hlisted
  | list issue ready =>
    rcases View.listed_revise hlisted with hlisted | ⟨kind, entry, hcome, rfl⟩
    · exact hlisted
    · cases hcome
      exact nomatch hsettled.symm.trans (hres.ready issue ready)
  | publish sent received receiver ready =>
    rcases View.listed_revise hlisted with hlisted | ⟨kind, entry, hcome, rfl⟩
    · exact hlisted
    · cases hcome
      exact nomatch hsettled.symm.trans (hres.ready sent ready)
  | deliver own link offered tied =>
    rcases View.listed_revise hlisted with hlisted | ⟨kind, entry, hcome, rfl⟩
    · exact hlisted
    · cases hcome
      exact nomatch hsettled.symm.trans (hres.offer own link offered).2
  | take kind entry held free =>
    rcases View.listed_revise hlisted with hlisted | ⟨kind', entry', hcome, hid⟩
    · exact hlisted
    · exact nomatch hcome
  | keep kind entry held free =>
    rcases View.listed_revise hlisted with hlisted | ⟨kind', entry', hcome, hid⟩
    · exact hlisted
    · cases hcome
      exact ⟨users c, kind, entry, held, hid⟩
  | handOver kind entry copy receiver held free ready same other =>
    rcases View.listed_revise hlisted with hlisted | ⟨kind', entry', hcome, hid⟩
    · exact hlisted
    · cases hcome
      exact ⟨users c, kind, entry, held, hid⟩
  | move entry held =>
    rcases View.listed_revise hlisted with hlisted | ⟨kind', entry', hcome, hid⟩
    · exact hlisted
    · cases hcome
      exact ⟨users c, .inbox, entry, held, hid⟩
  | sever own link kind entry tied paid held same back =>
    rcases View.listed_revise hlisted with hlisted | ⟨kind', entry', hcome, hid⟩
    · exact hlisted
    · exact nomatch hcome

/-- A record that has gone does not come back. -/
theorem Ordered.recorded_of_act (h : Ordered users stage view tasks)
    (hact : Act (users c) (tasks c) view task' view') (hstored : (stage id).Stored)
    (hrecord : view'.record id ≠ none) : view.record id ≠ none := by
  cases hact with
  | rest | learn | draw | list | publish | deliver | take | keep | handOver | move | sever | lose | leave
  | skip => exact hrecord
  | create issue drawn =>
    rcases View.record_written_ne_none.1 hrecord with hid | hbefore
    · rw [hid, (h.reserves c).fresh issue.id drawn] at hstored
      exact hstored.elim
    · exact hbefore
  | drop | finish | discard => exact (View.record_erased_ne_none.1 hrecord).2
  | amend issue edited _ known _ =>
    rcases View.record_written_ne_none.1 hrecord with hid | hbefore
    · rw [hid, known]
      exact Option.some_ne_none issue
    · exact hbefore

theorem Ordered.assemble [DecidableEq ι] (h : Ordered users stage view tasks)
    (hact : Act (users c) (tasks c) view task' view') (hmoves : Moves c stage stage')
    (hplaced : Placed stage' view') (hreserves : Reserves stage' c (users c) task')
    (hreleases : Releases stage' view' (users c) task') :
    Ordered users stage' view' (Function.update tasks c task') where
  placed := hplaced
  reserves c' := by
    by_cases hc : c' = c
    · subst hc
      rw [Function.update_self]
      exact hreserves
    · rw [Function.update_of_ne hc]
      exact (h.reserves c').of_ne hmoves hc
  releases c' := by
    by_cases hc : c' = c
    · subst hc
      rw [Function.update_self]
      exact hreleases
    · rw [Function.update_of_ne hc]
      exact (h.releases c').mono hmoves fun id owner hid => h.listed_of_act hact hid

/-- An act of any client preserves the order. -/
theorem Ordered.act [DecidableEq ι] (h : Ordered users stage view tasks)
    (hact : Act (users c) (tasks c) view task' view') :
    ∃ stage', Moves c stage stage' ∧ Ordered users stage' view' (Function.update tasks c task') := by
  have hplaced := h.placed
  have hres := h.reserves c
  have hrel : ∀ {stage' : IssueId → Stage ι}, Moves c stage stage' →
      Releases stage' view' (users c) (tasks c) :=
    fun hmoves => (h.releases c).mono hmoves fun id owner hid => h.listed_of_act hact hid
  have hstay := moves_self c stage
  have hself := hrel hstay
  suffices hstep : ∃ stage', Moves c stage stage' ∧ Placed stage' view' ∧
      Reserves stage' c (users c) task' ∧ Releases stage' view' (users c) task' by
    obtain ⟨stage', hmoves, hplaced', hreserves, hreleases⟩ := hstep
    exact ⟨stage', hmoves, h.assemble hact hmoves hplaced' hreserves hreleases⟩
  cases hact with
  | rest => exact ⟨stage, hstay, hplaced, hres, hself⟩
  | learn issue known =>
    exact ⟨stage, hstay, hplaced, ⟨hres.fresh, hres.ready, hres.offer, hres.offered⟩,
      ⟨hself.taken, hself.loose, hself.gone⟩⟩
  | draw id unused =>
    have hunborn := hplaced.unborn id unused
    have hrel' := hrel (moves_update hunborn .draw)
    exact ⟨_, moves_update hunborn .draw, hplaced.draw hunborn c, hres.draw hunborn,
      ⟨hrel'.taken, hrel'.loose, hrel'.gone⟩⟩
  | create issue drawn =>
    have hdrawn := hres.fresh issue.id drawn
    have hmoves := moves_update hdrawn .store
    have hrel' := hrel hmoves
    have hplaced' := hplaced.moved hmoves fun id hid => update_of_stage hdrawn nofun hid
    refine ⟨_, hmoves, hplaced'.withRecord fun _ => ?_, hres.create hdrawn,
      ⟨hrel'.taken, hrel'.loose, hrel'.gone⟩⟩
    rw [Function.update_self]
    trivial
  | list issue ready =>
    have hready := hres.ready issue ready
    have hmoves := moves_update hready (.settle (users c))
    have hrel' := hrel hmoves
    have hplaced' := hplaced.moved hmoves fun id hid => update_of_stage hready nofun hid
    exact ⟨_, hmoves, hplaced'.admit (Function.update_self ..)
        (fun kind entry held => hplaced.ne_of_holds hready nofun held) nofun,
      hres.settle hready (users c), ⟨hrel'.taken, hrel'.loose, hrel'.gone⟩⟩
  | publish sent received receiver ready ready' same apart other free =>
    have hready := hres.ready sent ready
    -- the record that is sent is settled first, and then the other one is promised
    have hsettle := moves_update hready (.settle (users c))
    have hready' : Function.update stage sent.id (.settled (users c)) received.id = .ready c := by
      rw [Function.update_of_ne fun e => apart e.symm]
      exact hres.ready received ready'
    have hsent := Function.update_self sent.id (Stage.settled (users c)) stage
    have hmoves : Moves c stage (Function.update (Function.update stage sent.id (.settled (users c)))
        received.id (.offered c receiver)) :=
      hsettle.update (by rw [hres.ready received ready']; exact .offer receiver)
    have hrel' := hrel hmoves
    have hplaced' := hplaced.moved hmoves fun id hid =>
      update_of_stage hready' nofun (update_of_stage hready nofun hid)
    refine ⟨_, hmoves, hplaced'.admit (update_of_stage hready' nofun hsent)
        (fun kind entry held => hplaced.ne_of_holds hready nofun held) ?_, ?_,
      ⟨hrel'.taken, hrel'.loose, hrel'.gone⟩⟩
    · intro link hlink
      cases hlink
      exact .inr ⟨c, Function.update_self ..⟩
    · exact (hres.settle hready (users c)).promise free.offer hsent hready' receiver
  | deliver own link offered tied =>
    obtain ⟨hown, hlink⟩ := hres.offer own link offered
    have hmoves := moves_update hlink (.deliver link.user)
    have hrel' := hrel hmoves
    have hplaced' := hplaced.moved hmoves fun id hid => update_of_stage hlink nofun hid
    refine ⟨_, hmoves, hplaced'.admit (Function.update_self ..)
        (fun kind entry held => hplaced.ne_of_holds hlink nofun held) ?_,
      hres.deliver offered, ⟨hrel'.taken, hrel'.loose, hrel'.gone⟩⟩
    intro back hback
    cases hback
    exact .inl (hmoves.settled hown)
  | take kind entry held free =>
    have hheld := hplaced.held _ kind entry held
    have hgone := hplaced.not_listed_of_gone held
    refine ⟨stage, hstay, hplaced.withdraw _ entry, ⟨hres.fresh, hres.ready, hres.offer, hres.offered⟩,
      ⟨?_, fun own link htie => hplaced.tie held htie, ?_⟩⟩
    · intro id hid
      cases hid
      exact ⟨hheld, hgone⟩
    · intro id hid
      rcases List.mem_cons.1 hid with rfl | hid
      · exact ⟨hheld, hgone⟩
      · exact hself.gone id hid
  | keep kind entry held free =>
    exact ⟨stage, hstay, hplaced.replace held rfl nofun,
      ⟨hres.fresh, hres.ready, hres.offer, hres.offered⟩,
      ⟨hself.taken, fun own link htie => hplaced.tie held htie, hself.gone⟩⟩
  | handOver kind entry copy owner held free ready same other =>
    have hready := hres.ready copy ready
    have hmoves := moves_update hready (.offer owner)
    have hrel' := hrel hmoves
    have hplaced' := hplaced.moved hmoves fun id hid => update_of_stage hready nofun hid
    have hpromise := hres.promise free.offer (hplaced.held _ kind entry held) hready owner
    refine ⟨_, hmoves, hplaced'.replace held rfl ?_,
      ⟨hpromise.fresh, hpromise.ready, hpromise.offer, hpromise.offered⟩,
      ⟨hrel'.taken, fun own link htie => hplaced'.tie held htie, hrel'.gone⟩⟩
    intro link hlink
    cases hlink
    exact .inr ⟨c, Function.update_self ..⟩
  | move entry held =>
    exact ⟨stage, hstay, hplaced.replace held rfl fun link hlink =>
      hplaced.target _ .inbox entry link held hlink, hres, hself⟩
  | sever own link kind entry tied paid held same back =>
    exact ⟨stage, hstay, hplaced.withdraw _ entry, ⟨hres.fresh, hres.ready, hres.offer, hres.offered⟩,
      ⟨hself.taken, nofun, hself.gone⟩⟩
  | lose own link tied paid missing =>
    exact ⟨stage, hstay, hplaced, ⟨hres.fresh, hres.ready, hres.offer, hres.offered⟩,
      ⟨hself.taken, nofun, hself.gone⟩⟩
  | leave own link kind entry tied held same elsewhere =>
    exact ⟨stage, hstay, hplaced, ⟨hres.fresh, hres.ready, hres.offer, hres.offered⟩,
      ⟨hself.taken, nofun, hself.gone⟩⟩
  | drop id owed =>
    exact ⟨stage, hstay, hplaced.withRecord (absurd rfl),
      ⟨hres.fresh, hres.ready, hres.offer, hres.offered⟩, ⟨hself.taken, hself.loose, hself.gone⟩⟩
  | finish id owed tied =>
    exact ⟨stage, hstay, hplaced.withRecord (absurd rfl),
      ⟨hres.fresh, hres.ready, hres.offer, hres.offered⟩, ⟨nofun, hself.loose, hself.gone⟩⟩
  | discard issue ready =>
    refine ⟨stage, hstay, hplaced.withRecord (absurd rfl),
      ⟨hres.fresh, fun other hother => ?_, hres.offer, hres.offered⟩,
      ⟨hself.taken, hself.loose, hself.gone⟩⟩
    exact hres.ready other (mem_without.1 hother).1
  | skip id owed missing tied =>
    exact ⟨stage, hstay, hplaced, ⟨hres.fresh, hres.ready, hres.offer, hres.offered⟩,
      ⟨nofun, nofun, hself.gone⟩⟩
  | amend issue edited edits known same =>
    refine ⟨stage, hstay, hplaced.withRecord fun _ => ?_, hres, hself⟩
    exact hplaced.recorded issue.id (by rw [known]; exact Option.some_ne_none issue)

end

end SharedTodo.Exchange
