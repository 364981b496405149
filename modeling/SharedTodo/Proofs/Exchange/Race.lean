import SharedTodo.Proofs.Exchange.Sequential

/-!
# Races between users

Clients of different users run one operation each, in any order of their calls. If the store was consistent
when they began, it is so again when all of them have returned, unless one of them has used up its attempts
or has met a failure of the store on its way (`Pool.consistent_of_returned`). What a client does not reassign
keeps its link for as long as it is listed (`Bound`). So when one holder of a todo has finished it, and the
other one has not given the other half a new link, neither half is left.
-/

namespace SharedTodo.Exchange

/-! ## Links that are not given up -/

/-- An issue of a user that is listed with its link, unless the user's client has reassigned an entry. -/
structure Bound (stage : IssueId → Stage UserId) (view : View) (tasks : UserId → Task) (user : UserId)
    (id : IssueId) (link : Link) : Prop where
  settled : stage id = .settled user
  link : ∀ kind entry, view.holds user kind entry → entry.id = id →
    entry.link = some link ∨ (tasks user).spent = true

section

variable {stage stage' : IssueId → Stage UserId} {view view' : View} {tasks : UserId → Task}
  {user client : UserId} {task' : Task} {id : IssueId} {link : Link}

theorem Bound.act (h : Bound stage view tasks user id link) (hplace : InPlace stage view tasks)
    (hact : Act client (tasks client) view task' view') (hmoves : Moves client stage stage') :
    Bound stage' view' (Function.update tasks client task') user id link where
  settled := hmoves.settled h.settled
  link kind entry he hid := by
    rcases hact.holds he with ⟨kind', he⟩ | hready | ⟨own, hoffer⟩ | ⟨rfl, hspent⟩
    · refine (h.link kind' entry he hid).imp_right fun hspent => ?_
      by_cases hclient : user = client
      · subst hclient
        rw [Function.update_self]
        exact hact.spent hspent
      · rw [Function.update_of_ne hclient]
        exact hspent
    · exact absurd (hid ▸ h.settled) (hplace.not_ready hready)
    · exact absurd (hid ▸ h.settled) (hplace.not_offered hoffer)
    · rw [Function.update_self]
      exact .inr hspent

theorem InPlace.bound (hplace : InPlace stage view tasks) {kind : ListKind} {entry : Entry}
    (he : view.holds user kind entry) (hlink : entry.link = some link) :
    Bound stage view tasks user entry.id link where
  settled := hplace.ordered.placed.held user kind entry he
  link kind' entry' he' hid := by
    obtain ⟨-, rfl⟩ := hplace.ordered.placed.unique user kind' kind entry' entry he' he hid
    exact .inl hlink

/-- When nothing is left to be done, an entry whose counterpart has gone has been reassigned. -/
theorem Sound.not_listed {s : Shared} (h : Sound stage s tasks) (hclear : ∀ user, (tasks user).Clear)
    (hbound : Bound stage s.view tasks user id link) (hunspent : (tasks user).spent = false)
    (hgone : ¬ s.view.Listed link.issue) : ¬ s.view.Listed id := by
  rintro ⟨holder, kind, entry, he, hid⟩
  have hsettled := h.place.ordered.placed.held holder kind entry he
  rw [hid, hbound.settled] at hsettled
  cases hsettled
  rcases hbound.link kind entry he hid with hlink | hspent
  · obtain ⟨kind', entry', he', hid', -⟩ := (h.consistent hclear).paired user kind entry link he hlink
    exact hgone ⟨link.user, kind', entry', he', hid'⟩
  · exact nomatch hunspent.symm.trans hspent

end

/-! ## Pools of different users -/

namespace Pool

variable {ι : Type} {faulty : Prop} {users : ι → UserId} {endings : ι → Ending Unit}

/-- A pool with one client at most for each user, in a sound state. -/
structure InStep (faulty : Prop) (users : ι → UserId) (endings : ι → Ending Unit) (pool : Pool ι)
    (stage : IssueId → Stage UserId) (tasks : UserId → Task) : Prop where
  sound : Sound stage pool.shared tasks
  follows : pool.Follows faulty users endings fun i => tasks (users i)
  idle : ∀ user, (∀ i, users i ≠ user) → (tasks user).Clear

section

variable [DecidableEq ι] (hdifferent : Function.Injective users)

include hdifferent

theorem InStep.advance {pool pool' : Pool ι} {stage : IssueId → Stage UserId} {tasks : UserId → Task}
    (h : pool.InStep faulty users endings stage tasks) (hadvances : Advances faulty pool pool') :
    ∃ stage' tasks', pool'.InStep faulty users endings stage' tasks' ∧
      ∀ user id link, Bound stage pool.shared.view tasks user id link →
        Bound stage' pool'.shared.view tasks' user id link := by
  obtain ⟨i, task', hconducts, hfollows⟩ := h.follows.advance h.sound.orderly
    (fun i => h.sound.place.ordered.fits (users i)) hadvances
  obtain ⟨stage', hmoves, hsound⟩ := h.sound.act hconducts
  refine ⟨stage', Function.update tasks (users i) task', ⟨hsound, ?_, fun user huser => ?_⟩, ?_⟩
  · have htasks := Function.update_comp_eq_of_injective tasks hdifferent i task'
    rw [show (fun j => Function.update tasks (users i) task' (users j)) = _ from htasks]
    exact hfollows
  · rw [Function.update_of_ne (huser i).symm]
    exact h.idle user huser
  · exact fun user id link hbound => hbound.act h.sound.place hconducts.act hmoves

theorem InStep.leads {pool pool' : Pool ι} {stage : IssueId → Stage UserId} {tasks : UserId → Task}
    (h : pool.InStep faulty users endings stage tasks) (hleads : pool.Leads faulty pool') :
    ∃ stage' tasks', pool'.InStep faulty users endings stage' tasks' ∧
      ∀ user id link, Bound stage pool.shared.view tasks user id link →
        Bound stage' pool'.shared.view tasks' user id link := by
  induction hleads with
  | refl => exact ⟨stage, tasks, h, fun _ _ _ hbound => hbound⟩
  | tail _ hadvances ih =>
    obtain ⟨stage₁, tasks₁, h₁, hbound₁⟩ := ih
    obtain ⟨stage₂, tasks₂, h₂, hbound₂⟩ := h₁.advance hdifferent hadvances
    exact ⟨stage₂, tasks₂, h₂, fun user id link hbound => hbound₂ user id link (hbound₁ user id link hbound)⟩

end

section

variable {limits : ι → Limits} {actions : ι → Action} {s : Shared}

/-- Clients that begin where the store is consistent. -/
theorem exists_inStep (faulty : Prop) (limits : ι → Limits)
    (hdifferent : Function.Injective fun i => (actions i).user) (hconsistent : s.store.Consistent)
    (hissued : ∀ id, s.store.find? (Issue.key id) ≠ none → id ∈ s.issued) :
    ∃ stage tasks, (start limits actions s).InStep faulty (fun i => (actions i).user)
      (fun i => Mode.Settles ⟨True, faulty⟩ (actions i).Allows) stage tasks := by
  -- the task of a user depends on the action of the client who works for them
  obtain ⟨edits, hedits⟩ : ∃ edits : UserId → Bool, ∀ i, edits (actions i).user = (actions i).isEdit :=
    ⟨Function.extend (fun i => (actions i).user) (fun i => (actions i).isEdit) fun _ => false,
      hdifferent.extend_apply _ _⟩
  obtain ⟨stage, hsound⟩ := exists_sound hconsistent hissued edits
  refine ⟨stage, _, hsound, fun i => ⟨s, ?_⟩, fun user _ => ⟨rfl, rfl, rfl, rfl, rfl⟩⟩
  have hconforms := (actions i).conforms ⟨True, faulty⟩ (limits i) s
  rw [Action.task, ← hedits i] at hconforms
  exact hconforms

/-- A pool in which every client has returned without an interruption. -/
structure Returned (faulty : Prop) (pool : Pool ι) (outcomes : ι → Outcome OperationError Unit) :
    Prop where
  ended : ∀ i, pool.clients i = .ended (outcomes i)
  regular : ∀ i, ¬ Mode.Interrupted ⟨True, faulty⟩ (outcomes i)

theorem InStep.ended {pool : Pool ι} {outcomes : ι → Outcome OperationError Unit}
    {stage : IssueId → Stage UserId} {tasks : UserId → Task}
    (h : pool.InStep faulty users (fun i => Mode.Settles ⟨True, faulty⟩ (actions i).Allows) stage tasks)
    (hreturned : pool.Returned faulty outcomes) :
    (∀ user, (tasks user).Clear) ∧ ∀ i, (actions i).Allows (outcomes i) (tasks (users i)) := by
  have hend : ∀ i, (tasks (users i)).Clear ∧ (actions i).Allows (outcomes i) (tasks (users i)) := by
    intro i
    obtain ⟨s₁, hconforms⟩ := h.follows i
    rw [hreturned.ended i] at hconforms
    exact hconforms.resolve_left (hreturned.regular i)
  refine ⟨fun user => ?_, fun i => (hend i).2⟩
  by_cases huser : ∃ i, users i = user
  · obtain ⟨i, rfl⟩ := huser
    exact (hend i).1
  · exact h.idle user fun i hi => huser ⟨i, hi⟩

/-- Operations of different users, one each, leave a consistent store consistent; a todo that one of them has
finished is gone on both sides, if the other holder has not reassigned their half. -/
theorem consistent_of_returned [DecidableEq ι] (limits : ι → Limits)
    (hdifferent : Function.Injective fun i => (actions i).user) (hconsistent : s.store.Consistent)
    (hissued : ∀ id, s.store.find? (Issue.key id) ≠ none → id ∈ s.issued)
    {pool : Pool ι} (hleads : (start limits actions s).Leads faulty pool)
    {outcomes : ι → Outcome OperationError Unit} (hreturned : pool.Returned faulty outcomes) :
    pool.shared.store.Consistent ∧
      ∀ i j kind entry link, s.view.holds (actions j).user kind entry → entry.link = some link →
        (actions i).Finishes link.issue → outcomes i = .ok () → (actions j).isReassign = false →
        ¬ pool.shared.view.Listed link.issue ∧ ¬ pool.shared.view.Listed entry.id := by
  obtain ⟨stage, tasks, hstart⟩ := exists_inStep faulty limits hdifferent hconsistent hissued
  obtain ⟨stage', tasks', hin, hbound⟩ := hstart.leads hdifferent hleads
  obtain ⟨hclear, hallows⟩ := hin.ended hreturned
  refine ⟨hin.sound.consistent hclear, fun i j kind entry link he hlink hfinishes hok hkeeps => ?_⟩
  have hgone := (hin.sound.place.ordered.releases (actions i).user).gone link.issue
    ((hallows i).gone link.issue hfinishes hok)
  have hb := hbound _ _ _ (hstart.sound.place.bound he hlink)
  exact ⟨hgone.2, hin.sound.not_listed hclear hb ((hallows j).unspent hkeeps) hgone.2⟩

end

end Pool

/-! ## The two holders of a todo -/

inductive Holder where
  | sender
  | receiver
  deriving DecidableEq

/-- What a user can do about a todo that they have sent. -/
inductive Action.OfSender (user : UserId) (id : IssueId) : Action → Prop where
  | complete : OfSender user id (.complete user id)
  | remove : OfSender user id (.remove user id)
  | bump : OfSender user id (.bump user id)
  | edit (change : Edit) : OfSender user id (.edit user id change)
  | reassign (newOwner : UserId) : OfSender user id (.reassign user id newOwner)

/-- What a user can do about a todo that they have received. -/
inductive Action.OfReceiver (user : UserId) (id : IssueId) : Action → Prop where
  | complete : OfReceiver user id (.complete user id)
  | remove : OfReceiver user id (.remove user id)
  | accept : OfReceiver user id (.accept user id)
  | edit (change : Edit) : OfReceiver user id (.edit user id change)
  | reassign (newOwner : UserId) : OfReceiver user id (.reassign user id newOwner)
  | pop : OfReceiver user id (.pop user)

theorem Action.OfSender.user_eq {user : UserId} {id : IssueId} {action : Action}
    (h : action.OfSender user id) : action.user = user := by
  cases h <;> rfl

theorem Action.OfReceiver.user_eq {user : UserId} {id : IssueId} {action : Action}
    (h : action.OfReceiver user id) : action.user = user := by
  cases h <;> rfl

/-- The holders of a living pair race. When both have returned and neither has used up its attempts, the store
is consistent again; if one has finished its half and the other has not reassigned, both halves are gone. -/
theorem Pool.consistent_of_race {s : Shared} (hconsistent : s.store.Consistent)
    (hissued : ∀ id, s.store.find? (Issue.key id) ≠ none → id ∈ s.issued)
    {sender receiver : UserId} {sent received : IssueId}
    (hpair : ∃ entry ∈ (s.store.lists sender).list .out,
      entry.id = sent ∧ entry.link = some ⟨receiver, received⟩)
    (limits : Holder → Limits) (actions : Holder → Action)
    (hsender : (actions .sender).OfSender sender sent)
    (hreceiver : (actions .receiver).OfReceiver receiver received)
    {pool : Pool Holder} (hleads : (Pool.start limits actions s).Leads False pool)
    {outcomes : Holder → Outcome OperationError Unit}
    (hended : ∀ holder, pool.clients holder = .ended (outcomes holder))
    (hretries : ∀ holder key attempts,
      outcomes holder ≠ .error (.storage (.retriesExhausted key attempts))) :
    pool.shared.store.Consistent ∧
      (((actions .sender).Finishes sent ∧ outcomes .sender = .ok () ∧
          (actions .receiver).isReassign = false) ∨
        ((actions .receiver).Finishes received ∧ outcomes .receiver = .ok () ∧
          (actions .sender).isReassign = false) →
        ∀ id, id = sent ∨ id = received → ¬ pool.shared.view.Listed id ∧
          pool.shared.store.find? (Issue.key id) = none) := by
  obtain ⟨entry, he, rfl, hlink⟩ := hpair
  obtain ⟨kind', entry', he', rfl, hlink', -⟩ := hconsistent.paired sender .out entry _ he hlink
  have hother : receiver ≠ sender := hconsistent.other sender .out entry _ he hlink
  have hdifferent : Function.Injective fun holder => (actions holder).user := by
    intro holder holder' hsame
    cases holder <;> cases holder' <;>
      simp only [hsender.user_eq, hreceiver.user_eq] at hsame <;>
      first | rfl | exact absurd hsame hother | exact absurd hsame.symm hother
  have hreturned : pool.Returned False outcomes := by
    refine ⟨hended, fun holder hinterrupted => ?_⟩
    match hout : outcomes holder with
    | .ok () => exact (hout ▸ hinterrupted).elim
    | .unfinished => exact (hout ▸ hinterrupted).elim
    | .error (.storage (.retriesExhausted key attempts)) => exact hretries holder key attempts hout
    | .error (.storage (.store failure)) => exact (hout ▸ hinterrupted).elim
    | .error (.storage (.directory failure)) => exact (hout ▸ hinterrupted).elim
    | .error (.storage (.corrupt key problem)) => exact (hout ▸ hinterrupted).elim
    | .error (.rejected _) => exact (hout ▸ hinterrupted).elim
    | .error (.absent _) => exact (hout ▸ hinterrupted).elim
  obtain ⟨hafter, hfinished⟩ :=
    consistent_of_returned limits hdifferent hconsistent hissued hleads hreturned
  refine ⟨hafter, fun hone => ?_⟩
  have hgone : ¬ pool.shared.view.Listed entry.id ∧ ¬ pool.shared.view.Listed entry'.id := by
    rcases hone with ⟨hfinishes, hok, hkeeps⟩ | ⟨hfinishes, hok, hkeeps⟩
    · exact hfinished .sender .receiver kind' entry' _ (hreceiver.user_eq ▸ he') hlink' hfinishes hok hkeeps
    · exact (hfinished .receiver .sender .out entry _ (hsender.user_eq ▸ he) hlink hfinishes hok hkeeps).symm
  have hrecord : ∀ id, ¬ pool.shared.view.Listed id → pool.shared.store.find? (Issue.key id) = none :=
    fun id hid => Decidable.byContradiction fun hraw => hid ((hafter.recorded id).1 hraw)
  rintro id (rfl | rfl)
  · exact ⟨hgone.1, hrecord _ hgone.1⟩
  · exact ⟨hgone.2, hrecord _ hgone.2⟩

/-- An issue that is not listed twice is not listed without its entry. -/
theorem not_listed_revise {s : Shared} (h : s.store.Unique) {user : UserId} {kind : ListKind} {entry : Entry}
    (held : s.view.holds user kind entry) : ¬ (s.view.revise user (some entry) none).Listed entry.id := by
  rintro ⟨holder, kind', other, ⟨hother, hkept⟩ | ⟨-, hcome⟩, hid⟩
  · obtain rfl : holder = user := h.apart _ _ _ _ _ _ hother held hid
    obtain ⟨-, rfl⟩ := (h.orderly.distinct holder).eq hother held hid
    exact hkept ⟨rfl, rfl⟩
  · cases hcome

/-- The sender completes the todo, and the receiver accepts it. -/
def completeAndAccept (sender receiver : UserId) (sent received : IssueId) : Holder → Action
  | .sender => .complete sender sent
  | .receiver => .accept receiver received

/-- The receiver's lists are written by the acceptance between the two calls by which the completion reads and
writes them. -/
theorem exists_accepted_and_completed {s : Shared} (h : s.store.Consistent) {sender receiver : UserId}
    {sent received : IssueId} (hsent : s.view.Linked sender .out sent ⟨receiver, received⟩)
    (hreceived : s.view.Linked receiver .inbox received ⟨sender, sent⟩) {limits : Limits}
    (hlimit : 2 ≤ limits.updates) :
    ∃ accepted pool,
      (Pool.start (fun _ => limits) (completeAndAccept sender receiver sent received) s).Leads False accepted ∧
      accepted.Leads False pool ∧ accepted.clients .receiver = pure () ∧ ¬ accepted.shared.view.Listed sent ∧
      accepted.shared.view.Linked receiver .my received ⟨sender, sent⟩ ∧
      ∀ holder, pool.clients holder = pure () := by
  obtain ⟨entry, held, rfl, hlink⟩ := hsent
  obtain ⟨half, hhalf, rfl, hback⟩ := hreceived
  have horderly := h.unique.orderly
  have hother : receiver ≠ sender := h.other sender .out entry _ held hlink
  obtain ⟨issue, hissue⟩ := Option.ne_none_iff_exists'.1
    (record_ne_none h ⟨sender, .out, entry, held, rfl⟩)
  obtain ⟨issue', hissue'⟩ := Option.ne_none_iff_exists'.1
    (record_ne_none h ⟨receiver, .inbox, half, hhalf, rfl⟩)
  -- the completion, as far as the receiver's lists
  obtain ⟨left, s₁, hread, horderly₁, hview₁, hwrite⟩ := @reaches_complete_overtaken False s sender limits
    horderly hlimit _ _ held _ hissue _ hother _ hlink hback _ hhalf
  have hhalf₁ : s₁.view.holds receiver .inbox half := by
    rw [hview₁]
    exact .inl ⟨hhalf, fun hgone => hother hgone.1⟩
  have hrecord₁ : s₁.store.record half.id = some issue' :=
    (congrArg (fun view => view.record half.id) hview₁).trans hissue'
  -- all of the acceptance
  obtain ⟨s₂, report, haccept, horderly₂, hview₂⟩ :=
    @reaches_accept False s₁ receiver limits horderly₁ _ hhalf₁ _ hrecord₁
  have hhalf₂ : s₂.view.holds receiver .my half := by
    rw [hview₂]
    exact .inr ⟨rfl, rfl⟩
  have hwritten : s₂.store.lists receiver ≠ s₁.store.lists receiver := by
    intro hsame
    have hinbox : half ∈ (s₂.store.lists receiver).list .inbox := hsame ▸ hhalf₁
    exact absurd ((horderly₂.distinct receiver).eq hinbox hhalf₂ rfl).1 (by decide)
  -- the rest of the completion
  obtain ⟨s₃, hcompleted⟩ := hwrite s₂ .my horderly₂ hhalf₂ hwritten
  let begun := Pool.start (fun _ => limits) (completeAndAccept sender receiver entry.id half.id) s
  let reading : Pool Holder := ⟨Function.update begun.clients .sender (left >>= fun _ => pure ()), s₁⟩
  let accepted : Pool Holder := ⟨Function.update reading.clients .receiver (pure ()), s₂⟩
  have hfirst : Reaches False (begun.clients .sender) begun.shared (left >>= fun _ => pure ()) s₁ := hread.carried
  have hsecond : Reaches False (reading.clients .receiver) reading.shared (pure ()) s₂ := haccept.bind (.refl _ _)
  have hthird : Reaches False (accepted.clients .sender) accepted.shared (pure ()) s₃ := hcompleted.bind (.refl _ _)
  refine ⟨accepted, _, (Pool.leads_of_reaches hfirst).trans (Pool.leads_of_reaches hsecond),
    Pool.leads_of_reaches hthird, rfl, ?_, ⟨half, hhalf₂, rfl, hback⟩, fun holder => ?_⟩
  · have hgone : ¬ s₁.view.Listed entry.id := by
      rw [hview₁]
      exact not_listed_revise h.unique held
    have hne : half.id ≠ entry.id := fun hsame => hother (h.unique.apart _ _ _ _ _ _ hhalf held hsame)
    intro hlisted
    change s₂.view.Listed entry.id at hlisted
    rw [hview₂] at hlisted
    rcases View.listed_revise hlisted with hlisted | ⟨_, _, hcome, hid⟩
    · exact hgone hlisted
    · cases hcome
      exact hne hid
  · cases holder <;> rfl

/-- The receiver accepts the todo while the sender completes it: the completion has read the receiver's lists
before, so that its write is refused, and what it finds then is an accepted todo. -/
theorem completed_on_both_sides :
    ∃ s accepted pool, s.view.Linked ⟨"amy"⟩ .out ⟨1⟩ ⟨⟨"ben"⟩, ⟨2⟩⟩ ∧
      (Pool.start (fun _ => ⟨5, 5⟩) (completeAndAccept ⟨"amy"⟩ ⟨"ben"⟩ ⟨1⟩ ⟨2⟩) s).Leads False accepted ∧
      accepted.Leads False pool ∧ accepted.clients .receiver = pure () ∧
      ¬ accepted.shared.view.Listed ⟨1⟩ ∧ accepted.shared.view.Linked ⟨"ben"⟩ .my ⟨2⟩ ⟨⟨"amy"⟩, ⟨1⟩⟩ ∧
      (∀ holder, pool.clients holder = pure ()) ∧ pool.shared.store.Consistent ∧
      ∀ id, id = ⟨1⟩ ∨ id = ⟨2⟩ → ¬ pool.shared.view.Listed id ∧
        pool.shared.store.find? (Issue.key id) = none := by
  obtain ⟨s, hperformed, hsent, hreceived⟩ := @exists_sent ⟨5, 5⟩ ⟨"amy"⟩ ⟨"ben"⟩ (by decide)
    ⟨"milk", none, none⟩ ⟨1⟩ ⟨2⟩ (by decide)
  have hsettled := hperformed.settled
  obtain ⟨accepted, pool, hearly, hlate, hreturned, hgone, haccepted, hended⟩ :=
    @exists_accepted_and_completed s hsettled.consistent _ _ _ _ hsent hreceived ⟨5, 5⟩ (by decide)
  obtain ⟨hconsistent, hfinished⟩ := Pool.consistent_of_race hsettled.consistent hsettled.issued hsent
    (fun _ => ⟨5, 5⟩) (completeAndAccept ⟨"amy"⟩ ⟨"ben"⟩ ⟨1⟩ ⟨2⟩) .complete .accept (hearly.trans hlate) hended
    fun _ _ _ => nofun
  exact ⟨s, accepted, pool, hsent, hearly, hlate, hreturned, hgone, haccepted, hended, hconsistent,
    hfinished (.inl ⟨rfl, rfl, rfl⟩)⟩

end SharedTodo.Exchange
