import SharedTodo.Proofs.Exchange.Arrangement

/-!
# Lists and their history

Operations are performed one after the other, from an empty store on, and a chronicle keeps them with the
stores between them. A list of own or of sent todos is in the order in which its entries entered it, and a
reassigned todo has entered anew. A list of received todos begins with those that have been bumped, the last
one bumped first, and the others follow in the order of their arrival (`InOrder`). So the first of the own
todos, which is the one to be removed, is the one that has been there longest (`OldestFirst`).

A step changes the moments of the entries that it moves, and of no others; each moved entry gets the moment of
the step, later than all before, and stands where the latest one belongs.
-/

namespace SharedTodo

namespace Exchange

open Program

/-! ## Chronicles -/

/-- An operation that has been performed, its outcome, and the stores before and after it. -/
structure Step where
  action : Action
  outcome : Outcome OperationError Unit
  before : Store
  after : Store

def listed (store : Store) (user : UserId) (kind : ListKind) (id : IssueId) : Bool :=
  ((store.lists user).list kind).any (UserLists.names id)

namespace Step

/-- The user has reassigned the issue. -/
def reassigns (user : UserId) (id : IssueId) (step : Step) : Bool :=
  match step.action, step.outcome with
  | .reassign holder own _, .ok () => holder = user && own = id
  | _, _ => false

/-- The issue enters a list: it comes to it, or has been reassigned and comes to it again. -/
def enters (user : UserId) (kind : ListKind) (id : IssueId) (step : Step) : Bool :=
  listed step.after user kind id && (!listed step.before user kind id || step.reassigns user id)

/-- The sender of the user's issue has bumped it. -/
def bumps (user : UserId) (id : IssueId) (step : Step) : Bool :=
  match step.action, step.outcome with
  | .bump sender sent, .ok () =>
    ((step.before.lists sender).list .out).any fun entry => entry.id = sent && entry.link = some ⟨user, id⟩
  | _, _ => false

end Step

/-- The number of the last step of some kind in a chronicle, or zero if there is none. The latest step comes
first, and the earliest one has number one. -/
def lastAt (happens : Step → Bool) : List Step → Nat
  | [] => 0
  | step :: earlier => if happens step then earlier.length + 1 else lastAt happens earlier

/-- When the issue last entered the user's list. -/
def enteredAt (chronicle : List Step) (user : UserId) (kind : ListKind) (id : IssueId) : Nat :=
  lastAt (Step.enters user kind id) chronicle

/-- When the user's issue was last bumped; zero, if it has never been. -/
def bumpedAt (chronicle : List Step) (user : UserId) (id : IssueId) : Nat :=
  lastAt (Step.bumps user id) chronicle

/-- Received todos: those that have been bumped, the last one first, and the others as they arrived. -/
structure Queued (chronicle : List Step) (user : UserId) (bumped waiting : List Entry) : Prop where
  raised : ∀ entry ∈ bumped, 0 < bumpedAt chronicle user entry.id
  latest : bumped.Pairwise fun e e' => bumpedAt chronicle user e'.id < bumpedAt chronicle user e.id
  never : ∀ entry ∈ waiting, bumpedAt chronicle user entry.id = 0
  arrival : waiting.Pairwise fun e e' =>
    enteredAt chronicle user .inbox e.id < enteredAt chronicle user .inbox e'.id

structure InOrder (chronicle : List Step) (store : Store) : Prop where
  /-- Whatever is listed has entered its list. -/
  entered : ∀ user kind, ∀ entry ∈ (store.lists user).list kind, 0 < enteredAt chronicle user kind entry.id
  others : ∀ user kind, kind ≠ .inbox → ((store.lists user).list kind).Pairwise fun e e' =>
    enteredAt chronicle user kind e.id < enteredAt chronicle user kind e'.id
  received : ∀ user, ∃ bumped waiting, (store.lists user).list .inbox = bumped ++ waiting ∧
    Queued chronicle user bumped waiting

/-! ## One more step -/

section

variable {happens : Step → Bool} {step : Step} {chronicle : List Step} {user : UserId} {kind : ListKind}
  {id : IssueId}

theorem lastAt_le (happens : Step → Bool) (chronicle : List Step) :
    lastAt happens chronicle ≤ chronicle.length := by
  induction chronicle with
  | nil => exact Nat.le_refl _
  | cons step earlier ih =>
    rw [lastAt, List.length_cons]
    split <;> omega

theorem lastAt_cons_of_pos (h : happens step) : lastAt happens (step :: chronicle) = chronicle.length + 1 :=
  if_pos h

theorem lastAt_cons_of_neg (h : ¬ happens step) : lastAt happens (step :: chronicle) = lastAt happens chronicle :=
  if_neg h

theorem listed_eq_true {store : Store} :
    listed store user kind id = true ↔ ∃ entry ∈ (store.lists user).list kind, entry.id = id := by
  simp [listed, UserLists.names]

theorem Step.reassigns_iff :
    step.reassigns user id ↔ step.outcome = .ok () ∧ ∃ newOwner, step.action = .reassign user id newOwner := by
  constructor
  · intro h
    rw [Step.reassigns] at h
    split at h
    · next holder own newOwner haction hok =>
      simp only [Bool.and_eq_true, decide_eq_true_iff] at h
      obtain ⟨rfl, rfl⟩ := h
      exact ⟨hok, newOwner, haction⟩
    · cases h
  · rintro ⟨hok, newOwner, haction⟩
    simp [Step.reassigns, haction, hok]

theorem Step.bumps_iff :
    step.bumps user id ↔ step.outcome = .ok () ∧ ∃ sender sent, step.action = .bump sender sent ∧
      ∃ entry ∈ (step.before.lists sender).list .out, entry.id = sent ∧ entry.link = some ⟨user, id⟩ := by
  constructor
  · intro h
    rw [Step.bumps] at h
    split at h
    · next sender sent haction hok =>
      obtain ⟨entry, held, hentry⟩ := List.any_eq_true.1 h
      simp only [Bool.and_eq_true, decide_eq_true_iff] at hentry
      exact ⟨hok, sender, sent, haction, entry, held, hentry⟩
    · cases h
  · rintro ⟨hok, sender, sent, haction, entry, held, hid, hlink⟩
    simp only [Step.bumps, haction, hok]
    exact List.any_eq_true.2 ⟨entry, held, by simp [hid, hlink]⟩

/-- Whatever is in a list in which it has not been before has entered it. -/
theorem Step.enters_of_new {entry : Entry} (hafter : entry ∈ (step.after.lists user).list kind)
    (hnew : ∀ other ∈ (step.before.lists user).list kind, other.id ≠ entry.id) :
    step.enters user kind entry.id := by
  have hlisted : listed step.after user kind entry.id = true := listed_eq_true.2 ⟨entry, hafter, rfl⟩
  have hbefore : listed step.before user kind entry.id ≠ true := by
    rw [Ne, listed_eq_true]
    rintro ⟨other, hother, hid⟩
    exact hnew other hother hid
  simp [Step.enters, hlisted, hbefore]

theorem Step.enters_of_reassigns {entry : Entry} (hafter : entry ∈ (step.after.lists user).list kind)
    (h : step.reassigns user entry.id) : step.enters user kind entry.id := by
  have hlisted : listed step.after user kind entry.id = true := listed_eq_true.2 ⟨entry, hafter, rfl⟩
  simp [Step.enters, hlisted, h]

theorem enteredAt_step (h : step.enters user kind id) :
    enteredAt (step :: chronicle) user kind id = chronicle.length + 1 :=
  lastAt_cons_of_pos h

theorem enteredAt_earlier (h : ¬ step.enters user kind id) :
    enteredAt (step :: chronicle) user kind id = enteredAt chronicle user kind id :=
  lastAt_cons_of_neg h

/-- What stays in its list and is not reassigned keeps its moment. -/
theorem enteredAt_stays {entry : Entry} (hentry : entry ∈ (step.before.lists user).list kind)
    (hstays : ¬ step.reassigns user entry.id) :
    enteredAt (step :: chronicle) user kind entry.id = enteredAt chronicle user kind entry.id := by
  refine enteredAt_earlier fun henters => hstays ?_
  have hlisted : listed step.before user kind entry.id = true := listed_eq_true.2 ⟨entry, hentry, rfl⟩
  rw [Step.enters, hlisted, Bool.not_true, Bool.false_or, Bool.and_eq_true] at henters
  exact henters.2

theorem enteredAt_lt (user : UserId) (kind : ListKind) (id : IssueId) :
    enteredAt chronicle user kind id < chronicle.length + 1 :=
  Nat.lt_succ_of_le (lastAt_le _ _)

/-- Entries that stay keep their moments, and one that comes has the latest. -/
theorem pairwise_of_settles {gone : IssueId → Prop} {come : Entry → Prop} {before after : List Entry}
    {moment moment' : Entry → Nat} (now : Nat) (hsettles : UserLists.Settles gone come before after)
    (hbefore : before.Pairwise fun e e' => moment e < moment e')
    (hkept : ∀ entry ∈ before, ¬ gone entry.id → moment' entry = moment entry ∧ moment entry < now)
    (hnew : ∀ entry ∈ after, come entry → moment' entry = now) :
    after.Pairwise fun e e' => moment' e < moment' e' := by
  obtain ⟨kept, new, hsublist, rfl, hstays, hcome⟩ := hsettles
  have hmoment (entry : Entry) (h : entry ∈ kept) : moment' entry = moment entry ∧ moment entry < now :=
    hkept entry (hsublist.subset h) (hstays entry h)
  refine List.pairwise_append.2 ⟨?_, ?_, fun e he e' he' => ?_⟩
  · refine (hbefore.sublist hsublist).imp_of_mem fun he he' hlt => ?_
    rwa [(hmoment _ he).1, (hmoment _ he').1]
  · cases new with
    | none => exact List.Pairwise.nil
    | some entry => exact List.pairwise_singleton _ _
  · obtain ⟨hsame, hlt⟩ := hmoment e he
    rw [hsame, hnew e' (List.mem_append_right _ he') (hcome e' (Option.mem_toList.1 he'))]
    exact hlt

/-! ### Received todos -/

namespace Queued

variable {chronicle' : List Step} {bumped waiting : List Entry} {entry : Entry}

/-- Entries that are left, with the moments they had. -/
theorem left (h : Queued chronicle user bumped waiting) {bumped' waiting' : List Entry}
    (hbumped : bumped'.Sublist bumped) (hwaiting : waiting'.Sublist waiting)
    (hentered : ∀ entry ∈ waiting',
      enteredAt chronicle' user .inbox entry.id = enteredAt chronicle user .inbox entry.id)
    (hraised : ∀ entry ∈ bumped' ++ waiting',
      bumpedAt chronicle' user entry.id = bumpedAt chronicle user entry.id) :
    Queued chronicle' user bumped' waiting' where
  raised entry hentry := by
    rw [hraised entry (List.mem_append_left _ hentry)]
    exact h.raised entry (hbumped.subset hentry)
  latest := by
    refine (h.latest.sublist hbumped).imp_of_mem fun he he' hlt => ?_
    rwa [hraised _ (List.mem_append_left _ he), hraised _ (List.mem_append_left _ he')]
  never entry hentry := by
    rw [hraised entry (List.mem_append_right _ hentry)]
    exact h.never entry (hwaiting.subset hentry)
  arrival := by
    refine (h.arrival.sublist hwaiting).imp_of_mem fun he he' hlt => ?_
    rwa [hentered _ he, hentered _ he']

theorem arrives (h : Queued chronicle user bumped waiting) (hnever : bumpedAt chronicle user entry.id = 0)
    (hlast : ∀ other ∈ waiting,
      enteredAt chronicle user .inbox other.id < enteredAt chronicle user .inbox entry.id) :
    Queued chronicle user bumped (waiting ++ [entry]) where
  raised := h.raised
  latest := h.latest
  never other hother := by
    obtain hother | hother := List.mem_append.1 hother
    · exact h.never other hother
    · rw [List.mem_singleton.1 hother]
      exact hnever
  arrival := by
    refine List.pairwise_append.2 ⟨h.arrival, List.pairwise_singleton _ _, fun other hother entry' hentry' => ?_⟩
    rw [List.mem_singleton.1 hentry']
    exact hlast other hother

theorem raise (h : Queued chronicle user bumped waiting) (hraised : 0 < bumpedAt chronicle user entry.id)
    (hlatest : ∀ other ∈ bumped, bumpedAt chronicle user other.id < bumpedAt chronicle user entry.id) :
    Queued chronicle user (entry :: bumped) waiting where
  raised other hother := by
    obtain rfl | hother := List.mem_cons.1 hother
    · exact hraised
    · exact h.raised other hother
  latest := List.pairwise_cons.2 ⟨hlatest, h.latest⟩
  never := h.never
  arrival := h.arrival

end Queued

theorem bumpedAt_lt (user : UserId) (id : IssueId) : bumpedAt chronicle user id < chronicle.length + 1 :=
  Nat.lt_succ_of_le (lastAt_le _ _)

/-! ### Settled lists -/

/-- A step that settles lists keeps them in order: what it leaves keeps its moments, and what it lets come
enters its list, among the received todos as one that has never been bumped. -/
theorem InOrder.settled (h : InOrder chronicle step.before) {gone : UserId → IssueId → Prop}
    {come : UserId → ListKind → Entry → Prop} (hsettles : step.before.Settles gone come step.after)
    (hquiet : ∀ user id, ¬ step.bumps user id)
    (hleaves : ∀ user id, step.reassigns user id → gone user id)
    (hcome : ∀ user kind, ∀ entry ∈ (step.after.lists user).list kind, come user kind entry →
      step.enters user kind entry.id)
    (hnew : ∀ user entry, come user .inbox entry → bumpedAt chronicle user entry.id = 0) :
    InOrder (step :: chronicle) step.after := by
  have hstays (user : UserId) (kind : ListKind) (entry : Entry)
      (hentry : entry ∈ (step.before.lists user).list kind) (hgone : ¬ gone user entry.id) :
      enteredAt (step :: chronicle) user kind entry.id = enteredAt chronicle user kind entry.id :=
    enteredAt_stays hentry fun hreassigns => hgone (hleaves user entry.id hreassigns)
  have hraised (user : UserId) (id : IssueId) :
      bumpedAt (step :: chronicle) user id = bumpedAt chronicle user id :=
    lastAt_cons_of_neg (hquiet user id)
  refine ⟨fun user kind entry hentry => ?_, fun user kind hkind => ?_, fun user => ?_⟩
  · obtain ⟨kept, new, hkept, heq, hleft, hnew⟩ := hsettles user kind
    have hentry' := hentry
    rw [heq, List.mem_append] at hentry'
    obtain hentry' | hentry' := hentry'
    · rw [hstays user kind entry (hkept.subset hentry') (hleft entry hentry')]
      exact h.entered user kind entry (hkept.subset hentry')
    · rw [enteredAt_step (hcome user kind entry hentry (hnew entry (Option.mem_toList.1 hentry')))]
      exact Nat.succ_pos _
  · refine pairwise_of_settles (chronicle.length + 1) (hsettles user kind) (h.others user kind hkind) ?_ ?_
    · exact fun entry hentry hgone => ⟨hstays user kind entry hentry hgone, enteredAt_lt user kind entry.id⟩
    · exact fun entry hentry hcomes => enteredAt_step (hcome user kind entry hentry hcomes)
  · obtain ⟨bumped, waiting, hbefore, hqueued⟩ := h.received user
    obtain ⟨kept, new, hkept, heq, hleft, hcomes⟩ := hsettles user .inbox
    rw [hbefore] at hkept
    obtain ⟨bumped', waiting', rfl, hbumped, hwaiting⟩ := List.sublist_append_iff.1 hkept
    have hmem (entry : Entry) (hentry : entry ∈ waiting') : entry ∈ (step.before.lists user).list .inbox := by
      rw [hbefore]
      exact List.mem_append_right _ (hwaiting.subset hentry)
    have hmoment (entry : Entry) (hentry : entry ∈ waiting') :
        enteredAt (step :: chronicle) user .inbox entry.id = enteredAt chronicle user .inbox entry.id :=
      hstays user .inbox entry (hmem entry hentry) (hleft entry (List.mem_append_right _ hentry))
    have hqueued' : Queued (step :: chronicle) user bumped' waiting' :=
      hqueued.left hbumped hwaiting hmoment fun entry _ => hraised user entry.id
    cases new with
    | none => exact ⟨bumped', waiting', heq.trans (List.append_nil _), hqueued'⟩
    | some entry =>
      have hentry : entry ∈ (step.after.lists user).list .inbox := by
        rw [heq]
        exact List.mem_append_right _ List.mem_cons_self
      refine ⟨bumped', waiting' ++ [entry], by rw [heq, List.append_assoc]; rfl, hqueued'.arrives ?_ ?_⟩
      · rw [hraised]
        exact hnew user entry (hcomes entry rfl)
      · intro other hother
        rw [hmoment other hother, enteredAt_step (hcome user .inbox entry hentry (hcomes entry rfl))]
        exact enteredAt_lt user .inbox other.id

/-! ### Bumped entries -/

section

variable {sender : UserId} {sent : IssueId} {link : Link}
  (haction : step.action = .bump sender sent) (hraises : Raises step.before sender sent link step.after)

include haction hraises

/-- It is the raised entry, and no other, that is bumped. -/
theorem Step.bumps_iff_of_raises (hunique : step.before.Unique) (hok : step.outcome = .ok ()) :
    step.bumps user id ↔ user = link.user ∧ id = link.issue := by
  obtain ⟨⟨own, hown, hsent, hlink⟩, -⟩ := hraises
  rw [Step.bumps_iff]
  constructor
  · rintro ⟨-, sender', sent', haction', other, hother, hsame, hlink'⟩
    cases haction.symm.trans haction'
    obtain ⟨-, rfl⟩ := (hunique.orderly.distinct sender).eq hother hown (hsame.trans hsent.symm)
    cases hlink.symm.trans hlink'
    exact ⟨rfl, rfl⟩
  · rintro ⟨rfl, rfl⟩
    exact ⟨hok, sender, sent, haction, own, hown, hsent, hlink⟩

omit hraises in
/-- Nothing enters a list by a bump. -/
theorem enteredAt_bump {entry : Entry} (held : entry ∈ (step.before.lists user).list kind) :
    enteredAt (step :: chronicle) user kind entry.id = enteredAt chronicle user kind entry.id := by
  refine enteredAt_stays held ?_
  simp [Step.reassigns, haction]

/-- The list of the raised entry, which comes before those that were bumped earlier. -/
theorem Queued.bump (hunique : step.before.Unique) (hok : step.outcome = .ok ()) {bumped waiting : List Entry}
    (hbefore : (step.before.lists link.user).list .inbox = bumped ++ waiting)
    (h : Queued chronicle link.user bumped waiting) :
    ∃ bumped' waiting', (step.after.lists link.user).list .inbox = bumped' ++ waiting' ∧
      Queued (step :: chronicle) link.user bumped' waiting' := by
  have hbumps (id : IssueId) : step.bumps link.user id ↔ link.user = link.user ∧ id = link.issue :=
    Step.bumps_iff_of_raises haction hraises hunique hok
  obtain ⟨entry, rest, hafter, hid, -, hrest, hothers⟩ := hraises.inbox (hunique.orderly.distinct link.user)
  rw [hbefore] at hrest
  obtain ⟨bumped', waiting', rfl, hbumped, hwaiting⟩ := List.sublist_append_iff.1 hrest
  have hnow : bumpedAt (step :: chronicle) link.user entry.id = chronicle.length + 1 :=
    lastAt_cons_of_pos ((hbumps _).2 ⟨rfl, hid⟩)
  have hraised (other : Entry) (hother : other ∈ bumped' ++ waiting') :
      bumpedAt (step :: chronicle) link.user other.id = bumpedAt chronicle link.user other.id :=
    lastAt_cons_of_neg fun hagain => hothers other hother ((hbumps _).1 hagain).2
  have hentered (other : Entry) (hother : other ∈ waiting') :
      enteredAt (step :: chronicle) link.user .inbox other.id =
        enteredAt chronicle link.user .inbox other.id := by
    refine enteredAt_bump haction ?_
    rw [hbefore]
    exact List.mem_append_right _ (hwaiting.subset hother)
  refine ⟨entry :: bumped', waiting', hafter,
    (h.left hbumped hwaiting hentered hraised).raise ?_ fun other hother => ?_⟩
  · rw [hnow]
    exact Nat.succ_pos _
  · rw [hnow, hraised other (List.mem_append_left _ hother)]
    exact bumpedAt_lt _ _

theorem InOrder.raised (h : InOrder chronicle step.before) (hunique : step.before.Unique)
    (hok : step.outcome = .ok ()) : InOrder (step :: chronicle) step.after := by
  refine ⟨fun user kind other hother => ?_, fun user kind hkind => ?_, fun user => ?_⟩
  · have hbefore : other ∈ (step.before.lists user).list kind := by
      by_cases hhere : user = link.user ∧ kind = .inbox
      · obtain ⟨rfl, rfl⟩ := hhere
        obtain ⟨entry, rest, hafter, -, held, hrest, -⟩ := hraises.inbox (hunique.orderly.distinct link.user)
        rw [hafter] at hother
        obtain rfl | hother := List.mem_cons.1 hother
        · exact held
        · exact hrest.subset hother
      · rwa [hraises.others hhere] at hother
    rw [enteredAt_bump haction hbefore]
    exact h.entered user kind other hbefore
  · rw [hraises.others fun hhere => hkind hhere.2]
    refine (h.others user kind hkind).imp_of_mem fun he he' hlt => ?_
    rwa [enteredAt_bump haction he, enteredAt_bump haction he']
  · obtain ⟨bumped, waiting, hbefore, hqueued⟩ := h.received user
    by_cases huser : user = link.user
    · subst huser
      exact Queued.bump haction hraises hunique hok hbefore hqueued
    · refine ⟨bumped, waiting, (hraises.others fun hhere => huser hhere.1).trans hbefore, ?_⟩
      refine hqueued.left (List.Sublist.refl _) (List.Sublist.refl _) (fun other hother => ?_) fun other _ => ?_
      · exact enteredAt_bump haction (hbefore ▸ List.mem_append_right _ hother)
      · exact lastAt_cons_of_neg fun hagain =>
          huser ((Step.bumps_iff_of_raises haction hraises hunique hok).1 hagain).1

end

/-- A step that has failed leaves all moments. -/
theorem InOrder.failed (h : InOrder chronicle step.before) (hfailed : step.outcome ≠ .ok ())
    (hlists : step.after.lists = step.before.lists) : InOrder (step :: chronicle) step.after := by
  refine h.settled ((step.before.settles_self nothing).of_lists hlists) (fun user id hbumps => ?_)
    (fun user id hreassigns => ?_) (fun _ _ _ _ => False.elim) fun _ _ => False.elim
  · exact hfailed (Step.bumps_iff.1 hbumps).1
  · exact hfailed (Step.reassigns_iff.1 hreassigns).1

/-! ## The oldest todo -/

/-- How a removal of the first todo ends: there is none, or it is the one that has been in the list longest. -/
inductive OldestFirst (chronicle : List Step) (store : Store) (user : UserId) :
    Outcome OperationError Popped → Prop where
  | none (empty : (store.lists user).list .my = []) : OldestFirst chronicle store user (.error (.absent .emptyList))
  | oldest {popped : Popped} (listed : ∃ entry ∈ (store.lists user).list .my, entry.id = popped.issue.id)
      (first : ∀ other ∈ (store.lists user).list .my, other.id ≠ popped.issue.id →
        enteredAt chronicle user .my popped.issue.id < enteredAt chronicle user .my other.id) :
      OldestFirst chronicle store user (.ok popped)

theorem ensures_pop_oldest {around : Surroundings} {s : Scene} {limits : Limits} (h : s.store.Consistent)
    (hordered : InOrder chronicle s.store) (hrounds : limits.rounds ≠ 0) (user : UserId) :
    (pop limits user).Ensures around (fun outcome _ => OldestFirst chronicle s.store user outcome) s := by
  have hreadable := h.unique.orderly.readable
  obtain ⟨rounds, hrounds⟩ := Nat.exists_eq_succ_of_ne_zero hrounds
  rw [pop, hrounds]
  refine ensures_bind (ensures_updateLists (fun failure hfailed => ?_) fun revised entry _ htaken => ?_)
  · obtain ⟨rfl, hempty⟩ := takeHead_eq_error (hfailed (hreadable.lists user))
    exact .none hempty
  · obtain ⟨hmy, -⟩ := my_of_takeHead htaken
    have held : entry ∈ (s.store.lists user).list .my := (takeHead_exact htaken).1
    obtain ⟨issue, hrecord, hid⟩ := h.exists_record held
    have holdest (foreignUser : Option UserId) :
        OldestFirst chronicle s.store user (.ok ⟨issue, foreignUser⟩) := by
      refine .oldest ⟨entry, held, hid.symm⟩ fun other hother hne => ?_
      have hpairwise := hordered.others user .my (by decide)
      rw [UserLists.list, hmy] at hpairwise hother
      rw [hid]
      obtain rfl | hother := List.mem_cons.1 hother
      · exact absurd hid.symm hne
      · exact (List.pairwise_cons.1 hpairwise).1 other hother
    refine ensures_bind (ensures_loadIssue ((hreadable.withLists _ _).records entry.id) ?_)
    rw [Scene.withStore_store, Store.record_eq (s.store.find?_withLists_issue user revised entry.id), hrecord]
    refine ensures_bind (ensures_mono (settles_dissolve (hreadable.withLists _ _)
      (Store.settles_self _ nothing) fun _ _ _ _ hnone => hnone) ?_)
    rintro outcome s' ⟨⟨foreignUser, rfl⟩, -⟩
    exact ensures_bind (ensures_deleteIssue (holdest foreignUser))

end

/-! ## Identifiers -/

/-- No identifier has been drawn twice. -/
def Unrepeated (around : Surroundings) (s : Scene) : Prop :=
  ∀ m n, m < n → n < s.drawn → around.supply m ≠ around.supply n

def Drew (around : Surroundings) (s : Scene) (id : IssueId) : Prop :=
  ∃ n < s.drawn, around.supply n = id

section

variable {α : Type} {around : Surroundings} {s s' : Scene} {id : IssueId}

theorem Drew.later (h : Drew around s id) (hle : s.drawn ≤ s'.drawn) : Drew around s' id := by
  obtain ⟨n, hn, hid⟩ := h
  exact ⟨n, Nat.lt_of_lt_of_le hn hle, hid⟩

/-- What is drawn later has not been drawn before. -/
theorem not_drew_of_mem_drawn (hunrepeated : Unrepeated around s') (hid : id ∈ around.drawn s s') :
    ¬ Drew around s id ∧ Drew around s' id := by
  obtain ⟨n, hn, rfl⟩ := List.mem_map.1 hid
  obtain ⟨hfrom, hto⟩ := List.mem_range'_1.1 hn
  refine ⟨?_, n, by omega, rfl⟩
  rintro ⟨m, hm, hsame⟩
  exact hunrepeated m n (by omega) (by omega) hsame

/-- A reply is an answer, as long as identifiers are new. -/
theorem exists_answers {c : Call} {reply : c.Reply} (hreplies : around.Replies c s reply s')
    {issued : List IssueId} (hissued : ∀ id ∈ issued, Drew around s id) :
    s.drawn ≤ s'.drawn ∧ ∃ issued', (∀ id ∈ issued', Drew around s' id) ∧
      ∀ later, s'.drawn ≤ later.drawn → Unrepeated around later →
        Answers False c ⟨s.store, issued⟩ reply ⟨s'.store, issued'⟩ := by
  cases c with
  | store call =>
    obtain ⟨rfl, rfl⟩ := hreplies
    exact ⟨Nat.le_refl _, issued, hissued, fun _ _ _ => .inl ⟨rfl, rfl⟩⟩
  | freshId =>
    obtain ⟨rfl, rfl⟩ := hreplies
    refine ⟨Nat.le_succ _, around.supply s.drawn :: issued, fun id hid => ?_, fun later hlater hunrepeated => ?_⟩
    · obtain rfl | hid := List.mem_cons.1 hid
      · exact ⟨s.drawn, Nat.lt_succ_self _, rfl⟩
      · exact (hissued id hid).later (Nat.le_succ _)
    · refine ⟨fun hid => ?_, rfl⟩
      obtain ⟨n, hn, hsame⟩ := hissued _ hid
      exact hunrepeated n s.drawn hn hlater hsame
  | notify notification =>
    cases hreplies
    rw [Surroundings.notified]
    split <;> exact ⟨Nat.le_refl _, issued, hissued, fun _ _ _ => rfl⟩
  | findById user =>
    obtain ⟨-, rfl⟩ := hreplies
    exact ⟨Nat.le_refl _, issued, hissued, fun _ _ _ => rfl⟩
  | findByUsername username =>
    obtain ⟨-, rfl⟩ := hreplies
    exact ⟨Nat.le_refl _, issued, hissued, fun _ _ _ => rfl⟩
  | _ =>
    cases hreplies
    exact ⟨Nat.le_refl _, issued, hissued, fun _ _ _ => rfl⟩

/-- A program that draws new identifiers only is an operation that nobody else disturbs. -/
theorem ensures_reaches (program : Operation α) (s : Scene) (issued : List IssueId)
    (hissued : ∀ id ∈ issued, Drew around s id) :
    program.Ensures around (fun outcome s' => s.drawn ≤ s'.drawn ∧ (Unrepeated around s' →
      ∃ issued', Reaches False program ⟨s.store, issued⟩ (.ended outcome) ⟨s'.store, issued'⟩ ∧
        ∀ id ∈ issued', Drew around s' id)) s := by
  induction program generalizing s issued with
  | ended outcome => exact ⟨Nat.le_refl _, fun _ => ⟨issued, .refl _ _, hissued⟩⟩
  | call c next ih =>
    intro reply s₁ hreplies
    obtain ⟨hle, issued₁, hissued₁, hanswers⟩ := exists_answers hreplies hissued
    refine ensures_mono (ih reply s₁ issued₁ hissued₁) fun outcome s' hlater => ?_
    obtain ⟨hle', hreaches⟩ := hlater
    refine ⟨Nat.le_trans hle hle', fun hunrepeated => ?_⟩
    obtain ⟨issued', hreaches, hissued'⟩ := hreaches hunrepeated
    exact ⟨issued', .step (hanswers s' hle' hunrepeated) hreaches, hissued'⟩

end

end Exchange

/-! ## Sessions from an empty store on -/

namespace Session

open Exchange Program

/-- The step that an action is in a session. -/
def step (session : Session) (limits : Limits) (action : Action) : Step where
  action
  outcome := (session.run (action.program limits)).1
  before := session.world.store
  after := (session.run (action.program limits)).2.world.store

/-- A session that began with an empty store, and the actions that have been performed in it, one after the
other. Between two of them the world may change, but for the store and the supply of identifiers. -/
inductive Lived : List Step → Session → Prop where
  | start {session : Session} (undisturbed : session.Undisturbed) (empty : session.world.store = .empty) :
    Lived [] session
  | perform {chronicle : List Step} {session : Session} (lived : Lived chronicle session) (limits : Limits)
      (action : Action)
      (unrepeated : Unrepeated session.around (session.run (action.program limits)).2.scene) :
    Lived (session.step limits action :: chronicle) (session.run (action.program limits)).2
  | meanwhile {chronicle : List Step} {session session' : Session} (lived : Lived chronicle session)
      (undisturbed : session'.Undisturbed) (store : session'.world.store = session.world.store)
      (supply : session'.world.supply = session.world.supply) (drawn : session'.world.drawn = session.world.drawn) :
    Lived chronicle session'

/-- What a chronicle and its session have in common after every step. -/
structure Kept (chronicle : List Step) (session : Session) : Prop where
  undisturbed : session.Undisturbed
  settled : ∃ issued, Settled ⟨session.world.store, issued⟩ ∧
    ∀ id ∈ issued, Drew session.around session.scene id
  ordered : InOrder chronicle session.world.store
  bumped : ∀ user id, 0 < bumpedAt chronicle user id → Drew session.around session.scene id

section

variable {chronicle : List Step} {session : Session} {limits : Limits} {action : Action}

theorem Kept.consistent (h : Kept chronicle session) : session.world.store.Consistent := by
  obtain ⟨issued, hsettled, -⟩ := h.settled
  exact hsettled.consistent

theorem Kept.drew (h : Kept chronicle session) {user : UserId} {kind : ListKind} {entry : Entry}
    (held : entry ∈ (session.world.store.lists user).list kind) : Drew session.around session.scene entry.id := by
  obtain ⟨issued, hsettled, hissued⟩ := h.settled
  exact hissued _ (hsettled.issued _ ((hsettled.consistent.recorded _).2 ⟨user, kind, entry, held, rfl⟩))

/-- What is listed before has not been drawn by the action. -/
theorem Kept.new (h : Kept chronicle session) {s : Scene} (hunrepeated : Unrepeated session.around s) {id : IssueId}
    (hid : id ∈ session.around.drawn session.scene s) (user : UserId) (kind : ListKind) (entry : Entry)
    (held : entry ∈ (session.world.store.lists user).list kind) : entry.id ≠ id := by
  rintro rfl
  exact (not_drew_of_mem_drawn hunrepeated hid).1 (h.drew held)

theorem Kept.settled_step (h : Kept chronicle session)
    (hunrepeated : Unrepeated session.around (session.run (action.program limits)).2.scene)
    (hok : (session.run (action.program limits)).1 = .ok ()) (hbump : ∀ user id, action ≠ .bump user id)
    (hsettles : Settling session.around action.leaving (action.coming session.world.store) session.scene
      (session.run (action.program limits)).2.scene) :
    InOrder (session.step limits action :: chronicle) (session.step limits action).after := by
  refine InOrder.settled h.ordered hsettles (fun user id hbumps => ?_)
    (fun user id hreassigns => ?_) (fun user kind entry hentry hcome => ?_) fun user entry hcome => ?_
  · obtain ⟨-, sender, sent, haction, -⟩ := Step.bumps_iff.1 hbumps
    exact hbump sender sent haction
  · obtain ⟨-, newOwner, haction⟩ := Step.reassigns_iff.1 hreassigns
    cases (haction : action = _)
    exact ⟨rfl, rfl⟩
  · obtain hnew | hcome := hcome
    · exact Step.enters_of_new hentry (h.new hunrepeated hnew user kind)
    · cases action with
      | accept holder id =>
        obtain ⟨rfl, held⟩ := hcome
        refine Step.enters_of_new hentry fun other hother hid => ?_
        obtain ⟨hkind, -⟩ := (h.consistent.unique.orderly.distinct user).eq hother held hid
        cases hkind
      | reassign holder id newOwner =>
        obtain ⟨rfl, -, rfl⟩ := hcome
        exact Step.enters_of_reassigns hentry (Step.reassigns_iff.2 ⟨hok, newOwner, rfl⟩)
      | _ => exact hcome.elim
  · obtain hnew | hcome := hcome
    · refine Nat.eq_zero_of_not_pos fun hbumped => ?_
      exact (not_drew_of_mem_drawn hunrepeated hnew).1 (h.bumped user entry.id hbumped)
    · exact absurd hcome Action.not_coming_inbox

/-- Lists stay in order when an action that is done arranges them as wanted, and one that fails leaves them. -/
theorem Kept.ordered_of_arranges (h : Kept chronicle session) {wanted : Scene → Prop}
    (harranges : (action.program limits).Ensures session.around (Arranges wanted session.scene) session.scene)
    (hdone : (session.run (action.program limits)).1 = .ok () →
      wanted (session.run (action.program limits)).2.scene →
        InOrder (session.step limits action :: chronicle) (session.step limits action).after) :
    InOrder (session.step limits action :: chronicle) (session.step limits action).after := by
  have hrun := run_of_ensures _ h.undisturbed harranges
  have hfailed (hnot : (session.step limits action).outcome ≠ .ok ())
      (hlists : (session.step limits action).after.lists = session.world.store.lists) :
      InOrder (session.step limits action :: chronicle) (session.step limits action).after :=
    InOrder.failed h.ordered hnot hlists
  cases houtcome : (session.run (action.program limits)).1 with
  | ok value =>
    rw [houtcome] at hrun
    exact hdone houtcome hrun
  | error failure =>
    rw [houtcome] at hrun
    exact hfailed (fun hok => by cases houtcome.symm.trans hok) hrun
  | unfinished =>
    rw [houtcome] at hrun
    exact hfailed (fun hok => by cases houtcome.symm.trans hok) hrun

theorem Kept.ordered_step (h : Kept chronicle session) (limits : Limits) (action : Action)
    (hunrepeated : Unrepeated session.around (session.run (action.program limits)).2.scene) :
    InOrder (session.step limits action :: chronicle) (session.step limits action).after := by
  by_cases hbump : ∃ user id, action = .bump user id
  · obtain ⟨user, id, rfl⟩ := hbump
    refine h.ordered_of_arranges (arranges_reported (arranges_bump h.consistent id)) fun hok hraised => ?_
    obtain ⟨link, hraises⟩ := hraised
    exact InOrder.raised rfl hraises h.ordered h.consistent.unique hok
  · have hnot (user : UserId) (id : IssueId) : action ≠ .bump user id :=
      fun haction => hbump ⟨user, id, haction⟩
    exact h.ordered_of_arranges (arranges_action h.consistent hnot) fun hok => h.settled_step hunrepeated hok hnot

theorem Kept.perform (h : Kept chronicle session) (limits : Limits) (action : Action)
    (hunrepeated : Unrepeated session.around (session.run (action.program limits)).2.scene) :
    Kept (session.step limits action :: chronicle) (session.run (action.program limits)).2 := by
  obtain ⟨issued, hsettled, hissued⟩ := h.settled
  obtain ⟨hundisturbed, haround⟩ := goesOn_run h.undisturbed (action.program limits)
  obtain ⟨hdrawn, hreaches⟩ := run_of_ensures _ h.undisturbed
    (ensures_reaches (action.program limits) session.scene issued hissued)
  obtain ⟨issued', hreaches, hissued'⟩ := hreaches hunrepeated
  refine ⟨hundisturbed, ⟨issued', hsettled.run limits action hreaches, ?_⟩, ?_, fun user id hbumped => ?_⟩
  · rwa [haround]
  · exact h.ordered_step limits action hunrepeated
  · rw [haround]
    by_cases hbumps : (session.step limits action).bumps user id
    · obtain ⟨-, sender, sent, -, entry, held, -, hlink⟩ := Step.bumps_iff.1 hbumps
      obtain ⟨kind, half, hhalf, hid, -⟩ := h.consistent.paired sender .out entry _ held hlink
      have hdrew := h.drew hhalf
      rw [hid] at hdrew
      exact hdrew.later hdrawn
    · rw [bumpedAt, lastAt_cons_of_neg hbumps] at hbumped
      exact (h.bumped user id hbumped).later hdrawn

theorem Lived.kept (h : Lived chronicle session) : Kept chronicle session := by
  induction h with
  | @start session undisturbed empty =>
    have hnone (user : UserId) (kind : ListKind) (entry : Entry) :
        entry ∉ (session.world.store.lists user).list kind := by
      rw [empty]
      exact not_holds_initial user kind entry
    have hnil (user : UserId) (kind : ListKind) : (session.world.store.lists user).list kind = [] :=
      List.eq_nil_iff_forall_not_mem.2 (hnone user kind)
    refine ⟨undisturbed, ⟨[], empty ▸ settled_initial, fun id hid => absurd hid List.not_mem_nil⟩,
      ⟨fun user kind entry held => absurd held (hnone user kind entry), fun user kind _ => ?_, fun user => ?_⟩,
      fun user id hbumped => absurd hbumped (Nat.lt_irrefl 0)⟩
    · rw [hnil]
      exact List.Pairwise.nil
    · exact ⟨[], [], hnil user .inbox, by simp, List.Pairwise.nil, by simp, List.Pairwise.nil⟩
  | perform lived limits action unrepeated ih => exact ih.perform limits action unrepeated
  | @meanwhile chronicle session session' lived undisturbed store supply drawn ih =>
    have hdrew {id : IssueId} (hid : Drew session.around session.scene id) :
        Drew session'.around session'.scene id := by
      obtain ⟨n, hn, hid⟩ := hid
      exact ⟨n, Nat.lt_of_lt_of_eq hn drawn.symm, (congrFun supply n).trans hid⟩
    obtain ⟨issued, hsettled, hissued⟩ := ih.settled
    refine ⟨undisturbed, ⟨issued, ?_, fun id hid => hdrew (hissued id hid)⟩, ?_,
      fun user id hbumped => hdrew (ih.bumped user id hbumped)⟩
    · rwa [store]
    · rw [store]
      exact ih.ordered

/-- In every session from an empty store on, all lists are in order, and the first of a user's own todos,
which a removal takes, is the one that has been there longest. -/
theorem lists_in_order (h : Lived chronicle session) :
    InOrder chronicle session.world.store ∧ ∀ limits user, limits.rounds ≠ 0 →
      OldestFirst chronicle session.world.store user (session.run (pop limits user)).1 := by
  refine ⟨h.kept.ordered, fun limits user hrounds => ?_⟩
  exact run_of_ensures (fun outcome _ => OldestFirst chronicle session.world.store user outcome)
    h.kept.undisturbed (ensures_pop_oldest (s := session.scene) h.kept.consistent h.kept.ordered hrounds user)

/-- A todo of one's own comes last in the own list. -/
theorem ensures_add_last {around : Surroundings} {s : Scene} {user : UserId} (h : s.store.ListsReadable user)
    (limits : Limits) (draft : Draft) :
    ((Action.add user draft).program limits).Ensures around (fun _ s' =>
      s'.store.lists user = (s.store.lists user).pushed .my (.unlinked (around.supply s.drawn)) ∧
        s'.drawn = s.drawn + 1) s := by
  refine ensures_bind (ensures_bind (ensures_bind (ensures_freshId (ensures_bind (ensures_now fun now => ?_)))))
  refine ensures_bind (ensures_saveIssue (ensures_bind (ensures_pushEntry (h.insert_issue _ _) ⟨?_, rfl⟩)))
  rw [Scene.withStore_store, Store.lists_withLists, Function.update_self]
  exact congrArg (fun lists => UserLists.pushed lists .my _) (congrFun (Store.lists_insert_issue _ _ _) user)

theorem Lived.add (h : Lived chronicle session) (user : UserId) (draft : Draft)
    (hunrepeated : ∀ m n, m < n → n ≤ session.world.drawn → session.world.supply m ≠ session.world.supply n)
    {after : Session} (hafter : (session.run ((Action.add user draft).program limits)).2 = after) :
    (∃ chronicle, Lived chronicle after) ∧ after.world.supply = session.world.supply ∧
      after.world.drawn = session.world.drawn + 1 ∧
      after.world.store.lists user = (session.world.store.lists user).pushed .my
        (.unlinked (session.world.supply session.world.drawn)) := by
  have hreadable := h.kept.consistent.unique.orderly.listsReadable user
  obtain ⟨hlists, hdrawn⟩ := run_of_ensures _ h.kept.undisturbed
    (ensures_add_last (s := session.scene) hreadable limits draft)
  have haround := (goesOn_run h.kept.undisturbed ((Action.add user draft).program limits)).2
  have hlived := h.perform limits (.add user draft) fun m n hm hn => by
    rw [hdrawn] at hn
    exact hunrepeated m n hm (Nat.le_of_lt_succ hn)
  rw [hafter] at hlists hdrawn haround hlived
  exact ⟨⟨_, hlived⟩, congrArg Surroundings.supply haround, hdrawn, hlists⟩

end

/-- Amy adds milk and then bread, and milk is what she removes first. -/
theorem milk_before_bread :
    let start := resumed .empty 0 []
    let milk := (start.run ((Action.add ⟨"amy"⟩ ⟨"milk", none, none⟩).program ⟨5, 5⟩)).2
    let bread := (milk.run ((Action.add ⟨"amy"⟩ ⟨"bread", none, none⟩).program ⟨5, 5⟩)).2
    ∃ popped, (bread.run (pop ⟨5, 5⟩ ⟨"amy"⟩)).1 = .ok popped ∧ popped.issue.id = World.counted 0 := by
  intro start milk
  have hstart : Lived [] start := .start rfl rfl
  obtain ⟨⟨earlier, hearlier⟩, hsupply, hdrawn, hlists⟩ := hstart.add ⟨"amy"⟩ ⟨"milk", none, none⟩
    (fun m n hm hn => absurd (Nat.lt_of_lt_of_le hm hn) (Nat.not_lt_zero m)) (rfl : _ = milk)
  clear_value milk
  have hlists : milk.world.store.lists ⟨"amy"⟩ = ⟨[.unlinked (World.counted 0)], [], []⟩ := hlists
  have hsupply : milk.world.supply = World.counted := hsupply
  have hdrawn : milk.world.drawn = 1 := hdrawn
  intro bread
  have hunrepeated (m n : Nat) (hm : m < n) (hn : n ≤ milk.world.drawn) :
      milk.world.supply m ≠ milk.world.supply n := by
    obtain ⟨rfl, rfl⟩ : m = 0 ∧ n = 1 := by omega
    rw [hsupply]
    decide
  obtain ⟨⟨chronicle, hlived⟩, -, -, hmy⟩ :=
    hearlier.add ⟨"amy"⟩ ⟨"bread", none, none⟩ hunrepeated (rfl : _ = bread)
  clear_value bread
  have hmy : (bread.world.store.lists ⟨"amy"⟩).list .my =
      [.unlinked (World.counted 0), .unlinked (World.counted 1)] := by
    rw [hmy, hlists, hsupply, hdrawn]
    decide
  obtain ⟨hordered, holdest⟩ := lists_in_order hlived
  have hpairwise := hordered.others ⟨"amy"⟩ .my (by decide)
  rw [hmy] at hpairwise
  generalize houtcome : (bread.run (pop ⟨5, 5⟩ ⟨"amy"⟩)).1 = outcome
  have holdest := holdest ⟨5, 5⟩ ⟨"amy"⟩ (by decide)
  rw [houtcome] at holdest
  cases holdest with
  | none empty => cases hmy.symm.trans empty
  | @oldest popped listed first =>
    refine ⟨popped, rfl, ?_⟩
    rw [hmy] at listed first
    obtain ⟨entry, hentry, hid⟩ := listed
    obtain rfl | hentry := List.mem_cons.1 hentry
    · exact hid.symm
    · -- bread has not been there longer than milk
      obtain rfl := List.mem_singleton.1 hentry
      rw [← hid] at first
      have hlater := List.rel_of_pairwise_cons hpairwise hentry
      exact absurd (first _ List.mem_cons_self (by decide)) (Nat.lt_asymm hlater)

end Session

end SharedTodo
