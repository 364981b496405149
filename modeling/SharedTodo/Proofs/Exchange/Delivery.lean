import SharedTodo.Proofs.Exchange.Race

/-!
# Todos on their way to a receiver

A todo that is sent or reassigned is published with its sender before it is delivered to its receiver. In
between only the sender's entry leads to the receiver's half, so nobody but a client of the sender can take
the half for one that has been given up, and delete its record.

While every user has one operation at a time, which may fail anywhere and be followed by others, that does not
happen: whatever is listed has a record at every moment (`Pool.recorded_of_turns`). A second client of the
sender can do it, and then an entry without a record is delivered (`Pool.delivered_without_record`): the
receiver can neither see nor accept nor remove it.
-/

namespace SharedTodo.Exchange

/-- Whoever links to a half that has not been delivered is the one who is to deliver it. -/
def Posted (stage : IssueId → Stage UserId) (view : View) : Prop :=
  ∀ user kind id link c owner, view.Linked user kind id link →
    stage link.issue = .offered c owner → user = c

section

variable {stage stage' : IssueId → Stage UserId} {view view' : View} {tasks : UserId → Task}
  {user : UserId} {task' : Task}

/-- A user who is free to give up an entry has delivered everything. -/
theorem Posted.ties (h : Posted stage view) (hordered : Ordered id stage view tasks) :
    Ties stage view user (tasks user) := by
  intro free kind entry link held hlink
  rcases hordered.placed.target user kind entry link held hlink with hsettled | ⟨c, hoffered⟩
  · exact hsettled
  · obtain rfl := h user kind entry.id link c _ ⟨entry, held, rfl, hlink⟩ hoffered
    obtain ⟨own, hoffer⟩ := (hordered.reserves user).offered link.issue link.user hoffered
    exact nomatch free.offer.symm.trans hoffer

/-- What is still to be delivered after an act was so before, or it was ready. -/
theorem Moves.offered_or_ready {c c' : UserId} {id : IssueId} {owner : UserId} (h : Moves c stage stage')
    (hoffered : stage' id = .offered c' owner) : stage id = .offered c' owner ∨ stage id = .ready c := by
  rcases h id with hsame | hnext
  · exact .inl (hsame.symm.trans hoffered)
  · rw [hoffered] at hnext
    generalize hid : stage id = a at hnext
    cases hnext
    exact .inr rfl

theorem Posted.act (h : Posted stage view) (hordered : Ordered id stage view tasks)
    (hact : Act user (tasks user) view task' view') (hmoves : Moves user stage stage')
    (hordered' : Ordered id stage' view' (Function.update tasks user task')) : Posted stage' view' := by
  intro other kind own link c owner hlinked hoffered
  rcases hact.linked hlinked with ⟨kind', hbefore, -⟩ | ⟨rfl, -, hoffer, -⟩ | ⟨huser, -, hoffer, -⟩
  · obtain ⟨entry, held, hid, hlink⟩ := hbefore
    rcases hmoves.offered_or_ready hoffered with hoffered | hready
    · exact h other kind' own link c owner ⟨entry, held, hid, hlink⟩ hoffered
    · -- nothing leads to what has not been offered
      rcases hordered.placed.target other kind' entry link held hlink with hdest | ⟨c', hdest⟩
      · exact nomatch hready.symm.trans hdest
      · exact nomatch hready.symm.trans hdest
  · have hreserves := hordered'.reserves other
    rw [Function.update_self] at hreserves
    have hown := (hreserves.offer own link hoffer).2
    rw [hoffered] at hown
    cases hown
    rfl
  · -- the half that has just been delivered leads to one that was settled before
    have hsettled := hmoves.settled ((hordered.reserves user).offer _ _ hoffer).1
    exact nomatch hoffered.symm.trans hsettled

/-! ## The next operation of a user -/

/-- What a user has promised and not delivered counts as theirs to whom it was promised. -/
def Stage.released (user : UserId) : Stage UserId → Stage UserId
  | offered c owner => if c = user then settled owner else offered c owner
  | other => other

theorem Stage.released_offered {c owner : UserId} {a : Stage UserId} :
    a.released user = offered c owner ↔ a = offered c owner ∧ c ≠ user := by
  cases a with
  | offered c' owner' =>
    rw [released]
    split
    · next hc =>
      refine iff_of_false nofun ?_
      rintro ⟨⟨⟩, hne⟩
      exact hne hc
    · next hc =>
      refine ⟨fun h => ⟨h, ?_⟩, And.left⟩
      cases h
      exact hc
  | _ => exact iff_of_false nofun fun h => nomatch h.1

theorem Stage.released_next (user : UserId) (a : Stage UserId) :
    a.released user = a ∨ a.Next user (a.released user) := by
  cases a with
  | offered c owner =>
    rw [released]
    split
    · next hc =>
      subst hc
      exact .inr (.deliver owner)
    · exact .inl rfl
  | _ => exact .inl rfl

theorem moves_released (user : UserId) (stage : IssueId → Stage UserId) :
    Moves user stage fun id => (stage id).released user :=
  fun id => Stage.released_next user (stage id)

/-- A user's task when another operation begins, whatever the one before has left. -/
theorem InPlace.begin (h : InPlace stage view tasks) (user : UserId) (edits : Bool) :
    InPlace (fun id => (stage id).released user) view
      (Function.update tasks user { edits := edits }) := by
  have hmoves := moves_released user stage
  refine ⟨⟨?_, fun c => ?_, fun c => ?_⟩, h.kept.listed, fun c => ?_⟩
  · refine h.ordered.placed.moved hmoves fun id hid => ?_
    show (stage id).released user = .unborn
    rw [hid]
    rfl
  · by_cases hc : c = user
    · subst hc
      rw [Function.update_self]
      refine ⟨fun _ hid => absurd hid List.not_mem_nil, fun _ hissue => absurd hissue List.not_mem_nil,
        nofun, fun id owner hid => ?_⟩
      exact absurd rfl (Stage.released_offered.1 hid).2
    · rw [Function.update_of_ne hc]
      exact (h.ordered.reserves c).of_ne hmoves hc
  · by_cases hc : c = user
    · subst hc
      rw [Function.update_self]
      exact ⟨nofun, nofun, fun _ hid => absurd hid List.not_mem_nil⟩
    · rw [Function.update_of_ne hc]
      exact (h.ordered.releases c).mono hmoves fun _ _ _ hlisted => hlisted
  · by_cases hc : c = user
    · subst hc
      rw [Function.update_self]
      exact ⟨fun _ hissue => absurd hissue List.not_mem_nil, nofun, nofun, nofun⟩
    · rw [Function.update_of_ne hc]
      have hkeeps := h.kept.keeps c
      refine ⟨hkeeps.ready, hkeeps.offer, fun own link hloose => hmoves.settled (hkeeps.loose own link hloose),
        fun id hid => ?_⟩
      obtain ⟨⟨owner, hsettled⟩, hgone⟩ := hkeeps.orphan id hid
      exact ⟨⟨owner, hmoves.settled hsettled⟩, hgone⟩

theorem Posted.begin (h : Posted stage view) (user : UserId) :
    Posted (fun id => (stage id).released user) view :=
  fun other kind id link c owner hlinked hoffered =>
    h other kind id link c owner hlinked (Stage.released_offered.1 hoffered).1

end

/-! ## One operation at a time for every user -/

namespace Pool

/-- No user has an operation on its way, and nothing is stored. -/
def idle : Pool UserId :=
  ⟨fun _ => pure (), .initial⟩

/-- A call of one user's operation, or a user whose operation has ended begins another one. -/
inductive TakesTurn (faulty : Prop) : Pool UserId → Pool UserId → Prop where
  | call {pool pool' : Pool UserId} (advances : Advances faulty pool pool') : TakesTurn faulty pool pool'
  | begin {pool : Pool UserId} {outcome : Outcome OperationError Unit} (limits : Limits) (action : Action)
      (ended : pool.clients action.user = .ended outcome) :
      TakesTurn faulty pool
        ⟨Function.update pool.clients action.user (action.program limits), pool.shared⟩

/-- A pool in which listed todos have records, now and after any more turns. -/
structure InSupply (faulty : Prop) (pool : Pool UserId) (stage : IssueId → Stage UserId)
    (tasks : UserId → Task) (endings : UserId → Ending Unit) : Prop where
  orderly : pool.shared.store.Orderly
  place : InPlace stage pool.shared.view tasks
  posted : Posted stage pool.shared.view
  follows : pool.Follows faulty id endings tasks

theorem inSupply_idle (faulty : Prop) :
    idle.InSupply faulty (fun _ => .unborn) (fun _ => {}) fun _ _ _ _ => True where
  orderly := Store.orderly_empty
  place := by
    refine ⟨placed_initial.ordered nofun fun _ => false,
      fun id hlisted => absurd hlisted (not_listed_initial id), fun _ => ?_⟩
    exact ⟨fun _ hissue => absurd hissue List.not_mem_nil, nofun, nofun, nofun⟩
  posted := nofun
  follows _ := ⟨.initial, trivial⟩

variable {faulty : Prop} {pool pool' : Pool UserId} {stage : IssueId → Stage UserId}
  {tasks : UserId → Task} {endings : UserId → Ending Unit}

theorem InSupply.takesTurn (h : pool.InSupply faulty stage tasks endings)
    (hturn : TakesTurn faulty pool pool') :
    ∃ stage' tasks' endings', pool'.InSupply faulty stage' tasks' endings' := by
  cases hturn with
  | call advances =>
    obtain ⟨user, task', hconducts, hfollows⟩ := h.follows.advance h.orderly h.place.ordered.fits advances
    obtain ⟨stage', hmoves, hordered⟩ := h.place.ordered.act hconducts.act
    have hkept := h.place.kept.act h.place.ordered hconducts.act hmoves (h.posted.ties h.place.ordered)
    exact ⟨stage', _, endings, hconducts.orderly, ⟨hordered, hkept⟩,
      h.posted.act h.place.ordered hconducts.act hmoves hordered, hfollows⟩
  | begin limits action ended =>
    refine ⟨_, _, Function.update endings action.user (Mode.Settles ⟨True, faulty⟩ action.Allows), h.orderly,
      h.place.begin action.user action.isEdit, h.posted.begin action.user, fun user => ?_⟩
    by_cases huser : user = action.user
    · subst huser
      rw [Function.update_self, Function.update_self]
      show ∃ s, Conforms _ _ (Function.update pool.clients action.user _ action.user) _ _ s
      rw [Function.update_self]
      exact ⟨pool.shared, action.conforms ⟨True, faulty⟩ limits pool.shared⟩
    · rw [Function.update_of_ne huser, Function.update_of_ne huser]
      show ∃ s, Conforms _ _ (Function.update pool.clients action.user _ user) _ _ s
      rw [Function.update_of_ne huser]
      exact h.follows user

/-- Whatever operations the users perform, each of them one after the other, and whatever calls fail: at every
moment every listed todo has its record. -/
theorem recorded_of_turns (faulty : Prop) {pool : Pool UserId}
    (hturns : Relation.ReflTransGen (TakesTurn faulty) idle pool) (user : UserId) (kind : ListKind) :
    ∀ entry ∈ (pool.shared.store.lists user).list kind, ∃ raw issue,
      pool.shared.store.find? (Issue.key entry.id) = some raw ∧ Issue.codec.decode raw = .ok issue ∧
        issue.id = entry.id := by
  have hsupply : ∃ stage tasks endings, pool.InSupply faulty stage tasks endings := by
    induction hturns with
    | refl => exact ⟨_, _, _, inSupply_idle faulty⟩
    | tail _ hturn ih =>
      obtain ⟨stage, tasks, endings, h⟩ := ih
      exact h.takesTurn hturn
  obtain ⟨stage, tasks, endings, h⟩ := hsupply
  intro entry he
  cases hraw : pool.shared.store.find? (Issue.key entry.id) with
  | none =>
    exact absurd (Store.record_of_find?_eq_none hraw) (h.place.kept.listed entry.id ⟨user, kind, entry, he, rfl⟩)
  | some raw =>
    obtain ⟨issue, hdecode, hid⟩ := h.orderly.records entry.id raw hraw
    exact ⟨raw, issue, rfl, hdecode, hid⟩

/-- A user without todos sends one to another user without todos. -/
theorem exists_turns_sent (limits : Limits) {user receiver : UserId} (hother : user ≠ receiver) (draft : Draft)
    {sent received : IssueId} (hne : received ≠ sent) :
    ∃ pool, Relation.ReflTransGen (TakesTurn False) idle pool ∧
      Entry.linked received ⟨user, sent⟩ ∈ (pool.shared.store.lists receiver).list .inbox := by
  obtain ⟨s, hsend, -, hview⟩ :=
    @reaches_send_initial False user limits receiver hother draft sent received hne
  have hrun : Reaches False ((Action.send user receiver draft).program limits) .initial (pure ()) s :=
    hsend.bind (.refl _ _)
  let begun : Pool UserId :=
    ⟨Function.update idle.clients user ((Action.send user receiver draft).program limits), .initial⟩
  have hbegin : TakesTurn False idle begun := .begin limits (.send user receiver draft) rfl
  have hclient : begun.clients user = (Action.send user receiver draft).program limits :=
    Function.update_self ..
  rw [← hclient] at hrun
  refine ⟨_, .head hbegin ((leads_of_reaches hrun).lift id fun _ _ => .call), ?_⟩
  show s.view.holds receiver .inbox _
  rw [hview]
  exact .inr ⟨rfl, rfl⟩

theorem sent_recorded :
    ∃ pool, Relation.ReflTransGen (TakesTurn False) idle pool ∧
      Entry.linked ⟨2⟩ ⟨⟨"amy"⟩, ⟨1⟩⟩ ∈ (pool.shared.store.lists ⟨"ben"⟩).list .inbox ∧
      ∃ raw issue, pool.shared.store.find? (Issue.key ⟨2⟩) = some raw ∧
        Issue.codec.decode raw = .ok issue ∧ issue.id = ⟨2⟩ := by
  obtain ⟨pool, hturns, held⟩ := @exists_turns_sent ⟨5, 5⟩ ⟨"amy"⟩ ⟨"ben"⟩ (by decide) ⟨"milk", none, none⟩
    ⟨1⟩ ⟨2⟩ (by decide)
  have hrecorded := recorded_of_turns False hturns ⟨"ben"⟩ .inbox _ held
  exact ⟨pool, hturns, held, hrecorded⟩

/-! ## Two clients of one user -/

/-- One client of a user sends a todo, and another one takes it back. -/
def sendAndTakeBack (user receiver : UserId) (draft : Draft) (id : IssueId) : Bool → Action
  | true => .send user receiver draft
  | false => .reassign user id user

/-- The todo is taken back when it is published and not yet delivered: what is delivered then has lost its
record. -/
theorem exists_delivered_without_record (limits : Limits) {user receiver : UserId} (hother : user ≠ receiver)
    (draft : Draft) {sent received : IssueId} (hne : received ≠ sent) :
    ∃ pool, (start (fun _ => limits) (sendAndTakeBack user receiver draft sent) .initial).Leads False pool ∧
      (∀ i, pool.clients i = pure ()) ∧
      Entry.linked received ⟨user, sent⟩ ∈ (pool.shared.store.lists receiver).list .inbox ∧
      pool.shared.store.find? (Issue.key received) = none := by
  obtain ⟨s₁, hhalf, horderly₁, hview₁⟩ :=
    @reaches_halfSent_initial False user limits receiver hother draft sent received hne
  have held : s₁.view.holds user .out (.linked sent ⟨receiver, received⟩) := by
    rw [hview₁]
    exact .inr ⟨rfl, rfl⟩
  have hmissing : ¬ s₁.view.Listed received := by
    rw [hview₁]
    exact View.not_listed_halfSent hne (not_listed_initial received)
  have hrecord : s₁.store.record sent = some (Issue.ofDraft draft sent .epoch) :=
    (congrArg (fun view => view.record sent) hview₁).trans (View.record_halfSent hne)
  obtain ⟨s₂, hback, horderly₂, hview₂⟩ := @reaches_reassign_self False s₁ user limits horderly₁ _ _ held
    _ rfl hmissing _ hrecord
  have hmissing₂ : ¬ s₂.view.Listed received := by
    rw [hview₂]
    intro hlisted
    rcases View.listed_revise hlisted with hlisted | ⟨kind, entry, hcome, hid⟩
    · exact hmissing hlisted
    · cases hcome
      exact hne hid.symm
  obtain ⟨s₃, hpush, horderly₃, hview₃⟩ :=
    @reaches_pushEntry False s₂ receiver limits horderly₂ .inbox (.linked received ⟨user, sent⟩) hmissing₂
  have hrecord₃ : s₃.store.record received = _ := congrArg (fun view => view.record received) hview₃
  rw [View.revise_record, hview₂, View.record_withRecord, if_pos rfl] at hrecord₃
  let begun := start (fun _ => limits) (sendAndTakeBack user receiver draft sent) .initial
  let undelivered : Operation Unit :=
    (pushEntry limits receiver .inbox (.linked received ⟨user, sent⟩) >>= fun _ => pure received) >>=
      fun _ => pure ()
  have hsend : Reaches False (begun.clients true) begun.shared undelivered s₁ := hhalf.carried
  let published : Pool Bool := ⟨Function.update begun.clients true undelivered, s₁⟩
  have htake : Reaches False (published.clients false) published.shared (pure ()) s₂ := hback.bind (.refl _ _)
  let takenBack : Pool Bool := ⟨Function.update published.clients false (pure ()), s₂⟩
  have hdeliver : Reaches False (takenBack.clients true) takenBack.shared (pure ()) s₃ :=
    hpush.carried.carried
  refine ⟨_, ((leads_of_reaches hsend).trans (leads_of_reaches htake)).trans (leads_of_reaches hdeliver),
    fun i => ?_, ?_, ?_⟩
  · cases i <;> rfl
  · show s₃.view.holds receiver .inbox _
    rw [hview₃]
    exact .inr ⟨rfl, rfl⟩
  · exact horderly₃.find?_eq_none_iff.2 hrecord₃

theorem delivered_without_record :
    ∃ pool : Pool Bool, (start (fun _ => ⟨5, 5⟩)
        (sendAndTakeBack ⟨"amy"⟩ ⟨"ben"⟩ ⟨"milk", none, none⟩ ⟨1⟩) .initial).Leads False pool ∧
      (∀ i, pool.clients i = pure ()) ∧
      Entry.linked ⟨2⟩ ⟨⟨"amy"⟩, ⟨1⟩⟩ ∈ (pool.shared.store.lists ⟨"ben"⟩).list .inbox ∧
      pool.shared.store.find? (Issue.key ⟨2⟩) = none :=
  exists_delivered_without_record ⟨5, 5⟩ (by decide) ⟨"milk", none, none⟩ (by decide)

end Pool

end SharedTodo.Exchange
