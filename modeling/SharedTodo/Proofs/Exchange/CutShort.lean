import SharedTodo.Proofs.Exchange.Interleaving
import SharedTodo.Proofs.Exchange.Progress
import SharedTodo.Proofs.Exchange.Records

/-!
# Operations that are cut short

Operations are performed one after the other, and each of them may be cut short after any of its calls, or
find that calls to the store fail from some point on. What it leaves behind may be half done: a record
without an entry, a half without its counterpart. Still no issue is listed twice, every entry has its
record, and a counterpart is never listed by anybody but the user whom the link names. So a list can be
shown in full, and whatever is listed can be completed, which takes it out of the lists for good.

A client that stops leaves its task undone for ever. What it has drawn stays unlisted, and a counterpart that
it has promised to a user counts as settled with that user from then on.
-/

namespace SharedTodo.Exchange

/-- The states that operations lead to, one after the other, each carried on for any number of calls. -/
inductive CutShort : Shared → Prop where
  | initial : CutShort .initial
  | perform {s s' : Shared} {left : Operation Unit} (before : CutShort s) (limits : Limits)
      (action : Action) (cut : Reaches True (action.program limits) s left s') : CutShort s'

/-! ## One client -/

section

variable {α : Type} {user : UserId} {stage : IssueId → Stage Unit} {task : Task} {s s' : Shared}
  {faulty : Prop}

/-- An operation on its way, with nobody else at work. -/
structure Alone (faulty : Prop) (user : UserId) (program : Operation α) (ending : Ending α)
    (stage : IssueId → Stage Unit) (task : Task) (s : Shared) : Prop where
  orderly : s.store.Orderly
  ordered : Ordered (fun _ => user) stage s.view fun _ => task
  kept : Kept stage s.view fun _ => task
  conforms : Conforms ⟨False, faulty⟩ user program ending task s

/-- A client that is free to give up an entry has not promised anything. -/
theorem Ordered.ties (h : Ordered (fun (_ : Unit) => user) stage s.view fun _ => task) :
    Ties stage s.view user task := by
  intro free kind entry link held hlink
  rcases h.placed.target user kind entry link held hlink with hsettled | ⟨c, hoffered⟩
  · exact hsettled
  · obtain ⟨own, hoffer⟩ := (h.reserves c).offered link.issue link.user hoffered
    exact nomatch free.offer.symm.trans hoffer

theorem Alone.reaches {program left : Operation α} {ending : Ending α}
    (h : Alone faulty user program ending stage task s) (hreaches : Reaches faulty program s left s') :
    ∃ stage' task', Alone faulty user left ending stage' task' s' := by
  induction hreaches generalizing stage task with
  | refl => exact ⟨stage, task, h⟩
  | step answer _ ih =>
    obtain ⟨task', hconducts, hnext⟩ :=
      h.conforms _ ⟨.inr rfl, h.orderly, h.ordered.fits ()⟩ _ _ answer
    obtain ⟨stage', hmoves, hordered⟩ := h.ordered.act (c := ()) hconducts.act
    have hkept := h.kept.act h.ordered hconducts.act hmoves h.ordered.ties
    have htasks : Function.update (fun _ : Unit => task) () task' = fun _ => task' :=
      funext fun _ => Function.update_self ..
    rw [htasks] at hordered hkept
    exact ih ⟨hconducts.orderly, hordered, hkept, hnext⟩

/-! ## No client -/

/-- What is left when a client stops: nothing is promised any more. -/
def Stage.atRest : Stage Unit → Stage Unit
  | offered _ owner => settled owner
  | other => other

structure Rested (stage : IssueId → Stage Unit) (s : Shared) : Prop where
  orderly : s.store.Orderly
  placed : Placed stage s.view
  offered : ∀ id c owner, stage id ≠ .offered c owner
  listed : ∀ id, s.view.Listed id → s.store.record id ≠ none

theorem rested_initial : Rested (fun _ => .unborn) .initial where
  orderly := Store.orderly_empty
  placed := placed_initial
  offered := nofun
  listed id hlisted := absurd hlisted (not_listed_initial id)

theorem Rested.alone {program : Operation α} {ending : Ending α} (h : Rested stage s) (edits : Bool)
    (hconforms : Conforms ⟨False, faulty⟩ user program ending { edits := edits } s) :
    Alone faulty user program ending stage { edits := edits } s where
  orderly := h.orderly
  ordered := h.placed.ordered h.offered fun _ => edits
  kept := ⟨h.listed, fun _ => ⟨fun _ hissue => absurd hissue List.not_mem_nil,
    fun _ _ hoffer => (nomatch hoffer), fun _ _ hloose => (nomatch hloose), fun _ hid => nomatch hid⟩⟩
  conforms := hconforms

theorem Alone.rested {program : Operation α} {ending : Ending α}
    (h : Alone faulty user program ending stage task s) :
    Rested (fun id => (stage id).atRest) s where
  orderly := h.orderly
  placed := by
    have hplaced := h.ordered.placed
    have hsettled : ∀ {id owner}, stage id = .settled owner → (stage id).atRest = .settled owner := by
      intro id owner hid
      rw [hid]
      rfl
    refine ⟨fun id hid => ?_, fun id hid => ?_, fun user kind entry he => ?_, hplaced.unique, ?_⟩
    · show (stage id).atRest = .unborn
      rw [hplaced.unborn id hid]
      rfl
    · have hstored := hplaced.recorded id hid
      cases hstage : stage id <;> rw [hstage] at hstored <;> exact hstored
    · exact hsettled (hplaced.held user kind entry he)
    · intro user kind entry link he hlink
      rcases hplaced.target user kind entry link he hlink with hid | ⟨c, hid⟩
      · exact .inl (hsettled hid)
      · refine .inl ?_
        show (stage link.issue).atRest = .settled link.user
        rw [hid]
        rfl
  offered id c owner := by
    cases stage id <;> exact nofun
  listed := h.kept.listed

theorem CutShort.rested (h : CutShort s) : ∃ stage, Rested stage s := by
  induction h with
  | initial => exact ⟨_, rested_initial⟩
  | perform before limits action cut ih =>
    obtain ⟨stage, hrested⟩ := ih
    have hconforms := action.conforms ⟨False, True⟩ limits
    obtain ⟨stage', task', halone⟩ := (hrested.alone action.isEdit (hconforms _)).reaches cut
    exact ⟨_, halone.rested⟩

/-- What an operation that runs to its end comes to. -/
theorem Rested.ends {program : Operation α} {ending : Ending α} {outcome : Outcome OperationError α}
    (h : Rested stage s) (hconforms : Conforms ⟨False, faulty⟩ user program ending {} s)
    (hreaches : Reaches faulty program s (.ended outcome) s') :
    ∃ stage' task', Ordered (fun (_ : Unit) => user) stage' s'.view (fun _ => task') ∧
      ending outcome task' s' := by
  obtain ⟨stage', task', halone⟩ := (h.alone false hconforms).reaches hreaches
  exact ⟨stage', task', halone.ordered, halone.conforms⟩

/-! ## Lists are shown in full -/

theorem conforms_resolve {other : UserId} {ending : Ending String}
    (hending : ∀ name, ending (.ok name) task s) :
    Conforms undisturbed user (Naming.resolve other) ending task s := by
  refine conforms_bind (conforms_perform (fun _ _ _ h => h) fun cached s₁ hmeets => ?_)
  rw [hmeets.eq]
  cases cached with
  | some name => exact hending name
  | none =>
    refine conforms_bind (conforms_perform (fun _ _ _ h => h) fun found s₂ hmeets₂ => ?_)
    rw [hmeets₂.eq]
    match found with
    | .ok (some profile) =>
      refine conforms_bind (conforms_perform (fun _ _ _ h => h) fun _ s₃ hmeets₃ => ?_)
      rw [hmeets₃.eq]
      exact hending profile.username
    | .ok none => exact hending Naming.fallback
    | .error _ => exact hending Naming.fallback

theorem conforms_loadOnce {other : UserId} {loaded : Loaded} {ending : Ending (UserLists × Loaded)}
    (hending : ∀ result, ending (.ok result) task s) :
    Conforms undisturbed user (loadOnce other loaded) ending task s := by
  rw [loadOnce]
  cases loaded.find? other with
  | some lists => exact hending (lists, loaded)
  | none =>
    refine conforms_bind (conforms_loadLists lenient_undisturbed fun s₁ hmeets => ?_)
    rw [hmeets.eq]
    exact hending _

theorem conforms_listEntry {position : Nat} {entry : Entry} {issue : Issue} {loaded : Loaded}
    {ending : Ending (ListedIssue × Loaded)}
    (hending : ∀ item loaded', item.issue = issue → item.position = position →
      ending (.ok (item, loaded')) task s) :
    Conforms undisturbed user (listEntry user position entry issue loaded) ending task s := by
  rw [listEntry]
  cases entry.link with
  | none => exact hending _ _ rfl rfl
  | some link =>
    refine conforms_bind (conforms_loadOnce fun result => ?_)
    obtain ⟨lists, loaded'⟩ := result
    rw [Ending.andThen]
    dsimp only
    split
    · exact hending _ _ rfl rfl
    · refine conforms_bind (conforms_resolve fun name => ?_)
      exact hending _ _ rfl rfl

/-- Entries from some position on, all with records: each is shown, at its position. -/
theorem conforms_listFrom {entries : List Entry} (position : Nat) (loaded : Loaded)
    {ending : Ending (List ListedIssue)}
    (hrecord : ∀ entry ∈ entries, s.store.record entry.id ≠ none)
    (hending : ∀ items : List ListedIssue,
      items.map (fun item => (item.issue.id, item.position)) =
        (entries.map Entry.id).zipIdx position → ending (.ok items) task s) :
    Conforms undisturbed user (listFrom user position entries loaded) ending task s := by
  induction entries generalizing position loaded ending with
  | nil => exact hending [] rfl
  | cons entry rest ih =>
    refine conforms_bind (conforms_loadIssue lenient_undisturbed fun s₁ hmeets => ⟨task, .rest, ?_⟩)
    have hs₁ := hmeets.eq
    subst hs₁
    cases hissue : s₁.store.record entry.id with
    | none => exact absurd hissue (hrecord entry List.mem_cons_self)
    | some issue =>
      refine conforms_bind (conforms_listEntry fun item loaded' hitem hposition => ?_)
      refine conforms_bind (ih (position + 1) loaded' ?_ fun items hitems => ?_)
      · exact fun other hother => hrecord other (List.mem_cons_of_mem _ hother)
      · refine hending (item :: items) ?_
        rw [List.map_cons, hitems, hitem, hposition, hmeets.orderly.id_of_record hissue, List.map_cons,
          List.zipIdx_cons]

theorem conforms_listing {kind : ListKind}
    (hrecord : ∀ entry ∈ (s.store.lists user).list kind, s.store.record entry.id ≠ none) :
    Conforms undisturbed user (listing user kind)
      (fun outcome _ _ => ∃ items : List ListedIssue, outcome = .ok items ∧
        items.map (fun item => (item.issue.id, item.position)) =
          (((s.store.lists user).list kind).map Entry.id).zipIdx) task s := by
  refine conforms_bind (conforms_loadLists lenient_undisturbed fun s₁ hmeets => ?_)
  have hs₁ := hmeets.eq
  subst hs₁
  exact conforms_listFrom 0 .empty hrecord fun items hitems => ⟨items, rfl, hitems⟩

/-! ## The safe states -/

/-- Undisturbed, an operation has an end, and what it comes to is always so. -/
def ComesTo (program : Operation α) (s : Shared) (P : Outcome OperationError α → Shared → Prop) : Prop :=
  (∃ outcome s', Reaches False program s (.ended outcome) s') ∧
    ∀ outcome s', Reaches False program s (.ended outcome) s' → P outcome s'

/-- Wherever operations have been cut short: identifiers are unique, entries have records, links lead to
their users only; a listing shows every entry, and completing what a user lists succeeds for good. -/
theorem cutShort_safe (h : CutShort s) :
    s.store.Unique ∧
      (∀ user kind, ∀ entry ∈ (s.store.lists user).list kind, ∃ raw issue,
        s.store.find? (Issue.key entry.id) = some raw ∧ Issue.codec.decode raw = .ok issue) ∧
      (∀ user kind entry link, entry ∈ (s.store.lists user).list kind → entry.link = some link →
        ∀ other kind' entry', entry' ∈ (s.store.lists other).list kind' → entry'.id = link.issue →
          other = link.user) ∧
      (∀ user kind, ComesTo (listing user kind) s fun outcome _ =>
        ∃ items : List ListedIssue, outcome = .ok items ∧
          items.map (fun item => (item.issue.id, item.position)) =
            (((s.store.lists user).list kind).map Entry.id).zipIdx) ∧
      ∀ limits user kind entry, entry ∈ (s.store.lists user).list kind →
        ComesTo (complete limits user entry.id) s fun outcome s' =>
          (∃ completed, outcome = .ok completed) ∧ ¬ s'.view.Listed entry.id := by
  obtain ⟨stage, hrested⟩ := h.rested
  have hrecord : ∀ user kind, ∀ entry ∈ (s.store.lists user).list kind,
      s.store.record entry.id ≠ none :=
    fun user kind entry he => hrested.listed entry.id ⟨user, kind, entry, he, rfl⟩
  refine ⟨⟨hrested.orderly, ?_⟩, ?_, ?_, ?_, ?_⟩
  · intro user other kind kind' entry entry' he he' hid
    have hsettled := hrested.placed.held user kind entry he
    rw [hid, hrested.placed.held other kind' entry' he'] at hsettled
    exact (Stage.settled.inj hsettled).symm
  · intro user kind entry he
    cases hraw : s.store.find? (Issue.key entry.id) with
    | none => exact absurd (Store.record_of_find?_eq_none hraw) (hrecord user kind entry he)
    | some raw =>
      obtain ⟨issue, hdecode, -⟩ := hrested.orderly.records entry.id raw hraw
      exact ⟨raw, issue, rfl, hdecode⟩
  · intro user kind entry link he hlink other kind' entry' he' hid
    have hsettled := hrested.placed.held other kind' entry' he'
    rcases hrested.placed.target user kind entry link he hlink with htarget | ⟨c, htarget⟩
    · rw [hid, htarget] at hsettled
      exact (Stage.settled.inj hsettled).symm
    · exact absurd htarget (hrested.offered _ c _)
  · intro user kind
    refine ⟨(drawless_listing kind).ends s, fun outcome s' hreaches => ?_⟩
    obtain ⟨_, _, -, hending⟩ := hrested.ends (conforms_listing (hrecord user kind)) hreaches
    exact hending
  · intro limits user kind entry he
    refine ⟨(drawless_complete limits entry.id).ends s, fun outcome s' hreaches => ?_⟩
    obtain ⟨stage', task', hordered, hok, hgone⟩ := hrested.ends
      (conforms_complete_listed ⟨⟨rfl, rfl, rfl, rfl, rfl⟩, rfl⟩ (hrecord user kind entry he)
        ⟨kind, entry, he, rfl⟩) hreaches
    exact ⟨hok, ((hordered.releases ()).gone entry.id hgone).2⟩

/-- A todo is published by its sender, and the operation is cut short before it is delivered. -/
theorem exists_halfSent (limits : Limits) {user receiver : UserId} (hother : user ≠ receiver) (draft : Draft)
    {sent received : IssueId} (hne : received ≠ sent) :
    ∃ s, CutShort s ∧ s.view.Linked user .out sent ⟨receiver, received⟩ ∧ ¬ s.view.Listed received := by
  obtain ⟨s, hsend, -, hview⟩ :=
    @reaches_halfSent_initial True user limits receiver hother draft sent received hne
  refine ⟨s, .perform .initial limits (.send user receiver draft) hsend.carried, ?_, ?_⟩ <;> rw [hview]
  · exact ⟨_, .inr ⟨rfl, rfl⟩, rfl, rfl⟩
  · exact View.not_listed_halfSent hne (not_listed_initial received)

/-- What has been sent by half can be listed and completed. -/
theorem halfSent_safe :
    ∃ s, CutShort s ∧ s.view.Linked ⟨"amy"⟩ .out ⟨1⟩ ⟨⟨"ben"⟩, ⟨2⟩⟩ ∧ ¬ s.view.Listed ⟨2⟩ ∧ s.store.Unique ∧
      ComesTo (complete ⟨5, 5⟩ ⟨"amy"⟩ ⟨1⟩) s fun outcome s' =>
        (∃ completed, outcome = .ok completed) ∧ ¬ s'.view.Listed ⟨1⟩ := by
  obtain ⟨s, hcut, ⟨entry, he, hid, hlink⟩, hgone⟩ := @exists_halfSent ⟨5, 5⟩ ⟨"amy"⟩ ⟨"ben"⟩ (by decide)
    ⟨"milk", none, none⟩ ⟨1⟩ ⟨2⟩ (by decide)
  have hcomplete := (cutShort_safe hcut).2.2.2.2 ⟨5, 5⟩ ⟨"amy"⟩ .out entry he
  rw [hid] at hcomplete
  exact ⟨s, hcut, ⟨entry, he, hid, hlink⟩, hgone, (cutShort_safe hcut).1, hcomplete⟩

end

end SharedTodo.Exchange
