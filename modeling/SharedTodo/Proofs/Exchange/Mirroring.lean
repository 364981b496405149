import Mathlib.Data.Bool.Basic
import SharedTodo.Proofs.Exchange.Reliance
import SharedTodo.Proofs.Exchange.Sequential

/-!
# Edits of both halves at once

The holders of a todo edit it at the same time. Each edit writes the record of the editor's own half first and
that of the other half second, so each record is written twice, once by either of them. When both edits have
returned the lists are what they were, and each record has the content of that edit which wrote it last
(`Pool.edited_of_leads`). The content is the same on both sides, or else each half has the content that was
meant for the other one: that neither edit has come to the other half is the only order which is impossible,
because then each of them would have to begin before the other one ends.

The halves do differ in the end when one edit runs from beginning to end between the two writes of the other
one (`Pool.exists_crossed`). So it is for one edit after the other only that mirroring keeps linked todos the
same.
-/

namespace SharedTodo.Exchange

/-- How far an edit has come. -/
inductive Phase where
  /-- Its own half has not been written. -/
  | before
  | half
  | through
  deriving DecidableEq

/-- What an edit does to a record, and to its own progress, with one call. -/
inductive EditStep (own other : IssueId) (change : Edit) : Phase → Shared → Phase → Shared → Prop where
  | rest (phase : Phase) (s : Shared) : EditStep own other change phase s phase s
  | own {s s' : Shared} {issue : Issue} (known : s.view.record own = some issue)
      (written : s'.view = s.view.withRecord own (some (issue.edited change))) (orderly : s'.store.Orderly) :
    EditStep own other change .before s .half s'
  | mirror {s s' : Shared} {issue : Issue} (known : s.view.record other = some issue)
      (written : s'.view = s.view.withRecord other (some (issue.edited change))) (orderly : s'.store.Orderly) :
    EditStep own other change .half s .through s'

/-- Two users list one half each of a todo. -/
def View.Paired (view : View) (users : Bool → UserId) (ids : Bool → IssueId) : Prop :=
  ∀ half, ∃ kind, view.Linked (users half) kind (ids half) ⟨users !half, ids !half⟩

/-- What an edit of either half relies on: the link, and both records. -/
structure Mirrorable (users : Bool → UserId) (ids : Bool → IssueId) (s : Shared) : Prop where
  orderly : s.store.Orderly
  paired : s.view.Paired users ids
  recorded : ∀ half, s.view.record (ids half) ≠ none

section

variable {users : Bool → UserId} {ids : Bool → IssueId} {changes : Bool → Edit} {s s' : Shared}

theorem Mirrorable.written (h : Mirrorable users ids s) {id : IssueId} {issue : Issue}
    (hwritten : s'.view = s.view.withRecord id (some issue)) (horderly : s'.store.Orderly) :
    Mirrorable users ids s' where
  orderly := horderly
  paired half := by
    rw [hwritten]
    exact h.paired half
  recorded half := by
    rw [hwritten]
    exact View.record_written_ne_none.2 (.inr (h.recorded half))

/-- Two clients edit one half each. -/
def editing (users : Bool → UserId) (ids : Bool → IssueId) (changes : Bool → Edit) : Regime Bool Phase where
  relies := Mirrorable users ids
  allows half := EditStep (ids half) (ids !half) (changes half)
  rests _ := .rest
  keeps hrelies hstep := by
    cases hstep with
    | rest => exact hrelies
    | own _ written orderly => exact hrelies.written written orderly
    | mirror _ written orderly => exact hrelies.written written orderly

/-! ## Edits obey -/

theorem orderly_of_relies (s : Shared) (h : (editing users ids changes).relies s) : s.store.Orderly :=
  Mirrorable.orderly h

theorem obeyed_livingCounterpart {faulty : Prop} {half : Bool} {phase : Phase} {entry : Entry}
    (hid : entry.id = ids half) (hlink : entry.link = some ⟨users !half, ids !half⟩)
    {done : Option Link → Phase → Prop} (h : done (some ⟨users !half, ids !half⟩) phase) :
    (editing users ids changes).Obeyed faulty half (livingCounterpart (users half) entry) done phase := by
  rw [livingCounterpart, hlink]
  refine Regime.obeyed_bind (Regime.obeyed_loadLists orderly_of_relies fun s hrelies => ?_)
  obtain ⟨kind, back, held, hback, hlinked⟩ := Mirrorable.paired hrelies !half
  rw [Bool.not_not] at hlinked
  obtain ⟨located, hfound⟩ :=
    ((orderly_of_relies s hrelies).distinct (users !half)).findLinked_of_mem held hlinked
  rw [hback] at hfound
  rw [hid, hfound]
  exact h

theorem obeyed_edit (faulty : Prop) (limits : Limits) (half : Bool) :
    (editing users ids changes).Obeyed faulty half
      ((Action.edit (users half) (ids half) (changes half)).program limits)
      (fun _ phase => phase = .through) .before := by
  have hknown : ∀ half s, (editing users ids changes).relies s →
      s.store.Orderly ∧ s.store.record (ids half) ≠ none :=
    fun half s hrelies => ⟨orderly_of_relies s hrelies, Mirrorable.recorded hrelies half⟩
  refine Regime.obeyed_bind (Regime.obeyed_bind ?_)
  refine Regime.obeyed_loadLists orderly_of_relies fun s hrelies => ?_
  -- the entry that is found is the linked one
  obtain ⟨kind, entry, held, hid, hlink⟩ := Mirrorable.paired hrelies half
  obtain ⟨located, hfind, -, rfl⟩ :=
    ((orderly_of_relies s hrelies).distinct (users half)).find_of_mem held
  rw [hid] at hfind
  rw [hfind]
  refine Regime.obeyed_bind ?_
  show (editing users ids changes).Obeyed faulty half (editRecord limits (ids half) (changes half) >>= _) _
    Phase.before
  refine Regime.obeyed_bind (Regime.obeyed_editRecord (hknown half) ?_)
  intro s₁ s₂ issue _ hissue hwritten horderly
  refine ⟨.half, .own hissue hwritten horderly, ?_⟩
  show (editing users ids changes).Obeyed faulty half (livingCounterpart (users half) located.entry >>= _) _
    Phase.half
  refine Regime.obeyed_bind (obeyed_livingCounterpart hid hlink ?_)
  refine Regime.obeyed_bind (Regime.obeyed_bind (Regime.obeyed_editRecord (hknown !half) ?_))
  intro s₃ s₄ other _ hother hwritten' horderly'
  exact ⟨.through, .mirror hother hwritten' horderly', rfl⟩

/-! ## Who has written last -/

/-- An issue after the edit that was the last one to write it. -/
def lastEdited (changes : Bool → Edit) (issue : Issue) : Option Bool → Issue
  | none => issue
  | some writer => issue.edited (changes writer)

theorem lastEdited_edited (changes : Bool → Edit) (issue : Issue) (last : Option Bool) (writer : Bool) :
    (lastEdited changes issue last).edited (changes writer) = lastEdited changes issue (some writer) := by
  cases last <;> rfl

/-- The records of the two halves, each with the content of the edit that wrote it last. -/
structure Overwritten (ids : Bool → IssueId) (changes : Bool → Edit) (issues : Bool → Issue)
    (phases : Bool → Phase) (s : Shared) (last : Bool → Option Bool) : Prop where
  record : ∀ half, s.view.record (ids half) = some (lastEdited changes (issues half) (last half))
  begun : ∀ half, phases half ≠ .before → last half ≠ none
  /-- As long as neither edit has come to the other half, one of them still has to. -/
  ahead : (∀ half, last half = some half) → ∃ half, phases half = .half

variable {issues : Bool → Issue} {phases phases' : Bool → Phase} {last : Bool → Option Bool}

theorem Overwritten.record_of_write (h : Overwritten ids changes issues phases s last)
    (hapart : Function.Injective ids) {written writer : Bool} {issue : Issue}
    (hknown : s.view.record (ids written) = some issue)
    (hview : s'.view = s.view.withRecord (ids written) (some (issue.edited (changes writer)))) (half : Bool) :
    s'.view.record (ids half) =
      some (lastEdited changes (issues half) (Function.update last written (some writer) half)) := by
  rw [hview, View.record_withRecord]
  by_cases hhalf : half = written
  · subst hhalf
    cases hknown.symm.trans (h.record half)
    rw [if_pos rfl, Function.update_self, lastEdited_edited]
  · rw [if_neg (hapart.ne hhalf), Function.update_of_ne hhalf]
    exact h.record half

theorem Overwritten.moves (h : Overwritten ids changes issues phases s last)
    (hapart : Function.Injective ids)
    (hmove : (editing users ids changes).Moves (phases, s) (phases', s')) :
    ∃ last', Overwritten ids changes issues phases' s' last' := by
  cases hmove with
  | @client _ _ _ writer phase' relied allowed =>
    generalize hphase : phases writer = phase at allowed
    cases allowed with
    | rest =>
      rw [← hphase, Function.update_eq_self]
      exact ⟨last, h⟩
    | own known written =>
      refine ⟨_, h.record_of_write hapart known written, fun half hhalf => ?_,
        fun _ => ⟨writer, Function.update_self ..⟩⟩
      by_cases hwriter : half = writer
      · subst hwriter
        rw [Function.update_self]
        exact nofun
      · rw [Function.update_of_ne hwriter] at hhalf ⊢
        exact h.begun half hhalf
    | mirror known written =>
      refine ⟨_, h.record_of_write hapart known written, fun half hhalf => ?_, fun hown => ?_⟩
      · by_cases hother : half = !writer
        · subst hother
          rw [Function.update_self]
          exact nofun
        · -- the half of the writer, who is not at the beginning
          obtain rfl : half = writer := by simpa using hother
          rw [Function.update_of_ne hother]
          refine h.begun half ?_
          rw [hphase]
          exact nofun
      · have hcrossed := hown !writer
        rw [Function.update_self] at hcrossed
        exact absurd (Option.some.inj hcrossed).symm (Bool.not_ne_self writer)

theorem Overwritten.leads (h : Overwritten ids changes issues phases s last)
    (hapart : Function.Injective ids)
    (hmoves : Relation.ReflTransGen (editing users ids changes).Moves (phases, s) (phases', s')) :
    ∃ last', Overwritten ids changes issues phases' s' last' := by
  generalize hfirst : (phases, s) = first at hmoves
  generalize hfinal : (phases', s') = final at hmoves
  induction hmoves generalizing phases' s' with
  | refl =>
    cases hfirst.trans hfinal.symm
    exact ⟨last, h⟩
  | @tail middle _ _ hmove ih =>
    obtain ⟨last', h'⟩ := ih rfl
    exact h'.moves hapart (hfinal ▸ hmove)

end

/-! ## Both edits -/

namespace Pool

/-- Each of two users edits their own half of a todo. -/
def editBoth (users : Bool → UserId) (ids : Bool → IssueId) (changes : Bool → Edit) (half : Bool) : Action :=
  .edit (users half) (ids half) (changes half)

section

variable {s : Shared} {users : Bool → UserId} {ids : Bool → IssueId} {kind : ListKind}

theorem paired_of_linked (h : s.store.Consistent)
    (hlinked : s.view.Linked (users true) kind (ids true) ⟨users false, ids false⟩) :
    s.view.Paired users ids := by
  have hback := linked_back h hlinked
  intro half
  cases half with
  | true => exact ⟨kind, hlinked⟩
  | false => exact hback

theorem exists_records (h : s.store.Consistent) (hpaired : s.view.Paired users ids) :
    ∃ issues : Bool → Issue, ∀ half, s.store.record (ids half) = some (issues half) := by
  have hrecord : ∀ half, ∃ issue, s.store.record (ids half) = some issue := fun half => by
    obtain ⟨kind, entry, held, hid, -⟩ := hpaired half
    exact Option.ne_none_iff_exists'.1 (record_ne_none h ⟨_, kind, entry, held, hid⟩)
  exact Classical.skolem.1 hrecord

/-- The holders of a todo edit it at the same time, each their own half, whatever calls fail. When both edits
have returned, each record has the content of one of them: of the same one, or each of the edit that was made
to the other half. -/
theorem edited_of_leads {faulty : Prop} (h : s.store.Consistent)
    (hlinked : s.view.Linked (users true) kind (ids true) ⟨users false, ids false⟩) (limits : Bool → Limits)
    (changes : Bool → Edit) {pool : Pool Bool}
    (hleads : (start limits (editBoth users ids changes) s).Leads faulty pool)
    (hreturned : ∀ half, pool.clients half = pure ()) :
    ∃ writer : Bool → Bool,
      (∀ half, ∃ issue, s.store.record (ids half) = some issue ∧
        pool.shared.store.record (ids half) = some (issue.edited (changes (writer half)))) ∧
      (writer true = writer false ∨ ∀ half, writer half = !half) := by
  have hpaired := paired_of_linked h hlinked
  obtain ⟨issues, hissues⟩ := exists_records h hpaired
  have hheeds : (start limits (editBoth users ids changes) s).Heeds (editing users ids changes) faulty
      (fun _ phase => phase = .through) fun _ => .before := by
    refine ⟨⟨h.unique.orderly, hpaired, fun half => ?_⟩, fun half => obeyed_edit faulty (limits half) half⟩
    show s.store.record (ids half) ≠ none
    rw [hissues half]
    exact nofun
  have hbegun : Overwritten ids changes issues (fun _ => .before) s fun _ => none :=
    ⟨hissues, fun _ hbefore => absurd rfl hbefore, fun hown => nomatch hown true⟩
  have hapart : Function.Injective ids := Bool.injective_iff.2 (linked_ne h hlinked)
  obtain ⟨phases, hheeds', hmoves⟩ := hheeds.leads hleads
  obtain ⟨last, hlast⟩ := hbegun.leads hapart hmoves
  have hthrough : ∀ half, phases half = .through := fun half => hheeds'.returned (hreturned half)
  obtain ⟨writer, hwriter⟩ : ∃ writer : Bool → Bool, ∀ half, last half = some (writer half) := by
    refine Classical.skolem.1 fun half => Option.ne_none_iff_exists'.1 (hlast.begun half ?_)
    rw [hthrough half]
    exact nofun
  refine ⟨writer, fun half => ⟨issues half, hissues half, ?_⟩, ?_⟩
  · have hrecord := hlast.record half
    rw [hwriter half] at hrecord
    exact hrecord
  · cases htrue : writer true with
    | false =>
      cases hfalse : writer false with
      | false => exact .inl rfl
      | true => exact .inr fun half => by cases half <;> assumption
    | true =>
      cases hfalse : writer false with
      | true => exact .inl rfl
      | false =>
        have hown : ∀ half, last half = some half := fun half => by
          rw [hwriter half]
          cases half <;> simp only [htrue, hfalse]
        obtain ⟨half, hhalf⟩ := hlast.ahead hown
        exact nomatch hhalf.symm.trans (hthrough half)

/-- The one edit runs from beginning to end between the two writes of the other one. -/
theorem exists_crossed (h : s.store.Consistent)
    (hlinked : s.view.Linked (users true) kind (ids true) ⟨users false, ids false⟩) (limits : Bool → Limits)
    (changes : Bool → Edit) :
    ∃ pool, (start limits (editBoth users ids changes) s).Leads False pool ∧
      (∀ half, pool.clients half = pure ()) ∧
      ∀ half, ∃ issue, s.store.record (ids half) = some issue ∧
        pool.shared.store.record (ids half) = some (issue.edited (changes !half)) := by
  have hne : ids false ≠ ids true := linked_ne h hlinked
  have hlinked' := linked_back h hlinked
  obtain ⟨kind', hback⟩ : ∃ kind', s.view.Linked (users false) kind' (ids false) ⟨users true, ids true⟩ :=
    hlinked'
  obtain ⟨issues, hissues⟩ := exists_records h (paired_of_linked h hlinked)
  -- the first edit, as far as its own half
  obtain ⟨s₁, located, hown, hid, hlink, horderly₁, hview₁⟩ := @reaches_mirroring False s (users true)
    (limits true) h.unique.orderly _ _ _ hlinked _ (hissues true) (changes true)
  have hback₁ : s₁.view.Linked (users false) kind' (ids false) ⟨users true, ids true⟩ := by
    rw [hview₁]
    exact hback
  have hlinked₁ : s₁.view.Linked (users true) kind (ids true) ⟨users false, ids false⟩ := by
    rw [hview₁]
    exact hlinked
  have htrue₁ : s₁.view.record (ids true) = some ((issues true).edited (changes true)) := by
    rw [hview₁, View.record_withRecord, if_pos rfl]
  have hfalse₁ : s₁.view.record (ids false) = some (issues false) := by
    rw [hview₁, View.record_withRecord, if_neg hne]
    exact hissues false
  -- all of the second edit
  obtain ⟨s₂, _, hedit, horderly₂, hview₂⟩ := @reaches_edit False s₁ (users false) (limits false) horderly₁
    _ _ _ _ _ hback₁ hlinked₁ hne.symm _ _ hfalse₁ htrue₁ (changes false)
  have hback₂ : s₂.view.Linked (users false) kind' (ids false) ⟨users true, ids true⟩ := by
    rw [hview₂]
    exact hback₁
  have hfalse₂ : s₂.view.record (ids false) = some ((issues false).edited (changes false)) := by
    rw [hview₂, View.record_withRecord, if_neg hne, View.record_withRecord, if_pos rfl]
  -- the rest of the first one
  obtain ⟨s₃, hmirror, -, hview₃⟩ := @reaches_mirrored False s₂ (users true) (limits true)
    horderly₂ _ _ hid _ _ hlink _ hback₂ _ hfalse₂ (changes true) (issues true).message
  let begun := start limits (editBoth users ids changes) s
  let unmirrored : Operation Unit :=
    mirroring (limits true) (users true) located (changes true) (issues true).message >>= fun _ => pure ()
  let first : Pool Bool := ⟨Function.update begun.clients true unmirrored, s₁⟩
  let second : Pool Bool := ⟨Function.update first.clients false (pure ()), s₂⟩
  have hfirst : Reaches False (begun.clients true) begun.shared unmirrored s₁ := hown.carried
  have hsecond : Reaches False (first.clients false) first.shared (pure ()) s₂ := hedit.bind (.refl _ _)
  have hthird : Reaches False (second.clients true) second.shared (pure ()) s₃ := hmirror.bind (.refl _ _)
  refine ⟨_, ((leads_of_reaches hfirst).trans (leads_of_reaches hsecond)).trans (leads_of_reaches hthird),
    fun half => ?_, fun half => ⟨issues half, hissues half, ?_⟩⟩
  · cases half <;> rfl
  · show s₃.view.record (ids half) = _
    rw [hview₃, View.record_withRecord]
    cases half with
    | false =>
      rw [if_pos rfl]
      rfl
    | true =>
      rw [if_neg hne.symm, hview₂, View.record_withRecord, if_pos rfl]
      rfl

end

/-- A todo that has been sent is edited by both of its holders. -/
theorem exists_sent_and_crossed (limits : Limits) {user receiver : UserId} (hother : user ≠ receiver)
    (draft : Draft) {sent received : IssueId} (hne : received ≠ sent) (changes : Bool → Edit) :
    ∃ s pool, s.store.Consistent ∧ s.view.Linked user .out sent ⟨receiver, received⟩ ∧
      (start (fun _ => limits) (editBoth (cond · user receiver) (cond · sent received) changes) s).Leads
        False pool ∧
      (∀ half, pool.clients half = pure ()) ∧
      ∀ half, ∃ issue, s.store.record (cond half sent received) = some issue ∧
        pool.shared.store.record (cond half sent received) = some (issue.edited (changes !half)) := by
  obtain ⟨s, hperformed, hlinked, -⟩ := exists_sent limits hother draft hne
  have hconsistent := hperformed.settled.consistent
  obtain ⟨pool, hleads, hreturned, hrecords⟩ := @exists_crossed s (cond · user receiver)
    (cond · sent received) .out hconsistent hlinked (fun _ => limits) changes
  exact ⟨s, pool, hconsistent, hlinked, hleads, hreturned, hrecords⟩

theorem crossed_edited :
    ∃ (s : Shared) (pool : Pool Bool),
      s.view.Linked ⟨"amy"⟩ .out ⟨1⟩ ⟨⟨"ben"⟩, ⟨2⟩⟩ ∧
      (start (fun _ => ⟨5, 5⟩) (editBoth (cond · ⟨"amy"⟩ ⟨"ben"⟩) (cond · ⟨1⟩ ⟨2⟩)
        (cond · ⟨"bread", none⟩ ⟨"cream", none⟩)) s).Leads False pool ∧
      ∃ writer : Bool → Bool,
        (∀ half, ∃ issue, s.store.record (cond half ⟨1⟩ ⟨2⟩) = some issue ∧
          pool.shared.store.record (cond half ⟨1⟩ ⟨2⟩) =
            some (issue.edited (cond (writer half) ⟨"bread", none⟩ ⟨"cream", none⟩))) ∧
        (writer true = writer false ∨ ∀ half, writer half = !half) := by
  obtain ⟨s, pool, hconsistent, hlinked, hleads, hreturned, -⟩ := @exists_sent_and_crossed ⟨5, 5⟩ ⟨"amy"⟩
    ⟨"ben"⟩ (by decide) ⟨"milk", none, none⟩ ⟨1⟩ ⟨2⟩ (by decide) (cond · ⟨"bread", none⟩ ⟨"cream", none⟩)
  have hedited := @edited_of_leads s (cond · ⟨"amy"⟩ ⟨"ben"⟩) (cond · ⟨1⟩ ⟨2⟩) .out False hconsistent hlinked
    (fun _ => ⟨5, 5⟩) (cond · ⟨"bread", none⟩ ⟨"cream", none⟩) pool hleads hreturned
  exact ⟨s, pool, hlinked, hleads, hedited⟩

/-- Both edits have succeeded, and the two halves of the todo differ. -/
theorem edits_cross :
    ∃ (s : Shared) (pool : Pool Bool), s.store.Consistent ∧
      s.view.Linked ⟨"amy"⟩ .out ⟨1⟩ ⟨⟨"ben"⟩, ⟨2⟩⟩ ∧
      (start (fun _ => ⟨5, 5⟩) (editBoth (cond · ⟨"amy"⟩ ⟨"ben"⟩) (cond · ⟨1⟩ ⟨2⟩)
        (cond · ⟨"bread", none⟩ ⟨"cream", none⟩)) s).Leads False pool ∧
      (∀ half, pool.clients half = pure ()) ∧
      ∃ sent received, pool.shared.store.record ⟨1⟩ = some sent ∧
        pool.shared.store.record ⟨2⟩ = some received ∧
        sent.message = "cream" ∧ received.message = "bread" := by
  obtain ⟨s, pool, hconsistent, hlinked, hleads, hreturned, hrecords⟩ := @exists_sent_and_crossed ⟨5, 5⟩
    ⟨"amy"⟩ ⟨"ben"⟩ (by decide) ⟨"milk", none, none⟩ ⟨1⟩ ⟨2⟩ (by decide)
    (cond · ⟨"bread", none⟩ ⟨"cream", none⟩)
  obtain ⟨sent, -, hsent⟩ := hrecords true
  obtain ⟨received, -, hreceived⟩ := hrecords false
  exact ⟨s, pool, hconsistent, hlinked, hleads, hreturned, _, _, hsent, hreceived, rfl, rfl⟩

end Pool

end SharedTodo.Exchange
