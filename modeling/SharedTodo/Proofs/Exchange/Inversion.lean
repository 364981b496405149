import SharedTodo.Proofs.Exchange.Ownership

/-!
# What an act can do to links and debts

For every part of a view and of a task that links depend on, it is said once what an act can make of it, and
what it can have come from. Where an entry goes, or comes in the place of another one, identifiers have to be
in order for that (`Placed`).
-/

namespace SharedTodo.Exchange

/-- The client is to list the issue, or to delete its record. -/
def Task.Owes (task : Task) (id : IssueId) : Prop :=
  (∃ issue ∈ task.ready, issue.id = id) ∨ (∃ own link, task.offer = some (own, link) ∧ link.issue = id) ∨
    task.taken = some id ∨ task.orphan = some id

/-- The client has a record for an issue that is still to be listed. -/
def Task.HasReady (task : Task) (id : IssueId) : Prop :=
  ∃ issue ∈ task.ready, issue.id = id

section

variable {view view' : View} {other user : UserId} {gone : Option Entry}
  {come : Option (ListKind × Entry)} {kind : ListKind} {id : IssueId} {link : Link} {entry : Entry}

theorem View.linked_revise (h : (view.revise other gone come).Linked user kind id link) :
    view.Linked user kind id link ∨
      (user = other ∧ ∃ new, come = some (kind, new) ∧ new.id = id ∧ new.link = some link) := by
  obtain ⟨entry, ⟨he, -⟩ | ⟨rfl, he⟩, hid, hlink⟩ := h
  · exact .inl ⟨entry, he, hid, hlink⟩
  · exact .inr ⟨rfl, entry, he, hid, hlink⟩

theorem View.linked_of_come {new : Entry} (hid : new.id = id) (hlink : new.link = some link) :
    (view.revise user gone (some (kind, new))).Linked user kind id link :=
  ⟨new, .inr ⟨rfl, rfl⟩, hid, hlink⟩

theorem View.listed_of_come {new : Entry} (hid : new.id = id) :
    (view.revise other gone (some (kind, new))).Listed id :=
  ⟨other, kind, new, .inr ⟨rfl, rfl⟩, hid⟩

theorem View.Linked.listed (h : view.Linked user kind id link) : view.Listed id :=
  have ⟨entry, he, hid, _⟩ := h
  ⟨user, kind, entry, he, hid⟩

end

section

variable {ι : Type} {stage : IssueId → Stage ι} {view view' : View} {task task' : Task}
  {user other : UserId} {kind : ListKind} {own id : IssueId} {link : Link} {entry : Entry}

/-! ## Entries and links -/

/-- A link after an act was there before, or is that of a published half, or of a delivered one. -/
theorem Act.linked (hact : Act user task view task' view') (h : view'.Linked other kind id link) :
    (∃ kind', view.Linked other kind' id link ∧ (kind' = .out ↔ kind = .out)) ∨
      (other = user ∧ kind = .out ∧ task'.offer = some (id, link) ∧ link.user ≠ user ∧
        task.HasReady link.issue ∧ task.Free) ∨
      (link.user = user ∧ kind ≠ .out ∧ task.offer = some (link.issue, ⟨other, id⟩) ∧
        task.loose = none) := by
  cases hact with
  | rest | learn | draw | create | lose | leave | drop | finish | discard | skip | amend =>
    exact .inl ⟨kind, h, Iff.rfl⟩
  | list | take | keep | sever =>
    rcases View.linked_revise h with h | ⟨-, new, hcome, -, hlink⟩
    · exact .inl ⟨kind, h, Iff.rfl⟩
    · cases hcome
      all_goals exact nomatch hlink
  | publish sent received receiver ready ready' same apart hother free =>
    rcases View.linked_revise h with h | ⟨rfl, new, hcome, rfl, hlink⟩
    · exact .inl ⟨kind, h, Iff.rfl⟩
    · cases hcome
      cases hlink
      exact .inr (.inl ⟨rfl, rfl, rfl, hother, ⟨received, ready', rfl⟩, free⟩)
  | handOver kind' entry copy owner held free ready same hother =>
    rcases View.linked_revise h with h | ⟨rfl, new, hcome, rfl, hlink⟩
    · exact .inl ⟨kind, h, Iff.rfl⟩
    · cases hcome
      cases hlink
      exact .inr (.inl ⟨rfl, rfl, rfl, hother, ⟨copy, ready, rfl⟩, free⟩)
  | deliver own link' offered tied =>
    rcases View.linked_revise h with h | ⟨rfl, new, hcome, rfl, hlink⟩
    · exact .inl ⟨kind, h, Iff.rfl⟩
    · cases hcome
      cases hlink
      exact .inr (.inr ⟨rfl, nofun, offered, tied⟩)
  | move entry held =>
    rcases View.linked_revise h with h | ⟨rfl, new, hcome, hid, hlink⟩
    · exact .inl ⟨kind, h, Iff.rfl⟩
    · cases hcome
      exact .inl ⟨.inbox, ⟨entry, held, hid, hlink⟩, by simp⟩

/-- A link is still there after an act, unless its holder gives it up or its counterpart's client severs it.
-/
theorem Act.linked_before (hact : Act user task view task' view') (hplaced : Placed stage view)
    (h : view.Linked other kind id link) :
    (∃ kind', view'.Linked other kind' id link ∧ (kind' = .out ↔ kind = .out)) ∨
      (other = user ∧ task.Free ∧ task'.loose = some (id, link)) ∨
      (link.user = user ∧ task.loose = some (link.issue, ⟨other, id⟩)) := by
  obtain ⟨old, he, hid, hlink⟩ := h
  cases hact with
  | rest | learn | draw | create | lose | leave | drop | finish | discard | skip | amend =>
    exact .inl ⟨kind, ⟨old, he, hid, hlink⟩, Iff.rfl⟩
  | list | publish | deliver => exact .inl ⟨kind, ⟨old, .inl ⟨he, nofun⟩, hid, hlink⟩, Iff.rfl⟩
  | take kind' entry held free | keep kind' entry held free | handOver kind' entry copy owner held free =>
    by_cases hgone : other = user ∧ some entry = some old
    · obtain ⟨rfl, hsame⟩ := hgone
      cases hsame
      exact .inr (.inl ⟨rfl, free, Entry.tie_eq_some.2 ⟨hid, hlink⟩⟩)
    · exact .inl ⟨kind, ⟨old, .inl ⟨he, hgone⟩, hid, hlink⟩, Iff.rfl⟩
  | move entry held =>
    by_cases hgone : other = user ∧ some entry = some old
    · obtain ⟨rfl, hsame⟩ := hgone
      cases hsame
      obtain ⟨rfl, -⟩ := hplaced.unique _ _ _ _ _ held he rfl
      exact .inl ⟨.my, View.linked_of_come hid hlink, by simp⟩
    · exact .inl ⟨kind, ⟨old, .inl ⟨he, hgone⟩, hid, hlink⟩, Iff.rfl⟩
  | sever own link' kind' entry tied paid held same back =>
    by_cases hgone : other = link'.user ∧ some entry = some old
    · obtain ⟨rfl, hsame⟩ := hgone
      cases hsame
      cases back.symm.trans hlink
      rw [← hid, same]
      exact .inr (.inr ⟨rfl, tied⟩)
    · exact .inl ⟨kind, ⟨old, .inl ⟨he, hgone⟩, hid, hlink⟩, Iff.rfl⟩

/-- An entry after an act was there before, or its issue was still to be listed, or it was reassigned. -/
theorem Act.holds (hact : Act user task view task' view') (h : view'.holds other kind entry) :
    (∃ kind', view.holds other kind' entry) ∨ task.HasReady entry.id ∨
      (∃ own, task.offer = some (own, ⟨other, entry.id⟩)) ∨ (other = user ∧ task'.spent = true) := by
  cases hact with
  | rest | learn | draw | create | lose | leave | drop | finish | discard | skip | amend =>
    exact .inl ⟨kind, h⟩
  | take | sever =>
    rcases h with ⟨h, -⟩ | ⟨-, hcome⟩
    · exact .inl ⟨kind, h⟩
    · exact nomatch hcome
  | list issue ready =>
    rcases h with ⟨h, -⟩ | ⟨-, hcome⟩
    · exact .inl ⟨kind, h⟩
    · cases hcome
      exact .inr (.inl ⟨issue, ready, rfl⟩)
  | publish sent received receiver ready =>
    rcases h with ⟨h, -⟩ | ⟨-, hcome⟩
    · exact .inl ⟨kind, h⟩
    · cases hcome
      exact .inr (.inl ⟨sent, ready, rfl⟩)
  | deliver own link offered =>
    rcases h with ⟨h, -⟩ | ⟨rfl, hcome⟩
    · exact .inl ⟨kind, h⟩
    · cases hcome
      exact .inr (.inr (.inl ⟨own, offered⟩))
  | keep | handOver =>
    rcases h with ⟨h, -⟩ | ⟨rfl, hcome⟩
    · exact .inl ⟨kind, h⟩
    · exact .inr (.inr (.inr ⟨rfl, rfl⟩))
  | move entry' held =>
    rcases h with ⟨h, -⟩ | ⟨rfl, hcome⟩
    · exact .inl ⟨kind, h⟩
    · cases hcome
      exact .inl ⟨.inbox, held⟩

/-- An entry without a link after an act was there before, or is in the own list. -/
theorem Act.unlinked (hact : Act user task view task' view') (h : view'.holds other kind entry)
    (hlink : entry.link = none) : view.holds other kind entry ∨ kind = .my := by
  cases hact with
  | rest | learn | draw | create | lose | leave | drop | finish | discard | skip | amend => exact .inl h
  | take | sever =>
    rcases h with ⟨h, -⟩ | ⟨-, hcome⟩
    · exact .inl h
    · exact nomatch hcome
  | list | keep | move =>
    rcases h with ⟨h, -⟩ | ⟨-, hcome⟩
    · exact .inl h
    · cases hcome
      exact .inr rfl
  | publish | deliver | handOver =>
    rcases h with ⟨h, -⟩ | ⟨-, hcome⟩
    · exact .inl h
    · cases hcome
      exact nomatch hlink

/-- What was listed is so after an act, or its record is to be deleted. -/
theorem Act.listed_before (hact : Act user task view task' view') (h : view.Listed id) :
    view'.Listed id ∨ task'.taken = some id ∨ task'.orphan = some id := by
  obtain ⟨other, kind, old, he, hid⟩ := h
  cases hact with
  | rest | learn | draw | create | lose | leave | drop | finish | discard | skip | amend =>
    exact .inl ⟨other, kind, old, he, hid⟩
  | list | publish | deliver => exact .inl ⟨other, kind, old, .inl ⟨he, nofun⟩, hid⟩
  | keep _ entry | handOver _ entry | move entry =>
    by_cases hgone : other = user ∧ some entry = some old
    · cases hgone.2
      exact .inl (View.listed_of_come hid)
    · exact .inl ⟨other, kind, old, .inl ⟨he, hgone⟩, hid⟩
  | take _ entry =>
    by_cases hgone : other = user ∧ some entry = some old
    · cases hgone.2
      exact .inr (.inl (congrArg some hid))
    · exact .inl ⟨other, kind, old, .inl ⟨he, hgone⟩, hid⟩
  | sever own link _ entry tied paid held same back =>
    by_cases hgone : other = link.user ∧ some entry = some old
    · cases hgone.2
      exact .inr (.inr (congrArg some (same.symm.trans hid)))
    · exact .inl ⟨other, kind, old, .inl ⟨he, hgone⟩, hid⟩

/-! ## Debts -/

theorem Act.spent (hact : Act user task view task' view') (h : task.spent = true) : task'.spent = true := by
  cases hact with
  | keep | handOver => rfl
  | _ => exact h

/-- An offer after an act was there before, or its own half is published. -/
theorem Act.offer (hact : Act user task view task' view') (h : task'.offer = some (own, link)) :
    task.offer = some (own, link) ∨ (view'.Linked user .out own link ∧ link.user ≠ user) := by
  cases hact with
  | publish sent received receiver ready ready' same apart hother =>
    cases h
    exact .inr ⟨View.linked_of_come rfl rfl, hother⟩
  | handOver kind entry copy owner held free ready same hother =>
    cases h
    exact .inr ⟨View.linked_of_come rfl rfl, hother⟩
  | deliver => exact nomatch h
  | _ => exact .inl h

/-- An offer is still there after an act, or its other half is delivered. -/
theorem Act.offer_before (hact : Act user task view task' view') (h : task.offer = some (own, link)) :
    task'.offer = some (own, link) ∨
      (view'.Linked link.user .inbox link.issue ⟨user, own⟩ ∧ task.loose = none) := by
  cases hact with
  | publish _ _ _ _ _ _ _ _ free => exact nomatch free.offer.symm.trans h
  | handOver _ _ _ _ _ free => exact nomatch free.offer.symm.trans h
  | deliver own' link' offered tied =>
    cases offered.symm.trans h
    exact .inr ⟨View.linked_of_come rfl rfl, tied⟩
  | _ => exact .inl h

/-- What a client is bound to dissolve after an act was so before, or is the link of an entry that it gave up;
that entry is listed no more, or reassigned. -/
theorem Act.loose (hact : Act user task view task' view') (hplaced : Placed stage view)
    (h : task'.loose = some (own, link)) :
    task.loose = some (own, link) ∨
      (task.Free ∧ (∃ kind, view.Linked user kind own link) ∧
        (view'.Listed own → task'.spent = true) ∧
        ∀ kind link', view'.Linked user kind own link' → task'.offer = some (own, link')) := by
  have hgone : ∀ {kind entry come}, view.holds user kind entry → entry.id = own → ∀ {kind' link'},
      (view.revise user (some entry) come).Linked user kind' own link' →
        ∃ new, come = some (kind', new) ∧ new.link = some link' := by
    intro kind entry come held hid kind' link' hl
    obtain ⟨e, ⟨he, hne⟩ | ⟨-, he⟩, hid', hlink⟩ := hl
    · have hsame := (hplaced.unique user kind kind' entry e held he (hid.trans hid'.symm)).2
      exact absurd ⟨rfl, congrArg some hsame⟩ hne
    · exact ⟨e, he, hlink⟩
  cases hact with
  | take kind entry held free =>
    obtain ⟨rfl, hlink⟩ := Entry.tie_eq_some.1 h
    refine .inr ⟨free, ⟨kind, entry, held, rfl, hlink⟩, fun hl => ?_, fun kind' link' hl => ?_⟩
    · exact absurd hl (hplaced.not_listed_of_gone held)
    · obtain ⟨new, hcome, -⟩ := hgone held rfl hl
      exact nomatch hcome
  | keep kind entry held free =>
    obtain ⟨rfl, hlink⟩ := Entry.tie_eq_some.1 h
    refine .inr ⟨free, ⟨kind, entry, held, rfl, hlink⟩, fun _ => rfl, fun kind' link' hl => ?_⟩
    obtain ⟨new, hcome, hnew⟩ := hgone held rfl hl
    cases hcome
    exact nomatch hnew
  | handOver kind entry copy owner held free =>
    obtain ⟨rfl, hlink⟩ := Entry.tie_eq_some.1 h
    refine .inr ⟨free, ⟨kind, entry, held, rfl, hlink⟩, fun _ => rfl, fun kind' link' hl => ?_⟩
    obtain ⟨new, hcome, hnew⟩ := hgone held rfl hl
    cases hcome
    cases hnew
    rfl
  | sever | lose | leave | skip => exact nomatch h
  | _ => exact .inl h

/-- What a client is bound to dissolve is so after an act, or there is no link back, or no record that one
could lead to. -/
theorem Act.loose_before (hact : Act user task view task' view') (hplaced : Placed stage view)
    (h : task.loose = some (own, link)) :
    task'.loose = some (own, link) ∨ view.record own = none ∨
      ∀ kind, ¬ view'.Linked link.user kind link.issue ⟨user, own⟩ := by
  cases hact with
  | take _ _ _ free => exact nomatch free.loose.symm.trans h
  | keep _ _ _ free => exact nomatch free.loose.symm.trans h
  | handOver _ _ _ _ _ free => exact nomatch free.loose.symm.trans h
  | sever own' link' kind entry tied paid held same back =>
    cases tied.symm.trans h
    refine .inr (.inr fun kind' hl => hplaced.not_listed_of_gone held ?_)
    rw [same]
    exact hl.listed
  | lose own' link' tied paid missing =>
    cases tied.symm.trans h
    exact .inr (.inr fun kind ⟨entry, he, hid, _⟩ => missing kind entry he hid)
  | leave own' link' kind entry tied held same elsewhere =>
    cases tied.symm.trans h
    refine .inr (.inr fun kind' ⟨e, he, hid, hlink⟩ => elsewhere ?_)
    rw [(hplaced.unique _ kind kind' entry e held he (same.trans hid.symm)).2]
    exact hlink
  | skip id owed missing tied =>
    rw [tied own link h]
    exact .inr (.inl missing)
  | _ => exact .inl h

/-- An issue taken out was so before, or its entry has been given up with its link. -/
theorem Act.taken (hact : Act user task view task' view') (hplaced : Placed stage view)
    (h : task'.taken = some id) :
    task.taken = some id ∨ (task.Free ∧ view.Listed id ∧
      ∀ kind link, view.Linked user kind id link → task'.loose = some (id, link)) := by
  cases hact with
  | take kind entry held free =>
    cases h
    refine .inr ⟨free, ⟨user, kind, entry, held, rfl⟩, fun kind' link hl => ?_⟩
    obtain ⟨e, he, hid, hlink⟩ := hl
    obtain ⟨-, rfl⟩ := hplaced.unique user kind kind' entry e held he hid.symm
    exact Entry.tie_eq_some.2 ⟨rfl, hlink⟩
  | finish | skip => exact nomatch h
  | _ => exact .inl h

/-- A counterpart whose record is to go was so before, or it was linked with nothing else than the entry that
was given up. -/
theorem Act.orphan (hact : Act user task view task' view') (hplaced : Placed stage view)
    (h : task'.orphan = some id) :
    task.orphan = some id ∨ ∃ own link, task.loose = some (own, link) ∧ link.issue = id ∧
      ∀ kind link', view.Linked link.user kind id link' → link' = ⟨user, own⟩ := by
  cases hact with
  | sever own link kind entry tied paid held same back =>
    cases h
    refine .inr ⟨own, link, tied, rfl, fun kind' link' hl => ?_⟩
    obtain ⟨e, he, hid, hlink⟩ := hl
    obtain ⟨-, rfl⟩ := hplaced.unique _ kind kind' entry e held he (same.trans hid.symm)
    exact Option.some.inj (hlink.symm.trans back)
  | lose own link tied paid missing =>
    cases h
    exact .inr ⟨own, link, tied, rfl, fun kind link' ⟨e, he, hid, _⟩ => absurd hid (missing kind e he)⟩
  | drop => exact nomatch h
  | _ => exact .inl h

/-! ## Records -/

/-- A record after an act was there before, or is one that is still to be listed. -/
theorem Act.record (hact : Act user task view task' view') (h : view'.record id ≠ none) :
    view.record id ≠ none ∨ task'.Owes id := by
  cases hact with
  | create issue drawn =>
    rcases View.record_written_ne_none.1 h with hid | h
    · exact .inr (.inl ⟨issue, List.mem_cons_self, hid.symm⟩)
    · exact .inl h
  | drop | finish | discard => exact .inl (View.record_erased_ne_none.1 h).2
  | amend issue edited edits known =>
    rcases View.record_written_ne_none.1 h with hid | h
    · exact .inl (by rw [hid, known]; exact Option.some_ne_none issue)
    · exact .inl h
  | _ => exact .inl h

/-- A record is still there after an act, or it was that of an orphan, of an issue given up, or of an issue
that was still to be listed. -/
theorem Act.record_before (hact : Act user task view task' view') (h : view.record id ≠ none) :
    view'.record id ≠ none ∨ task.orphan = some id ∨ (task.taken = some id ∧ task.loose = none) ∨
      (task.HasReady id ∧ task'.offer = task.offer) := by
  have herased : ∀ {gone}, (view.withRecord gone none).record id ≠ none ∨ id = gone := by
    intro gone
    by_cases hid : id = gone
    · exact .inr hid
    · exact .inl (View.record_erased_ne_none.2 ⟨hid, h⟩)
  cases hact with
  | create issue drawn | amend issue edited edits known =>
    exact .inl (View.record_written_ne_none.2 (.inr h))
  | drop gone owed => exact herased.imp_right fun hid => .inl (by rw [hid, owed])
  | finish gone owed tied => exact herased.imp_right fun hid => .inr (.inl ⟨by rw [hid, owed], tied⟩)
  | discard issue ready =>
    exact herased.imp_right fun hid => .inr (.inr ⟨⟨issue, ready, hid.symm⟩, rfl⟩)
  | _ => exact .inl h

/-- Of what a client is to list or to delete, nothing is forgotten while it has a record. -/
theorem Act.owes (hact : Act user task view task' view') (h : task.Owes id)
    (hrecord : view'.record id ≠ none) : view'.Listed id ∨ task'.Owes id := by
  rcases h with ⟨issue, hissue, hid⟩ | ⟨own, link, hoffer, hid⟩ | htaken | horphan
  · have hkept : ∀ {gone}, id ≠ gone → ∃ x ∈ without gone task.ready, x.id = id := by
      intro gone hne
      exact ⟨issue, mem_without.2 ⟨hissue, by rw [hid]; exact hne⟩, hid⟩
    cases hact with
    | create => exact .inr (.inl ⟨issue, List.mem_cons_of_mem _ hissue, hid⟩)
    | list listed ready =>
      by_cases hne : id = listed.id
      · exact .inl (View.listed_of_come hne.symm)
      · exact .inr (.inl (hkept hne))
    | publish sent received receiver ready =>
      by_cases hne : id = sent.id
      · exact .inl (View.listed_of_come hne.symm)
      · by_cases hne' : id = received.id
        · exact .inr (.inr (.inl ⟨_, _, rfl, hne'.symm⟩))
        · obtain ⟨x, hx, hxid⟩ := hkept hne
          exact .inr (.inl ⟨x, mem_without.2 ⟨hx, by rw [hxid]; exact hne'⟩, hxid⟩)
    | handOver kind entry copy =>
      by_cases hne : id = copy.id
      · exact .inr (.inr (.inl ⟨_, _, rfl, hne.symm⟩))
      · exact .inr (.inl (hkept hne))
    | discard other ready => exact .inr (.inl (hkept (View.record_erased_ne_none.1 hrecord).1))
    | _ => exact .inr (.inl ⟨issue, hissue, hid⟩)
  · rcases hact.offer_before hoffer with hsame | ⟨hlinked, -⟩
    · exact .inr (.inr (.inl ⟨own, link, hsame, hid⟩))
    · exact .inl (hid ▸ hlinked.listed)
  · cases hact with
    | take _ _ _ free => exact nomatch free.taken.symm.trans htaken
    | finish other owed =>
      cases owed.symm.trans htaken
      exact absurd rfl (View.record_erased_ne_none.1 hrecord).1
    | skip other owed missing =>
      cases owed.symm.trans htaken
      exact absurd missing hrecord
    | _ => exact .inr (.inr (.inr (.inl htaken)))
  · cases hact with
    | drop other owed =>
      cases owed.symm.trans horphan
      exact absurd rfl (View.record_erased_ne_none.1 hrecord).1
    | sever _ _ _ _ _ paid => exact nomatch paid.symm.trans horphan
    | lose _ _ _ paid => exact nomatch paid.symm.trans horphan
    | _ => exact .inr (.inr (.inr (.inr horphan)))

end

end SharedTodo.Exchange
