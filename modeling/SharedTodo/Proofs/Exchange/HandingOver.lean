import SharedTodo.Proofs.Exchange.Content
import SharedTodo.Proofs.Exchange.Reassigned
import SharedTodo.Proofs.Exchange.SentTodo
import SharedTodo.Proofs.Lists.Order

/-!
# What a reassignment writes

A reassignment takes the entry of an issue and its counterpart from all lists, and puts a new entry of the
issue at the end of a list of its holder's. A new owner gets a copy, at the end of the received todos. All
other entries stay in their lists and in their order (`Relists`), also when the new owner was the counterpart
user before, or the holder keeps the todo.

Whether the store is consistent again is decided by what has come: the new entries have to fit to each other
(`Fits`), since those that have stayed do so without the two that have gone.
-/

namespace SharedTodo

/-- An entry that comes to the end of a list. -/
structure Arrival where
  user : UserId
  kind : ListKind
  entry : Entry

/-- Whether an entry is neither the one that is given up nor its counterpart. -/
def Entry.stays (old entry : Entry) : Bool :=
  entry.id ≠ old.id && old.link.map Link.issue ≠ some entry.id

theorem Entry.stays_iff {old entry : Entry} :
    old.stays entry = true ↔ entry.id ≠ old.id ∧ ∀ link, old.link = some link → entry.id ≠ link.issue := by
  rw [stays, Bool.and_eq_true, decide_eq_true_iff, decide_eq_true_iff]
  refine and_congr Iff.rfl ?_
  cases old.link with
  | none => simp
  | some link => simp [eq_comm]

/-- A new entry comes last. -/
theorem UserLists.list_pushed_of_new {lists : UserLists} {entry : Entry}
    (hnew : ∀ kind, ∀ e ∈ lists.list kind, e.id ≠ entry.id) (kind other : ListKind) :
    (lists.pushed kind entry).list other = lists.list other ++ if kind = other then [entry] else [] := by
  have hpushed : lists.pushed kind entry = lists.withList kind (lists.list kind ++ [entry]) := by
    rw [pushed, push, find_eq_none_iff.2 hnew, Option.getD_some]
  rw [hpushed]
  split
  · next hkind => rw [← hkind, list_withList_self]
  · next hkind => rw [list_withList_of_ne _ _ (Ne.symm hkind), List.append_nil]

/-- An erasure takes away what a filter does if all entries that it leaves pass, and those of the issue do not. -/
theorem UserLists.list_erase_eq_filter {lists : UserLists} {kind other : ListKind} {id : IssueId}
    {picks : Entry → Bool} (hleft : ∀ e ∈ (lists.erase kind id).list other, picks e = true)
    (herased : ∀ e : Entry, e.id = id → picks e = false) :
    (lists.erase kind id).list other = (lists.list other).filter picks := by
  rw [← List.filter_eq_self.2 hleft]
  exact filter_erase lists kind herased other

namespace Store

variable {store before after : Store} {user newOwner : UserId} {kind : ListKind} {entry : Entry}
  {arrivals : List Arrival} {created : Option Issue}

/-- The entries that come to a list. -/
def arrived (arrivals : List Arrival) (user : UserId) (kind : ListKind) : List Entry :=
  (arrivals.filter fun arrival => arrival.user = user ∧ arrival.kind = kind).map Arrival.entry

theorem arrived_singleton (a : Arrival) (user : UserId) (kind : ListKind) :
    arrived [a] user kind = if a.user = user ∧ a.kind = kind then [a.entry] else [] := by
  rw [arrived, List.filter_cons, List.filter_nil]
  split
  · next h => rw [if_pos (of_decide_eq_true h), List.map_singleton]
  · next h => rw [if_neg fun hboth => h (decide_eq_true hboth), List.map_nil]

theorem arrived_cons (a : Arrival) (rest : List Arrival) (user : UserId) (kind : ListKind) :
    arrived (a :: rest) user kind = arrived [a] user kind ++ arrived rest user kind := by
  rw [arrived, arrived, arrived, ← List.map_append, ← List.filter_append, List.singleton_append]

theorem mem_arrived {e : Entry} :
    e ∈ arrived arrivals user kind ↔ ∃ a ∈ arrivals, a.user = user ∧ a.kind = kind ∧ a.entry = e := by
  simp [arrived, and_assoc]

/-- An entry and its counterpart have gone from all lists, and others have come. The record of the counterpart
has gone as well, and one may have been created. -/
structure Relists (before : Store) (user newOwner : UserId) (entry : Entry) (arrivals : List Arrival)
    (created : Option Issue) (after : Store) : Prop where
  lists : ∀ other kind, (after.lists other).list kind =
    ((before.lists other).list kind).filter entry.stays ++ arrived arrivals other kind
  gone : ∀ link, entry.link = some link → after.find? (Issue.key link.issue) = none
  copied : ∀ issue ∈ created, after.find? (Issue.key issue.id) = some (Issue.codec.encode issue)
  records : ∀ id, (∀ link, entry.link = some link → id ≠ link.issue) → (∀ issue ∈ created, id ≠ issue.id) →
    after.find? (Issue.key id) = before.find? (Issue.key id)
  rest : ∀ key, (∀ id, key ≠ Issue.key id) → key ≠ UserLists.key user → key ≠ UserLists.key newOwner →
    (∀ link, entry.link = some link → key ≠ UserLists.key link.user) → after.find? key = before.find? key

theorem Relists.record_created {copy : Issue} (h : Relists before user newOwner entry arrivals (some copy) after) :
    after.record copy.id = some copy := by
  rw [record, h.copied copy rfl, Option.bind_some, Issue.decode_encode]
  rfl

/-! ## Consistency -/

/-- The new entries are one of the issue that has been given up, and one of the created issue if there is one,
and they are linked with each other. -/
structure Fits (entry : Entry) (arrivals : List Arrival) (created : Option Issue) : Prop where
  origin : ∀ a ∈ arrivals, a.entry.id = entry.id ∨ ∃ issue ∈ created, a.entry.id = issue.id
  again : ∃ a ∈ arrivals, a.entry.id = entry.id
  listed : ∀ issue ∈ created, ∃ a ∈ arrivals, a.entry.id = issue.id
  apart : ∀ a ∈ arrivals, ∀ b ∈ arrivals, a.entry.id = b.entry.id → a.user = b.user
  other : ∀ a ∈ arrivals, ∀ link, a.entry.link = some link → link.user ≠ a.user
  paired : ∀ a ∈ arrivals, ∀ link, a.entry.link = some link → ∃ b ∈ arrivals, b.user = link.user ∧
    b.entry.id = link.issue ∧ b.entry.link = some ⟨a.user, a.entry.id⟩ ∧ (a.kind = .out ↔ b.kind ≠ .out)
  unlinked : ∀ a ∈ arrivals, a.entry.link = none → a.kind = .my

theorem Relists.mem (h : Relists before user newOwner entry arrivals created after) {other : UserId}
    {kind : ListKind} {e : Entry} :
    e ∈ (after.lists other).list kind ↔ (e ∈ (before.lists other).list kind ∧ entry.stays e = true) ∨
      ∃ a ∈ arrivals, a.user = other ∧ a.kind = kind ∧ a.entry = e := by
  rw [h.lists, List.mem_append, List.mem_filter, mem_arrived]

section

variable (hconsistent : before.Consistent) (held : entry ∈ (before.lists user).list kind)

include hconsistent held

theorem Consistent.entry_eq {other : UserId} {kind' : ListKind} {e : Entry}
    (he : e ∈ (before.lists other).list kind') (hid : e.id = entry.id) : other = user ∧ e = entry := by
  obtain rfl := hconsistent.unique.apart other user kind' kind e entry he held hid
  exact ⟨rfl, ((hconsistent.unique.orderly.distinct other).eq he held hid).2⟩

/-- Whatever stays is linked with what stays. -/
theorem Consistent.stays_pair {other other' : UserId} {kind' : ListKind} {e e' : Entry}
    (hstays : entry.stays e = true) (he' : e' ∈ (before.lists other').list kind')
    (hback : e'.link = some ⟨other, e.id⟩) : entry.stays e' = true := by
  obtain ⟨hne, hunlinked⟩ := Entry.stays_iff.1 hstays
  refine Entry.stays_iff.2 ⟨fun hid => ?_, fun link hentry hid => ?_⟩
  · obtain ⟨-, rfl⟩ := hconsistent.entry_eq held he' hid
    exact hunlinked _ hback rfl
  · obtain ⟨half, hhalf⟩ := hconsistent.exists_counterpart held hentry
    obtain ⟨-, rfl⟩ := hconsistent.entry_eq hhalf.held he' (hid.trans hhalf.same.symm)
    have hsame : half.entry.link = some ⟨user, entry.id⟩ := by simpa [Entry.linksTo] using hhalf.back
    rw [hback] at hsame
    exact hne (congrArg Link.issue (Option.some.inj hsame))

/-- An issue and its counterpart are two. -/
theorem Consistent.link_ne {link : Link} (hlink : entry.link = some link) : link.issue ≠ entry.id := by
  intro hid
  obtain ⟨half, hhalf⟩ := hconsistent.exists_counterpart held hlink
  exact hhalf.other (hconsistent.entry_eq held hhalf.held (hhalf.same.trans hid)).1

end

section

variable (hconsistent : before.Consistent) (held : entry ∈ (before.lists user).list kind)
  (h : Relists before user newOwner entry arrivals created after)

include hconsistent held h

/-- The records are those of the listed issues, as before. -/
theorem Relists.recorded (hfits : Fits entry arrivals created) (id : IssueId) :
    after.find? (Issue.key id) ≠ none ↔
      ∃ other kind e, e ∈ (after.lists other).list kind ∧ e.id = id := by
  have harrived {a : Arrival} (ha : a ∈ arrivals) : a.entry ∈ (after.lists a.user).list a.kind :=
    h.mem.2 (.inr ⟨a, ha, rfl, rfl, rfl⟩)
  constructor
  · intro hid
    have hne : ∀ link, entry.link = some link → id ≠ link.issue := by
      rintro link hlink rfl
      exact hid (h.gone link hlink)
    by_cases hcreated : ∃ issue ∈ created, id = issue.id
    · obtain ⟨issue, hissue, rfl⟩ := hcreated
      obtain ⟨a, ha, hsame⟩ := hfits.listed issue hissue
      exact ⟨_, _, _, harrived ha, hsame⟩
    · rw [h.records id hne fun issue hissue hsame => hcreated ⟨issue, hissue, hsame⟩] at hid
      obtain ⟨other, kind', e, he, rfl⟩ := (hconsistent.recorded id).1 hid
      by_cases hold : e.id = entry.id
      · obtain ⟨a, ha, hsame⟩ := hfits.again
        exact ⟨_, _, _, harrived ha, hsame.trans hold.symm⟩
      · exact ⟨other, kind', e, h.mem.2 (.inl ⟨he, Entry.stays_iff.2 ⟨hold, hne⟩⟩), rfl⟩
  · rintro ⟨other, kind', e, he, rfl⟩
    by_cases hcreated : ∃ issue ∈ created, e.id = issue.id
    · obtain ⟨issue, hissue, hsame⟩ := hcreated
      rw [hsame, h.copied issue hissue]
      exact Option.some_ne_none _
    · have hbefore : (∀ link, entry.link = some link → e.id ≠ link.issue) ∧
          before.find? (Issue.key e.id) ≠ none := by
        obtain ⟨he, hstays⟩ | ⟨a, ha, -, -, rfl⟩ := h.mem.1 he
        · exact ⟨(Entry.stays_iff.1 hstays).2, (hconsistent.recorded e.id).2 ⟨other, kind', e, he, rfl⟩⟩
        · rw [(hfits.origin a ha).resolve_right hcreated]
          exact ⟨fun link hlink => (hconsistent.link_ne held hlink).symm,
            (hconsistent.recorded entry.id).2 ⟨user, kind, entry, held, rfl⟩⟩
      rw [h.records e.id hbefore.1 fun issue hissue hsame => hcreated ⟨issue, hissue, hsame⟩]
      exact hbefore.2

variable (hfresh : ∀ issue ∈ created, before.find? (Issue.key issue.id) = none)

include hfresh

theorem Relists.consistent (hfits : Fits entry arrivals created) (horderly : after.Orderly) :
    after.Consistent := by
  -- what has come is of the issue that was given up, or of one that nobody lists
  have hnew {other : UserId} {kind' : ListKind} {e : Entry} (he : e ∈ (before.lists other).list kind')
      (hstays : entry.stays e = true) {a : Arrival} (ha : a ∈ arrivals) : e.id ≠ a.entry.id := by
    intro hid
    obtain hsame | ⟨issue, hissue, hsame⟩ := hfits.origin a ha
    · exact (Entry.stays_iff.1 hstays).1 (hid.trans hsame)
    · exact hconsistent.unlisted (hfresh issue hissue) other kind' e he (hid.trans hsame)
  refine ⟨⟨horderly, ?_⟩, h.recorded hconsistent held hfits, ?_, ?_, ?_⟩
  · intro other other' kind' kind'' e e' he he' hid
    obtain ⟨he, hstays⟩ | ⟨a, ha, rfl, -, rfl⟩ := h.mem.1 he <;>
      obtain ⟨he', hstays'⟩ | ⟨b, hb, rfl, -, rfl⟩ := h.mem.1 he'
    · exact hconsistent.unique.apart other other' kind' kind'' e e' he he' hid
    · exact absurd hid (hnew he hstays hb)
    · exact absurd hid.symm (hnew he' hstays' ha)
    · exact hfits.apart a ha b hb hid
  · intro other kind' e link he hlink
    obtain ⟨he, -⟩ | ⟨a, ha, rfl, -, rfl⟩ := h.mem.1 he
    · exact hconsistent.other other kind' e link he hlink
    · exact hfits.other a ha link hlink
  · intro other kind' e link he hlink
    obtain ⟨he, hstays⟩ | ⟨a, ha, rfl, rfl, rfl⟩ := h.mem.1 he
    · obtain ⟨kind'', e', he', hid, hback, hsides⟩ := hconsistent.paired other kind' e link he hlink
      have hstays' := hconsistent.stays_pair held hstays he' hback
      exact ⟨kind'', e', h.mem.2 (.inl ⟨he', hstays'⟩), hid, hback, hsides⟩
    · obtain ⟨b, hb, huser, hid, hback, hsides⟩ := hfits.paired a ha link hlink
      exact ⟨b.kind, b.entry, h.mem.2 (.inr ⟨b, hb, huser, rfl, rfl⟩), hid, hback, hsides⟩
  · intro other kind' e he hlink
    obtain ⟨he, -⟩ | ⟨a, ha, rfl, rfl, rfl⟩ := h.mem.1 he
    · exact hconsistent.unlinked other kind' e he hlink
    · exact hfits.unlinked a ha hlink

theorem Relists.record_kept : after.find? (Issue.key entry.id) = before.find? (Issue.key entry.id) :=
  h.records entry.id (fun _ hlink => (hconsistent.link_ne held hlink).symm) fun issue hissue hsame =>
    hconsistent.unlisted (hfresh issue hissue) user kind entry held hsame

/-- Linked todos have the same content if those that have come do. -/
theorem Relists.mirrored (hmirrored : before.Mirrored)
    (hnew : ∀ a ∈ arrivals, ∀ link, a.entry.link = some link → ∃ issue, after.record a.entry.id = some issue ∧
      after.record link.issue = some (issue.counterpart link.issue)) : after.Mirrored := by
  have hrecord {other : UserId} {kind' : ListKind} {e : Entry} (he : e ∈ (before.lists other).list kind')
      (hstays : entry.stays e = true) : after.record e.id = before.record e.id :=
    record_eq (h.records e.id (Entry.stays_iff.1 hstays).2 fun issue hissue =>
      hconsistent.unlisted (hfresh issue hissue) other kind' e he)
  intro other kind' e link he hlink
  obtain ⟨he, hstays⟩ | ⟨a, ha, -, -, rfl⟩ := h.mem.1 he
  · obtain ⟨kind'', e', he', hid, hback, -⟩ := hconsistent.paired other kind' e link he hlink
    have hstays' := hconsistent.stays_pair held hstays he' hback
    obtain ⟨issue, hissue, hsame⟩ := hmirrored other kind' e link he hlink
    rw [← hid] at hsame ⊢
    exact ⟨issue, (hrecord he hstays).trans hissue, (hrecord he' hstays').trans hsame⟩
  · exact hnew a ha link hlink

/-- A new entry without a link needs no record besides its own. -/
theorem Relists.mirrored_of_unlinked {a : Arrival} (harrivals : arrivals = [a]) (hlink : a.entry.link = none)
    (hmirrored : before.Mirrored) : after.Mirrored := by
  refine h.mirrored hconsistent held hfresh hmirrored fun b hb link hlink' => ?_
  rw [harrivals] at hb
  cases List.mem_singleton.1 hb
  cases hlink.symm.trans hlink'

end

/-- A todo and its copy have the same content. -/
theorem Relists.mirrored_of_copy (hconsistent : before.Consistent)
    (held : entry ∈ (before.lists user).list kind) {issue : Issue} {new : IssueId}
    (hfresh : ∀ copy ∈ some (issue.counterpart new), before.find? (Issue.key copy.id) = none)
    (hrecord : before.record entry.id = some issue)
    (h : Relists before user newOwner entry [⟨user, .out, .linked entry.id ⟨newOwner, new⟩⟩,
      ⟨newOwner, .inbox, .linked new ⟨user, entry.id⟩⟩] (some (issue.counterpart new)) after)
    (hmirrored : before.Mirrored) : after.Mirrored := by
  have hissue : after.record entry.id = some issue :=
    (record_eq (h.record_kept hconsistent held hfresh)).trans hrecord
  have hcopied : after.record new = some (issue.counterpart new) := h.record_created
  have hid := hconsistent.unique.orderly.id_of_record hrecord
  refine h.mirrored hconsistent held hfresh hmirrored fun a ha link hlink => ?_
  obtain rfl | ha := List.mem_cons.1 ha
  · cases hlink
    exact ⟨issue, hissue, hcopied⟩
  · cases List.mem_singleton.1 ha
    cases hlink
    refine ⟨issue.counterpart new, hcopied, ?_⟩
    rw [← hid] at hissue ⊢
    exact hissue

/-! ## What is left -/

theorem Tidy.withLists (h : store.Tidy) (user : UserId) (lists : UserLists) : (store.withLists user lists).Tidy := by
  rw [Store.withLists]
  split
  · exact h
  · exact (store.changes_assign _ _).tidy h

theorem changes_insert_issue (store : Store) (issue : Issue) :
    Changes store (Issue.key issue.id) ((some issue).map Issue.codec.encode)
      (store.insert (Issue.key issue.id) (Issue.codec.encode issue)) :=
  store.changes_assign _ _

theorem Orderly.insert_issue (h : store.Orderly) (issue : Issue) :
    Store.Orderly (store.insert (Issue.key issue.id) (Issue.codec.encode issue)) :=
  (store.changes_insert_issue issue).orderly_of_record h fun _ hsome => by cases hsome; rfl

section

variable (h : store.Consistent) (held : entry ∈ (store.lists user).list kind)

include h held

theorem Consistent.list_erase_own (kind' : ListKind) :
    ((store.lists user).erase kind entry.id).list kind' = ((store.lists user).list kind').filter entry.stays := by
  refine UserLists.list_erase_eq_filter (fun e he => ?_) (fun e hid => by simp [Entry.stays, hid])
  refine Entry.stays_iff.2 ⟨UserLists.ne_of_mem_erase (h.unique.orderly.distinct user) held he,
    fun link hlink hid => ?_⟩
  obtain ⟨half, hhalf⟩ := h.exists_counterpart held hlink
  exact hhalf.other (h.entry_eq hhalf.held (UserLists.mem_of_mem_erase he) (hid.trans hhalf.same.symm)).1.symm

theorem Counterpart.list_erase {link : Link} {half : Located}
    (hhalf : store.Counterpart user kind entry link half) (kind' : ListKind) :
    ((store.lists link.user).erase half.list link.issue).list kind' =
      ((store.lists link.user).list kind').filter entry.stays := by
  refine UserLists.list_erase_eq_filter (fun e he => ?_)
    (fun e hid => by simp [Entry.stays, hhalf.linked, hid])
  refine Entry.stays_iff.2 ⟨fun hid => hhalf.other (h.entry_eq held (UserLists.mem_of_mem_erase he) hid).1,
    fun link' hlink' => ?_⟩
  cases hhalf.linked.symm.trans hlink'
  rw [← hhalf.same] at he ⊢
  exact UserLists.ne_of_mem_erase (h.unique.orderly.distinct link.user) hhalf.held he

/-- Users who hold neither the entry nor its counterpart lose nothing. -/
theorem Consistent.filter_stays_eq {other : UserId} (hother : other ≠ user)
    (hunlinked : ∀ link, entry.link = some link → other ≠ link.user) (kind' : ListKind) :
    ((store.lists other).list kind').filter entry.stays = (store.lists other).list kind' := by
  refine List.filter_eq_self.2 fun e he => Entry.stays_iff.2 ⟨fun hid => ?_, fun link hlink hid => ?_⟩
  · exact hother (h.entry_eq held he hid).1
  · obtain ⟨half, hhalf⟩ := h.exists_counterpart held hlink
    exact hunlinked link hlink (h.entry_eq hhalf.held he (hid.trans hhalf.same.symm)).1

/-- Taking an entry and its counterpart from their lists leaves all other entries in their order. -/
theorem Consistent.list_left {left : UserId → UserLists}
    (hown : left user = (store.lists user).erase kind entry.id)
    (hcounterpart : ∀ link half, store.Counterpart user kind entry link half →
      left link.user = (store.lists link.user).erase half.list link.issue)
    (hothers : ∀ other, other ≠ user → (∀ link, entry.link = some link → other ≠ link.user) →
      left other = store.lists other) (other : UserId) (kind' : ListKind) :
    (left other).list kind' = ((store.lists other).list kind').filter entry.stays := by
  by_cases hother : other = user
  · rw [hother, hown]
    exact h.list_erase_own held kind'
  by_cases hlinked : ∃ link, entry.link = some link ∧ other = link.user
  · obtain ⟨link, hlink, rfl⟩ := hlinked
    obtain ⟨half, hhalf⟩ := h.exists_counterpart held hlink
    rw [hcounterpart link half hhalf]
    exact hhalf.list_erase h held kind'
  · have hunlinked : ∀ link, entry.link = some link → other ≠ link.user :=
      fun link hlink hsame => hlinked ⟨link, hlink, hsame⟩
    rw [hothers other hother hunlinked, h.filter_stays_eq held hother hunlinked]

end

/-- An entry of an issue that its new holder does not list comes last. -/
theorem list_arrival {lists : UserId → UserLists} {a : Arrival}
    (hnew : ∀ kind, ∀ e ∈ (lists a.user).list kind, e.id ≠ a.entry.id) (other : UserId) (kind : ListKind) :
    (Function.update lists a.user ((lists a.user).pushed a.kind a.entry) other).list kind =
      (lists other).list kind ++ arrived [a] other kind := by
  rw [arrived_singleton]
  by_cases hother : other = a.user
  · subst hother
    rw [Function.update_self, UserLists.list_pushed_of_new hnew]
    simp
  · rw [Function.update_of_ne hother, if_neg fun h => hother h.1.symm, List.append_nil]

/-- A store in which one entry has taken another one's place, once the counterpart has gone. -/
structure Dissolved (store : Store) (entry : Entry) (arrival : Arrival) (before after : Store) : Prop where
  lists : ∀ other kind, (after.lists other).list kind =
    ((store.lists other).list kind).filter entry.stays ++ arrived [arrival] other kind
  gone : ∀ link, entry.link = some link → after.find? (Issue.key link.issue) = none
  records : ∀ id, (∀ link, entry.link = some link → id ≠ link.issue) →
    after.find? (Issue.key id) = before.find? (Issue.key id)
  rest : ∀ key, (∀ id, key ≠ Issue.key id) → (∀ link, entry.link = some link → key ≠ UserLists.key link.user) →
    after.find? key = before.find? key
  orderly : after.Orderly
  tidy : before.Tidy → after.Tidy

section

variable (h : store.Consistent) (held : entry ∈ (store.lists user).list kind) {target : ListKind} {new : Entry}
  (hsame : new.id = entry.id)

include h held hsame

/-- The lists that are left, with a new entry of the issue in place of the old one. -/
theorem Consistent.list_replaced (left : UserId → UserLists)
    (hown : left user = (store.lists user).erase kind entry.id)
    (hcounterpart : ∀ link half, store.Counterpart user kind entry link half →
      left link.user = (store.lists link.user).erase half.list link.issue)
    (hothers : ∀ other, other ≠ user → (∀ link, entry.link = some link → other ≠ link.user) →
      left other = store.lists other) (other : UserId) (kind' : ListKind) :
    (Function.update left user (((store.lists user).erase kind entry.id).pushed target new) other).list kind' =
      ((store.lists other).list kind').filter entry.stays ++ arrived [⟨user, target, new⟩] other kind' := by
  have hleft := h.list_left held hown hcounterpart hothers
  rw [← hleft, ← hown]
  refine list_arrival (a := ⟨user, target, new⟩) (fun kind'' e he => ?_) other kind'
  rw [hleft, List.mem_filter] at he
  rw [hsame]
  exact (Entry.stays_iff.1 he.2).1

variable (horderly : before.Orderly) (hlists : before.lists =
  Function.update store.lists user (((store.lists user).erase kind entry.id).pushed target new))

include horderly hlists

theorem Consistent.dissolved_of_unlinked (hlink : entry.link = none) :
    store.Dissolved entry ⟨user, target, new⟩ before before where
  lists other kind' := by
    rw [hlists, ← h.list_replaced held hsame _ (Function.update_self ..) (fun link half hhalf => ?_)
      fun other hother _ => Function.update_of_ne hother .., Function.update_idem]
    cases hlink.symm.trans hhalf.linked
  gone link hlink' := by cases hlink.symm.trans hlink'
  records _ _ := rfl
  rest _ _ _ := rfl
  orderly := horderly
  tidy := id

theorem Counterpart.dissolved {link : Link} {half : Located}
    (hhalf : store.Counterpart user kind entry link half) :
    store.Dissolved entry ⟨user, target, new⟩ before
      (Table.erase (before.withLists link.user ((before.lists link.user).erase half.list link.issue))
        (Issue.key link.issue)) := by
  have herased : (before.lists link.user).erase half.list link.issue =
      (store.lists link.user).erase half.list link.issue := by
    rw [hlists, Function.update_of_ne hhalf.other]
  have hlink {link' : Link} (hlink' : entry.link = some link') : link' = link :=
    Option.some.inj (hlink'.symm.trans hhalf.linked)
  have hchanges := (before.withLists link.user ((before.lists link.user).erase half.list link.issue)).changes_assign
    (Issue.key link.issue) ((none : Option Issue).map Issue.codec.encode)
  refine ⟨fun other kind' => ?_, ?_, ?_, ?_, ?_, fun htidy => ?_⟩
  · rw [lists_erase_issue, lists_withLists, herased, hlists, Function.update_comm hhalf.other.symm,
      ← h.list_replaced held hsame (Function.update (Function.update store.lists link.user
        ((store.lists link.user).erase half.list link.issue)) user ((store.lists user).erase kind entry.id)),
      Function.update_idem]
    · exact Function.update_self ..
    · intro link' half' hhalf'
      obtain ⟨rfl, rfl⟩ := hhalf.unique hhalf'
      rw [Function.update_of_ne hhalf.other, Function.update_self]
    · intro other hother hcounterpart
      rw [Function.update_of_ne hother, Function.update_of_ne (hcounterpart link hhalf.linked)]
  · intro link' hlink'
    rw [hlink hlink']
    exact (Table.find?_erase _ _ _).trans (if_pos rfl)
  · intro id hid
    refine (Table.find?_erase _ _ _).trans ((if_neg fun hkey => ?_).trans (find?_withLists_issue ..))
    exact hid link hhalf.linked (Issue.key_injective hkey)
  · intro key hkey huser
    exact (Table.find?_erase _ _ _).trans ((if_neg (hkey _)).trans
      (find?_withLists_of_ne (huser link hhalf.linked) _))
  · refine hchanges.orderly_of_record (horderly.withLists ?_) fun _ hnone => by cases hnone
    rw [herased, ← hhalf.same]
    exact (UserLists.revision_erase (h.unique.orderly.distinct link.user) hhalf.held).distinct
  · exact hchanges.tidy_of_record (htidy.withLists _ _)

end

/-- The copy comes to the new owner once the counterpart of the old entry has gone. -/
theorem Dissolved.relists (h : store.Consistent) (held : entry ∈ (store.lists user).list kind) {copy : Issue}
    (hfresh : store.find? (Issue.key copy.id) = none) (hother : user ≠ newOwner) {lists : UserLists}
    {target : ListKind} {new : Entry}
    (hdissolved : store.Dissolved entry ⟨user, target, new⟩
      (Store.withLists (store.insert (Issue.key copy.id) (Issue.codec.encode copy)) user lists) after) :
    let received := Entry.linked copy.id ⟨user, entry.id⟩
    let delivered := after.withLists newOwner ((after.lists newOwner).pushed .inbox received)
    store.Relists user newOwner entry [⟨user, target, new⟩, ⟨newOwner, .inbox, received⟩] (some copy) delivered ∧
      delivered.Orderly ∧ (store.Tidy → delivered.Tidy) := by
  intro received delivered
  have hunlisted := h.unlisted hfresh
  have hnew : ∀ kind', ∀ e ∈ (after.lists newOwner).list kind', e.id ≠ received.id := by
    intro kind' e he
    rw [hdissolved.lists, List.mem_append, List.mem_filter, mem_arrived] at he
    obtain ⟨he, -⟩ | ⟨a, ha, huser, -⟩ := he
    · exact hunlisted newOwner kind' e he
    · cases List.mem_singleton.1 ha
      exact absurd huser hother
  have hlink_ne : ∀ link, entry.link = some link → copy.id ≠ link.issue := by
    intro link hlink hid
    obtain ⟨half, hhalf⟩ := h.exists_counterpart held hlink
    exact hunlisted link.user half.list half.entry hhalf.held (hhalf.same.trans hid.symm)
  refine ⟨⟨fun other kind' => ?_, fun link hlink => ?_, fun issue hissue => ?_, fun id hid hissue => ?_,
    fun key hkey huser hnewOwner hlink => ?_⟩, ?_, fun htidy => ?_⟩
  · rw [arrived_cons, ← List.append_assoc, ← hdissolved.lists, lists_withLists]
    exact list_arrival (a := ⟨newOwner, .inbox, received⟩) hnew other kind'
  · exact (find?_withLists_issue ..).trans (hdissolved.gone link hlink)
  · cases hissue
    rw [find?_withLists_issue, hdissolved.records _ hlink_ne, find?_withLists_issue, Table.find?_insert,
      if_pos rfl]
  · rw [find?_withLists_issue, hdissolved.records _ hid, find?_withLists_issue, Table.find?_insert,
      if_neg fun hkey => hissue copy rfl (Issue.key_injective hkey)]
  · rw [find?_withLists_of_ne hnewOwner, hdissolved.rest key hkey hlink, find?_withLists_of_ne huser,
      Table.find?_insert, if_neg (hkey copy.id)]
  · exact hdissolved.orderly.withLists
      (UserLists.revision_pushed (hdissolved.orderly.distinct newOwner) .inbox hnew).distinct
  · exact (hdissolved.tidy (((store.changes_insert_issue copy).tidy_of_record htidy).withLists _ _)).withLists _ _

end Store

namespace Exchange

open Program

variable {around : Surroundings} {s : Scene} {limits : Limits} {user newOwner : UserId} {kind : ListKind}
  {entry : Entry}

theorem ensures_dissolve_relisted {store : Store} (h : store.Consistent)
    (held : entry ∈ (store.lists user).list kind) {target : ListKind} {new : Entry} (hsame : new.id = entry.id)
    (horderly : s.store.Orderly)
    (hlists : s.store.lists =
      Function.update store.lists user (((store.lists user).erase kind entry.id).pushed target new))
    {result : Result OperationError (Option UserId)}
    (hresult : ∀ store', store.Dissolved entry ⟨user, target, new⟩ s.store store' →
      result (.ok (entry.link.map Link.user)) (s.withStore store')) :
    (dissolve limits user entry).Ensures around result s := by
  have hothers : ∀ other ≠ user, s.store.lists other = store.lists other := fun other hother => by
    rw [hlists, Function.update_of_ne hother]
  refine ensures_dissolve_held h held horderly.listsReadable hothers (fun hlink => ?_) fun link half hhalf => ?_
  · rw [hlink] at hresult
    exact hresult s.store (h.dissolved_of_unlinked held hsame horderly hlists hlink)
  · rw [hhalf.linked] at hresult
    exact hresult _ (hhalf.dissolved h held hsame horderly hlists)

/-- Replacing a held entry does not fail. -/
theorem ensures_replaced (h : s.store.Orderly) {store : Store} (hdistinct : (store.lists user).Distinct)
    (hlists : s.store.lists = store.lists) (held : entry ∈ (store.lists user).list kind) {target : ListKind}
    {new : Entry} {result : Result OperationError Entry}
    (hresult : result (.ok entry) (s.withStore
      (s.store.withLists user (((store.lists user).erase kind entry.id).pushed target new)))) :
    (updateLists limits user (replaceEntry entry.id target new)).Ensures around result s := by
  refine ensures_updateLists (fun failure hfailed => ?_) fun revised old _ hreplaced => ?_
  · have hfailed := hfailed (h.listsReadable user)
    rw [hlists] at hfailed
    exact absurd rfl (replaceEntry_eq_error hfailed kind entry held)
  · rw [hlists] at hreplaced
    obtain ⟨kind', held', hid, rfl⟩ := replaceEntry_exact hreplaced
    obtain ⟨rfl, rfl⟩ := hdistinct.eq held held' hid.symm
    exact hresult

section

variable (h : s.store.Consistent) (held : entry ∈ (s.store.lists user).list kind)

include h held

theorem ensures_keep_relisted (issue : Issue) :
    (keep limits user issue entry.id).Ensures around
      (fun outcome s' => outcome = .ok ⟨issue.message, entry.link.map Link.user, none⟩ ∧
        s.store.Relists user user entry [⟨user, .my, .unlinked entry.id⟩] none s'.store ∧
        s'.store.Orderly ∧ (s.store.Tidy → s'.store.Tidy)) s := by
  have horderly := h.unique.orderly
  have hsame : (Entry.unlinked entry.id).id = entry.id := rfl
  have hdistinct : (((s.store.lists user).erase kind entry.id).pushed .my (.unlinked entry.id)).Distinct :=
    (UserLists.revision_replace (horderly.distinct user) held hsame).distinct
  refine ensures_bind (ensures_replaced horderly (horderly.distinct user) rfl held ?_)
  refine ensures_bind (ensures_dissolve_relisted h held hsame (horderly.withLists hdistinct)
    (Store.lists_withLists _ _ _) fun store' hdissolved => ?_)
  refine ⟨rfl, ⟨hdissolved.lists, hdissolved.gone, (fun _ hnone => by cases hnone), fun id hid _ => ?_,
    fun key hkey huser _ hlink => ?_⟩, hdissolved.orderly, fun htidy => hdissolved.tidy (htidy.withLists _ _)⟩
  · exact (hdissolved.records id hid).trans (Store.find?_withLists_issue ..)
  · exact (hdissolved.rest key hkey hlink).trans (Store.find?_withLists_of_ne huser _)

theorem ensures_handOver_relisted (hother : user ≠ newOwner)
    (hfresh : s.store.find? (Issue.key (around.supply s.drawn)) = none) (issue : Issue) :
    let new := around.supply s.drawn
    (handOver limits user newOwner issue entry.id).Ensures around
      (fun outcome s' => outcome =
          .ok ⟨issue.message, (entry.link.map Link.user).filter fun other => other ≠ newOwner, some new⟩ ∧
        s.store.Relists user newOwner entry [⟨user, .out, .linked entry.id ⟨newOwner, new⟩⟩,
          ⟨newOwner, .inbox, .linked new ⟨user, entry.id⟩⟩] (some (issue.counterpart new)) s'.store ∧
        s'.store.Orderly ∧ (s.store.Tidy → s'.store.Tidy)) s := by
  intro new
  have horderly := h.unique.orderly
  have hsame : (Entry.linked entry.id ⟨newOwner, new⟩).id = entry.id := rfl
  have hdistinct : (((s.store.lists user).erase kind entry.id).pushed .out
      (.linked entry.id ⟨newOwner, new⟩)).Distinct :=
    (UserLists.revision_replace (horderly.distinct user) held hsame).distinct
  have hcopied := horderly.insert_issue (issue.counterpart new)
  have hlists : (Store.withLists (s.store.insert (Issue.key new) (Issue.codec.encode (issue.counterpart new))) user
      (((s.store.lists user).erase kind entry.id).pushed .out (.linked entry.id ⟨newOwner, new⟩))).lists =
        Function.update s.store.lists user
          (((s.store.lists user).erase kind entry.id).pushed .out (.linked entry.id ⟨newOwner, new⟩)) := by
    rw [Store.lists_withLists, Store.lists_insert_issue]
  refine ensures_bind (ensures_bind (ensures_freshId (ensures_bind (ensures_saveIssue ?_))))
  refine ensures_bind (ensures_attempt
    (ensures_replaced hcopied (horderly.distinct user) (Store.lists_insert_issue ..) held ?_))
  refine ensures_bind (ensures_dissolve_relisted h held hsame (hcopied.withLists hdistinct) hlists
    fun store' hdissolved => ?_)
  refine ensures_bind (ensures_pushEntry (hdissolved.orderly.listsReadable newOwner) ?_)
  have hfresh : s.store.find? (Issue.key (issue.counterpart new).id) = none := hfresh
  have hrelists := hdissolved.relists h held hfresh hother
  refine ⟨rfl, ?_⟩
  simp only [Scene.withStore_store]
  exact hrelists

variable {issue : Issue} (hrecord : s.store.record entry.id = some issue)

include hrecord

theorem ensures_reassign_kept :
    (reassign limits entry.id user user).Ensures around
      (fun outcome s' => outcome = .ok ⟨issue.message, entry.link.map Link.user, none⟩ ∧
        s.store.Relists user user entry [⟨user, .my, .unlinked entry.id⟩] none s'.store ∧
        s'.store.Orderly ∧ (s.store.Tidy → s'.store.Tidy)) s := by
  refine ensures_bind (ensures_requireIssue (h.unique.orderly.recordReadable _) (fun habsent => ?_)
    fun issue' hissue' => ?_)
  · cases habsent.symm.trans hrecord
  cases hissue'.symm.trans hrecord
  rw [andThen, if_pos rfl]
  exact ensures_keep_relisted h held issue

theorem ensures_reassign_handedOver (hother : user ≠ newOwner)
    (hknown : ∃ profile, around.byId newOwner = .ok (some profile))
    (hfresh : s.store.find? (Issue.key (around.supply s.drawn)) = none) :
    let new := around.supply s.drawn
    (reassign limits entry.id user newOwner).Ensures around
      (fun outcome s' => outcome =
          .ok ⟨issue.message, (entry.link.map Link.user).filter fun other => other ≠ newOwner, some new⟩ ∧
        s.store.Relists user newOwner entry [⟨user, .out, .linked entry.id ⟨newOwner, new⟩⟩,
          ⟨newOwner, .inbox, .linked new ⟨user, entry.id⟩⟩] (some (issue.counterpart new)) s'.store ∧
        s'.store.Orderly ∧ (s.store.Tidy → s'.store.Tidy)) s := by
  obtain ⟨profile, hprofile⟩ := hknown
  refine ensures_bind (ensures_requireIssue (h.unique.orderly.recordReadable _) (fun habsent => ?_)
    fun issue' hissue' => ?_)
  · cases habsent.symm.trans hrecord
  cases hissue'.symm.trans hrecord
  rw [andThen, if_neg hother]
  refine ensures_bind (ensures_requireUser (fun _ _ => ensures_handOver_relisted h held hother hfresh issue)
    (fun hunknown => ?_) fun failure hdown => ?_)
  · cases hunknown.symm.trans hprofile
  · cases hdown.symm.trans hprofile

end

theorem fits_kept (user : UserId) (entry : Entry) : Store.Fits entry [⟨user, .my, .unlinked entry.id⟩] none := by
  constructor <;> simp [Entry.unlinked, Entry.link]

theorem fits_handedOver (hother : user ≠ newOwner) {copy : Issue} (hne : copy.id ≠ entry.id) :
    Store.Fits entry [⟨user, .out, .linked entry.id ⟨newOwner, copy.id⟩⟩,
      ⟨newOwner, .inbox, .linked copy.id ⟨user, entry.id⟩⟩] (some copy) := by
  constructor <;> simp [Entry.linked, Entry.link, hother, hother.symm, hne, hne.symm]

end Exchange

namespace Session

open Exchange

variable {session : Session}

theorem reassign_exact (hundisturbed : session.Undisturbed) (hconsistent : session.world.store.Consistent)
    {user newOwner : UserId} {kind : ListKind} {entry : Entry}
    (held : entry ∈ (session.world.store.lists user).list kind)
    (hknown : user ≠ newOwner → ∃ profile, session.around.byId newOwner = .ok (some profile))
    (hfresh : user ≠ newOwner →
      session.world.store.find? (Issue.key (session.world.supply session.world.drawn)) = none)
    (limits : Limits) :
    let store := session.world.store
    let new := session.world.supply session.world.drawn
    let reassigned := session.run (reassign limits entry.id user newOwner)
    let after := reassigned.2.world.store
    ∃ issue, store.record entry.id = some issue ∧
      (user ≠ newOwner →
        reassigned.1 =
          .ok ⟨issue.message, (entry.link.map Link.user).filter fun other => other ≠ newOwner, some new⟩ ∧
        store.Relists user newOwner entry [⟨user, .out, .linked entry.id ⟨newOwner, new⟩⟩,
          ⟨newOwner, .inbox, .linked new ⟨user, entry.id⟩⟩] (some (issue.counterpart new)) after) ∧
      (user = newOwner →
        reassigned.1 = .ok ⟨issue.message, entry.link.map Link.user, none⟩ ∧
        store.Relists user user entry [⟨user, .my, .unlinked entry.id⟩] none after) ∧
      after.find? (Issue.key entry.id) = store.find? (Issue.key entry.id) ∧
      after.Consistent ∧ (store.Tidy → after.Tidy) ∧ (store.Mirrored → after.Mirrored) := by
  intro store new reassigned after
  obtain ⟨issue, hrecord, -⟩ := hconsistent.exists_record held
  refine ⟨issue, hrecord, ?_⟩
  by_cases hother : user = newOwner
  · subst hother
    obtain ⟨hok, hrelists, horderly, htidy⟩ := run_of_ensures _ hundisturbed
      (ensures_reassign_kept hconsistent held hrecord)
    have hnone : ∀ copy ∈ (none : Option Issue), store.find? (Issue.key copy.id) = none := by simp
    have hconsistent' := hrelists.consistent hconsistent held hnone (fits_kept user entry) horderly
    exact ⟨fun hne => absurd rfl hne, fun _ => ⟨hok, hrelists⟩, hrelists.record_kept hconsistent held hnone,
      hconsistent', htidy, hrelists.mirrored_of_unlinked hconsistent held hnone rfl rfl⟩
  · obtain ⟨hok, hrelists, horderly, htidy⟩ := run_of_ensures _ hundisturbed
      (ensures_reassign_handedOver hconsistent held hrecord hother (hknown hother) (hfresh hother))
    have hcopy : ∀ copy ∈ some (issue.counterpart new), store.find? (Issue.key copy.id) = none :=
      fun _ hcopy => Option.some.inj hcopy ▸ hfresh hother
    have hne : (issue.counterpart new).id ≠ entry.id := fun hsame =>
      hconsistent.unlisted (hcopy _ rfl) user kind entry held hsame.symm
    have hconsistent' := hrelists.consistent hconsistent held hcopy (fits_handedOver hother hne) horderly
    exact ⟨fun _ => ⟨hok, hrelists⟩, fun heq => absurd heq hother, hrelists.record_kept hconsistent held hcopy,
      hconsistent', htidy, hrelists.mirrored_of_copy hconsistent held hcopy hrecord⟩

/-- Amy has sent ben a todo, and he gives it back to her. -/
theorem sentTodo_reassigned :
    ∃ store : Store, store.SentTodo ⟨"amy"⟩ ⟨"ben"⟩ (World.counted 0) (World.counted 1) ∧
      let reassigned := (resumed store 2 [⟨⟨"amy"⟩, "amy"⟩]).run
        (reassign ⟨5, 5⟩ (World.counted 1) ⟨"ben"⟩ ⟨"amy"⟩)
      let after := reassigned.2.world.store
      (∃ message, reassigned.1 = .ok ⟨message, none, some (World.counted 2)⟩) ∧
        (∃ earlier, (after.lists ⟨"amy"⟩).list .inbox =
          earlier ++ [.linked (World.counted 2) ⟨⟨"ben"⟩, World.counted 1⟩]) ∧
        after.find? (Issue.key (World.counted 0)) = none ∧ after.Consistent := by
  obtain ⟨store, hstore⟩ := exists_sentTodo_counted
  obtain ⟨entry, held, hid, hlink⟩ := hstore.inbox
  have hother : (⟨"ben"⟩ : UserId) ≠ ⟨"amy"⟩ := by decide
  obtain ⟨issue, -, hgiven, -, -, hconsistent, -⟩ := @reassign_exact (resumed store 2 [⟨⟨"amy"⟩, "amy"⟩]) rfl
    hstore.consistent ⟨"ben"⟩ ⟨"amy"⟩ .inbox entry held (fun _ => ⟨_, rfl⟩)
    (fun _ => hstore.fresh [⟨⟨"amy"⟩, "amy"⟩] 0 (by decide)) ⟨5, 5⟩
  obtain ⟨hok, hrelists⟩ := hgiven hother
  rw [hid] at hok hconsistent hrelists
  have hnew : (resumed store 2 [⟨⟨"amy"⟩, "amy"⟩]).world.supply
      (resumed store 2 [⟨⟨"amy"⟩, "amy"⟩]).world.drawn = World.counted 2 := rfl
  have hprevious : (Option.map Link.user (some ⟨⟨"amy"⟩, World.counted 0⟩)).filter
      (fun other => other ≠ ⟨"amy"⟩) = none := by decide
  have harrived : Store.arrived [⟨⟨"ben"⟩, .out, .linked (World.counted 1) ⟨⟨"amy"⟩, World.counted 2⟩⟩,
      ⟨⟨"amy"⟩, .inbox, .linked (World.counted 2) ⟨⟨"ben"⟩, World.counted 1⟩⟩] ⟨"amy"⟩ .inbox =
        [.linked (World.counted 2) ⟨⟨"ben"⟩, World.counted 1⟩] := by
    rw [Store.arrived_cons, Store.arrived_singleton, Store.arrived_singleton, if_neg fun h => hother h.1,
      if_pos ⟨rfl, rfl⟩, List.nil_append]
  rw [hnew] at hok hrelists
  rw [hlink, hprevious] at hok
  have hinbox := hrelists.lists ⟨"amy"⟩ .inbox
  rw [harrived] at hinbox
  have hgone := hrelists.gone ⟨⟨"amy"⟩, World.counted 0⟩ hlink
  exact ⟨store, hstore, ⟨issue.message, hok⟩, ⟨_, hinbox⟩, hgone, hconsistent⟩

end Session

end SharedTodo
