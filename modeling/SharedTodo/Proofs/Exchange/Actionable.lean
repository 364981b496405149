import SharedTodo.Proofs.Exchange.Balance
import SharedTodo.Proofs.Exchange.Bumping
import SharedTodo.Proofs.Exchange.HandingOver
import SharedTodo.Proofs.Exchange.Reassigned

/-!
# Todos that can be acted on

A todo that is attached to a message names an issue. The recipient can act on it when the issue waits among the
recipient's received todos, linked with a sent todo of the caller's, and its record says what the attachment
says (`Actionable`). Sending, handing over and bumping a todo report such an issue: the receiver's, not the
sender's, which has another identifier. An acceptance of what is actionable succeeds, and reports the caller.
-/

namespace SharedTodo

/-- The attached todo waits among the recipient's received ones, sent by the caller. -/
structure Store.Actionable (store : Store) (caller recipient : UserId) (attachment : Attachment) : Prop where
  waiting : ∃ own, store.Waiting caller own ⟨recipient, attachment.issue⟩
  recorded : ∃ issue, store.record attachment.issue = some issue ∧ issue.message = attachment.message

theorem Store.Relists.actionable {before after : Store} {user newOwner : UserId} {entry : Entry} {copy : Issue}
    (h : before.Relists user newOwner entry [⟨user, .out, .linked entry.id ⟨newOwner, copy.id⟩⟩,
      ⟨newOwner, .inbox, .linked copy.id ⟨user, entry.id⟩⟩] (some copy) after) :
    after.Actionable user newOwner ⟨copy.message, copy.id⟩ := by
  refine ⟨⟨entry.id, ⟨.linked entry.id ⟨newOwner, copy.id⟩, ?_, rfl, rfl⟩,
    .linked copy.id ⟨user, entry.id⟩, ?_, rfl, rfl⟩, copy, h.record_created, rfl⟩
  · exact h.mem.2 (.inr ⟨_, List.mem_cons_self, rfl, rfl, rfl⟩)
  · exact h.mem.2 (.inr ⟨_, List.mem_cons_of_mem _ List.mem_cons_self, rfl, rfl, rfl⟩)

namespace Exchange

open Program

variable {α : Type} {around : Surroundings} {s : Scene} {limits : Limits} {user : UserId}

/-! ## Sent todos -/

theorem actionable_sent {store : Store} {sender receiver : UserId} (hother : sender ≠ receiver)
    {sent received : Issue} (hsent : store.Unlisted sent.id) (hreceived : store.Unlisted received.id) :
    let saved : Store := Table.insert (store.insert (Issue.key sent.id) (Issue.codec.encode sent))
      (Issue.key received.id) (Issue.codec.encode received)
    let offered := saved.withLists sender
      ((saved.lists sender).pushed .out (.linked sent.id ⟨receiver, received.id⟩))
    (offered.withLists receiver ((offered.lists receiver).pushed .inbox
      (.linked received.id ⟨sender, sent.id⟩))).Actionable sender receiver ⟨received.message, received.id⟩ := by
  intro saved offered
  have hsaved : saved.lists = store.lists :=
    (Store.lists_insert_issue _ _ _).trans (Store.lists_insert_issue _ _ _)
  have hoffered : offered.lists = Function.update store.lists sender
      ((store.lists sender).pushed .out (.linked sent.id ⟨receiver, received.id⟩)) := by
    rw [Store.lists_withLists, hsaved]
  have hrecord : saved.record received.id = some received := by
    rw [Store.record, Table.find?_insert, if_pos rfl, Option.bind_some, Issue.decode_encode]
    rfl
  rw [hoffered, Function.update_of_ne hother.symm]
  refine ⟨⟨sent.id, ⟨.linked sent.id ⟨receiver, received.id⟩, ?_, rfl, rfl⟩,
    .linked received.id ⟨sender, sent.id⟩, ?_, rfl, rfl⟩, received, ?_, rfl⟩
  · rw [Store.lists_withLists, Function.update_of_ne hother, hoffered, Function.update_self,
      UserLists.list_pushed_of_new (hsent sender), if_pos rfl]
    exact List.mem_append_right _ List.mem_cons_self
  · rw [Store.lists_withLists, Function.update_self, UserLists.list_pushed_of_new (hreceived receiver),
      if_pos rfl]
    exact List.mem_append_right _ List.mem_cons_self
  · rw [← hrecord]
    exact Store.record_eq ((Store.find?_withLists_issue ..).trans (Store.find?_withLists_issue ..))

/-! ## Bumped todos and copies -/

theorem BumpEnds.actionable {before after : Store} {user : UserId} {id : IssueId} {report : Bumped}
    (h : BumpEnds before user id (.ok report) after) (hmirrored : before.Mirrored) :
    after.Actionable user report.receiver ⟨report.message, report.foreignIssue⟩ := by
  cases h with
  | @raised link half issue hsent held hsame hback hrecord =>
    obtain ⟨entry, hentry, rfl, hlink⟩ := hsent
    -- the sender's text is attached, and the receiver's record has the same
    obtain ⟨issue', hissue', hcopied⟩ := hmirrored user .out entry link hentry hlink
    cases hissue'.symm.trans hrecord
    refine ⟨⟨entry.id, ⟨entry, ?_, rfl, hlink⟩, half, ?_, hsame, hback⟩, _,
      (Store.record_eq (Store.find?_withLists_issue ..)).trans hcopied, rfl⟩
    · rw [Store.list_raised_of_ne _ _ (by decide)]
      exact hentry
    · rw [Store.lists_withLists, Function.update_self]
      exact UserLists.mem_raise _ _ half

/-- The todo that a reassignment gives to a new owner, if it does. -/
def handedTo (newOwner : UserId) (report : Reassigned) : Option (UserId × Attachment) :=
  report.newIssue.map fun issue => (newOwner, ⟨report.message, issue⟩)

/-! ## What operations report -/

variable (around) in
/-- What is reported for somebody is actionable, if identifiers are different. -/
def Reports (caller : UserId) (offer : α → Option (UserId × Attachment)) : Result OperationError α
  | .ok report, s' => Unrepeated around s' → ∀ recipient attachment,
      offer report = some (recipient, attachment) → s'.store.Actionable caller recipient attachment
  | .error _, _ => True
  | .unfinished, _ => True

section

variable (h : s.Balanced around)

include h

theorem reports_send (receiver : UserId) (draft : Draft) :
    (send limits user receiver draft).Ensures around
      (Reports around user fun issue => some (receiver, ⟨draft.message, issue⟩)) s := by
  have horderly := h.consistent.unique.orderly
  rw [send]
  split
  · exact trivial
  · next hother =>
    refine ensures_bind (ensures_of_idle (idle_requireUser receiver) (fun _ => ?_) fun _ => trivial)
    refine ensures_bind (ensures_bind (ensures_freshId (ensures_bind (ensures_now fun now => ?_))))
    refine ensures_bind (ensures_bind (ensures_freshId ?_))
    refine ensures_bind (ensures_saveIssue (ensures_bind (ensures_saveIssue ?_)))
    refine ensures_bind (ensures_pushEntry ?_ (ensures_bind (ensures_pushEntry ?_ ?_)))
    · exact ((horderly.listsReadable user).insert_issue _ _).insert_issue _ _
    · exact (((horderly.listsReadable receiver).insert_issue _ _).insert_issue _ _).withLists _ _
    rintro hunrepeated recipient attachment ⟨⟩
    have hunrepeated : Unrepeated around { s with drawn := s.drawn + 1 + 1 } := hunrepeated
    have hunlisted {id : IssueId} (hid : id ∈ around.drawn s { s with drawn := s.drawn + 1 + 1 }) :
        s.store.Unlisted id :=
      h.consistent.unlisted (h.fresh (not_drew_of_mem_drawn hunrepeated hid).1)
    obtain ⟨hsent, hreceived⟩ := @mem_drawn_twice around s s (Nat.le_refl _)
    exact @actionable_sent s.store user receiver hother (Issue.ofDraft draft (around.supply s.drawn) now)
      ((Issue.ofDraft draft (around.supply s.drawn) now).counterpart (around.supply (s.drawn + 1)))
      (hunlisted hsent) (hunlisted hreceived)

theorem reports_bump (id : IssueId) :
    (bump limits user id).Ensures around (Reports around user fun bumped =>
      some (bumped.receiver, ⟨bumped.message, bumped.foreignIssue⟩)) s := by
  have horderly := h.consistent.unique.orderly
  refine ensures_mono (bumpEnds_bump horderly.readable horderly.distinct) fun outcome s' hends => ?_
  cases outcome with
  | ok report =>
    rintro - recipient attachment ⟨⟩
    exact hends.actionable h.mirrored
  | error failure => trivial
  | unfinished => trivial

/-- A copy whose identifier has been drawn before means that identifiers are not different. -/
theorem reports_handOver {newOwner : UserId} (hother : user ≠ newOwner) (issue : Issue) (id : IssueId) :
    (handOver limits user newOwner issue id).Ensures around (Reports around user (handedTo newOwner)) s := by
  by_cases hheld : ∃ kind, ∃ entry ∈ (s.store.lists user).list kind, entry.id = id
  · obtain ⟨kind, entry, held, rfl⟩ := hheld
    by_cases hdrew : Drew around s (around.supply s.drawn)
    · refine ensures_bind (ensures_bind (ensures_freshId ?_))
      show Program.Ensures around (saveIssue (issue.counterpart (around.supply s.drawn)) >>= _) _ _
      refine ensures_mono (drawn_le _ _) fun outcome s' hdrawn => ?_
      cases outcome with
      | ok report =>
        intro hunrepeated
        obtain ⟨n, hn, hsame⟩ := hdrew
        exact absurd hsame (hunrepeated n s.drawn hn hdrawn)
      | error failure => trivial
      | unfinished => trivial
    · refine ensures_mono (ensures_handOver_relisted h.consistent held hother (h.fresh hdrew) issue) ?_
      rintro outcome s' ⟨rfl, hrelists, -⟩
      rintro - recipient attachment ⟨⟩
      exact @Store.Relists.actionable _ _ user newOwner entry (issue.counterpart (around.supply s.drawn)) hrelists
  · refine ensures_mono (ensures_handOver h.consistent hother) fun outcome s' hend => ?_
    cases outcome with
    | ok report =>
      obtain ⟨-, kind, entry, hid, hreassigns⟩ := hend
      exact absurd ⟨kind, entry, hreassigns.held, hid⟩ hheld
    | error failure => trivial
    | unfinished => trivial

theorem reports_reassign (newOwner : UserId) (id : IssueId) :
    (reassign limits id user newOwner).Ensures around (Reports around user (handedTo newOwner)) s := by
  refine ensures_bind (ensures_of_idle (idle_requireIssue id) (fun issue => ?_) fun _ => trivial)
  rw [andThen]
  split
  · next hsame =>
    subst hsame
    refine ensures_mono (ensures_keep h.consistent) fun outcome s' hend => ?_
    cases outcome with
    | ok report =>
      obtain ⟨-, kind, entry, -, hreassigns⟩ := hend
      intro _ recipient attachment hoffer
      rw [handedTo, hreassigns.copied.2 rfl] at hoffer
      cases hoffer
    | error failure => trivial
    | unfinished => trivial
  · next hother =>
    refine ensures_bind (ensures_of_idle (idle_requireUser newOwner) (fun _ => ?_) fun _ => trivial)
    exact reports_handOver h hother issue id

end

/-! ## Acceptance -/

theorem ensures_accept_actionable (h : s.store.Consistent) {caller recipient : UserId} {attachment : Attachment}
    (hactionable : s.store.Actionable caller recipient attachment) :
    (accept limits recipient attachment.issue).Ensures around
      (fun outcome s' => outcome = .ok ⟨attachment.message, some caller⟩ ∧ s'.sent = s.sent) s := by
  obtain ⟨⟨own, ⟨entry, held, rfl, hlink⟩, half, hhalf, hid, hback⟩, issue, hrecord, hmessage⟩ := hactionable
  have hid : half.id = attachment.issue := hid
  have horderly := h.unique.orderly
  have hother : caller ≠ recipient := h.other recipient .inbox half _ hhalf hback
  rw [← hid, ← hmessage]
  refine ensures_bind (ensures_requireIssue (horderly.recordReadable _) (fun habsent => ?_) fun found hfound => ?_)
  · rw [hid, hrecord] at habsent
    cases habsent
  rw [hid, hrecord] at hfound
  cases hfound
  have haccepted := acceptEntry_of_mem (horderly.distinct recipient) hhalf
  refine ensures_bind (ensures_updateLists (fun failure hfailed => ?_) fun revised taken _ htaken => ?_)
  · cases haccepted.symm.trans (hfailed (horderly.listsReadable recipient))
  cases haccepted.symm.trans htaken
  refine ensures_bind (ensures_livingCounterpart (fun link _ => (horderly.listsReadable _).withLists _ _)
    (fun link _ hlinked _ => ?_) fun hnone => ?_)
  · cases hback.symm.trans hlinked
    exact ⟨rfl, rfl⟩
  · -- the caller's lists are still the same, and the link is found in them
    obtain ⟨located, hliving⟩ := (horderly.distinct caller).findLinked_of_mem held hlink
    have hgone := hnone ⟨caller, entry.id⟩ hback
    rw [Scene.withStore_store, Store.lists_withLists, Function.update_of_ne hother, hid, hliving] at hgone
    cases hgone

end Exchange

end SharedTodo
