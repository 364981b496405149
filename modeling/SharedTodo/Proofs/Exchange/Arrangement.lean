import SharedTodo.Proofs.Exchange.Bystanders

/-!
# What operations do to the order of lists

No operation but a bump changes the order of entries that stay in a list. Entries may go, and at most one
comes, to the end of a list (`UserLists.Settles`): that of a new issue, an accepted one among the own todos, or
a reassigned one, which leaves its old place even when it stays in the same list. A bump takes one entry to the
head of the receiver's list and leaves everything else in place (`Exchange.Raises`).

This is so in a consistent store, where nothing fails once it has begun to change lists.
-/

namespace SharedTodo

namespace Store

variable {before after : Store} {gone : UserId → IssueId → Prop} {come : UserId → ListKind → Entry → Prop}
  {user : UserId}

/-- Every list of every user has settled. -/
def Settles (gone : UserId → IssueId → Prop) (come : UserId → ListKind → Entry → Prop)
    (before after : Store) : Prop :=
  ∀ user kind, UserLists.Settles (gone user) (come user kind) ((before.lists user).list kind)
    ((after.lists user).list kind)

theorem settles_self (store : Store) (come : UserId → ListKind → Entry → Prop) :
    Settles (fun _ _ => False) come store store :=
  fun _ _ => UserLists.settles_self _ fun _ _ => id

theorem Settles.of_lists (h : Settles gone come before after) {store : Store}
    (hlists : store.lists = after.lists) : Settles gone come before store := by
  intro user kind
  rw [hlists]
  exact h user kind

theorem Settles.mono (h : Settles gone come before after) {gone' : UserId → IssueId → Prop}
    {come' : UserId → ListKind → Entry → Prop} (hgone : ∀ user id, gone' user id → gone user id)
    (hcome : ∀ user kind entry, come user kind entry → come' user kind entry) :
    Settles gone' come' before after :=
  fun user kind => (h user kind).mono (hgone user) (hcome user kind)

/-- Entries go from the lists of a user to whom nothing has come. -/
theorem Settles.erased (h : Settles gone come before after) (hnone : ∀ kind entry, ¬ come user kind entry)
    (kind : ListKind) (id : IssueId) :
    Settles gone come before (after.withLists user ((after.lists user).erase kind id)) := by
  intro other kind'
  rw [lists_withLists]
  by_cases hother : other = user
  · subst hother
    rw [Function.update_self]
    exact (h other kind').sublist (hnone kind') (UserLists.list_erase_sublist _ kind id kind')
  · rw [Function.update_of_ne hother]
    exact h other kind'

/-- An entry comes to a list to which nothing has come. -/
theorem Settles.pushed (come' : UserId → ListKind → Entry → Prop) (h : Settles gone come before after)
    {kind : ListKind} (hnone : ∀ entry, ¬ come user kind entry) {entry : Entry}
    (hcome : ∀ user kind entry, come user kind entry → come' user kind entry)
    (hentry : come' user kind entry) :
    Settles gone come' before (after.withLists user ((after.lists user).pushed kind entry)) := by
  intro other kind'
  rw [lists_withLists]
  by_cases hother : other = user
  · subst hother
    rw [Function.update_self]
    by_cases hkind : kind' = kind
    · subst hkind
      obtain hsame | hlast := (after.lists other).list_pushed kind' entry
      · rw [hsame]
        exact (h other kind').mono (fun _ => id) (hcome other kind')
      · rw [hlast]
        exact (h other kind').append hnone hentry
    · rw [UserLists.list_pushed_of_ne _ hkind]
      exact (h other kind').mono (fun _ => id) (hcome other kind')
  · rw [Function.update_of_ne hother]
    exact (h other kind').mono (fun _ => id) (hcome other kind')

/-- An entry leaves its place, and one of the same issue comes to a list of the same user. -/
theorem settles_replaced {store : Store} (hdistinct : (store.lists user).Distinct) {kind : ListKind}
    {old : Entry} (held : old ∈ (store.lists user).list kind) (kind' : ListKind) (new : Entry) :
    Settles (fun other id => other = user ∧ id = old.id)
      (fun other kind entry => other = user ∧ kind = kind' ∧ entry = new) store
      (store.withLists user (((store.lists user).erase kind old.id).pushed kind' new)) := by
  intro other kind''
  rw [lists_withLists]
  by_cases hother : other = user
  · subst hother
    rw [Function.update_self]
    have herased : UserLists.Settles (fun id => other = other ∧ id = old.id) (fun _ => False)
        ((store.lists other).list kind'') (((store.lists other).erase kind old.id).list kind'') := by
      refine ⟨_, none, UserLists.list_erase_sublist _ kind old.id kind'', (List.append_nil _).symm, ?_,
        fun _ hnone => by cases hnone⟩
      rintro entry hentry ⟨-, hsame⟩
      exact UserLists.ne_of_mem_erase hdistinct held hentry hsame
    by_cases hkind : kind'' = kind'
    · subst hkind
      obtain hsame | hlast := ((store.lists other).erase kind old.id).list_pushed kind'' new
      · rw [hsame]
        exact herased.mono (fun _ => id) fun _ => False.elim
      · rw [hlast]
        exact herased.append (fun _ => id) ⟨rfl, rfl, rfl⟩
    · rw [UserLists.list_pushed_of_ne _ hkind]
      exact herased.mono (fun _ => id) fun _ => False.elim
  · rw [Function.update_of_ne hother]
    exact UserLists.settles_self _ fun _ _ hgone => hother hgone.1

end Store

namespace Exchange

open Program

section

variable {α : Type} {around : Surroundings} {s s₀ : Scene} {limits : Limits} {user : UserId} {id : IssueId}
  {gone : UserId → IssueId → Prop} {come : UserId → ListKind → Entry → Prop}

/-! ## Operations that settle lists -/

/-- Where the operation gives a value, the scene is as wanted; where it fails, the lists are as they were. -/
def Arranges (wanted : Scene → Prop) (s : Scene) : Result OperationError α
  | .ok _, s' => wanted s'
  | .error _, s' => s'.store.lists = s.store.lists
  | .unfinished, s' => s'.store.lists = s.store.lists

/-- What comes to a list is the entry of a new issue, or one that the operation moves. -/
def Settling (around : Surroundings) (gone : UserId → IssueId → Prop)
    (come : UserId → ListKind → Entry → Prop) (s s' : Scene) : Prop :=
  s.store.Settles gone (fun user kind entry => entry.id ∈ around.drawn s s' ∨ come user kind entry) s'.store

theorem arranges_reported {β : Type} {wanted : Scene → Prop} {operation : Operation α} {report : α → β}
    (h : operation.Ensures around (Arranges wanted s) s) :
    (operation >>= fun value => pure (report value)).Ensures around (Arranges wanted s) s := by
  refine ensures_bind (ensures_mono h fun outcome s' harranges => ?_)
  cases outcome <;> exact harranges

/-- Nothing but new issues comes. -/
def nothing : UserId → ListKind → Entry → Prop :=
  fun _ _ _ => False

/-- Giving up an entry of somebody else's takes entries from lists to which nothing has come. -/
theorem settles_dissolve {store : Store} {entry : Entry} (hreadable : s.store.Readable)
    (hsettles : store.Settles gone come s.store)
    (hnone : ∀ link, entry.link = some link → ∀ kind entry, ¬ come link.user kind entry) :
    (dissolve limits user entry).Ensures around (fun outcome s' => (∃ foreignUser, outcome = .ok foreignUser) ∧
      store.Settles gone come s'.store ∧ s'.store.Readable ∧ s'.drawn = s.drawn) s := by
  refine ensures_dissolve (fun link _ => hreadable.lists link.user) (fun _ => ?_) (fun link half hlink _ _ => ?_)
    (fun link _ _ => ?_) fun _ _ _ _ _ => ?_
  · exact ⟨⟨_, rfl⟩, hsettles, hreadable, rfl⟩
  · refine ⟨⟨_, rfl⟩, ?_, (hreadable.withLists _ _).erase_issue _, rfl⟩
    exact (hsettles.erased (hnone link hlink) half.list link.issue).of_lists (Store.lists_erase_issue _ _)
  · exact ⟨⟨_, rfl⟩, hsettles.of_lists (Store.lists_erase_issue _ _), hreadable.erase_issue _, rfl⟩
  · exact ⟨⟨_, rfl⟩, hsettles, hreadable, rfl⟩

/-- The end of an operation that creates no issue. -/
theorem settling_of_settles {s' : Scene} (h : s.store.Settles gone come s'.store) :
    Settling around gone come s s' :=
  h.mono (fun _ _ hgone => hgone) fun _ _ _ hcome => .inr hcome

/-- An entry is taken out and given up, and a record is deleted. -/
theorem arranges_takenOut {entry : Entry} {kind : ListKind} {report : Option UserId → α}
    (hreadable : s.store.Readable) :
    (dissolve limits user entry >>= fun foreignUser =>
        deleteIssue id >>= fun _ => pure (report foreignUser)).Ensures around
      (Arranges (Settling around (fun _ _ => False) nothing s) s)
      (s.withStore (s.store.withLists user ((s.store.lists user).erase kind entry.id))) := by
  have hsettles : s.store.Settles (fun _ _ => False) nothing
      (s.store.withLists user ((s.store.lists user).erase kind entry.id)) :=
    (s.store.settles_self nothing).erased (fun _ _ hnone => hnone) kind entry.id
  refine ensures_bind (ensures_mono (settles_dissolve (hreadable.withLists _ _) hsettles
    fun _ _ _ _ hnone => hnone) fun outcome s' hend => ?_)
  obtain ⟨⟨foreignUser, rfl⟩, hsettles', -, -⟩ := hend
  exact ensures_bind (ensures_deleteIssue
    (settling_of_settles (hsettles'.of_lists (Store.lists_erase_issue _ _))))

variable (h : s.store.Consistent)

include h

theorem arranges_take (id : IssueId) :
    (take limits user id).Ensures around (Arranges (Settling around (fun _ _ => False) nothing s) s) s := by
  have hreadable := h.unique.orderly.readable
  refine ensures_bind (ensures_requireIssue (hreadable.records id) (fun _ => rfl) fun issue _ => ?_)
  refine ensures_bind (ensures_updateLists (fun _ _ => rfl) fun revised located _ htaken => ?_)
  obtain ⟨held, rfl, rfl⟩ := takeEntry_exact htaken
  exact arranges_takenOut hreadable

theorem arranges_remove (id : IssueId) :
    (remove limits user id).Ensures around (Arranges (Settling around (fun _ _ => False) nothing s) s) s :=
  arranges_reported (arranges_take h id)

/-- Every head has a record, so the first round decides. -/
theorem arranges_pop :
    (pop limits user).Ensures around (Arranges (Settling around (fun _ _ => False) nothing s) s) s := by
  have hreadable := h.unique.orderly.readable
  rw [pop]
  cases limits.rounds with
  | zero => exact rfl
  | succ rounds =>
    refine ensures_bind (ensures_updateLists (fun _ _ => rfl) fun revised entry _ htaken => ?_)
    obtain ⟨held, rfl⟩ := takeHead_exact htaken
    obtain ⟨issue, hrecord, -⟩ := h.exists_record held
    refine ensures_bind (ensures_loadIssue ((hreadable.withLists _ _).records entry.id) ?_)
    rw [Scene.withStore_store, Store.record_eq (s.store.find?_withLists_issue user _ entry.id), hrecord]
    exact arranges_takenOut hreadable

theorem arranges_add (draft : Draft) :
    (add limits user draft).Ensures around (Arranges (Settling around (fun _ _ => False) nothing s) s) s := by
  refine ensures_bind (ensures_bind (ensures_freshId (ensures_bind (ensures_now fun now => ?_))))
  refine ensures_bind (ensures_saveIssue (ensures_bind (ensures_pushEntry ?_ ?_)))
  · exact (h.unique.orderly.listsReadable user).insert_issue _ _
  · have hsettles := (s.store.settles_self nothing).of_lists (s.store.lists_insert_issue (around.supply s.drawn)
      (Issue.codec.encode (Issue.ofDraft draft (around.supply s.drawn) now)))
    exact hsettles.pushed _ (fun _ hnone => hnone) (fun _ _ _ => False.elim)
      (.inl (mem_drawn (Nat.le_refl s.drawn)))

theorem arranges_accept (id : IssueId) :
    (accept limits user id).Ensures around (Arranges (Settling around (fun _ _ => False)
      (fun other kind entry => kind = .my ∧ entry ∈ (s.store.lists other).list .inbox) s) s) s := by
  have hreadable := h.unique.orderly.readable
  refine ensures_bind (ensures_requireIssue (hreadable.records id) (fun _ => rfl) fun issue _ => ?_)
  refine ensures_bind (ensures_updateLists (fun _ _ => rfl) fun revised entry _ haccepted => ?_)
  obtain ⟨held, rfl⟩ := acceptEntry_exact haccepted
  have hsettles : s.store.Settles (fun _ _ => False)
      (fun other kind entry => kind = .my ∧ entry ∈ (s.store.lists other).list .inbox)
      (s.store.withLists user (((s.store.lists user).erase .inbox entry.id).pushed .my entry)) := by
    refine (Store.settles_replaced (h.unique.orderly.distinct user) held .my entry).mono
      (fun _ _ => False.elim) ?_
    rintro other kind entry' ⟨rfl, rfl, rfl⟩
    exact ⟨rfl, held⟩
  refine ensures_bind (ensures_livingCounterpart (fun link _ => (hreadable.withLists _ _).lists _)
    (fun _ _ _ _ => ?_) fun _ => ?_)
  · exact settling_of_settles hsettles
  · exact settling_of_settles hsettles

/-- The two halves of a sent todo come, each to its own list. -/
theorem arranges_send (receiver : UserId) (draft : Draft) :
    (send limits user receiver draft).Ensures around
      (Arranges (Settling around (fun _ _ => False) nothing s) s) s := by
  rw [send]
  split
  · exact rfl
  · next hother =>
    refine ensures_bind (ensures_of_idle (idle_requireUser receiver) (fun _ => ?_) fun _ => rfl)
    refine ensures_bind (ensures_bind (ensures_freshId (ensures_bind (ensures_now fun now => ?_))))
    refine ensures_bind (ensures_bind (ensures_freshId ?_))
    refine ensures_bind (ensures_saveIssue (ensures_bind (ensures_saveIssue ?_)))
    refine ensures_bind (ensures_pushEntry ?_ (ensures_bind (ensures_pushEntry ?_ ?_)))
    · exact ((h.unique.orderly.listsReadable user).insert_issue _ _).insert_issue _ _
    · exact (((h.unique.orderly.listsReadable receiver).insert_issue _ _).insert_issue _ _).withLists _ _
    · obtain ⟨hsent, hreceived⟩ := @mem_drawn_twice around s s (Nat.le_refl _)
      have hsaved (raw raw' : String) : s.store.Settles (fun _ _ => False) nothing
          (Table.insert (s.store.insert (Issue.key (around.supply s.drawn)) raw)
            (Issue.key (around.supply (s.drawn + 1))) raw') :=
        ((s.store.settles_self nothing).of_lists (s.store.lists_insert_issue _ _)).of_lists
          (Store.lists_insert_issue _ _ _)
      refine Store.Settles.pushed _ ((hsaved _ _).pushed (fun _ kind entry => kind = .out ∧
        entry.id ∈ around.drawn s { s with drawn := s.drawn + 1 + 1 }) (fun _ hnone => hnone)
        (fun _ _ _ => False.elim) ⟨rfl, hsent⟩) (fun entry hout => ?_) (fun _ _ _ hout => .inl hout.2)
        (.inl hreceived)
      cases hout.1

/-- The entry of the issue leaves its place. -/
def leaves (user : UserId) (id : IssueId) : UserId → IssueId → Prop :=
  fun other own => other = user ∧ own = id

/-- The entry of the issue comes to the end of a list of the holder's, and that is no list of received todos. -/
def returns (user : UserId) (id : IssueId) : UserId → ListKind → Entry → Prop :=
  fun other kind entry => other = user ∧ kind ≠ .inbox ∧ entry.id = id

theorem settles_returned {kind kind' : ListKind} {old new : Entry} (held : old ∈ (s.store.lists user).list kind)
    (hkind : kind' ≠ .inbox) (hsame : new.id = old.id) {store : Store} (hlists : store.lists = s.store.lists) :
    s.store.Settles (leaves user old.id) (returns user old.id)
      (store.withLists user (((store.lists user).erase kind old.id).pushed kind' new)) := by
  have hreplaced : s.store.Settles (leaves user old.id) (returns user old.id)
      (s.store.withLists user (((s.store.lists user).erase kind old.id).pushed kind' new)) := by
    refine (Store.settles_replaced (h.unique.orderly.distinct user) held kind' new).mono (fun _ _ => id) ?_
    rintro other kind'' entry ⟨rfl, rfl, rfl⟩
    exact ⟨rfl, hkind, hsame⟩
  refine hreplaced.of_lists ?_
  rw [Store.lists_withLists, Store.lists_withLists, hlists]

theorem arranges_keep (id : IssueId) (issue : Issue) :
    (keep limits user issue id).Ensures around
      (Arranges (Settling around (leaves user id) (returns user id) s) s) s := by
  have hreadable := h.unique.orderly.readable
  refine ensures_bind (ensures_updateLists (fun _ _ => rfl) fun revised old _ hreplaced => ?_)
  obtain ⟨kind, held, rfl, rfl⟩ := replaceEntry_exact hreplaced
  have hsettles := settles_returned h held (by decide : ListKind.my ≠ .inbox)
    (rfl : (Entry.unlinked old.id).id = old.id) rfl
  refine ensures_bind (ensures_mono (settles_dissolve (hreadable.withLists _ _) hsettles
    fun link hlink _ _ hcome => h.other user kind old link held hlink hcome.1) ?_)
  rintro outcome s' ⟨⟨previous, rfl⟩, hsettles', -, -⟩
  exact settling_of_settles hsettles'

theorem arranges_handOver {newOwner : UserId} (hother : user ≠ newOwner) (id : IssueId) (issue : Issue) :
    (handOver limits user newOwner issue id).Ensures around
      (Arranges (Settling around (leaves user id) (returns user id) s) s) s := by
  have hreadable := h.unique.orderly.readable
  refine ensures_bind (ensures_bind (ensures_freshId (ensures_bind (ensures_saveIssue ?_))))
  have hlists : Store.lists (s.store.insert (Issue.key (issue.counterpart (around.supply s.drawn)).id)
      (Issue.codec.encode (issue.counterpart (around.supply s.drawn)))) = s.store.lists :=
    s.store.lists_insert_issue _ _
  refine ensures_bind (ensures_attempt
    (ensures_updateLists (fun failure _ => ?_) fun revised old _ hreplaced => ?_))
  · exact ensures_bind (ensures_deleteIssue ((Store.lists_erase_issue _ _).trans hlists))
  · obtain ⟨kind, held, rfl, rfl⟩ := replaceEntry_exact hreplaced
    have held : old ∈ (s.store.lists user).list kind := hlists ▸ held
    have hsettles := settles_returned h held (by decide : ListKind.out ≠ .inbox)
      (rfl : (Entry.linked old.id ⟨newOwner, around.supply s.drawn⟩).id = old.id) hlists
    have hsaved := hreadable.insert_issue (around.supply s.drawn) (issue.counterpart (around.supply s.drawn))
    refine ensures_bind (ensures_mono (settles_dissolve (hsaved.withLists _ _) hsettles
      fun link hlink _ _ hcome => h.other user kind old link held hlink hcome.1) ?_)
    rintro outcome s' ⟨⟨previous, rfl⟩, hsettles', hreadable', hdrawn⟩
    have hnew : around.supply s.drawn ∈ around.drawn s s' := by
      rw [Surroundings.drawn, hdrawn]
      exact mem_drawn (Nat.le_refl _)
    refine ensures_bind (ensures_pushEntry (hreadable'.lists newOwner) ?_)
    exact hsettles'.pushed _ (fun _ hcome => hother hcome.1.symm) (fun _ _ _ hcome => .inr hcome) (.inl hnew)

theorem arranges_reassign (newOwner : UserId) (id : IssueId) :
    (reassign limits id user newOwner).Ensures around
      (Arranges (Settling around (leaves user id) (returns user id) s) s) s := by
  refine ensures_bind (ensures_of_idle (idle_requireIssue id) (fun issue => ?_) fun _ => rfl)
  rw [andThen]
  split
  · exact arranges_keep h id issue
  · next hother =>
    refine ensures_bind (ensures_of_idle (idle_requireUser newOwner) (fun _ => ?_) fun _ => rfl)
    exact arranges_handOver h hother id issue

/-! ## Bumps -/

omit h in
/-- The lists in which a bump has moved an entry. -/
theorem bumpEntry_moved {sender : UserId} {sent received : IssueId} {lists : UserLists}
    (hmoved : (bumpEntry sender sent received lists).2 = true) :
    ∃ entry ∈ lists.list .inbox, entry.id = received ∧ (bumpEntry sender sent received lists).1 =
      lists.withList .inbox (entry :: (lists.list .inbox).eraseP (UserLists.names received)) := by
  revert hmoved
  rw [bumpEntry]
  split
  · split
    · next moved hmoved =>
      intro _
      obtain ⟨⟨entry, rest⟩, hremoved, rfl⟩ := Option.map_eq_some_iff.1 hmoved
      obtain ⟨held, hid, rfl⟩ := UserLists.removeFrom_eq_some hremoved
      refine ⟨entry, held, hid, ?_⟩
      rw [hid]
      rfl
    · exact fun hmoved => by cases hmoved
  · exact fun hmoved => by cases hmoved

/-- The received half of a sent todo is taken to the head of its list. -/
structure Raises (before : Store) (sender : UserId) (sent : IssueId) (link : Link) (after : Store) : Prop where
  linked : ∃ entry ∈ (before.lists sender).list .out, entry.id = sent ∧ entry.link = some link
  raised : ∃ entry ∈ (before.lists link.user).list .inbox, entry.id = link.issue ∧
    after.lists = Function.update before.lists link.user ((before.lists link.user).withList .inbox
      (entry :: ((before.lists link.user).list .inbox).eraseP (UserLists.names link.issue)))

omit h in
theorem Raises.others {before after : Store} {sender : UserId} {sent : IssueId} {link : Link}
    (hraises : Raises before sender sent link after) {holder : UserId} {kind : ListKind}
    (hother : ¬ (holder = link.user ∧ kind = .inbox)) :
    (after.lists holder).list kind = (before.lists holder).list kind := by
  obtain ⟨-, entry, -, -, hlists⟩ := hraises
  rw [hlists]
  by_cases hholder : holder = link.user
  · subst hholder
    rw [Function.update_self, UserLists.list_withList_of_ne _ _ fun hkind => hother ⟨rfl, hkind⟩]
  · rw [Function.update_of_ne hholder]

omit h in
/-- The list with the raised entry, when its issue is listed once. -/
theorem Raises.inbox {before after : Store} {sender : UserId} {sent : IssueId} {link : Link}
    (hraises : Raises before sender sent link after) (hdistinct : (before.lists link.user).Distinct) :
    ∃ entry rest, (after.lists link.user).list .inbox = entry :: rest ∧ entry.id = link.issue ∧
      entry ∈ (before.lists link.user).list .inbox ∧ rest.Sublist ((before.lists link.user).list .inbox) ∧
      ∀ other ∈ rest, other.id ≠ link.issue := by
  obtain ⟨-, entry, held, hid, hlists⟩ := hraises
  have hrest : ((before.lists link.user).erase .inbox entry.id).list .inbox =
      ((before.lists link.user).list .inbox).eraseP (UserLists.names entry.id) :=
    UserLists.list_withList_self _ _ _
  refine ⟨entry, ((before.lists link.user).erase .inbox entry.id).list .inbox, ?_, hid, held,
    UserLists.list_erase_sublist _ _ _ _, fun other hother => ?_⟩
  · rw [hlists, Function.update_self, UserLists.list_withList_self, hrest, hid]
  · rw [← hid]
    exact UserLists.ne_of_mem_erase hdistinct held hother

theorem arranges_bump (id : IssueId) : (bump limits user id).Ensures around
    (Arranges (fun s' => ∃ link, Raises s.store user id link s'.store) s) s := by
  have hreadable := h.unique.orderly.readable
  refine ensures_bind (ensures_loadLists (hreadable.lists user) ?_)
  refine ensures_bind (ensures_ofExcept (fun entry hentry => ?_) fun _ _ => rfl)
  have hfound := require_eq_ok hentry
  have hid : entry.id = id := by simpa [UserLists.names] using List.find?_some hfound
  rw [andThen]
  cases hlink : entry.link with
  | none => exact rfl
  | some link =>
    refine ensures_bind (ensures_requireIssue (hreadable.records id) (fun _ => rfl) fun issue _ => ?_)
    refine ensures_bind (ensures_updateLists (fun _ _ => rfl) fun revised moved _ hbumped => ?_)
    have hrevised : (bumpEntry user id link.issue (s.store.lists link.user)).1 = revised :=
      congrArg Prod.fst (Except.ok.inj hbumped)
    have hmoved : (bumpEntry user id link.issue (s.store.lists link.user)).2 = moved :=
      congrArg Prod.snd (Except.ok.inj hbumped)
    subst hrevised
    cases moved with
    | false =>
      rw [bumpEntry_refused hmoved, Store.withLists_self]
      exact rfl
    | true =>
      obtain ⟨half, held, hhalf, heq⟩ := bumpEntry_moved hmoved
      refine ⟨link, ⟨entry, List.mem_of_find?_eq_some hfound, hid, hlink⟩, half, held, hhalf, ?_⟩
      rw [Scene.withStore_store, Store.lists_withLists, heq]

/-! ## Edits -/

omit h in
theorem lists_editRecord (id : IssueId) (change : Edit) :
    (editRecord limits id change).Retains around fun s => s.store.lists :=
  fun s => ensures_update (fun _ _ => rfl) fun new _ _ => s.store.lists_rewrite_issue id new

omit h in
/-- An edit writes records only. -/
theorem lists_edit (id : IssueId) (change : Edit) :
    (edit limits user id change).Retains around fun s => s.store.lists := by
  refine retains_bind (retains_of_idle (idle_loadLists user)) fun lists => ?_
  refine retains_bind (retains_of_idle (idle_ofExcept _)) fun located => ?_
  refine retains_bind (lists_editRecord id change) fun message => ?_
  refine retains_bind (retains_of_idle (idle_ofExcept _)) fun oldMessage => ?_
  refine retains_bind (retains_of_idle (idle_livingCounterpart user located.entry)) fun counterpart => ?_
  refine retains_bind ?_ fun _ => retains_pure _
  cases counterpart with
  | none => exact retains_pure _
  | some link =>
    refine retains_bind (lists_editRecord link.issue change) fun message => ?_
    cases message <;> exact retains_pure _

end

/-! ## All operations but bumps -/

namespace Action

/-- The entries that an action lets leave their places without taking them from their holder. -/
def leaving : Action → UserId → IssueId → Prop
  | reassign user id _ => leaves user id
  | _ => fun _ _ => False

/-- The entries that an action lets come to a list, apart from those of new issues. -/
def coming (store : Store) : Action → UserId → ListKind → Entry → Prop
  | accept _ _ => fun other kind entry => kind = .my ∧ entry ∈ (store.lists other).list .inbox
  | reassign user id _ => returns user id
  | _ => nothing

/-- Only entries of new issues come to lists of received todos. -/
theorem not_coming_inbox {store : Store} {action : Action} {holder : UserId} {entry : Entry} :
    ¬ coming store action holder .inbox entry := by
  intro hcome
  cases action with
  | accept user id => cases hcome.1
  | reassign user id newOwner => exact hcome.2.1 rfl
  | _ => exact hcome

end Action

theorem arranges_action (h : s.store.Consistent) {action : Action}
    (hbump : ∀ user id, action ≠ .bump user id) :
    (action.program limits).Ensures around
      (Arranges (Settling around action.leaving (action.coming s.store) s) s) s := by
  cases action with
  | add user draft => exact arranges_reported (arranges_add h draft)
  | send user receiver draft => exact arranges_reported (arranges_send h receiver draft)
  | pop user => exact arranges_reported (arranges_pop h)
  | complete user id => exact arranges_reported (arranges_take h id)
  | accept user id => exact arranges_reported (arranges_accept h id)
  | remove user id => exact arranges_reported (arranges_remove h id)
  | bump user id => exact absurd rfl (hbump user id)
  | edit user id change =>
    refine arranges_reported (ensures_mono (lists_edit id change s) fun outcome s' hlists => ?_)
    cases outcome with
    | ok edited => exact (s.store.settles_self _).of_lists hlists
    | error failure => exact hlists
    | unfinished => exact hlists
  | reassign user id newOwner => exact arranges_reported (arranges_reassign h newOwner id)

end Exchange

end SharedTodo
