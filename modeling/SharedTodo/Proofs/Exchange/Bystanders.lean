import SharedTodo.Proofs.Exchange.Deletion

/-!
# Bystanders

An operation works on entries that its user holds and follows their links, living or not, into the lists and
records of somebody else. A scope says what it may touch on the way: some entries, each by its holder and its
issue, some records, and the lists that are to get entries of new issues. Everything else stands by
(`Scene.Within`). Documents outside of the scope are as they were, and so are, in documents that it reaches
into, all entries but those of the scope, in their order.

Nothing is asked of the store: links may dangle or be stale, issues may be listed twice, and documents may be
unreadable. The removal of the first todo is the one operation that finds a record by what a document says
and not by its key, so that it stays in its scope as long as the records of the own list carry their own
identifiers (`Action.Faithful`, `misfiled_record_deleted`).
-/

namespace SharedTodo

/-! ## Scopes -/

/-- What an operation may touch. -/
structure Scope where
  /-- Entries that may go, come or move, by their holder and their issue. -/
  entries : List (UserId × IssueId)
  /-- Issues whose records may be written or deleted. -/
  records : List IssueId
  /-- Users who may get entries of new issues. -/
  hosts : List UserId

/-- The identifiers drawn between two scenes. -/
def Surroundings.drawn (around : Surroundings) (before after : Scene) : List IssueId :=
  (List.range' before.drawn (after.drawn - before.drawn)).map around.supply

namespace Scope

/-- The user's entry is out of reach, where some issues are new. -/
def spares (scope : Scope) (new : List IssueId) (user : UserId) (entry : Entry) : Bool :=
  (user, entry.id) ∉ scope.entries ∧ ¬ (user ∈ scope.hosts ∧ entry.id ∈ new)

/-- The user's entry and its counterpart are in the scope, with their records. -/
structure Covers (scope : Scope) (user : UserId) (entry : Entry) : Prop where
  own : (user, entry.id) ∈ scope.entries ∧ entry.id ∈ scope.records
  linked : ∀ link, entry.link = some link →
    (link.user, link.issue) ∈ scope.entries ∧ link.issue ∈ scope.records

theorem spares_of_mem {scope : Scope} {new : List IssueId} {user : UserId} {entry : Entry}
    (h : (user, entry.id) ∈ scope.entries) : scope.spares new user entry = false := by
  simp [spares, h]

theorem spares_of_new {scope : Scope} {new : List IssueId} {user : UserId} {entry : Entry}
    (hhost : user ∈ scope.hosts) (hnew : entry.id ∈ new) : scope.spares new user entry = false := by
  simp [spares, hhost, hnew]

end Scope

namespace Scene

variable {around : Surroundings} {scope : Scope} {s₀ s : Scene} {user : UserId} {id : IssueId}
  {lists : UserLists}

/-- What has happened between two scenes has happened within the scope. -/
structure Within (around : Surroundings) (scope : Scope) (before after : Scene) : Prop where
  drawn : before.drawn ≤ after.drawn
  lists : ∀ user, user ∉ scope.hosts → (∀ id, (user, id) ∉ scope.entries) →
    after.store.find? (UserLists.key user) = before.store.find? (UserLists.key user)
  records : ∀ id, id ∉ scope.records → id ∉ around.drawn before after →
    after.store.find? (Issue.key id) = before.store.find? (Issue.key id)
  others : ∀ key, (∀ user, key ≠ UserLists.key user) → (∀ id, key ≠ Issue.key id) →
    after.store.find? key = before.store.find? key
  /-- The entries that are out of reach, in their order. -/
  entries : ∀ user kind,
    ((after.store.lists user).list kind).filter (scope.spares (around.drawn before after) user) =
      ((before.store.lists user).list kind).filter (scope.spares (around.drawn before after) user)

theorem Within.refl (s : Scene) : Within around scope s s :=
  ⟨Nat.le_refl _, fun _ _ _ => rfl, fun _ _ _ => rfl, fun _ _ _ => rfl, fun _ _ => rfl⟩

/-! ## Single steps -/

theorem Within.withLists (h : Within around scope s₀ s)
    (hin : user ∈ scope.hosts ∨ ∃ id, (user, id) ∈ scope.entries)
    (hlists : ∀ kind, (lists.list kind).filter (scope.spares (around.drawn s₀ s) user) =
      ((s.store.lists user).list kind).filter (scope.spares (around.drawn s₀ s) user)) :
    Within around scope s₀ (s.withStore (s.store.withLists user lists)) where
  drawn := h.drawn
  lists other hhost hentries := by
    have hother : other ≠ user := by
      rintro rfl
      obtain hin | ⟨id, hid⟩ := hin
      · exact hhost hin
      · exact hentries id hid
    exact (Store.find?_withLists_other hother lists).trans (h.lists other hhost hentries)
  records id hrecord hnew := (s.store.find?_withLists_issue user lists id).trans (h.records id hrecord hnew)
  others key hlists' hissues :=
    (Store.find?_withLists_of_ne (hlists' user) lists).trans (h.others key hlists' hissues)
  entries other kind := by
    refine Eq.trans ?_ (h.entries other kind)
    rw [withStore_store, Store.lists_withLists]
    by_cases hother : other = user
    · subst hother
      rw [Function.update_self]
      exact hlists kind
    · rw [Function.update_of_ne hother]
      rfl

theorem Within.erased (h : Within around scope s₀ s) (hid : (user, id) ∈ scope.entries) (kind : ListKind) :
    Within around scope s₀ (s.withStore (s.store.withLists user ((s.store.lists user).erase kind id))) :=
  h.withLists (.inr ⟨id, hid⟩) fun other => UserLists.filter_erase _ kind
    (fun _ heq => Scope.spares_of_mem (heq ▸ hid)) other

theorem Within.pushed (h : Within around scope s₀ s) (hhost : user ∈ scope.hosts) (kind : ListKind)
    (entry : Entry) (hnew : entry.id ∈ around.drawn s₀ s) :
    Within around scope s₀ (s.withStore (s.store.withLists user ((s.store.lists user).pushed kind entry))) :=
  h.withLists (.inl hhost) fun other => UserLists.filter_pushed _ kind (Scope.spares_of_new hhost hnew) other

/-- An entry makes way for another one of the same issue. -/
theorem Within.replaced (h : Within around scope s₀ s) {old : Entry} (hid : (user, old.id) ∈ scope.entries)
    (kind kind' : ListKind) (new : Entry) (hsame : new.id = old.id) :
    Within around scope s₀
      (s.withStore (s.store.withLists user (((s.store.lists user).erase kind old.id).pushed kind' new))) :=
  h.withLists (.inr ⟨old.id, hid⟩) fun other =>
    (UserLists.filter_pushed _ kind' (Scope.spares_of_mem (hsame ▸ hid)) other).trans
      (UserLists.filter_erase _ kind (fun _ heq => Scope.spares_of_mem (heq ▸ hid)) other)

theorem Within.record {store : Store} (h : Within around scope s₀ s)
    (hid : id ∈ scope.records ∨ id ∈ around.drawn s₀ s)
    (hstore : ∀ key, key ≠ Issue.key id → store.find? key = s.store.find? key) :
    Within around scope s₀ (s.withStore store) where
  drawn := h.drawn
  lists user hhost hentries :=
    (hstore _ (UserLists.key_ne_key user id)).trans (h.lists user hhost hentries)
  records other hrecord hnew := by
    refine (hstore _ fun hkey => ?_).trans (h.records other hrecord hnew)
    obtain rfl := Issue.key_injective hkey
    exact hid.elim hrecord hnew
  others key hlists hissues := (hstore key (hissues id)).trans (h.others key hlists hissues)
  entries user kind := by
    refine Eq.trans ?_ (h.entries user kind)
    rw [withStore_store, Store.lists_eq (hstore _ (UserLists.key_ne_key user id))]
    rfl

theorem drawn_succ (h : s₀.drawn ≤ s.drawn) :
    around.drawn s₀ { s with drawn := s.drawn + 1 } = around.drawn s₀ s ++ [around.supply s.drawn] := by
  have hcount : s.drawn + 1 - s₀.drawn = s.drawn - s₀.drawn + 1 := by omega
  have hlast : s₀.drawn + (s.drawn - s₀.drawn) = s.drawn := by omega
  simp only [Surroundings.drawn, hcount, List.range'_1_concat, hlast, List.map_append, List.map_singleton]

theorem Within.draw (h : Within around scope s₀ s) :
    Within around scope s₀ { s with drawn := s.drawn + 1 } where
  drawn := Nat.le_succ_of_le h.drawn
  lists := h.lists
  records id hrecord hnew := by
    rw [drawn_succ h.drawn, List.mem_append, not_or] at hnew
    exact h.records id hrecord hnew.1
  others := h.others
  entries user kind := by
    -- what is still out of reach was so before
    have hfewer (entries : List Entry) :
        entries.filter (scope.spares (around.drawn s₀ { s with drawn := s.drawn + 1 }) user) =
          (entries.filter (scope.spares (around.drawn s₀ s) user)).filter
            (scope.spares (around.drawn s₀ { s with drawn := s.drawn + 1 }) user) := by
      rw [List.filter_filter]
      refine List.filter_congr fun entry _ => ?_
      rw [drawn_succ h.drawn]
      simp only [Scope.spares, List.mem_append]
      grind
    rw [hfewer, hfewer ((s₀.store.lists user).list kind), h.entries user kind]

end Scene

/-! ## Programs that stay within a scope -/

namespace Program

variable {ε δ α β : Type} {around : Surroundings} {scope : Scope} {s₀ s : Scene}

/-- From wherever it starts within the scope, the program stays there. -/
def Stays (around : Surroundings) (scope : Scope) (s₀ : Scene) (program : Program ε α) : Prop :=
  ∀ s, s₀.Within around scope s → program.Ensures around (fun _ s' => s₀.Within around scope s') s

theorem stays_of_idle {program : Program ε α} (h : program.Idle around) : program.Stays around scope s₀ :=
  fun _ hs => ensures_of_idle h (fun _ => hs) fun _ => hs

theorem stays_pure (value : α) : (pure value : Program ε α).Stays around scope s₀ :=
  stays_of_idle (idle_pure value)

theorem Stays.after {program : Program ε α} {next : α → Program ε β}
    (h : program.Ensures around (fun _ s' => s₀.Within around scope s') s)
    (hnext : ∀ value, (next value).Stays around scope s₀) :
    (program >>= next).Ensures around (fun _ s' => s₀.Within around scope s') s := by
  refine ensures_bind (ensures_mono h fun outcome s' hs' => ?_)
  cases outcome with
  | ok value => exact hnext value s' hs'
  | error failure => exact hs'
  | unfinished => exact hs'

theorem stays_bind {program : Program ε α} {next : α → Program ε β} (h : program.Stays around scope s₀)
    (hnext : ∀ value, (next value).Stays around scope s₀) : (program >>= next).Stays around scope s₀ :=
  fun s hs => Stays.after (h s hs) hnext

theorem ensures_and {program : Program ε α} {result result' : Result ε α}
    (h : program.Ensures around result s) (h' : program.Ensures around result' s) :
    program.Ensures around (fun outcome s' => result outcome s' ∧ result' outcome s') s := by
  induction program generalizing s with
  | ended outcome => exact ⟨h, h'⟩
  | call c next ih => exact fun reply s' hreplies => ih reply (h reply s' hreplies) (h' reply s' hreplies)

end Program

namespace Exchange

open Program

section

variable {around : Surroundings} {scope : Scope} {s₀ s : Scene} {limits : Limits} {user other : UserId}
  {id : IssueId} {entry : Entry}

/-- Lists are loaded, or cannot be read. -/
theorem ensures_loadLists_of_any {result : Result OperationError UserLists}
    (hloaded : result (.ok (s.store.lists user)) s) (hfailed : ∀ failure, result (.error failure) s) :
    (loadLists user).Ensures around result s := by
  refine ensures_bind (ensures_get ?_)
  rw [andThen]
  refine ensures_ofExcept (fun lists hlists => ?_) fun failure _ => hfailed failure
  rw [Store.lists, hlists] at hloaded
  exact hloaded

/-- The record of a new issue is stored. -/
theorem within_saveIssue (hs : s₀.Within around scope s) (issue : Issue)
    (hnew : issue.id ∈ around.drawn s₀ s) :
    s₀.Within around scope (s.withStore (s.store.insert (Issue.key issue.id) (Issue.codec.encode issue))) :=
  hs.record (.inr hnew) fun key hkey => (s.store.find?_insert _ key _).trans (if_neg hkey)

theorem stays_deleteIssue (hid : id ∈ scope.records) : (deleteIssue id).Stays around scope s₀ :=
  fun _ hs => ensures_deleteIssue (hs.record (.inl hid) fun _ => Store.find?_erase_of_ne)

theorem stays_editRecord (hid : id ∈ scope.records) (edit : Edit) :
    (editRecord limits id edit).Stays around scope s₀ := by
  refine fun s hs => ensures_update (fun _ _ => hs) fun new _ _ => hs.record (.inl hid) fun key hkey => ?_
  exact (s.store.find?_rewrite _ key new).trans (if_neg hkey)

theorem takeCounterpart_fst (owner : UserId) (own foreign : IssueId) (lists : UserLists) :
    (takeCounterpart owner own foreign lists).1 = lists ∨
      ∃ kind, (takeCounterpart owner own foreign lists).1 = lists.erase kind foreign := by
  rw [takeCounterpart]
  split
  · exact .inl rfl
  · split
    · exact .inr ⟨_, rfl⟩
    · exact .inl rfl

theorem stays_dissolve (hcovers : scope.Covers user entry) :
    (dissolve limits user entry).Stays around scope s₀ := by
  rw [dissolve]
  cases hlink : entry.link with
  | none => exact stays_pure none
  | some link =>
    obtain ⟨hentry, hrecord⟩ := hcovers.linked link hlink
    refine stays_bind (fun s hs => ensures_updateLists (fun _ _ => hs) fun revised half _ htaken => ?_)
      fun half => ?_
    · have hrevised : (takeCounterpart user entry.id link.issue (s.store.lists link.user)).1 = revised :=
        congrArg Prod.fst (Except.ok.inj htaken)
      rw [← hrevised]
      obtain hsame | ⟨kind, herased⟩ :=
        takeCounterpart_fst user entry.id link.issue (s.store.lists link.user)
      · rw [hsame, Store.withLists_self]
        exact hs
      · rw [herased]
        exact hs.erased hentry kind
    · cases half with
      | removed => exact stays_bind (stays_deleteIssue hrecord) fun _ => stays_pure _
      | missing => exact stays_bind (stays_deleteIssue hrecord) fun _ => stays_pure _
      | stale => exact stays_pure none

theorem undrawn_updateLists {α : Type} {change : UserLists → Except OperationError (UserLists × α)} :
    (updateLists limits user change).Retains around Scene.drawn :=
  fun _ => ensures_updateLists (fun _ _ => rfl) fun _ _ _ _ => rfl

theorem undrawn_deleteIssue (id : IssueId) : (deleteIssue id).Retains around Scene.drawn :=
  fun _ => ensures_deleteIssue rfl

theorem undrawn_dissolve (entry : Entry) : (dissolve limits user entry).Retains around Scene.drawn := by
  rw [dissolve]
  split
  · exact retains_pure none
  · next link _ =>
    refine retains_bind undrawn_updateLists fun half => ?_
    cases half with
    | removed => exact retains_bind (undrawn_deleteIssue link.issue) fun _ => retains_pure _
    | missing => exact retains_bind (undrawn_deleteIssue link.issue) fun _ => retains_pure _
    | stale => exact retains_pure none

/-! ## Operations -/

/-- All of the user's entries of an issue are covered. -/
def CoversIssue (scope : Scope) (store : Store) (user : UserId) (id : IssueId) : Prop :=
  ∀ kind, ∀ entry ∈ (store.lists user).list kind, entry.id = id → scope.Covers user entry

theorem within_take (hs : s₀.Within around scope s) (hcovers : CoversIssue scope s.store user id) :
    (take limits user id).Ensures around (fun _ s' => s₀.Within around scope s') s := by
  refine ensures_bind (ensures_of_idle (idle_requireIssue id) (fun issue => ?_) fun _ => hs)
  refine ensures_bind (ensures_updateLists (fun _ _ => hs) fun revised located _ htaken => ?_)
  obtain ⟨held, rfl, rfl⟩ := takeEntry_exact htaken
  have hcovers := hcovers located.list located.entry held rfl
  exact stays_bind (stays_dissolve hcovers)
    (fun _ => stays_bind (stays_deleteIssue hcovers.own.2) fun _ => stays_pure _) _ (hs.erased hcovers.own.1 _)

theorem within_accept (hs : s₀.Within around scope s) (hcovers : CoversIssue scope s.store user id) :
    (accept limits user id).Ensures around (fun _ s' => s₀.Within around scope s') s := by
  refine ensures_bind (ensures_of_idle (idle_requireIssue id) (fun issue => ?_) fun _ => hs)
  refine ensures_bind (ensures_updateLists (fun _ _ => hs) fun revised entry _ haccepted => ?_)
  obtain ⟨⟨entry', rest⟩, hremoved, hpair⟩ := map_require_eq_ok haccepted
  cases hpair
  obtain ⟨held, hid, rfl⟩ := UserLists.removeFrom_eq_some hremoved
  have hcovers := hcovers .inbox entry held hid
  exact stays_bind (stays_of_idle (idle_livingCounterpart user entry)) (fun _ => stays_pure _) _
    (hs.replaced hcovers.own.1 .inbox .my entry rfl)

/-- A bump moves the receiver's entry at most. -/
theorem filter_bumpEntry {picks : Entry → Bool} {received : IssueId}
    (h : ∀ entry, entry.id = received → picks entry = false) (sender : UserId) (sent : IssueId)
    (lists : UserLists) (kind : ListKind) :
    (((bumpEntry sender sent received lists).1).list kind).filter picks = (lists.list kind).filter picks := by
  rw [bumpEntry]
  split
  · split
    · next hmoved => exact UserLists.filter_moveToFront hmoved h kind
    · rfl
  · rfl

theorem within_bump (hs : s₀.Within around scope s) (hcovers : CoversIssue scope s.store user id) :
    (bump limits user id).Ensures around (fun _ s' => s₀.Within around scope s') s := by
  refine ensures_bind (ensures_loadLists_of_any ?_ fun _ => hs)
  refine ensures_bind (ensures_ofExcept (fun entry hentry => ?_) fun _ _ => hs)
  have hfound := require_eq_ok hentry
  have hid : entry.id = id := by simpa [UserLists.names] using List.find?_some hfound
  have hcovers := hcovers .out entry (List.mem_of_find?_eq_some hfound) hid
  rw [andThen]
  cases hlink : entry.link with
  | none => exact hs
  | some link =>
    refine ensures_bind (ensures_of_idle (idle_requireIssue id) (fun issue => ?_) fun _ => hs)
    refine ensures_bind (ensures_updateLists (fun _ _ => hs) fun revised bumped _ hbumped => ?_)
    have hrevised : (bumpEntry user id link.issue (s.store.lists link.user)).1 = revised :=
      congrArg Prod.fst (Except.ok.inj hbumped)
    have hmoved : s₀.Within around scope (s.withStore (s.store.withLists link.user revised)) := by
      obtain ⟨hin, -⟩ := hcovers.linked link hlink
      refine hs.withLists (.inr ⟨link.issue, hin⟩) fun kind => ?_
      rw [← hrevised]
      exact filter_bumpEntry (fun _ heq => Scope.spares_of_mem (heq ▸ hin)) user id _ kind
    rw [andThen]
    cases bumped <;> exact hmoved

/-- The living counterpart is where the entry's link leads. -/
theorem ensures_livingCounterpart_of_any {result : Result OperationError (Option Link)}
    (hnone : result (.ok none) s) (hliving : ∀ link, entry.link = some link → result (.ok (some link)) s)
    (hfailed : ∀ failure, result (.error failure) s) :
    (livingCounterpart user entry).Ensures around result s := by
  rw [livingCounterpart]
  cases hlink : entry.link with
  | none => exact hnone
  | some link =>
    refine ensures_bind (ensures_loadLists_of_any ?_ hfailed)
    rw [andThen]
    split
    · exact hliving link hlink
    · exact hnone

theorem within_edit (hs : s₀.Within around scope s) (hcovers : CoversIssue scope s.store user id)
    (change : Edit) :
    (edit limits user id change).Ensures around (fun _ s' => s₀.Within around scope s') s := by
  refine ensures_bind (ensures_loadLists_of_any ?_ fun _ => hs)
  refine ensures_bind (ensures_ofExcept (fun located hlocated => ?_) fun _ _ => hs)
  obtain ⟨held, rfl⟩ := UserLists.find_eq_some (require_eq_ok hlocated)
  have hcovers := hcovers located.list located.entry held rfl
  refine stays_bind (stays_editRecord hcovers.own.2 change) (fun message => ?_) s hs
  refine stays_bind (stays_of_idle (idle_ofExcept _)) fun oldMessage => fun s₁ hs₁ => ?_
  refine ensures_bind (ensures_livingCounterpart_of_any ?_ (fun link hlink => ?_) fun _ => hs₁)
  · exact hs₁
  · refine stays_bind (stays_bind (stays_editRecord (hcovers.linked link hlink).2 change) fun message => ?_)
      (fun _ => stays_pure _) s₁ hs₁
    cases message <;> exact stays_pure _

theorem within_keep (hs : s₀.Within around scope s) (hcovers : CoversIssue scope s.store user id)
    (issue : Issue) :
    (keep limits user issue id).Ensures around (fun _ s' => s₀.Within around scope s') s := by
  refine ensures_bind (ensures_updateLists (fun _ _ => hs) fun revised old _ hreplaced => ?_)
  obtain ⟨kind, held, hid, rfl⟩ := replaceEntry_exact hreplaced
  have hcovers := hcovers kind old held hid
  exact stays_bind (stays_dissolve hcovers) (fun _ => stays_pure _) _
    (hs.replaced hcovers.own.1 kind .my _ hid.symm)

theorem mem_drawn (h : s₀.drawn ≤ s.drawn) :
    around.supply s.drawn ∈ around.drawn s₀ { s with drawn := s.drawn + 1 } := by
  rw [Scene.drawn_succ h]
  exact List.mem_append_right _ (List.mem_singleton_self _)

theorem mem_drawn_twice (h : s₀.drawn ≤ s.drawn) :
    around.supply s.drawn ∈ around.drawn s₀ { s with drawn := s.drawn + 1 + 1 } ∧
      around.supply (s.drawn + 1) ∈ around.drawn s₀ { s with drawn := s.drawn + 1 + 1 } := by
  have hnext : s₀.drawn ≤ { s with drawn := s.drawn + 1 }.drawn := Nat.le_succ_of_le h
  refine ⟨?_, mem_drawn hnext⟩
  rw [Scene.drawn_succ hnext]
  exact List.mem_append_left _ (mem_drawn h)

theorem within_handOver (hs : s₀.Within around scope s) (hcovers : CoversIssue scope s.store user id)
    {newOwner : UserId} (hhost : newOwner ∈ scope.hosts) (issue : Issue) :
    (handOver limits user newOwner issue id).Ensures around (fun _ s' => s₀.Within around scope s') s := by
  refine ensures_bind (ensures_bind (ensures_freshId (ensures_bind (ensures_saveIssue ?_))))
  have hnew : around.supply s.drawn ∈ around.drawn s₀ { s with drawn := s.drawn + 1 } := mem_drawn hs.drawn
  have hsaved := within_saveIssue hs.draw (issue.counterpart (around.supply s.drawn)) hnew
  refine ensures_bind (ensures_attempt
    (ensures_updateLists (fun failure _ => ?_) fun revised old _ hreplaced => ?_))
  · -- the record of the copy goes again
    refine ensures_bind (ensures_deleteIssue ?_)
    exact hsaved.record (.inr hnew) fun _ => Store.find?_erase_of_ne
  · obtain ⟨kind, held, hid, rfl⟩ := replaceEntry_exact hreplaced
    have hcovers := hcovers kind old (by simpa using held) hid
    have hreplaced := hsaved.replaced hcovers.own.1 kind .out
      (.linked id ⟨newOwner, around.supply s.drawn⟩) hid.symm
    apply ensures_bind
    refine ensures_mono (ensures_and (stays_dissolve hcovers _ hreplaced) (undrawn_dissolve old _)) ?_
    rintro outcome s' ⟨hs', hdrawn⟩
    cases outcome with
    | ok previous =>
      have hstill : around.supply s.drawn ∈ around.drawn s₀ s' := by
        rw [Surroundings.drawn, hdrawn]
        exact hnew
      refine ensures_bind (ensures_updateLists (fun _ _ => hs') fun revised outcome _ hpushed => ?_)
      cases hpushed
      exact hs'.pushed hhost .inbox _ hstill
    | error failure => exact hs'
    | unfinished => exact hs'

theorem within_reassign (hs : s₀.Within around scope s) (hcovers : CoversIssue scope s.store user id)
    {newOwner : UserId} (hhost : newOwner ∈ scope.hosts) :
    (reassign limits id user newOwner).Ensures around (fun _ s' => s₀.Within around scope s') s := by
  refine ensures_bind (ensures_of_idle (idle_requireIssue id) (fun issue => ?_) fun _ => hs)
  rw [andThen]
  split
  · exact within_keep hs hcovers issue
  · refine ensures_bind (ensures_of_idle (idle_requireUser newOwner) (fun _ => ?_) fun _ => hs)
    exact within_handOver hs hcovers hhost issue

theorem within_add (hs : s₀.Within around scope s) (hhost : user ∈ scope.hosts) (draft : Draft) :
    (add limits user draft).Ensures around (fun _ s' => s₀.Within around scope s') s := by
  refine ensures_bind (ensures_bind (ensures_freshId (ensures_bind (ensures_now fun now => ?_))))
  have hnew : around.supply s.drawn ∈ around.drawn s₀ { s with drawn := s.drawn + 1 } := mem_drawn hs.drawn
  have hsaved := within_saveIssue hs.draw (Issue.ofDraft draft (around.supply s.drawn) now) hnew
  refine ensures_bind (ensures_saveIssue ?_)
  refine ensures_bind (ensures_updateLists (fun _ _ => hsaved) fun revised _ _ hpushed => ?_)
  cases hpushed
  exact hsaved.pushed hhost .my _ hnew

theorem within_send (hs : s₀.Within around scope s) {receiver : UserId} (hhost : user ∈ scope.hosts)
    (hreceiver : receiver ∈ scope.hosts) (draft : Draft) :
    (send limits user receiver draft).Ensures around (fun _ s' => s₀.Within around scope s') s := by
  rw [send]
  split
  · exact hs
  · refine ensures_bind (ensures_of_idle (idle_requireUser receiver) (fun _ => ?_) fun _ => hs)
    refine ensures_bind (ensures_bind (ensures_freshId (ensures_bind (ensures_now fun now => ?_))))
    refine ensures_bind (ensures_bind (ensures_freshId ?_))
    obtain ⟨hsent, hreceived⟩ := @mem_drawn_twice around s₀ s hs.drawn
    have hsaved := within_saveIssue hs.draw.draw (Issue.ofDraft draft (around.supply s.drawn) now) hsent
    have hsaved' := within_saveIssue hsaved
      ((Issue.ofDraft draft (around.supply s.drawn) now).counterpart (around.supply (s.drawn + 1))) hreceived
    refine ensures_bind (ensures_saveIssue (ensures_bind (ensures_saveIssue ?_)))
    refine ensures_bind (ensures_updateLists (fun _ _ => hsaved') fun revised _ _ hpushed => ?_)
    cases hpushed
    have hlisted := hsaved'.pushed hhost .out
      (.linked (around.supply s.drawn) ⟨receiver, around.supply (s.drawn + 1)⟩) hsent
    refine ensures_bind (ensures_updateLists (fun _ _ => hlisted) fun revised _ _ hpushed => ?_)
    cases hpushed
    exact hlisted.pushed hreceiver .inbox _ hreceived

/-! ## The first todo -/

/-- The heads that a removal of the first todo takes in some rounds: those without a record, up to the first
one that has one. -/
def heads (store : Store) : Nat → List Entry → List Entry
  | 0, _ => []
  | _, [] => []
  | rounds + 1, entry :: rest =>
    if store.find? (Issue.key entry.id) = none then entry :: heads store rounds rest else [entry]

theorem heads_congr {store store' : Store} (h : ∀ id, store'.find? (Issue.key id) = store.find? (Issue.key id))
    (rounds : Nat) (entries : List Entry) : heads store' rounds entries = heads store rounds entries := by
  induction rounds generalizing entries with
  | zero => rfl
  | succ rounds ih =>
    cases entries with
    | nil => rfl
    | cons entry rest => rw [heads, heads, h, ih]

/-- Records of these entries carry the identifiers that they are stored under. -/
def Named (store : Store) (entries : List Entry) : Prop :=
  ∀ entry ∈ entries, ∀ issue, store.record entry.id = some issue → issue.id = entry.id

/-- A record is loaded, or is not there, or cannot be read. -/
theorem ensures_loadIssue_of_stored {result : Result OperationError (Option Issue)}
    (hmissing : s.store.find? (Issue.key id) = none → result (.ok none) s)
    (hfound : s.store.find? (Issue.key id) ≠ none → ∀ issue, s.store.record id = some issue →
      result (.ok (some issue)) s)
    (hfailed : ∀ failure, result (.error failure) s) : (loadIssue id).Ensures around result s := by
  refine ensures_bind (ensures_get ?_)
  rw [andThen]
  cases hraw : s.store.find? (Issue.key id) with
  | none => exact hmissing hraw
  | some raw =>
    refine ensures_bind (ensures_ofExcept (fun issue hissue => ?_) fun failure _ => hfailed failure)
    refine hfound (by rw [hraw]; exact Option.some_ne_none raw) issue ?_
    rw [recordOfDocument] at hissue
    cases hdecode : Issue.codec.decode raw <;> rw [hdecode] at hissue <;> cases hissue
    rw [Store.record, hraw, Option.bind_some, hdecode]
    rfl

theorem within_popWithin (rounds : Nat) (hs : s₀.Within around scope s)
    (hcovers : ∀ entry ∈ heads s.store rounds (s.store.lists user).my, scope.Covers user entry)
    (hnamed : Named s.store (heads s.store rounds (s.store.lists user).my)) :
    (popWithin limits user rounds).Ensures around (fun _ s' => s₀.Within around scope s') s := by
  -- every round drops a head without a record, or is the last one
  induction rounds generalizing s with
  | zero => exact hs
  | succ rounds ih =>
    refine ensures_bind (ensures_updateLists (fun _ _ => hs) fun revised entry _ htaken => ?_)
    obtain ⟨hmy, -⟩ := my_of_takeHead htaken
    obtain ⟨-, hrevised⟩ := takeHead_exact htaken
    rw [hmy, heads] at hcovers hnamed
    have hhead : entry ∈ if s.store.find? (Issue.key entry.id) = none then
        entry :: heads s.store rounds revised.my else [entry] := by
      split <;> exact List.mem_cons_self
    have hcovered := hcovers entry hhead
    have hs₁ : s₀.Within around scope (s.withStore (s.store.withLists user revised)) := by
      rw [hrevised]
      exact hs.erased hcovered.own.1 .my
    have hrecords (id : IssueId) :
        (s.store.withLists user revised).find? (Issue.key id) = s.store.find? (Issue.key id) :=
      s.store.find?_withLists_issue user revised id
    have hlater : ((s.store.withLists user revised).lists user).my = revised.my := by
      rw [Store.lists_withLists, Function.update_self]
    refine ensures_bind (ensures_loadIssue_of_stored (fun hmissing => ?_) (fun hstored issue hissue => ?_)
      fun _ => hs₁)
    · rw [Scene.withStore_store, hrecords] at hmissing
      rw [if_pos hmissing] at hcovers hnamed
      refine ih hs₁ (fun other hother => ?_) fun other hother issue hissue => ?_
      · rw [Scene.withStore_store, heads_congr hrecords, hlater] at hother
        exact hcovers other (List.mem_cons_of_mem _ hother)
      · rw [Scene.withStore_store, heads_congr hrecords, hlater] at hother
        rw [Scene.withStore_store, Store.record_eq (hrecords other.id)] at hissue
        exact hnamed other (List.mem_cons_of_mem _ hother) issue hissue
    · rw [Scene.withStore_store, Store.record_eq (hrecords entry.id)] at hissue
      have hid := hnamed entry hhead issue hissue
      refine stays_bind (stays_dissolve hcovered) (fun _ => stays_bind (stays_deleteIssue ?_) fun _ =>
        stays_pure _) _ hs₁
      rw [hid]
      exact hcovered.own.2

/-- No identifiers are drawn for a removal. -/
theorem undrawn_popWithin (rounds : Nat) : (popWithin limits user rounds).Retains around Scene.drawn := by
  induction rounds with
  | zero => exact fun _ => rfl
  | succ rounds ih =>
    refine retains_bind undrawn_updateLists fun entry => ?_
    refine retains_bind (retains_of_idle (idle_loadIssue entry.id)) fun found => ?_
    cases found with
    | none => exact ih
    | some issue =>
      exact retains_bind (undrawn_dissolve entry) fun _ =>
        retains_bind (undrawn_deleteIssue issue.id) fun _ => retains_pure _

theorem undrawn_pop (limits : Limits) (user : UserId) :
    ((Action.pop user).program limits).Retains around Scene.drawn :=
  retains_bind (undrawn_popWithin limits.rounds) fun _ => retains_pure _

theorem ensures_popWithin_unlinked {rounds : Nat} {rest : List Entry} {issue : Issue}
    (hreadable : s.store.Readable) (hmy : (s.store.lists user).my = entry :: rest)
    (hrecord : s.store.record entry.id = some issue) (hlink : entry.link = none) :
    (popWithin limits user (rounds + 1)).Ensures around
      (fun _ s' => s'.store.find? (Issue.key issue.id) = none) s := by
  refine ensures_bind (ensures_updateLists (fun failure hfailed => ?_) fun revised head _ htaken => ?_)
  · obtain ⟨-, hempty⟩ := takeHead_eq_error (hfailed (hreadable.lists user))
    cases hmy.symm.trans hempty
  · obtain ⟨hhead, -⟩ := my_of_takeHead htaken
    obtain ⟨rfl, -⟩ := List.cons.inj (hmy.symm.trans hhead)
    refine ensures_bind (ensures_loadIssue ((hreadable.withLists user revised).records entry.id) ?_)
    rw [Scene.withStore_store, Store.record_eq (s.store.find?_withLists_issue user revised entry.id), hrecord,
      andThen]
    dsimp only
    rw [dissolve, hlink]
    refine ensures_bind ?_
    change (deleteIssue issue.id >>= fun _ => pure (⟨issue, none⟩ : Popped)).Ensures around _ _
    exact ensures_bind (ensures_deleteIssue (Store.find?_erase_self _ _))

end

/-! ## All operations -/

variable {around : Surroundings} {s : Scene} {limits : Limits} {store : Store} {action : Action}

namespace Action

/-- The user's entries that an action is about. -/
def affected (limits : Limits) (store : Store) : Action → List Entry
  | add _ _ => []
  | send _ _ _ => []
  | pop user => heads store limits.rounds (store.lists user).my
  | complete user id => (store.lists user).naming id
  | accept user id => (store.lists user).naming id
  | remove user id => (store.lists user).naming id
  | bump user id => (store.lists user).naming id
  | edit user id _ => (store.lists user).naming id
  | reassign user id _ => (store.lists user).naming id

/-- The users who get entries of issues that the action creates. -/
def hosts : Action → List UserId
  | add user _ => [user]
  | send user receiver _ => [user, receiver]
  | reassign _ _ newOwner => [newOwner]
  | _ => []

/-- The affected entries, the counterparts that they link to, and what is new. -/
def scope (limits : Limits) (store : Store) (action : Action) : Scope where
  entries :=
    (action.affected limits store).map (fun entry => (action.user, entry.id)) ++
      ((action.affected limits store).filterMap Entry.link).map fun link => (link.user, link.issue)
  records :=
    (action.affected limits store).map Entry.id ++
      ((action.affected limits store).filterMap Entry.link).map Link.issue
  hosts := action.hosts

/-- The record of the first todo, if that is to be removed, carries the identifier that it is stored under. -/
def Faithful (limits : Limits) (store : Store) : Action → Prop
  | pop user => Named store ((pop user).affected limits store)
  | _ => True

theorem covers_affected {entry : Entry} (h : entry ∈ action.affected limits store) :
    (action.scope limits store).Covers action.user entry where
  own := ⟨List.mem_append_left _ (List.mem_map_of_mem h), List.mem_append_left _ (List.mem_map_of_mem h)⟩
  linked link hlink := by
    have hmem : link ∈ (action.affected limits store).filterMap Entry.link :=
      List.mem_filterMap.2 ⟨entry, h, hlink⟩
    exact ⟨List.mem_append_right _ (List.mem_map.2 ⟨link, hmem, rfl⟩),
      List.mem_append_right _ (List.mem_map_of_mem hmem)⟩

theorem coversIssue_affected {id : IssueId}
    (h : action.affected limits store = (store.lists action.user).naming id) :
    CoversIssue (action.scope limits store) store action.user id := by
  intro kind entry held hid
  refine covers_affected ?_
  rw [h]
  exact UserLists.mem_naming.2 ⟨⟨kind, held⟩, hid⟩

end Action

theorem within_action (limits : Limits) (hfaithful : action.Faithful limits s.store) :
    (action.program limits).Ensures around
      (fun _ s' => s.Within around (action.scope limits s.store) s') s := by
  have hs : s.Within around (action.scope limits s.store) s := .refl s
  have hhosts : (action.scope limits s.store).hosts = action.hosts := rfl
  have hreport {β : Type} {operation : Operation β}
      (h : operation.Ensures around (fun _ s' => s.Within around (action.scope limits s.store) s') s) :
      (operation >>= fun _ => pure ()).Ensures around
        (fun _ s' => s.Within around (action.scope limits s.store) s') s :=
    Stays.after h fun _ => stays_pure ()
  cases action with
  | add user draft => exact hreport (within_add hs (by simp [hhosts, Action.hosts]) draft)
  | send user receiver draft =>
    exact hreport (within_send hs (by simp [hhosts, Action.hosts]) (by simp [hhosts, Action.hosts]) draft)
  | pop user =>
    have hcovers (entry : Entry) (h : entry ∈ (Action.pop user).affected limits s.store) :
        ((Action.pop user).scope limits s.store).Covers user entry :=
      Action.covers_affected h
    exact hreport (within_popWithin limits.rounds hs hcovers hfaithful)
  | complete user id => exact hreport (within_take hs (Action.coversIssue_affected rfl))
  | accept user id => exact hreport (within_accept hs (Action.coversIssue_affected rfl))
  | remove user id =>
    exact hreport (Stays.after (within_take hs (Action.coversIssue_affected rfl)) fun _ => stays_pure _)
  | bump user id => exact hreport (within_bump hs (Action.coversIssue_affected rfl))
  | edit user id change => exact hreport (within_edit hs (Action.coversIssue_affected rfl) change)
  | reassign user id newOwner =>
    exact hreport (within_reassign hs (Action.coversIssue_affected rfl) (by simp [hhosts, Action.hosts]))

end Exchange

namespace Session

open Exchange

variable {session : Session}

theorem bystanders_untouched (hundisturbed : session.Undisturbed) (limits : Limits)
    (action : Action) (hfaithful : action.Faithful limits session.world.store) :
    let after := (session.run (action.program limits)).2
    session.scene.Within session.around (action.scope limits session.world.store) after.scene ∧
      ∀ user, after.world.store.find? (Preferences.key user) =
        session.world.store.find? (Preferences.key user) := by
  have hwithin := run_of_ensures
    (fun _ s' => session.scene.Within session.around (action.scope limits session.world.store) s')
    hundisturbed (within_action (s := session.scene) limits hfaithful)
  refine ⟨hwithin, fun user => hwithin.others _ (fun other => ?_) fun id => ?_⟩
  · exact Preferences.key_ne_listsKey user other
  · exact Preferences.key_ne_issueKey user id

theorem scene_store (session : Session) : session.scene.store = session.world.store := rfl

theorem not_drawn_pop (hundisturbed : session.Undisturbed) (limits : Limits) (user : UserId) (id : IssueId) :
    id ∉ session.around.drawn session.scene (session.run ((Action.pop user).program limits)).2.scene := by
  have hdrawn := run_of_ensures (fun _ s' => s'.drawn = session.scene.drawn) hundisturbed
    (undrawn_pop limits user session.scene)
  rw [Surroundings.drawn, hdrawn, Nat.sub_self]
  exact List.not_mem_nil

/-- The removal of an unlinked first todo deletes the record that its record names. -/
theorem named_record_deleted (hundisturbed : session.Undisturbed)
    (hreadable : session.world.store.Readable) {user : UserId} {entry : Entry} {rest : List Entry}
    {issue : Issue} {id : IssueId} (hmy : (session.world.store.lists user).my = entry :: rest)
    (hrecord : session.world.store.record entry.id = some issue) (hlink : entry.link = none)
    (hid : issue.id = id) (limits : Limits) (hrounds : limits.rounds ≠ 0) :
    (session.run ((Action.pop user).program limits)).2.world.store.find? (Issue.key id) = none := by
  obtain ⟨rounds, hrounds⟩ := Nat.exists_eq_succ_of_ne_zero hrounds
  refine run_of_ensures (fun _ s' => s'.store.find? (Issue.key id) = none) hundisturbed ?_
  rw [Action.program, pop, hrounds, ← hid]
  refine Program.ensures_bind (Program.ensures_mono
    (ensures_popWithin_unlinked (s := session.scene) hreadable hmy hrecord hlink) fun outcome s' hgone => ?_)
  cases outcome <;> exact hgone

/-- Amy and ben have a todo each. The record of amy's carries some identifier. -/
def neighbours (named : IssueId) : Store :=
  Store.withLists
    (Store.withLists
      (Table.insert
        (Table.empty.insert (Issue.key (World.counted 1))
          (Issue.codec.encode ⟨World.counted 1, "bread", none, none, .epoch⟩))
        (Issue.key (World.counted 0)) (Issue.codec.encode ⟨named, "milk", none, none, .epoch⟩))
      ⟨"amy"⟩ ⟨[.unlinked (World.counted 0)], [], []⟩)
    ⟨"ben"⟩ ⟨[.unlinked (World.counted 1)], [], []⟩

section

variable (named : IssueId)

theorem readable_neighbours : (neighbours named).Readable :=
  (((Store.readable_empty.insert_issue _ _).insert_issue _ _).withLists _ _).withLists _ _

theorem lists_neighbours (user : UserId) :
    (neighbours named).lists user =
      if user = ⟨"ben"⟩ then ⟨[.unlinked (World.counted 1)], [], []⟩
      else if user = ⟨"amy"⟩ then ⟨[.unlinked (World.counted 0)], [], []⟩
      else .empty := by
  rw [neighbours, Store.lists_withLists, Store.lists_withLists, Store.lists_insert_issue,
    Store.lists_insert_issue, Function.update_apply, Function.update_apply]
  rfl

theorem distinct_neighbours (user : UserId) : ((neighbours named).lists user).Distinct := by
  rw [lists_neighbours]
  split
  · exact List.pairwise_singleton _ _
  · split
    · exact List.pairwise_singleton _ _
    · exact UserLists.distinct_empty

theorem record_neighbours :
    (neighbours named).record (World.counted 0) = some ⟨named, "milk", none, none, .epoch⟩ := by
  rw [neighbours, Store.record, Store.find?_withLists_issue, Store.find?_withLists_issue, Table.find?_insert,
    if_pos rfl, Option.bind_some, Issue.decode_encode]
  rfl

theorem neighbour_recorded : (neighbours named).find? (Issue.key (World.counted 1)) ≠ none := by
  have hkey : Issue.key (World.counted 1) ≠ Issue.key (World.counted 0) :=
    fun hsame => absurd (Issue.key_injective hsame) (by decide)
  rw [neighbours, Store.find?_withLists_issue, Store.find?_withLists_issue, Table.find?_insert, if_neg hkey,
    Table.find?_insert, if_pos rfl]
  exact Option.some_ne_none _

theorem my_neighbours : ((neighbours named).lists ⟨"amy"⟩).my = [.unlinked (World.counted 0)] := by
  rw [lists_neighbours]
  rfl

/-- Amy's removal of her first todo is about its entry and its record. -/
theorem scope_neighbours :
    (Action.pop ⟨"amy"⟩).affected ⟨5, 5⟩ (neighbours named) = [.unlinked (World.counted 0)] ∧
      (Action.pop ⟨"amy"⟩).scope ⟨5, 5⟩ (neighbours named) =
        ⟨[(⟨"amy"⟩, World.counted 0)], [World.counted 0], []⟩ := by
  have hrecord : (neighbours named).find? (Issue.key (World.counted 0)) ≠ none := by
    intro hmissing
    cases (Store.record_of_find?_eq_none hmissing).symm.trans (record_neighbours named)
  have haffected :
      (Action.pop ⟨"amy"⟩).affected ⟨5, 5⟩ (neighbours named) = [.unlinked (World.counted 0)] := by
    rw [Action.affected, my_neighbours, Exchange.heads]
    exact if_neg hrecord
  refine ⟨haffected, ?_⟩
  rw [Action.scope, haffected]
  rfl

end

/-- Amy removes her todo, and ben keeps his. -/
theorem neighbour_untouched :
    let session := resumed (neighbours (World.counted 0)) 2 []
    let after := (session.run ((Action.pop ⟨"amy"⟩).program ⟨5, 5⟩)).2
    after.world.store.find? (UserLists.key ⟨"ben"⟩) =
        session.world.store.find? (UserLists.key ⟨"ben"⟩) ∧
      after.world.store.find? (Issue.key (World.counted 1)) =
        session.world.store.find? (Issue.key (World.counted 1)) := by
  obtain ⟨haffected, hscope⟩ := scope_neighbours (World.counted 0)
  have hfaithful : (Action.pop ⟨"amy"⟩).Faithful ⟨5, 5⟩ (neighbours (World.counted 0)) := by
    intro entry hentry issue hissue
    rw [haffected, List.mem_singleton] at hentry
    rw [hentry] at hissue ⊢
    cases hissue.symm.trans (record_neighbours _)
    rfl
  obtain ⟨hwithin, -⟩ := @bystanders_untouched (resumed (neighbours (World.counted 0)) 2 []) rfl ⟨5, 5⟩
    (.pop ⟨"amy"⟩) hfaithful
  have hscope' : (Action.pop ⟨"amy"⟩).scope ⟨5, 5⟩ (resumed (neighbours (World.counted 0)) 2 []).world.store =
      ⟨[(⟨"amy"⟩, World.counted 0)], [World.counted 0], []⟩ :=
    hscope
  rw [hscope'] at hwithin
  have hlists := hwithin.lists ⟨"ben"⟩ List.not_mem_nil (by simp)
  have hrecord := hwithin.records (World.counted 1) (by decide)
    (@not_drawn_pop (resumed (neighbours (World.counted 0)) 2 []) rfl ⟨5, 5⟩ ⟨"amy"⟩ _)
  rw [scene_store, scene_store] at hlists hrecord
  exact ⟨hlists, hrecord⟩

/-- The record of amy's todo names that of ben, which goes in its place. -/
theorem misfiled_record_deleted :
    let session := resumed (neighbours (World.counted 1)) 2 []
    session.world.store.Readable ∧ (∀ user, (session.world.store.lists user).Distinct) ∧
      ¬ session.scene.Within session.around ((Action.pop ⟨"amy"⟩).scope ⟨5, 5⟩ session.world.store)
        (session.run ((Action.pop ⟨"amy"⟩).program ⟨5, 5⟩)).2.scene := by
  refine ⟨readable_neighbours _, distinct_neighbours _, fun hwithin => ?_⟩
  have hscope : (Action.pop ⟨"amy"⟩).scope ⟨5, 5⟩ (resumed (neighbours (World.counted 1)) 2 []).world.store =
      ⟨[(⟨"amy"⟩, World.counted 0)], [World.counted 0], []⟩ :=
    (scope_neighbours (World.counted 1)).2
  rw [hscope] at hwithin
  have hsame := hwithin.records (World.counted 1) (by decide)
    (@not_drawn_pop (resumed (neighbours (World.counted 1)) 2 []) rfl ⟨5, 5⟩ ⟨"amy"⟩ _)
  have hgone := @named_record_deleted (resumed (neighbours (World.counted 1)) 2 []) rfl
    (readable_neighbours _) _ _ _ _ _ (my_neighbours _) (record_neighbours _) rfl rfl ⟨5, 5⟩ (by decide)
  rw [scene_store, scene_store, hgone] at hsame
  exact neighbour_recorded _ hsame.symm

end Session

end SharedTodo
