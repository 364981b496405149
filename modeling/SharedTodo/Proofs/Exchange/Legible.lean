import SharedTodo.Proofs.Exchange.UserErrors

/-!
# Documents that stay readable

A store is legible when everything in it stands under the key of some lists, some record or some preferences
and can be read as such. Nothing is asked of what the documents say: links may dangle and records may be
missing. A program that starts from a legible store is proper when it ends, leaves the store legible, and
fails for expected reasons only (`Program.Proper`).

Every operation is proper, and what it fails for is the caller's to mend, provided that the directory
answers. No loop runs out: an update meets nobody who could refuse its write, and a removal of the first todo
has a round for every entry of the own list (`properly_pop`).
-/

namespace SharedTodo

/-- A text that can be read as what belongs under its key. -/
inductive Document : String → String → Prop where
  | lists (user : UserId) {raw : String} {lists : UserLists}
    (readable : UserLists.codec.decode raw = .ok lists) : Document (UserLists.key user) raw
  | record (id : IssueId) {raw : String} {issue : Issue}
    (readable : Issue.codec.decode raw = .ok issue) : Document (Issue.key id) raw
  | preferences (user : UserId) {raw : String} {prefs : Preferences}
    (readable : Preferences.codec.decode raw = .ok prefs) : Document (Preferences.key user) raw

namespace Document

theorem encodeIssue (id : IssueId) (issue : Issue) : Document (Issue.key id) (Issue.codec.encode issue) :=
  .record id (Issue.decode_encode issue)

theorem encodePreferences (user : UserId) (prefs : Preferences) :
    Document (Preferences.key user) (Preferences.codec.encode prefs) :=
  .preferences user (Preferences.decode_encode prefs)

theorem lists_of {user : UserId} {raw : String} (h : Document (UserLists.key user) raw) :
    ∃ lists, UserLists.codec.decode raw = .ok lists := by
  generalize hkey : UserLists.key user = key at h
  cases h with
  | lists other readable => exact ⟨_, readable⟩
  | record id readable => exact absurd hkey (UserLists.key_ne_key user id)
  | preferences other readable => exact absurd hkey.symm (Preferences.key_ne_listsKey other user)

theorem issue_of {id : IssueId} {raw : String} (h : Document (Issue.key id) raw) :
    ∃ issue, Issue.codec.decode raw = .ok issue := by
  generalize hkey : Issue.key id = key at h
  cases h with
  | lists user readable => exact absurd hkey.symm (UserLists.key_ne_key user id)
  | record other readable => exact ⟨_, readable⟩
  | preferences user readable => exact absurd hkey.symm (Preferences.key_ne_issueKey user id)

theorem preferences_of {user : UserId} {raw : String} (h : Document (Preferences.key user) raw) :
    ∃ prefs, Preferences.codec.decode raw = .ok prefs := by
  generalize hkey : Preferences.key user = key at h
  cases h with
  | lists other readable => exact absurd hkey (Preferences.key_ne_listsKey user other)
  | record id readable => exact absurd hkey (Preferences.key_ne_issueKey user id)
  | preferences other readable => exact ⟨_, readable⟩

end Document

namespace Store

open Exchange

variable {store : Store}

def Legible (store : Store) : Prop :=
  ∀ key raw, store.find? key = some raw → Document key raw

theorem legible_empty : Legible Table.empty :=
  fun _ _ h => nomatch h

theorem Legible.listsReadable (h : store.Legible) (user : UserId) : store.ListsReadable user :=
  listsReadable_iff.2 fun raw hraw => (h _ raw hraw).lists_of

theorem Legible.recordReadable (h : store.Legible) (id : IssueId) : store.RecordReadable id :=
  fun raw hraw => (h _ raw hraw).issue_of

theorem Legible.assign (h : store.Legible) {key : String} {new : Option String}
    (hnew : ∀ raw, new = some raw → Document key raw) : Legible (store.assign key new) := by
  intro other raw hraw
  rw [Table.find?_assign] at hraw
  split at hraw
  · next hkey =>
    subst hkey
    exact hnew raw hraw
  · exact h other raw hraw

theorem Legible.rewrite (h : store.Legible) {key : String} {new : Option String}
    (hnew : ∀ raw, new = some raw → Document key raw) : (store.rewrite key new).Legible := by
  rw [Store.rewrite]
  split
  · exact h
  · exact h.assign hnew

theorem Legible.withLists (h : store.Legible) (user : UserId) (lists : UserLists) :
    (store.withLists user lists).Legible := by
  rw [Store.withLists]
  split
  · exact h
  · exact h.assign fun raw hraw => .lists user (decode_of_documentOfLists hraw).1

end Store

namespace Program

variable {ε δ α β : Type} {around : Surroundings} {s : Scene} {expected : ε → Prop}

/-! ## Proper programs -/

/-- The program has ended, for an expected reason if it has failed, and the store is legible. -/
def Properly (expected : ε → Prop) : Result ε α
  | .ok _, s => s.store.Legible
  | .error failure, s => expected failure ∧ s.store.Legible
  | .unfinished, _ => False

variable (around expected) in
def Proper (program : Program ε α) : Prop :=
  ∀ s, s.store.Legible → program.Ensures around (Properly expected) s

theorem proper_pure (value : α) : Proper around expected (pure value : Program ε α) :=
  fun _ h => h

theorem proper_fail {failure : ε} (hfailure : expected failure) :
    Proper around expected (fail failure : Program ε α) :=
  fun _ h => ⟨hfailure, h⟩

theorem proper_ofExcept {value : Except ε α} (h : ∀ failure, value = .error failure → expected failure) :
    Proper around expected (ofExcept value) :=
  fun _ hs => ensures_ofExcept (fun _ _ => hs) fun failure hfailed => ⟨h failure hfailed, hs⟩

theorem properly_bind {program : Program ε α} {next : α → Program ε β}
    (h : program.Ensures around (Properly expected) s) (hnext : ∀ value, (next value).Proper around expected) :
    (program >>= next).Ensures around (Properly expected) s := by
  apply ensures_bind
  refine ensures_mono h fun outcome s' hend => ?_
  cases outcome with
  | ok value => exact hnext value s' hend
  | error failure => exact hend
  | unfinished => exact hend

theorem Proper.bind {program : Program ε α} {next : α → Program ε β} (h : program.Proper around expected)
    (hnext : ∀ value, (next value).Proper around expected) : Proper around expected (program >>= next) :=
  fun s hs => properly_bind (h s hs) hnext

theorem properly_mapError {program : Program ε α} {view : ε → δ} {expected' : δ → Prop}
    (h : program.Ensures around (Properly expected) s)
    (hview : ∀ failure, expected failure → expected' (view failure)) :
    (program.mapError view).Ensures around (Properly expected') s := by
  apply ensures_mapError
  refine ensures_mono h fun outcome s' hend => ?_
  cases outcome with
  | ok value => exact hend
  | error failure => exact hend.imp_left (hview failure)
  | unfinished => exact hend

/-- What comes after an attempt: it meets a value, or a failure that is expected. -/
theorem properly_attempt {program : Program ε α} {expected' : δ → Prop} {next : Except ε α → Program δ β}
    (h : program.Ensures around (Properly expected) s)
    (hok : ∀ value, (next (.ok value)).Proper around expected')
    (herror : ∀ failure, expected failure → (next (.error failure)).Proper around expected') :
    (program.attempt >>= next).Ensures around (Properly expected') s := by
  apply ensures_bind
  apply ensures_attempt
  refine ensures_mono h fun outcome s' hend => ?_
  cases outcome with
  | ok value => exact hok value s' hend
  | error failure => exact herror failure hend.1 s' hend.2
  | unfinished => exact hend

theorem proper_freshId : Proper around expected (freshId : Program ε IssueId) :=
  fun _ h => ensures_freshId h

theorem proper_now : Proper around expected (now : Program ε Time.Instant) :=
  fun _ h => ensures_now fun _ => h

theorem proper_resolve (user : UserId) : Proper around expected (Naming.resolve user : Program ε String) :=
  fun _ h => ensures_resolve fun _ => h

theorem proper_notify (notification : Notification) :
    Proper around expected (perform (.notify notification) : Program ε Unit) := by
  refine fun s h => ensures_notify ?_
  show (around.notified s notification).store.Legible
  rw [Surroundings.notified]
  split <;> exact h

section

variable [OfStorage ε]

theorem proper_update {key : String} {limit : Nat}
    {compute : Option String → Except ε (Option String × α)}
    (hfailed : ∀ store : Store, store.Legible → ∀ failure, compute (store.find? key) = .error failure →
      expected failure)
    (hdone : ∀ store : Store, store.Legible → ∀ new outcome, compute (store.find? key) = .ok (new, outcome) →
      ∀ raw, new = some raw → Document key raw) :
    Proper around expected (update key limit compute) := by
  intro s h
  apply ensures_update
  · exact fun failure hfailure => ⟨hfailed s.store h failure hfailure, h⟩
  · exact fun new outcome hnew => h.rewrite (hdone s.store h new outcome hnew)

theorem proper_set {key value : String} (h : Document key value) :
    Proper around expected (set key value : Program ε Unit) := by
  intro s hs
  apply ensures_set
  show Store.Legible (s.store.assign key (some value))
  refine hs.assign fun raw hraw => ?_
  cases hraw
  exact h

theorem proper_delete (key : String) : Proper around expected (delete key : Program ε Unit) := by
  intro s hs
  apply ensures_delete
  show Store.Legible (s.store.assign key none)
  exact hs.assign fun raw hraw => nomatch hraw

end

end Program

/-! ## Preferences -/

namespace PreferenceStore

open Program

variable {ε : Type} {around : Surroundings} {expected : ε → Prop}

theorem proper_loadOrDefault (user : UserId) :
    Proper around expected (loadOrDefault user : Program ε Preferences) :=
  fun _ hs => ensures_loadOrDefault fun _ _ => hs

theorem ofDocument_of_legible {store : Store} (h : store.Legible) (user : UserId) :
    ∃ prefs, ofDocument (Preferences.key user) (store.find? (Preferences.key user)) = .ok prefs := by
  cases hraw : store.find? (Preferences.key user) with
  | none => exact ⟨.default, rfl⟩
  | some raw =>
    obtain ⟨prefs, hdecode⟩ := (h _ raw hraw).preferences_of
    exact ⟨prefs, by rw [ofDocument, hdecode]; rfl⟩

/-- A switch of preferences always succeeds. -/
theorem proper_switch (limit : Nat) (user : UserId) (change : Preferences → Preferences) :
    Proper around (fun _ => False) (switch limit user change) := by
  apply proper_update
  · intro store hstore failure hfailed
    obtain ⟨prefs, hprefs⟩ := ofDocument_of_legible hstore user
    rw [switched, hprefs] at hfailed
    cases hfailed
  · intro store hstore new outcome hdone raw hraw
    obtain ⟨prefs, hprefs⟩ := ofDocument_of_legible hstore user
    rw [switched, hprefs] at hdone
    cases hdone
    cases hraw
    exact .encodePreferences user (change prefs)

/-- A claim of the daily reminder always has an answer. -/
theorem proper_claimReminder (limit : Nat) (user : UserId) (offset : TimezoneOffset) :
    Proper around (fun _ => False) (claimReminder limit user offset) := by
  refine .bind proper_now fun now => proper_update ?_ ?_
  · intro store hstore failure hfailed
    obtain ⟨prefs, hprefs⟩ := ofDocument_of_legible hstore user
    rw [claimed, hprefs] at hfailed
    cases hclaimed : prefs.claimed now offset <;> simp [Bind.bind, Except.bind, hclaimed] at hfailed
  · intro store hstore new outcome hdone raw hraw
    obtain ⟨prefs, hprefs⟩ := ofDocument_of_legible hstore user
    rw [claimed, hprefs] at hdone
    simp only [Bind.bind, Except.bind] at hdone
    split at hdone
    · cases hdone
      cases hraw
      exact .encodePreferences user _
    · cases hdone
      exact hstore _ raw hraw

end PreferenceStore

/-! ## Operations -/

/-- The failure is one that the caller can mend. -/
abbrev OperationError.Mendable (failure : OperationError) : Prop :=
  failure.isUserError = true

/-- The directory always answers, be it that it knows nobody. -/
structure Surroundings.Answering (around : Surroundings) : Prop where
  byId : ∀ user failure, around.byId user ≠ .error failure
  byUsername : ∀ username failure, around.byUsername username ≠ .error failure

namespace Exchange

open Program OperationError

variable {α : Type} {around : Surroundings} {s : Scene} {limits : Limits} {user : UserId} {id : IssueId}

theorem mendable_of_require {absence : Absence} {found : Option α} {failure : OperationError}
    (h : require absence found = .error failure) : failure.Mendable := by
  cases found with
  | none =>
    cases h
    rfl
  | some value => cases h

theorem mendable_of_map_require {β : Type} {absence : Absence} {found : Option α} {f : α → β}
    {failure : OperationError} (h : (require absence found).map f = .error failure) : failure.Mendable := by
  cases found with
  | none =>
    cases h
    rfl
  | some value => cases h

theorem proper_loadLists (user : UserId) : Proper around Mendable (loadLists user) :=
  fun _ hs => ensures_loadLists (hs.listsReadable user) hs

theorem proper_updateLists {change : UserLists → Except OperationError (UserLists × α)}
    (h : ∀ lists failure, change lists = .error failure → failure.Mendable) :
    Proper around Mendable (updateLists limits user change) := by
  intro s hs
  apply ensures_updateLists
  · exact fun failure hfailed => ⟨h _ failure (hfailed (hs.listsReadable user)), hs⟩
  · exact fun revised outcome _ _ => hs.withLists user revised

theorem proper_loadIssue (id : IssueId) : Proper around Mendable (loadIssue id) :=
  fun _ hs => ensures_loadIssue (hs.recordReadable id) hs

theorem proper_requireIssue (id : IssueId) : Proper around Mendable (requireIssue id) :=
  .bind (proper_loadIssue id) fun _ => proper_ofExcept fun _ => mendable_of_require

theorem proper_saveIssue (issue : Issue) : Proper around Mendable (saveIssue issue) :=
  proper_set (.encodeIssue issue.id issue)

theorem proper_deleteIssue (id : IssueId) : Proper around Mendable (deleteIssue id) :=
  proper_delete _

theorem proper_pushEntry (kind : ListKind) (entry : Entry) :
    Proper around Mendable (pushEntry limits user kind entry) :=
  proper_updateLists fun _ _ h => nomatch h

theorem proper_editRecord (id : IssueId) (change : Edit) :
    Proper around Mendable (editRecord limits id change) := by
  apply proper_update
  · intro store hstore failure hfailed
    cases hraw : store.find? (Issue.key id) with
    | none => rw [hraw] at hfailed; cases hfailed
    | some raw =>
      obtain ⟨issue, hdecode⟩ := hstore.recordReadable id raw hraw
      rw [hraw, editedRecord, Store.recordOfDocument_of_decode hdecode] at hfailed
      cases hfailed
  · intro store hstore new message hedited raw hnew
    obtain ⟨rfl, -⟩ | ⟨issue, rfl, -⟩ := editedRecord_eq_ok hedited
    · exact hstore _ raw hnew
    · rw [← Option.some.inj hnew]
      exact .encodeIssue id _

theorem proper_requireUser (h : around.Answering) (user : UserId) :
    Proper around Mendable (requireUser user) := by
  intro s hs
  apply ensures_requireUser
  · exact fun _ _ => hs
  · exact fun _ => ⟨rfl, hs⟩
  · exact fun failure hdown => absurd hdown (h.byId user failure)

theorem proper_newIssue (draft : Draft) : Proper around Mendable (newIssue draft) :=
  .bind proper_freshId fun _ => .bind proper_now fun _ => proper_pure _

theorem proper_newCounterpart (issue : Issue) : Proper around Mendable (newCounterpart issue) :=
  .bind proper_freshId fun _ => proper_pure _

theorem proper_dissolve (owner : UserId) (entry : Entry) :
    Proper around Mendable (dissolve limits owner entry) := by
  rw [dissolve]
  split
  · exact proper_pure none
  · refine .bind (proper_updateLists fun _ _ h => by cases h) fun half => ?_
    cases half with
    | removed => exact .bind (proper_deleteIssue _) fun _ => proper_pure _
    | missing => exact .bind (proper_deleteIssue _) fun _ => proper_pure _
    | stale => exact proper_pure none

theorem proper_livingCounterpart (owner : UserId) (entry : Entry) :
    Proper around Mendable (livingCounterpart owner entry) := by
  rw [livingCounterpart]
  split
  · exact proper_pure none
  · refine .bind (proper_loadLists _) fun lists => ?_
    split
    · exact proper_pure _
    · exact proper_pure none

theorem proper_editCounterpart (change : Edit) (link : Option Link) :
    Proper around Mendable (editCounterpart limits change link) := by
  cases link with
  | none => exact proper_pure none
  | some link =>
    refine .bind (proper_editRecord link.issue change) fun message => ?_
    cases message with
    | none => exact proper_pure none
    | some message => exact proper_pure _

theorem proper_add (user : UserId) (draft : Draft) : Proper around Mendable (add limits user draft) :=
  .bind (proper_newIssue draft) fun _ => .bind (proper_saveIssue _) fun _ =>
    .bind (proper_pushEntry _ _) fun _ => proper_pure _

theorem proper_send (h : around.Answering) (sender receiver : UserId) (draft : Draft) :
    Proper around Mendable (send limits sender receiver draft) := by
  rw [send]
  split
  · exact proper_fail rfl
  · refine .bind (proper_requireUser h receiver) fun _ => .bind (proper_newIssue draft) fun sent => ?_
    refine .bind (proper_newCounterpart sent) fun received => .bind (proper_saveIssue sent) fun _ => ?_
    refine .bind (proper_saveIssue received) fun _ => .bind (proper_pushEntry _ _) fun _ => ?_
    exact .bind (proper_pushEntry _ _) fun _ => proper_pure _

theorem proper_take (user : UserId) (id : IssueId) : Proper around Mendable (take limits user id) := by
  refine .bind (proper_requireIssue id) fun issue => ?_
  refine .bind (proper_updateLists fun lists failure => mendable_of_map_require) fun located => ?_
  exact .bind (proper_dissolve user _) fun _ => .bind (proper_deleteIssue id) fun _ => proper_pure _

theorem proper_remove (user : UserId) (id : IssueId) : Proper around Mendable (remove limits user id) :=
  .bind (proper_take user id) fun _ => proper_pure _

theorem proper_accept (user : UserId) (id : IssueId) : Proper around Mendable (accept limits user id) := by
  refine .bind (proper_requireIssue id) fun issue => ?_
  refine .bind (proper_updateLists fun lists failure => mendable_of_map_require) fun entry => ?_
  exact .bind (proper_livingCounterpart user entry) fun _ => proper_pure _

theorem proper_bump (user : UserId) (id : IssueId) : Proper around Mendable (bump limits user id) := by
  refine .bind (proper_loadLists user) fun lists => ?_
  refine .bind (proper_ofExcept fun failure => mendable_of_require) fun entry => ?_
  cases entry.link with
  | none => exact proper_fail rfl
  | some link =>
    refine .bind (proper_requireIssue id) fun issue => ?_
    refine .bind (proper_updateLists fun lists failure h => nomatch h) fun moved => ?_
    cases moved with
    | true => exact proper_pure _
    | false => exact proper_fail rfl

theorem proper_edit (user : UserId) (id : IssueId) (change : Edit) :
    Proper around Mendable (edit limits user id change) := by
  refine .bind (proper_loadLists user) fun lists => ?_
  refine .bind (proper_ofExcept fun failure => mendable_of_require) fun located => ?_
  refine .bind (proper_editRecord id change) fun found => ?_
  refine .bind (proper_ofExcept fun failure => mendable_of_require) fun message => ?_
  refine .bind (proper_livingCounterpart user _) fun counterpart => ?_
  exact .bind (proper_editCounterpart change counterpart) fun _ => proper_pure _

theorem proper_keep (user : UserId) (issue : Issue) (id : IssueId) :
    Proper around Mendable (keep limits user issue id) := by
  refine .bind (proper_updateLists fun lists failure => mendable_of_map_require) fun old => ?_
  exact .bind (proper_dissolve user old) fun _ => proper_pure _

theorem proper_handOver (user newOwner : UserId) (issue : Issue) (id : IssueId) :
    Proper around Mendable (handOver limits user newOwner issue id) := by
  refine .bind (proper_newCounterpart issue) fun copy => .bind (proper_saveIssue copy) fun _ s hs => ?_
  refine properly_attempt (proper_updateLists (fun lists failure => mendable_of_map_require) s hs)
    (fun old => ?_) fun failure hmendable => ?_
  · refine .bind (proper_dissolve user old) fun _ => ?_
    exact .bind (proper_pushEntry _ _) fun _ => proper_pure _
  · exact .bind (proper_deleteIssue _) fun _ => proper_fail hmendable

theorem proper_reassign (h : around.Answering) (id : IssueId) (user newOwner : UserId) :
    Proper around Mendable (reassign limits id user newOwner) := by
  refine .bind (proper_requireIssue id) fun issue => ?_
  split
  · exact proper_keep user issue id
  · exact .bind (proper_requireUser h newOwner) fun _ => proper_handOver user newOwner issue id

/-! ## The first todo -/

/-- Every round but the last one takes an entry out of the own list. -/
theorem properly_popWithin {rounds : Nat} (h : s.store.Legible)
    (hrounds : (s.store.lists user).my.length < rounds) :
    (popWithin limits user rounds).Ensures around (Properly Mendable) s := by
  induction rounds generalizing s with
  | zero => exact absurd hrounds (Nat.not_lt_zero _)
  | succ rounds ih =>
    apply ensures_bind
    apply ensures_updateLists
    · intro failure hfailed
      obtain ⟨rfl, -⟩ := takeHead_eq_error (hfailed (h.listsReadable user))
      exact ⟨rfl, h⟩
    · intro revised entry _ htaken
      obtain ⟨hmy, -⟩ := my_of_takeHead htaken
      have hlater := h.withLists user revised
      refine ensures_bind (ensures_loadIssue (hlater.recordReadable entry.id) ?_)
      rw [andThen]
      split
      · refine ih hlater ?_
        rw [Scene.withStore_store, Store.lists_withLists, Function.update_self]
        rw [hmy, List.length_cons] at hrounds
        omega
      · refine properly_bind (proper_dissolve user entry _ hlater) fun _ => ?_
        exact .bind (proper_deleteIssue _) fun _ => proper_pure _

theorem properly_pop (h : s.store.Legible) (hrounds : roundsFor s.store user ≤ limits.rounds) :
    (pop limits user).Ensures around (Properly Mendable) s := by
  rw [pop]
  apply properly_popWithin h
  rw [roundsFor, h.listsReadable user] at hrounds
  exact hrounds

/-! ## Listing -/

theorem proper_loadOnce (user : UserId) (loaded : Loaded) : Proper around Mendable (loadOnce user loaded) := by
  rw [loadOnce]
  split
  · exact proper_pure _
  · exact .bind (proper_loadLists user) fun lists => proper_pure _

theorem proper_listEntry (viewer : UserId) (position : Nat) (entry : Entry) (issue : Issue) (loaded : Loaded) :
    Proper around Mendable (listEntry viewer position entry issue loaded) := by
  rw [listEntry]
  dsimp only
  split
  · exact proper_pure _
  · refine .bind (proper_loadOnce _ loaded) fun found => ?_
    split
    · exact proper_pure _
    · exact .bind (proper_resolve _) fun name => proper_pure _

theorem proper_listFrom (viewer : UserId) (position : Nat) (entries : List Entry) (loaded : Loaded) :
    Proper around Mendable (listFrom viewer position entries loaded) := by
  induction entries generalizing position loaded with
  | nil => exact proper_pure []
  | cons entry rest ih =>
    refine .bind (proper_loadIssue entry.id) fun found => ?_
    cases found with
    | none => exact ih (position + 1) loaded
    | some issue =>
      refine .bind (proper_listEntry viewer position entry issue loaded) fun listed => ?_
      exact .bind (ih (position + 1) listed.2) fun items => proper_pure _

theorem proper_listing (user : UserId) (kind : ListKind) : Proper around Mendable (listing user kind) :=
  .bind (proper_loadLists user) fun lists => proper_listFrom user 0 (lists.list kind) .empty

end Exchange

end SharedTodo
