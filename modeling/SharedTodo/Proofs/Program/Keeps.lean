import SharedTodo.Exchange.Listing
import SharedTodo.Proofs.Exchange.Stored
import SharedTodo.Proofs.Program.Ensures

/-!
# What programs leave as it is

An idle program ends, with a value or with a failure, in the scene that it met: it reads documents and asks
for names. A program keeps a relation when the scenes before and after it are always related by it; a
relation that is transitive is kept by programs one after the other.

Whatever is no operation on todos works aside: it leaves all lists and all records as they are, and of what
users were told it takes nothing back (`Scene.Aside`). It may write preferences and tell users more.
-/

namespace SharedTodo

/-! ## Keys of preferences -/

theorem Preferences.key_ne_listsKey (user other : UserId) : key user ≠ UserLists.key other := by
  intro h
  have hlist := congrArg String.toList h
  rw [key, UserLists.key, String.toList_append, String.toList_append] at hlist
  exact absurd (congrArg List.head? hlist) (by simp)

theorem Preferences.key_ne_issueKey (user : UserId) (id : IssueId) : key user ≠ Issue.key id := by
  intro h
  have hlist := congrArg String.toList h
  rw [key, Issue.key, String.toList_append, String.toList_append] at hlist
  exact absurd (congrArg List.head? hlist) (by simp)

/-- The same lists and records, and nothing taken back of what users were told. -/
structure Scene.Aside (s s' : Scene) : Prop where
  lists : ∀ user, s'.store.find? (UserLists.key user) = s.store.find? (UserLists.key user)
  records : ∀ id, s'.store.find? (Issue.key id) = s.store.find? (Issue.key id)
  sent : s.sent <+: s'.sent

namespace Scene

variable {s s' s'' : Scene}

theorem Aside.refl (s : Scene) : s.Aside s :=
  ⟨fun _ => rfl, fun _ => rfl, List.prefix_rfl⟩

theorem Aside.trans (h : s.Aside s') (h' : s'.Aside s'') : s.Aside s'' :=
  ⟨fun user => (h'.lists user).trans (h.lists user), fun id => (h'.records id).trans (h.records id),
    h.sent.trans h'.sent⟩

theorem aside_heard (s : Scene) (new : List Notification) : s.Aside (s.heard new) :=
  ⟨fun _ => rfl, fun _ => rfl, List.prefix_append _ _⟩

end Scene

namespace Program

variable {ε δ α β : Type} {around : Surroundings} {s : Scene}

/-! ## Idle programs -/

variable (around) in
def Idle (program : Program ε α) : Prop :=
  ∀ s, program.Ensures around (fun outcome s' => outcome ≠ .unfinished ∧ s' = s) s

theorem ensures_of_idle {program : Program ε α} (h : program.Idle around) {result : Result ε α}
    (hok : ∀ value, result (.ok value) s) (herror : ∀ failure, result (.error failure) s) :
    program.Ensures around result s := by
  refine ensures_mono (h s) fun outcome s' hend => ?_
  obtain ⟨hfinished, rfl⟩ := hend
  cases outcome with
  | ok value => exact hok value
  | error failure => exact herror failure
  | unfinished => exact absurd rfl hfinished

theorem idle_pure (value : α) : (pure value : Program ε α).Idle around :=
  fun _ => ⟨nofun, rfl⟩

theorem idle_fail (failure : ε) : (fail failure : Program ε α).Idle around :=
  fun _ => ⟨nofun, rfl⟩

theorem idle_ofExcept (value : Except ε α) : (ofExcept value).Idle around := by
  cases value with
  | ok value => exact idle_pure value
  | error failure => exact idle_fail failure

theorem idle_bind {program : Program ε α} {next : α → Program ε β} (h : program.Idle around)
    (hnext : ∀ value, (next value).Idle around) : (program >>= next).Idle around :=
  fun s => ensures_bind (ensures_of_idle h (fun value => hnext value s) fun _ => ⟨nofun, rfl⟩)

theorem idle_mapError {program : Program ε α} {view : ε → δ} (h : program.Idle around) :
    (program.mapError view).Idle around :=
  fun _ => ensures_mapError (ensures_of_idle h (fun _ => ⟨nofun, rfl⟩) fun _ => ⟨nofun, rfl⟩)

theorem idle_perform {c : Call} (h : ∀ s reply s', around.Replies c s reply s' → s' = s) :
    (perform c : Program ε c.Reply).Idle around :=
  fun s reply s' hreplies => ⟨nofun, h s reply s' hreplies⟩

theorem idle_resolve (user : UserId) : (Naming.resolve user : Program ε String).Idle around :=
  fun _ => ensures_resolve fun _ => ⟨nofun, rfl⟩

section

variable [OfStorage ε]

theorem idle_get (key : String) : (get key : Program ε (Option String)).Idle around :=
  fun _ => ensures_get ⟨nofun, rfl⟩

theorem idle_findById (user : UserId) : (findById user : Program ε (Option Profile)).Idle around := by
  refine idle_bind (idle_perform fun _ _ _ hreplies => hreplies.2) fun found => ?_
  match found with
  | .ok profile => exact idle_pure profile
  | .error _ => exact idle_fail _

theorem idle_findByUsername (username : String) :
    (findByUsername username : Program ε (Option Profile)).Idle around := by
  refine idle_bind (idle_perform fun _ _ _ hreplies => hreplies.2) fun found => ?_
  match found with
  | .ok profile => exact idle_pure profile
  | .error _ => exact idle_fail _

end

/-! ## Kept relations -/

variable (around) in
def Keeps (related : Scene → Scene → Prop) (program : Program ε α) : Prop :=
  ∀ s, program.Ensures around (fun _ s' => related s s') s

section

variable {related related' : Scene → Scene → Prop} {program : Program ε α} {next : α → Program ε β}

theorem Keeps.mono (h : program.Keeps around related) (hmono : ∀ s s', related s s' → related' s s') :
    program.Keeps around related' :=
  fun s => ensures_mono (h s) fun _ => hmono s

theorem keeps_of_idle (hrefl : ∀ s, related s s) (h : program.Idle around) : program.Keeps around related :=
  fun s => ensures_of_idle h (fun _ => hrefl s) fun _ => hrefl s

theorem keeps_bind (htrans : ∀ {s s' s''}, related s s' → related s' s'' → related s s'')
    (h : program.Keeps around related) (hnext : ∀ value, (next value).Keeps around related) :
    (program >>= next).Keeps around related := by
  refine fun s => ensures_bind (ensures_mono (h s) fun outcome s' hs' => ?_)
  cases outcome with
  | ok value => exact ensures_mono (hnext value s') fun _ _ hs'' => htrans hs' hs''
  | error failure => exact hs'
  | unfinished => exact hs'

theorem keeps_mapError {view : ε → δ} (h : program.Keeps around related) :
    (program.mapError view).Keeps around related := by
  refine fun s => ensures_mapError (ensures_mono (h s) fun outcome s' hs' => ?_)
  cases outcome <;> exact hs'

theorem keeps_attempt (h : program.Keeps around related) :
    (program.attempt : Program δ (Except ε α)).Keeps around related := by
  refine fun s => ensures_attempt (ensures_mono (h s) fun outcome s' hs' => ?_)
  cases outcome <;> exact hs'

end

variable (around) in
/-- A part of the scene stays as it is. -/
def Retains {π : Type} (part : Scene → π) (program : Program ε α) : Prop :=
  program.Keeps around fun s s' => part s' = part s

section

variable {π : Type} {part : Scene → π} {program : Program ε α} {next : α → Program ε β}

theorem retains_of_idle (h : program.Idle around) : program.Retains around part :=
  keeps_of_idle (fun _ => rfl) h

theorem retains_pure (value : α) : (pure value : Program ε α).Retains around part :=
  retains_of_idle (idle_pure value)

theorem retains_bind (h : program.Retains around part) (hnext : ∀ value, (next value).Retains around part) :
    (program >>= next).Retains around part :=
  keeps_bind (fun hpart hpart' => hpart'.trans hpart) h hnext

end

/-! ## Programs that work aside -/

theorem aside_of_idle {program : Program ε α} (h : program.Idle around) : program.Keeps around Scene.Aside :=
  keeps_of_idle .refl h

theorem aside_bind {program : Program ε α} {next : α → Program ε β} (h : program.Keeps around Scene.Aside)
    (hnext : ∀ value, (next value).Keeps around Scene.Aside) : (program >>= next).Keeps around Scene.Aside :=
  keeps_bind .trans h hnext

theorem aside_pure (value : α) : (pure value : Program ε α).Keeps around Scene.Aside :=
  aside_of_idle (idle_pure value)

theorem aside_notify (notification : Notification) :
    (perform (.notify notification) : Program ε Unit).Keeps around Scene.Aside := by
  refine fun s => ensures_notify ?_
  rw [Surroundings.notified]
  split
  · exact s.aside_heard _
  · exact .refl s

/-- An update of preferences. -/
theorem aside_update [OfStorage ε] (user : UserId) (limit : Nat)
    (compute : Option String → Except ε (Option String × α)) :
    (update (Preferences.key user) limit compute).Keeps around Scene.Aside := by
  refine fun s => ensures_update (fun _ _ => .refl s) fun new _ _ =>
    ⟨fun other => ?_, fun id => ?_, List.prefix_rfl⟩
  · exact (Store.find?_rewrite _ _ _ _).trans (if_neg (Preferences.key_ne_listsKey user other).symm)
  · exact (Store.find?_rewrite _ _ _ _).trans (if_neg (Preferences.key_ne_issueKey user id).symm)

end Program

/-! ## Preferences -/

/-- The stored preferences of the user can be read and do not allow incoming todos. -/
def Store.Blocking (store : Store) (user : UserId) : Prop :=
  ∃ raw prefs, store.find? (Preferences.key user) = some raw ∧ Preferences.codec.decode raw = .ok prefs ∧
    prefs.allowIncoming = false

/-- The preferences that are loaded for a user: the stored ones if they can be read, and else the defaults. -/
def Store.preferences (store : Store) (user : UserId) : Preferences :=
  ((store.find? (Preferences.key user)).bind fun raw => (Preferences.codec.decode raw).toOption).getD .default

theorem Store.preferences_of_decode {store : Store} {user : UserId} {raw : String} {stored : Preferences}
    (hraw : store.find? (Preferences.key user) = some raw) (hdecode : Preferences.codec.decode raw = .ok stored) :
    store.preferences user = stored := by
  rw [preferences, hraw, Option.bind_some, hdecode]
  rfl

theorem Store.blocking_iff {store : Store} {user : UserId} :
    store.Blocking user ↔ (store.preferences user).allowIncoming = false := by
  constructor
  · rintro ⟨raw, stored, hraw, hdecode, hblocks⟩
    rw [preferences_of_decode hraw hdecode, hblocks]
  · intro hblocks
    rw [preferences] at hblocks
    cases hraw : store.find? (Preferences.key user) with
    | none =>
      rw [hraw] at hblocks
      cases hblocks
    | some raw =>
      rw [hraw, Option.bind_some] at hblocks
      cases hdecode : Preferences.codec.decode raw with
      | error problem =>
        rw [hdecode] at hblocks
        cases hblocks
      | ok stored =>
        rw [hdecode] at hblocks
        exact ⟨raw, stored, hraw, hdecode, hblocks⟩

theorem Store.not_blocking_of_loaded {store : Store} {user : UserId} {prefs : Preferences}
    (hprefs : ∀ raw stored, store.find? (Preferences.key user) = some raw →
      Preferences.codec.decode raw = .ok stored → prefs = stored)
    (hallowed : prefs.allowIncoming = true) : ¬ store.Blocking user := by
  rintro ⟨raw, stored, hraw, hdecode, hblocks⟩
  rw [hprefs raw stored hraw hdecode, hblocks] at hallowed
  cases hallowed

namespace PreferenceStore

open Program

variable {ε : Type} {around : Surroundings}

theorem ensures_loadOrDefault_preferences {user : UserId} {s : Scene} {result : Result ε Preferences}
    (hresult : result (.ok (s.store.preferences user)) s) : (loadOrDefault user).Ensures around result s := by
  refine ensures_bind (ensures_attempt (ensures_bind (ensures_get ?_)))
  rw [Store.preferences] at hresult
  cases hraw : s.store.find? (Preferences.key user) with
  | none =>
    rw [hraw] at hresult
    exact hresult
  | some raw =>
    rw [hraw, Option.bind_some] at hresult
    have hdocument (read : Except Json.Problem Preferences) (hread : Preferences.codec.decode raw = read) :
        ofDocument (Preferences.key user) (some raw) = read.mapError (.corrupt (Preferences.key user)) := by
      rw [ofDocument, hread]
    rw [andThen]
    cases hread : Preferences.codec.decode raw with
    | ok prefs =>
      rw [hread] at hresult
      rw [hdocument _ hread]
      exact hresult
    | error problem =>
      rw [hread] at hresult
      rw [hdocument _ hread]
      exact hresult

/-- What is stored is loaded if it can be read. -/
theorem ensures_loadOrDefault {user : UserId} {s : Scene} {result : Result ε Preferences}
    (hresult : ∀ prefs, (∀ raw stored, s.store.find? (Preferences.key user) = some raw →
      Preferences.codec.decode raw = .ok stored → prefs = stored) → result (.ok prefs) s) :
    (loadOrDefault user).Ensures around result s :=
  ensures_loadOrDefault_preferences (hresult _ fun _ _ => Store.preferences_of_decode)

theorem idle_loadOrDefault (user : UserId) : (loadOrDefault user : Program ε Preferences).Idle around :=
  fun _ => ensures_loadOrDefault fun _ _ => ⟨nofun, rfl⟩

theorem aside_switch (limit : Nat) (user : UserId) (change : Preferences → Preferences) :
    (switch limit user change).Keeps around Scene.Aside :=
  aside_update _ _ _

theorem aside_claimReminder (limit : Nat) (user : UserId) (offset : TimezoneOffset) :
    (claimReminder limit user offset).Keeps around Scene.Aside :=
  aside_bind (aside_of_idle fun _ => ensures_now fun _ => ⟨nofun, rfl⟩) fun _ => aside_update _ _ _

end PreferenceStore

/-! ## Operations that only read -/

namespace Exchange

open Program

variable {around : Surroundings}

theorem idle_loadLists (user : UserId) : (loadLists user).Idle around :=
  idle_bind (idle_get _) fun _ => idle_ofExcept _

theorem idle_loadIssue (id : IssueId) : (loadIssue id).Idle around := by
  refine idle_bind (idle_get _) fun raw => ?_
  match raw with
  | none => exact idle_pure none
  | some raw => exact idle_bind (idle_ofExcept _) fun issue => idle_pure (some issue)

theorem idle_requireIssue (id : IssueId) : (requireIssue id).Idle around :=
  idle_bind (idle_loadIssue id) fun _ => idle_ofExcept _

theorem idle_requireUser (user : UserId) : (requireUser user).Idle around := by
  refine idle_bind (idle_findById user) fun found => ?_
  match found with
  | some _ => exact idle_pure ()
  | none => exact idle_bind (idle_perform fun _ _ _ hreplies => hreplies) fun _ => idle_fail _

theorem idle_livingCounterpart (owner : UserId) (entry : Entry) :
    (livingCounterpart owner entry).Idle around := by
  rw [livingCounterpart]
  split
  · exact idle_pure none
  · refine idle_bind (idle_loadLists _) fun lists => ?_
    split
    · exact idle_pure _
    · exact idle_pure none

theorem idle_loadOnce (user : UserId) (loaded : Loaded) : (loadOnce user loaded).Idle around := by
  rw [loadOnce]
  split
  · exact idle_pure _
  · exact idle_bind (idle_loadLists user) fun lists => idle_pure _

theorem idle_listEntry (viewer : UserId) (position : Nat) (entry : Entry) (issue : Issue) (loaded : Loaded) :
    (listEntry viewer position entry issue loaded).Idle around := by
  rw [listEntry]
  dsimp only
  split
  · exact idle_pure _
  · refine idle_bind (idle_loadOnce _ loaded) fun found => ?_
    split
    · exact idle_pure _
    · exact idle_bind (idle_resolve _) fun name => idle_pure _

theorem idle_listFrom (viewer : UserId) (position : Nat) (entries : List Entry) (loaded : Loaded) :
    (listFrom viewer position entries loaded).Idle around := by
  induction entries generalizing position loaded with
  | nil => exact idle_pure []
  | cons entry rest ih =>
    refine idle_bind (idle_loadIssue entry.id) fun found => ?_
    match found with
    | none => exact ih (position + 1) loaded
    | some issue =>
      refine idle_bind (idle_listEntry viewer position entry issue loaded) fun listed => ?_
      exact idle_bind (ih (position + 1) listed.2) fun items => idle_pure _

theorem idle_listing (user : UserId) (kind : ListKind) : (listing user kind).Idle around :=
  idle_bind (idle_loadLists user) fun lists => idle_listFrom user 0 (lists.list kind) .empty

end Exchange

end SharedTodo
