import SharedTodo.Command.Execution
import SharedTodo.Proofs.Lists.ListSet
import SharedTodo.Proofs.Program.Keeps
import SharedTodo.Request.Handling

/-!
# What handlers tell

A request and a command do one operation and then tell users about it. What is told is known up to texts: for
whom the lists are to be loaded again, and which (`Program.Tells`). A handler therefore comes to what its
operation comes to, and after a success to the same scene with these users told (`Program.thenTold`). There is
one such rule for each handler; it is all that is used of a handler's text.
-/

namespace SharedTodo

namespace Surroundings

/-- The scene afterwards, when users have been told and nothing else has been done. -/
structure Hears (around : Surroundings) (told : ListSet) (s s' : Scene) : Prop where
  store : s'.store = s.store
  sent : ∃ new, s'.sent = s.sent ++ new ∧
    (around.delivers = true → ∀ user kind, kind ∈ Notification.refreshedFor user new ↔ told user kind)

variable {around : Surroundings} {told told' : ListSet} {s s' s'' : Scene}

theorem Hears.refl (around : Surroundings) (s : Scene) : around.Hears .none s s :=
  ⟨rfl, [], (List.append_nil _).symm, fun _ _ _ => by simp [Notification.refreshedFor]⟩

theorem Hears.trans (h : around.Hears told s s') (h' : around.Hears told' s' s'') :
    around.Hears (.both told told') s s'' := by
  obtain ⟨new, hsent, hnew⟩ := h.sent
  obtain ⟨new', hsent', hnew'⟩ := h'.sent
  refine ⟨h'.store.trans h.store, new ++ new', by rw [hsent', hsent, List.append_assoc], fun hup user kind => ?_⟩
  rw [ListSet.both_iff, ← hnew hup, ← hnew' hup, Notification.refreshedFor, List.flatMap_append, List.mem_append]
  rfl

theorem Hears.of_iff (h : around.Hears told s s') (hiff : ∀ user kind, told user kind ↔ told' user kind) :
    around.Hears told' s s' := by
  obtain ⟨new, hsent, hnew⟩ := h.sent
  exact ⟨h.store, new, hsent, fun hup user kind => (hnew hup user kind).trans (hiff user kind)⟩

theorem Hears.aside (h : around.Hears told s s') : s.Aside s' := by
  obtain ⟨new, hsent, -⟩ := h.sent
  exact ⟨fun _ => by rw [h.store], fun _ => by rw [h.store], hsent ▸ List.prefix_append _ _⟩

theorem hears_notified (around : Surroundings) (s : Scene) (notification : Notification) :
    around.Hears (fun user kind => kind ∈ Notification.refreshedFor user [notification]) s
      (around.notified s notification) := by
  rw [notified]
  split
  · exact ⟨rfl, [notification], rfl, fun _ _ _ => .rfl⟩
  · next hdown => exact ⟨rfl, [], (List.append_nil _).symm, fun hup => absurd hup hdown⟩

end Surroundings

namespace Program

variable {ε δ α β : Type} {around : Surroundings} {told told' : ListSet} {s : Scene}

variable (around) in
/-- The program succeeds, and all it does is to tell users. -/
def Tells (told : ListSet) (program : Program ε α) : Prop :=
  ∀ s, program.Ensures around (fun outcome s' => (∃ value, outcome = .ok value) ∧ around.Hears told s s') s

variable (around) in
/-- Nobody is told to load anything. -/
def Silent (program : Program ε α) : Prop :=
  program.Tells around .none

theorem tells_iff {program : Program ε α} (h : program.Tells around told)
    (hiff : ∀ user kind, told user kind ↔ told' user kind) : program.Tells around told' :=
  fun s => ensures_mono (h s) fun _ _ hend => ⟨hend.1, hend.2.of_iff hiff⟩

theorem tells_bind {program : Program ε α} {next : α → Program ε β} (h : program.Tells around told)
    (hnext : ∀ value, (next value).Tells around told') :
    (program >>= next).Tells around (.both told told') := by
  refine fun s => ensures_bind (ensures_mono (h s) fun outcome s' hend => ?_)
  obtain ⟨⟨value, rfl⟩, hheard⟩ := hend
  exact ensures_mono (hnext value s') fun _ _ hend' => ⟨hend'.1, hheard.trans hend'.2⟩

/-- Silence before a program. -/
theorem tells_after {program : Program ε α} {next : α → Program ε β} (h : program.Silent around)
    (hnext : ∀ value, (next value).Tells around told) : (program >>= next).Tells around told :=
  tells_iff (tells_bind h hnext) fun _ _ => iff_of_eq (false_or _)

/-- Silence after a program. -/
theorem tells_before {program : Program ε α} {next : α → Program ε β} (h : program.Tells around told)
    (hnext : ∀ value, (next value).Silent around) : (program >>= next).Tells around told :=
  tells_iff (tells_bind h hnext) fun _ _ => iff_of_eq (or_false _)

theorem silent_pure (value : α) : (pure value : Program ε α).Silent around :=
  fun s => ⟨⟨value, rfl⟩, .refl around s⟩

theorem silent_of_idle {program : Program ε α} (h : program.Idle around) :
    (program.attempt : Program δ (Except ε α)).Silent around :=
  fun s => ensures_attempt (ensures_of_idle h (fun _ => ⟨⟨_, rfl⟩, .refl around s⟩)
    fun _ => ⟨⟨_, rfl⟩, .refl around s⟩)

theorem silent_resolve (user : UserId) : (Naming.resolve user : Program ε String).Silent around :=
  fun s => ensures_resolve fun _ => ⟨⟨_, rfl⟩, .refl around s⟩

theorem tells_notify (notification : Notification) :
    (perform (.notify notification) : Program ε Unit).Tells around
      fun user kind => kind ∈ Notification.refreshedFor user [notification] :=
  fun s => ensures_notify ⟨⟨_, rfl⟩, around.hears_notified s notification⟩

end Program

/-! ## Delivery -/

namespace Delivery

open Program

variable {ε : Type} {around : Surroundings}

theorem tells_refresh (user : UserId) (lists : List ListKind) :
    (refresh user lists : Program ε Unit).Tells around (.of (some user) lists) := by
  refine tells_iff (tells_notify _) fun other kind => ?_
  by_cases hother : user = other <;> simp [Notification.refreshedFor, hother]

theorem silent_directMessage (user : UserId) (message : String) :
    (directMessage user message : Program ε Unit).Silent around :=
  tells_iff (tells_notify _) fun _ _ => by simp [Notification.refreshedFor]

theorem silent_offer (user : UserId) (message todo : String) (issue : IssueId) :
    (offer user message todo issue : Program ε Unit).Silent around :=
  tells_iff (tells_notify _) fun _ _ => by simp [Notification.refreshedFor]

theorem silent_reply (post : Option PostId) (message todo : String) :
    (reply post message todo : Program ε Unit).Silent around := by
  cases post with
  | none => exact silent_pure ()
  | some post => exact tells_iff (tells_notify _) fun _ _ => by simp [Notification.refreshedFor]

end Delivery

/-! ## Handlers -/

namespace Program

variable {ε δ α β : Type}

/-- The result of an operation that is followed by telling users, its failure seen in another form. -/
def thenTold (around : Surroundings) (view : ε → δ) (told : α → ListSet) (result : Result δ β) : Result ε α
  | .ok report, s => ∀ value s', around.Hears (told report) s s' → result (.ok value) s'
  | .error failure, s => result (.error (view failure)) s
  | .unfinished, s => result .unfinished s

theorem ensures_thenTold {around : Surroundings} {s : Scene} {operation : Program ε α} {view : ε → δ}
    {next : α → Program δ β} {told : α → ListSet} {result : Result δ β}
    (hnext : ∀ report, (next report).Tells around (told report))
    (h : operation.Ensures around (thenTold around view told result) s) :
    (operation.mapError view >>= next).Ensures around result s := by
  refine ensures_bind (ensures_mapError (ensures_mono h fun outcome s₁ hend => ?_))
  cases outcome with
  | ok report =>
    refine ensures_mono (hnext report s₁) fun outcome s₂ htold => ?_
    obtain ⟨⟨value, rfl⟩, hheard⟩ := htold
    exact hend value s₂ hheard
  | error failure => exact hend
  | unfinished => exact hend

end Program

namespace Request

open Program Delivery

variable {around : Surroundings} {s : Scene} {limits : Exchange.Limits} {user : UserId} {id : IssueId}
  {result : Result Failure Response}

theorem ensures_handleAdd {draft : Draft}
    (h : (Exchange.add limits user draft).Ensures around
      (thenTold around (.operation .add) (fun _ => .of (some user) [.my]) result) s) :
    (handleAdd limits user draft).Ensures around result s :=
  ensures_thenTold (fun _ => tells_before (tells_refresh user [.my]) fun _ =>
    tells_after (silent_resolve user) fun _ => tells_after (silent_reply _ _ _) fun _ => silent_pure _) h

/-- The receiver's preferences come first; one who blocks todos is sent none. -/
theorem ensures_sendTo {draft : Draft} {receiver : Profile}
    (hblocked : ∀ value s', around.Hears .none s s' → result (.ok value) s')
    (h : ¬ s.store.Blocking receiver.id → (Exchange.send limits user receiver.id draft).Ensures around
      (thenTold around (.operation .send)
        (fun _ => .both (.of (some user) [.out]) (.of (some receiver.id) [.inbox])) result) s) :
    (sendTo limits user draft receiver).Ensures around result s := by
  refine ensures_bind (PreferenceStore.ensures_loadOrDefault fun prefs hprefs => ?_)
  rw [andThen]
  split
  · refine ensures_bind (ensures_mono (silent_directMessage user _ s) ?_)
    rintro outcome s' ⟨⟨value, rfl⟩, hheard⟩
    exact hblocked _ s' hheard
  · next hallowed =>
    have hasked := Store.not_blocking_of_loaded hprefs (Classical.not_not.1 hallowed)
    exact ensures_thenTold (fun _ => tells_bind (tells_refresh user [.out]) fun _ =>
      tells_before (tells_refresh receiver.id [.inbox]) fun _ => tells_after (silent_resolve user) fun _ =>
      tells_after (silent_offer _ _ _ _) fun _ => tells_after (silent_reply _ _ _) fun _ => silent_pure _)
      (h hasked)

theorem ensures_findUser {username : String} {result : Result Failure Profile}
    (hfound : ∀ profile, around.byUsername username = .ok (some profile) → result (.ok profile) s)
    (hfailed : ∀ failure, (∀ profile, around.byUsername username ≠ .ok (some profile)) →
      result (.error failure) s) :
    (findUser username).Ensures around result s := by
  refine ensures_bind (ensures_perform ?_)
  rintro found s' ⟨rfl, rfl⟩
  match hfind : around.byUsername username with
  | .ok (some profile) => exact hfound profile hfind
  | .ok none => exact hfailed _ fun profile hprofile => nomatch hfind.symm.trans hprofile
  | .error _ => exact hfailed _ fun profile hprofile => nomatch hfind.symm.trans hprofile

theorem aside_remind (kind : ListKind) (items : List ListedIssue) (offset : TimezoneOffset) :
    (remind limits user kind items offset).Keeps around Scene.Aside := by
  refine aside_bind (keeps_attempt (PreferenceStore.aside_claimReminder _ user offset)) fun claimed => ?_
  match claimed with
  | .ok true => exact aside_notify _
  | .ok false => exact aside_pure ()
  | .error _ => exact aside_pure ()

theorem aside_handleList (kind : ListKind) (reminder : Bool) (offset : TimezoneOffset) :
    (handleList limits user kind reminder offset).Keeps around Scene.Aside := by
  refine aside_bind (aside_of_idle (idle_mapError (Exchange.idle_listing user kind))) fun items => ?_
  dsimp only
  split
  · exact aside_bind (aside_remind kind items offset) fun _ => aside_pure _
  · exact aside_pure _

theorem ensures_handleEdit {change : Edit}
    (h : (Exchange.edit limits user id change).Ensures around
      (thenTold around (.operation .edit) (fun edited => .halves user edited.list edited.foreignUser) result) s) :
    (handleEdit limits user id change).Ensures around result s := by
  refine ensures_thenTold (fun edited => tells_bind (tells_refresh user [edited.list]) fun _ => ?_) h
  cases edited.foreignUser with
  | none => exact tells_iff (silent_pure _) fun _ _ => by simp
  | some other =>
    exact tells_before (tells_refresh other _) fun _ => tells_after (silent_resolve user) fun _ =>
      tells_after (silent_directMessage other _) fun _ => silent_pure _

theorem tells_tellOther (bySender : Bool) (lists : List ListKind) (toReceiver toSender : String)
    (other : Option UserId) :
    (tellOther bySender lists toReceiver toSender other).Tells around
      (.of other (if bySender then lists else [.out])) := by
  cases other with
  | none => exact tells_iff (silent_pure _) fun _ _ => by simp
  | some other =>
    cases bySender with
    | true => exact tells_before (tells_refresh other lists) fun _ => silent_directMessage other _
    | false => exact tells_before (tells_refresh other [.out]) fun _ => silent_directMessage other _

theorem ensures_handleComplete
    (h : (Exchange.complete limits user id).Ensures around
      (thenTold around (.operation .complete)
        (fun completed => .halves user completed.list completed.foreignUser) result) s) :
    (handleComplete limits user id).Ensures around result s := by
  refine ensures_thenTold (fun completed => ?_) h
  refine tells_bind (tells_refresh user [completed.list]) fun _ => tells_after (silent_resolve user) fun _ =>
    tells_after (silent_reply _ _ _) fun _ => tells_before ?_ fun _ => silent_pure _
  exact tells_iff (tells_tellOther _ _ _ _ _) fun _ _ => by simp only [decide_eq_true_eq]

theorem ensures_handleRemove
    (h : (Exchange.remove limits user id).Ensures around
      (thenTold around (.operation .remove) (fun removed => .both (.of (some user) [removed.list])
        (.of removed.foreignUser (if removed.isSender then [.inbox, .my] else [.out]))) result) s) :
    (handleRemove limits user id).Ensures around result s := by
  refine ensures_thenTold (fun removed => ?_) h
  exact tells_bind (tells_refresh user [removed.list]) fun _ => tells_after (silent_resolve user) fun _ =>
    tells_after (silent_reply _ _ _) fun _ => tells_before (tells_tellOther _ _ _ _ _) fun _ => silent_pure _

theorem ensures_handleAccept
    (h : (Exchange.accept limits user id).Ensures around
      (thenTold around (.operation .accept) (fun accepted => .both (.of (some user) [.my, .inbox])
        (.of accepted.foreignUser [.out])) result) s) :
    (handleAccept limits user id).Ensures around result s := by
  refine ensures_thenTold (fun accepted => tells_bind (tells_refresh user [.my, .inbox]) fun _ => ?_) h
  cases accepted.foreignUser with
  | none => exact tells_iff (silent_pure _) fun _ _ => by simp
  | some sender =>
    exact tells_before (tells_refresh sender [.out]) fun _ => tells_after (silent_resolve user) fun _ =>
      tells_after (silent_directMessage sender _) fun _ => silent_pure _

theorem ensures_handleBump
    (h : (Exchange.bump limits user id).Ensures around
      (thenTold around (.operation .bump) (fun bumped => .of (some bumped.receiver) [.inbox]) result) s) :
    (handleBump limits user id).Ensures around result s :=
  ensures_thenTold (fun bumped => tells_before (tells_refresh bumped.receiver [.inbox]) fun _ =>
    tells_after (silent_resolve user) fun _ => tells_after (silent_offer _ _ _ _) fun _ => silent_pure _) h

theorem tells_tellNewOwner (name : String) (newOwner : UserId) (message : String) (issue : Option IssueId) :
    (tellNewOwner name newOwner message issue).Tells around
      (.of (issue.map fun _ => newOwner) [.inbox]) := by
  cases issue with
  | none => exact tells_iff (silent_pure _) fun _ _ => by simp
  | some issue => exact tells_before (tells_refresh newOwner [.inbox]) fun _ => silent_offer _ _ _ _

theorem tells_tellPrevious (name message : String) (previous : Option UserId) :
    (tellPrevious name message previous).Tells around (.of previous [.inbox, .my]) := by
  cases previous with
  | none => exact tells_iff (silent_pure _) fun _ _ => by simp
  | some previous => exact tells_before (tells_refresh previous [.inbox, .my]) fun _ => silent_directMessage _ _

/-- What is told of a reassignment. -/
def toldOfReassigned (user newOwner : UserId) (reassigned : Exchange.Reassigned) : ListSet :=
  ListSet.both (.of (some user) [.my, .out])
    (.both (.of (reassigned.newIssue.map fun _ => newOwner) [.inbox])
      (.of reassigned.previous [.inbox, .my]))

theorem ensures_handleReassign {username : String}
    (hfailed : ∀ failure, (∀ profile, around.byUsername username ≠ .ok (some profile)) →
      result (.error failure) s)
    (h : ∀ newOwner, around.byUsername username = .ok (some newOwner) →
      (Exchange.reassign limits id user newOwner.id).Ensures around
        (thenTold around (.operation .reassign) (toldOfReassigned user newOwner.id) result) s) :
    (handleReassign limits user id username).Ensures around result s := by
  refine ensures_bind (ensures_findUser (fun newOwner hfound => ?_) hfailed)
  refine ensures_thenTold (fun reassigned => ?_) (h newOwner hfound)
  exact tells_bind (tells_refresh user [.my, .out]) fun _ => tells_after (silent_resolve user) fun name =>
    tells_bind (tells_tellNewOwner name newOwner.id _ _) fun _ =>
    tells_before (tells_tellPrevious name _ _) fun _ => silent_pure _

end Request

namespace Command

open Program Delivery

variable {around : Surroundings} {s : Scene} {limits : Exchange.Limits} {user : UserId}
  {result : Result Failure String}

theorem silent_withOwnList (user : UserId) (reply : String) : (withOwnList user reply).Silent around := by
  refine tells_after (silent_of_idle (Exchange.idle_listing user .my)) fun listed => ?_
  match listed with
  | .ok items => exact silent_pure _
  | .error _ => exact silent_pure _

theorem aside_executeList (user : UserId) (kind : ListKind) :
    (executeList user kind).Keeps around Scene.Aside :=
  aside_bind (aside_of_idle (idle_mapError (Exchange.idle_listing user kind))) fun _ =>
    aside_bind (aside_notify _) fun _ => aside_pure _

theorem ensures_executeAdd {message : String} (hfailed : ∀ failure, result (.error failure) s)
    (h : ∀ draft, (Exchange.add limits user draft).Ensures around
      (thenTold around .operation (fun _ => .of (some user) [.my]) result) s) :
    (executeAdd limits user message).Ensures around result s := by
  refine ensures_bind (ensures_of_idle (idle_ofExcept _) (fun draft => ?_) hfailed)
  exact ensures_thenTold (fun _ => tells_before (tells_refresh user [.my]) fun _ => silent_withOwnList user _)
    (h draft)

theorem tells_tellSender (name message : String) (sender : Option UserId) :
    (tellSender name message sender).Tells around (.of sender [.out]) := by
  cases sender with
  | none => exact tells_iff (silent_pure _) fun _ _ => by simp
  | some sender => exact tells_before (tells_refresh sender [.out]) fun _ => silent_directMessage _ _

theorem tells_reportPopped (user : UserId) (popped : Exchange.Popped) :
    (reportPopped user popped).Tells around
      (.both (.of popped.foreignUser [.out]) (.of (some user) [.my])) :=
  tells_after (silent_resolve user) fun name => tells_bind (tells_tellSender name _ _) fun _ =>
    tells_before (tells_refresh user [.my]) fun _ => tells_after (silent_reply _ _ _) fun _ =>
    silent_withOwnList user _

/-- The failure of an empty list is a reply. -/
theorem ensures_executePop (hempty : ∀ failure s', result (.error failure) s' → result (.ok nothingToPop) s')
    (h : (Exchange.pop limits user).Ensures around
      (thenTold around .operation (fun popped => .both (.of popped.foreignUser [.out])
        (.of (some user) [.my])) result) s) :
    (executePop limits user).Ensures around result s := by
  refine ensures_bind (ensures_attempt (ensures_mono h fun outcome s₁ hend => ?_))
  cases outcome with
  | ok popped =>
    refine ensures_mono (tells_reportPopped user popped s₁) ?_
    rintro outcome s₂ ⟨⟨value, rfl⟩, hheard⟩
    exact hend value s₂ hheard
  | error failure =>
    show Program.Ensures around (if failure.isEmptyList then _ else _) result s₁
    split
    · exact hempty _ _ hend
    · exact hend
  | unfinished => exact hend

theorem ensures_sendTo {receiver : Profile} {message : String} (hfailed : ∀ failure, result (.error failure) s)
    (hblocked : ∀ value, result (.ok value) s)
    (h : ∀ draft, ¬ s.store.Blocking receiver.id → (Exchange.send limits user receiver.id draft).Ensures around
      (thenTold around .operation
        (fun _ => .both (.of (some user) [.out]) (.of (some receiver.id) [.inbox])) result) s) :
    (sendTo limits user receiver message).Ensures around result s := by
  refine ensures_bind (PreferenceStore.ensures_loadOrDefault fun prefs hprefs => ?_)
  rw [andThen]
  split
  · exact hblocked _
  · next hallowed =>
    have hasked := Store.not_blocking_of_loaded hprefs (Classical.not_not.1 hallowed)
    refine ensures_bind (ensures_of_idle (idle_ofExcept _) (fun draft => ?_) hfailed)
    exact ensures_thenTold (fun _ => tells_bind (tells_refresh user [.out]) fun _ =>
      tells_before (tells_refresh receiver.id [.inbox]) fun _ => tells_after (silent_resolve user) fun _ =>
      tells_after (silent_offer _ _ _ _) fun _ => silent_pure _) (h draft hasked)

/-- A todo for nobody is none, and one for oneself is noted. -/
theorem ensures_executeSend {username message : String} (hfailed : ∀ failure, result (.error failure) s)
    (hreplied : ∀ value, result (.ok value) s) (hadd : (executeAdd limits user message).Ensures around result s)
    (hsend : ∀ (receiver : Profile) draft, ¬ s.store.Blocking receiver.id →
      (Exchange.send limits user receiver.id draft).Ensures around
        (thenTold around .operation
          (fun _ => .both (.of (some user) [.out]) (.of (some receiver.id) [.inbox])) result) s) :
    (executeSend limits user username message).Ensures around result s := by
  refine ensures_bind (ensures_of_idle (idle_findByUsername username) (fun found => ?_) hfailed)
  cases found with
  | none => exact hreplied _
  | some receiver =>
    dsimp only [andThen]
    split
    · exact hadd
    · exact ensures_sendTo hfailed hreplied (hsend receiver)

theorem aside_executeSwitch (setting : Setting) (on : Bool) :
    (executeSwitch limits user setting on).Keeps around Scene.Aside := by
  cases setting <;>
    exact aside_bind (keeps_mapError (PreferenceStore.aside_switch _ user _)) fun _ => aside_pure _

theorem aside_executeShowSettings (user : UserId) : (executeShowSettings user).Keeps around Scene.Aside :=
  aside_of_idle (idle_bind (PreferenceStore.idle_loadOrDefault user) fun _ => idle_pure _)

theorem aside_executeShowSetting (user : UserId) (setting : Setting) :
    (executeShowSetting user setting).Keeps around Scene.Aside :=
  aside_of_idle (idle_bind (PreferenceStore.idle_loadOrDefault user) fun _ => idle_pure _)

/-- What a command comes to, whether it succeeds or not. -/
theorem ensures_execute {ε : Type} {line : String} (ends : Scene → Prop) (hhere : ends s)
    (h : ∀ command : Command, (command.perform limits user).Ensures around (fun _ s' => ends s') s) :
    (execute limits user line : Program ε String).Ensures around (fun _ s' => ends s') s := by
  rw [execute]
  split
  · exact hhere
  · next command _ =>
    refine ensures_bind (ensures_attempt (ensures_mono (h command) fun outcome s' hend => ?_))
    cases outcome <;> exact hend

end Command

end SharedTodo
