import SharedTodo.Proofs.Exchange.Actionable
import SharedTodo.Proofs.Notification.Telling
import SharedTodo.Proofs.Request.Sending

/-!
# Offered todos can be accepted

A direct message may have a todo attached, with the identifier of the recipient's own issue. Commands and
requests are executed one after the other, from an empty store on, and identifiers are different. Then whatever
a user is offered waits among their received todos when the command or request has ended, and an acceptance
that names it succeeds and tells whoever has offered it (`Session.Answerable`).

Three requests and one command offer todos: those that send, hand over or bump one. What they offer is what
their operation reports (`Exchange.Reports`), and after it nothing is done but to tell users (`Scene.Hands`).
Everything else offers nothing, and leaves the store ready for what comes next (`Scene.Calm`).
-/

namespace SharedTodo

open Program

/-! ## What is handed out -/

namespace Scene

/-- Users have been told, and nothing else has been done; nothing but the one todo has been offered. -/
structure Hands (offer : Option (UserId × Attachment)) (s s' : Scene) : Prop where
  store : s'.store = s.store
  drawn : s'.drawn = s.drawn
  offers : s.Offers (fun recipient attachment => offer = some (recipient, attachment)) s'

/-- How a command or a request of the caller leaves a scene: as it should be, and whatever has been offered can
be acted on, as long as identifiers are different. -/
structure Attends (around : Surroundings) (caller : UserId) (s s' : Scene) : Prop where
  balanced : Exchange.Unrepeated around s' → s.Balanced around → s'.Balanced around
  offers : s.Offers (fun recipient attachment => Exchange.Unrepeated around s' → s.Balanced around →
    s'.store.Actionable caller recipient attachment) s'

variable {around : Surroundings} {caller : UserId} {offer : Option (UserId × Attachment)} {s s' s'' : Scene}

theorem Hands.refl (offer : Option (UserId × Attachment)) (s : Scene) : s.Hands offer s :=
  ⟨rfl, rfl, offers_of_eq rfl⟩

theorem Hands.trans (h : s.Hands offer s') (h' : s'.Hands offer s'') : s.Hands offer s'' :=
  ⟨h'.store.trans h.store, h'.drawn.trans h.drawn, h.offers.trans h'.offers⟩

theorem Hands.balanced (h : s.Hands offer s') (hbalanced : s.Balanced around) : s'.Balanced around :=
  ⟨h.store ▸ hbalanced.consistent, h.store ▸ hbalanced.mirrored,
    fun id hid => (hbalanced.drew id (h.store ▸ hid)).later (Nat.le_of_eq h.drawn.symm)⟩

theorem Hands.calm (h : s.Hands none s') : s.Calm around s' :=
  ⟨Nat.le_of_eq h.drawn.symm, fun _ => h.balanced, h.offers.mono nofun⟩

theorem Calm.refl (around : Surroundings) (s : Scene) : s.Calm around s :=
  (Hands.refl none s).calm

theorem Calm.attends (h : s.Calm around s') : s.Attends around caller s' :=
  ⟨h.balanced, h.quiet.mono fun _ _ => False.elim⟩

/-- What is handed out after a calm operation is actionable, if what the operation reports is. -/
theorem Calm.hands (h : s.Calm around s') (h' : s'.Hands offer s'')
    (hreported : s.Balanced around → Exchange.Unrepeated around s' → ∀ recipient attachment,
      offer = some (recipient, attachment) → s'.store.Actionable caller recipient attachment) :
    s.Attends around caller s'' := by
  have hearlier (hunrepeated : Exchange.Unrepeated around s'') : Exchange.Unrepeated around s' :=
    hunrepeated.earlier (Nat.le_of_eq h'.drawn.symm)
  refine ⟨fun hunrepeated hbalanced => h'.balanced (h.balanced (hearlier hunrepeated) hbalanced), ?_⟩
  refine (h.quiet.mono fun _ _ => False.elim).trans (h'.offers.mono ?_)
  intro recipient attachment hoffer hunrepeated hbalanced
  rw [h'.store]
  exact hreported hbalanced (hearlier hunrepeated) recipient attachment hoffer

end Scene

namespace Program

variable {ε δ α β : Type} {around : Surroundings} {offer : Option (UserId × Attachment)} {s : Scene}

theorem hands_bind {program : Program ε α} {next : α → Program ε β}
    (h : program.Keeps around (Scene.Hands offer))
    (hnext : ∀ value, (next value).Keeps around (Scene.Hands offer)) :
    (program >>= next).Keeps around (Scene.Hands offer) :=
  keeps_bind .trans h hnext

theorem hands_of_idle {program : Program ε α} (h : program.Idle around) :
    program.Keeps around (Scene.Hands offer) :=
  keeps_of_idle (Scene.Hands.refl offer) h

theorem hands_pure (value : α) : (pure value : Program ε α).Keeps around (Scene.Hands offer) :=
  hands_of_idle (idle_pure value)

theorem hands_resolve (user : UserId) : (Naming.resolve user : Program ε String).Keeps around (Scene.Hands offer) :=
  hands_of_idle (idle_resolve user)

theorem hands_notify {notification : Notification}
    (h : ∀ recipient text attachment, notification = .directMessage recipient text (some attachment) →
      offer = some (recipient, attachment)) :
    (perform (.notify notification) : Program ε Unit).Keeps around (Scene.Hands offer) := by
  refine fun s => ensures_notify ?_
  rw [Surroundings.notified]
  split
  · refine ⟨rfl, rfl, [notification], rfl, fun recipient text attachment hoffer => ?_⟩
    exact h recipient text attachment (List.mem_singleton.1 hoffer).symm
  · exact .refl offer s

theorem calm_bind {program : Program ε α} {next : α → Program ε β}
    (h : program.Keeps around (Scene.Calm around))
    (hnext : ∀ value, (next value).Keeps around (Scene.Calm around)) :
    (program >>= next).Keeps around (Scene.Calm around) :=
  keeps_bind .trans h hnext

theorem calm_of_idle {program : Program ε α} (h : program.Idle around) :
    program.Keeps around (Scene.Calm around) :=
  keeps_of_idle (Scene.Calm.refl around) h

theorem calm_of_hands {program : Program ε α} (h : program.Keeps around (Scene.Hands none)) :
    program.Keeps around (Scene.Calm around) :=
  h.mono fun _ _ => Scene.Hands.calm

/-- An operation that is followed by telling users about it. -/
theorem calm_acted {operation : Program ε α} {view : ε → δ} {next : α → Program δ β}
    (h : operation.Keeps around (Scene.Calm around))
    (hnext : ∀ report, (next report).Keeps around (Scene.Hands none)) :
    (operation.mapError view >>= next).Keeps around (Scene.Calm around) :=
  calm_bind (keeps_mapError h) fun report => calm_of_hands (hnext report)

theorem attends_of_calm {caller : UserId} {program : Program ε α}
    (h : program.Keeps around (Scene.Calm around)) :
    program.Keeps around (Scene.Attends around caller) :=
  h.mono fun _ _ => Scene.Calm.attends

theorem attends_after {caller : UserId} {program : Program ε α} {next : α → Program ε β}
    (h : program.Idle around) (hnext : ∀ value, (next value).Keeps around (Scene.Attends around caller)) :
    (program >>= next).Keeps around (Scene.Attends around caller) :=
  fun s => ensures_bind (ensures_of_idle h (fun value => hnext value s)
    fun _ => (Scene.Calm.refl around s).attends)

/-- An operation whose report is offered afterwards. -/
theorem attends_acted {caller : UserId} {operation : Exchange.Operation α} {view : OperationError → δ}
    {next : α → Program δ β} (offer : α → Option (UserId × Attachment))
    (h : operation.Keeps around (Scene.Calm around))
    (hreports : ∀ s, s.Balanced around → operation.Ensures around (Exchange.Reports around caller offer) s)
    (hnext : ∀ report, (next report).Keeps around (Scene.Hands (offer report))) :
    (operation.mapError view >>= next).Keeps around (Scene.Attends around caller) := by
  intro s
  have hreports : operation.Ensures around
      (fun outcome s' => s.Balanced around → Exchange.Reports around caller offer outcome s') s := by
    by_cases hbalanced : s.Balanced around
    · exact ensures_mono (hreports s hbalanced) fun _ _ hend _ => hend
    · exact ensures_mono (h s) fun _ _ _ hbefore => absurd hbefore hbalanced
  refine ensures_bind (ensures_mapError (ensures_mono (ensures_and (h s) hreports) fun outcome s₁ hend => ?_))
  obtain ⟨hcalm, hreported⟩ := hend
  cases outcome with
  | ok report => exact ensures_mono (hnext report s₁) fun _ _ hhands => hcalm.hands hhands hreported
  | error failure => exact hcalm.attends
  | unfinished => exact hcalm.attends

end Program

namespace Delivery

variable {ε : Type} {around : Surroundings} {offer : Option (UserId × Attachment)}

theorem hands_refresh (user : UserId) (lists : List ListKind) :
    (refresh user lists : Program ε Unit).Keeps around (Scene.Hands offer) :=
  hands_notify nofun

theorem hands_directMessage (user : UserId) (message : String) :
    (directMessage user message : Program ε Unit).Keeps around (Scene.Hands offer) :=
  hands_notify nofun

theorem hands_reply (post : Option PostId) (message todo : String) :
    (reply post message todo : Program ε Unit).Keeps around (Scene.Hands offer) := by
  cases post with
  | none => exact hands_pure ()
  | some post => exact hands_notify nofun

theorem hands_offer (user : UserId) (message todo : String) (issue : IssueId) :
    (Delivery.offer user message todo issue : Program ε Unit).Keeps around
      (Scene.Hands (some (user, ⟨todo, issue⟩))) := by
  refine hands_notify ?_
  rintro recipient text attachment ⟨⟩
  rfl

end Delivery

/-! ## Preferences -/

namespace PreferenceStore

variable {ε : Type} [OfStorage ε] {around : Surroundings}

theorem calm_update {α : Type} (user : UserId) (limit : Nat)
    (compute : Option String → Except ε (Option String × α)) :
    (update (Preferences.key user) limit compute).Keeps around (Scene.Calm around) := by
  intro s
  have haside := @aside_update _ _ around _ user limit compute s
  refine ensures_mono (ensures_and (ensures_and (drawn_le _ s) haside) (untold_update _ limit compute s)) ?_
  exact fun _ _ hend => hend.1.2.calm hend.1.1 (Scene.offers_of_eq hend.2)

theorem calm_claimReminder (limit : Nat) (user : UserId) (offset : TimezoneOffset) :
    (claimReminder limit user offset).Keeps around (Scene.Calm around) :=
  calm_bind (calm_of_idle fun _ => ensures_now fun _ => ⟨nofun, rfl⟩) fun _ => calm_update _ _ _

end PreferenceStore

/-! ## Requests -/

namespace Request

open Delivery

variable {around : Surroundings} {limits : Exchange.Limits} {user : UserId}

theorem calm_handleAdd (draft : Draft) : (handleAdd limits user draft).Keeps around (Scene.Calm around) :=
  calm_acted (Exchange.calm_of_action (.add user draft) rfl) fun _ =>
    hands_bind (hands_refresh user [.my]) fun _ => hands_bind (hands_resolve user) fun _ =>
    hands_bind (hands_reply _ _ _) fun _ => hands_pure _

theorem attends_sendTo (draft : Draft) (receiver : Profile) :
    (sendTo limits user draft receiver).Keeps around (Scene.Attends around user) := by
  refine attends_after (PreferenceStore.idle_loadOrDefault receiver.id) fun prefs => ?_
  split
  · exact attends_of_calm (calm_of_hands (hands_bind (hands_directMessage user _) fun _ => hands_pure _))
  · refine attends_acted (fun issue => some (receiver.id, ⟨draft.message, issue⟩))
      (Exchange.calm_of_action (.send user receiver.id draft) rfl)
      (fun _ hbalanced => Exchange.reports_send hbalanced receiver.id draft) fun issue => ?_
    exact hands_bind (hands_refresh user [.out]) fun _ => hands_bind (hands_refresh receiver.id [.inbox]) fun _ =>
      hands_bind (hands_resolve user) fun _ => hands_bind (hands_offer receiver.id _ _ issue) fun _ =>
      hands_bind (hands_reply _ _ _) fun _ => hands_pure _

theorem idle_findUser (username : String) : (findUser username).Idle around :=
  fun _ => ensures_findUser (fun _ _ => ⟨nofun, rfl⟩) fun _ _ => ⟨nofun, rfl⟩

theorem attends_handleSend (draft : Draft) (username : String) :
    (handleSend limits user draft username).Keeps around (Scene.Attends around user) := by
  refine attends_after (idle_findUser username) fun receiver => ?_
  split
  · exact attends_of_calm (calm_handleAdd draft)
  · exact attends_sendTo draft receiver

theorem calm_remind (kind : ListKind) (items : List ListedIssue) (offset : TimezoneOffset) :
    (remind limits user kind items offset).Keeps around (Scene.Calm around) := by
  refine calm_bind (keeps_attempt (PreferenceStore.calm_claimReminder _ user offset)) fun claimed => ?_
  match claimed with
  | .ok true => exact calm_of_hands (hands_directMessage user _)
  | .ok false => exact calm_of_hands (hands_pure ())
  | .error _ => exact calm_of_hands (hands_pure ())

theorem calm_handleList (kind : ListKind) (reminder : Bool) (offset : TimezoneOffset) :
    (handleList limits user kind reminder offset).Keeps around (Scene.Calm around) := by
  refine calm_bind (calm_of_idle (idle_mapError (Exchange.idle_listing user kind))) fun items => ?_
  dsimp only
  split
  · exact calm_bind (calm_remind kind items offset) fun _ => calm_of_hands (hands_pure _)
  · exact calm_of_hands (hands_pure _)

theorem calm_handleEdit (id : IssueId) (change : Edit) :
    (handleEdit limits user id change).Keeps around (Scene.Calm around) := by
  refine calm_acted (Exchange.calm_of_action (.edit user id change) rfl) fun edited => ?_
  refine hands_bind (hands_refresh user [edited.list]) fun _ => ?_
  cases edited.foreignUser with
  | none => exact hands_pure _
  | some other =>
    exact hands_bind (hands_refresh other _) fun _ => hands_bind (hands_resolve user) fun _ =>
      hands_bind (hands_directMessage other _) fun _ => hands_pure _

theorem hands_tellOther (bySender : Bool) (lists : List ListKind) (toReceiver toSender : String)
    (other : Option UserId) :
    (tellOther bySender lists toReceiver toSender other).Keeps around (Scene.Hands none) := by
  cases other with
  | none => exact hands_pure ()
  | some other =>
    cases bySender with
    | true => exact hands_bind (hands_refresh other lists) fun _ => hands_directMessage other _
    | false => exact hands_bind (hands_refresh other [.out]) fun _ => hands_directMessage other _

theorem calm_handleComplete (id : IssueId) :
    (handleComplete limits user id).Keeps around (Scene.Calm around) :=
  calm_acted (Exchange.calm_of_action (.complete user id) rfl) fun completed =>
    hands_bind (hands_refresh user [completed.list]) fun _ => hands_bind (hands_resolve user) fun _ =>
    hands_bind (hands_reply _ _ _) fun _ => hands_bind (hands_tellOther _ _ _ _ _) fun _ => hands_pure _

theorem calm_handleRemove (id : IssueId) : (handleRemove limits user id).Keeps around (Scene.Calm around) :=
  calm_acted (Exchange.calm_of_action (.remove user id) rfl) fun removed =>
    hands_bind (hands_refresh user [removed.list]) fun _ => hands_bind (hands_resolve user) fun _ =>
    hands_bind (hands_reply _ _ _) fun _ => hands_bind (hands_tellOther _ _ _ _ _) fun _ => hands_pure _

theorem calm_handleAccept (id : IssueId) : (handleAccept limits user id).Keeps around (Scene.Calm around) := by
  refine calm_acted (Exchange.calm_of_action (.accept user id) rfl) fun accepted => ?_
  refine hands_bind (hands_refresh user [.my, .inbox]) fun _ => ?_
  cases accepted.foreignUser with
  | none => exact hands_pure _
  | some sender =>
    exact hands_bind (hands_refresh sender [.out]) fun _ => hands_bind (hands_resolve user) fun _ =>
      hands_bind (hands_directMessage sender _) fun _ => hands_pure _

theorem attends_handleBump (id : IssueId) :
    (handleBump limits user id).Keeps around (Scene.Attends around user) :=
  attends_acted (fun bumped => some (bumped.receiver, ⟨bumped.message, bumped.foreignIssue⟩))
    (Exchange.calm_of_action (.bump user id) rfl) (fun _ hbalanced => Exchange.reports_bump hbalanced id)
    fun bumped => hands_bind (hands_refresh bumped.receiver [.inbox]) fun _ =>
      hands_bind (hands_resolve user) fun _ => hands_bind (hands_offer _ _ _ _) fun _ => hands_pure _

theorem attends_handleReassign (id : IssueId) (username : String) :
    (handleReassign limits user id username).Keeps around (Scene.Attends around user) := by
  refine attends_after (idle_findUser username) fun newOwner => ?_
  refine attends_acted (Exchange.handedTo newOwner.id)
    (Exchange.calm_of_action (.reassign user id newOwner.id) rfl)
    (fun _ hbalanced => Exchange.reports_reassign hbalanced newOwner.id id) fun reassigned => ?_
  refine hands_bind (hands_refresh user [.my, .out]) fun _ => hands_bind (hands_resolve user) fun _ => ?_
  refine hands_bind ?_ fun _ => hands_bind ?_ fun _ => hands_pure _
  · rw [Exchange.handedTo]
    cases reassigned.newIssue with
    | none => exact hands_pure ()
    | some issue => exact hands_bind (hands_refresh newOwner.id [.inbox]) fun _ => hands_offer _ _ _ issue
  · cases reassigned.previous with
    | none => exact hands_pure ()
    | some previous =>
      exact hands_bind (hands_refresh previous [.inbox, .my]) fun _ => hands_directMessage previous _

theorem attends_handle (request : Request) :
    (handle limits user request).Keeps around (Scene.Attends around user) := by
  cases request with
  | add draft receiver =>
    cases receiver with
    | none => exact attends_of_calm (calm_handleAdd draft)
    | some username => exact attends_handleSend draft username
  | list kind reminder offset => exact attends_of_calm (calm_handleList kind reminder offset)
  | edit id change => exact attends_of_calm (calm_handleEdit id change)
  | complete id => exact attends_of_calm (calm_handleComplete id)
  | accept id => exact attends_of_calm (calm_handleAccept id)
  | remove id => exact attends_of_calm (calm_handleRemove id)
  | bump id => exact attends_handleBump id
  | reassign id username => exact attends_handleReassign id username

theorem attends_handleNamed (name body : String) :
    (handleNamed limits user name body).Keeps around (Scene.Attends around user) :=
  attends_after (idle_ofExcept _) fun request => attends_handle request

end Request

/-! ## Commands -/

namespace Command

open Delivery

variable {around : Surroundings} {limits : Exchange.Limits} {user : UserId}

theorem hands_withOwnList (user : UserId) (reply : String) :
    (withOwnList user reply).Keeps around (Scene.Hands none) := by
  refine hands_bind (keeps_attempt (hands_of_idle (Exchange.idle_listing user .my))) fun listed => ?_
  match listed with
  | .ok items => exact hands_pure _
  | .error _ => exact hands_pure _

theorem calm_executeList (user : UserId) (kind : ListKind) :
    (executeList user kind).Keeps around (Scene.Calm around) :=
  calm_bind (calm_of_idle (idle_mapError (Exchange.idle_listing user kind))) fun _ =>
    calm_of_hands (hands_bind (hands_refresh user _) fun _ => hands_pure _)

theorem calm_executeAdd (message : String) : (executeAdd limits user message).Keeps around (Scene.Calm around) :=
  calm_bind (calm_of_idle (idle_ofExcept _)) fun draft =>
    calm_acted (Exchange.calm_of_action (.add user draft) rfl) fun _ =>
      hands_bind (hands_refresh user [.my]) fun _ => hands_withOwnList user _

theorem hands_reportPopped (user : UserId) (popped : Exchange.Popped) :
    (reportPopped user popped).Keeps around (Scene.Hands none) := by
  refine hands_bind (hands_resolve user) fun name => hands_bind ?_ fun _ =>
    hands_bind (hands_refresh user [.my]) fun _ => hands_bind (hands_reply _ _ _) fun _ => hands_withOwnList user _
  cases popped.foreignUser with
  | none => exact hands_pure ()
  | some sender => exact hands_bind (hands_refresh sender [.out]) fun _ => hands_directMessage sender _

theorem calm_executePop : (executePop limits user).Keeps around (Scene.Calm around) := by
  refine calm_bind (keeps_attempt (Exchange.calm_of_action (.pop user) rfl)) fun popped => ?_
  match popped with
  | .ok popped => exact calm_of_hands (hands_reportPopped user popped)
  | .error error =>
    dsimp only
    split
    · exact calm_of_idle (idle_pure _)
    · exact calm_of_idle (idle_fail _)

theorem attends_sendTo (receiver : Profile) (message : String) :
    (sendTo limits user receiver message).Keeps around (Scene.Attends around user) := by
  refine attends_after (PreferenceStore.idle_loadOrDefault receiver.id) fun prefs => ?_
  split
  · exact attends_of_calm (calm_of_idle (idle_pure _))
  · refine attends_after (idle_ofExcept _) fun draft => ?_
    refine attends_acted (fun issue => some (receiver.id, ⟨draft.message, issue⟩))
      (Exchange.calm_of_action (.send user receiver.id draft) rfl)
      (fun _ hbalanced => Exchange.reports_send hbalanced receiver.id draft) fun issue => ?_
    exact hands_bind (hands_refresh user [.out]) fun _ => hands_bind (hands_refresh receiver.id [.inbox]) fun _ =>
      hands_bind (hands_resolve user) fun _ => hands_bind (hands_offer receiver.id _ _ issue) fun _ =>
      hands_pure _

theorem attends_executeSend (username message : String) :
    (executeSend limits user username message).Keeps around (Scene.Attends around user) := by
  refine attends_after (idle_findByUsername username) fun found => ?_
  cases found with
  | none => exact attends_of_calm (calm_of_idle (idle_pure _))
  | some receiver =>
    dsimp only
    split
    · exact attends_of_calm (calm_executeAdd message)
    · exact attends_sendTo receiver message

theorem calm_executeSwitch (setting : Setting) (on : Bool) :
    (executeSwitch limits user setting on).Keeps around (Scene.Calm around) := by
  cases setting <;>
    exact calm_bind (keeps_mapError (PreferenceStore.calm_update user _ _)) fun _ => calm_of_idle (idle_pure _)

theorem attends_perform (command : Command) :
    (command.perform limits user).Keeps around (Scene.Attends around user) := by
  cases command with
  | list kind => exact attends_of_calm (calm_executeList user kind)
  | add message => exact attends_of_calm (calm_executeAdd message)
  | pop => exact attends_of_calm calm_executePop
  | send username message => exact attends_executeSend username message
  | showSettings =>
    exact attends_of_calm (calm_of_idle (idle_bind (PreferenceStore.idle_loadOrDefault user) fun _ => idle_pure _))
  | showSetting setting =>
    exact attends_of_calm (calm_of_idle (idle_bind (PreferenceStore.idle_loadOrDefault user) fun _ => idle_pure _))
  | switch setting on => exact attends_of_calm (calm_executeSwitch setting on)
  | help => exact attends_of_calm (calm_of_idle (idle_pure _))

theorem attends_execute {ε : Type} (line : String) :
    (execute limits user line : Program ε String).Keeps around (Scene.Attends around user) :=
  fun s => ensures_execute (s.Attends around user) (Scene.Calm.refl around s).attends fun command =>
    attends_perform command s

end Command

/-! ## Acceptance -/

namespace Request

/-- What users are told when a recipient has accepted a caller's todo. -/
def toldOfAccepted (recipient caller : UserId) (name message : String) : List Notification :=
  [.refresh recipient [.my, .inbox], .refresh caller [.out],
    .directMessage caller s!"@{name} accepted a todo you sent: {message}" none]

/-- An acceptance of what is actionable is done, and whoever has offered the todo is told. -/
theorem ensures_handleAccept_actionable {around : Surroundings} {s : Scene} {limits : Exchange.Limits}
    {caller recipient : UserId} {attachment : Attachment} (hup : around.delivers = true) (h : s.store.Consistent)
    (hactionable : s.store.Actionable caller recipient attachment) :
    (handleAccept limits recipient attachment.issue).Ensures around
      (fun outcome s' => outcome = .ok .done ∧
        ∃ name, s'.sent = s.sent ++ toldOfAccepted recipient caller name attachment.message) s := by
  have hheard (s : Scene) (notification : Notification) : around.notified s notification = s.heard [notification] :=
    if_pos hup
  refine ensures_bind (ensures_mapError (ensures_mono (Exchange.ensures_accept_actionable h hactionable) ?_))
  rintro outcome s₁ ⟨rfl, hsent⟩
  refine ensures_bind (ensures_notify (ensures_bind (ensures_notify ?_)))
  refine ensures_bind (ensures_resolve fun name => ensures_bind (ensures_notify ⟨rfl, name, ?_⟩))
  simp only [hheard, Scene.heard, hsent, List.append_assoc, toldOfAccepted, List.cons_append, List.nil_append]

end Request

/-! ## Sessions -/

namespace Session

open Exchange (Limits Unrepeated)

/-- What a user asks for, in chat or by a request. -/
inductive Demand where
  | command (line : String)
  | request (name body : String)

/-- The session after a user has asked for something. -/
def asked (session : Session) (limits : Limits) (user : UserId) : Demand → Session
  | .command line => (session.run (Command.execute limits user line : Program Empty String)).2
  | .request name body => (session.run (Request.handleNamed limits user name body)).2

/-- A session that began with an empty store, and in which users have asked for one thing after the other. In
between the world may change, but for the store and the supply of identifiers. -/
inductive InTurns : Session → Prop where
  | start {session : Session} (undisturbed : session.Undisturbed) (empty : session.world.store = .empty) :
    InTurns session
  | asked {session : Session} (before : InTurns session) (limits : Limits) (user : UserId) (demand : Demand)
      (unrepeated : Unrepeated session.around (session.asked limits user demand).scene) :
    InTurns (session.asked limits user demand)
  | meanwhile {session later : Session} (before : InTurns session) (undisturbed : later.Undisturbed)
      (store : later.world.store = session.world.store) (supply : later.world.supply = session.world.supply)
      (drawn : later.world.drawn = session.world.drawn) :
    InTurns later

/-- The recipient can act on an attached todo: it waits among their received ones, it can be named, and every
request that names it to accept it is done, and tells the caller who has offered it. -/
structure Answerable (session : Session) (caller recipient : UserId) (attachment : Attachment) : Prop where
  actionable : session.world.store.Actionable caller recipient attachment
  named : ∃ body, Request.decode "accept" body = .ok (.accept attachment.issue)
  accepted : ∀ limits body, Request.decode "accept" body = .ok (.accept attachment.issue) →
    let accepted := session.run (Request.handleNamed limits recipient "accept" body)
    accepted.1 = .ok .done ∧ ∃ name, accepted.2.world.sent =
      session.world.sent ++ Request.toldOfAccepted recipient caller name attachment.message

section

variable {session : Session} {limits : Limits} {user : UserId}

theorem goesOn_asked (h : session.Undisturbed) (demand : Demand) :
    session.GoesOn (session.asked limits user demand) := by
  cases demand <;> exact goesOn_run h _

theorem keeps_asked {related : Scene → Scene → Prop} (h : session.Undisturbed) (demand : Demand)
    (hcommand : ∀ line, (Command.execute limits user line : Program Empty String).Keeps session.around related)
    (hrequest : ∀ name body, (Request.handleNamed limits user name body).Keeps session.around related) :
    related session.scene (session.asked limits user demand).scene := by
  cases demand with
  | command line => exact run_of_ensures (fun _ s' => related session.scene s') h (hcommand line _)
  | request name body => exact run_of_ensures (fun _ s' => related session.scene s') h (hrequest name body _)

theorem attends_asked (h : session.Undisturbed) (demand : Demand) :
    session.scene.Attends session.around user (session.asked limits user demand).scene :=
  keeps_asked h demand Command.attends_execute Request.attends_handleNamed

theorem InTurns.balanced (h : session.InTurns) :
    session.Undisturbed ∧ session.scene.Balanced session.around := by
  induction h with
  | @start session undisturbed empty =>
    exact ⟨undisturbed, Scene.balanced_of_empty _ empty⟩
  | @asked session before limits user demand unrepeated ih =>
    obtain ⟨hundisturbed, hbalanced⟩ := ih
    obtain ⟨hlater, haround⟩ := @goesOn_asked session limits user hundisturbed demand
    rw [haround]
    exact ⟨hlater, (attends_asked hundisturbed demand).balanced unrepeated hbalanced⟩
  | @meanwhile session later before undisturbed store supply drawn ih =>
    have hscene : later.scene.store = session.scene.store := store
    refine ⟨undisturbed, hscene ▸ ih.2.consistent, hscene ▸ ih.2.mirrored, fun id hid => ?_⟩
    obtain ⟨n, hn, hid⟩ := ih.2.drew id (hscene ▸ hid)
    exact ⟨n, Nat.lt_of_lt_of_eq hn drawn.symm, (congrFun supply n).trans hid⟩

/-- What is actionable is answerable while notifications arrive. -/
theorem answerable_of_actionable (h : session.Undisturbed) (hup : session.around.delivers = true)
    (hconsistent : session.world.store.Consistent) {caller recipient : UserId} {attachment : Attachment}
    (hactionable : session.world.store.Actionable caller recipient attachment) :
    session.Answerable caller recipient attachment := by
  refine ⟨hactionable, ⟨_, Request.decode_accept attachment.issue⟩, fun limits body hdecode => ?_⟩
  have hensures : (Request.handleNamed limits recipient "accept" body).Ensures session.around
      (fun outcome s' => outcome = .ok .done ∧ ∃ name,
        s'.sent = session.scene.sent ++ Request.toldOfAccepted recipient caller name attachment.message)
      session.scene := by
    rw [Request.handleNamed, hdecode]
    exact Request.ensures_handleAccept_actionable hup hconsistent hactionable
  exact run_of_ensures _ h hensures

/-- Whatever todo a command or a request offers to a user, in any session from an empty store on, can be acted
on when the command or request has ended. -/
theorem offers_answerable (h : session.InTurns) (limits : Limits) (user : UserId) (demand : Demand)
    (hunrepeated : Unrepeated session.around (session.asked limits user demand).scene) :
    ∃ new, (session.asked limits user demand).world.sent = session.world.sent ++ new ∧
      ∀ recipient text attachment, .directMessage recipient text (some attachment) ∈ new →
        (session.asked limits user demand).Answerable user recipient attachment := by
  obtain ⟨hundisturbed, hbalanced⟩ := h.balanced
  obtain ⟨hlater, haround⟩ := @goesOn_asked session limits user hundisturbed demand
  obtain ⟨hafter, new, hsent, hnew⟩ := @attends_asked session limits user hundisturbed demand
  refine ⟨new, hsent, fun recipient text attachment hoffer => ?_⟩
  have hup : session.around.delivers = true := by
    rw [← Bool.not_eq_false]
    intro hdown
    have hnone := @keeps_asked session limits user (fun s s' => s'.sent = s.sent) hundisturbed demand
      (fun _ => untold_of_down hdown _) fun _ _ => untold_of_down hdown _
    rw [List.append_right_eq_self.1 (hsent.symm.trans hnone)] at hoffer
    cases hoffer
  refine answerable_of_actionable hlater (haround ▸ hup) (hafter hunrepeated hbalanced).consistent ?_
  exact hnew recipient text attachment hoffer hunrepeated hbalanced

end

/-- Amy and ben are known, and nothing is stored. -/
def amyAndBen : Session :=
  resumed .empty 0 [⟨⟨"amy"⟩, "amy"⟩, ⟨⟨"ben"⟩, "ben"⟩]

/-- Amy has sent ben a todo in chat. -/
def milkOffered : Session :=
  amyAndBen.asked ⟨5, 5⟩ ⟨"amy"⟩ (.command "/todo send ben milk")

/-- Amy has sent ben a todo by a request. -/
def milkRequested : Session :=
  amyAndBen.asked ⟨5, 5⟩ ⟨"amy"⟩ (.request "add" "\x7b\"message\":\"milk\",\"send_to\":\"ben\"\x7d")

/-- Ben is offered the second issue, which is his. -/
theorem milk_answerable :
    let offer := .directMessage ⟨"ben"⟩ "You have received a new todo from @amy" (some ⟨"milk", World.counted 1⟩)
    (offer ∈ milkOffered.world.sent ∧ milkOffered.Answerable ⟨"amy"⟩ ⟨"ben"⟩ ⟨"milk", World.counted 1⟩) ∧
      (offer ∈ milkRequested.world.sent ∧
        milkRequested.Answerable ⟨"amy"⟩ ⟨"ben"⟩ ⟨"milk", World.counted 1⟩) := by
  intro offer
  have hstart : InTurns amyAndBen := .start rfl rfl
  have hanswerable (demand : Demand) (hdrawn : (amyAndBen.asked ⟨5, 5⟩ ⟨"amy"⟩ demand).world.drawn = 2)
      (hoffer : offer ∈ (amyAndBen.asked ⟨5, 5⟩ ⟨"amy"⟩ demand).world.sent) :
      (amyAndBen.asked ⟨5, 5⟩ ⟨"amy"⟩ demand).Answerable ⟨"amy"⟩ ⟨"ben"⟩ ⟨"milk", World.counted 1⟩ := by
    obtain ⟨new, hsent, hnew⟩ := offers_answerable hstart ⟨5, 5⟩ ⟨"amy"⟩ demand
      (Exchange.unrepeated_counted rfl (Nat.le_trans (Nat.le_of_eq hdrawn) (by decide)))
    have hall : (amyAndBen.asked ⟨5, 5⟩ ⟨"amy"⟩ demand).world.sent = new := hsent
    exact hnew _ _ _ (hall ▸ hoffer)
  have hchat : milkOffered.world.drawn = 2 ∧ offer ∈ milkOffered.world.sent := by
    decide +kernel
  have hrequest : milkRequested.world.drawn = 2 ∧ offer ∈ milkRequested.world.sent := by
    decide +kernel
  exact ⟨⟨hchat.2, hanswerable _ hchat.1 hchat.2⟩, hrequest.2, hanswerable _ hrequest.1 hrequest.2⟩

end Session

end SharedTodo
