import SharedTodo.Proofs.Exchange.Legible
import SharedTodo.Proofs.Notification.Telling

/-!
# Sessions without internal failures

A session is healthy when nobody else writes to its store, no call fails, and the directory answers. From an
empty store on, whatever users type and whatever clients send, a healthy session answers every command with a
text of its own and every request with a result or with a failure that the client can mend
(`Session.Served.never_internal`). Stored texts are never the obstacle: at every time the whole store is legible.
-/

namespace SharedTodo

/-! ## Values that programs end with -/

namespace Program

variable {ε α β : Type} {around : Surroundings} {s : Scene} {wanted : α → Prop}

/-- Every value that the program can end with, whatever its calls are answered. -/
def Yields (wanted : α → Prop) : Program ε α → Prop
  | ended (.ok value) => wanted value
  | ended (.error _) => True
  | ended .unfinished => True
  | call _ next => ∀ reply, (next reply).Yields wanted

theorem yields_bind {program : Program ε β} {next : β → Program ε α} (h : ∀ value, (next value).Yields wanted) :
    (program >>= next).Yields wanted := by
  induction program with
  | ended outcome =>
    cases outcome with
    | ok value => exact h value
    | error failure => trivial
    | unfinished => trivial
  | call c rest ih => exact ih

theorem ensures_yields {program : Program ε α} {result : Result ε α} (h : program.Ensures around result s)
    (hyields : program.Yields wanted) :
    program.Ensures around (fun outcome s' => result outcome s' ∧ ∀ value, outcome = .ok value → wanted value)
      s := by
  induction program generalizing s with
  | ended outcome =>
    refine ⟨h, fun value hvalue => ?_⟩
    subst hvalue
    exact hyields
  | call c next ih => exact fun reply s' hreplies => ih reply (h reply s' hreplies) (hyields reply)

/-- Telling users is proper. -/
theorem proper_of_tells {told : ListSet} {program : Program ε α} {expected : ε → Prop}
    (h : program.Tells around told) : Proper around expected program := by
  intro s hs
  refine ensures_mono (h s) fun outcome s' hend => ?_
  obtain ⟨⟨value, rfl⟩, hheard⟩ := hend
  show s'.store.Legible
  rw [hheard.store]
  exact hs

end Program

/-! ## Requests -/

namespace Request

open Program

variable {α β : Type} {around : Surroundings} {s : Scene} {limits : Exchange.Limits} {user : UserId}

/-- The client can mend the failure. -/
def Failure.Mendable (failure : Failure) : Prop :=
  failure.status ≠ .internal

theorem mendable_operation {aim : Aim} {error : OperationError} (h : error.Mendable) :
    (Failure.operation aim error).Mendable := by
  cases error with
  | rejected cause => exact nofun
  | absent what => exact nofun
  | storage error => cases h

theorem mendable_unreadable (problem : Json.Problem) : (Failure.unreadable problem).Mendable :=
  nofun

theorem mendable_input (error : InputError) : (Failure.input error).Mendable :=
  nofun

/-- A handler that only tells users after its operation. -/
theorem properly_told {aim : Aim} {told : α → ListSet} {operation : Exchange.Operation α}
    (h : operation.Ensures around (Properly OperationError.Mendable) s) :
    operation.Ensures around
      (thenTold around (.operation aim) told (Properly Failure.Mendable : Result Failure Response)) s := by
  refine ensures_mono h fun outcome s₁ hend => ?_
  cases outcome with
  | ok report =>
    intro value s' hheard
    show s'.store.Legible
    rw [hheard.store]
    exact hend
  | error failure => exact hend.imp_left mendable_operation
  | unfinished => exact hend

/-! ### Reading a request -/

/-- Whatever is wrong with what was read, the client can mend it. -/
def Excused (read : Except Failure α) : Prop :=
  ∀ failure, read = .error failure → failure.Mendable

theorem excused_ok (value : α) : Excused (.ok value) :=
  fun _ h => nomatch h

theorem excused_error {failure : Failure} (h : failure.Mendable) : Excused (.error failure : Except Failure α) := by
  intro failure' heq
  cases heq
  exact h

theorem Excused.bind {read : Except Failure β} {next : β → Except Failure α} (h : Excused read)
    (hnext : ∀ value, Excused (next value)) : Excused (read >>= next) := by
  cases read with
  | ok value => exact hnext value
  | error failure => exact excused_error (h failure rfl)

theorem Excused.map {read : Except Failure β} (h : Excused read) (f : β → α) : Excused (read.map f) := by
  cases read with
  | ok value => exact excused_ok _
  | error failure => exact excused_error (h failure rfl)

theorem excused_mapError {ε : Type} {view : ε → Failure} (h : ∀ problem, (view problem).Mendable)
    (read : Except ε α) : Excused (read.mapError view) := by
  cases read with
  | ok value => exact excused_ok value
  | error problem => exact excused_error (h problem)

theorem excused_readBody (codec : Json.Codec α) (body : String) : Excused (readBody codec body) :=
  excused_mapError mendable_unreadable _

theorem excused_readId (raw : String) : Excused (readId raw) :=
  excused_mapError mendable_input _

theorem excused_draftOfBody (body : AddBody) : Excused (draftOfBody body) := by
  refine .bind (excused_mapError mendable_input _) fun draft => ?_
  dsimp only
  split
  · exact excused_ok _
  · exact .map (excused_mapError mendable_input _) _

theorem excused_decodeId (body : String) : Excused (decodeId body) :=
  .bind (excused_readBody _ body) fun body => excused_readId body.id

theorem excused_decodeReassign (body : String) : Excused (decodeReassign body) := by
  refine .bind (excused_readBody _ body) fun body => .bind (excused_readId body.id) fun id => ?_
  dsimp only
  split
  · exact excused_error nofun
  · exact excused_ok _

theorem excused_decodeKind (body : String) (kind : Kind) : Excused (decodeKind body kind) := by
  cases kind with
  | add => exact .bind (excused_readBody _ body) fun body => .bind (excused_draftOfBody body) fun _ => excused_ok _
  | list => exact .bind (excused_readBody _ body) fun _ => excused_ok _
  | edit =>
    refine .bind (excused_readBody _ body) fun body => .bind (excused_readId body.id) fun id => ?_
    exact .bind (excused_mapError mendable_input _) fun _ => excused_ok _
  | complete => exact .map (excused_decodeId body) _
  | accept => exact .map (excused_decodeId body) _
  | remove => exact .map (excused_decodeId body) _
  | bump => exact .map (excused_decodeId body) _
  | reassign => exact excused_decodeReassign body

theorem excused_decode (name body : String) : Excused (decode name body) := by
  rw [decode]
  split
  · exact excused_decodeKind body _
  · exact excused_error nofun

/-! ### Handlers -/

theorem proper_findUser (h : around.Answering) (username : String) :
    Proper around Failure.Mendable (findUser username) := by
  intro s hs
  refine ensures_bind (ensures_perform ?_)
  rintro found s' ⟨rfl, rfl⟩
  cases hfound : around.byUsername username with
  | error failure => exact absurd hfound (h.byUsername username failure)
  | ok found =>
    cases found with
    | none => exact ⟨nofun, hs⟩
    | some profile => exact hs

theorem proper_handleAdd (draft : Draft) : Proper around Failure.Mendable (handleAdd limits user draft) :=
  fun s hs => ensures_handleAdd (properly_told (Exchange.proper_add user draft s hs))

theorem proper_handleSend (h : around.Answering) (draft : Draft) (username : String) :
    Proper around Failure.Mendable (handleSend limits user draft username) := by
  refine .bind (proper_findUser h username) fun receiver => ?_
  split
  · exact proper_handleAdd draft
  · intro s hs
    apply ensures_sendTo
    · intro value s' hheard
      show s'.store.Legible
      rw [hheard.store]
      exact hs
    · exact fun _ => properly_told (Exchange.proper_send h user receiver.id draft s hs)

/-- A claim of the reminder has an answer, and the message is told. -/
theorem proper_remind (kind : ListKind) (items : List ListedIssue) (offset : TimezoneOffset) :
    Proper around Failure.Mendable (remind limits user kind items offset) := by
  intro s hs
  refine properly_attempt (PreferenceStore.proper_claimReminder limits.updates user offset s hs)
    (fun claimed => ?_) fun failure hnever => hnever.elim
  cases claimed with
  | true => exact proper_notify _
  | false => exact proper_pure ()

theorem proper_handleList (kind : ListKind) (reminder : Bool) (offset : TimezoneOffset) :
    Proper around Failure.Mendable (handleList limits user kind reminder offset) := by
  intro s hs
  refine properly_bind (properly_mapError (Exchange.proper_listing user kind s hs) fun _ => mendable_operation)
    fun items => ?_
  dsimp only
  split
  · exact .bind (proper_remind kind items offset) fun _ => proper_pure _
  · exact proper_pure _

theorem proper_handleReassign (h : around.Answering) (id : IssueId) (username : String) :
    Proper around Failure.Mendable (handleReassign limits user id username) := by
  refine .bind (proper_findUser h username) fun newOwner => .bind (fun s hs => ?_) fun reassigned => ?_
  · exact properly_mapError (Exchange.proper_reassign h id user newOwner.id s hs) fun _ => mendable_operation
  · refine .bind (proper_notify _) fun _ => .bind (proper_resolve user) fun name => ?_
    refine .bind (proper_of_tells (tells_tellNewOwner name newOwner.id _ _)) fun _ => ?_
    exact .bind (proper_of_tells (tells_tellPrevious name _ _)) fun _ => proper_pure _

theorem proper_handle (h : around.Answering) (request : Request) :
    Proper around Failure.Mendable (handle limits user request) := by
  intro s hs
  cases request with
  | add draft receiver =>
    cases receiver with
    | none => exact proper_handleAdd draft s hs
    | some username => exact proper_handleSend h draft username s hs
  | list kind reminder offset => exact proper_handleList kind reminder offset s hs
  | edit id change => exact ensures_handleEdit (properly_told (Exchange.proper_edit user id change s hs))
  | complete id => exact ensures_handleComplete (properly_told (Exchange.proper_take user id s hs))
  | accept id => exact ensures_handleAccept (properly_told (Exchange.proper_accept user id s hs))
  | remove id => exact ensures_handleRemove (properly_told (Exchange.proper_remove user id s hs))
  | bump id => exact ensures_handleBump (properly_told (Exchange.proper_bump user id s hs))
  | reassign id username => exact proper_handleReassign h id username s hs

theorem proper_handleNamed (h : around.Answering) (limits : Exchange.Limits) (user : UserId)
    (name body : String) :
    Proper around Failure.Mendable (handleNamed limits user name body) :=
  .bind (proper_ofExcept (excused_decode name body)) fun request => proper_handle h request

end Request

/-! ## Commands -/

namespace Command

open Program

variable {around : Surroundings} {s : Scene} {limits : Exchange.Limits} {user : UserId}

/-- The reply is a text of its own. -/
def Plain (reply : String) : Prop :=
  reply ≠ internalErrorReply

/-- The failure is explained to the user. -/
def Failure.Explained (failure : Failure) : Prop :=
  Plain failure.reply

theorem plain_of_start {first reply : String} (h : first.toList <+: reply.toList)
    (hfirst : ¬ first.toList <+: internalErrorReply.toList) : Plain reply := by
  intro heq
  rw [heq] at h
  exact hfirst h

theorem explained_unreadable (error : CommandError) : (Failure.unreadable error).Explained := by
  have hstart : "__Error: ".toList <+: (Failure.unreadable error).reply.toList := by
    rw [Failure.reply]
    simp only [String.toList_append, List.append_assoc]
    exact List.prefix_append _ _
  exact plain_of_start hstart (by decide)

theorem explained_operation {error : OperationError} (h : error.Mendable) :
    (Failure.operation error).Explained := by
  have hstart : "__Error: ".toList <+: (Failure.operation error).reply.toList := by
    rw [Failure.reply, if_pos h]
    simp only [String.toList_append, List.append_assoc]
    exact List.prefix_append _ _
  exact plain_of_start hstart (by decide)

/-! ### Proper commands -/

theorem properly_act {α : Type} {operation : Exchange.Operation α}
    (h : operation.Ensures around (Properly OperationError.Mendable) s) :
    (act operation).Ensures around (Properly Failure.Explained) s :=
  properly_mapError h fun _ => explained_operation

theorem proper_draftOfMessage (message : String) :
    Proper around Failure.Explained (draftOfMessage message) := by
  refine proper_ofExcept fun failure hfailed => ?_
  cases hdraft : Draft.ofMessage message with
  | ok draft => rw [hdraft] at hfailed; cases hfailed
  | error error =>
    rw [hdraft] at hfailed
    cases hfailed
    exact explained_operation rfl

theorem proper_withOwnList (user : UserId) (reply : String) :
    Proper around Failure.Explained (withOwnList user reply) :=
  fun s hs => properly_attempt (Exchange.proper_listing user .my s hs) (fun _ => proper_pure _)
    fun _ _ => proper_pure _

theorem proper_executeList (user : UserId) (kind : ListKind) :
    Proper around Failure.Explained (executeList user kind) :=
  .bind (fun s hs => properly_act (Exchange.proper_listing user kind s hs)) fun _ =>
    .bind (proper_notify _) fun _ => proper_pure _

theorem proper_executeAdd (message : String) :
    Proper around Failure.Explained (executeAdd limits user message) := by
  refine .bind (proper_draftOfMessage message) fun draft => ?_
  refine .bind (fun s hs => properly_act (Exchange.proper_add user draft s hs)) fun _ => ?_
  exact .bind (proper_notify _) fun _ => proper_withOwnList user _

theorem properly_executePop (h : s.store.Legible) (hrounds : Exchange.roundsFor s.store user ≤ limits.rounds) :
    (executePop limits user).Ensures around (Properly Failure.Explained) s := by
  refine properly_attempt (Exchange.properly_pop h hrounds) (fun popped => ?_) fun failure hmendable => ?_
  · exact proper_of_tells (tells_reportPopped user popped)
  · dsimp only
    split
    · exact proper_pure _
    · exact proper_fail (explained_operation hmendable)

theorem proper_sendTo (h : around.Answering) (receiver : Profile) (message : String) :
    Proper around Failure.Explained (sendTo limits user receiver message) := by
  refine .bind (PreferenceStore.proper_loadOrDefault _) fun prefs => ?_
  split
  · exact proper_pure _
  · refine .bind (proper_draftOfMessage message) fun draft => ?_
    refine .bind (fun s hs => properly_act (Exchange.proper_send h user receiver.id draft s hs)) fun _ => ?_
    refine .bind (proper_notify _) fun _ => .bind (proper_notify _) fun _ => ?_
    exact .bind (proper_resolve user) fun _ => .bind (proper_notify _) fun _ => proper_pure _

theorem proper_executeSend (h : around.Answering) (username message : String) :
    Proper around Failure.Explained (executeSend limits user username message) := by
  intro s hs
  refine ensures_bind (ensures_bind (ensures_perform ?_))
  rintro found s' ⟨rfl, rfl⟩
  cases hfound : around.byUsername username with
  | error failure => exact absurd hfound (h.byUsername username failure)
  | ok found =>
    cases found with
    | none => exact hs
    | some receiver =>
      show Ensures around (if receiver.id = user then _ else _) _ _
      split
      · exact proper_executeAdd message _ hs
      · exact proper_sendTo h receiver message _ hs

theorem proper_executeSwitch (setting : Setting) (on : Bool) :
    Proper around Failure.Explained (executeSwitch limits user setting on) := by
  cases setting with
  | summary =>
    exact .bind (fun s hs => properly_mapError (PreferenceStore.proper_switch _ user _ s hs)
      fun _ hnever => hnever.elim) fun _ => proper_pure _
  | allowIncoming =>
    exact .bind (fun s hs => properly_mapError (PreferenceStore.proper_switch _ user _ s hs)
      fun _ hnever => hnever.elim) fun _ => proper_pure _

theorem properly_perform (h : around.Answering) (hs : s.store.Legible)
    (hrounds : Exchange.roundsFor s.store user ≤ limits.rounds) (command : Command) :
    (command.perform limits user).Ensures around (Properly Failure.Explained) s := by
  cases command with
  | list kind => exact proper_executeList user kind s hs
  | add message => exact proper_executeAdd message s hs
  | pop => exact properly_executePop hs hrounds
  | send username message => exact proper_executeSend h username message s hs
  | showSettings => exact Proper.bind (PreferenceStore.proper_loadOrDefault user) (fun _ => proper_pure _) s hs
  | showSetting setting =>
    exact Proper.bind (PreferenceStore.proper_loadOrDefault user) (fun _ => proper_pure _) s hs
  | switch setting on => exact proper_executeSwitch setting on s hs
  | help => exact hs

/-! ### Replies -/

theorem plain_append {first : String} (h : ¬ first.toList <+: internalErrorReply.toList) (rest : String) :
    Plain (first ++ rest) := by
  have hstart : first.toList <+: (first ++ rest).toList := by
    rw [String.toList_append]
    exact List.prefix_append _ _
  exact plain_of_start hstart h

theorem plain_headedText (kind : ListKind) (items : List ListedIssue) :
    Plain (ListedIssue.headedText kind items) := by
  rw [ListedIssue.headedText, String.append_assoc]
  cases kind <;> exact plain_append (by decide) _

theorem yields_withOwnList (user : UserId) {reply : String}
    (h : ¬ reply.toList <+: internalErrorReply.toList) : (withOwnList user reply).Yields Plain := by
  refine yields_bind fun listed => ?_
  cases listed with
  | ok items =>
    show Plain (reply ++ "\n\n" ++ _)
    rw [String.append_assoc]
    exact plain_append h _
  | error failure => exact plain_of_start List.prefix_rfl h

theorem yields_executeAdd (message : String) : (executeAdd limits user message).Yields Plain :=
  yields_bind fun _ => yields_bind fun _ => yields_bind fun _ => yields_withOwnList user (by decide)

theorem yields_executePop : (executePop limits user).Yields Plain := by
  refine yields_bind fun popped => ?_
  cases popped with
  | ok popped =>
    refine yields_bind fun name => yields_bind fun _ => yields_bind fun _ => yields_bind fun _ => ?_
    exact yields_withOwnList user (by decide)
  | error failure =>
    dsimp only
    split
    · exact plain_of_start List.prefix_rfl (by decide)
    · trivial

theorem yields_sendTo (receiver : Profile) (message : String) :
    (sendTo limits user receiver message).Yields Plain := by
  refine yields_bind fun prefs => ?_
  split
  · show Plain ("@" ++ receiver.username ++ " is blocking todo requests.")
    rw [String.append_assoc]
    exact plain_append (by decide) _
  · refine yields_bind fun draft => yields_bind fun issue => yields_bind fun _ => yields_bind fun _ => ?_
    refine yields_bind fun name => yields_bind fun _ => ?_
    show Plain ("Todo sent to @" ++ receiver.username ++ ".")
    rw [String.append_assoc]
    exact plain_append (by decide) _

theorem yields_executeSend (username message : String) :
    (executeSend limits user username message).Yields Plain := by
  refine yields_bind fun found => ?_
  cases found with
  | none => exact plain_append (by decide) _
  | some receiver =>
    show Yields Plain (if receiver.id = user then _ else _)
    split
    · exact yields_executeAdd message
    · exact yields_sendTo receiver message

theorem plain_description (setting : Setting) (on : Bool) : Plain (setting.description on) := by
  rw [Plain]
  cases setting <;> cases on <;> decide +kernel

theorem plain_confirmation (setting : Setting) (on : Bool) : Plain (setting.confirmation on) := by
  rw [Plain]
  cases setting <;> cases on <;> decide +kernel

theorem plain_usage : Plain usage := by
  rw [Plain]
  decide +kernel

/-- No reply of a command is the reply to an internal error. -/
theorem yields_perform (command : Command) : (command.perform limits user).Yields Plain := by
  cases command with
  | list kind => exact yields_bind fun items => yields_bind fun _ => plain_headedText kind items
  | add message => exact yields_executeAdd message
  | pop => exact yields_executePop
  | send username message => exact yields_executeSend username message
  | showSettings =>
    refine yields_bind fun prefs => ?_
    show Plain ("Current settings:\n\n" ++ _ ++ "\n" ++ _)
    rw [String.append_assoc, String.append_assoc]
    exact plain_append (by decide) _
  | showSetting setting => exact yields_bind fun prefs => plain_description setting _
  | switch setting on =>
    cases setting <;> exact yields_bind fun _ => plain_confirmation _ on
  | help => exact plain_usage

/-- Every command is answered, and not by the reply to an internal error. -/
theorem ensures_execute_plain {ε : Type} (h : around.Answering) (hs : s.store.Legible)
    (hrounds : Exchange.roundsFor s.store user ≤ limits.rounds) (line : String) :
    (execute limits user line : Program ε String).Ensures around
      (fun outcome s' => (∃ reply, outcome = .ok reply ∧ Plain reply) ∧ s'.store.Legible) s := by
  rw [execute]
  split
  · exact ⟨⟨_, rfl, explained_unreadable _⟩, hs⟩
  · next command _ =>
    apply ensures_bind
    apply ensures_attempt
    refine ensures_mono (ensures_yields (properly_perform h hs hrounds command) (yields_perform command)) ?_
    rintro outcome s' ⟨hend, hplain⟩
    cases outcome with
    | ok reply => exact ⟨⟨reply, rfl, hplain reply rfl⟩, hend⟩
    | error failure => exact ⟨⟨failure.reply, rfl, hend.1⟩, hend.2⟩
    | unfinished => exact hend.elim

end Command

/-! ## Sessions -/

namespace Session

open Program

/-- Nobody else writes to the store, no call fails, and the directory answers. -/
structure Healthy (session : Session) : Prop where
  undisturbed : session.Undisturbed
  directoryUp : session.directoryDown = false

theorem Healthy.answering {session : Session} (h : session.Healthy) : session.around.Answering := by
  constructor
  · intro user failure hdown
    simp only [around, h.directoryUp, Bool.false_eq_true, if_false] at hdown
    cases hdown
  · intro username failure hdown
    simp only [around, h.directoryUp, Bool.false_eq_true, if_false] at hdown
    cases hdown

theorem roundsFor_le_limits (session : Session) (user : UserId) :
    Exchange.roundsFor session.scene.store user ≤ (session.limits user).rounds :=
  Nat.le_add_right _ _

/-- What a session can have become that began with an empty store: one thing after the other has been asked
for while it was healthy, and in between anything but the store may have changed. -/
inductive Served : Session → Prop where
  | start {session : Session} (empty : session.world.store = .empty) : Served session
  | meanwhile {session later : Session} (before : Served session)
    (same : later.world.store = session.world.store) : Served later
  | command {session : Session} (before : Served session) (healthy : session.Healthy) (user : UserId)
    (line : String) :
    Served (session.run (Command.execute (session.limits user) user line : Program Empty String)).2
  | request {session : Session} (before : Served session) (healthy : session.Healthy) (user : UserId)
    (name body : String) :
    Served (session.run (Request.handleNamed (session.limits user) user name body)).2
  | dailySummary {session : Session} (before : Served session) (healthy : session.Healthy) (user : UserId)
    (enabled : Bool) :
    Served (session.run (PreferenceStore.setDailySummary session.updates user enabled)).2
  | allowIncoming {session : Session} (before : Served session) (healthy : session.Healthy) (user : UserId)
    (allowed : Bool) :
    Served (session.run (PreferenceStore.setAllowIncoming session.updates user allowed)).2

theorem ended_of_properly {ε α : Type} {expected : ε → Prop} {outcome : Outcome ε α} {s : Scene}
    (h : Properly expected outcome s) :
    (∃ value, outcome = .ok value) ∨ ∃ failure, outcome = .error failure ∧ expected failure := by
  cases outcome with
  | ok value => exact .inl ⟨value, rfl⟩
  | error failure => exact .inr ⟨failure, rfl, h.1⟩
  | unfinished => exact h.elim

theorem legible_of_properly {ε α : Type} {expected : ε → Prop} {outcome : Outcome ε α} {s : Scene}
    (h : Properly expected outcome s) : s.store.Legible := by
  cases outcome with
  | ok value => exact h
  | error failure => exact h.2
  | unfinished => exact h.elim

theorem Served.legible {session : Session} (h : session.Served) : session.world.store.Legible := by
  induction h with
  | start empty => exact empty ▸ Store.legible_empty
  | meanwhile before same ih => exact same ▸ ih
  | command before healthy user line ih =>
    exact (run_of_ensures _ healthy.undisturbed (Command.ensures_execute_plain healthy.answering ih
      (roundsFor_le_limits _ user) line)).2
  | request before healthy user name body ih =>
    exact legible_of_properly (run_of_ensures _ healthy.undisturbed
      (Request.proper_handleNamed healthy.answering _ user name body _ ih))
  | dailySummary before healthy user enabled ih =>
    exact legible_of_properly (run_of_ensures _ healthy.undisturbed
      (PreferenceStore.proper_switch _ user _ _ ih))
  | allowIncoming before healthy user allowed ih =>
    exact legible_of_properly (run_of_ensures _ healthy.undisturbed
      (PreferenceStore.proper_switch _ user _ _ ih))

/-- From an empty store on, everything that is stored can be read; every command has a reply that is not the
one to an internal error, and a request fails only for what the client can mend. -/
theorem Served.never_internal {session : Session} (h : session.Served) (healthy : session.Healthy) :
    session.world.store.Legible ∧
    (∀ user line, ∃ reply,
      (session.run (Command.execute (session.limits user) user line : Program Empty String)).1 = .ok reply ∧
        reply ≠ Command.internalErrorReply) ∧
    (∀ user name body,
      (∃ response, (session.run (Request.handleNamed (session.limits user) user name body)).1 = .ok response) ∨
      ∃ failure, (session.run (Request.handleNamed (session.limits user) user name body)).1 = .error failure ∧
        failure.status ≠ .internal) ∧
    ∀ user on,
      (∃ prefs, (session.run (PreferenceStore.setDailySummary session.updates user on)).1 = .ok prefs) ∧
      ∃ prefs, (session.run (PreferenceStore.setAllowIncoming session.updates user on)).1 = .ok prefs := by
  have hlegible : session.scene.store.Legible := h.legible
  refine ⟨hlegible, fun user line => ?_, fun user name body => ?_, fun user on => ?_⟩
  · exact (run_of_ensures _ healthy.undisturbed (Command.ensures_execute_plain healthy.answering hlegible
      (roundsFor_le_limits session user) line)).1
  · exact ended_of_properly (run_of_ensures _ healthy.undisturbed
      (Request.proper_handleNamed healthy.answering _ user name body session.scene hlegible))
  · have hswitch (change : Preferences → Preferences) :
        ∃ prefs, (session.run (PreferenceStore.switch session.updates user change)).1 = .ok prefs := by
      have hend := run_of_ensures _ healthy.undisturbed
        (PreferenceStore.proper_switch session.updates user change session.scene hlegible)
      obtain hok | ⟨failure, -, hnever⟩ := ended_of_properly hend
      · exact hok
      · exact hnever.elim
    exact ⟨hswitch _, hswitch _⟩

/-- Amy has sent ben a todo with a text that a document has to escape. -/
def quoted : Session :=
  let session := resumed .empty 0 [⟨⟨"amy"⟩, "amy"⟩, ⟨⟨"ben"⟩, "ben"⟩]
  (session.run (Command.execute (session.limits ⟨"amy"⟩) ⟨"amy"⟩ "/todo send ben \"milk\" \\ bread" :
    Program Empty String)).2

/-- Ben asks for his received todos, in chat and by a request. -/
theorem quoted_answered :
    (∃ reply, (quoted.run (Command.execute (quoted.limits ⟨"ben"⟩) ⟨"ben"⟩ "/todo list in" :
        Program Empty String)).1 = .ok reply ∧ reply ≠ Command.internalErrorReply) ∧
      quoted.world.store.find? (UserLists.key ⟨"ben"⟩) ≠ none := by
  have hstart : Healthy (resumed .empty 0 [⟨⟨"amy"⟩, "amy"⟩, ⟨⟨"ben"⟩, "ben"⟩]) := ⟨rfl, rfl⟩
  have hserved : quoted.Served := .command (.start rfl) hstart ⟨"amy"⟩ _
  have hhealthy : quoted.Healthy := ⟨(goesOn_run hstart.undisturbed _).1, by decide +kernel⟩
  exact ⟨(hserved.never_internal hhealthy).2.1 ⟨"ben"⟩ "/todo list in", by decide +kernel⟩

end Session

end SharedTodo
