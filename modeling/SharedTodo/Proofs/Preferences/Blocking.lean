import SharedTodo.Proofs.Exchange.Received
import SharedTodo.Proofs.Notification.Telling

/-!
# Users who block todos

A user who does not allow incoming todos gets none from the commands and requests of others, with one
exception. Operations on todos do not ask for anybody's consent; the command and the request that send a todo
look at the receiver's preferences first, and everything else adds to the received todos of nobody. The
exception is the request that gives a todo to a new owner: it is carried out without such a look.
-/

namespace SharedTodo

open Program

variable {ε δ α β : Type} {around : Surroundings} {limits : Exchange.Limits} {user spared : UserId}

namespace Program

/-- A handler of an operation that brings the user nothing. -/
theorem spares_thenTold {view : ε → δ} {told : α → ListSet} {outcome : Outcome ε α} {s s₁ : Scene}
    (h : s.Spares spared s₁) :
    thenTold around view told (fun (_ : Outcome δ β) s' => s.Spares spared s') outcome s₁ := by
  cases outcome with
  | ok report =>
    intro value s' hheard
    rw [Scene.Spares, hheard.store]
    exact h
  | error failure => exact h
  | unfinished => exact h

theorem ensures_spares {operation : Program ε α} {view : ε → δ} {told : α → ListSet}
    (h : operation.Keeps around (Scene.Spares spared)) (s : Scene) :
    operation.Ensures around
      (thenTold around view told fun (_ : Outcome δ β) s' => s.Spares spared s') s :=
  ensures_mono (h s) fun _ _ => spares_thenTold

end Program

theorem Surroundings.Hears.spares {told : ListSet} {s s' : Scene} (h : around.Hears told s s') :
    s.Spares spared s' := by
  rw [Scene.Spares, h.store]

namespace Request

theorem spares_handleSend {s : Scene} (hblocking : s.store.Blocking spared)
    (draft : Draft) (username : String) :
    (handleSend limits user draft username).Ensures around (fun _ s' => s.Spares spared s') s := by
  refine ensures_bind (ensures_findUser (fun receiver _ => ?_) fun _ _ => List.Subperm.refl _)
  rw [andThen]
  split
  · exact ensures_handleAdd (ensures_spares (Exchange.spares_add user draft) s)
  · refine ensures_sendTo (fun _ _ hheard => hheard.spares) fun hasked => ?_
    have hreceiver : receiver.id ≠ spared := fun heq => hasked (heq ▸ hblocking)
    exact ensures_spares (Exchange.spares_send user hreceiver draft) s

/-- Every request of another user, except for the one that gives a todo to the user. -/
theorem spares_handle (hne : user ≠ spared) {s : Scene} (hblocking : s.store.Blocking spared)
    {request : Request}
    (hrequest : ∀ id username newOwner, request = .reassign id username →
      around.byUsername username = .ok (some newOwner) → newOwner.id ≠ spared) :
    (handle limits user request).Ensures around (fun _ s' => s.Spares spared s') s := by
  cases request with
  | add draft receiver =>
    cases receiver with
    | none => exact ensures_handleAdd (ensures_spares (Exchange.spares_add user draft) s)
    | some username => exact spares_handleSend hblocking draft username
  | list kind reminder offset => exact spares_of_aside (aside_handleList kind reminder offset) s
  | edit id change => exact ensures_handleEdit (ensures_spares (Exchange.spares_edit user id change) s)
  | complete id => exact ensures_handleComplete (ensures_spares (Exchange.spares_take hne id) s)
  | accept id => exact ensures_handleAccept (ensures_spares (Exchange.spares_accept hne id) s)
  | remove id => exact ensures_handleRemove (ensures_spares (Exchange.spares_remove hne id) s)
  | bump id => exact ensures_handleBump (ensures_spares (Exchange.spares_bump user id) s)
  | reassign id username =>
    refine ensures_handleReassign (fun _ _ => List.Subperm.refl _) fun newOwner hfound => ?_
    have howner := hrequest id username newOwner rfl hfound
    exact ensures_spares (Exchange.spares_reassign hne howner id) s

end Request

namespace Command

theorem spares_perform (hne : user ≠ spared) {s : Scene} (hblocking : s.store.Blocking spared)
    (command : Command) :
    (command.perform limits user).Ensures around (fun _ s' => s.Spares spared s') s := by
  have hadd (message : String) :
      (executeAdd limits user message).Ensures around (fun _ s' => s.Spares spared s') s :=
    ensures_executeAdd (fun _ => List.Subperm.refl _) fun draft =>
      ensures_spares (Exchange.spares_add user draft) s
  cases command with
  | list kind => exact spares_of_aside (aside_executeList user kind) s
  | add message => exact hadd message
  | pop =>
    exact ensures_executePop (fun _ _ h => h) (ensures_spares (Exchange.spares_popWithin hne limits.rounds) s)
  | send username message =>
    refine ensures_executeSend (fun _ => List.Subperm.refl _) (fun _ => List.Subperm.refl _) (hadd message)
      fun receiver draft hasked => ?_
    have hreceiver : receiver.id ≠ spared := fun heq => hasked (heq ▸ hblocking)
    exact ensures_spares (Exchange.spares_send user hreceiver draft) s
  | showSettings => exact spares_of_aside (aside_executeShowSettings user) s
  | showSetting setting => exact spares_of_aside (aside_executeShowSetting user setting) s
  | switch setting on => exact spares_of_aside (aside_executeSwitch setting on) s
  | help => exact List.Subperm.refl _

end Command

/-! ## Sessions -/

namespace Session

/-- The todos that a user has received. -/
def received (session : Session) (user : UserId) : List Entry :=
  (session.world.store.lists user).inbox

/-- Whatever another user asks for, in chat or by a request, brings nothing to a user who blocks todos, unless
it is to make that very user the new owner of a todo. -/
theorem received_of_blocking {session : Session} (h : session.Undisturbed) {user blocked : UserId}
    (hne : user ≠ blocked) (hblocking : session.world.store.Blocking blocked) (limits : Exchange.Limits) :
    (∀ line, ((session.run (Command.execute limits user line : Program ε String)).2.received blocked).Subperm
      (session.received blocked)) ∧
    ∀ name body,
      (∀ id username newOwner, Request.decode name body = .ok (.reassign id username) →
        session.world.directory.findByUsername username = some newOwner → newOwner.id ≠ blocked) →
      ((session.run (Request.handleNamed limits user name body)).2.received blocked).Subperm
        (session.received blocked) := by
  constructor
  · intro line
    exact run_of_ensures (fun _ s' => session.scene.Spares blocked s') h
      (Command.ensures_execute (session.scene.Spares blocked) (List.Subperm.refl _)
        fun command => Command.spares_perform hne hblocking command)
  · intro name body hrequest
    refine run_of_ensures (fun _ s' => session.scene.Spares blocked s') h ?_
    rw [Request.handleNamed]
    cases hdecode : Request.decode name body with
    | error failure => exact List.Subperm.refl _
    | ok request =>
      refine Request.spares_handle hne hblocking fun id username newOwner heq hfound => ?_
      subst heq
      exact hrequest id username newOwner hdecode (byUsername_around hfound)

/-- Ben has switched incoming todos off. -/
def benBlocks : Session :=
  ((resumed .empty 0 [⟨⟨"amy"⟩, "amy"⟩, ⟨⟨"ben"⟩, "ben"⟩]).run
    (Command.execute ⟨5, 5⟩ ⟨"ben"⟩ "/todo settings allow_incoming_task_requests off" : Program Empty String)).2

theorem blocking_benBlocks : benBlocks.world.store.Blocking ⟨"ben"⟩ :=
  ⟨"\x7b\"daily_summary\":true,\"allow_incoming_requests\":false\x7d", ⟨true, false, none⟩, by decide +kernel,
    by rfl, rfl⟩

theorem undisturbed_benBlocks : benBlocks.Undisturbed := by
  have hstart : Undisturbed (resumed .empty 0 [⟨⟨"amy"⟩, "amy"⟩, ⟨⟨"ben"⟩, "ben"⟩]) := rfl
  exact (goesOn_run hstart _).1

theorem received_benBlocks : benBlocks.received ⟨"ben"⟩ = [] := by
  decide +kernel

/-- Amy sends ben a todo, by a command and by a request. -/
theorem nothing_received :
    (benBlocks.run (Command.execute ⟨5, 5⟩ ⟨"amy"⟩ "/todo send @ben milk" : Program Empty String)).2.received
        ⟨"ben"⟩ = [] ∧
      (benBlocks.run (Request.handleNamed ⟨5, 5⟩ ⟨"amy"⟩ "add"
        "\x7b\"message\":\"milk\",\"send_to\":\"ben\"\x7d")).2.received ⟨"ben"⟩ = [] := by
  obtain ⟨hcommand, hrequest⟩ := @received_of_blocking Empty benBlocks undisturbed_benBlocks ⟨"amy"⟩ ⟨"ben"⟩
    (by decide) blocking_benBlocks ⟨5, 5⟩
  rw [received_benBlocks] at hcommand hrequest
  refine ⟨List.subperm_nil.1 (hcommand _), List.subperm_nil.1 (hrequest _ _ fun id username newOwner h => ?_)⟩
  have hdecode : Request.decode "add" "\x7b\"message\":\"milk\",\"send_to\":\"ben\"\x7d" =
      .ok (.add ⟨"milk", none, none⟩ (some "ben")) := by
    rfl
  exact nomatch hdecode.symm.trans h

/-- Amy has noted a todo since. -/
def amyNotes : Session :=
  (benBlocks.run (Request.handleNamed ⟨5, 5⟩ ⟨"amy"⟩ "add" "\x7b\"message\":\"milk\"\x7d")).2

/-- Amy makes ben the new owner of her todo. -/
theorem received_although_blocking :
    amyNotes.world.store.Blocking ⟨"ben"⟩ ∧
      ¬ ((amyNotes.run (Request.handleNamed ⟨5, 5⟩ ⟨"amy"⟩ "change_assignment"
        "\x7b\"id\":\"00000000-0000-4000-8000-000000000001\",\"send_to\":\"ben\"\x7d")).2.received
          ⟨"ben"⟩).Subperm (amyNotes.received ⟨"ben"⟩) := by
  refine ⟨⟨"\x7b\"daily_summary\":true,\"allow_incoming_requests\":false\x7d", ⟨true, false, none⟩,
    by decide +kernel, by rfl, rfl⟩, fun hsub => ?_⟩
  exact absurd hsub.length_le (by decide +kernel)

end Session

end SharedTodo
