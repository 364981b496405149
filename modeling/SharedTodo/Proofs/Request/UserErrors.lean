import SharedTodo.Proofs.Exchange.UserErrors
import SharedTodo.Proofs.Notification.Telling
import SharedTodo.Proofs.Request.Refusal

/-!
# Requests that fail for what their caller asked

A handler reads before its operation and only tells users after it, so a request whose failure is not the
program's own has changed nothing and told nobody anything, as its operation has not. For a whole session
that is `Session.user_errors_change_nothing`.
-/

namespace SharedTodo

/-! ## Requests -/

namespace Request

open Program

variable {around : Surroundings} {s : Scene} {limits : Exchange.Limits} {user : UserId}

/-- Unless the program itself is to blame for the failure, store and notifications are as they were. -/
def Unmoved (s : Scene) : Result Failure Response
  | .error failure, s' => failure.status ≠ .internal → s'.store = s.store ∧ s'.sent = s.sent
  | _, _ => True

theorem isUserError_of_status {aim : Aim} {error : OperationError}
    (h : (Failure.operation aim error).status ≠ .internal) : error.isUserError = true := by
  cases error with
  | rejected cause => rfl
  | absent what => rfl
  | storage error => exact absurd rfl h

/-- A handler that only tells users after its operation. -/
theorem ensures_unmoved {α : Type} {aim : Aim} {told : α → ListSet} {operation : Exchange.Operation α}
    (h : operation.Ensures around (Program.Unmoved s) s) :
    operation.Ensures around (thenTold around (.operation aim) told (Unmoved s)) s := by
  refine ensures_mono h fun outcome s₁ hend => ?_
  cases outcome with
  | ok report => exact fun _ _ _ => trivial
  | error failure => exact fun hstatus => hend (isUserError_of_status hstatus)
  | unfinished => trivial

theorem unmoved_handleAdd (draft : Draft) : (handleAdd limits user draft).Ensures around (Unmoved s) s :=
  ensures_handleAdd (ensures_unmoved (unmoved_of_decided (Exchange.decided_add user draft) s))

theorem unmoved_handleSend (draft : Draft) (username : String) :
    (handleSend limits user draft username).Ensures around (Unmoved s) s := by
  refine ensures_bind (ensures_findUser (fun receiver _ => ?_) fun _ _ _ => ⟨rfl, rfl⟩)
  rw [andThen]
  split
  · exact unmoved_handleAdd draft
  · exact ensures_sendTo (fun _ _ _ => trivial) fun _ =>
      ensures_unmoved (Exchange.unmoved_send user receiver.id draft)

/-- A reminder that cannot be claimed is no failure. -/
theorem ensures_remind {kind : ListKind} {items : List ListedIssue} {offset : TimezoneOffset}
    {result : Result Failure Unit} (hok : ∀ s', result (.ok ()) s') (hunfinished : ∀ s', result .unfinished s') :
    (remind limits user kind items offset).Ensures around result s := by
  refine ensures_bind (ensures_attempt ?_)
  refine ensures_mono (PreferenceStore.aside_claimReminder limits.updates user offset s) fun outcome s' _ => ?_
  match outcome with
  | .ok true =>
    rintro _ s'' rfl
    exact hok _
  | .ok false => exact hok s'
  | .error _ => exact hok s'
  | .unfinished => exact hunfinished s'

theorem unmoved_handleList (kind : ListKind) (reminder : Bool) (offset : TimezoneOffset) :
    (handleList limits user kind reminder offset).Ensures around (Unmoved s) s := by
  refine ensures_bind (ensures_of_idle (idle_mapError (Exchange.idle_listing user kind)) (fun items => ?_)
    fun _ _ => ⟨rfl, rfl⟩)
  dsimp only [andThen]
  split
  · exact ensures_bind (ensures_remind (fun _ => trivial) fun _ => trivial)
  · trivial

theorem unmoved_handle (hfresh : s.store.find? (Issue.key (around.supply s.drawn)) = none)
    (request : Request) : (handle limits user request).Ensures around (Unmoved s) s := by
  cases request with
  | add draft receiver =>
    cases receiver with
    | none => exact unmoved_handleAdd draft
    | some username => exact unmoved_handleSend draft username
  | list kind reminder offset => exact unmoved_handleList kind reminder offset
  | edit id change => exact ensures_handleEdit (ensures_unmoved (Exchange.unmoved_edit id change))
  | complete id => exact ensures_handleComplete (ensures_unmoved (Exchange.unmoved_take id))
  | accept id => exact ensures_handleAccept (ensures_unmoved (Exchange.unmoved_accept id))
  | remove id =>
    refine ensures_handleRemove (ensures_unmoved ?_)
    exact unmoved_before (Exchange.unmoved_take id) fun _ => decided_pure _
  | bump id => exact ensures_handleBump (ensures_unmoved (Exchange.unmoved_bump id))
  | reassign id username =>
    refine ensures_handleReassign (fun _ _ _ => ⟨rfl, rfl⟩) fun newOwner _ => ?_
    exact ensures_unmoved (Exchange.unmoved_reassign hfresh id newOwner.id)

theorem unmoved_handleNamed (hfresh : s.store.find? (Issue.key (around.supply s.drawn)) = none)
    (limits : Exchange.Limits) (user : UserId) (name body : String) :
    (handleNamed limits user name body).Ensures around (Unmoved s) s := by
  refine ensures_bind (ensures_of_idle (idle_ofExcept _) (fun request => ?_) fun _ _ => ⟨rfl, rfl⟩)
  exact unmoved_handle hfresh request

end Request

/-! ## Sessions -/

namespace Session

/-- The store and what users have been told are the same. -/
def Unmoved (session later : Session) : Prop :=
  later.world.store = session.world.store ∧ later.world.sent = session.world.sent

/-- Whatever is stored, an operation or a request that fails for a reason that its caller can mend has changed
nothing, a listing never changes anything, and a removal of the first todo that finds none has only dropped
entries without a record. -/
theorem user_errors_change_nothing {session : Session} (h : session.Undisturbed)
    (hfresh : session.world.store.find? (Issue.key (session.world.supply session.world.drawn)) = none)
    (limits : Exchange.Limits) :
    (∀ (action : Exchange.Action) failure, (∀ user, action ≠ .pop user) →
      (session.run (action.program limits)).1 = .error failure → failure.isUserError = true →
        session.Unmoved (session.run (action.program limits)).2) ∧
    (∀ user kind, session.Unmoved (session.run (Exchange.listing user kind)).2) ∧
    (∀ user failure, (session.run (Exchange.pop limits user)).1 = .error failure →
      failure.isUserError = true → failure = .absent .emptyList ∧
        Exchange.Emptied user session.scene (session.run (Exchange.pop limits user)).2.scene) ∧
    ∀ user name body failure, (session.run (Request.handleNamed limits user name body)).1 = .error failure →
      failure.status ≠ .internal →
        session.Unmoved (session.run (Request.handleNamed limits user name body)).2 := by
  have hnew : session.scene.store.find? (Issue.key (session.around.supply session.scene.drawn)) = none := hfresh
  refine ⟨fun action failure hpop hfailed => ?_, fun user kind => ?_, fun user failure hfailed => ?_,
    fun user name body failure hfailed => ?_⟩
  · have hend := run_of_ensures _ h (Exchange.unmoved_action hnew limits hpop)
    rw [hfailed] at hend
    exact hend
  · obtain ⟨-, hscene⟩ := run_of_ensures _ h (Exchange.idle_listing user kind session.scene)
    exact ⟨congrArg Scene.store hscene, congrArg Scene.sent hscene⟩
  · have hend := run_of_ensures _ h (Exchange.drained_pop limits user)
    rw [hfailed] at hend
    exact hend
  · have hend := run_of_ensures _ h (Request.unmoved_handleNamed hnew limits user name body)
    rw [hfailed] at hend
    exact hend

/-- Amy's own list names an issue that has no record, and another issue has a record but is in no list. -/
def dangling : Session :=
  resumed ((Request.recordedOnly ⟨⟨7⟩, "milk", none, none, .epoch⟩).assign (UserLists.key ⟨"amy"⟩)
    (Exchange.documentOfLists ⟨[.unlinked ⟨8⟩], [], []⟩)) 0 [⟨⟨"ben"⟩, "ben"⟩]

/-- Amy gives away an issue that she does not hold, and removes her first todo. -/
theorem dangling_unmoved :
    let given := dangling.run (Request.handleNamed ⟨5, 5⟩ ⟨"amy"⟩ "change_assignment"
      "\x7b\"id\":\"00000000-0000-0000-0000-000000000007\",\"send_to\":\"@ben\"\x7d")
    let popped := dangling.run (Exchange.pop ⟨5, 5⟩ ⟨"amy"⟩)
    given.1 = .error (.operation .reassign (.absent (.issue ⟨7⟩))) ∧ dangling.Unmoved given.2 ∧
      popped.1 = .error (.absent .emptyList) ∧ Exchange.Emptied ⟨"amy"⟩ dangling.scene popped.2.scene := by
  intro given popped
  have hgiven : given.1 = .error (.operation .reassign (.absent (.issue ⟨7⟩))) := by
    decide +kernel
  have hpopped : popped.1 = .error (.absent .emptyList) := by
    decide +kernel
  obtain ⟨-, -, hpop, hrequest⟩ := @user_errors_change_nothing dangling rfl (by decide +kernel) ⟨5, 5⟩
  exact ⟨hgiven, hrequest _ _ _ _ hgiven (by decide), hpopped, (hpop _ _ hpopped rfl).2⟩

end Session

end SharedTodo
