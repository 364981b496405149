import SharedTodo.Proofs.Program.Keeps

/-!
# Programs that agree

Two programs agree in a session when they leave the same scene: the same store, the same number of drawn
identifiers and the same notifications. They may answer differently and see failures in different forms. So
programs agree that do the same operation and then agree, whatever it has come to, and so do programs that
are idle, whatever they read.
-/

namespace SharedTodo

namespace Program

variable {ε δ ζ α β : Type}

theorem mapError_bind (program : Program ε α) (next : α → Program ε β) (view : ε → δ) :
    (program >>= next).mapError view = program.mapError view >>= fun value => (next value).mapError view := by
  induction program with
  | ended outcome => cases outcome <;> rfl
  | call c rest ih => exact congrArg (call c) (funext ih)

theorem mapError_attempt (program : Program ζ α) (view : ε → δ) :
    (program.attempt : Program ε (Except ζ α)).mapError view = program.attempt := by
  induction program with
  | ended outcome => cases outcome <;> rfl
  | call c rest ih => exact congrArg (call c) (funext ih)

theorem ensures_any {around : Surroundings} {s : Scene} (program : Program ε α) :
    program.Ensures around (fun _ _ => True) s := by
  induction program generalizing s with
  | ended outcome => trivial
  | call c next ih => exact fun reply s' _ => ih reply

end Program

open Program

section

variable {ε δ : Type}

/-- Naming a user does not fail, so it is the same program whatever its failures are. -/
theorem Naming.mapError_resolve (user : UserId) (view : ε → δ) :
    (Naming.resolve user : Program ε String).mapError view = Naming.resolve user := by
  refine congrArg (call (.cachedName user)) (funext fun cached => ?_)
  cases cached with
  | some name => rfl
  | none =>
    refine congrArg (call (.findById user)) (funext fun found => ?_)
    match found with
    | .ok (some profile) => rfl
    | .ok none => rfl
    | .error _ => rfl

/-- Preferences that cannot be loaded are the defaults. -/
theorem PreferenceStore.mapError_loadOrDefault (user : UserId) (view : ε → δ) :
    (loadOrDefault user : Program ε Preferences).mapError view = loadOrDefault user := by
  rw [loadOrDefault, mapError_bind, mapError_attempt, loadOrDefault]
  congr 1
  funext loaded
  cases loaded <;> rfl

end

namespace Session

variable {ε δ ζ α β γ : Type} {session : Session}

def Agree (session : Session) (program : Program ε α) (program' : Program δ β) : Prop :=
  (session.run program).2.scene = (session.run program').2.scene

theorem agree_of_idle {program : Program ε α} {program' : Program δ β} (h : session.Undisturbed)
    (hidle : program.Idle session.around) (hidle' : program'.Idle session.around) :
    session.Agree program program' := by
  obtain ⟨-, hscene⟩ := run_of_ensures _ h (hidle session.scene)
  obtain ⟨-, hscene'⟩ := run_of_ensures _ h (hidle' session.scene)
  exact hscene.trans hscene'.symm

/-- The same call, and programs that agree after it. -/
theorem agree_perform {c : Call} {next : c.Reply → Program ε α} {next' : c.Reply → Program δ β}
    (h : session.Undisturbed)
    (hnext : ∀ reply later, session.GoesOn later → later.Agree (next reply) (next' reply)) :
    session.Agree (Program.perform c >>= next) (Program.perform c >>= next') :=
  hnext _ _ (replies_perform h c).2

/-- The same operation, with its failures seen in two ways, and programs that agree after whatever it has come
to. -/
theorem agree_of_ensures {operation : Program ζ γ} {view : ζ → ε} {view' : ζ → δ} {next : γ → Program ε α}
    {next' : γ → Program δ β} {result : Result ζ γ} (h : session.Undisturbed)
    (hensures : operation.Ensures session.around result session.scene)
    (hnext : ∀ value later, session.GoesOn later → result (.ok value) later.scene →
      later.Agree (next value) (next' value)) :
    session.Agree (operation.mapError view >>= next) (operation.mapError view' >>= next') := by
  have hgoes := goesOn_run h operation
  have hresult := run_of_ensures result h hensures
  rw [Agree, run, run, run_bind, run_bind, run_mapError, run_mapError]
  rw [run] at hgoes hresult
  generalize operation.run perform session = ended at hgoes hresult
  obtain ⟨outcome, later⟩ := ended
  cases outcome with
  | ok value => exact hnext value later hgoes hresult
  | error failure => rfl
  | unfinished => rfl

theorem agree_bind {operation : Program ζ γ} {view : ζ → ε} {view' : ζ → δ} {next : γ → Program ε α}
    {next' : γ → Program δ β} (h : session.Undisturbed)
    (hnext : ∀ value later, session.GoesOn later → later.Agree (next value) (next' value)) :
    session.Agree (operation.mapError view >>= next) (operation.mapError view' >>= next') :=
  agree_of_ensures h (ensures_any operation) fun value later hlater _ => hnext value later hlater

/-! ## Looking for a user -/

/-- A search for a user leaves the session as it is. -/
theorem run_findByUsername {username : String} {next : (Call.findByUsername username).Reply → Program ε α} :
    session.run (Program.perform (.findByUsername username) >>= next) =
      session.run (next (session.around.byUsername username)) := by
  have hperform : session.perform (.findByUsername username) = (session.around.byUsername username, session) := by
    rw [perform_findByUsername, around]
    dsimp only
    split <;> rfl
  have hrun : session.run (Program.perform (.findByUsername username) >>= next) =
      (session.perform (.findByUsername username)).2.run
        (next (session.perform (.findByUsername username)).1) := rfl
  rw [hrun, hperform]

/-- Names that are looked for alike find the same user. -/
theorem byUsername_congr {username username' : String}
    (h : Directory.wanted username = Directory.wanted username') :
    session.around.byUsername username = session.around.byUsername username' := by
  simp only [around, Directory.findByUsername, h]

end Session

end SharedTodo
