import SharedTodo.Delivery
import SharedTodo.Naming
import SharedTodo.Preferences.Stored
import SharedTodo.Session
import SharedTodo.Update

/-!
# What programs come to

A program that runs to its end with nobody else at work meets a store that answers, a directory and a supply
of identifiers. What the name cache and the clock answer is left open. `Program.Ensures` says that the end is
as wanted, in outcome and in scene, whatever these two answer. There is one rule for every way of putting
programs together and one for every call, so that what an operation ensures is read off its text.

An optimistic update meets nobody who could refuse its write, so it is decided in its first attempt
(`ensures_update`). A session that nothing disturbs is such a run (`Session.run_of_ensures`).
-/

namespace SharedTodo

/-- The services around a program, apart from the store. -/
structure Surroundings where
  byId : UserId → Except DirectoryFailure (Option Profile)
  byUsername : String → Except DirectoryFailure (Option Profile)
  supply : Nat → IssueId
  /-- Whether notifications arrive. -/
  delivers : Bool

/-- What a program can change. -/
structure Scene where
  store : Store
  /-- How many identifiers have been drawn. -/
  drawn : Nat
  sent : List Notification

namespace Scene

def withStore (s : Scene) (store : Store) : Scene :=
  { s with store }

/-- The scene after more notifications. -/
def heard (s : Scene) (new : List Notification) : Scene :=
  { s with sent := s.sent ++ new }

@[simp] theorem withStore_store (s : Scene) (store : Store) : (s.withStore store).store = store := rfl

end Scene

namespace Surroundings

/-- What becomes of a notification. -/
def notified (around : Surroundings) (s : Scene) (notification : Notification) : Scene :=
  if around.delivers then s.heard [notification] else s

/-- A call, the scene it meets, its reply, and the scene it leaves. -/
def Replies (around : Surroundings) : (c : Call) → Scene → c.Reply → Scene → Prop
  | .store call, s, reply, s' =>
    reply = (Except.ok (Store.perform call s.store).1 : Except StoreFailure call.Answer) ∧
      s' = s.withStore (Store.perform call s.store).2
  | .findById user, s, reply, s' => reply = around.byId user ∧ s' = s
  | .findByUsername username, s, reply, s' => reply = around.byUsername username ∧ s' = s
  | .freshId, s, id, s' => id = around.supply s.drawn ∧ s' = { s with drawn := s.drawn + 1 }
  | .notify notification, s, _, s' => s' = around.notified s notification
  | _, s, _, s' => s' = s

end Surroundings

/-- What is to hold of the outcome of a program and of the scene it leaves. -/
abbrev Result (ε α : Type) :=
  Outcome ε α → Scene → Prop

namespace Program

def Ensures {ε α : Type} (around : Surroundings) : Program ε α → Result ε α → Scene → Prop
  | ended outcome, result, s => result outcome s
  | call c next, result, s =>
    ∀ reply s', around.Replies c s reply s' → (next reply).Ensures around result s'

section

variable {ε δ α β : Type} {around : Surroundings} {s : Scene}

/-! ## Composition -/

theorem ensures_mono {program : Program ε α} {result result' : Result ε α}
    (h : program.Ensures around result s) (hresult : ∀ outcome s, result outcome s → result' outcome s) :
    program.Ensures around result' s := by
  induction program generalizing s with
  | ended outcome => exact hresult _ _ h
  | call c next ih => exact fun reply s' hreplies => ih reply (h reply s' hreplies)

variable (around) in
/-- The result of the first of two programs: where it gives a value, the second one ensures the rest. -/
def andThen (next : α → Program ε β) (result : Result ε β) : Result ε α
  | .ok value, s => (next value).Ensures around result s
  | .error failure, s => result (.error failure) s
  | .unfinished, s => result .unfinished s

theorem ensures_bind {program : Program ε α} {next : α → Program ε β} {result : Result ε β}
    (h : program.Ensures around (andThen around next result) s) :
    (program >>= next).Ensures around result s := by
  induction program generalizing s with
  | ended outcome => cases outcome <;> exact h
  | call c rest ih => exact fun reply s' hreplies => ih reply (h reply s' hreplies)

/-- The result of a program whose failure is seen in another form. -/
def mapped (view : ε → δ) (result : Result δ α) : Result ε α
  | .ok value, s => result (.ok value) s
  | .error failure, s => result (.error (view failure)) s
  | .unfinished, s => result .unfinished s

theorem ensures_mapError {program : Program ε α} {view : ε → δ} {result : Result δ α}
    (h : program.Ensures around (mapped view result) s) :
    (program.mapError view).Ensures around result s := by
  induction program generalizing s with
  | ended outcome => cases outcome <;> exact h
  | call c rest ih => exact fun reply s' hreplies => ih reply (h reply s' hreplies)

/-- The result of a program whose failure is a value for what comes next. -/
def attempted (result : Result δ (Except ε α)) : Result ε α
  | .ok value, s => result (.ok (.ok value)) s
  | .error failure, s => result (.ok (.error failure)) s
  | .unfinished, s => result .unfinished s

theorem ensures_attempt {program : Program ε α} {result : Result δ (Except ε α)}
    (h : program.Ensures around (attempted result) s) :
    (program.attempt : Program δ (Except ε α)).Ensures around result s := by
  induction program generalizing s with
  | ended outcome => cases outcome <;> exact h
  | call c rest ih => exact fun reply s' hreplies => ih reply (h reply s' hreplies)

theorem ensures_ofExcept {value : Except ε α} {result : Result ε α}
    (hok : ∀ a, value = .ok a → result (.ok a) s)
    (herror : ∀ failure, value = .error failure → result (.error failure) s) :
    (ofExcept value).Ensures around result s := by
  cases value with
  | ok a => exact hok a rfl
  | error failure => exact herror failure rfl

/-! ## Single calls -/

theorem ensures_perform {c : Call} {result : Result ε c.Reply}
    (h : ∀ reply s', around.Replies c s reply s' → result (.ok reply) s') :
    (perform c).Ensures around result s :=
  h

theorem ensures_freshId {result : Result ε IssueId}
    (h : result (.ok (around.supply s.drawn)) { s with drawn := s.drawn + 1 }) :
    freshId.Ensures around result s := by
  rintro id s' ⟨rfl, rfl⟩
  exact h

theorem ensures_now {result : Result ε Time.Instant} (h : ∀ now, result (.ok now) s) :
    now.Ensures around result s := by
  rintro now s' rfl
  exact h now

theorem ensures_notify {notification : Notification} {result : Result ε Unit}
    (h : result (.ok ()) (around.notified s notification)) :
    (perform (.notify notification)).Ensures around result s := by
  rintro _ s' rfl
  exact h

/-- A name is found in the cache or in the directory, or there is none. -/
theorem ensures_resolve {user : UserId} {result : Result ε String} (h : ∀ name, result (.ok name) s) :
    (Naming.resolve user).Ensures around result s := by
  refine ensures_bind (ensures_perform ?_)
  rintro cached s' rfl
  cases cached with
  | some name => exact h name
  | none =>
    refine ensures_bind (ensures_perform ?_)
    rintro found s' ⟨-, rfl⟩
    match found with
    | .ok (some profile) =>
      refine ensures_bind (ensures_perform ?_)
      rintro _ s' rfl
      exact h profile.username
    | .ok none => exact h Naming.fallback
    | .error _ => exact h Naming.fallback

section

variable [OfStorage ε]

theorem ensures_storeCall {c : StoreCall} {result : Result ε c.Answer}
    (h : result (.ok (Store.perform c s.store).1) (s.withStore (Store.perform c s.store).2)) :
    (storeCall c).Ensures around result s := by
  rintro reply s' ⟨rfl, rfl⟩
  exact h

theorem ensures_get {key : String} {result : Result ε (Option String)}
    (h : result (.ok (s.store.find? key)) s) : (get key).Ensures around result s :=
  ensures_storeCall h

theorem ensures_set {key value : String} {result : Result ε Unit}
    (h : result (.ok ()) (s.withStore (s.store.insert key value))) :
    (set key value).Ensures around result s :=
  ensures_storeCall h

theorem ensures_delete {key : String} {result : Result ε Unit}
    (h : result (.ok ()) (s.withStore (s.store.erase key))) :
    (delete key).Ensures around result s :=
  ensures_storeCall h

end

end

end Program

/-! ## Updates -/

namespace Store

/-- The store with a document written or taken out; one that is the same already is left alone. -/
def rewrite (store : Store) (key : String) (new : Option String) : Store :=
  if new = store.find? key then store else store.assign key new

theorem find?_rewrite (store : Store) (key k : String) (new : Option String) :
    (store.rewrite key new).find? k = if k = key then new else store.find? k := by
  rw [rewrite]
  split
  · next hsame =>
    split
    · next hkey => rw [hkey, hsame]
    · rfl
  · exact store.find?_assign key k new

theorem rewrite_self (store : Store) (key : String) : store.rewrite key (store.find? key) = store :=
  if_pos rfl

end Store

namespace Program

variable {ε α : Type} [OfStorage ε] {around : Surroundings} {s : Scene}

theorem ensures_update {key : String} {limit : Nat}
    {compute : Option String → Except ε (Option String × α)} {result : Result ε α}
    (hfailed : ∀ failure, compute (s.store.find? key) = .error failure → result (.error failure) s)
    (hdone : ∀ new outcome, compute (s.store.find? key) = .ok (new, outcome) →
      result (.ok outcome) (s.withStore (s.store.rewrite key new))) :
    (update key limit compute).Ensures around result s := by
  obtain ⟨left, hleft⟩ : ∃ left, attempts limit = left + 1 :=
    Nat.exists_eq_succ_of_ne_zero (by rw [attempts]; omega)
  rw [update, hleft]
  refine ensures_bind (ensures_get ?_)
  refine ensures_bind (ensures_ofExcept (fun computed hcomputed => ?_) hfailed)
  obtain ⟨new, outcome⟩ := computed
  have hdone := hdone new outcome hcomputed
  rw [Store.rewrite] at hdone
  rw [andThen]
  dsimp only
  by_cases hsame : new = s.store.find? key
  · rw [if_pos hsame] at hdone ⊢
    exact hdone
  · rw [if_neg hsame] at hdone ⊢
    refine ensures_bind (ensures_storeCall ?_)
    simp only [Store.perform, if_pos]
    exact hdone

end Program

/-! ## Undisturbed sessions -/

namespace Session

/-- What surrounds the programs of a session. -/
def around (session : Session) : Surroundings where
  byId user :=
    if session.directoryDown then .error directoryFailure else .ok (session.world.directory.find? user)
  byUsername username :=
    if session.directoryDown then .error directoryFailure
    else .ok (session.world.directory.findByUsername username)
  supply := session.world.supply
  delivers := !session.notifierDown

def scene (session : Session) : Scene :=
  ⟨session.world.store, session.world.drawn, session.world.sent⟩

/-- A session that goes on from a store, after some identifiers have been drawn, with some users known. -/
def resumed (store : Store) (drawn : Nat) (known : List Profile) : Session :=
  let session := start 5 5 .epoch
  { session with
    world := { session.world with store, drawn, directory := known.foldl Directory.register .empty } }

/-- A session in which nobody writes in between, and no call to the store fails or is refused. -/
def Undisturbed (session : Session) : Prop :=
  session.disturbances = []

variable {session : Session}

theorem byUsername_around {username : String} {profile : Profile}
    (h : session.around.byUsername username = .ok (some profile)) :
    session.world.directory.findByUsername username = some profile := by
  rw [around] at h
  dsimp only at h
  split at h
  · exact nomatch h
  · exact Except.ok.inj h

theorem perform_store (h : session.Undisturbed) (call : StoreCall) :
    session.perform (.store call) =
      (.ok (Store.perform call session.world.store).1,
        session.withStore call.key (Store.perform call session.world.store).2) := by
  obtain ⟨world, updates, disturbances, directoryDown, notifierDown, changes⟩ := session
  cases show disturbances = [] from h
  rfl

theorem perform_findById (user : UserId) :
    session.perform (.findById user) =
      if session.directoryDown then (.error directoryFailure, session) else session.pass (.findById user) :=
  rfl

theorem perform_findByUsername (username : String) :
    session.perform (.findByUsername username) =
      if session.directoryDown then (.error directoryFailure, session)
      else session.pass (.findByUsername username) :=
  rfl

theorem perform_notify (notification : Notification) :
    session.perform (.notify notification) =
      ((), if session.notifierDown then session else (session.pass (.notify notification)).2) := by
  obtain ⟨world, updates, disturbances, directoryDown, notifierDown, changes⟩ := session
  cases notifierDown <;> rfl

/-- The session goes on undisturbed among the same surroundings. -/
def GoesOn (session later : Session) : Prop :=
  later.Undisturbed ∧ later.around = session.around

theorem goesOn_pass (h : session.Undisturbed) (c : Call) : session.GoesOn (session.pass c).2 := by
  refine ⟨h, ?_⟩
  cases c <;> rfl

/-- A call in an undisturbed session is answered as the surroundings have it. -/
theorem replies_perform (h : session.Undisturbed) (c : Call) :
    session.around.Replies c session.scene (session.perform c).1 (session.perform c).2.scene ∧
      session.GoesOn (session.perform c).2 := by
  cases c with
  | store call =>
    rw [perform_store h]
    exact ⟨⟨rfl, rfl⟩, h, rfl⟩
  | findById user =>
    rw [perform_findById]
    split
    · next hdown => exact ⟨⟨(if_pos hdown).symm, rfl⟩, h, rfl⟩
    · next hup => exact ⟨⟨(if_neg hup).symm, rfl⟩, goesOn_pass h _⟩
  | findByUsername username =>
    rw [perform_findByUsername]
    split
    · next hdown => exact ⟨⟨(if_pos hdown).symm, rfl⟩, h, rfl⟩
    · next hup => exact ⟨⟨(if_neg hup).symm, rfl⟩, goesOn_pass h _⟩
  | notify notification =>
    rw [perform_notify]
    split
    · next hdown => exact ⟨(if_neg (by simp [around, hdown])).symm, h, rfl⟩
    · next hup => exact ⟨(if_pos (by simp [around, hup])).symm, goesOn_pass h (.notify notification)⟩
  | freshId => exact ⟨⟨rfl, rfl⟩, goesOn_pass h _⟩
  | now => exact ⟨rfl, goesOn_pass h _⟩
  | cachedName user => exact ⟨rfl, goesOn_pass h _⟩
  | cacheName user name => exact ⟨rfl, goesOn_pass h _⟩
  | forgetName user => exact ⟨rfl, goesOn_pass h _⟩

variable {ε α : Type} {program : Program ε α}

theorem run_call (c : Call) (next : c.Reply → Program ε α) :
    session.run (.call c next) = (session.perform c).2.run (next (session.perform c).1) := rfl

theorem goesOn_run (h : session.Undisturbed) (program : Program ε α) :
    session.GoesOn (session.run program).2 := by
  induction program generalizing session with
  | ended outcome => exact ⟨h, rfl⟩
  | call c next ih =>
    obtain ⟨-, hundisturbed, hsame⟩ := replies_perform h c
    obtain ⟨hlater, hsame'⟩ := ih (session.perform c).1 hundisturbed
    exact ⟨hlater, hsame'.trans hsame⟩

theorem run_of_ensures (result : Result ε α) (h : session.Undisturbed)
    (hensures : program.Ensures session.around result session.scene) :
    result (session.run program).1 (session.run program).2.scene := by
  suffices hrun : ∀ around, session.around = around → program.Ensures around result session.scene →
      result (session.run program).1 (session.run program).2.scene from hrun _ rfl hensures
  clear hensures
  intro around haround hensures
  induction program generalizing session with
  | ended outcome => exact hensures
  | call c next ih =>
    obtain ⟨hreplies, hundisturbed, hsame⟩ := replies_perform h c
    rw [haround] at hreplies
    rw [run_call]
    exact ih _ hundisturbed (hsame.trans haround) (hensures _ _ hreplies)

end Session

end SharedTodo
