import SharedTodo.Proofs.Program.Ensures

/-!
# Programs among competitors

Where others write as well, a conditional write may come too late and be refused, any one and any number of
them. `Program.Weathers` says that the end of a program is as wanted, whichever of its conditional writes are
refused; in everything else it is `Program.Ensures`. A program without conditional writes has no more to fear
than when it is alone (`weathers_of_ensures`), and an optimistic update does what it would do alone, or it
gives up and has done nothing (`weathers_update`). A session in which an arbitrary pattern of conditional
writes is refused is such a run (`Contested.run_of_weathers`).
-/

namespace SharedTodo

/-- The reply is the refusal of a conditional write. -/
def Call.Refuses : (c : Call) → c.Reply → Prop
  | .store (.compareAndSet _ _ _), reply => reply = (Except.ok false : Except StoreFailure Bool)
  | _, _ => False

namespace Program

def Weathers {ε α : Type} (around : Surroundings) : Program ε α → Result ε α → Scene → Prop
  | ended outcome, result, s => result outcome s
  | call c next, result, s =>
    (∀ reply s', around.Replies c s reply s' → (next reply).Weathers around result s') ∧
      ∀ reply, c.Refuses reply → (next reply).Weathers around result s

section

variable {ε δ α β : Type} {around : Surroundings} {s : Scene}

/-! ## Composition -/

variable (around) in
/-- The result of the first of two programs: where it gives a value, the second one weathers the rest. -/
def onward (next : α → Program ε β) (result : Result ε β) : Result ε α
  | .ok value, s => (next value).Weathers around result s
  | .error failure, s => result (.error failure) s
  | .unfinished, s => result .unfinished s

theorem weathers_bind {program : Program ε α} {next : α → Program ε β} {result : Result ε β}
    (h : program.Weathers around (onward around next result) s) :
    (program >>= next).Weathers around result s := by
  induction program generalizing s with
  | ended outcome => cases outcome <;> exact h
  | call c rest ih =>
    exact ⟨fun reply s' hreplies => ih reply (h.1 reply s' hreplies),
      fun reply hrefuses => ih reply (h.2 reply hrefuses)⟩

theorem weathers_attempt {program : Program ε α} {result : Result δ (Except ε α)}
    (h : program.Weathers around (attempted result) s) :
    (program.attempt : Program δ (Except ε α)).Weathers around result s := by
  induction program generalizing s with
  | ended outcome => cases outcome <;> exact h
  | call c rest ih =>
    exact ⟨fun reply s' hreplies => ih reply (h.1 reply s' hreplies),
      fun reply hrefuses => ih reply (h.2 reply hrefuses)⟩

/-! ## Programs without conditional writes -/

/-- Nothing that the program does can be refused. -/
def Certain : Program ε α → Prop
  | ended _ => True
  | call c next => (∀ reply, ¬ c.Refuses reply) ∧ ∀ reply, (next reply).Certain

theorem certain_ended (outcome : Outcome ε α) : (ended outcome).Certain :=
  trivial

theorem certain_perform {c : Call} (h : ∀ reply, ¬ c.Refuses reply) :
    (perform c : Program ε c.Reply).Certain :=
  ⟨h, fun _ => trivial⟩

theorem Certain.bind {program : Program ε α} {next : α → Program ε β} (h : program.Certain)
    (hnext : ∀ value, (next value).Certain) : (program >>= next).Certain := by
  induction program with
  | ended outcome =>
    cases outcome with
    | ok value => exact hnext value
    | error failure => trivial
    | unfinished => trivial
  | call c rest ih => exact ⟨h.1, fun reply => ih reply (h.2 reply)⟩

theorem certain_freshId : (freshId : Program ε IssueId).Certain :=
  certain_perform fun _ hrefuses => hrefuses

theorem certain_now : (now : Program ε Time.Instant).Certain :=
  certain_perform fun _ hrefuses => hrefuses

theorem certain_forget (user : UserId) : (Naming.forget user : Program ε Unit).Certain :=
  certain_perform fun _ hrefuses => hrefuses

section

variable [OfStorage ε]

theorem certain_findById (user : UserId) : (findById user : Program ε (Option Profile)).Certain := by
  refine (certain_perform (c := .findById user) fun _ hrefuses => hrefuses).bind fun reply => ?_
  cases reply <;> trivial

theorem certain_storeCall {call : StoreCall} (h : ∀ reply, ¬ Call.Refuses (.store call) reply) :
    (storeCall call : Program ε call.Answer).Certain := by
  refine (certain_perform h).bind fun reply => ?_
  cases reply <;> trivial

theorem certain_get (key : String) : (get key : Program ε (Option String)).Certain :=
  certain_storeCall fun _ hrefuses => hrefuses

theorem certain_set (key value : String) : (set key value : Program ε Unit).Certain :=
  certain_storeCall fun _ hrefuses => hrefuses

theorem certain_delete (key : String) : (delete key : Program ε Unit).Certain :=
  certain_storeCall fun _ hrefuses => hrefuses

end

theorem weathers_of_ensures {program : Program ε α} {result : Result ε α} (hcertain : program.Certain)
    (h : program.Ensures around result s) : program.Weathers around result s := by
  induction program generalizing s with
  | ended outcome => exact h
  | call c next ih =>
    exact ⟨fun reply s' hreplies => ih reply (hcertain.2 reply) (h reply s' hreplies),
      fun reply hrefuses => absurd hrefuses (hcertain.1 reply)⟩

/-! ## Updates -/

section

variable [OfStorage ε]

theorem weathers_get {key : String} {result : Result ε (Option String)}
    (h : result (.ok (s.store.find? key)) s) : (get key).Weathers around result s :=
  weathers_of_ensures (certain_get key) (ensures_get h)

/-- A conditional write of what has just been read. -/
theorem weathers_compareAndSet {key : String} {new : Option String} {result : Result ε Bool}
    (hdone : result (.ok true) (s.withStore (s.store.assign key new))) (hrefused : result (.ok false) s) :
    (compareAndSet key (s.store.find? key) new).Weathers around result s := by
  constructor
  · rintro reply s' ⟨rfl, rfl⟩
    simp only [Store.perform, if_pos]
    exact hdone
  · rintro reply rfl
    exact hrefused

/-- An update is decided as if nobody else were there, in one of its attempts, or it is given up. -/
theorem weathers_update {key : String} {limit : Nat} {compute : Option String → Except ε (Option String × α)}
    {result : Result ε α}
    (hfailed : ∀ failure, compute (s.store.find? key) = .error failure → result (.error failure) s)
    (hgaveUp : result (.error (ofStorage (.retriesExhausted key (attempts limit)))) s)
    (hdone : ∀ new outcome, compute (s.store.find? key) = .ok (new, outcome) →
      result (.ok outcome) (s.withStore (s.store.rewrite key new))) :
    (update key limit compute).Weathers around result s := by
  rw [update]
  induction attempts limit with
  | zero => exact hgaveUp
  | succ left ih =>
    refine weathers_bind (weathers_get (weathers_bind ?_))
    cases hcompute : compute (s.store.find? key) with
    | error failure => exact hfailed failure hcompute
    | ok computed =>
      obtain ⟨new, outcome⟩ := computed
      have hdone := hdone new outcome hcompute
      show Weathers around (if new = s.store.find? key then _ else _) result s
      rw [Store.rewrite] at hdone
      split
      · next hsame =>
        rw [if_pos hsame] at hdone
        exact hdone
      · next hother =>
        rw [if_neg hother] at hdone
        exact weathers_bind (weathers_compareAndSet hdone ih)

end

end

end Program

/-! ## Sessions -/

/-- A session in which conditional writes come too late, some of them or all. -/
structure Contested where
  session : Session
  /-- Whether the `n`-th conditional write is refused. -/
  refused : Nat → Bool
  /-- How many there have been. -/
  tried : Nat

namespace Contested

def perform : (c : Call) → Contested → c.Reply × Contested
  | .store (.compareAndSet key expected new), contested =>
    let next := { contested with tried := contested.tried + 1 }
    if contested.refused contested.tried then (.ok false, next)
    else
      let (reply, session) := contested.session.perform (.store (.compareAndSet key expected new))
      (reply, { next with session })
  | c, contested =>
    let (reply, session) := contested.session.perform c
    (reply, { contested with session })

def run {ε α : Type} (program : Program ε α) (contested : Contested) : Outcome ε α × Contested :=
  program.run perform contested

variable {contested : Contested} {ε α : Type} {program : Program ε α}

/-- A call is answered as in the session, or it is refused. -/
theorem perform_session (c : Call) (contested : Contested) :
    ((perform c contested).1, (perform c contested).2.session) = contested.session.perform c ∨
      (c.Refuses (perform c contested).1 ∧ (perform c contested).2.session = contested.session) := by
  match c with
  | .store (.compareAndSet key expected new) =>
    rw [perform]
    dsimp only
    split
    · exact .inr ⟨rfl, rfl⟩
    · exact .inl rfl
  | .store (.get _) | .store (.set _ _) | .store (.delete _) | .findById _ | .findByUsername _ | .freshId
  | .now | .cachedName _ | .cacheName _ _ | .forgetName _ | .notify _ => exact .inl rfl

theorem run_of_weathers (result : Result ε α) (h : contested.session.Undisturbed)
    (hweathers : program.Weathers contested.session.around result contested.session.scene) :
    result (contested.run program).1 (contested.run program).2.session.scene := by
  suffices hrun : ∀ around, contested.session.around = around →
      program.Weathers around result contested.session.scene →
        result (contested.run program).1 (contested.run program).2.session.scene from hrun _ rfl hweathers
  clear hweathers
  intro around haround hweathers
  induction program generalizing contested with
  | ended outcome => exact hweathers
  | call c next ih =>
    rw [show contested.run (.call c next) = (perform c contested).2.run (next (perform c contested).1) from rfl]
    rcases perform_session c contested with hanswered | ⟨hrefuses, hsame⟩
    · obtain ⟨hreplies, hundisturbed, hsame⟩ := Session.replies_perform h c
      rw [← hanswered] at hreplies hundisturbed hsame
      rw [haround] at hreplies hsame
      exact ih _ hundisturbed hsame (hweathers.1 _ _ hreplies)
    · rw [← hsame] at h haround hweathers
      exact ih _ h haround (hweathers.2 _ hrefuses)

end Contested

end SharedTodo
