import SharedTodo.Update
import SharedTodo.World

/-!
# Updates among others

Others may write any documents between two calls of an update, and a conditional write may be refused although
the document is what it was. Whatever they do is a function of the number of calls so far, so a pattern of
writes that is made up while the update runs is one of them (`Interference`).

`Retries` describes all runs of an update, one constructor for each way in which an attempt can go: the
computation fails, leaves the value as it is, has its result written, or has it refused, and then the rest is a
run with one attempt less. What an update may do is shown of these runs, by induction over the attempts
(`Interference.update_bounded`).

A program keeps no record of its computations, which are no calls. `consulting` is the same program with such a
record, and `consulting_update` says that it is the same.
-/

namespace SharedTodo

variable {ε α : Type}

/-! ## Computations on record -/

section

variable [OfStorage ε]

/-- An update with some attempts left, with the values that it has computed from. -/
def consultingWithin (key : String) (limit : Nat)
    (compute : Option String → Except ε (Option String × α)) :
    Nat → List (Option String) → Program ε (Except ε α × List (Option String))
  | 0, seen => pure (.error (ofStorage (.retriesExhausted key (attempts limit))), seen)
  | left + 1, seen => do
    let current ← Program.get key
    match compute current with
    | .error failure => pure (.error failure, seen ++ [current])
    | .ok (next, outcome) =>
      if next = current then pure (.ok outcome, seen ++ [current])
      else if ← Program.compareAndSet key current next then pure (.ok outcome, seen ++ [current])
      else consultingWithin key limit compute left (seen ++ [current])

def consulting (key : String) (limit : Nat)
    (compute : Option String → Except ε (Option String × α)) :
    Program ε (Except ε α × List (Option String)) :=
  consultingWithin key limit compute (attempts limit) []

theorem consultingWithin_updateWithin (key : String) (limit : Nat)
    (compute : Option String → Except ε (Option String × α)) (left : Nat) (seen : List (Option String)) :
    (consultingWithin key limit compute left seen >>= fun result => Program.ofExcept result.1) =
      updateWithin key limit compute left := by
  induction left generalizing seen with
  | zero => rfl
  | succ left ih =>
    rw [consultingWithin, updateWithin, Program.bind_assoc]
    congr 1
    funext current
    cases compute current with
    | error failure => rfl
    | ok result =>
      obtain ⟨next, outcome⟩ := result
      show ((if next = current then _ else _) >>= _) = if next = current then _ else _
      split
      · rfl
      · rw [Program.bind_assoc]
        congr 1
        funext written
        cases written with
        | false => exact ih _
        | true => rfl

theorem consulting_update (key : String) (limit : Nat)
    (compute : Option String → Except ε (Option String × α)) :
    (consulting key limit compute >>= fun result => Program.ofExcept result.1) = update key limit compute :=
  consultingWithin_updateWithin key limit compute (attempts limit) []

end

/-! ## Accesses among others -/

/-- A call to the store with its answer, the store that it met, and the store that it left. -/
structure Access where
  call : StoreCall
  met : Store
  answer : call.Answer
  left : Store

namespace Access

def read (key : String) (met : Store) : Access :=
  ⟨.get key, met, met.find? key, met⟩

/-- A conditional write that was carried out. -/
def written (key : String) (seen new : Option String) (met : Store) : Access :=
  ⟨.compareAndSet key seen new, met, true, met.assign key new⟩

/-- A conditional write that was not. -/
def refused (key : String) (seen new : Option String) (met : Store) : Access :=
  ⟨.compareAndSet key seen new, met, false, met⟩

/-- What a call that reads was answered with. -/
def value? : Access → Option (Option String)
  | ⟨.get _, _, answer, _⟩ => some answer
  | _ => none

def writes : Access → Bool
  | ⟨.get _, _, _, _⟩ => false
  | ⟨.set _ _, _, _, _⟩ => true
  | ⟨.delete _, _, _, _⟩ => true
  | ⟨.compareAndSet _ _ _, _, answer, _⟩ => answer

def isRefused : Access → Bool
  | ⟨.compareAndSet _ _ _, _, answer, _⟩ => !answer
  | _ => false

section

variable (key : String) (seen new : Option String) (met : Store)

-- no definitional equations: what a side condition asks for has to be rewritten, not unfolded

@[simp] theorem value?_read : (read key met).value? = some (met.find? key) := (rfl)

@[simp] theorem value?_written : (written key seen new met).value? = none := (rfl)

@[simp] theorem value?_refused : (refused key seen new met).value? = none := (rfl)

@[simp] theorem writes_read : (read key met).writes = false := (rfl)

@[simp] theorem writes_written : (written key seen new met).writes = true := (rfl)

@[simp] theorem writes_refused : (refused key seen new met).writes = false := (rfl)

@[simp] theorem isRefused_read : (read key met).isRefused = false := (rfl)

@[simp] theorem isRefused_written : (written key seen new met).isRefused = false := (rfl)

@[simp] theorem isRefused_refused : (refused key seen new met).isRefused = true := (rfl)

end

/-- All other documents are what they were before the call. -/
def KeepsOthers (key : String) (access : Access) : Prop :=
  ∀ other, other ≠ key → access.left.find? other = access.met.find? other

theorem keepsOthers_read (key : String) (met : Store) : (read key met).KeepsOthers key :=
  fun _ _ => rfl

theorem keepsOthers_written (key : String) (seen new : Option String) (met : Store) :
    (written key seen new met).KeepsOthers key :=
  fun other h => (met.find?_assign key other new).trans (if_neg h)

theorem keepsOthers_refused (key : String) (seen new : Option String) (met : Store) :
    (refused key seen new met).KeepsOthers key :=
  fun _ _ => rfl

end Access

/-- What others do while an update runs. -/
structure Interference where
  /-- What they make of the store before a call, by the number of calls so far. -/
  rewrites : Nat → Store → Store
  /-- Whether a conditional write is refused for no reason. -/
  refuses : Nat → Bool

/-- A world, and the accesses to its store that have been made. -/
structure Accessed where
  world : World
  made : List Access

namespace Accessed

def after (state : Accessed) (access : Access) : Accessed :=
  ⟨{ state.world with store := access.left }, state.made ++ [access]⟩

end Accessed

namespace Interference

/-- The store that the next call meets. -/
def met (others : Interference) (state : Accessed) : Store :=
  others.rewrites state.made.length state.world.store

def answer (others : Interference) (made : Nat) : (call : StoreCall) → Store → call.Answer × Store
  | .compareAndSet key expected new, store =>
    if others.refuses made then (false, store) else Store.perform (.compareAndSet key expected new) store
  | call, store => Store.perform call store

def perform (others : Interference) : (c : Call) → Accessed → c.Reply × Accessed
  | .store call, state =>
    let (answer, left) := others.answer state.made.length call (others.met state)
    (.ok answer, state.after ⟨call, others.met state, answer, left⟩)
  | c, state =>
    let (reply, world) := state.world.perform c
    (reply, { state with world })

def run {ε α : Type} (others : Interference) (program : Program ε α) (state : Accessed) :
    Outcome ε α × Accessed :=
  program.run others.perform state

section

variable [OfStorage ε] {β : Type} {others : Interference} {state : Accessed} {key : String} {seen new : Option String}

theorem run_get_bind (next : Option String → Program ε β) :
    others.run (Program.get key >>= next) state =
      others.run (next ((others.met state).find? key)) (state.after (.read key (others.met state))) := rfl

theorem run_compareAndSet_bind {granted : Bool} {left : Store} (next : Bool → Program ε β)
    (h : others.answer state.made.length (.compareAndSet key seen new) (others.met state) = (granted, left)) :
    others.run (Program.compareAndSet key seen new >>= next) state =
      others.run (next granted) (state.after ⟨.compareAndSet key seen new, others.met state, granted, left⟩) :=
  congrArg (fun answered : Bool × Store => others.run (next answered.1)
    (state.after ⟨.compareAndSet key seen new, others.met state, answered.1, answered.2⟩)) h

/-- A conditional write is carried out when nobody refuses it and the document is the expected one. -/
theorem run_compareAndSet_written (next : Bool → Program ε β)
    (haccepted : others.refuses state.made.length = false) (hseen : (others.met state).find? key = seen) :
    others.run (Program.compareAndSet key seen new >>= next) state =
      others.run (next true) (state.after (.written key seen new (others.met state))) := by
  refine run_compareAndSet_bind next ?_
  rw [answer, if_neg (haccepted ▸ nofun), Store.perform, if_pos hseen]
  rfl

theorem run_compareAndSet_refused (next : Bool → Program ε β)
    (h : others.refuses state.made.length = true ∨ (others.met state).find? key ≠ seen) :
    others.run (Program.compareAndSet key seen new >>= next) state =
      others.run (next false) (state.after (.refused key seen new (others.met state))) := by
  refine run_compareAndSet_bind next ?_
  rw [answer]
  split
  · rfl
  · next haccepted =>
    rw [Store.perform, if_neg (h.resolve_left haccepted)]
    rfl

end

end Interference

/-! ## All runs -/

section

variable {others : Interference} {key : String}
  {compute : Option String → Except ε (Option String × α)} {exhausted : ε} {number left : Nat}
  {outcome : Except ε α} {consulted : List (Option String)} {made : List Access}

/-- The rest of an update from the attempt of this number on, with so many attempts left: its outcome, the
values that it computes from, and its accesses to the store. -/
inductive Retries (others : Interference) (key : String)
    (compute : Option String → Except ε (Option String × α)) (exhausted : ε) :
    Nat → Nat → Except ε α → List (Option String) → List Access → Prop where
  | exhausted (number : Nat) : Retries others key compute exhausted number 0 (.error exhausted) [] []
  | failed (number left : Nat) (met : Store) {failure : ε} (computed : compute (met.find? key) = .error failure) :
    Retries others key compute exhausted number (left + 1) (.error failure) [met.find? key] [.read key met]
  | kept (number left : Nat) (met : Store) {value : α}
      (computed : compute (met.find? key) = .ok (met.find? key, value)) :
    Retries others key compute exhausted number (left + 1) (.ok value) [met.find? key] [.read key met]
  | written {number : Nat} (left : Nat) {met met' : Store} {new : Option String} {value : α}
      (computed : compute (met.find? key) = .ok (new, value)) (other : new ≠ met.find? key)
      (meets : met' = others.rewrites (2 * number + 1) met)
      (accepted : others.refuses (2 * number + 1) = false) (same : met'.find? key = met.find? key) :
    Retries others key compute exhausted number (left + 1) (.ok value) [met.find? key]
      [.read key met, .written key (met.find? key) new met']
  | refused {number left : Nat} {met met' : Store} {new : Option String} {value : α} {outcome : Except ε α}
      {consulted : List (Option String)} {made : List Access}
      (computed : compute (met.find? key) = .ok (new, value)) (other : new ≠ met.find? key)
      (meets : met' = others.rewrites (2 * number + 1) met)
      (conflict : others.refuses (2 * number + 1) = true ∨ met'.find? key ≠ met.find? key)
      (later : Retries others key compute exhausted (number + 1) left outcome consulted made) :
    Retries others key compute exhausted number (left + 1) outcome (met.find? key :: consulted)
      (.read key met :: .refused key (met.find? key) new met' :: made)

theorem Retries.length_consulted (h : Retries others key compute exhausted number left outcome consulted made) :
    consulted.length ≤ left := by
  induction h with
  | exhausted number => exact Nat.le_refl _
  | failed number left met computed => simp
  | kept number left met computed => simp
  | written left computed other meets accepted same => simp
  | refused computed other meets conflict later ih => simpa using ih

/-- An update computes from what it has read, and from nothing else. -/
theorem Retries.consulted_eq (h : Retries others key compute exhausted number left outcome consulted made) :
    consulted = made.filterMap Access.value? := by
  induction h with
  | exhausted number => rfl
  | failed number left met computed => simp
  | kept number left met computed => simp
  | written left computed other meets accepted same => simp
  | refused computed other meets conflict later ih => simpa using ih

theorem Retries.keepsOthers (h : Retries others key compute exhausted number left outcome consulted made) :
    ∀ access ∈ made, access.KeepsOthers key := by
  induction h with
  | exhausted number => exact nofun
  | failed number left met computed => simp [Access.keepsOthers_read]
  | kept number left met computed => simp [Access.keepsOthers_read]
  | written left computed other meets accepted same =>
    simp [Access.keepsOthers_read, Access.keepsOthers_written]
  | refused computed other meets conflict later ih =>
    simpa [Access.keepsOthers_read, Access.keepsOthers_refused] using ih

theorem Retries.length_writes (h : Retries others key compute exhausted number left outcome consulted made) :
    (made.filter Access.writes).length ≤ 1 := by
  induction h with
  | exhausted number => simp
  | failed number left met computed => simp
  | kept number left met computed => simp
  | written left computed other meets accepted same => simp
  | refused computed other meets conflict later ih => simpa using ih

/-- A value comes from the last computation. What that has made of what it was given is the same, or it has been
written in its place. -/
theorem Retries.of_ok {value : α}
    (h : Retries others key compute exhausted number left (.ok value) consulted made) :
    ∃ seen new, consulted.getLast? = some seen ∧ compute seen = .ok (new, value) ∧
      ((new = seen ∧ made.filter Access.writes = []) ∨
        (new ≠ seen ∧ ∃ met, met.find? key = seen ∧
          made.filter Access.writes = [.written key seen new met])) := by
  generalize hvalue : Except.ok value = outcome at h
  induction h with
  | exhausted number => exact nomatch hvalue
  | failed number left met computed => exact nomatch hvalue
  | kept number left met computed =>
    cases hvalue
    exact ⟨_, _, rfl, computed, .inl ⟨rfl, by simp⟩⟩
  | @written number left met met' new value computed other meets accepted same =>
    cases hvalue
    exact ⟨_, _, rfl, computed, .inr ⟨other, met', same, by simp⟩⟩
  | refused computed other meets conflict later ih =>
    obtain ⟨seen, new, hlast, hcomputed, hwrites⟩ := ih hvalue
    refine ⟨seen, new, ?_, hcomputed, ?_⟩
    · rw [List.getLast?_cons, hlast]
      rfl
    · simpa using hwrites

/-- A computation that fails is the last one, made after the last call, and nothing has been written. -/
theorem Retries.of_failed {earlier later : List (Option String)} {seen : Option String} {failure : ε}
    (h : Retries others key compute exhausted number left outcome consulted made)
    (hconsulted : consulted = earlier ++ seen :: later) (hfailed : compute seen = .error failure) :
    outcome = .error failure ∧ later = [] ∧ (∃ met, made.getLast? = some (.read key met)) ∧
      made.filter Access.writes = [] := by
  induction h generalizing earlier with
  | exhausted number => exact absurd hconsulted (by simp)
  | failed number left met computed =>
    obtain ⟨rfl, rfl, rfl⟩ : earlier = [] ∧ seen = met.find? key ∧ later = [] := by
      simpa [List.singleton_eq_append_iff] using hconsulted
    cases computed.symm.trans hfailed
    exact ⟨rfl, rfl, ⟨met, rfl⟩, by simp⟩
  | kept number left met computed =>
    obtain ⟨rfl, rfl, rfl⟩ : earlier = [] ∧ seen = met.find? key ∧ later = [] := by
      simpa [List.singleton_eq_append_iff] using hconsulted
    cases computed.symm.trans hfailed
  | @written number left met met' new value computed other meets accepted same =>
    obtain ⟨rfl, rfl, rfl⟩ : earlier = [] ∧ seen = met.find? key ∧ later = [] := by
      simpa [List.singleton_eq_append_iff] using hconsulted
    cases computed.symm.trans hfailed
  | refused computed other meets conflict rest ih =>
    cases earlier with
    | nil =>
      cases (List.cons.inj hconsulted).1
      cases computed.symm.trans hfailed
    | cons first earlier =>
      obtain ⟨houtcome, hlater, ⟨met, hlast⟩, hwrites⟩ := ih (List.cons.inj hconsulted).2
      refine ⟨houtcome, hlater, ⟨met, ?_⟩, by simpa using hwrites⟩
      rw [List.getLast?_cons, List.getLast?_cons, hlast]
      rfl

/-- The computation asks for another value. -/
def AsksForChange (compute : Option String → Except ε (Option String × α)) (seen : Option String) : Prop :=
  ∃ new value, compute seen = .ok (new, value) ∧ new ≠ seen

/-- The last failure is that of a computation, or there was a conflict in all of the attempts. -/
theorem Retries.exhausted_iff
    (h : Retries others key compute exhausted number left outcome consulted made) :
    outcome = .error exhausted ↔
      (∃ seen ∈ consulted, compute seen = .error exhausted) ∨
        (consulted.length = left ∧ (∀ seen ∈ consulted, AsksForChange compute seen) ∧
          made.countP Access.isRefused = left) := by
  induction h with
  | exhausted number => simp
  | failed number left met computed =>
    simp [AsksForChange, computed]
  | kept number left met computed =>
    simp [AsksForChange, computed]
  | written left computed other meets accepted same =>
    simp [AsksForChange, computed]
  | @refused number left met met' new value outcome consulted made computed other meets conflict later ih =>
    have hchanges : AsksForChange compute (met.find? key) := ⟨new, value, computed, other⟩
    rw [ih]
    simp [computed, hchanges]

/-! ## Conflicts -/

/-- In the attempt of this number somebody else writes between the two calls, or the write is refused for no
reason. -/
def Interference.Conflicts (others : Interference) (key : String) (number : Nat) : Prop :=
  others.refuses (2 * number + 1) = true ∨
    ∀ store : Store, (others.rewrites (2 * number + 1) store).find? key ≠ store.find? key

/-- In the attempt of this number nobody writes the document between the two calls. -/
def Interference.Spares (others : Interference) (key : String) (number : Nat) : Prop :=
  others.refuses (2 * number + 1) = false ∧
    ∀ store : Store, (others.rewrites (2 * number + 1) store).find? key = store.find? key

/-- A number of conflicts, and none after them: there must be an attempt left, if each of the computations that
are made asks for a change. -/
theorem Retries.ok_iff_of_conflicts {conflicts : Nat}
    (h : Retries others key compute exhausted number left outcome consulted made)
    (hconflicts : ∀ n < conflicts, others.Conflicts key n) (hspares : ∀ n, conflicts ≤ n → others.Spares key n)
    (hchanges : ∀ seen ∈ consulted, AsksForChange compute seen) (hnumber : number ≤ conflicts) :
    (∃ value, outcome = .ok value) ↔ conflicts < number + left := by
  induction h with
  | exhausted number => exact iff_of_false nofun (by omega)
  | failed number left met computed =>
    obtain ⟨new, value, hcomputed, -⟩ := hchanges (met.find? key) List.mem_cons_self
    exact nomatch computed.symm.trans hcomputed
  | kept number left met computed =>
    obtain ⟨new, value, hcomputed, hother⟩ := hchanges (met.find? key) List.mem_cons_self
    cases computed.symm.trans hcomputed
    exact absurd rfl hother
  | @written number left met met' new value computed other meets accepted same =>
    have hlast : conflicts ≤ number := by
      refine Nat.le_of_not_lt fun hbefore => ?_
      rcases hconflicts number hbefore with hrefused | hwritten
      · exact absurd (accepted.symm.trans hrefused) nofun
      · exact hwritten met (meets ▸ same)
    exact iff_of_true ⟨value, rfl⟩ (by omega)
  | @refused number left met met' new value outcome consulted made computed other meets conflict later ih =>
    have hbefore : number < conflicts := by
      refine Nat.lt_of_not_le fun hlast => ?_
      obtain ⟨haccepted, hsame⟩ := hspares number hlast
      rcases conflict with hrefused | hwritten
      · exact absurd (haccepted.symm.trans hrefused) nofun
      · exact hwritten (meets ▸ hsame met)
    rw [ih (fun seen hseen => hchanges seen (List.mem_cons_of_mem _ hseen)) hbefore]
    omega

end

/-! ## The update -/

section

variable [OfStorage ε]

/-- A run of what is left of an update, after two calls for each of the attempts before. -/
theorem retries_consultingWithin (others : Interference) (key : String) (limit : Nat)
    (compute : Option String → Except ε (Option String × α)) (left number : Nat)
    (seen : List (Option String)) (state : Accessed) (hmade : state.made.length = 2 * number) :
    ∃ outcome consulted made after,
      others.run (consultingWithin key limit compute left seen) state = (.ok (outcome, seen ++ consulted), after) ∧
        after.made = state.made ++ made ∧
        Retries others key compute (ofStorage (.retriesExhausted key (attempts limit))) number left outcome
          consulted made := by
  induction left generalizing number seen state with
  | zero => exact ⟨_, [], [], state, by rw [List.append_nil]; rfl, (List.append_nil _).symm, .exhausted number⟩
  | succ left ih =>
    let met := others.met state
    let reading := state.after (.read key met)
    have hreading : reading.made.length = 2 * number + 1 := by
      show (state.made ++ [_]).length = _
      rw [List.length_append, hmade]
      rfl
    rw [consultingWithin, Interference.run_get_bind]
    cases hcompute : compute (met.find? key) with
    | error failure =>
      refine ⟨_, [met.find? key], [.read key met], reading, ?_, rfl, .failed number left met hcompute⟩
      rfl
    | ok result =>
      obtain ⟨new, value⟩ := result
      show ∃ outcome consulted made after, others.run (if new = met.find? key then _ else _) reading = _ ∧ _
      split
      · next hsame =>
        subst hsame
        exact ⟨_, [met.find? key], [.read key met], reading, rfl, rfl, .kept number left met hcompute⟩
      · next hother =>
        have hmeets : others.met reading = others.rewrites (2 * number + 1) met := by
          rw [Interference.met, hreading]
          rfl
        by_cases hconflict : others.refuses (2 * number + 1) = true ∨
            (others.met reading).find? key ≠ met.find? key
        · rw [Interference.run_compareAndSet_refused _ (hreading.symm ▸ hconflict)]
          let refused := reading.after (.refused key (met.find? key) new (others.met reading))
          have hrefused : refused.made.length = 2 * (number + 1) := by
            show (reading.made ++ [_]).length = _
            rw [List.length_append, hreading]
            rfl
          obtain ⟨outcome, consulted, made, after, hrun, hafter, hlater⟩ :=
            ih (number + 1) (seen ++ [met.find? key]) refused hrefused
          refine ⟨outcome, met.find? key :: consulted, _, after, ?_, ?_,
            .refused hcompute hother hmeets hconflict hlater⟩
          · rw [show seen ++ met.find? key :: consulted = _ from List.append_cons ..]
            exact hrun
          · rw [hafter]
            show state.made ++ [_] ++ [_] ++ made = _
            simp only [List.append_assoc, List.cons_append, List.nil_append]
        · rw [not_or, Bool.not_eq_true, Classical.not_not] at hconflict
          obtain ⟨haccepted, hsame⟩ := hconflict
          rw [Interference.run_compareAndSet_written _ (hreading.symm ▸ haccepted) hsame]
          refine ⟨_, [met.find? key], _, _, rfl, ?_, .written left hcompute hother hmeets haccepted hsame⟩
          show state.made ++ [_] ++ [_] = _
          rw [List.append_assoc]
          rfl

/-- What an update may do, whatever others do in the meantime: its outcome, the values that it computes from, and
its accesses to the store. -/
structure BoundedUpdate (others : Interference) (key : String) (limit : Nat)
    (compute : Option String → Except ε (Option String × α)) (outcome : Except ε α)
    (consulted : List (Option String)) (made : List Access) : Prop where
  /-- It computes a limited number of times, each time from what it has just read. -/
  length_consulted : consulted.length ≤ max limit 1
  consulted_eq : consulted = made.filterMap Access.value?
  /-- It writes its document once at most, and no other document. -/
  keepsOthers : ∀ access ∈ made, access.KeepsOthers key
  length_writes : (made.filter Access.writes).length ≤ 1
  ok : ∀ value, outcome = .ok value → ∃ seen new, consulted.getLast? = some seen ∧
    compute seen = .ok (new, value) ∧
      ((new = seen ∧ made.filter Access.writes = []) ∨
        (new ≠ seen ∧ ∃ met, met.find? key = seen ∧ made.filter Access.writes = [.written key seen new met]))
  /-- A computation that fails is the last one, made after the last call. -/
  failed : ∀ earlier seen later failure, consulted = earlier ++ seen :: later → compute seen = .error failure →
    outcome = .error failure ∧ later = [] ∧ (∃ met, made.getLast? = some (.read key met)) ∧
      made.filter Access.writes = []
  exhausted : outcome = .error (ofStorage (.retriesExhausted key (max limit 1))) ↔
    (∃ seen ∈ consulted, compute seen = .error (ofStorage (.retriesExhausted key (max limit 1)))) ∨
      (consulted.length = max limit 1 ∧ (∀ seen ∈ consulted, AsksForChange compute seen) ∧
        made.countP Access.isRefused = max limit 1)
  conflicts : ∀ conflicts, (∀ n < conflicts, others.Conflicts key n) →
    (∀ n, conflicts ≤ n → others.Spares key n) → (∀ seen ∈ consulted, AsksForChange compute seen) →
      ((∃ value, outcome = .ok value) ↔ conflicts < max limit 1)

/-- An update comes to its end within its attempts, and it has written nothing or it has written once, what it
has computed from the document that its write has met. -/
theorem Interference.update_bounded (others : Interference) (key : String) (limit : Nat)
    (compute : Option String → Except ε (Option String × α)) (world : World) :
    ∃ outcome consulted after,
      others.run (consulting key limit compute) ⟨world, []⟩ = (.ok (outcome, consulted), after) ∧
        others.run (update key limit compute) ⟨world, []⟩ = (.ofExcept outcome, after) ∧
          BoundedUpdate others key limit compute outcome consulted after.made := by
  obtain ⟨outcome, consulted, made, after, hrun, hmade, hretries⟩ :=
    retries_consultingWithin others key limit compute (attempts limit) 0 [] ⟨world, []⟩ rfl
  refine ⟨outcome, consulted, after, hrun, ?_, ?_⟩
  · rw [← consulting_update, run, Program.run_bind]
    rw [show Program.run others.perform (consulting key limit compute) _ = _ from hrun]
    rfl
  · rw [hmade, List.nil_append]
    refine
      { length_consulted := hretries.length_consulted
        consulted_eq := hretries.consulted_eq
        keepsOthers := hretries.keepsOthers
        length_writes := hretries.length_writes
        ok := ?_
        failed := fun _ _ _ _ => hretries.of_failed
        exhausted := hretries.exhausted_iff
        conflicts := fun conflicts hconflicts hspares hchanges => ?_ }
    · rintro value rfl
      exact hretries.of_ok
    · have hok := hretries.ok_iff_of_conflicts hconflicts hspares hchanges (Nat.zero_le conflicts)
      rwa [Nat.zero_add] at hok

end

end SharedTodo
