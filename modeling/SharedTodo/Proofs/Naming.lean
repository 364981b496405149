import Mathlib.Data.List.Induction
import SharedTodo.Proofs.Exchange.Listing

/-!
# Names that are remembered

Names are asked for and forgotten, while users come into the directory, get other names and leave it, and while
the directory is down and up again (`Event`). Whatever happens, the cache stays within its capacity, and every
name in it is one that the user has had in the directory since the user was last forgotten (`Named`).

How a name is found has three cases that exclude each other (`Resolution`). The general name comes from the last
one only, and then nothing changes: neither a user whom the directory lacks nor an outage leaves a trace.
-/

namespace SharedTodo

namespace Table

variable {κ ν : Type} [DecidableEq κ]

theorem length_put (key : κ) (value : ν) (entries : List (κ × ν)) :
    (put key value entries).length =
      if (entries.lookup key).isSome then entries.length else entries.length + 1 := by
  induction entries with
  | nil => rfl
  | cons e rest ih =>
    obtain ⟨k, v⟩ := e
    rw [put, lookup_cons_ite]
    by_cases hk : k = key
    · simp [hk]
    · rw [if_neg hk, if_neg (Ne.symm hk), List.length_cons, ih]
      split <;> rfl

theorem size_insert (t : Table κ ν) (key : κ) (value : ν) :
    (t.insert key value).size = if t.contains key then t.size else t.size + 1 :=
  length_put key value t.entries

theorem size_erase_le (t : Table κ ν) (key : κ) : (t.erase key).size ≤ t.size :=
  List.length_filter_le _ _

end Table

namespace NameCache

variable {cache : NameCache} {capacity : Nat}

/-- The capacity is at least one, and there are no more names than that. -/
structure Fits (capacity : Nat) (cache : NameCache) : Prop where
  capacity_eq : cache.capacity = max capacity 1
  size_le : cache.size ≤ max capacity 1

theorem fits_ofCapacity (capacity : Nat) : (ofCapacity capacity).Fits capacity :=
  ⟨rfl, Nat.zero_le _⟩

theorem Fits.remember (h : cache.Fits capacity) (user : UserId) (name : String) :
    (cache.remember user name).Fits capacity := by
  refine ⟨h.capacity_eq, ?_⟩
  have hsize := h.size_le
  rw [size] at hsize
  rw [size, NameCache.remember, h.capacity_eq]
  by_cases hclear : max capacity 1 ≤ cache.names.size ∧ ¬ cache.names.contains user = true
  · rw [if_pos hclear, Table.size_insert]
    exact Nat.le_max_right _ _
  · rw [if_neg hclear, Table.size_insert]
    split
    · exact hsize
    · next hnew => exact Nat.lt_of_not_le fun hfull => hclear ⟨hfull, hnew⟩

theorem Fits.forget (h : cache.Fits capacity) (user : UserId) : (cache.forget user).Fits capacity :=
  ⟨h.capacity_eq, Nat.le_trans (Table.size_erase_le _ _) h.size_le⟩

theorem find?_remember_self (cache : NameCache) (user : UserId) (name : String) :
    (cache.remember user name).find? user = some name := by
  rw [remember, find?, Table.find?_insert, if_pos rfl]

theorem find?_forget (cache : NameCache) (user other : UserId) :
    (cache.forget user).find? other = if other = user then none else cache.find? other :=
  Table.find?_erase _ _ _

end NameCache

namespace Naming

variable {ε : Type} {session later : Session} {user : UserId} {name : String}

/-! ## Finding a name -/

/-- How a name is found, and the session afterwards. -/
inductive Resolution (session : Session) (user : UserId) : String → Session → Prop
  | cached {name : String} (held : session.world.cache.find? user = some name) :
    Resolution session user name session
  | known {profile : Profile} (missing : session.world.cache.find? user = none)
    (found : session.around.byId user = .ok (some profile)) :
    Resolution session user profile.username
      { session with world := { session.world with
          cache := session.world.cache.remember user profile.username } }
  | unknown (missing : session.world.cache.find? user = none)
    (lacking : ∀ profile, session.around.byId user ≠ .ok (some profile)) :
    Resolution session user fallback session

theorem exists_resolution (session : Session) (user : UserId) :
    ∃ name later, session.run (resolve user : Program ε String) = (.ok name, later) ∧
      Resolution session user name later := by
  rw [resolve, Session.run_bind_ok (Session.run_cachedName user)]
  cases hcached : session.world.cache.find? user with
  | some name => exact ⟨name, session, rfl, .cached hcached⟩
  | none =>
    dsimp only
    rw [Session.run_bind_ok (Session.run_findById user)]
    cases hfound : session.around.byId user with
    | error failure => exact ⟨fallback, session, rfl, .unknown hcached (by simp [hfound])⟩
    | ok found =>
      cases found with
      | none => exact ⟨fallback, session, rfl, .unknown hcached (by simp [hfound])⟩
      | some profile => exact ⟨profile.username, _, rfl, .known hcached hfound⟩

/-- The directory has the user, whether it is up or down. -/
theorem find?_of_byId {profile : Profile} (h : session.around.byId user = .ok (some profile)) :
    session.world.directory.find? user = some profile := by
  rw [Session.around] at h
  dsimp only at h
  split at h
  · cases h
  · exact Except.ok.inj h

/-! ## What happens between -/

inductive Event where
  | resolve (user : UserId)
  | forget (user : UserId)
  | register (profile : Profile)
  | unregister (user : UserId)
  /-- The directory goes down, or comes up again. -/
  | outage (down : Bool)

namespace Event

def happen (session : Session) : Event → Session
  | resolve user => (session.run (Naming.resolve user : Program Empty String)).2
  | forget user => (session.run (Naming.forget user : Program Empty Unit)).2
  | register profile =>
    { session with world := { session.world with directory := session.world.directory.register profile } }
  | unregister user =>
    { session with world := { session.world with directory := session.world.directory.erase user } }
  | outage down => { session with directoryDown := down }

end Event

/-- The session after some events. -/
def after (session : Session) (events : List Event) : Session :=
  events.foldl Event.happen session

/-- The user had the name in the directory at some moment since the user was last forgotten. -/
def Named (session : Session) (events : List Event) (user : UserId) (name : String) : Prop :=
  ∃ before since, events = before ++ since ∧ (∀ event ∈ since, event ≠ .forget user) ∧
    ∃ profile, (after session before).world.directory.find? user = some profile ∧ profile.username = name

variable {events : List Event} {event : Event}

theorem after_concat (session : Session) (events : List Event) (event : Event) :
    after session (events ++ [event]) = event.happen (after session events) := by
  rw [after, List.foldl_append]
  rfl

theorem named_now {profile : Profile} (h : (after session events).world.directory.find? user = some profile) :
    Named session events user profile.username :=
  ⟨events, [], (List.append_nil _).symm, nofun, profile, h, rfl⟩

theorem Named.concat (h : Named session events user name) (hkept : event ≠ .forget user) :
    Named session (events ++ [event]) user name := by
  obtain ⟨before, since, rfl, hsince, hfound⟩ := h
  refine ⟨before, since ++ [event], List.append_assoc _ _ _, fun other hother => ?_, hfound⟩
  obtain hother | hother := List.mem_append.1 hother
  · exact hsince other hother
  · rw [List.mem_singleton.1 hother]
    exact hkept

/-! ## What the cache has -/

/-- The cache fits, and its names are those that users have had since they were last forgotten. -/
structure Remembers (capacity : Nat) (session : Session) (events : List Event) : Prop where
  fits : (after session events).world.cache.Fits capacity
  named : ∀ user name, (after session events).world.cache.find? user = some name →
    Named session events user name

variable {capacity : Nat}

theorem remembers_nil (h : session.world.cache = .ofCapacity capacity) : Remembers capacity session [] := by
  have hcache : (after session []).world.cache = .ofCapacity capacity := h
  refine ⟨?_, fun user name hname => ?_⟩
  · rw [hcache]
    exact NameCache.fits_ofCapacity capacity
  · rw [hcache] at hname
    cases hname

/-- What does not touch the cache. -/
theorem Remembers.concat_of_cache (h : Remembers capacity session events)
    (hkept : ∀ user, event ≠ .forget user)
    (hcache : (event.happen (after session events)).world.cache = (after session events).world.cache) :
    Remembers capacity session (events ++ [event]) := by
  have hafter : (after session (events ++ [event])).world.cache = (after session events).world.cache := by
    rw [after_concat, hcache]
  refine ⟨hafter ▸ h.fits, fun user name hname => ?_⟩
  rw [hafter] at hname
  exact (h.named user name hname).concat (hkept user)

theorem Remembers.resolve (h : Remembers capacity session events) (user : UserId) :
    Remembers capacity session (events ++ [.resolve user]) := by
  obtain ⟨name, later, hrun, hresolution⟩ := exists_resolution (ε := Empty) (after session events) user
  have hlater : (Event.resolve user).happen (after session events) = later := congrArg Prod.snd hrun
  cases hresolution with
  | cached held => exact h.concat_of_cache nofun (by rw [hlater])
  | unknown missing lacking => exact h.concat_of_cache nofun (by rw [hlater])
  | @known profile missing found =>
    have hcache : (after session (events ++ [.resolve user])).world.cache =
        (after session events).world.cache.remember user profile.username := by
      rw [after_concat, hlater]
    refine ⟨hcache ▸ h.fits.remember user profile.username, fun other name hname => ?_⟩
    rw [hcache] at hname
    obtain ⟨rfl, rfl⟩ | hheld := NameCache.find?_remember hname
    · exact (named_now (find?_of_byId found)).concat nofun
    · exact (h.named other name hheld).concat nofun

theorem Remembers.forget (h : Remembers capacity session events) (user : UserId) :
    Remembers capacity session (events ++ [.forget user]) := by
  have hcache : (after session (events ++ [.forget user])).world.cache =
      (after session events).world.cache.forget user := by
    rw [after_concat]
    rfl
  refine ⟨hcache ▸ h.fits.forget user, fun other name hname => ?_⟩
  rw [hcache, NameCache.find?_forget] at hname
  split at hname
  · cases hname
  · next hother =>
    refine (h.named other name hname).concat fun hsame => hother ?_
    cases hsame
    rfl

theorem Remembers.concat (h : Remembers capacity session events) (event : Event) :
    Remembers capacity session (events ++ [event]) := by
  cases event with
  | resolve user => exact h.resolve user
  | forget user => exact h.forget user
  | register profile => exact h.concat_of_cache nofun rfl
  | unregister user => exact h.concat_of_cache nofun rfl
  | outage down => exact h.concat_of_cache nofun rfl

theorem remembers (h : session.world.cache = .ofCapacity capacity) (events : List Event) :
    Remembers capacity session events := by
  induction events using List.reverseRecOn with
  | nil => exact remembers_nil h
  | append_singleton events event ih => exact ih.concat event

/-! ## The cache and the directory -/

/-- The directory cannot be asked for the user, or does not have the user, and there is no name in the cache. -/
def Unheard (session : Session) (user : UserId) : Prop :=
  session.world.cache.find? user = none ∧
    (session.directoryDown = true ∨ session.world.directory.find? user = none)

theorem lacking_iff : (∀ profile, session.around.byId user ≠ .ok (some profile)) ↔
    session.directoryDown = true ∨ session.world.directory.find? user = none := by
  rw [Session.around]
  dsimp only
  cases session.directoryDown <;> cases session.world.directory.find? user <;> simp

/-- The cache never outgrows its capacity, and what it has are names that users have had in the directory since
they were last forgotten. So are the names that are found, except the general one, which is given to exactly
those users who are not in the cache and are not found in the directory; then nothing is remembered. A user who
is found in the directory gets the present name, and it is remembered even if the cache has to be cleared. -/
theorem cache_coherent (session : Session) (capacity : Nat) (hnew : session.world.cache = .ofCapacity capacity)
    (events : List Event) :
    let now := after session events
    now.world.cache.size ≤ max capacity 1 ∧
      (∀ user name, now.world.cache.find? user = some name → Named session events user name) ∧
      ∀ user, ∃ name later, now.run (resolve user : Program ε String) = (.ok name, later) ∧
        (Unheard now user → name = fallback ∧ later = now) ∧
        (¬ Unheard now user → Named session events user name) ∧
        ∀ profile, now.world.cache.find? user = none → now.directoryDown = false →
          now.world.directory.find? user = some profile →
            name = profile.username ∧ later.world.cache.find? user = some name := by
  intro now
  have hremembers := remembers hnew events
  refine ⟨hremembers.fits.size_le, hremembers.named, fun user => ?_⟩
  obtain ⟨name, later, hrun, hresolution⟩ := exists_resolution (ε := ε) now user
  refine ⟨name, later, hrun, ?_⟩
  cases hresolution with
  | cached held =>
    refine ⟨fun hunheard => ?_, fun _ => hremembers.named user name held, fun profile hmissing => ?_⟩
    · rw [hunheard.1] at held
      cases held
    · rw [hmissing] at held
      cases held
  | @known profile missing found =>
    refine ⟨fun hunheard => ?_, fun _ => named_now (find?_of_byId found), fun other _ _ hother => ?_⟩
    · exact absurd found (lacking_iff.2 hunheard.2 profile)
    · rw [find?_of_byId found] at hother
      cases hother
      exact ⟨rfl, NameCache.find?_remember_self _ _ _⟩
  | unknown missing lacking =>
    have hunheard : Unheard now user := ⟨missing, lacking_iff.1 lacking⟩
    refine ⟨fun _ => ⟨rfl, rfl⟩, fun hheard => absurd hunheard hheard, fun profile _ hup hfound => ?_⟩
    obtain hdown | hlacking := hunheard.2
    · rw [hup] at hdown
      cases hdown
    · rw [hfound] at hlacking
      cases hlacking

/-- There is room for one name. Amy has been looked up and has left since; ben is looked up next, and amy's name
goes. -/
theorem ben_takes_the_room :
    let session := Session.start 5 1 .epoch
    let now := after session
      [.register ⟨⟨"amy"⟩, "amy"⟩, .resolve ⟨"amy"⟩, .unregister ⟨"amy"⟩, .register ⟨⟨"ben"⟩, "ben"⟩]
    session.world.cache = .ofCapacity 1 ∧ now.world.cache.find? ⟨"amy"⟩ = some "amy" ∧
      ∃ name later, now.run (resolve ⟨"ben"⟩ : Program Empty String) = (.ok name, later) ∧
        name = "ben" ∧ later.world.cache.find? ⟨"ben"⟩ = some "ben" ∧
        later.world.cache.find? ⟨"amy"⟩ = none := by
  intro session now
  have hnew : session.world.cache = .ofCapacity 1 := rfl
  obtain ⟨-, -, hresolve⟩ := cache_coherent (ε := Empty) session 1 hnew
    [.register ⟨⟨"amy"⟩, "amy"⟩, .resolve ⟨"amy"⟩, .unregister ⟨"amy"⟩, .register ⟨⟨"ben"⟩, "ben"⟩]
  obtain ⟨name, later, hrun, -, -, hfound⟩ := hresolve ⟨"ben"⟩
  obtain ⟨rfl, hcached⟩ := hfound ⟨⟨"ben"⟩, "ben"⟩ rfl rfl rfl
  refine ⟨hnew, rfl, _, later, hrun, rfl, hcached, ?_⟩
  rw [show later = _ from (congrArg Prod.snd hrun).symm]
  rfl

end Naming

end SharedTodo
