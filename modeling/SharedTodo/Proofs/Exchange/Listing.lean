import Mathlib.Data.List.Forall2
import SharedTodo.Exchange.Listing
import SharedTodo.Proofs.Exchange.Deletion

/-!
# What a listing shows

A listing has one item for each entry of the list that has a record, in the order of the entries (`rows`). An
item says where the counterpart is, and who holds it, when the link is living, and nothing of it otherwise
(`Shows`).

The lists that have been loaded for earlier entries are those in the store as long as nobody writes in between
(`Loads`). So the run of a listing is the same, step for step in what it leaves, as that of one which loads the
lists of a counterpart user for every entry (`listingAnew`). The only thing that changes is the name cache.
-/

namespace SharedTodo

namespace Store

/-- An entry of a list that has a record. -/
structure Row where
  /-- The place of the entry among all entries of the list. -/
  position : Nat
  entry : Entry
  issue : Issue

/-- The entries that have a record, with their positions counted from some number. -/
def rowsFrom (store : Store) (position : Nat) (entries : List Entry) : List Row :=
  (entries.zipIdx position).filterMap fun (entry, position) =>
    (store.record entry.id).map fun issue => ⟨position, entry, issue⟩

def rows (store : Store) (user : UserId) (kind : ListKind) : List Row :=
  store.rowsFrom 0 ((store.lists user).list kind)

theorem rowsFrom_cons_of_none {store : Store} {entry : Entry} (h : store.record entry.id = none)
    (position : Nat) (rest : List Entry) :
    store.rowsFrom position (entry :: rest) = store.rowsFrom (position + 1) rest := by
  simp [rowsFrom, h]

theorem rowsFrom_cons_of_some {store : Store} {entry : Entry} {issue : Issue}
    (h : store.record entry.id = some issue) (position : Nat) (rest : List Entry) :
    store.rowsFrom position (entry :: rest) =
      ⟨position, entry, issue⟩ :: store.rowsFrom (position + 1) rest := by
  simp [rowsFrom, h]

theorem exists_row {store : Store} {user : UserId} {kind : ListKind} {entry : Entry} {issue : Issue}
    (held : entry ∈ (store.lists user).list kind) (h : store.record entry.id = some issue) :
    ∃ position, (⟨position, entry, issue⟩ : Row) ∈ store.rows user kind := by
  obtain ⟨⟨position, hposition⟩, hentry⟩ := List.get_of_mem held
  refine ⟨position, List.mem_filterMap.2 ⟨(entry, position), ?_, by simp [h]⟩⟩
  rw [List.mem_zipIdx_iff_getElem?, List.getElem?_eq_getElem hposition]
  exact congrArg some hentry

end Store

/-- An entry that is found stands where it is found. -/
theorem UserLists.getElem?_of_find {lists : UserLists} {id : IssueId} {place : Located}
    (h : lists.find id = some place) : (lists.list place.list)[place.position]? = some place.entry := by
  obtain ⟨kind, -, hfound⟩ := List.exists_of_findSome?_eq_some h
  obtain ⟨position, hposition, hentry⟩ := Option.bind_eq_some_iff.1 hfound
  obtain ⟨entry, hfirst, rfl⟩ := Option.map_eq_some_iff.1 hentry
  obtain ⟨hlt, hnames, hearlier⟩ := List.findIdx?_eq_some_iff_getElem.1 hposition
  have hplace : (lists.list kind).find? (names id) = some (lists.list kind)[position] :=
    List.find?_eq_some_iff_getElem.2 ⟨hnames, position, hlt, rfl, fun j hj => by simpa using hearlier j hj⟩
  rw [List.getElem?_eq_getElem hlt, ← hplace, hfirst]

theorem NameCache.find?_remember {cache : NameCache} {user other : UserId} {name found : String}
    (h : (cache.remember user name).find? other = some found) :
    other = user ∧ found = name ∨ cache.find? other = some found := by
  rw [remember, find?, Table.find?_insert] at h
  split at h
  · next hsame => exact .inl ⟨hsame, (Option.some.inj h).symm⟩
  · split at h
    · cases h
    · exact .inr h

namespace Exchange

open Program

/-- Lists the entries from some position on, with the lists of a counterpart user loaded for every entry. -/
def listFromAnew (viewer : UserId) : Nat → List Entry → Operation (List ListedIssue)
  | _, [] => pure []
  | position, entry :: rest => do
    match ← loadIssue entry.id with
    | none => listFromAnew viewer (position + 1) rest
    | some issue =>
      let (item, _) ← listEntry viewer position entry issue .empty
      let items ← listFromAnew viewer (position + 1) rest
      pure (item :: items)

def listingAnew (user : UserId) (kind : ListKind) : Operation (List ListedIssue) := do
  let lists ← loadLists user
  listFromAnew user 0 (lists.list kind)

/-- What has been loaded is what the store has. -/
def Loads (store : Store) (loaded : Loaded) : Prop :=
  ∀ user lists, loaded.find? user = some lists → lists = store.lists user

theorem loads_empty (store : Store) : Loads store .empty :=
  fun _ _ h => by cases h

theorem Loads.insert {store : Store} {loaded : Loaded} (h : Loads store loaded) (user : UserId) :
    Loads store (loaded.insert user (store.lists user)) := by
  intro other lists hfound
  rw [Table.find?_insert] at hfound
  split at hfound
  · next hsame =>
    cases hfound
    rw [hsame]
  · exact h other lists hfound

end Exchange

namespace Session

open Exchange

variable {ε α β : Type} {session later : Session} {user : UserId} {id : IssueId}

/-! ## Names -/

/-- A name for a user: the one in the cache, or in the directory, or the general one for a user whom the
directory does not give. -/
inductive Names (session : Session) (user : UserId) : String → Prop where
  | cached {name : String} (held : session.world.cache.find? user = some name) : Names session user name
  | known {profile : Profile} (found : session.around.byId user = .ok (some profile)) :
    Names session user profile.username
  | unknown (missing : ∀ profile, session.around.byId user ≠ .ok (some profile)) :
    Names session user Naming.fallback

/-- Only the name cache has changed, and it has names that it had before or that are in the directory. -/
structure Renames (session later : Session) : Prop where
  same : later = { session with world := { session.world with cache := later.world.cache } }
  names : ∀ user name, later.world.cache.find? user = some name → session.Names user name

theorem renames_self (session : Session) : session.Renames session :=
  ⟨rfl, fun _ _ => .cached⟩

theorem Renames.store (h : session.Renames later) : later.world.store = session.world.store := by
  rw [h.same]

theorem Renames.undisturbed (h : session.Renames later) (hundisturbed : session.Undisturbed) :
    later.Undisturbed := by
  rw [h.same]
  exact hundisturbed

theorem Renames.around (h : session.Renames later) : later.around = session.around := by
  rw [h.same]
  rfl

theorem run_bind_ok {program : Program ε α} {next : α → Program ε β} {value : α}
    (h : session.run program = (.ok value, later)) : session.run (program >>= next) = later.run (next value) := by
  rw [run, Program.run_bind]
  rw [run] at h
  rw [h]
  rfl

theorem run_performed (c : Call) : session.run (Program.perform c : Program ε c.Reply) =
    (.ok (session.perform c).1, (session.perform c).2) := rfl

theorem run_cachedName (user : UserId) :
    session.run (Program.perform (.cachedName user) : Program ε (Call.cachedName user).Reply) =
      (.ok (session.world.cache.find? user : Option String), session) := rfl

theorem run_findById (user : UserId) :
    session.run (Program.perform (.findById user) : Program ε (Call.findById user).Reply) =
      (.ok (session.around.byId user : Except DirectoryFailure (Option Profile)), session) := by
  rw [run_performed, perform_findById, around]
  dsimp only
  split <;> rfl

theorem Renames.cacheName (h : session.Renames later) {profile : Profile}
    (hfound : session.around.byId user = .ok (some profile)) :
    session.Renames (later.perform (.cacheName user profile.username)).2 := by
  refine ⟨?_, fun other name hname => ?_⟩
  · rw [h.same]
    rfl
  · rcases NameCache.find?_remember hname with ⟨rfl, rfl⟩ | hold
    · exact .known hfound
    · exact h.names other name hold

theorem run_resolve (h : session.Renames later) (user : UserId) :
    ∃ name later', later.run (Naming.resolve user : Operation String) = (.ok name, later') ∧
      session.Names user name ∧ session.Renames later' := by
  rw [Naming.resolve, run_bind_ok (run_cachedName user)]
  cases hcached : later.world.cache.find? user with
  | some name => exact ⟨name, later, rfl, h.names user name hcached, h⟩
  | none =>
    dsimp only
    rw [run_bind_ok (run_findById user), h.around]
    match hfound : session.around.byId user with
    | .ok (some profile) => exact ⟨profile.username, _, rfl, .known hfound, h.cacheName hfound⟩
    | .ok none => exact ⟨Naming.fallback, later, rfl, .unknown (by simp [hfound]), h⟩
    | .error failure => exact ⟨Naming.fallback, later, rfl, .unknown (by simp [hfound]), h⟩

/-! ## Reading -/

theorem withStore_self (session : Session) (key : String) :
    session.withStore key session.world.store = session := by
  rw [withStore, if_pos rfl]

theorem run_get (h : session.Undisturbed) (key : String) :
    session.run (Program.get key : Operation (Option String)) =
      (.ok (session.world.store.find? key), session) := by
  refine (run_bind_ok (run_performed (.store (.get key)))).trans ?_
  rw [perform_store h]
  exact congrArg (Prod.mk _) (session.withStore_self key)

theorem run_loadLists (h : session.Undisturbed) (hreadable : session.world.store.ListsReadable user) :
    session.run (loadLists user) = (.ok (session.world.store.lists user), session) := by
  rw [loadLists, run_bind_ok (run_get h _), hreadable]
  rfl

theorem run_loadIssue (h : session.Undisturbed) (hreadable : session.world.store.RecordReadable id) :
    session.run (loadIssue id) = (.ok (session.world.store.record id), session) := by
  rw [loadIssue, run_bind_ok (run_get h _), Store.record]
  cases hraw : session.world.store.find? (Issue.key id) with
  | none => rfl
  | some raw =>
    obtain ⟨issue, hdecode⟩ := hreadable raw hraw
    dsimp only
    rw [Store.recordOfDocument_of_decode hdecode, Option.bind_some, hdecode]
    rfl

/-- Lists that have been loaded before need not be loaded again. -/
theorem run_loadOnce (h : session.Undisturbed) (hreadable : session.world.store.ListsReadable user)
    {loaded : Loaded} (hloaded : Loads session.world.store loaded) :
    ∃ loaded', Loads session.world.store loaded' ∧
      session.run (loadOnce user loaded) = (.ok (session.world.store.lists user, loaded'), session) := by
  rw [loadOnce]
  cases hfound : loaded.find? user with
  | some lists =>
    obtain rfl := hloaded user lists hfound
    exact ⟨loaded, hloaded, rfl⟩
  | none =>
    refine ⟨_, hloaded.insert user, ?_⟩
    dsimp only
    rw [run_bind_ok (run_loadLists h hreadable)]
    rfl

/-! ## Items -/

/-- An item shows the record and the position of a row, and a living counterpart with its place and a name. -/
inductive Shows (session : Session) (user : UserId) (row : Store.Row) : ListedIssue → Prop where
  | shared {link : Link} {half : Located} {name : String}
      (living : session.world.store.Living user row.entry link half)
      (place : ((session.world.store.lists link.user).list half.list)[half.position]? = some half.entry)
      (named : session.Names link.user name) :
    Shows session user row
      ⟨row.issue, row.position, some half.list, some half.position, some link.user, some name⟩
  | alone (unshared : ∀ link half, ¬ session.world.store.Living user row.entry link half) :
    Shows session user row ⟨row.issue, row.position, none, none, none, none⟩

/-- The item of an entry does not depend on what has been loaded. -/
theorem run_listEntry (hundisturbed : session.Undisturbed) (hreadable : session.world.store.Readable)
    (h : session.Renames later) (user : UserId) (position : Nat) (entry : Entry) (issue : Issue) :
    ∃ item later', session.Shows user ⟨position, entry, issue⟩ item ∧ session.Renames later' ∧
      ∀ loaded, Loads session.world.store loaded → ∃ loaded', Loads session.world.store loaded' ∧
        later.run (listEntry user position entry issue loaded) = (.ok (item, loaded'), later') := by
  have hlater := h.undisturbed hundisturbed
  have hlists (other : UserId) : later.world.store.ListsReadable other := h.store ▸ hreadable.lists other
  simp only [listEntry]
  cases hlink : entry.link with
  | none =>
    refine ⟨.unlinked issue position, later, .alone fun link half hliving => ?_, h,
      fun loaded hloaded => ⟨loaded, hloaded, rfl⟩⟩
    cases hlink.symm.trans hliving.linked
  | some link =>
    have hload (loaded : Loaded) (hloaded : Loads session.world.store loaded) :
        ∃ loaded', Loads session.world.store loaded' ∧
          later.run (loadOnce link.user loaded) =
            (.ok (session.world.store.lists link.user, loaded'), later) := by
      rw [← h.store] at hloaded ⊢
      exact run_loadOnce hlater (hlists link.user) hloaded
    cases hfind : (session.world.store.lists link.user).findLinked link.issue user entry.id with
    | none =>
      refine ⟨.unlinked issue position, later, .alone fun link' half hliving => ?_, h, fun loaded hloaded => ?_⟩
      · cases hlink.symm.trans hliving.linked
        cases hfind.symm.trans ((Store.living_iff hlink).1 hliving)
      · obtain ⟨loaded', hloaded', hrun⟩ := hload loaded hloaded
        refine ⟨loaded', hloaded', ?_⟩
        dsimp only
        rw [run_bind_ok hrun]
        dsimp only
        rw [hfind]
        rfl
    | some half =>
      obtain ⟨name, later', hname, hnames, hrenames⟩ := run_resolve h link.user
      have hliving := (Store.living_iff hlink).2 hfind
      refine ⟨_, later', .shared hliving (UserLists.getElem?_of_find hliving.found) hnames, hrenames,
        fun loaded hloaded => ?_⟩
      obtain ⟨loaded', hloaded', hrun⟩ := hload loaded hloaded
      refine ⟨loaded', hloaded', ?_⟩
      dsimp only
      rw [run_bind_ok hrun]
      dsimp only
      rw [hfind]
      dsimp only
      rw [run_bind_ok hname]
      rfl

/-- One item for each row, whatever has been loaded before. -/
theorem run_listFrom (hundisturbed : session.Undisturbed) (hreadable : session.world.store.Readable)
    (user : UserId) (entries : List Entry) (position : Nat) (h : session.Renames later) :
    ∃ items later', List.Forall₂ (session.Shows user) (session.world.store.rowsFrom position entries) items ∧
      session.Renames later' ∧ later.run (listFromAnew user position entries) = (.ok items, later') ∧
      ∀ loaded, Loads session.world.store loaded →
        later.run (listFrom user position entries loaded) = (.ok items, later') := by
  induction entries generalizing position later with
  | nil => exact ⟨[], later, .nil, h, rfl, fun _ _ => rfl⟩
  | cons entry rest ih =>
    have hrecord : later.run (loadIssue entry.id) = (.ok (session.world.store.record entry.id), later) := by
      rw [← h.store]
      exact run_loadIssue (h.undisturbed hundisturbed) (h.store ▸ hreadable.records entry.id)
    cases hissue : session.world.store.record entry.id with
    | none =>
      rw [hissue] at hrecord
      obtain ⟨items, later', hitems, hrenames, hanew, honce⟩ := ih (position + 1) h
      refine ⟨items, later', ?_, hrenames, ?_, fun loaded hloaded => ?_⟩
      · rwa [Store.rowsFrom_cons_of_none hissue]
      · rw [listFromAnew, run_bind_ok hrecord]
        exact hanew
      · rw [listFrom, run_bind_ok hrecord]
        exact honce loaded hloaded
    | some issue =>
      rw [hissue] at hrecord
      obtain ⟨item, middle, hitem, hmiddle, hentry⟩ :=
        run_listEntry hundisturbed hreadable h user position entry issue
      obtain ⟨items, later', hitems, hrenames, hanew, honce⟩ := ih (position + 1) hmiddle
      refine ⟨item :: items, later', ?_, hrenames, ?_, fun loaded hloaded => ?_⟩
      · rw [Store.rowsFrom_cons_of_some hissue]
        exact .cons hitem hitems
      · obtain ⟨loaded', -, hrun⟩ := hentry .empty (loads_empty _)
        rw [listFromAnew, run_bind_ok hrecord]
        dsimp only
        rw [run_bind_ok hrun, run_bind_ok hanew]
        rfl
      · obtain ⟨loaded', hloaded', hrun⟩ := hentry loaded hloaded
        rw [listFrom, run_bind_ok hrecord]
        dsimp only
        rw [run_bind_ok hrun, run_bind_ok (honce loaded' hloaded')]
        rfl

theorem listing_exact (hundisturbed : session.Undisturbed) (hreadable : session.world.store.Readable)
    (user : UserId) (kind : ListKind) :
    let listed := session.run (listing user kind)
    (∃ items, listed.1 = .ok items ∧
        List.Forall₂ (session.Shows user) (session.world.store.rows user kind) items) ∧
      listed = session.run (listingAnew user kind) ∧ listed.2.world.store = session.world.store := by
  have hlists := run_loadLists hundisturbed (hreadable.lists user)
  obtain ⟨items, later, hitems, hrenames, hanew, honce⟩ := run_listFrom hundisturbed hreadable user
    ((session.world.store.lists user).list kind) 0 session.renames_self
  have honce := honce .empty (loads_empty _)
  rw [listing, listingAnew, run_bind_ok hlists, run_bind_ok hlists, hanew, honce]
  exact ⟨⟨items, rfl, hitems⟩, rfl, hrenames.store⟩

theorem exists_item {rows : List Store.Row} {items : List ListedIssue} {row : Store.Row}
    (h : List.Forall₂ (session.Shows user) rows items) (hrow : row ∈ rows) :
    ∃ item ∈ items, session.Shows user row item := by
  obtain ⟨⟨index, hindex⟩, rfl⟩ := List.get_of_mem hrow
  exact ⟨_, List.get_mem items ⟨index, h.length_eq ▸ hindex⟩, h.get hindex _⟩

theorem Shows.of_living {row : Store.Row} {item : ListedIssue} {link : Link} {half : Located}
    (hliving : session.world.store.Living user row.entry link half) (h : session.Shows user row item) :
    item.issue = row.issue ∧ item.foreignUser = some link.user ∧ item.foreignList = some half.list := by
  cases h with
  | shared hliving' =>
    obtain ⟨rfl, rfl⟩ := hliving.unique hliving'
    exact ⟨rfl, rfl, rfl⟩
  | alone hunshared => exact absurd hliving (hunshared link half)

/-- Amy has sent ben a todo, and lists what she has sent. -/
theorem sentTodo_listed :
    ∃ store : Store, store.SentTodo ⟨"amy"⟩ ⟨"ben"⟩ (World.counted 0) (World.counted 1) ∧
      let listed := (resumed store 2 []).run (listing ⟨"amy"⟩ .out)
      ∃ items, listed.1 = .ok items ∧ ∃ item ∈ items, item.issue.id = World.counted 0 ∧
        item.foreignUser = some ⟨"ben"⟩ ∧ item.foreignList = some .inbox := by
  obtain ⟨store, hstore⟩ := exists_sentTodo_counted
  obtain ⟨entry, held, hid, hlink⟩ := hstore.out
  obtain ⟨half, hhalf, hsame, hback⟩ := hstore.inbox
  obtain ⟨issue, hrecord, hissue⟩ := hstore.consistent.exists_record held
  obtain ⟨place, hfind, hkind, rfl⟩ := (hstore.consistent.unique.orderly.distinct ⟨"ben"⟩).find_of_mem hhalf
  have hliving : store.Living ⟨"amy"⟩ entry ⟨⟨"ben"⟩, World.counted 1⟩ place :=
    ⟨hlink, hsame ▸ hfind, by rw [hback, hid]⟩
  obtain ⟨⟨items, hok, hitems⟩, -⟩ := @listing_exact (resumed store 2 []) rfl
    hstore.consistent.unique.orderly.readable ⟨"amy"⟩ .out
  obtain ⟨position, hrow⟩ := Store.exists_row held hrecord
  obtain ⟨item, hitem, hshows⟩ := exists_item hitems hrow
  obtain ⟨hshown, huser, hlist⟩ := hshows.of_living hliving
  refine ⟨store, hstore, items, hok, item, hitem, ?_, huser, hlist.trans (congrArg some hkind)⟩
  rw [hshown, hissue, hid]

end Session

end SharedTodo
