import Mathlib.Data.List.Nodup
import SharedTodo.Proofs.Lists.Order

/-!
# Sequences of changes to a user's lists

A user's lists are changed in five ways: an entry comes to the end of a list, the head of a list goes, an
issue's entry goes from wherever it is or from one list, or it moves to the head of its list. Each change is
made at one place, and everything before and after that place stays in its order (`Alters`). That is all that
is used of the operations, and it holds of all lists, whether or not they name an issue twice.

However many changes are made, no issue comes to be named more often than it was, unless it was not named at
all (`length_naming_altered`), so lists that name no issue twice never will. In such lists an issue is found at
its only place, whatever the order in which the lists are looked at.
-/

namespace SharedTodo

/-- A change of a user's lists, as it is asked for. -/
inductive Alteration where
  | push (kind : ListKind) (entry : Entry)
  | popFront (kind : ListKind)
  | remove (id : IssueId)
  | removeFrom (kind : ListKind) (id : IssueId)
  | moveToFront (kind : ListKind) (id : IssueId)
  deriving DecidableEq, Repr

/-- What comes back: nothing was changed, something was, or an entry was taken out of a list. -/
inductive Alteration.Answer where
  | unchanged
  | changed
  | taken (kind : ListKind) (entry : Entry)
  deriving DecidableEq, Repr

namespace UserLists

open Alteration.Answer

/-- The answer to a change, and the lists afterwards. -/
def perform (lists : UserLists) : Alteration → Alteration.Answer × UserLists
  | .push kind entry =>
    match lists.push kind entry with
    | some after => (changed, after)
    | none => (unchanged, lists)
  | .popFront kind =>
    match lists.popFront kind with
    | some (entry, after) => (taken kind entry, after)
    | none => (unchanged, lists)
  | .remove id =>
    match lists.remove id with
    | some (place, after) => (taken place.list place.entry, after)
    | none => (unchanged, lists)
  | .removeFrom kind id =>
    match lists.removeFrom kind id with
    | some (entry, after) => (taken kind entry, after)
    | none => (unchanged, lists)
  | .moveToFront kind id =>
    match lists.moveToFront kind id with
    | some after => (changed, after)
    | none => (unchanged, lists)

/-- The lists after some changes, one after the other. -/
def altered (lists : UserLists) (alterations : List Alteration) : UserLists :=
  alterations.foldl (fun lists alteration => (lists.perform alteration).2) lists

/-- The entry that a change adds, takes out or moves, if it is made. -/
def target (lists : UserLists) : Alteration → Option Entry
  | .push kind entry => (lists.push kind entry).map fun _ => entry
  | .popFront kind => (lists.list kind).head?
  | .remove id => (lists.find id).map Located.entry
  | .removeFrom kind id => (lists.list kind).find? (names id)
  | .moveToFront kind id => (lists.list kind).find? (names id)

/-- The entries that some changes add, take out or move, one after the other. -/
def targets (lists : UserLists) : List Alteration → List Entry
  | [] => []
  | alteration :: rest => (lists.target alteration).toList ++ (lists.perform alteration).2.targets rest

/-! ## The first entry of an issue -/

section

variable {lists : UserLists} {kind : ListKind} {id : IssueId} {entry : Entry} {entries earlier later : List Entry}

/-- The list is split at the first entry of the issue. -/
structure First (id : IssueId) (entries earlier : List Entry) (entry : Entry) (later : List Entry) : Prop where
  split : entries = earlier ++ entry :: later
  same : entry.id = id
  others : ∀ other ∈ earlier, other.id ≠ id

theorem exists_first (h : entries.find? (names id) = some entry) :
    ∃ earlier later, First id entries earlier entry later := by
  obtain ⟨hid, earlier, later, hsplit, hothers⟩ := List.find?_eq_some_iff_append.1 h
  exact ⟨earlier, later, hsplit, by simpa [names] using hid, by simpa [names] using hothers⟩

theorem First.eraseP (h : First id entries earlier entry later) : entries.eraseP (names id) = earlier ++ later := by
  have hothers : ∀ other ∈ earlier, ¬ names id other = true := by simpa [names] using h.others
  rw [h.split, List.eraseP_append_right _ hothers, List.eraseP_cons_of_pos (by simpa [names] using h.same)]

theorem First.findIdx? (h : First id entries earlier entry later) :
    entries.findIdx? (names id) = some earlier.length := by
  have hothers : earlier.findIdx? (names id) = none := by simpa [names] using h.others
  have hsame : names id entry = true := by simpa [names] using h.same
  simp [h.split, List.findIdx?_append, hothers, List.findIdx?_cons, hsame]

/-- An issue is found at the first of its entries in the list where it is found. -/
theorem first_of_find {place : Located} (h : lists.find id = some place) :
    ∃ earlier later, First id (lists.list place.list) earlier place.entry later ∧
      place.position = earlier.length := by
  obtain ⟨kind, -, hfound⟩ := List.exists_of_findSome?_eq_some h
  obtain ⟨position, hposition, hentry⟩ := Option.bind_eq_some_iff.1 hfound
  obtain ⟨entry, hfirst, rfl⟩ := Option.map_eq_some_iff.1 hentry
  obtain ⟨earlier, later, hfirst⟩ := exists_first hfirst
  exact ⟨earlier, later, hfirst, Option.some.inj (hposition.symm.trans hfirst.findIdx?)⟩

end

/-! ## One change -/

/-- What a change can do. It is made unless the issue is there already, or the entry is not; it takes out or
moves the first entry of its issue, and puts a new one behind all others of its list. -/
inductive Alters (before : UserLists) : Alteration → Alteration.Answer → UserLists → Prop where
  | pushed {kind : ListKind} {entry : Entry} (new : before.find entry.id = none) :
    Alters before (.push kind entry) changed (before.withList kind (before.list kind ++ [entry]))
  | notPushed {kind : ListKind} {entry : Entry} (listed : before.find entry.id ≠ none) :
    Alters before (.push kind entry) unchanged before
  | popped {kind : ListKind} {entry : Entry} {rest : List Entry} (split : before.list kind = entry :: rest) :
    Alters before (.popFront kind) (taken kind entry) (before.withList kind rest)
  | notPopped {kind : ListKind} (empty : before.list kind = []) :
    Alters before (.popFront kind) unchanged before
  | removed {id : IssueId} {place : Located} {earlier later : List Entry} (found : before.find id = some place)
      (first : First id (before.list place.list) earlier place.entry later)
      (position : place.position = earlier.length) :
    Alters before (.remove id) (taken place.list place.entry) (before.withList place.list (earlier ++ later))
  | notRemoved {id : IssueId} (missing : before.find id = none) : Alters before (.remove id) unchanged before
  | removedFrom {kind : ListKind} {id : IssueId} {entry : Entry} {earlier later : List Entry}
      (first : First id (before.list kind) earlier entry later) :
    Alters before (.removeFrom kind id) (taken kind entry) (before.withList kind (earlier ++ later))
  | notRemovedFrom {kind : ListKind} {id : IssueId} (missing : ∀ entry ∈ before.list kind, entry.id ≠ id) :
    Alters before (.removeFrom kind id) unchanged before
  | moved {kind : ListKind} {id : IssueId} {entry : Entry} {earlier later : List Entry}
      (first : First id (before.list kind) earlier entry later) :
    Alters before (.moveToFront kind id) changed (before.withList kind (entry :: (earlier ++ later)))
  | notMoved {kind : ListKind} {id : IssueId} (missing : ∀ entry ∈ before.list kind, entry.id ≠ id) :
    Alters before (.moveToFront kind id) unchanged before

theorem alters_perform (lists : UserLists) (alteration : Alteration) :
    lists.Alters alteration (lists.perform alteration).1 (lists.perform alteration).2 := by
  cases alteration with
  | push kind entry =>
    rw [perform, UserLists.push]
    cases hfind : lists.find entry.id with
    | some place => exact .notPushed (by simp [hfind])
    | none => exact .pushed hfind
  | popFront kind =>
    rw [perform, UserLists.popFront]
    cases hlist : lists.list kind with
    | nil => exact .notPopped hlist
    | cons entry rest => exact .popped hlist
  | remove id =>
    rw [perform, UserLists.remove]
    cases hfind : lists.find id with
    | none => exact .notRemoved hfind
    | some place =>
      obtain ⟨earlier, later, hfirst, hposition⟩ := first_of_find hfind
      have hremoved := Alters.removed hfind hfirst hposition
      rwa [← hfirst.eraseP] at hremoved
  | removeFrom kind id =>
    rw [perform, UserLists.removeFrom]
    cases hfind : (lists.list kind).find? (names id) with
    | none => exact .notRemovedFrom (by simpa [names] using hfind)
    | some entry =>
      obtain ⟨earlier, later, hfirst⟩ := exists_first hfind
      have hremoved := Alters.removedFrom hfirst
      rwa [← hfirst.eraseP] at hremoved
  | moveToFront kind id =>
    rw [perform, UserLists.moveToFront, UserLists.removeFrom]
    cases hfind : (lists.list kind).find? (names id) with
    | none => exact .notMoved (by simpa [names] using hfind)
    | some entry =>
      obtain ⟨earlier, later, hfirst⟩ := exists_first hfind
      have hmoved := Alters.moved hfirst
      rw [← hfirst.eraseP] at hmoved
      rw [Option.map_some, Option.map_some]
      dsimp only
      rw [erase, list_withList_self, withList_withList]
      exact hmoved

/-! ## How often issues are named -/

section

variable {lists : UserLists}

theorem length_naming_withList (lists : UserLists) (kind : ListKind) (new : List Entry) (id : IssueId) :
    ((lists.withList kind new).naming id).length + (lists.list kind).countP (names id) =
      (lists.naming id).length + new.countP (names id) := by
  cases kind <;>
    simp only [naming, entries, withList, list, List.filter_append, List.length_append,
      List.countP_eq_length_filter] <;>
    omega

theorem naming_eq_nil_iff {id : IssueId} : lists.naming id = [] ↔ lists.find id = none := by
  rw [← Option.map_eq_none_iff (f := Located.entry), find_eq_first, List.find?_eq_none, naming,
    List.filter_eq_nil_iff]

/-- A change has an issue named once if it was not named before, and no more often if it was. -/
theorem Alters.length_naming_le {alteration : Alteration} {answer : Alteration.Answer} {after : UserLists}
    (h : lists.Alters alteration answer after) (id : IssueId) :
    (after.naming id).length ≤ max 1 (lists.naming id).length := by
  have hcount (kind : ListKind) (new : List Entry) := length_naming_withList lists kind new id
  cases h with
  | @pushed kind entry new =>
    have hcount := hcount kind (lists.list kind ++ [entry])
    rw [List.countP_append, List.countP_singleton] at hcount
    split at hcount
    · next hid =>
      rw [show entry.id = id from of_decide_eq_true hid, ← naming_eq_nil_iff] at new
      rw [new, List.length_nil] at hcount
      omega
    · omega
  | @popped kind entry rest split =>
    have hcount := hcount kind rest
    rw [split, List.countP_cons] at hcount
    omega
  | @removed _ place earlier later _ first =>
    have hcount := hcount place.list (earlier ++ later)
    rw [first.split, List.countP_append, List.countP_append, List.countP_cons] at hcount
    omega
  | @removedFrom kind _ entry earlier later first =>
    have hcount := hcount kind (earlier ++ later)
    rw [first.split, List.countP_append, List.countP_append, List.countP_cons] at hcount
    omega
  | @moved kind _ entry earlier later first =>
    have hcount := hcount kind (entry :: (earlier ++ later))
    rw [first.split, List.countP_append, List.countP_cons, List.countP_cons, List.countP_append] at hcount
    omega
  | _ => exact Nat.le_max_right _ _

theorem length_naming_altered (lists : UserLists) (alterations : List Alteration) (id : IssueId) :
    ((lists.altered alterations).naming id).length ≤ max 1 (lists.naming id).length := by
  induction alterations generalizing lists with
  | nil => exact Nat.le_max_right _ _
  | cons alteration rest ih =>
    have hstep := (lists.alters_perform alteration).length_naming_le id
    exact Nat.le_trans (ih (lists.perform alteration).2) (Nat.max_le.2 ⟨Nat.le_max_left _ _, hstep⟩)

theorem distinct_iff_naming : lists.Distinct ↔ ∀ id, (lists.naming id).length ≤ 1 := by
  rw [Distinct, List.nodup_iff_count_le_one]
  refine forall_congr' fun id => ?_
  rw [naming, ← List.countP_eq_length_filter, List.count, List.countP_map]
  refine iff_of_eq (congrArg (· ≤ 1) (List.countP_congr fun entry _ => ?_))
  simp [names]

theorem Distinct.altered (h : lists.Distinct) (alterations : List Alteration) :
    (lists.altered alterations).Distinct := by
  refine distinct_iff_naming.2 fun id => Nat.le_trans (lists.length_naming_altered alterations id) ?_
  exact Nat.max_le.2 ⟨Nat.le_refl 1, distinct_iff_naming.1 h id⟩

end

/-! ## Entries that come, go and stay -/

/-- But for their order, all lists have the same entries afterwards, a new one has one more, or the one that
has been taken out is missing where it was. -/
def Accounts (before : UserLists) (alteration : Alteration) : Alteration.Answer → UserLists → Prop
  | taken kind entry, after =>
    (before.list kind).Perm (entry :: after.list kind) ∧ ∀ other ≠ kind, after.list other = before.list other
  | unchanged, after => after = before
  | changed, after =>
    match alteration with
    | .push kind entry =>
      (after.list kind).Perm (entry :: before.list kind) ∧ ∀ other ≠ kind, after.list other = before.list other
    | _ => ∀ kind, (after.list kind).Perm (before.list kind)

section

variable {lists after : UserLists} {alteration : Alteration} {answer : Alteration.Answer}

theorem accounts_taken {kind : ListKind} {entry : Entry} {earlier later : List Entry}
    (split : lists.list kind = earlier ++ entry :: later) :
    lists.Accounts alteration (taken kind entry) (lists.withList kind (earlier ++ later)) := by
  refine ⟨?_, fun other hother => list_withList_of_ne _ _ hother⟩
  rw [list_withList_self, split]
  exact List.perm_middle

theorem Alters.accounts (h : lists.Alters alteration answer after) : lists.Accounts alteration answer after := by
  cases h with
  | @pushed kind entry new =>
    refine ⟨?_, fun other hother => list_withList_of_ne _ _ hother⟩
    rw [list_withList_self]
    exact List.perm_append_singleton entry _
  | @popped kind entry rest split => exact @accounts_taken _ _ kind entry [] rest split
  | removed _ first => exact accounts_taken first.split
  | removedFrom first => exact accounts_taken first.split
  | @moved kind _ entry earlier later first =>
    intro other
    by_cases hother : other = kind
    · rw [hother, list_withList_self, first.split]
      exact List.perm_middle.symm
    · rw [list_withList_of_ne _ _ hother]
  | _ => rfl

variable {picks : Entry → Bool}

theorem filter_withList {kind : ListKind} {new : List Entry}
    (h : new.filter picks = (lists.list kind).filter picks) (other : ListKind) :
    ((lists.withList kind new).list other).filter picks = (lists.list other).filter picks := by
  by_cases hother : other = kind
  · rw [hother, list_withList_self, h]
  · rw [list_withList_of_ne _ _ hother]

theorem First.find? {id : IssueId} {entries earlier later : List Entry} {entry : Entry}
    (h : First id entries earlier entry later) : entries.find? (names id) = some entry := by
  refine List.find?_eq_some_iff_append.2 ⟨by simpa [names] using h.same, earlier, later, h.split, ?_⟩
  simpa [names] using h.others

/-- The entries that a predicate picks stay, in their order, when it does not pick the one that is added, taken
out or moved. -/
theorem Alters.filter_eq (h : lists.Alters alteration answer after)
    (htarget : ∀ entry ∈ lists.target alteration, picks entry = false) (kind : ListKind) :
    (after.list kind).filter picks = (lists.list kind).filter picks := by
  have hdropped {earlier later : List Entry} {entry : Entry} (hentry : picks entry = false) :
      (earlier ++ entry :: later).filter picks = (earlier ++ later).filter picks := by
    rw [List.filter_append, List.filter_cons_of_neg (by simp [hentry]), List.filter_append]
  cases h with
  | @pushed _ entry new =>
    refine filter_withList ?_ kind
    rw [hdropped (htarget entry (by rw [target, push, new]; rfl)), List.append_nil]
  | popped split =>
    refine filter_withList ?_ kind
    rw [split, List.filter_cons_of_neg (by simp [htarget _ (congrArg List.head? split)])]
  | removed found first =>
    refine filter_withList ?_ kind
    rw [first.split, hdropped (htarget _ (congrArg (Option.map Located.entry) found))]
  | removedFrom first =>
    refine filter_withList ?_ kind
    rw [first.split, hdropped (htarget _ first.find?)]
  | moved first =>
    refine filter_withList ?_ kind
    have hentry := htarget _ first.find?
    rw [first.split, hdropped hentry, List.filter_cons_of_neg (by simp [hentry])]
  | _ => rfl

theorem filter_altered {lists : UserLists} {alterations : List Alteration}
    (htargets : ∀ entry ∈ lists.targets alterations, picks entry = false) (kind : ListKind) :
    ((lists.altered alterations).list kind).filter picks = (lists.list kind).filter picks := by
  induction alterations generalizing lists with
  | nil => rfl
  | cons alteration rest ih =>
    have hstep := (lists.alters_perform alteration).filter_eq
      (fun entry hentry => htargets entry (List.mem_append_left _ (Option.mem_toList.2 hentry))) kind
    exact (ih fun entry hentry => htargets entry (List.mem_append_right _ hentry)).trans hstep

end

/-! ## Lists that name no issue twice -/

section

variable {lists : UserLists}

/-- In distinct lists an entry is found where it stands, whichever list that is. -/
theorem Distinct.find_iff (h : lists.Distinct) {id : IssueId} {place : Located} :
    lists.find id = some place ↔
      (lists.list place.list)[place.position]? = some place.entry ∧ place.entry.id = id := by
  have hfound {id : IssueId} {place : Located} (hfind : lists.find id = some place) :
      (lists.list place.list)[place.position]? = some place.entry ∧ place.entry.id = id := by
    obtain ⟨earlier, later, hfirst, hposition⟩ := first_of_find hfind
    refine ⟨?_, hfirst.same⟩
    rw [hfirst.split, hposition]
    simp
  refine ⟨hfound, ?_⟩
  rintro ⟨hstands, rfl⟩
  obtain ⟨place', hfind, hlist, hentry⟩ := h.find_of_mem (List.mem_of_getElem? hstands)
  have hstands' := (hfound hfind).1
  rw [hlist, hentry] at hstands'
  have hnodup := ((distinct_iff.1 h).1 place.list).of_map
  have hposition : place'.position = place.position := by
    obtain ⟨hlt, -⟩ := List.getElem?_eq_some_iff.1 hstands'
    exact (List.getElem?_inj hlt hnodup).1 (hstands'.trans hstands.symm)
  rw [hfind]
  obtain ⟨list, position, entry⟩ := place
  obtain ⟨list', position', entry'⟩ := place'
  cases hlist
  cases hentry
  cases hposition
  rfl

theorem Distinct.find_removed (h : lists.Distinct) {id : IssueId} {place : Located} {rest : UserLists}
    (hremoved : lists.remove id = some (place, rest)) : rest.find id = none := by
  obtain ⟨hfind, rfl⟩ := remove_eq_some_iff.1 hremoved
  obtain ⟨held, rfl⟩ := find_eq_some hfind
  exact find_eq_none_iff.2 fun kind entry hentry => ne_of_mem_erase h held hentry

end

/-- Whatever is done to lists, no issue is named more often than before, but for once; every change adds or
takes out the entry that it says and leaves all others in their order. Where no issue is named twice, and so
in all that becomes of empty lists, an issue is found where its entry stands, it is removed from there, and is
not found afterwards. -/
theorem altered_exact (lists : UserLists) (alterations : List Alteration) :
    (∀ id, ((lists.altered alterations).naming id).length ≤ max 1 (lists.naming id).length) ∧
    (∀ alteration, let (answer, after) := lists.perform alteration
      lists.Alters alteration answer after ∧ lists.Accounts alteration answer after) ∧
    (∀ picks : Entry → Bool, (∀ entry ∈ lists.targets alterations, picks entry = false) →
      ∀ kind, ((lists.altered alterations).list kind).filter picks = (lists.list kind).filter picks) ∧
    (empty.altered alterations).Distinct ∧
    (lists.Distinct → (lists.altered alterations).Distinct ∧ ∀ id,
      (∀ place, lists.find id = some place ↔
        (lists.list place.list)[place.position]? = some place.entry ∧ place.entry.id = id) ∧
      (lists.remove id).map Prod.fst = lists.find id ∧
      ∀ place rest, lists.remove id = some (place, rest) → rest.find id = none) := by
  refine ⟨lists.length_naming_altered alterations, fun alteration => ?_, fun _ => filter_altered,
    distinct_empty.altered alterations, fun h => ⟨h.altered alterations, fun id => ⟨fun _ => h.find_iff, ?_,
      fun _ _ => h.find_removed⟩⟩⟩
  · have halters := lists.alters_perform alteration
    exact ⟨halters, halters.accounts⟩
  · rw [remove, Option.map_map]
    exact Option.map_id'

/-- Of two received todos the later one is moved to the head, and the other one goes; a third todo is one's
own, and is not taken a second time. -/
theorem todos_altered :
    let milk := Entry.unlinked ⟨1⟩
    let bread := Entry.linked ⟨2⟩ ⟨⟨"amy"⟩, ⟨4⟩⟩
    let cream := Entry.linked ⟨3⟩ ⟨⟨"amy"⟩, ⟨5⟩⟩
    let lists : UserLists := ⟨[milk], [bread, cream], []⟩
    let alterations : List Alteration := [.moveToFront .inbox ⟨3⟩, .push .out milk, .remove ⟨2⟩]
    lists.Distinct ∧ lists.targets alterations = [cream, bread] ∧
      ((lists.altered alterations).list .my).filter (· = milk) = [milk] ∧
      lists.find ⟨3⟩ = some ⟨.inbox, 1, cream⟩ ∧ (lists.altered alterations).Distinct := by
  intro milk bread cream lists alterations
  have hdistinct : lists.Distinct := by
    rw [Distinct]
    decide
  have htargets : lists.targets alterations = [cream, bread] := by
    decide
  obtain ⟨-, -, hstays, -, hfind⟩ := lists.altered_exact alterations
  obtain ⟨hdistinct', hfind⟩ := hfind hdistinct
  refine ⟨hdistinct, htargets, ?_, ((hfind ⟨3⟩).1 ⟨.inbox, 1, cream⟩).2 (by decide), hdistinct'⟩
  rw [hstays (· = milk) (by rw [htargets]; decide)]
  decide

end UserLists

end SharedTodo
