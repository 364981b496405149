import SharedTodo.Table

/-!
# The store

Documents under keys. A call reads, writes or deletes one document, or writes it on condition that it still
is what the caller saw; `Store.perform` is its effect.
-/

namespace SharedTodo

abbrev Store :=
  Table String String

/-- One access to the store. A value of `none` stands for the absence of a document. -/
inductive StoreCall where
  | get (key : String)
  | set (key value : String)
  | delete (key : String)
  | compareAndSet (key : String) (expected new : Option String)
  deriving DecidableEq, Repr

namespace StoreCall

def key : StoreCall → String
  | get key => key
  | set key _ => key
  | delete key => key
  | compareAndSet key _ _ => key

/-- What a call is answered with. -/
def Answer : StoreCall → Type
  | get _ => Option String
  | set _ _ => Unit
  | delete _ => Unit
  | compareAndSet _ _ _ => Bool

end StoreCall

namespace Store

def perform : (call : StoreCall) → Store → call.Answer × Store
  | .get key, store => (store.find? key, store)
  | .set key value, store => ((), store.insert key value)
  | .delete key, store => ((), store.erase key)
  | .compareAndSet key expected new, store =>
    if store.find? key = expected then (true, store.assign key new) else (false, store)

/-- A call changes no document but its own. -/
theorem find?_perform_of_ne (call : StoreCall) (store : Store) {key : String} (h : key ≠ call.key) :
    (perform call store).2.find? key = store.find? key := by
  cases call with
  | get k => rfl
  | set k value => exact (store.find?_insert k key value).trans (if_neg h)
  | delete k => exact (store.find?_erase k key).trans (if_neg h)
  | compareAndSet k expected new =>
    by_cases hseen : store.find? k = expected
    · simpa [perform, hseen] using (store.find?_assign k key new).trans (if_neg h)
    · simp [perform, hseen]

end Store

end SharedTodo
