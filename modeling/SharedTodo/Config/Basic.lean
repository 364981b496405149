import SharedTodo.Config.Variable
import SharedTodo.Toml.Document

/-!
# Configuration

Settings have defaults, which a file changes, and environment variables change both. Keys that are no
settings are ignored; a setting of the wrong type or out of range makes the configuration unusable, and so
do values that cannot work together.
-/

namespace SharedTodo

inductive Backend where
  | memory
  | postgres
  deriving DecidableEq, Repr

structure StorageConfig where
  backend : Backend
  databaseUrl : Option String
  poolSize : Nat
  deriving DecidableEq, Repr

structure ListConfig where
  /-- Attempts at the update of one document. -/
  updates : Nat
  nameCapacity : Nat
  deriving DecidableEq, Repr

structure Config where
  storage : StorageConfig
  lists : ListConfig
  logLevel : String
  deriving DecidableEq, Repr

inductive ConfigError where
  | unreadable
  | noAttempts
  | noDatabaseUrl
  | noConnections
  deriving DecidableEq, Repr

def ConfigError.message : ConfigError → String
  | unreadable => "configuration error"
  | noAttempts => invalid "list_manager.max_update_attempts" "must be at least 1"
  | noDatabaseUrl => invalid "storage.database_url" "required by the postgres backend"
  | noConnections => invalid "storage.pool_size" "must be at least 1"
where
  invalid (field reason : String) : String :=
    s!"invalid configuration value for '{field}': {reason}"

namespace Backend

def all : List Backend :=
  [memory, postgres]

def name : Backend → String
  | memory => "memory"
  | postgres => "postgres"

def ofName? (name : String) : Option Backend :=
  all.find? fun backend => backend.name = name

end Backend

namespace Config

/-! ## Defaults -/

def defaultStorage : StorageConfig :=
  ⟨.memory, none, 4⟩

def defaultLists : ListConfig :=
  ⟨5, 512⟩

/-! ## Settings -/

/-- The values of some settings in a group, given as a table or in order. -/
def settings? (keys : List String) : Value → Option (List (Option Value))
  | .table entries => some (keys.map fun key => entries.lookup key)
  | .list items => some (keys.zipIdx.map fun (_, index) => items[index]?)
  | _ => none

/-- Reads a setting, or takes the default of one that is absent. -/
def setting? {α : Type} (read : Value → Option α) (absent : α) : Option Value → Option α
  | none => some absent
  | some value => read value

def text? : Value → Option String
  | .text text => some text
  | .char c => some (String.singleton c)
  | _ => none

/-- A natural number below a bound. -/
def natural? (bound : Nat) : Value → Option Nat
  | .integer n => if 0 ≤ n ∧ n < bound then some n.toNat else none
  | _ => none

def backend? : Value → Option Backend
  | .text name => Backend.ofName? name
  | _ => none

def storage? (value : Value) : Option StorageConfig := do
  match ← settings? ["backend", "database_url", "pool_size"] value with
  | [backend, url, size] =>
    let backend ← setting? backend? defaultStorage.backend backend
    let url ← setting? (fun value => (text? value).map some) defaultStorage.databaseUrl url
    let size ← setting? (natural? UInt32.size) defaultStorage.poolSize size
    some ⟨backend, url, size⟩
  | _ => none

def lists? (value : Value) : Option ListConfig := do
  match ← settings? ["max_update_attempts", "name_cache_capacity"] value with
  | [updates, capacity] =>
    let updates ← setting? (natural? UInt32.size) defaultLists.updates updates
    let capacity ← setting? (natural? UInt64.size) defaultLists.nameCapacity capacity
    some ⟨updates, capacity⟩
  | _ => none

def ofValue? (value : Value) : Option Config := do
  match ← settings? ["storage", "list_manager", "log_level"] value with
  | [storage, lists, level] =>
    let storage ← setting? storage? defaultStorage storage
    let lists ← setting? lists? defaultLists lists
    let level ← setting? text? "info" level
    some ⟨storage, lists, level⟩
  | _ => none

/-! ## Checks -/

def check (config : Config) : Except ConfigError Config :=
  if config.lists.updates = 0 then .error .noAttempts
  else if config.storage.backend = .memory then .ok config
  else if config.storage.databaseUrl.getD "" = "" then .error .noDatabaseUrl
  else if config.storage.poolSize = 0 then .error .noConnections
  else .ok config

/-! ## Sources -/

/-- The file that is read where the program is started. -/
def fileName : String :=
  "tasklink.toml"

/-- What a file says; nothing without one. -/
def valueOfFile : Option String → Option Value
  | none => some (.table [])
  | some document => Toml.read document

/-- The configuration from a file and environment variables. -/
def load (file : Option String) (environment : List (String × String)) : Except ConfigError Config :=
  match (valueOfFile file).bind fun value => ofValue? ((Variable.valueOfAll environment).onto value) with
  | some config => check config
  | none => .error .unreadable

end Config

end SharedTodo
