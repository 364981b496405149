import SharedTodo.Console
import Std.Time.DateTime.Timestamp

/-!
# The program

Reads the configuration, then answers the lines of standard input one by one until they end. A configuration
that cannot be used, a storage that cannot be opened and a line that is no text end it with a failure.
-/

namespace SharedTodo.Terminal

/-! ## Surroundings -/

/-- The configuration file of this or of the nearest enclosing directory. -/
def readConfigFile (path : String) : Nat → IO (Option String)
  | 0 => pure none
  | levels + 1 => do
    try
      some <$> IO.FS.readFile (path ++ Config.fileName)
    catch
      | .noFileOrDirectory .. => readConfigFile ("../" ++ path) levels
      | failure => throw failure

/-- A variable in an environment's own form. -/
def variableOfBytes (bytes : List UInt8) : Option (String × String) := do
  let text ← String.fromUTF8? ⟨bytes.toArray⟩
  let name := text.toList.takeWhile fun c => c ≠ '='
  some (String.ofList name, String.ofList (text.toList.drop (name.length + 1)))

/-- The variables of the settings, for a system that does not show its whole environment. -/
def settingVariables : List String :=
  ["TASKLINK_STORAGE__BACKEND", "TASKLINK_STORAGE__DATABASE_URL", "TASKLINK_STORAGE__POOL_SIZE",
    "TASKLINK_LIST_MANAGER__MAX_UPDATE_ATTEMPTS", "TASKLINK_LIST_MANAGER__NAME_CACHE_CAPACITY",
    "TASKLINK_LOG_LEVEL"]

def readVariables : IO (List (String × String)) := do
  try
    let environment ← IO.FS.readBinFile "/proc/self/environ"
    pure ((environment.toList.splitOn 0).filterMap variableOfBytes)
  catch _ =>
    settingVariables.filterMapM fun name => do
      pure ((← IO.getEnv name).map fun text => (name, text))

def readClock : IO Time.Instant := do
  let now ← Std.Time.Timestamp.now
  let nanos := now.toNanosecondsSinceUnixEpoch.val
  pure ((Time.Instant.ofParts? (nanos / 1000000000) (nanos % 1000000000).toNat).getD .epoch)

def bitsOfBytes (bytes : List UInt8) : BitVec 128 :=
  BitVec.ofNat 128 (bytes.foldl (fun n b => 256 * n + b.toNat) 0)

/-- Identifiers for one line, which needs two of them at most. -/
def readSupply : IO (Nat → IssueId) := do
  let first ← IO.getRandomBytes 16
  let second ← IO.getRandomBytes 16
  pure fun n => IssueId.ofRandom (bitsOfBytes (if n = 0 then first.toList else second.toList))

/-! ## Lines -/

/-- Reads the bytes up to a line end; nothing at the end of the input. -/
partial def readLine (input : IO.FS.Stream) (line : List UInt8) : IO (Option (List UInt8)) := do
  match (← input.read 1).toList with
  | [] => pure (if line.isEmpty then none else some line.reverse)
  | b :: _ => if b = 10 then pure (some line.reverse) else readLine input (b :: line)

partial def serve (lists : ListConfig) (input output : IO.FS.Stream) (world : World) : IO UInt32 := do
  match ← readLine input [] with
  | none => pure 0
  | some line =>
    let world := { world with clock := ← readClock, supply := ← readSupply, drawn := 0 }
    match Console.step lists line world with
    | none => pure 1
    | some (answer, world) =>
      output.putStr answer
      output.flush
      serve lists input output world

def start : IO UInt32 := do
  let levels := (← IO.currentDir).components.length
  match Config.load (← readConfigFile "" levels) (← readVariables) with
  | .error failure =>
    IO.eprintln failure.message
    pure 1
  | .ok config =>
    match Console.openWorld config (← readClock) with
    | none =>
      IO.eprintln "failed to open storage"
      pure 1
    | some world => serve config.lists (← IO.getStdin) (← IO.getStdout) world

end SharedTodo.Terminal

def main : IO UInt32 :=
  SharedTodo.Terminal.start
