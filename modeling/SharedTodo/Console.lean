import SharedTodo.Command.Execution
import SharedTodo.Config.Basic
import SharedTodo.Request.Handling
import SharedTodo.World

/-!
# The console

Every line names the user who acts and, behind a blank, a chat command or a request with its body. Whoever
acts is in the directory from then on, with the username as identifier. Blank lines, comments, names alone
and signs `@` alone say nothing.

A line is answered with the reply and, below it, with what users were told. A session ends before the first
line that is no text.
-/

namespace SharedTodo.Console

inductive Action where
  | command (text : String)
  | request (name body : String)
  deriving DecidableEq, Repr

structure Line where
  username : String
  action : Action
  deriving DecidableEq, Repr

/-! ## Reading lines -/

/-- The text before the first blank and the text behind it. -/
def splitAtBlank (cs : List Char) : Option (List Char × List Char) :=
  match cs.dropWhile fun c => !Text.isBlank c with
  | [] => none
  | _ :: rest => some (cs.takeWhile fun c => !Text.isBlank c, rest)

def actionOf (cs : List Char) : Action :=
  match cs with
  | '/' :: _ => .command (String.ofList cs)
  | _ =>
    match splitAtBlank cs with
    | some (name, body) => .request (String.ofList name) (String.ofList (Text.trimList body))
    | none => .request (String.ofList cs) ""

/-- What a line says, if it says anything. -/
def Line.ofText? (raw : String) : Option Line :=
  match Text.trimList raw.toList with
  | '#' :: _ => none
  | cs =>
    (splitAtBlank cs).map fun (username, rest) =>
      ⟨String.ofList (username.dropWhile fun c => c = '@'), actionOf (Text.trimStart rest)⟩

/-- The lines of some bytes; the last one may lack its end. -/
def splitLines : List UInt8 → List (List UInt8)
  | [] => []
  | b :: bytes =>
    if b = 10 then [] :: splitLines bytes
    else
      match bytes, splitLines bytes with
      | [], _ => [[b]]
      | _, [] => [[b]]
      | _, line :: lines => (b :: line) :: lines

/-! ## Answers -/

def attachmentText : Option Attachment → String
  | none => ""
  | some attachment => s!" | todo {attachment.issue}: {attachment.message}"

def notificationText : Notification → String
  | .refresh user lists =>
    s!"  [refresh @{user}] " ++ String.intercalate "," (lists.map ListKind.name)
  | .directMessage user message attachment =>
    s!"  [dm @{user}] {message}" ++ attachmentText attachment
  | .reply post message todo => s!"  [thread {post}] {message} | {todo}"

def answerText (reply : String) (sent : List Notification) : String :=
  String.join ((reply :: sent.map notificationText).map fun line => line ++ "\n")

/-- The reply to what a user asks for. -/
def reply (limits : Exchange.Limits) (user : UserId) : Action → Program Empty String
  | .command text => Command.execute limits user text
  | .request name body => do
    match ← (Request.handleNamed limits user name body).attempt with
    | .ok response => pure response.json
    | .error failure => pure failure.json

def limits (lists : ListConfig) (world : World) (user : UserId) : Exchange.Limits :=
  ⟨lists.updates, Exchange.roundsFor world.store user⟩

/-- Carries out what a line says; the answer, and the world with everybody told. -/
def enter (lists : ListConfig) (line : Line) (world : World) : String × World :=
  match UserId.ofInput line.username with
  | .error _ => ("", world)
  | .ok user =>
    let world := { world with directory := world.directory.register ⟨user, line.username⟩ }
    match world.run (reply (limits lists world user) user line.action) with
    | (.ok reply, after) => (answerText reply after.sent, { after with sent := [] })
    | (_, after) => ("", { after with sent := [] })

/-! ## Sessions -/

/-- The answer to the bytes of one line, which may be none; nothing if they are no text. -/
def step (lists : ListConfig) (line : List UInt8) (world : World) : Option (String × World) :=
  (String.fromUTF8? ⟨line.toArray⟩).map fun raw =>
    match Line.ofText? raw with
    | some line => enter lists line world
    | none => ("", world)

/-- How a session has gone: all that was written, and whether it came to the end of its input. -/
structure Transcript where
  output : String
  completed : Bool
  deriving DecidableEq, Repr

def Transcript.failed : Transcript :=
  ⟨"", false⟩

def runLines (lists : ListConfig) : List (List UInt8) → World → Transcript
  | [], _ => ⟨"", true⟩
  | line :: rest, world =>
    match step lists line world with
    | none => .failed
    | some (answer, world) =>
      let transcript := runLines lists rest world
      { transcript with output := answer ++ transcript.output }

def Transcript.exitCode (transcript : Transcript) : UInt32 :=
  if transcript.completed then 0 else 1

/-- Opens the configured storage; only the one in memory can be opened. -/
def openWorld (config : Config) (clock : Time.Instant) : Option World :=
  match config.storage.backend with
  | .memory => some (.initial config.lists.nameCapacity clock)
  | .postgres => none

/-- A whole session with configuration sources and input. -/
def run (file : Option String) (environment : List (String × String)) (clock : Time.Instant)
    (input : List UInt8) : Transcript :=
  match Config.load file environment with
  | .error _ => .failed
  | .ok config =>
    match openWorld config clock with
    | none => .failed
    | some world => runLines config.lists (splitLines input) world

end SharedTodo.Console
