import SharedTodo.Lists.Kind

/-!
# Chat commands

A command is a line of words after the trigger `/todo`. The trigger and the first word are read in any case;
blanks separate words and mean nothing else. The bare trigger lists the own list, and an unknown first word
asks for help.

Every command has a canonical line, `Command.text`.
-/

namespace SharedTodo

/-- A preference that is shown and switched from chat. -/
inductive Setting where
  | summary
  | allowIncoming
  deriving DecidableEq, Repr

namespace Setting

def all : List Setting :=
  [summary, allowIncoming]

def name : Setting → String
  | summary => "summary"
  | allowIncoming => "allow_incoming_task_requests"

def ofName? (name : String) : Option Setting :=
  all.find? fun setting => setting.name = name

theorem ofName?_name (setting : Setting) : ofName? setting.name = some setting := by
  cases setting <;> decide

end Setting

inductive Command where
  | list (kind : ListKind)
  | add (message : String)
  | pop
  | send (receiver message : String)
  | showSettings
  | showSetting (setting : Setting)
  | switch (setting : Setting) (on : Bool)
  | help
  deriving DecidableEq, Repr

inductive CommandError where
  | emptyInput
  | unknownTrigger (word : String)
  | missingMessage
  | missingSendArguments
  | unknownList (name : String)
  | unknownSetting (name : String)
  | invalidToggle (setting : Setting) (value : String)
  | tooManyArguments
  deriving DecidableEq, Repr

def CommandError.message : CommandError → String
  | emptyInput => "command input cannot be empty"
  | unknownTrigger word => s!"'{word}' is not a todo command"
  | missingMessage => "add a message for the todo"
  | missingSendArguments => "you must specify a valid user and a message"
  | unknownList name => s!"unknown list '{name}'; use my, in, or out"
  | unknownSetting name => s!"setting `{name}` is not recognised"
  | invalidToggle setting value =>
    s!"invalid value '{value}'; \"settings {setting.name}\" accepts `on` or `off`"
  | tooManyArguments => "too many arguments"

namespace Command

def trigger : String :=
  "/todo"

/-! ## Reading -/

def addOfWords : List String → Except CommandError Command
  | [] => .error .missingMessage
  | message => .ok (add (Text.unwords message))

/-- Words after the list's name are ignored. -/
def listOfWords : List String → Except CommandError Command
  | [] => .ok (list .my)
  | name :: _ =>
    match ListKind.ofInput? name with
    | some kind => .ok (list kind)
    | none => .error (.unknownList name)

/-- A receiver's name without the sign in front of it. -/
def receiverOfWord (word : String) : String :=
  match word.toList with
  | '@' :: name => String.ofList name
  | _ => word

def sendOfWords : List String → Except CommandError Command
  | [] => .error .missingSendArguments
  | word :: message =>
    if message = [] ∨ receiverOfWord word = "" then .error .missingSendArguments
    else .ok (send (receiverOfWord word) (Text.unwords message))

def toggleOfWord (setting : Setting) : String → Except CommandError Command
  | "on" => .ok (switch setting true)
  | "off" => .ok (switch setting false)
  | value => .error (.invalidToggle setting value)

def settingsOfWords : List String → Except CommandError Command
  | [] => .ok showSettings
  | name :: values =>
    match Setting.ofName? name with
    | none => .error (.unknownSetting name)
    | some setting =>
      match values with
      | [] => .ok (showSetting setting)
      | [value] => toggleOfWord setting value
      | _ => .error .tooManyArguments

def ofWords : List String → Except CommandError Command
  | [] => .error .emptyInput
  | word :: rest =>
    if Text.sameFolded word trigger then
      match rest with
      | [] => .ok (list .my)
      | action :: arguments =>
        match Text.lower action with
        | "add" => addOfWords arguments
        | "list" => listOfWords arguments
        | "pop" => .ok pop
        | "send" => sendOfWords arguments
        | "settings" => settingsOfWords arguments
        | _ => .ok help
    else .error (.unknownTrigger word)

def parse (text : String) : Except CommandError Command :=
  ofWords (Text.words text)

/-! ## Writing -/

def toggle (on : Bool) : String :=
  if on then "on" else "off"

/-- The parts of the canonical line. -/
def parts : Command → List String
  | list kind => ["list", kind.name]
  | add message => ["add", message]
  | pop => ["pop"]
  | send receiver message => ["send", "@" ++ receiver, message]
  | showSettings => ["settings"]
  | showSetting setting => ["settings", setting.name]
  | switch setting on => ["settings", setting.name, toggle on]
  | help => ["help"]

/-- The canonical line of a command. -/
def text (command : Command) : String :=
  Text.unwords (trigger :: command.parts)

end Command

end SharedTodo
