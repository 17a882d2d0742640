import PluginAudit.Command.Usage
import PluginAudit.Files.Disk
import PluginAudit.Number.Reader
import PluginAudit.Register
import PluginAudit.Text.Fold
import PluginAudit.Text.Similar
import PluginAudit.Value.Text

namespace PluginAudit.Command

structure PathRule where
  mustExist : Bool
  files : Bool
  directories : Bool

inductive Shape where
  | choice (words : List String)
  | float
  | int
  | path (rule : PathRule)

inductive OptionKind where
  -- An option without a value, and the names that switch it off.
  | flag (off : List String)
  | valued (shape : Shape)

structure OptionSpec where
  key : String
  names : List String
  kind : OptionKind

structure ArgumentSpec where
  key : String
  label : String
  many : Bool
  shape : Shape

structure Spec where
  name : String
  usage : String
  options : List OptionSpec
  argument : Option ArgumentSpec
  -- Whether all that follows the first argument is left to another command.
  isGroup : Bool

inductive Given where
  | flag (on : Bool)
  | text (text : String)

namespace Spec

inductive Meaning where
  | flag (key : String) (on : Bool)
  | valued (key : String)

def meaning? (spec : Spec) (name : String) : Option Meaning :=
  spec.options.findSome? fun option =>
    match option.kind with
    | .flag off =>
      if option.names.contains name then some (.flag option.key true)
      else if off.contains name then some (.flag option.key false)
      else none
    | .valued _ => if option.names.contains name then some (.valued option.key) else none

def longNames (spec : Spec) : List String :=
  (spec.options.flatMap fun option =>
    match option.kind with
    | .flag off => option.names ++ off
    | .valued _ => option.names).filter fun name => "--".toList.isPrefixOf name.toList

structure State where
  -- Options at the place where each was given first, with what was given last.
  given : Register Given
  arguments : List String
  -- The name and the key of an option that waits for its value.
  waiting : Option (String × String)
  -- Whether all that follows is an argument.
  ended : Bool

def State.start : State :=
  ⟨[], [], none, false⟩

def State.give (state : State) (key : String) (given : Given) : State :=
  { state with given := Register.put state.given key given, waiting := none }

def State.addArgument (state : State) (argument : String) : State :=
  { state with arguments := state.arguments ++ [argument] }

/-- Reads one-letter options that stand together; the first that takes a value takes all that is left. -/
def readLetters (spec : Spec) (state : State) : List Char → Except UsageFault State
  | [] => .ok state
  | letter :: rest =>
    let name := String.ofList ['-', letter]
    match spec.meaning? name with
    | none => .error (.unknownOption name [])
    | some (.flag key on) => readLetters spec (state.give key (.flag on)) rest
    | some (.valued key) =>
      if rest.isEmpty then .ok { state with waiting := some (name, key) }
      else .ok (state.give key (.text (String.ofList rest)))

def splitValue (text : List Char) : String × Option String :=
  match text.dropWhile (· != '=') with
  | [] => (String.ofList text, none)
  | _ :: value => (String.ofList (text.takeWhile (· != '=')), some (String.ofList value))

def readOption (spec : Spec) (state : State) (text : List Char) : Except UsageFault State :=
  let (name, value) := splitValue text
  let meaning := if "--".toList.isPrefixOf name.toList then spec.meaning? name else none
  match meaning, value with
  | some (.flag key on), none => .ok (state.give key (.flag on))
  | some (.flag _ _), some _ => .error (.unwantedValue name)
  | some (.valued key), none => .ok { state with waiting := some (name, key) }
  | some (.valued key), some value => .ok (state.give key (.text value))
  | none, _ =>
    if "--".toList.isPrefixOf text then .error (.unknownOption name (Text.nearest name spec.longNames))
    else readLetters spec state (text.drop 1)

def readWord (spec : Spec) (state : State) (word : String) : Except UsageFault State :=
  match state.waiting with
  | some (_, key) => .ok (state.give key (.text word))
  | none =>
    if state.ended then .ok (state.addArgument word)
    else if word = "--" then .ok { state with ended := true }
    else if word.toList.head? = some '-' ∧ 1 < word.length then spec.readOption state word.toList
    else .ok { state.addArgument word with ended := spec.isGroup }

def readWords (spec : Spec) (words : List String) : Except UsageFault State := do
  let state ← words.foldlM spec.readWord State.start
  match state.waiting with
  | some (name, _) => throw (.noValue name)
  | none => return state

end Spec

def standing? (disk : Disk) (text : String) : Option Entry :=
  if text.isEmpty then none
  else
    let last := (Text.pieces (· == '/') text.toList).getLast?.getD []
    (disk.stat (Path.ofString text)).toOption.filter fun entry => entry.isDirectory || (last != [] && last != ['.'])

namespace PathRule

def noun (rule : PathRule) : String :=
  if rule.files && !rule.directories then "File"
  else if rule.directories && !rule.files then "Directory"
  else "Path"

def problem? (rule : PathRule) (disk : Disk) (text : String) : Option String :=
  match standing? disk text with
  | none => if rule.mustExist then some "does not exist." else none
  | some entry =>
    if entry.isDirectory then if rule.directories then none else some "is a directory."
    else if rule.files then none else some "is a file."

end PathRule

/-- Why parameters are refused: they are used wrongly, or looking at a file fails. -/
inductive Refusal where
  | usage (fault : UsageFault)
  | failure (failure : Failure)

def Shape.read (disk : Disk) (parameter text : String) : Shape → Except Refusal Value
  | choice words =>
    match words.find? fun word => Text.fold word = Text.fold text with
    | some word => .ok (.text word)
    | none =>
      let listed := ", ".intercalate (words.map fun word => Text.quoted (Text.fold word))
      invalid s!"{Text.quoted text} is not one of {listed}."
  | float =>
    match Number.readFloat? text.toList with
    | some x => .ok (.float x)
    | none => invalid s!"{Text.quoted text} is not a valid float."
  | int =>
    match Number.readInt? text.toList with
    | some n => .ok (.int n)
    | none => invalid s!"{Text.quoted text} is not a valid integer."
  | path rule =>
    if text.contains '\x00' then .error (.failure (.file ⟨.nullCharacter, text⟩))
    else
      match rule.problem? disk text with
      | some problem => invalid s!"{rule.noun} {Text.quoted text} {problem}"
      | none => .ok (.text text)
where
  invalid (reason : String) : Except Refusal Value :=
    .error (.usage (.invalid parameter reason))

abbrev Parameters := Register Value

namespace Spec

def optionHint (option : OptionSpec) : String :=
  " / ".intercalate (option.names.map fun name => s!"'{name}'")

def readGiven (spec : Spec) (disk : Disk) (entry : String × Given) : Except Refusal (String × Value) :=
  match entry.2, spec.options.find? (·.key = entry.1) with
  | .flag on, _ => .ok (entry.1, .bool on)
  | .text text, some option =>
    match option.kind with
    | .valued shape => (shape.read disk (optionHint option) text).map fun v => (entry.1, v)
    | .flag _ => .ok (entry.1, .text text)
  | .text text, none => .ok (entry.1, .text text)

def readArgument (disk : Disk) (argument : ArgumentSpec) (text : String) : Except Refusal Value :=
  argument.shape.read disk s!"'{argument.label}'" text

def readArguments (disk : Disk) (argument : ArgumentSpec) (texts : List String) :
    Except Refusal (Value × List String) :=
  match texts with
  | [] => .error (.usage (.missingArgument argument.label))
  | text :: rest =>
    if argument.many then (texts.mapM (readArgument disk argument)).map fun values => (.list values, [])
    else (readArgument disk argument text).map fun v => (v, rest)

/-- Reads what stands on a command line: first the options in the order given, then the arguments. -/
def read (spec : Spec) (disk : Disk) (state : State) : Except Refusal Parameters := do
  let options ← state.given.mapM (spec.readGiven disk)
  let (values, left) ← match spec.argument with
    | some argument =>
      (readArguments disk argument state.arguments).map fun found => ([(argument.key, found.1)], found.2)
    | none => pure ([], state.arguments)
  if left.isEmpty then return options ++ values else throw (.usage (.extra left))

def faultLines (spec : Spec) (fault : UsageFault) : List String :=
  let usage := [s!"Usage: {spec.name} {spec.usage}", s!"Try '{spec.name} --help' for help.", ""]
  (if fault.tellsUsage then usage else []) ++ ["Error: " ++ fault.message]

end Spec

namespace Parameters

def text? (parameters : Parameters) (key : String) : Option String :=
  match Register.get? parameters key with
  | some (.text text) => some text
  | _ => none

def text (parameters : Parameters) (key default : String) : String :=
  (parameters.text? key).getD default

def texts (parameters : Parameters) (key : String) : List String :=
  match Register.get? parameters key with
  | some (.list items) => items.map Value.displayText
  | _ => []

def isOn (parameters : Parameters) (key : String) : Bool :=
  (Register.get? parameters key).any Value.holds

def value (parameters : Parameters) (key : String) : Value :=
  (Register.get? parameters key).getD .null

end Parameters

end PluginAudit.Command
