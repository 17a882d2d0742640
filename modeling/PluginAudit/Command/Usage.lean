import PluginAudit.Text.Quoted

namespace PluginAudit.Command

inductive UsageFault where
  -- No such option; some others have similar names.
  | unknownOption (name : String) (near : List String)
  | noValue (name : String)
  | unwantedValue (name : String)
  | missingArgument (label : String)
  | invalid (parameter reason : String)
  | extra (arguments : List String)
  | unknownCommand (name : String) (near : List String)
deriving DecidableEq

namespace UsageFault

def proposal : List String → String
  | [] => ""
  | [name] => s!" Did you mean {Text.quoted name}?"
  | names =>
    let listed := ", ".intercalate ((names.mergeSort (· ≤ ·)).map Text.quoted)
    s!" (Did you mean one of: {listed}?)"

def message : UsageFault → String
  | unknownOption name near => s!"No such option {Text.quoted name}." ++ proposal near
  | noValue name => s!"Option {Text.quoted name} requires an argument."
  | unwantedValue name => s!"Option {Text.quoted name} does not take a value."
  | missingArgument label => s!"Missing argument '{label}'."
  | invalid parameter reason => s!"Invalid value for {parameter}: {reason}"
  | extra arguments =>
    let listed := " ".intercalate arguments
    if arguments.length = 1 then s!"Got unexpected extra argument ({listed})"
    else s!"Got unexpected extra arguments ({listed})"
  | unknownCommand name near => s!"No such command {Text.quoted name}." ++ proposal near

def tellsUsage : UsageFault → Bool
  | noValue _ => false
  | unwantedValue _ => false
  | _ => true

end UsageFault

end PluginAudit.Command
