import PluginAudit.Conflict.Detect
import PluginAudit.Console.Markup
import PluginAudit.Files.Fault
import PluginAudit.Files.Utf8
import PluginAudit.Json.Printer
import PluginAudit.Report.Template
import PluginAudit.Value.DataFault

namespace PluginAudit

inductive PopularityFault where
  | notMapping (what : NotMapping)
  | unsupported (suffix : String)
  | unreadable (path reason : String)
deriving DecidableEq

namespace PopularityFault

def message : PopularityFault → String
  | notMapping what => "Popularity data must be a mapping, got " ++ what.kind
  | unsupported suffix => s!"Unsupported popularity file type '{suffix}' (use .json, .yaml or .yml)"
  | unreadable path reason => s!"Cannot parse popularity file {path}: {reason}"

end PopularityFault

/-- A setting of the wrong kind, seen only when it is used. -/
inductive SettingFault where
  | fewWorkers
  | workers (kind : String)
  | skipMark (kind : String)
  | path (kind : String)
deriving DecidableEq

namespace SettingFault

def label : SettingFault → String
  | fewWorkers => "ValueError"
  | _ => "TypeError"

def message : SettingFault → String
  | fewWorkers => "max_workers must be greater than 0"
  | workers kind => s!"'<=' not supported between instances of '{kind}' and 'int'"
  | skipMark kind => "startswith first arg must be str or a tuple of str, not " ++ kind
  | path kind => "expected str, bytes or os.PathLike object, not " ++ kind

end SettingFault

inductive ProjectFault where
  | missing (path : String)
  | notDirectory (path : String)
  | corpusNotDirectory (path : String)
  | pluginsDenied (path : String)
  | unknownMode (mode : String)
deriving DecidableEq

namespace ProjectFault

def label : ProjectFault → String
  | pluginsDenied _ => "PermissionError"
  | _ => "ValueError"

def message : ProjectFault → String
  | missing path => "Project path does not exist: " ++ path
  | notDirectory path => "Project path is not a directory: " ++ path
  | corpusNotDirectory path => "Corpus path is not a directory: " ++ path
  | pluginsDenied path => "Cannot read plugin directory: " ++ path
  | unknownMode mode => s!"Unknown analysis mode '{mode}' (expected one of full, conflicts, dependencies)"

end ProjectFault

inductive DisplayFault where
  | reservedField (name : String)
  | unknownLevel (name : String)
  | notRoundable (kind : String)
  | unknownStage (name : String)
  | repeatedName (operation name : String)
deriving DecidableEq

namespace DisplayFault

def label : DisplayFault → String
  | notRoundable _ => "TypeError"
  | repeatedName _ _ => "TypeError"
  | _ => "KeyError"

def message : DisplayFault → String
  | reservedField name => "\"Attempt to overwrite '" ++ name ++ "' in LogRecord\""
  | unknownLevel name => Text.quoted name
  | notRoundable kind => s!"type {kind} doesn't define __round__ method"
  | unknownStage name => Text.quoted name
  | repeatedName operation name => s!"StructuredLogger.{operation}() got multiple values for argument '{name}'"

end DisplayFault

inductive ReadFault where
  | file (fault : FileFault)
  | undecodable (fault : Utf8.Fault)
deriving DecidableEq

namespace ReadFault

def label : ReadFault → String
  | file fault => fault.problem.label
  | undecodable _ => "UnicodeDecodeError"

def message : ReadFault → String
  | file fault => fault.message
  | undecodable fault => fault.message

end ReadFault

inductive Failure where
  | invalid (faults : List Fault)
  | noItems (kind : String)
  | incomparable (what : Incomparable)
  | popularity (fault : PopularityFault)
  | setting (fault : SettingFault)
  | project (fault : ProjectFault)
  | file (fault : FileFault)
  | unreadable (fault : ReadFault)
  | template (fault : Template.Fault)
  | markup (fault : Markup.Fault)
  | display (fault : DisplayFault)
  | data (fault : DataFault)
  | unwritable (what : Json.Unwritable)
deriving DecidableEq

namespace Failure

def label : Failure → String
  | invalid _ => "ValidationError"
  | noItems _ => "TypeError"
  | incomparable _ => "TypeError"
  | popularity _ => "PopularityFormatError"
  | setting fault => fault.label
  | project fault => fault.label
  | file fault => fault.problem.label
  | unreadable fault => fault.label
  | template fault => fault.label
  | markup fault => fault.label
  | display fault => fault.label
  | data fault => fault.label
  | unwritable what => what.label

def message : Failure → String
  | invalid faults => s!"{faults.length} validation errors"
  | noItems kind => s!"'{kind}' object is not iterable"
  | incomparable what => s!"'>=' not supported between instances of '{what.left}' and '{what.right}'"
  | popularity fault => fault.message
  | setting fault => fault.message
  | project fault => fault.message
  | file fault => fault.message
  | unreadable fault => fault.message
  | template fault => fault.message
  | markup fault => fault.message
  | display fault => fault.message
  | data fault => fault.message
  | unwritable what => what.message

inductive Family where
  | notFound
  | denied
  -- Something has a form that cannot be used.
  | unusable
  | other
deriving DecidableEq

def fileFamily : FileProblem → Family
  | .missing => .notFound
  | .denied => .denied
  | .nullCharacter => .unusable
  | _ => .other

def readFamily : ReadFault → Family
  | .file fault => fileFamily fault.problem
  | .undecodable _ => .unusable

def settingFamily : SettingFault → Family
  | .fewWorkers => .unusable
  | _ => .other

def projectFamily : ProjectFault → Family
  | .pluginsDenied _ => .denied
  | _ => .unusable

def family : Failure → Family
  | invalid _ => .unusable
  | popularity _ => .unusable
  | setting fault => settingFamily fault
  | project fault => projectFamily fault
  | file fault => fileFamily fault.problem
  | unreadable fault => readFamily fault
  | template fault => if fault.label = "ValueError" then .unusable else .other
  | markup fault => if fault.label = "ValueError" then .unusable else .other
  | data fault => if fault.label = "ValueError" then .unusable else .other
  | unwritable what => if what.label = "ValueError" then .unusable else .other
  | _ => .other

end Failure

def Checked.result {α : Type} : Checked α → Except Failure α
  | .ok a => .ok a
  | .faulty faults => .error (.invalid faults)
  | .aborted kind => .error (.noItems kind)

end PluginAudit
