import PluginAudit.Conflict.Detect
import PluginAudit.Log.Logged
import PluginAudit.Value.Text

namespace PluginAudit

inductive Setting where
  | warningThreshold
  | popularityFile
  | maxWorkers
  | includeDisabled
  | skipMark
  | outputFormat
  | failOn
  | verbose
deriving Repr, DecidableEq

namespace Setting

def all : List Setting :=
  [warningThreshold, popularityFile, maxWorkers, includeDisabled, skipMark, outputFormat, failOn, verbose]

def name : Setting → String
  | warningThreshold => "warning_threshold"
  | popularityFile => "popularity_file"
  | maxWorkers => "max_workers"
  | includeDisabled => "include_disabled"
  | skipMark => "skip_prefix"
  | outputFormat => "output_format"
  | failOn => "fail_on"
  | verbose => "verbose"

def ofName? (name : String) : Option Setting :=
  all.find? (·.name = name)

def ofKey? (key : Value) : Option Setting :=
  match key.bare with
  | .text name => ofName? name
  | _ => none

def default : Setting → Value
  | warningThreshold => Conflict.defaultThreshold
  | popularityFile => .null
  | maxWorkers => .null
  | includeDisabled => .bool false
  | skipMark => .text "_"
  | outputFormat => .text "markdown"
  | failOn => .text "never"
  | verbose => .bool false

def choices? : Setting → Option (List String)
  | outputFormat => some ["markdown", "json", "table"]
  | failOn => some ["never", "info", "warning"]
  | _ => none

def accepts (setting : Setting) (v : Value) : Bool :=
  match v, setting.choices? with
  | .null, _ => false
  | .text word, some choices => choices.contains word
  | _, some _ => false
  | _, none => true

theorem ofName?_name (setting : Setting) : ofName? setting.name = some setting := by
  cases setting <;> decide

end Setting

structure Settings where
  value : Setting → Value

namespace Settings

def logger : String :=
  "mzguard.core.config"

def defaults : Settings :=
  ⟨Setting.default⟩

def set (settings : Settings) (setting : Setting) (v : Value) : Settings :=
  ⟨fun other => if other = setting then v else settings.value other⟩

def remark? (source : String) (entry : Value × Value) : Except DataFault (Option Log.Record) :=
  match Setting.ofKey? entry.1 with
  | none => do
    let key ← entry.1.display
    return some (.plain .debug logger s!"Ignoring unknown setting '{key}' from {source}")
  | some setting =>
    match entry.2, setting.choices? with
    | .null, _ => .ok none
    | v, some choices =>
      if setting.accepts v then .ok none
      else do
        let listed := ", ".intercalate choices
        let value ← v.shown
        return some (.plain .warning logger s!"Ignoring {setting.name}={value} from {source} (expected one of {listed})")
    | _, none => .ok none

def apply (settings : Settings) (entry : Value × Value) : Settings :=
  match Setting.ofKey? entry.1 with
  | some setting => if setting.accepts entry.2 then settings.set setting entry.2 else settings
  | none => settings

def applyAll (settings : Settings) (entries : Value.Entries) : Settings :=
  entries.foldl apply settings

/-- What changes settings. What is applied before a failure stays. -/
abbrev Change := Log.Noted Settings

def update (source : String) (entries : Value.Entries) : Change Unit :=
  Log.Noted.takeAll (remark? source) apply entries

def entries (settings : Settings) : Value.Entries :=
  Setting.all.map fun setting => (.text setting.name, settings.value setting)

def given (settings : Settings) : Value.Entries :=
  settings.entries.filter fun entry =>
    match entry.2 with
    | .null => false
    | _ => true

end Settings

end PluginAudit
