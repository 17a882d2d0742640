import PluginAudit.Analysis.Basic
import PluginAudit.Failure
import PluginAudit.Log.Record

namespace PluginAudit.Log

/-- Names that every record uses itself, so that no event can use them for its data. -/
def reservedNames : List String :=
  ["name", "msg", "args", "levelname", "levelno", "pathname", "filename", "module", "exc_info", "exc_text", "stack_info",
    "lineno", "funcName", "created", "msecs", "relativeCreated", "thread", "threadName", "processName", "process",
    "message", "asctime"]

def event (level : Level) (eventType message : String) (fields : List (String × Value)) : Record :=
  ⟨level, rootName, message, ("event_type", .text eventType) :: fields⟩

def clash? (record : Record) : Option String :=
  (record.fields.map Prod.fst).find? reservedNames.contains

def eventParts : List String :=
  ["self", "level", "event_type", "message"]

def stageParts : List String :=
  ["self", "stage", "status"]

def checkNames (operation : String) (parts : List String) (fields : List (String × Value)) : Except DisplayFault Unit :=
  match (fields.map Prod.fst).find? parts.contains with
  | some name => .error (.repeatedName operation name)
  | none => .ok ()

def roundedDuration : Value → Except DisplayFault Value
  | .float x => .ok (.float (x.roundPlaces 2))
  | .int n => .ok (.int n)
  | .bool b => .ok (.int (if b then 1 else 0))
  | v => .error (.notRoundable v.kind)

def statusLevel (status : String) : Level :=
  if status = "failed" then .error else if status = "completed" then .info else .debug

def durationName : String :=
  "duration_ms"

/-- The passage of a stage. Its duration, if there is one, stands behind the other data. -/
def stageEvent (stage status : String) (fields : List (String × Value)) (duration : Option Value) : Record :=
  event (statusLevel status) "analysis_stage" s!"Stage {stage} {status}"
    (("stage", .text stage) :: ("status", .text status) :: fields ++
      duration.toList.map fun duration => (durationName, duration))

def givenEvent (level : Level) (eventType message : String) (fields : List (String × Value)) :
    Except DisplayFault Record := do
  checkNames "event" eventParts fields
  return event level eventType message fields

def givenDuration (fields : List (String × Value)) : Option Value :=
  match fields.lookup durationName with
  | some .null => none
  | duration => duration

def givenStage (stage status : String) (fields : List (String × Value)) : Except DisplayFault Record := do
  checkNames "log_scan_stage" stageParts fields
  let duration ← (givenDuration fields).mapM roundedDuration
  let fields := fields.filter fun field => field.1 ≠ durationName
  checkNames "event" eventParts fields
  return stageEvent stage status fields duration

def scanErrorEvent (error : ScanError) : Record :=
  event .warning "scan_error" s!"Could not read {error.file}: {error.error}"
    [("file", .text error.file), ("error_type", .text error.label)]

def summaryEvent (pluginCount totalOverrides conflicts warnings : Value) : Record :=
  event .info "conflict_summary"
    s!"{conflicts.displayText} conflicts ({warnings.displayText} warnings) across {pluginCount.displayText} plugins"
    [("plugin_count", pluginCount), ("total_overrides", totalOverrides), ("conflicts", conflicts), ("warnings", warnings)]

def givenSummary (pluginCount totalOverrides conflicts warnings : Value) : Except DataFault Record := do
  [conflicts, warnings, pluginCount].forM fun v => discard v.display
  return summaryEvent pluginCount totalOverrides conflicts warnings

end PluginAudit.Log
