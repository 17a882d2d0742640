import PluginAudit.Dependency.Check
import PluginAudit.Log.Event
import PluginAudit.Popularity.Load
import PluginAudit.Progress
import PluginAudit.Project.Scan
import PluginAudit.Settings.Basic

namespace PluginAudit

inductive Mode where
  | full
  | conflicts
  | dependencies
deriving Repr, DecidableEq

namespace Mode

def name : Mode → String
  | full => "full"
  | conflicts => "conflicts"
  | dependencies => "dependencies"

def ofName? (name : String) : Option Mode :=
  [full, conflicts, dependencies].find? (·.name = name)

def asksDependencies : Mode → Bool
  | conflicts => false
  | _ => true

def asksConflicts : Mode → Bool
  | dependencies => false
  | _ => true

end Mode

inductive Trace where
  | record (record : Log.Record)
  | line (text : String)

namespace Trace

def record? : Trace → Option Log.Record
  | record r => some r
  | line _ => none

end Trace

structure Surroundings where
  disk : Disk
  completion : Scan.Completion
  -- What the clock says of a stage, in milliseconds.
  elapsed : Value

structure Session where
  settings : Settings
  popularity : Popularity
  progress : Progress
  notes : ScanNotes

namespace Session

open PluginAudit.Log (Logged)

/-- The popularity that settings name a file for; without a file there is none. -/
def settingsPopularity (disk : Disk) (settings : Settings) : Logged Popularity :=
  let file := settings.value .popularityFile
  if file.holds then
    match file with
    | .text path => Popularity.load disk path
    | v => throw (.setting (.path v.kind))
  else return Popularity.empty

/-- A new session. Popularity that is given goes before a file that the settings name. -/
def start (disk : Disk) (settings : Settings) (popularity : Option Popularity) (verbose : Bool) : Logged Session := do
  let popularity ← match popularity with
    | some popularity => pure popularity
    | none => settingsPopularity disk settings
  return ⟨settings, popularity, .idle verbose, .empty⟩

abbrev Work := ExceptT Failure (StateM (Session × List Trace))

def run {α : Type} (session : Session) (work : Work α) : Except Failure α × Session × List Trace :=
  (ExceptT.run work).run (session, [])

def trace (trace : Trace) : Work Unit :=
  modify fun state => (state.1, state.2 ++ [trace])

def log (record : Log.Record) : Work Unit :=
  trace (.record record)

def display (act : Progress.Act Unit) : Work Unit := do
  let (session, traces) ← get
  let (result, progress) := act.run session.progress
  set ({ session with progress }, traces)
  ExceptT.mk (pure result)

def current : Work Session :=
  return (← get).1

def ofExcept {α : Type} (result : Except Failure α) : Work α :=
  ExceptT.mk (pure result)

def scanSettings (settings : Settings) : ScanSettings :=
  ⟨settings.value .maxWorkers, settings.value .includeDisabled, settings.value .skipMark⟩

def scan (scan : ScanSettings → Scan.ScanM (List Plugin)) : Work (Except Failure (List Plugin)) := do
  let session ← current
  let (result, notes) := Scan.run (scan (scanSettings session.settings))
  modify fun state => ({ state.1 with notes }, state.2 ++ notes.records.map .record)
  notes.progress.forM fun step => display (Progress.advance step.1 step.2)
  return result

def isScanFailure (failure : Failure) : Bool :=
  failure.family = .unusable || failure.family = .denied

def scanProject (around : Surroundings) (path : String) : Work (List Plugin) := do
  display (Progress.startStage .scan)
  log (Log.stageEvent "scan" "started" [("project", .text path)] none)
  match ← scan fun settings => Scan.project settings around.disk around.completion path with
  | .ok plugins => return plugins
  | .error failure =>
    if isScanFailure failure then
      log (Log.stageEvent "scan" "failed" [("project", .text path)] none)
      display Progress.finish
    throw failure

def scanFiles (around : Surroundings) (paths : List String) : Work (List Plugin) := do
  display (Progress.startStage .scan)
  let result ← scan fun settings => Scan.files settings around.disk around.completion paths
  ofExcept result

def tellScan (around : Surroundings) (plugins : List Plugin) : Work Unit := do
  let errors := (← current).notes.errors
  log (Log.stageEvent "scan" "completed"
    [("plugin_count", .int plugins.length), ("failed", .int errors.length)] (some around.elapsed))
  errors.forM fun error => log (Log.scanErrorEvent error)
  display (Progress.completeStage s!"Read {plugins.length} plugins")

def checkDependencies (around : Surroundings) (plugins : List Plugin) : Work Dependency.Report := do
  display (Progress.startStage .dependencies)
  let report := Dependency.check plugins
  log (Log.stageEvent "dependencies" "completed"
    [("issues", .int report.issues.length), ("health", .text report.health.word)] (some around.elapsed))
  display (Progress.completeStage s!"{report.issues.length} dependency issues")
  return report

def detectorLogger : String :=
  "mzguard.analysis.detector"

def detectConflicts (plugins : List Plugin) : Work ConflictReport := do
  let session ← current
  display (Progress.startStage .conflicts)
  let threshold := session.settings.value .warningThreshold
  let report ← ofExcept ((ConflictReport.detect plugins session.popularity threshold).mapError .incomparable)
  let found := report.conflicts.length
  let warnings := report.conflicts.countP (·.severity = .warning)
  log (.plain .debug detectorLogger
    s!"Checked {plugins.length} plugins: {report.totalOverrides} overrides, {found} conflicts")
  log (Log.summaryEvent (.int plugins.length) (.int report.totalOverrides) (.int found) (.int warnings))
  display (Progress.completeStage s!"{found} conflicts")
  return report

def note (kind : Progress.NoteKind) (message : String) : Work Unit := do
  let lines ← ofExcept (((← current).progress.noteLines kind message).mapError .markup)
  lines.forM fun line => trace (.line line)

def showNotes : Work Unit := do
  let notes := (← current).notes
  notes.warnings.forM fun message => note .warning message
  notes.errors.forM fun error => note .error s!"{error.file}: {error.error}"
  display Progress.finish

def ifAsked {α : Type} (asked : Bool) (work : Work α) : Work (Option α) :=
  if asked then some <$> work else pure none

def analyzePlugins (around : Surroundings) (mode : Mode) (projectPath : String) (plugins : List Plugin) :
    Work Analysis := do
  tellScan around plugins
  let dependencies ← ifAsked mode.asksDependencies (checkDependencies around plugins)
  let conflicts ← ifAsked mode.asksConflicts (detectConflicts plugins)
  showNotes
  let notes := (← current).notes
  return { projectPath, plugins, dependencies, conflicts, errors := notes.errors, warnings := notes.warnings }

def readMode (name : String) : Work Mode :=
  match Mode.ofName? name with
  | some mode => pure mode
  | none => throw (.project (.unknownMode name))

def fullPath (disk : Disk) (path : String) : Work Path :=
  ofExcept ((disk.fullPath path).mapError .file)

def analyze (around : Surroundings) (path mode : String) : Work Analysis := do
  let mode ← readMode mode
  let plugins ← scanProject around path
  let project ← fullPath around.disk path
  analyzePlugins around mode project.render plugins

def filesPath (disk : Disk) : List String → Work String
  | [] => return ""
  | path :: _ => return (← fullPath disk path).parent.render

def analyzeFiles (around : Surroundings) (paths : List String) (mode : String) : Work Analysis := do
  let mode ← readMode mode
  let plugins ← scanFiles around paths
  let project ← filesPath around.disk paths
  analyzePlugins around mode project plugins

end Session

end PluginAudit
