import PluginAudit.Analysis.Session
import PluginAudit.Command.Catalog
import PluginAudit.Conflict.Gate
import PluginAudit.Console.Sequence
import PluginAudit.Log.Sink
import PluginAudit.Popularity.Corpus
import PluginAudit.Report.Document
import PluginAudit.Report.Tables
import PluginAudit.Settings.Files

namespace PluginAudit.Command

structure Circumstances where
  completion : Scan.Completion
  -- What the clock says of a stage, in milliseconds.
  elapsed : Value
  time : String
  account : Failure → String

structure Terminal where
  disk : Disk
  out : String
  err : String
  -- The log; without one, warnings and errors go to the error stream as bare messages.
  sink : Option Log.Sink

inductive Ending where
  | exit (code : Nat)
  | escaped (failure : Failure)

abbrev Run := ExceptT Ending (StateM Terminal)

def echo (text : String) : Run Unit :=
  modify fun terminal => { terminal with out := terminal.out ++ Sequence.remove text ++ "\n" }

def printError (text : String) : Run Unit :=
  modify fun terminal => { terminal with err := terminal.err ++ text ++ "\n" }

def echoError (text : String) : Run Unit :=
  printError (Sequence.remove text)

def getDisk : Run Disk :=
  return (← get).disk

def setDisk (disk : Disk) : Run Unit :=
  modify fun terminal => { terminal with disk }

def orEscape {α : Type} : Except Failure α → Run α
  | .ok a => pure a
  | .error failure => throw (.escaped failure)

def change {α : Type} (change : Disk.Change α) : Run (Except Failure α) := do
  let (result, disk) := change.run (← getDisk)
  setDisk disk
  return result

def log (now : Circumstances) (record : Log.Record) : Run Unit := do
  match (← get).sink with
  | some sink =>
    let lines := sink.lines now.time [record]
    lines.forM printError
    setDisk (sink.writeFile (← getDisk) lines)
  | none => if Log.Level.warning ≤ record.level then printError record.message

def logAll (now : Circumstances) (records : List Log.Record) : Run Unit :=
  records.forM (log now)

def setUpLog (parameters : Parameters) : Run Unit := do
  let (sink, disk, failure) := Log.Sink.initial.configure (← getDisk) (parameters.text "logLevel" "WARNING")
    (parameters.isOn "jsonLogging") (parameters.text? "logFile")
  match failure with
  | some failure => throw (.escaped failure)
  | none => modify fun terminal => { terminal with sink := some sink, disk }

def loadSettings (now : Circumstances) (given : List (String × Value)) : Run Settings := do
  let entries := given.map fun entry => (Value.text entry.1, entry.2)
  let (result, records) := (Settings.loadUsual (← getDisk) entries).run
  logAll now records
  orEscape result

def showTrace (now : Circumstances) : Trace → Run Unit
  | .record record => log now record
  | .line text => printError text

def inSession (now : Circumstances) (settings : Settings) (verbose : Bool)
    (work : Surroundings → Session.Work Analysis) : Run (Except Failure Analysis) := do
  let disk ← getDisk
  let (started, records) := (Session.start disk settings none verbose).run
  logAll now records
  match started with
  | .error failure => return .error failure
  | .ok session =>
    let (result, _, traces) := session.run (work ⟨disk, now.completion, now.elapsed⟩)
    traces.forM (showTrace now)
    return result

def writeOutput (output text : String) : Disk.Change Path := do
  let path ← Disk.Change.ofExcept (((← get).fullPath output).mapError .file)
  Disk.Change.makeDirectories path.parent
  Disk.Change.write path text
  return path

def reportText (format : String) (analysis : Analysis) : Except Failure String :=
  if format = "json" then Document.json analysis else Document.markdown Document.defaultTemplate analysis

def giveReport (settings : Settings) (output : Option String) (analysis : Analysis) : Run (Except Failure Unit) := do
  let format := (settings.value .outputFormat).displayText
  match output with
  | none =>
    if format = "table" then
      let (lines, failure) := Tables.printAll (Tables.ofAnalysis analysis)
      modify fun terminal => { terminal with out := terminal.out ++ Tables.printed lines }
      match failure with
      | none => return .ok ()
      | some failure => return .error failure
    else
      match reportText format analysis with
      | .ok text =>
        echo text
        return .ok ()
      | .error failure => return .error failure
  | some output =>
    let written ← match reportText format analysis with
      | .ok text => change (writeOutput output text)
      | .error failure => pure (.error failure)
    match written with
    | .ok path =>
      if (settings.value .verbose).holds then echoError s!"Analysis report written to: {path.render}"
      return .ok ()
    | .error failure => return .error failure

def fail {α : Type} (message : String) (tip : Option String) : Run α := do
  echoError ("Error: " ++ message)
  tip.toList.forM fun tip => echoError ("  Tip: " ++ tip)
  throw (.exit 1)

def failAnalysis {α : Type} (now : Circumstances) (settings : Settings) (failure : Failure) : Run α :=
  match failure.family with
  | .notFound => fail ("File or directory not found: " ++ failure.message) none
  | .denied =>
    fail ("Permission denied: " ++ failure.message) (some "Check file permissions or run with appropriate access")
  | .unusable => fail failure.message none
  | .other => do
    echoError ("Error during analysis: " ++ failure.message)
    if (settings.value .verbose).holds then
      echoError "\nFull traceback:"
      modify fun terminal => { terminal with err := terminal.err ++ now.account failure }
    else echoError "  Tip: Run with --verbose to see full error details"
    throw (.exit 1)

def outputFile (parameters : Parameters) : Option String :=
  (parameters.text? "output").filter (· ≠ "")

def analyzeAndReport (now : Circumstances) (settings : Settings) (verbose : Bool) (output : Option String)
    (work : Surroundings → Session.Work Analysis) : Run Nat := do
  match ← inSession now settings verbose work with
  | .error failure => failAnalysis now settings failure
  | .ok analysis =>
    match ← giveReport settings output analysis with
    | .error failure => failAnalysis now settings failure
    | .ok () => return ConflictReport.exitCode (.ofWord (settings.value .failOn).displayText) analysis.conflicts

def switched (parameters : Parameters) (key : String) : Value :=
  if parameters.isOn key then .bool true else .null

def reportSettings (parameters : Parameters) : List (String × Value) :=
  [(Setting.popularityFile.name, parameters.value "popularity"),
    (Setting.warningThreshold.name, parameters.value "threshold"),
    (Setting.outputFormat.name, parameters.value "format"),
    (Setting.failOn.name, parameters.value "failOn")]

def scanSettings (parameters : Parameters) : List (String × Value) :=
  reportSettings parameters ++
    [(Setting.maxWorkers.name, parameters.value "workers"),
      (Setting.includeDisabled.name, switched parameters "includeDisabled"),
      (Setting.verbose.name, switched parameters "verbose")]

def scan (now : Circumstances) (parameters : Parameters) : Run Nat := do
  setUpLog parameters
  let settings ← loadSettings now (scanSettings parameters)
  analyzeAndReport now settings (settings.value .verbose).holds (outputFile parameters) fun around =>
    Session.analyze around (parameters.text "projectPath" "") (parameters.text "mode" Mode.full.name)

def check (now : Circumstances) (parameters : Parameters) : Run Nat := do
  setUpLog parameters
  let settings ← loadSettings now (reportSettings parameters)
  let mode := if parameters.isOn "dependencies" then Mode.full else Mode.conflicts
  analyzeAndReport now settings false (outputFile parameters) fun around =>
    Session.analyzeFiles around (parameters.texts "files") mode.name

def jsonText (v : Value) : Except Failure String :=
  (Json.dump Document.jsonStyle v).mapError .unwritable

def overrides (now : Circumstances) (parameters : Parameters) : Run Nat := do
  let file := parameters.text "file" ""
  let (result, notes) := Scan.run (Scan.files .default (← getDisk) now.completion [file])
  logAll now notes.records
  match ← orEscape result with
  | plugin :: _ =>
    if parameters.text "format" "text" = "json" then echo (← orEscape (jsonText plugin.toValue))
    else plugin.overrides.forM echo
    return 0
  | [] =>
    let reason := (notes.errors.head?.map ScanError.error).getD ""
    fail s!"Cannot read plugin file {file}: {reason}" none

def popularity (now : Circumstances) (parameters : Parameters) : Run Nat := do
  setUpLog parameters
  let (result, notes) := Scan.run (Scan.corpus (← getDisk) (parameters.text "corpusPath" ""))
  logAll now notes.records
  match result with
  | .error failure => fail failure.message none
  | .ok corpus =>
    let enrichment := Corpus.enrichment corpus now.time
    let text ← orEscape (jsonText (enrichment.toValue .camel))
    match outputFile parameters with
    | none => echo text
    | some output =>
      let path ← orEscape (← change (writeOutput output text))
      let top := match parameters.value "top" with
        | .int n => n
        | _ => 15
      let (lines, failure) := Tables.printAll (Tables.ofTable (Tables.ofEnrichment enrichment top) ::
        Tables.success s!"Wrote popularity to {path.render}" ::
        notes.errors.map fun error => Tables.warning s!"Skipped {error.file}: {error.error}")
      lines.forM printError
      failure.toList.forM fun failure => throw (.escaped failure)
    return 0

def exportSettings (now : Circumstances) (parameters : Parameters) : Run Nat := do
  let settings ← loadSettings now []
  let format := Settings.Format.ofWord (parameters.text "format" "yaml")
  match outputFile parameters with
  | none => echo (← orEscape (Settings.print format settings.entries))
  | some output =>
    let path := Path.ofString output
    orEscape (← change (settings.save path format))
    echo s!"Configuration exported to: {path.render}"
  return 0

def importSettings (now : Circumstances) (parameters : Parameters) : Run Nat := do
  let disk ← getDisk
  let (result, settings, records) :=
    (Settings.loadFile disk (Path.ofString (parameters.text "configFile" ""))).run Settings.defaults
  logAll now records
  orEscape result
  let path := Settings.userFile disk
  orEscape (← change (settings.save path .yaml))
  echo s!"Configuration imported and saved to: {path.render}"
  return 0

def misuse {α : Type} (spec : Spec) (fault : UsageFault) : Run α := do
  (spec.faultLines fault).forM echoError
  throw (.exit 2)

def refuse {α : Type} (spec : Spec) : Refusal → Run α
  | .usage fault => misuse spec fault
  | .failure failure => throw (.escaped failure)

def call (spec : Spec) (command : Parameters → Run Nat) (words : List String) : Run Nat := do
  match spec.readWords words with
  | .error fault => misuse spec fault
  | .ok state =>
    if (Register.get? state.given "help").isSome then
      echo s!"Usage: {spec.name} {spec.usage}"
      return 0
    else
      match spec.read (← getDisk) state with
      | .error refusal => refuse spec refusal
      | .ok parameters => command parameters

def groupWords (spec : Spec) (words : List String) : Run (List String) := do
  match spec.readWords words with
  | .error fault => misuse spec fault
  | .ok state =>
    if (Register.get? state.given "version").isSome then
      echo s!"{program}, version {version}"
      throw (.exit 0)
    else if (Register.get? state.given "help").isSome then
      echo s!"Usage: {spec.name} {spec.usage}"
      throw (.exit 0)
    else return state.arguments

/-- Runs the command of a group that words call. A word that is no command may still be an option. -/
def callMember (spec : Spec) (members : List (String × (List String → Run Nat))) (words : List String) : Run Nat := do
  match ← groupWords spec words with
  | [] =>
    echoError s!"Usage: {spec.name} {spec.usage}"
    throw (.exit 2)
  | name :: rest =>
    match members.lookup name with
    | some command => command rest
    | none =>
      let _ ← groupWords spec (name :: rest)
      misuse spec (.unknownCommand name (Text.nearest name (members.map Prod.fst)))

def configMembers (now : Circumstances) : List (String × (List String → Run Nat)) :=
  [("export", call exportSpec (exportSettings now)), ("import", call importSpec (importSettings now))]

def members (now : Circumstances) : List (String × (List String → Run Nat)) :=
  [("scan", call scanSpec (scan now)),
    ("check", call checkSpec (check now)),
    ("overrides", call overridesSpec (overrides now)),
    ("popularity", call popularitySpec (popularity now)),
    ("config", callMember configSpec (configMembers now))]

structure Outcome where
  code : Nat
  out : String
  err : String
  disk : Disk
  -- A failure that the command did not handle.
  escaped : Option Failure

def run (now : Circumstances) (disk : Disk) (words : List String) : Outcome :=
  let (result, terminal) := (ExceptT.run (callMember mainSpec (members now) words)).run ⟨disk, "", "", none⟩
  let (code, escaped) := match result with
    | .ok code => (code, none)
    | .error (.exit code) => (code, none)
    | .error (.escaped failure) => (1, some failure)
  ⟨code, terminal.out, terminal.err, terminal.disk, escaped⟩

end PluginAudit.Command
