import PluginAudit.Analysis.Basic
import PluginAudit.Files.Disk
import PluginAudit.Log.Record
import PluginAudit.Project.LoadOrder
import PluginAudit.Script.Header

namespace PluginAudit

/-- Settings of a scan. They come from files that nobody checks, so they may be of any kind. -/
structure ScanSettings where
  maxWorkers : Value
  includeDisabled : Value
  -- Files whose names start with this text are left out.
  skipMark : Value

namespace ScanSettings

def default : ScanSettings :=
  ⟨.null, .bool false, .text "_"⟩

end ScanSettings

structure ScanNotes where
  errors : List ScanError
  warnings : List String
  -- Files done, and files in all, after each file.
  progress : List (Nat × Nat)
  records : List Log.Record

namespace ScanNotes

def empty : ScanNotes :=
  ⟨[], [], [], []⟩

end ScanNotes

namespace Scan

def logger : String :=
  "mzguard.analysis.scanner"

abbrev Outcome := Except ReadFault Plugin

/-- What going through files gives: a result for each file, failures as they came, and progress. -/
structure Pass where
  results : List (Option Plugin)
  failures : List (Path × ReadFault)
  progress : List (Nat × Nat)

/-- Goes through files one after the other; `total` files are to be done in all. -/
def sequential (parse : Path → Outcome) (total : Nat) (files : List Path) : Pass :=
  files.foldl (fun pass file =>
    let done := (pass.results.length + 1, total)
    match parse file with
    | .ok plugin =>
      { pass with results := pass.results ++ [some plugin], progress := pass.progress ++ [done] }
    | .error fault =>
      { results := pass.results ++ [none]
        failures := pass.failures ++ [(file, fault)]
        progress := pass.progress ++ [done] }) ⟨[], [], []⟩

/-- Goes through files that are done in the given order of their places. Each result is put at its file's place. -/
def parallel (parse : Path → Outcome) (files : List Path) (order : List Nat) : Pass :=
  order.foldl (fun pass place =>
    let done := (pass.progress.length + 1, files.length)
    match files[place]? with
    | none => pass
    | some file =>
      match parse file with
      | .ok plugin =>
        { pass with results := pass.results.set place (some plugin), progress := pass.progress ++ [done] }
      | .error fault =>
        { results := pass.results.set place none
          failures := pass.failures ++ [(file, fault)]
          progress := pass.progress ++ [done] }) ⟨files.map fun _ => none, [], []⟩

def parallelLimit : Nat := 10

abbrev Completion := Nat → List Nat

/-- Whether so many workers can be had. A value that does not hold leaves the choice open. -/
def checkWorkers (maxWorkers : Value) : Except SettingFault Unit :=
  if !maxWorkers.holds then .ok ()
  else
    match maxWorkers.number? with
    | some n => if n.le (.ofInt 0) then .error .fewWorkers else .ok ()
    | none => .error (.workers maxWorkers.fullKind)

/-- Goes through files, in parallel if there are many, up to one whose path no file can have. -/
def pass (parse : Path → Outcome) (maxWorkers : Value) (completion : Completion) (files : List Path) :
    Except SettingFault Pass :=
  if files.length < parallelLimit then .ok (sequential parse files.length (files.takeWhile (!·.hasNull)))
  else
    (checkWorkers maxWorkers).map fun _ =>
      parallel parse files ((completion files.length).takeWhile fun place => !(files[place]?).any Path.hasNull)

def parseFile (disk : Disk) (file : Path) : Outcome :=
  (disk.read file).map fun source => Plugin.ofSource source file.name none

def scanError (failure : Path × ReadFault) : ScanError :=
  ⟨failure.1.name, failure.2.message, failure.2.label⟩

def failureRecord (failure : Path × ReadFault) : Log.Record :=
  .plain .debug logger s!"Failed to read plugin {failure.1.render}: {failure.2.message}"

abbrev Candidates := Register String

def skips (skipMark : Value) (name : String) : Except SettingFault Bool :=
  if !skipMark.holds then .ok false
  else
    match skipMark with
    | .text mark => .ok (mark.toList.isPrefixOf name.toList)
    | mark => .error (.skipMark mark.fullKind)

def candidates (skipMark : Value) (names : List String) : Except SettingFault Candidates := do
  let kept ← names.filterM fun name => (skips skipMark name).map (!·)
  return Register.ofList (kept.map fun name => ((Path.splitName name).1, name))

def notFound (name : String) : String :=
  s!"Plugin '{name}' is in plugins.js but js/plugins/{name}.js was not found"

/-- Files in load order, the names that no file is left for, and the files that the load order does not name. -/
structure Ordered where
  files : List String
  unmatched : List String
  left : Candidates

def Ordered.take (ordered : Ordered) (name : String) : Ordered :=
  match ordered.left.get? name with
  | some file => { ordered with files := ordered.files ++ [file], left := ordered.left.filter (·.1 ≠ name) }
  | none => { ordered with unmatched := ordered.unmatched ++ [name] }

def takeNamed (candidates : Candidates) (names : List String) : Ordered :=
  names.foldl Ordered.take ⟨[], [], candidates⟩

abbrev ScanM := ExceptT Failure (StateM ScanNotes)

def log (record : Log.Record) : ScanM Unit :=
  modify fun notes => { notes with records := notes.records ++ [record] }

def warn (message : String) : ScanM Unit := do
  modify fun notes => { notes with warnings := notes.warnings ++ [message] }
  log (.plain .warning logger message)

def settingResult {α : Type} (result : Except SettingFault α) : ScanM α :=
  ExceptT.mk (pure (result.mapError .setting))

def fileResult {α : Type} (result : Except FileFault α) : ScanM α :=
  ExceptT.mk (pure (result.mapError .file))

def collect (settings : ScanSettings) (disk : Disk) (completion : Completion) (files : List Path) :
    ScanM (List Plugin) := do
  let pass ← settingResult (pass (parseFile disk) settings.maxWorkers completion files)
  modify fun notes =>
    { notes with
      errors := notes.errors ++ pass.failures.map scanError
      progress := notes.progress ++ pass.progress
      records := notes.records ++ pass.failures.map failureRecord }
  (files.find? Path.hasNull).toList.forM fun file => throw (.file (Disk.fault .nullCharacter file))
  let plugins := pass.results.filterMap id
  log (.plain .info logger s!"Read {plugins.length} plugins ({pass.failures.length} failed)")
  return plugins

/-- The load order that a plugin list gives; a list that cannot be used gives none, unless its data has no value. -/
def readOrder (includeDisabled : Value) (text : String) : ScanM (List String) :=
  match LoadOrder.read includeDisabled.holds text with
  | .ok names => pure names
  | .error (.data fault) => throw (.data fault)
  | .error trouble => do
    log (.plain .warning logger trouble.message)
    return []

def listText (disk : Disk) (plugins list : Path) : Except Failure String :=
  match disk.read list with
  | .ok text => .ok text
  | .error (.file ⟨.denied, _⟩) => .error (.project (.pluginsDenied plugins.render))
  | .error fault => .error (.unreadable fault)

def orderByList (candidates : Candidates) (names : List String) : ScanM (List String) := do
  let ordered := takeNamed candidates names
  ordered.unmatched.forM fun name => warn (notFound name)
  ordered.left.forM fun entry =>
    log (.plain .debug logger s!"Skipping {entry.1}.js: not enabled in plugins.js")
  return ordered.files

/-- The plugin files of a project in load order; without a plugin list, in the order of their names. -/
def orderFiles (settings : ScanSettings) (disk : Disk) (project plugins : Path) : ScanM (List Path) := do
  let candidates ← settingResult (candidates settings.skipMark (disk.scriptsIn plugins))
  let list := (project.child "js").child "plugins.js"
  if ← fileResult (disk.isFile list) then
    let text ← ExceptT.mk (pure (listText disk plugins list))
    let names ← readOrder settings.includeDisabled text
    let files ← orderByList candidates names
    return files.map plugins.child
  else
    log (.plain .info logger "No js/plugins.js found; using alphabetical load order")
    return candidates.map fun entry => plugins.child entry.2

def project (settings : ScanSettings) (disk : Disk) (completion : Completion) (path : String) :
    ScanM (List Plugin) := do
  let project ← fileResult (disk.fullPath path)
  if !(← fileResult (disk.pathExists project)) then throw (.project (.missing project.render))
  else if !(← fileResult (disk.isDirectory project)) then throw (.project (.notDirectory project.render))
  else
    let plugins := (project.child "js").child "plugins"
    if ← fileResult (disk.isDirectory plugins) then
      let files ← orderFiles settings disk project plugins
      collect settings disk completion files
    else
      warn s!"No plugin directory at {plugins.render}"
      return []

def files (settings : ScanSettings) (disk : Disk) (completion : Completion) (paths : List String) :
    ScanM (List Plugin) := do
  let files ← fileResult (paths.mapM fun path => disk.expandHome (Path.ofString path))
  collect settings disk completion files

def corpus (disk : Disk) (path : String) : ScanM (Register String) := do
  let directory ← fileResult (disk.fullPath path)
  if !(← fileResult (disk.isDirectory directory)) then throw (.project (.corpusNotDirectory directory.render))
  else
    let found := (disk.scriptsBelow directory).map fun parts =>
      let file : Path := { directory with parts := directory.parts ++ parts }
      ("/".intercalate parts, file, disk.read file)
    let failures := found.filterMap fun entry =>
      match entry.2.2 with
      | .error fault => some (entry.2.1, fault)
      | .ok _ => none
    modify fun notes =>
      { notes with
        errors := notes.errors ++ failures.map scanError
        records := notes.records ++ failures.map failureRecord }
    return found.filterMap fun entry =>
      match entry.2.2 with
      | .ok source => some (entry.1, source)
      | .error _ => none

def run {α : Type} (scan : ScanM α) : Except Failure α × ScanNotes :=
  (ExceptT.run scan).run ScanNotes.empty

end Scan

end PluginAudit
