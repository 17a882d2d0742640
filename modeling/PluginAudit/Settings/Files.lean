import PluginAudit.Files.Disk
import PluginAudit.Json.Printer
import PluginAudit.Json.Reader
import PluginAudit.Settings.Basic
import PluginAudit.Yaml.Printer
import PluginAudit.Yaml.Reader

namespace PluginAudit.Settings

open PluginAudit.Log (Logged Noted)

def userFile (disk : Disk) : Path :=
  (disk.home.child ".mzguard").child "config.yaml"

def projectFileName : String :=
  ".mzguard.yaml"

inductive Content where
  | value (v : Value)
  | unknownFormat
  | unreadable (reason : String)

/-- The value that a file holds, by the format that its suffix tells. Data without a value is a failure. -/
def parse (path : Path) (text : String) : Except Failure Content :=
  if path.suffix = ".yaml" ∨ path.suffix = ".yml" then
    match Yaml.read text.toList with
    | .ok v => .ok (.value v)
    | .error .malformed => .ok (.unreadable Yaml.errorText)
    | .error (.data fault) => .error (.data fault)
  else if path.suffix = ".json" then
    match Json.read text.toList with
    | .ok v => .ok (.value v)
    | .error (.stop place) => .ok (.unreadable (place.message text.toList))
    | .error (.data fault) => .error (.data fault)
  else .ok .unknownFormat

/-- What a settings file holds. Bytes that are no text are a failure, and so is a path that no file can have; every other
problem is not. -/
def content (disk : Disk) (path : Path) : Except Failure Content :=
  match disk.read path with
  | .ok text => parse path text
  | .error (.file fault) =>
    if fault.problem.isImproper then .error (.file fault) else .ok (.unreadable fault.message)
  | .error (.undecodable fault) => .error (.unreadable (.undecodable fault))

def warning (message : String) : Log.Record :=
  .plain .warning logger message

def loadFile (disk : Disk) (path : Path) : Change Unit := do
  let found ← Noted.ofExcept (content disk path)
  match found with
  | .unknownFormat => Noted.add (warning s!"Ignoring config file with unknown format: {path.render}")
  | .unreadable reason => Noted.add (warning s!"Failed to load config {path.render}: {reason}")
  | .value .null => return ()
  | .value v =>
    match v.entries? with
    | some entries => update path.render entries
    | none => Noted.add (warning s!"Ignoring config {path.render}: expected a mapping")

def loadFileIfPresent (disk : Disk) (path : Path) : Change Unit := do
  let present ← Noted.ofExcept ((disk.pathExists path).mapError .file)
  if present then loadFile disk path else return ()

def loadLayers (disk : Disk) (given : Value.Entries) (userFile projectDirectory : Path) : Change Unit := do
  loadFileIfPresent disk userFile
  loadFileIfPresent disk (projectDirectory.child projectFileName)
  update "command line" given

def load (disk : Disk) (given : Value.Entries) (userFile projectDirectory : Path) : Logged Settings :=
  Noted.reach defaults (loadLayers disk given userFile projectDirectory)

def loadUsual (disk : Disk) (given : Value.Entries) : Logged Settings :=
  load disk given (userFile disk) disk.workingDirectory

inductive Format where
  | yaml
  | json
deriving Repr, DecidableEq

def Format.ofWord (word : String) : Format :=
  if word = "yaml" then .yaml else .json

def jsonStyle : Json.Style :=
  ⟨true, true⟩

def print (format : Format) (entries : Value.Entries) : Except Failure String :=
  match format with
  | .yaml => ((Value.map entries).ifWritable (Yaml.print entries)).mapError .data
  | .json => (Json.dump jsonStyle (.map entries)).mapError .unwritable

def save (settings : Settings) (path : Path) (format : Format) : Disk.Change Unit := do
  Disk.Change.makeDirectories path.parent
  let text ← Disk.Change.ofExcept (print format settings.given)
  Disk.Change.write path text

end PluginAudit.Settings
