import PluginAudit.Files.Disk
import PluginAudit.Json.Printer
import PluginAudit.Log.Event
import PluginAudit.Text.Case

namespace PluginAudit.Log

structure Sink where
  level : Level
  json : Bool
  file : Option Path
deriving Repr, DecidableEq

namespace Sink

def initial : Sink :=
  ⟨.warning, false, none⟩

/-- The log in use, at a level if one is asked for; a new one if there is none yet. -/
def inUse (current : Option Sink) (level : Option Level) : Sink :=
  let sink := current.getD initial
  { sink with level := level.getD sink.level }

def outlets (sink : Sink) : Nat :=
  1 + sink.file.toList.length

def jsonStyle : Json.Style :=
  ⟨true, false⟩

/-- A line for a record, stamped with a time. Names that start with a low line stay out of JSON, and data that cannot be
written leave no line. -/
def line? (sink : Sink) (time : String) (record : Record) : Option String :=
  if sink.json then
    let fields := record.fields.filter fun field => field.1.toList.head? != some '_'
    (Json.dump jsonStyle (.record (
      [("asctime", .text time), ("levelname", .text record.level.name), ("name", .text record.logger),
        ("message", .text record.message)] ++ fields))).toOption
  else some s!"{time} - {record.logger} - {record.level.name} - {record.message}"

def admits (sink : Sink) (record : Record) : Bool :=
  sink.level ≤ record.level

def lines (sink : Sink) (time : String) (records : List Record) : List String :=
  (records.filter sink.admits).filterMap (sink.line? time)

def checked (sink : Sink) (record : Record) : Except DisplayFault Record :=
  if sink.admits record then
    match clash? record with
    | some name => .error (.reservedField name)
    | none => .ok record
  else .ok record

def take (sink : Sink) : List Record → List Record × Option DisplayFault
  | [] => ([], none)
  | record :: rest =>
    match sink.checked record with
    | .ok record =>
      let (taken, fault) := sink.take rest
      (record :: taken, fault)
    | .error fault => ([], some fault)

def openFile (path : Path) : Disk.Change Path := do
  Disk.Change.makeDirectories path.parent
  let full := ((← get).workingDirectory.under path).normal
  Disk.Change.append full ""
  return full

def readLevel (word : String) : Except Failure Level :=
  let name := String.ofList (Text.capital word.toList)
  match Level.ofName? name with
  | some level => .ok level
  | none => .error (.display (.unknownLevel name))

/-- Sets up the log anew. An empty file name stands for no file. A level that is not known leaves the log as it is; a file that
cannot be opened leaves it without a file. -/
def configure (old : Sink) (disk : Disk) (level : String) (json : Bool) (file : Option String) :
    Sink × Disk × Option Failure :=
  match readLevel level with
  | .error failure => (old, disk, some failure)
  | .ok level =>
    let sink : Sink := ⟨level, json, none⟩
    match file.filter (· ≠ "") with
    | none => (sink, disk, none)
    | some file =>
      match (openFile (Path.ofString file)).run disk with
      | (.ok path, disk) => ({ sink with file := some path }, disk, none)
      | (.error failure, disk) => (sink, disk, some failure)

def writeFile (sink : Sink) (disk : Disk) (lines : List String) : Disk :=
  match sink.file with
  | none => disk
  | some path => ((Disk.Change.append path ("".intercalate (lines.map (· ++ "\n")))).run disk).2

end Sink

end PluginAudit.Log
