import PluginAudit.Command.Run

namespace PluginAudit.Program

def fullParts (directory : Path) (name : String) : List String :=
  ((directory.under (Path.ofString name)).normal).parts

partial def readNames (input : IO.FS.Stream) : IO (List String) := do
  let line ← input.getLine
  if line.isEmpty then return []
  let name := line.trimAscii.toString
  let rest ← readNames input
  return if name.isEmpty then rest else name :: rest

/-- The bytes of a file; none if it cannot be read. -/
def readBytes? (name : String) : IO (Option (List UInt8)) := do
  try
    return some (← IO.FS.readBinFile name).toList
  catch _ =>
    return none

def readDisk (directory home : Path) (names : List String) : IO Disk := do
  let mut disk : Disk := (⟨directory, home, [], []⟩ : Disk).addDirectories directory.parts
  for name in names do
    let parts := fullParts directory name
    disk := disk.addDirectories parts.dropLast
    match ← readBytes? name with
    | some bytes => disk := disk.put parts (.bytes bytes)
    | none => disk := { disk.put parts (.text "") with denied := parts :: disk.denied }
  return disk

def writeChanges (old new : Disk) : IO Unit := do
  for (parts, entry) in new.entries do
    if !old.entries.contains (parts, entry) then
      let name := "/" ++ "/".intercalate parts
      match entry with
      | .directory => IO.FS.createDirAll name
      | .text text => IO.FS.writeFile name text
      | .bytes bytes => IO.FS.writeBinFile name ⟨bytes.toArray⟩

end PluginAudit.Program

open PluginAudit PluginAudit.Program

def main (words : List String) : IO UInt32 := do
  let started ← IO.monoMsNow
  let directory := Path.ofString (toString (← IO.currentDir))
  let home := Path.ofString ((← IO.getEnv "HOME").getD "/")
  let disk ← readDisk directory home (← readNames (← IO.getStdin))
  let now : Command.Circumstances :=
    { completion := List.range
      elapsed := .int ((← IO.monoMsNow) - started)
      time := (← IO.getEnv "TIME").getD ""
      account := fun failure => s!"{failure.label}: {failure.message}\n" }
  let outcome := Command.run now disk words
  writeChanges disk outcome.disk
  (← IO.getStdout).putStr outcome.out
  (← IO.getStderr).putStr outcome.err
  match outcome.escaped with
  | some failure => (← IO.getStderr).putStr (now.account failure)
  | none => pure ()
  return outcome.code.toUInt32
