import PluginAudit.Files.Disk
import PluginAudit.Json.Reader
import PluginAudit.Popularity.Remark
import PluginAudit.Yaml.Reader

namespace PluginAudit.Popularity

open PluginAudit.Log (Logged)

/-- What cannot be read; data without a value is a failure of another kind. -/
def jsonFailure (path : Path) (text : String) : Json.Fault → Failure
  | .stop place => .popularity (.unreadable path.render (place.message text.toList))
  | .data fault => .data fault

def yamlFailure (path : Path) : Yaml.Fault → Failure
  | .malformed => .popularity (.unreadable path.render Yaml.errorText)
  | .data fault => .data fault

def parse (path : Path) (text : String) : Except Failure Value :=
  if path.suffix = ".json" then (Json.read text.toList).mapError (jsonFailure path text)
  else if path.suffix = ".yaml" ∨ path.suffix = ".yml" then (Yaml.read text.toList).mapError (yamlFailure path)
  else .error (.popularity (.unsupported path.suffix))

def readFile (disk : Disk) (path : String) : Except Failure (Path × Value) := do
  let path ← (disk.expandHome (Path.ofString path)).mapError .file
  let text ← (disk.read path).mapError .unreadable
  let data ← parse path text
  return (path, data)

def load (disk : Disk) (path : String) : Logged Popularity := do
  let (path, data) ← Logged.ofExcept (readFile disk path)
  let popularity ← ofData data
  Logged.add (.plain .info logger s!"Loaded popularity for {popularity.size} classes from {path.render}")
  return popularity

end PluginAudit.Popularity
