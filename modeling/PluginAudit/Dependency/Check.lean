import PluginAudit.Dependency.Basic
import PluginAudit.Dependency.Search

namespace PluginAudit.Dependency

def listed (between : String) (names : List String) : String :=
  between.intercalate names

namespace Issue

def duplicate (name : String) (filenames : List String) : Issue :=
  let files := listed ", " filenames
  ⟨.duplicate, .warning, name, "Duplicate plugin name \"" ++ name ++ "\" in: " ++ files, some files⟩

def missing (name target : String) : Issue :=
  ⟨.missing, .error, name,
    "\"" ++ name ++ "\" requires \"" ++ target ++ "\" but it was not found in the project", none⟩

def circular (cycle : Cycle) : Issue :=
  let path := listed " -> " cycle.path
  ⟨.circular, .error, cycle.closedBy, "Circular dependency detected: " ++ path, some path⟩

def loadOrder (name target : String) (place targetPlace : Nat) : Issue :=
  ⟨.loadOrder, .warning, name, "\"" ++ name ++ "\" depends on \"" ++ target ++ "\" but loads before it",
    some s!"{name} is at position {place + 1}, {target} is at position {targetPlace + 1}"⟩

end Issue

def filenames (plugins : List Plugin) : Register (List String) :=
  plugins.foldl (fun files plugin => files.alter plugin.name fun old => old.getD [] ++ [plugin.filename]) []

def duplicates (plugins : List Plugin) : List Issue :=
  ((filenames plugins).filter fun entry => 1 < entry.2.length).map fun entry => .duplicate entry.1 entry.2

def missing (graph : Graph) (plugins : List Plugin) : List Issue :=
  plugins.flatMap fun plugin =>
    (plugin.dependencies.filter fun target => !graph.contains target).map (.missing plugin.name)

def places (plugins : List Plugin) : Register Nat :=
  plugins.zipIdx.foldl (fun places entry => places.put entry.1.name entry.2) []

def loadOrderIssue? (places : Register Nat) (name target : String) : Option Issue := do
  let place ← places.get? name
  let targetPlace ← places.get? target
  if place < targetPlace then some (.loadOrder name target place targetPlace) else none

def outOfOrder (plugins : List Plugin) : List Issue :=
  let places := places plugins
  plugins.flatMap fun plugin => plugin.dependencies.filterMap (loadOrderIssue? places plugin.name)

def check (plugins : List Plugin) : Report :=
  let graph := Graph.ofPlugins plugins
  let issues := duplicates plugins ++ missing graph plugins ++ graph.cycles.map .circular ++ outOfOrder plugins
  let names := plugins.map (·.name)
  ⟨issues, .ofIssues issues, names, names⟩

end PluginAudit.Dependency
