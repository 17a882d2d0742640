import PluginAudit.Plugin
import PluginAudit.Register

namespace PluginAudit.Dependency

abbrev Graph := Register Plugin

namespace Graph

def ofPlugins (plugins : List Plugin) : Graph :=
  plugins.foldl (fun graph plugin => graph.put plugin.name plugin) []

def contains (graph : Graph) (name : String) : Bool :=
  (graph.get? name).isSome

def targets (graph : Graph) (name : String) : List String :=
  ((graph.get? name).map Plugin.dependencies).getD []

def Edge (graph : Graph) (name target : String) : Prop :=
  target ∈ graph.targets name ∧ graph.contains name ∧ graph.contains target

end Graph

end PluginAudit.Dependency
