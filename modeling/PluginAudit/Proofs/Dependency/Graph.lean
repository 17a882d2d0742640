import Mathlib
import PluginAudit.Dependency.Graph
import PluginAudit.Proofs.Register

namespace PluginAudit.Dependency

def lastNamed? (plugins : List Plugin) (name : String) : Option Plugin :=
  plugins.findRev? (·.name = name)

/-- The last plugin of a name requires a plugin, or asks to be loaded behind it. -/
def DependsOn (plugins : List Plugin) (name target : String) : Prop :=
  ∃ plugin, lastNamed? plugins name = some plugin ∧ target ∈ plugin.base ++ plugin.orderAfter ∧
    target ∈ plugins.map (·.name)

/-- Some plugin depends on itself, directly or through others. -/
def Circular (plugins : List Plugin) : Prop :=
  ∃ name, Relation.TransGen (DependsOn plugins) name name

theorem lastNamed?_eq_some {plugins : List Plugin} {name : String} {plugin : Plugin}
    (found : lastNamed? plugins name = some plugin) : plugin ∈ plugins ∧ plugin.name = name := by
  rw [lastNamed?, List.findRev?_eq_find?_reverse] at found
  exact ⟨List.mem_reverse.mp (List.mem_of_find?_eq_some found), by simpa using List.find?_some found⟩

theorem isSome_lastNamed?_iff (plugins : List Plugin) (name : String) :
    (lastNamed? plugins name).isSome ↔ name ∈ plugins.map (·.name) := by
  simp [lastNamed?, List.findRev?_eq_find?_reverse]

namespace Graph

theorem get?_ofPlugins (plugins : List Plugin) (name : String) :
    (ofPlugins plugins).get? name = lastNamed? plugins name := by
  have last := Register.get?_foldl_put (fun plugin : Plugin => plugin.name) (fun plugin => plugin) plugins [] name
  simpa [lastNamed?, Register.get?, ofPlugins] using last

theorem contains_iff (graph : Graph) (name : String) : graph.contains name = true ↔ name ∈ graph.names :=
  Register.isSome_get?_iff graph name

theorem contains_ofPlugins (plugins : List Plugin) (name : String) :
    (ofPlugins plugins).contains name = true ↔ name ∈ plugins.map (·.name) := by
  rw [contains, get?_ofPlugins, isSome_lastNamed?_iff]

theorem edge_ofPlugins (plugins : List Plugin) : (ofPlugins plugins).Edge = DependsOn plugins := by
  funext name target
  apply propext
  simp only [Edge, contains_ofPlugins, targets, get?_ofPlugins, DependsOn]
  cases found : lastNamed? plugins name with
  | none => simp
  | some plugin =>
    obtain ⟨member, rfl⟩ := lastNamed?_eq_some found
    have named : plugin.name ∈ plugins.map (·.name) := List.mem_map_of_mem member
    simp only [Option.map_some, Option.getD_some, Plugin.dependencies, Option.some.injEq, exists_eq_left', named,
      true_and]

end Graph

theorem circular_iff (plugins : List Plugin) :
    Circular plugins ↔ ∃ name, Relation.TransGen (Graph.ofPlugins plugins).Edge name name := by
  rw [Circular, Graph.edge_ofPlugins]

end PluginAudit.Dependency
