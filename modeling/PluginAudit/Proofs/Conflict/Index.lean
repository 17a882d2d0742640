import Mathlib
import PluginAudit.Conflict.Index
import PluginAudit.Proofs.Register

namespace PluginAudit

/-- The plugins that override a method, in load order. A name that several plugins have counts at each of its places. -/
def overriders (plugins : List Plugin) (signature : String) : List Plugin :=
  plugins.filter (signature ∈ ·.overrides)

namespace OverrideIndex

def notes (plugins : List Plugin) : List (String × String) :=
  plugins.flatMap fun plugin => plugin.overrides.map fun signature => (signature, plugin.name)

theorem add_methods (index : OverrideIndex) (plugin : Plugin) :
    (index.add plugin).methods =
      index.methods.gather (plugin.overrides.map fun signature => (signature, plugin.name)) := by
  simp only [add, Register.gather, List.foldl_map]
  rfl

theorem foldl_add_methods (plugins : List Plugin) (index : OverrideIndex) :
    (plugins.foldl add index).methods = index.methods.gather (notes plugins) := by
  induction plugins generalizing index with
  | nil => rfl
  | cons plugin rest ih =>
    rw [List.foldl_cons, ih, add_methods, ← Register.gather_append]
    rfl

theorem nodup_names_ofPlugins (plugins : List Plugin) : (ofPlugins plugins).methods.names.Nodup := by
  rw [ofPlugins, foldl_add_methods]
  exact Register.nodup_names_gather Register.nodup_names_nil _

theorem filled_ofPlugins (plugins : List Plugin) : (ofPlugins plugins).methods.Filled := by
  rw [ofPlugins, foldl_add_methods]
  exact Register.filled_nil.gather _

/-- A plugin with distinct overrides notes a method once if it overrides it, and else not at all. -/
theorem notes_of_valid {plugins : List Plugin} (valid : ∀ plugin ∈ plugins, plugin.Valid) (signature : String) :
    ((notes plugins).filter (·.1 = signature)).map Prod.snd = (overriders plugins signature).map (·.name) := by
  induction plugins with
  | nil => rfl
  | cons plugin rest ih =>
    have tail := ih fun other member => valid other (List.mem_cons_of_mem _ member)
    have nodup : plugin.overrides.Nodup := valid plugin List.mem_cons_self
    have head : (plugin.overrides.filter (· = signature)).map (fun _ => plugin.name) =
        if signature ∈ plugin.overrides then [plugin.name] else [] := by
      rw [List.filter_eq, nodup.count]
      split <;> rfl
    simp only [notes, overriders] at tail ⊢
    rw [List.flatMap_cons, List.filter_append, List.map_append, tail, List.filter_map, List.map_map]
    change (plugin.overrides.filter (· = signature)).map (fun _ => plugin.name) ++ _ = _
    rw [head]
    by_cases member : signature ∈ plugin.overrides <;> simp [member]

theorem getD_methods_ofPlugins {plugins : List Plugin} (valid : ∀ plugin ∈ plugins, plugin.Valid) (signature : String) :
    ((ofPlugins plugins).methods.get? signature).getD [] = (overriders plugins signature).map (·.name) := by
  rw [ofPlugins, foldl_add_methods, Register.getD_gather, notes_of_valid valid]
  rfl

theorem map_length_methods_ofPlugins {plugins : List Plugin} (valid : ∀ plugin ∈ plugins, plugin.Valid)
    (signature : String) :
    (((ofPlugins plugins).methods.get? signature).map fun names => (names.length : Int)) =
      if (overriders plugins signature).length = 0 then none
      else some ((overriders plugins signature).length : Int) := by
  rw [(filled_ofPlugins plugins).map_length, getD_methods_ofPlugins valid, List.length_map]

/-- The entries that become conflicts are those of methods that two or more plugins override. -/
theorem shared_entry_iff {plugins : List Plugin} (valid : ∀ plugin ∈ plugins, plugin.Valid) (signature : String)
    (names : List String) :
    (signature, names) ∈ (ofPlugins plugins).methods ∧ 2 ≤ names.length ↔
      names = (overriders plugins signature).map (·.name) ∧ 2 ≤ (overriders plugins signature).length := by
  have gathered := getD_methods_ofPlugins valid signature
  rw [← Register.get?_eq_some_iff (nodup_names_ofPlugins plugins)]
  constructor
  · rintro ⟨found, two⟩
    have same : names = (overriders plugins signature).map (·.name) := by
      simpa only [found, Option.getD_some] using gathered
    refine ⟨same, ?_⟩
    simpa [same] using two
  · rintro ⟨rfl, two⟩
    refine ⟨?_, by simpa using two⟩
    cases found : (ofPlugins plugins).methods.get? signature with
    | none =>
      rw [found, Option.getD_none] at gathered
      have empty : (overriders plugins signature).length = 0 := by simpa using (congrArg List.length gathered).symm
      omega
    | some noted => rw [← gathered, found, Option.getD_some]

theorem foldl_add_totalOverrides (plugins : List Plugin) (index : OverrideIndex) :
    (plugins.foldl add index).totalOverrides =
      index.totalOverrides + ((plugins.map (·.overrides.length)).sum : Nat) := by
  induction plugins generalizing index with
  | nil => simp
  | cons plugin rest ih =>
    rw [List.foldl_cons, ih]
    simp [add, Int.add_assoc]

theorem totalOverrides_eq_sum (plugins : List Plugin) :
    (ofPlugins plugins).totalOverrides =
      (((ofPlugins plugins).methods.map fun entry => entry.2.length).sum : Nat) := by
  have noted : (notes plugins).length = (plugins.map (·.overrides.length)).sum := by
    simp [notes, List.length_flatMap]
  rw [ofPlugins, foldl_add_totalOverrides, foldl_add_methods, Register.sum_gather, noted]
  simp [empty]

end OverrideIndex

end PluginAudit
