import Mathlib
import PluginAudit.Popularity.Corpus
import PluginAudit.Proofs.Conflict.Reordering
import PluginAudit.Script.Header

namespace PluginAudit

namespace Corpus

def having (keys : String → List String) (corpus : Corpus) (key : String) : Corpus :=
  corpus.filter fun entry => key ∈ keys entry.2

theorem getD_note (found : Writers) (plugin key other : String) :
    ((note found plugin key).get? other).getD [] =
      if other = key ∧ plugin ∉ (found.get? other).getD [] then (found.get? other).getD [] ++ [plugin]
      else (found.get? other).getD [] := by
  rw [note, Register.get?_alter]
  by_cases same : other = key
  · subst same
    by_cases present : plugin ∈ (found.get? other).getD [] <;> simp [present]
  · simp [same]

theorem getD_foldl_note (found : Writers) (plugin : String) (keys : List String) (key : String) :
    ((keys.foldl (note · plugin) found).get? key).getD [] =
      if key ∈ keys ∧ plugin ∉ (found.get? key).getD [] then (found.get? key).getD [] ++ [plugin]
      else (found.get? key).getD [] := by
  induction keys generalizing found with
  | nil => simp
  | cons other rest ih =>
    rw [List.foldl_cons, ih, getD_note]
    by_cases present : plugin ∈ (found.get? key).getD []
    · simp [present]
    · by_cases same : key = other
      · subst same
        simp [present]
      · simp [present, same]

theorem getD_foldl_writers (keys : String → List String) {corpus : Corpus} (nodup : corpus.names.Nodup)
    (found : Writers) (key : String) (fresh : ∀ name ∈ corpus.names, name ∉ (found.get? key).getD []) :
    ((corpus.foldl (fun found entry => (keys entry.2).foldl (note · entry.1) found) found).get? key).getD [] =
      (found.get? key).getD [] ++ (having keys corpus key).names := by
  induction corpus generalizing found with
  | nil => simp [having, Register.names]
  | cons entry rest ih =>
    obtain ⟨absent, nodupRest⟩ := List.nodup_cons.mp nodup
    -- No script before this one has its name, so its keys are noted and never found to be noted already.
    have noted := getD_foldl_note found entry.1 (keys entry.2) key
    have freshEntry : entry.1 ∉ (found.get? key).getD [] := fresh entry.1 List.mem_cons_self
    simp only [freshEntry, not_false_eq_true, and_true] at noted
    rw [List.foldl_cons, ih nodupRest, noted]
    · by_cases has : key ∈ keys entry.2 <;> simp [has, having, Register.names]
    · intro name member
      have freshName := fresh name (List.mem_cons_of_mem _ member)
      have different : name ≠ entry.1 := fun same => absent (same ▸ member)
      rw [noted]
      split <;> simp [freshName, different]

/-- The writers of a key are the scripts that give rise to it, in the order of the corpus. -/
theorem getD_writers (keys : String → List String) {corpus : Corpus} (nodup : corpus.names.Nodup) (key : String) :
    ((writers keys corpus).get? key).getD [] = (having keys corpus key).names :=
  (getD_foldl_writers keys nodup [] key fun _ _ => List.not_mem_nil).trans (List.nil_append _)

/-- What holds of no writers and stays when one is noted holds of the writers of a corpus. -/
theorem writers_induction {motive : Writers → Prop} (start : motive [])
    (step : ∀ found plugin key, motive found → motive (note found plugin key)) (keys : String → List String)
    (corpus : Corpus) : motive (writers keys corpus) := by
  refine List.foldlRecOn corpus _ start ?_
  intro found holds entry _
  exact List.foldlRecOn (keys entry.2) _ holds fun found holds key _ => step found entry.1 key holds

theorem nodup_names_writers (keys : String → List String) (corpus : Corpus) : (writers keys corpus).names.Nodup :=
  writers_induction (motive := fun found => found.names.Nodup) Register.nodup_names_nil
    (fun _ _ _ nodup => Register.nodup_names_alter nodup _ _) keys corpus

theorem filled_writers (keys : String → List String) (corpus : Corpus) : (writers keys corpus).Filled := by
  apply writers_induction (motive := Register.Filled) Register.filled_nil
  intro found plugin key filled
  apply filled.alter
  dsimp only
  split
  · rename_i present
    exact List.ne_nil_of_mem present
  · simp

theorem perm_ranked (found : Writers) :
    (ranked found).Perm (found.map fun entry => (entry.1, (entry.2.length : Int))) :=
  List.mergeSort_perm _ _

theorem nodup_names_ranked {found : Writers} (nodup : found.names.Nodup) : (ranked found).names.Nodup := by
  apply ((perm_ranked found).map Prod.fst).nodup_iff.mpr
  rw [← Register.names_map (fun plugins : List String => (plugins.length : Int)) found] at nodup
  exact nodup

theorem get?_ranked {found : Writers} (nodup : found.names.Nodup) (key : String) :
    (ranked found).get? key = (found.get? key).map fun plugins => (plugins.length : Int) := by
  rw [Register.get?_of_perm (nodup_names_ranked nodup) (perm_ranked found),
    Register.get?_map (fun plugins : List String => (plugins.length : Int))]

/-- A key is counted once for each script that has it; one that no script has is not there. -/
theorem get?_ranked_writers (keys : String → List String) {corpus : Corpus} (nodup : corpus.names.Nodup)
    (key : String) :
    (ranked (writers keys corpus)).get? key =
      if (having keys corpus key).length = 0 then none else some ((having keys corpus key).length : Int) := by
  rw [get?_ranked (nodup_names_writers keys corpus), (filled_writers keys corpus).map_length, getD_writers keys nodup,
    Register.names, List.length_map]

/-- The plugins that the scripts of a corpus are, whatever files and names they have. -/
def plugins (corpus : Corpus) (filename : String → String) (name : String → Option String) : List Plugin :=
  corpus.map fun entry => .ofSource entry.2 (filename entry.1) (name entry.1)

section Plugins

variable {corpus : Corpus} {filename : String → String} {name : String → Option String} {loaded : List Plugin}

theorem valid_of_perm_plugins (perm : loaded.Perm (corpus.plugins filename name)) :
    ∀ plugin ∈ loaded, plugin.Valid := by
  intro plugin member
  obtain ⟨entry, _, rfl⟩ := List.mem_map.mp (perm.mem_iff.mp member)
  exact Plugin.valid_ofSource _ _ _

theorem length_overriders_plugins (perm : loaded.Perm (corpus.plugins filename name)) (signature : String) :
    (overriders loaded signature).length = (having Script.signatures corpus signature).length := by
  have same := (overriders_perm perm signature).length_eq
  rw [same, overriders, plugins, List.filter_map, List.length_map]
  rfl

theorem map_length_methods (nodup : corpus.names.Nodup) (perm : loaded.Perm (corpus.plugins filename name))
    (signature : String) :
    ((OverrideIndex.ofPlugins loaded).methods.get? signature).map (fun names => (names.length : Int)) =
      (ranked (writers Script.signatures corpus)).get? signature := by
  rw [OverrideIndex.map_length_methods_ofPlugins (valid_of_perm_plugins perm), length_overriders_plugins perm,
    get?_ranked_writers _ nodup]

theorem perm_methods (nodup : corpus.names.Nodup) (perm : loaded.Perm (corpus.plugins filename name)) :
    ((OverrideIndex.ofPlugins loaded).methods.map fun entry => (entry.1, (entry.2.length : Int))).Perm
      (ranked (writers Script.signatures corpus)) := by
  apply Register.perm_of_get?
  · rw [Register.names_map (fun names : List String => (names.length : Int))]
    exact OverrideIndex.nodup_names_ofPlugins loaded
  · exact nodup_names_ranked (nodup_names_writers _ _)
  · intro signature
    rw [Register.get?_map (fun names : List String => (names.length : Int)), map_length_methods nodup perm]

theorem two_le_iff (nodup : corpus.names.Nodup) (perm : loaded.Perm (corpus.plugins filename name))
    (signature : String) :
    2 ≤ (overriders loaded signature).length ↔
      ∃ n, (ranked (writers Script.signatures corpus)).get? signature = some n ∧ 2 ≤ n := by
  rw [get?_ranked_writers _ nodup, length_overriders_plugins perm]
  split
  · rename_i none
    simp [none]
  · simp

end Plugins

/-- The plugins of a corpus, in any load order, are indexed as the corpus is counted, and the methods in conflict are
those counted twice or more. -/
theorem enrichment_agrees {corpus : Corpus} (nodup : corpus.names.Nodup) (filename : String → String)
    (name : String → Option String) {loaded : List Plugin} (perm : loaded.Perm (corpus.plugins filename name))
    (generatedAt : String) (popularity : Popularity) {threshold : Value} {limit : Exact}
    (numeric : threshold.number? = some limit) :
    (∀ plugin ∈ loaded, Plugin.reader plugin.toValue = .ok plugin) ∧
      (OverrideIndex.ofPlugins loaded).methods.names.Perm (corpus.enrichment generatedAt).methodPopularity.names ∧
      (∀ signature, ((OverrideIndex.ofPlugins loaded).methods.get? signature).map (fun names => (names.length : Int)) =
        (corpus.enrichment generatedAt).methodPopularity.get? signature) ∧
      (OverrideIndex.ofPlugins loaded).totalOverrides =
        ((corpus.enrichment generatedAt).methodPopularity.map Prod.snd).sum ∧
      ∃ report, ConflictReport.detect loaded popularity threshold = .ok report ∧
        ∀ signature, signature ∈ report.conflicts.map (·.method) ↔
          ∃ n, (corpus.enrichment generatedAt).methodPopularity.get? signature = some n ∧ 2 ≤ n := by
  have valid := valid_of_perm_plugins perm
  have counted := perm_methods nodup perm
  refine ⟨fun plugin member => Plugin.reader_toValue (valid plugin member), ?_, map_length_methods nodup perm, ?_,
    ConflictReport.ofPlugins loaded popularity limit, ConflictReport.detect_of_number numeric loaded popularity, ?_⟩
  · rw [← Register.names_map (fun names : List String => (names.length : Int))]
    exact counted.map Prod.fst
  · rw [OverrideIndex.totalOverrides_eq_sum]
    refine Eq.trans ?_ (counted.map Prod.snd).sum_eq
    simp [Function.comp_def]
  · intro signature
    rw [ConflictReport.mem_methods_iff valid]
    exact two_le_iff nodup perm signature

def seasons : Corpus :=
  [("Weather", "Map.prototype.update = start;\nMap.prototype.update = next;\nMap.prototype.setup = next;"),
    ("Season", "Map.prototype.update = turn;")]

theorem enrichment_agrees_seasons :
    let loaded := (seasons.plugins (· ++ ".js") fun _ => none).reverse
    let counts := (seasons.enrichment "").methodPopularity
    seasons.names.Nodup ∧ loaded.Perm (seasons.plugins (· ++ ".js") fun _ => none) ∧
      Value.number? (.int 1) = some (.ofInt 1) ∧
      (∀ plugin ∈ loaded, Plugin.reader plugin.toValue = .ok plugin) ∧
      (OverrideIndex.ofPlugins loaded).methods.names.Perm counts.names ∧
      (∀ signature, ((OverrideIndex.ofPlugins loaded).methods.get? signature).map (fun names => (names.length : Int)) =
        counts.get? signature) ∧
      (OverrideIndex.ofPlugins loaded).totalOverrides = (counts.map Prod.snd).sum ∧
      ∃ report, ConflictReport.detect loaded .empty (.int 1) = .ok report ∧
        ∀ signature, signature ∈ report.conflicts.map (·.method) ↔
          ∃ n, counts.get? signature = some n ∧ 2 ≤ n := by
  have nodup : seasons.names.Nodup := by decide
  have perm := List.reverse_perm (seasons.plugins (· ++ ".js") fun _ => none)
  exact ⟨nodup, perm, rfl, enrichment_agrees nodup _ _ perm "" .empty rfl⟩

end Corpus

end PluginAudit
