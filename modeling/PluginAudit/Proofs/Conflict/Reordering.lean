import Mathlib
import PluginAudit.Proofs.Conflict.Report

namespace PluginAudit

theorem Header.Accepted.unique {header : Header} {plugin other : Plugin} (first : header.Accepted plugin)
    (second : header.Accepted other) : plugin = other := by
  cases first with
  | data read =>
    cases second with
    | data readOther => exact Checked.ok.inj (read.symm.trans readOther)
  | plugin =>
    cases second with
    | plugin => rfl

theorem Header.perm_of_accepted {headers reordered : List Header} {plugins others : List Plugin}
    (accepted : List.Forall₂ Header.Accepted headers plugins)
    (acceptedOthers : List.Forall₂ Header.Accepted reordered others) (perm : headers.Perm reordered) :
    plugins.Perm others :=
  List.rel_perm_imp (fun _ _ _ first second => first.unique second) accepted acceptedOthers perm

theorem overriders_perm {plugins others : List Plugin} (perm : plugins.Perm others) (signature : String) :
    (overriders plugins signature).Perm (overriders others signature) :=
  perm.filter _

namespace Conflict

def heading (conflict : Conflict) : String × Severity × String × String :=
  (conflict.method, conflict.severity, conflict.className, conflict.methodName)

theorem not_before_of_before {a b : Conflict} (first : a.Before b) : ¬ b.Before a := by
  intro second
  rcases first with ⟨warning, info⟩ | ⟨same, less⟩ <;> rcases second with ⟨warning', info'⟩ | ⟨same', less'⟩
  · simp [warning] at info'
  · simp [warning, info] at same'
  · simp [warning', info'] at same
  · exact String.lt_asymm less less'

end Conflict

namespace ConflictReport

variable {plugins others : List Plugin}

theorem conflicts_eq_map (valid : ∀ plugin ∈ plugins, plugin.Valid) (popularity : Popularity) (limit : Exact) :
    (ofPlugins plugins popularity limit).conflicts =
      ((ofPlugins plugins popularity limit).conflicts.map (·.method)).map fun method =>
        Conflict.graded popularity limit method ((overriders plugins method).map (·.name)) := by
  have same : ∀ conflict ∈ (ofPlugins plugins popularity limit).conflicts, conflict =
      Conflict.graded popularity limit conflict.method ((overriders plugins conflict.method).map (·.name)) :=
    fun conflict member => ((mem_conflicts_iff valid popularity limit conflict).mp member).2
  rw [List.map_map]
  exact (List.map_id _).symm.trans (List.map_congr_left same)

/-- Whether one conflict stands before another does not depend on their plugins. -/
theorem pairwise_methods (valid : ∀ plugin ∈ plugins, plugin.Valid) (popularity : Popularity) (limit : Exact) :
    ((ofPlugins plugins popularity limit).conflicts.map (·.method)).Pairwise fun a b =>
      (Conflict.graded popularity limit a []).Before (Conflict.graded popularity limit b []) := by
  have sorted := pairwise_build (Conflict.nodup_methods_ofPlugins plugins popularity limit)
    (OverrideIndex.ofPlugins plugins).totalOverrides
  change (ofPlugins plugins popularity limit).conflicts.Pairwise Conflict.Before at sorted
  rw [conflicts_eq_map valid, List.pairwise_map] at sorted
  exact sorted

/-- The methods of the report are the same list: they are the same set, and sorted strictly. -/
theorem methods_of_perm (valid : ∀ plugin ∈ plugins, plugin.Valid) (validOthers : ∀ plugin ∈ others, plugin.Valid)
    (perm : plugins.Perm others) (popularity : Popularity) (limit : Exact) :
    (ofPlugins plugins popularity limit).conflicts.map (·.method) =
      (ofPlugins others popularity limit).conflicts.map (·.method) := by
  have same : ((ofPlugins plugins popularity limit).conflicts.map (·.method)).Perm
      ((ofPlugins others popularity limit).conflicts.map (·.method)) := by
    rw [List.perm_ext_iff_of_nodup (nodup_methods _ _ _) (nodup_methods _ _ _)]
    intro signature
    rw [mem_methods_iff valid, mem_methods_iff validOthers, (overriders_perm perm signature).length_eq]
  apply List.Perm.eq_of_pairwise _ (pairwise_methods valid _ _) (pairwise_methods validOthers _ _) same
  intro a b _ _ first second
  exact absurd second (Conflict.not_before_of_before first)

/-- Two reports that differ at most in the order of plugins inside their conflicts. -/
structure SameButPluginOrder (report other : ConflictReport) : Prop where
  headings : report.conflicts.map (·.heading) = other.conflicts.map (·.heading)
  plugins : List.Forall₂ (fun a b => a.plugins.Perm b.plugins) report.conflicts other.conflicts
  total : report.totalOverrides = other.totalOverrides
  health : report.health = other.health

theorem ofPlugins_perm (valid : ∀ plugin ∈ plugins, plugin.Valid) (validOthers : ∀ plugin ∈ others, plugin.Valid)
    (perm : plugins.Perm others) (popularity : Popularity) (limit : Exact) :
    (ofPlugins plugins popularity limit).SameButPluginOrder (ofPlugins others popularity limit) := by
  have first := conflicts_eq_map valid popularity limit
  have second := conflicts_eq_map validOthers popularity limit
  rw [← methods_of_perm valid validOthers perm] at second
  constructor
  case headings =>
    rw [first, second]
    simp only [List.map_map]
    rfl
  case plugins =>
    rw [first, second, List.forall₂_map_left_iff, List.forall₂_map_right_iff, List.forall₂_same]
    intro method _
    exact (overriders_perm perm method).map _
  case total => rw [totalOverrides_eq, totalOverrides_eq, (perm.map _).sum_eq]
  case health =>
    change ConflictHealth.ofConflicts (ofPlugins plugins popularity limit).conflicts =
      ConflictHealth.ofConflicts (ofPlugins others popularity limit).conflicts
    rw [first, second]
    simp only [ConflictHealth.ofConflicts, List.isEmpty_map]

/-- Detection on headers in two orders gives reports that differ at most in the order of plugins inside conflicts. -/
theorem detect_perm {headers reordered : List Header} (accepted : List.Forall₂ Header.Accepted headers plugins)
    (acceptedOthers : List.Forall₂ Header.Accepted reordered others) (perm : headers.Perm reordered)
    (popularity : Popularity) {threshold : Value} {limit : Exact} (numeric : threshold.number? = some limit) :
    ∃ report other, detect plugins popularity threshold = .ok report ∧
      detect others popularity threshold = .ok other ∧ report.SameButPluginOrder other := by
  refine ⟨ofPlugins plugins popularity limit, ofPlugins others popularity limit,
    detect_of_number numeric plugins popularity, detect_of_number numeric others popularity, ?_⟩
  exact ofPlugins_perm (Header.valid_of_accepted accepted) (Header.valid_of_accepted acceptedOthers)
    (Header.perm_of_accepted accepted acceptedOthers perm) popularity limit

def seasonData : List Value :=
  [.record [("name", .text "Weather"), ("overrides",
      .list [.text "Actor.prototype.setup", .text "Map.prototype.update"])],
    .record [("name", .text "Clock"), ("overrides", .text "Map.prototype.update")],
    .record [("name", .text "Season"), ("overrides",
      .list [.text "Map.prototype.update", .text "Actor.prototype.setup"])]]

def seasonPlugins : List Plugin :=
  [⟨"", "Weather", ["Actor.prototype.setup", "Map.prototype.update"], [], [], [], ""⟩,
    ⟨"", "Clock", ["Map.prototype.update"], [], [], [], ""⟩,
    ⟨"", "Season", ["Map.prototype.update", "Actor.prototype.setup"], [], [], [], ""⟩]

theorem detect_perm_season :
    List.Forall₂ Header.Accepted (seasonData.map .data) seasonPlugins ∧
      List.Forall₂ Header.Accepted (seasonData.reverse.map .data) seasonPlugins.reverse ∧
      (seasonData.map Header.data).Perm (seasonData.reverse.map .data) ∧
      Value.number? (.int 10) = some (.ofInt 10) ∧
      ∃ report other, detect seasonPlugins ⟨[("Map", .whole 12)]⟩ (.int 10) = .ok report ∧
        detect seasonPlugins.reverse ⟨[("Map", .whole 12)]⟩ (.int 10) = .ok other ∧
        report.SameButPluginOrder other := by
  have accepted : List.Forall₂ Header.Accepted (seasonData.map .data) seasonPlugins :=
    .cons (.data rfl) (.cons (.data rfl) (.cons (.data rfl) .nil))
  have acceptedReversed : List.Forall₂ Header.Accepted (seasonData.reverse.map .data) seasonPlugins.reverse :=
    .cons (.data rfl) (.cons (.data rfl) (.cons (.data rfl) .nil))
  have perm : (seasonData.map Header.data).Perm (seasonData.reverse.map .data) :=
    (List.reverse_perm seasonData).symm.map _
  exact ⟨accepted, acceptedReversed, perm, rfl, detect_perm accepted acceptedReversed perm _ rfl⟩

end ConflictReport

end PluginAudit
