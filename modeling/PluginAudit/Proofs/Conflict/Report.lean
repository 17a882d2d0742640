import Mathlib
import PluginAudit.Conflict.Detect
import PluginAudit.Proofs.Conflict.Index
import PluginAudit.Proofs.Reading
import PluginAudit.Proofs.Text.Sorting

namespace PluginAudit

/-- A header as detection takes it: data to be read, or a plugin that was read before. -/
inductive Header where
  | data (v : Value)
  | plugin (p : Plugin)

/-- The plugin that a header is accepted as. -/
inductive Header.Accepted : Header → Plugin → Prop where
  | data {v : Value} {plugin : Plugin} (read : Plugin.reader v = .ok plugin) : Accepted (.data v) plugin
  | plugin {v : Value} {plugin : Plugin} (read : Plugin.reader v = .ok plugin) : Accepted (.plugin plugin) plugin

theorem Header.Accepted.valid {header : Header} {plugin : Plugin} (accepted : header.Accepted plugin) :
    plugin.Valid := by
  cases accepted with
  | data read => exact Plugin.valid_of_reader read
  | plugin read => exact Plugin.valid_of_reader read

theorem Header.valid_of_accepted {headers : List Header} {plugins : List Plugin}
    (accepted : List.Forall₂ Header.Accepted headers plugins) : ∀ plugin ∈ plugins, plugin.Valid := by
  induction accepted with
  | nil => simp
  | cons first _ ih =>
    intro plugin member
    rcases List.mem_cons.mp member with rfl | member
    · exact first.valid
    · exact ih plugin member

namespace Conflict

/-- Warnings stand before all others; conflicts of one severity stand in the code-point order of their signatures. -/
def Before (a b : Conflict) : Prop :=
  (a.severity = .warning ∧ b.severity = .info) ∨ (a.severity = b.severity ∧ a.method < b.method)

theorem sortsBy_le : SortsBy le (fun conflict => conflict.severity.rank) (·.method) := by
  intro a b
  simp [le]

theorem before_of_rank {a b : Conflict}
    (sooner : (a.severity.rank : Int) < b.severity.rank ∨
      ((a.severity.rank : Int) = b.severity.rank ∧ a.method < b.method)) : a.Before b := by
  rcases sooner with less | ⟨same, low⟩
  · left
    cases ha : a.severity <;> cases hb : b.severity <;> simp [ha, hb, Severity.rank] at less ⊢
  · right
    refine ⟨?_, low⟩
    cases ha : a.severity <;> cases hb : b.severity <;> simp [ha, hb, Severity.rank] at same ⊢

def graded (popularity : Popularity) (limit : Exact) (method : String) (plugins : List String) : Conflict :=
  { method, plugins
    severity := if limit.le (popularity.score (Script.Signature.split method).1).exact then .warning else .info
    className := (Script.Signature.split method).1
    methodName := (Script.Signature.split method).2 }

theorem severity_graded (popularity : Popularity) (limit : Exact) (method : String) (plugins : List String) :
    (graded popularity limit method plugins).severity = .warning ↔
      limit.le ((popularity.scores.get? (graded popularity limit method plugins).className).getD (.whole 0)).exact =
        true := by
  change (if limit.le (popularity.score (Script.Signature.split method).1).exact = true then Severity.warning
    else .info) = .warning ↔ limit.le (popularity.score (Script.Signature.split method).1).exact = true
  split
  · rename_i reached
    simp [reached]
  · rename_i missed
    simp [missed]

theorem grade_of_number {threshold : Value} {limit : Exact} (numeric : threshold.number? = some limit)
    (popularity : Popularity) (method : String) (plugins : List String) :
    grade popularity threshold method plugins = .ok (graded popularity limit method plugins) := by
  simp only [grade, Score.reaches, numeric]
  rfl

theorem classify_of_number {threshold : Value} {limit : Exact} (numeric : threshold.number? = some limit)
    (index : OverrideIndex) (popularity : Popularity) :
    classify index popularity threshold =
      .ok ((index.methods.filter fun entry => 2 ≤ entry.2.length).map fun entry =>
        graded popularity limit entry.1 entry.2) := by
  simp only [classify, grade_of_number numeric]
  exact List.mapM_pure

/-- The conflicts of plugins in load order, in the order in which their methods first come. -/
def ofPlugins (plugins : List Plugin) (popularity : Popularity) (limit : Exact) : List Conflict :=
  ((OverrideIndex.ofPlugins plugins).methods.filter fun entry => 2 ≤ entry.2.length).map fun entry =>
    graded popularity limit entry.1 entry.2

theorem mem_ofPlugins_iff {plugins : List Plugin} (valid : ∀ plugin ∈ plugins, plugin.Valid) (popularity : Popularity)
    (limit : Exact) (conflict : Conflict) :
    conflict ∈ ofPlugins plugins popularity limit ↔
      2 ≤ (overriders plugins conflict.method).length ∧
        conflict = graded popularity limit conflict.method ((overriders plugins conflict.method).map (·.name)) := by
  simp only [ofPlugins, List.mem_map, List.mem_filter, decide_eq_true_eq]
  constructor
  · rintro ⟨⟨method, names⟩, entry, rfl⟩
    obtain ⟨same, two⟩ := (OverrideIndex.shared_entry_iff valid method names).mp entry
    refine ⟨two, ?_⟩
    subst same
    rfl
  · rintro ⟨two, same⟩
    exact ⟨(conflict.method, (overriders plugins conflict.method).map (·.name)),
      (OverrideIndex.shared_entry_iff valid _ _).mpr ⟨rfl, two⟩, same.symm⟩

theorem nodup_methods_ofPlugins (plugins : List Plugin) (popularity : Popularity) (limit : Exact) :
    ((ofPlugins plugins popularity limit).map (·.method)).Nodup := by
  have names := OverrideIndex.nodup_names_ofPlugins plugins
  have kept := (List.filter_sublist (p := fun entry : String × List String => 2 ≤ entry.2.length)
    (l := (OverrideIndex.ofPlugins plugins).methods)).map Prod.fst
  rw [ofPlugins, List.map_map]
  exact names.sublist kept

end Conflict

namespace ConflictReport

theorem detect_of_number {threshold : Value} {limit : Exact} (numeric : threshold.number? = some limit)
    (plugins : List Plugin) (popularity : Popularity) :
    detect plugins popularity threshold =
      .ok (build (Conflict.ofPlugins plugins popularity limit) (OverrideIndex.ofPlugins plugins).totalOverrides) := by
  simp only [detect, Conflict.classify_of_number numeric]
  rfl

theorem perm_build (conflicts : List Conflict) (totalOverrides : Int) :
    (build conflicts totalOverrides).conflicts.Perm conflicts :=
  List.mergeSort_perm conflicts Conflict.le

theorem pairwise_build {conflicts : List Conflict} (nodup : (conflicts.map (·.method)).Nodup) (totalOverrides : Int) :
    (build conflicts totalOverrides).conflicts.Pairwise Conflict.Before :=
  (Conflict.sortsBy_le.pairwise nodup).imp Conflict.before_of_rank

theorem health_build (conflicts : List Conflict) (totalOverrides : Int) :
    (build conflicts totalOverrides).health = .conflicts ↔ (build conflicts totalOverrides).conflicts ≠ [] := by
  simp only [build, ConflictHealth.ofConflicts, List.isEmpty_iff]
  split
  · rename_i empty
    simp [empty]
  · rename_i some
    simp [some]

theorem totalOverrides_ofPlugins {plugins : List Plugin} (valid : ∀ plugin ∈ plugins, plugin.Valid) :
    (OverrideIndex.ofPlugins plugins).totalOverrides =
      ((plugins.map fun plugin => plugin.overrides.toFinset.card).sum : Nat) := by
  have distinct : plugins.map (fun plugin => plugin.overrides.toFinset.card) = plugins.map (·.overrides.length) :=
    List.map_congr_left fun plugin member => List.toFinset_card_of_nodup (valid plugin member)
  rw [distinct, OverrideIndex.ofPlugins, OverrideIndex.foldl_add_totalOverrides]
  exact Int.zero_add _

def ofPlugins (plugins : List Plugin) (popularity : Popularity) (limit : Exact) : ConflictReport :=
  build (Conflict.ofPlugins plugins popularity limit) (OverrideIndex.ofPlugins plugins).totalOverrides

theorem mem_conflicts_iff {plugins : List Plugin} (valid : ∀ plugin ∈ plugins, plugin.Valid) (popularity : Popularity)
    (limit : Exact) (conflict : Conflict) :
    conflict ∈ (ofPlugins plugins popularity limit).conflicts ↔
      2 ≤ (overriders plugins conflict.method).length ∧
        conflict =
          Conflict.graded popularity limit conflict.method ((overriders plugins conflict.method).map (·.name)) :=
  (perm_build _ _).mem_iff.trans (Conflict.mem_ofPlugins_iff valid popularity limit conflict)

theorem mem_methods_iff {plugins : List Plugin} (valid : ∀ plugin ∈ plugins, plugin.Valid) (popularity : Popularity)
    (limit : Exact) (signature : String) :
    signature ∈ (ofPlugins plugins popularity limit).conflicts.map (·.method) ↔
      2 ≤ (overriders plugins signature).length := by
  rw [List.mem_map]
  constructor
  · rintro ⟨conflict, member, rfl⟩
    exact ((mem_conflicts_iff valid popularity limit conflict).mp member).1
  · intro two
    exact ⟨Conflict.graded popularity limit signature ((overriders plugins signature).map (·.name)),
      (mem_conflicts_iff valid popularity limit _).mpr ⟨two, rfl⟩, rfl⟩

theorem nodup_methods (plugins : List Plugin) (popularity : Popularity) (limit : Exact) :
    ((ofPlugins plugins popularity limit).conflicts.map (·.method)).Nodup :=
  ((perm_build _ _).map _).nodup_iff.mpr (Conflict.nodup_methods_ofPlugins plugins popularity limit)

theorem totalOverrides_eq (plugins : List Plugin) (popularity : Popularity) (limit : Exact) :
    (ofPlugins plugins popularity limit).totalOverrides = ((plugins.map (·.overrides.length)).sum : Nat) :=
  (OverrideIndex.foldl_add_totalOverrides plugins .empty).trans (Int.zero_add _)

/-- What a report has to say about plugins in load order. -/
structure Describes (report : ConflictReport) (plugins : List Plugin) (popularity : Popularity) (limit : Exact) :
    Prop where
  -- A method is reported once if two or more plugins override it, and else never.
  methods : ∀ signature, (report.conflicts.map (·.method)).count signature =
    if 2 ≤ (overriders plugins signature).length then 1 else 0
  names : ∀ conflict ∈ report.conflicts, conflict.plugins = (overriders plugins conflict.method).map (·.name)
  parts : ∀ conflict ∈ report.conflicts,
    (conflict.className, conflict.methodName) = Script.Signature.split conflict.method
  severity : ∀ conflict ∈ report.conflicts,
    conflict.severity = .warning ↔
      limit.le ((popularity.scores.get? conflict.className).getD (.whole 0)).exact = true
  sorted : report.conflicts.Pairwise Conflict.Before
  total : report.totalOverrides = ((plugins.map fun plugin => plugin.overrides.toFinset.card).sum : Nat)
  health : report.health = .conflicts ↔ report.conflicts ≠ []

/-- Detection on headers that are accepted, against a threshold that is a number, gives a report that is right. -/
theorem detect_describes {headers : List Header} {plugins : List Plugin}
    (accepted : List.Forall₂ Header.Accepted headers plugins) (popularity : Popularity) {threshold : Value}
    {limit : Exact} (numeric : threshold.number? = some limit) :
    ∃ report, detect plugins popularity threshold = .ok report ∧ report.Describes plugins popularity limit := by
  have valid := Header.valid_of_accepted accepted
  refine ⟨_, detect_of_number numeric plugins popularity, ?_⟩
  have nodup := Conflict.nodup_methods_ofPlugins plugins popularity limit
  have perm := perm_build (Conflict.ofPlugins plugins popularity limit) (OverrideIndex.ofPlugins plugins).totalOverrides
  have made := Conflict.mem_ofPlugins_iff valid popularity limit
  -- Sorting changes the order only, so each conflict of the report is one that was graded.
  have reported := fun conflict => perm.mem_iff.trans (made conflict)
  constructor
  case methods =>
    intro signature
    rw [(perm.map _).count_eq, nodup.count]
    congr 1
    apply propext
    rw [List.mem_map]
    constructor
    · rintro ⟨conflict, member, rfl⟩
      exact ((made conflict).mp member).1
    · intro two
      exact ⟨Conflict.graded popularity limit signature ((overriders plugins signature).map (·.name)),
        (made _).mpr ⟨two, rfl⟩, rfl⟩
  case names =>
    intro conflict member
    rw [((reported conflict).mp member).2]
    rfl
  case parts =>
    intro conflict member
    rw [((reported conflict).mp member).2]
    rfl
  case severity =>
    intro conflict member
    rw [((reported conflict).mp member).2]
    exact Conflict.severity_graded popularity limit _ _
  case sorted => exact pairwise_build nodup _
  case total => exact totalOverrides_ofPlugins valid
  case health => exact health_build _ _

def weatherData : List Value :=
  [.record [("name", .text "Weather"), ("overrides",
      .list [.text "Map.prototype.update", .text "Map.prototype.update", .text "Map.prototype.setup"])],
    .record [("name", .text "Weather"), ("overrides", .text "Map.prototype.update")]]

def weatherPlugins : List Plugin :=
  [⟨"", "Weather", ["Map.prototype.update", "Map.prototype.setup"], [], [], [], ""⟩,
    ⟨"", "Weather", ["Map.prototype.update"], [], [], [], ""⟩]

theorem accepted_weather : List.Forall₂ Header.Accepted (weatherData.map .data) weatherPlugins :=
  .cons (.data rfl) (.cons (.data rfl) .nil)

theorem detect_describes_weather :
    List.Forall₂ Header.Accepted (weatherData.map .data) weatherPlugins ∧
      Value.number? (.int 10) = some (.ofInt 10) ∧
      ∃ report, detect weatherPlugins ⟨[("Map", .whole 12)]⟩ (.int 10) = .ok report ∧
        report.Describes weatherPlugins ⟨[("Map", .whole 12)]⟩ (.ofInt 10) :=
  ⟨accepted_weather, rfl, detect_describes accepted_weather _ rfl⟩

end ConflictReport

end PluginAudit
