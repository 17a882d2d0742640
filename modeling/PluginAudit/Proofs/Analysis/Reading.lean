import Mathlib
import PluginAudit.Analysis.Basic
import PluginAudit.Proofs.Reading

namespace PluginAudit

theorem Checked.exists_of_andThen {α β : Type} {x : Checked α} {f : α → Checked β} {b : β}
    (read : x.andThen f = .ok b) : ∃ a, x = .ok a ∧ f a = .ok b := by
  cases x with
  | ok a => exact ⟨a, rfl, read⟩
  | _ => cases read

theorem Checked.eq_map_of_all {α : Type} {results : List (Checked α)} {items : List α}
    (accepted : Checked.all results = .ok items) : results = items.map .ok := by
  induction results generalizing items with
  | nil =>
    cases accepted
    rfl
  | cons first rest ih =>
    obtain ⟨⟨a, more⟩, both, rfl⟩ := Checked.map_eq_ok.mp accepted
    cases first <;> cases others : Checked.all rest <;> simp [others, Checked.both] at both
    obtain ⟨rfl, rfl⟩ := both
    rw [ih others]
    rfl

namespace Reader

variable {α : Type}

theorem list_map {item : Reader α} {toValue : α → Value} {items : List α}
    (accepted : ∀ a ∈ items, item (toValue a) = .ok a) : list item (.list (items.map toValue)) = .ok items := by
  have each : ((items.map toValue).zipIdx.map fun entry => (item entry.1).under (.index entry.2)) = items.map .ok := by
    calc ((items.map toValue).zipIdx.map fun entry => (item entry.1).under (.index entry.2))
        = items.zipIdx.map fun entry => (item (toValue entry.1)).under (.index entry.2) := by
          rw [List.zipIdx_map, List.map_map]
          rfl
      _ = items.zipIdx.map (Checked.ok ∘ Prod.fst) := by
          refine List.map_congr_left fun entry member => ?_
          rw [accepted entry.1 (List.fst_mem_of_mem_zipIdx member)]
          rfl
      _ = items.map .ok := by
          rw [← List.map_map, List.zipIdx_map_fst]
  rw [list, each, Checked.all_ok]

theorem exists_of_list {item : Reader α} {v : Value} {items : List α} (read : list item v = .ok items) {a : α}
    (member : a ∈ items) : ∃ w, item w = .ok a := by
  cases v with
  | list values =>
    have each := Checked.eq_map_of_all read
    have found : Checked.ok a ∈ values.zipIdx.map fun entry => (item entry.1).under (.index entry.2) := by
      rw [each]
      exact List.mem_map_of_mem member
    obtain ⟨entry, _, accepted⟩ := List.mem_map.mp found
    exact ⟨entry.1, Checked.under_eq_ok.mp accepted⟩
  | _ => cases read

theorem required_eq_ok {record : Value.Entries} {names : List String} {item : Reader α} {a : α}
    (read : required record names item = .ok a) : ∃ v, item v = .ok a := by
  unfold required at read
  split at read
  · exact ⟨_, Checked.under_eq_ok.mp read⟩
  · cases read

theorem exists_of_optional {item : Reader α} {v : Value} {a : α} (read : optional item v = .ok (some a)) :
    ∃ w, item w = .ok a := by
  unfold optional at read
  split at read
  · cases read
  · obtain ⟨b, accepted, same⟩ := Checked.map_eq_ok.mp read
    cases same
    exact ⟨_, accepted⟩

theorem optional_record {item : Reader α} {fields : α → List (String × Value)} {found : Option α}
    (accepted : ∀ a ∈ found, item (.record (fields a)) = .ok a) :
    optional item ((found.map fun a => Value.record (fields a)).getD .null) = .ok found := by
  cases found with
  | none => rfl
  | some a =>
    change (item (.record (fields a))).map some = .ok (some a)
    rw [accepted a rfl]
    rfl

end Reader

namespace Conflict

def Valid (conflict : Conflict) : Prop :=
  2 ≤ conflict.plugins.length

theorem two_le_of_pluginsReader {v : Value} {names : List String} (read : pluginsReader v = .ok names) :
    2 ≤ names.length := by
  obtain ⟨found, _, checked⟩ := Checked.exists_of_andThen read
  split at checked
  · cases checked
  · cases checked
    omega

theorem valid_of_reader {v : Value} {conflict : Conflict} (read : reader v = .ok conflict) : conflict.Valid := by
  cases v with
  | map entries =>
    -- The five fields, from the last to the first; the second holds the plugins.
    obtain ⟨_, _, fields₄, _, rfl⟩ := Checked.seq_eq_ok.mp read
    obtain ⟨_, _, fields₃, _, rfl⟩ := Checked.seq_eq_ok.mp fields₄
    obtain ⟨_, _, fields₂, _, rfl⟩ := Checked.seq_eq_ok.mp fields₃
    obtain ⟨_, plugins, fields₁, field, rfl⟩ := Checked.seq_eq_ok.mp fields₂
    obtain ⟨_, _, rfl⟩ := Checked.map_eq_ok.mp fields₁
    obtain ⟨w, accepted⟩ := Reader.required_eq_ok field
    exact two_le_of_pluginsReader accepted
  | _ => cases read

theorem reader_toValue {conflict : Conflict} (valid : conflict.Valid) (naming : Naming) :
    reader (conflict.toValue naming) = .ok conflict := by
  have plugins : pluginsReader (.texts conflict.plugins) = .ok conflict.plugins := by
    unfold pluginsReader
    rw [Reader.list_texts]
    exact if_neg (Nat.not_lt.mpr valid)
  have severity : Severity.reader (.text conflict.severity.word) = .ok conflict.severity := by
    cases conflict.severity <;> rfl
  have fields : reader (conflict.toValue naming) = Conflict.mk <$> Checked.ok conflict.method
      <*> (pluginsReader (.texts conflict.plugins)).under (.name "plugins")
      <*> (Severity.reader (.text conflict.severity.word)).under (.name "severity")
      <*> .ok conflict.className <*> .ok conflict.methodName := by
    cases naming <;> rfl
  rw [fields, plugins, severity]
  rfl

end Conflict

namespace ConflictReport

/-- Each conflict is valid, and the health goes with the conflicts. -/
structure Valid (report : ConflictReport) : Prop where
  conflicts : ∀ conflict ∈ report.conflicts, conflict.Valid
  health : report.health = .ofConflicts report.conflicts

theorem valid_of_reader {v : Value} {report : ConflictReport} (read : reader v = .ok report) : report.Valid := by
  cases v with
  | map entries =>
    obtain ⟨found, fields₃, checked⟩ := Checked.exists_of_andThen read
    obtain ⟨_, _, fields₂, _, rfl⟩ := Checked.seq_eq_ok.mp fields₃
    obtain ⟨_, _, fields₁, _, rfl⟩ := Checked.seq_eq_ok.mp fields₂
    obtain ⟨conflicts, field, rfl⟩ := Checked.map_eq_ok.mp fields₁
    unfold checkHealth at checked
    dsimp only at checked
    split at checked
    · rename_i health
      cases checked
      refine ⟨fun conflict member => ?_, health⟩
      rcases Reader.withDefault_eq_ok.mp field with ⟨_, rfl⟩ | ⟨_, _, _, accepted⟩
      · exact absurd member List.not_mem_nil
      · obtain ⟨w, accepted⟩ := Reader.exists_of_list accepted member
        exact Conflict.valid_of_reader accepted
    · cases checked
  | _ => cases read

theorem reader_toValue {report : ConflictReport} (valid : report.Valid) (naming : Naming) :
    reader (report.toValue naming) = .ok report := by
  have conflicts : Reader.list Conflict.reader (.list (report.conflicts.map (Conflict.toValue naming))) =
      .ok report.conflicts :=
    Reader.list_map fun conflict member => Conflict.reader_toValue (valid.conflicts conflict member) naming
  have health : ConflictHealth.reader (.text report.health.word) = .ok report.health := by
    cases report.health <;> rfl
  have fields : reader (report.toValue naming) = Checked.andThen (ConflictReport.mk
      <$> (Reader.list Conflict.reader
        (.list (report.conflicts.map (Conflict.toValue naming)))).under (.name "conflicts")
      <*> .ok report.totalOverrides
      <*> (ConflictHealth.reader (.text report.health.word)).under (.name "health")) checkHealth := by
    cases naming <;> rfl
  rw [fields, conflicts, health]
  exact if_pos valid.health

end ConflictReport

namespace Dependency

theorem Issue.reader_toValue (issue : Issue) : Issue.reader issue.toValue = .ok issue := by
  have kind : IssueKind.reader (.text issue.kind.word) = .ok issue.kind := by
    cases issue.kind <;> rfl
  have severity : IssueSeverity.reader (.text issue.severity.word) = .ok issue.severity := by
    cases issue.severity <;> rfl
  have details : Reader.optional Reader.text ((issue.details.map Value.text).getD .null) = .ok issue.details := by
    cases issue.details <;> rfl
  change Issue.mk <$> (IssueKind.reader (.text issue.kind.word)).under (.name "type")
    <*> (IssueSeverity.reader (.text issue.severity.word)).under (.name "severity")
    <*> .ok issue.pluginName <*> .ok issue.message
    <*> (Reader.optional Reader.text ((issue.details.map Value.text).getD .null)).under (.name "details") = .ok issue
  rw [kind, severity, details]
  rfl

theorem Report.reader_toValue (report : Report) : Report.reader report.toValue = .ok report := by
  have issues : Reader.list Issue.reader (.list (report.issues.map Issue.toValue)) = .ok report.issues :=
    Reader.list_map fun issue _ => issue.reader_toValue
  have health : Health.reader (.text report.health.word) = .ok report.health := by
    cases report.health <;> rfl
  change Report.mk <$> (Reader.list Issue.reader (.list (report.issues.map Issue.toValue))).under (.name "issues")
    <*> (Health.reader (.text report.health.word)).under (.name "health")
    <*> (Reader.list .text (.texts report.loadOrder)).under (.name "load_order")
    <*> (Reader.list .text (.texts report.pluginNames)).under (.name "plugin_names") = .ok report
  rw [issues, health, Reader.list_texts, Reader.list_texts]
  rfl

end Dependency

theorem ScanError.reader_toValue (error : ScanError) : ScanError.reader error.toValue = .ok error :=
  rfl

namespace Analysis

structure Valid (analysis : Analysis) : Prop where
  plugins : ∀ plugin ∈ analysis.plugins, plugin.Valid
  conflicts : ∀ report ∈ analysis.conflicts, report.Valid

theorem valid_of_reader {v : Value} {analysis : Analysis} (read : reader v = .ok analysis) : analysis.Valid := by
  cases v with
  | map entries =>
    obtain ⟨_, _, fields₅, _, rfl⟩ := Checked.seq_eq_ok.mp read
    obtain ⟨_, _, fields₄, _, rfl⟩ := Checked.seq_eq_ok.mp fields₅
    obtain ⟨_, conflicts, fields₃, conflictsField, rfl⟩ := Checked.seq_eq_ok.mp fields₄
    obtain ⟨_, _, fields₂, _, rfl⟩ := Checked.seq_eq_ok.mp fields₃
    obtain ⟨_, plugins, fields₁, pluginsField, rfl⟩ := Checked.seq_eq_ok.mp fields₂
    obtain ⟨_, _, rfl⟩ := Checked.map_eq_ok.mp fields₁
    constructor
    · intro plugin member
      rcases Reader.withDefault_eq_ok.mp pluginsField with ⟨_, rfl⟩ | ⟨_, _, _, accepted⟩
      · exact absurd member List.not_mem_nil
      · obtain ⟨w, accepted⟩ := Reader.exists_of_list accepted member
        exact Plugin.valid_of_reader accepted
    · intro report member
      rcases Reader.withDefault_eq_ok.mp conflictsField with ⟨_, rfl⟩ | ⟨_, _, _, accepted⟩
      · cases member
      · cases member
        obtain ⟨w, accepted⟩ := Reader.exists_of_optional accepted
        exact ConflictReport.valid_of_reader accepted
  | _ => cases read

theorem reader_toValue {analysis : Analysis} (valid : analysis.Valid) (naming : Naming) :
    reader (analysis.toValue naming) = .ok analysis := by
  have plugins : Reader.list Plugin.reader (.list (analysis.plugins.map Plugin.toValue)) = .ok analysis.plugins :=
    Reader.list_map fun plugin member => Plugin.reader_toValue (valid.plugins plugin member)
  have dependencies : Reader.optional Dependency.Report.reader
      ((analysis.dependencies.map Dependency.Report.toValue).getD .null) = .ok analysis.dependencies :=
    Reader.optional_record fun report _ => report.reader_toValue
  have conflicts : Reader.optional ConflictReport.reader
      ((analysis.conflicts.map (ConflictReport.toValue naming)).getD .null) = .ok analysis.conflicts :=
    Reader.optional_record fun report member => ConflictReport.reader_toValue (valid.conflicts report member) naming
  have errors : Reader.list ScanError.reader (.list (analysis.errors.map ScanError.toValue)) = .ok analysis.errors :=
    Reader.list_map fun error _ => error.reader_toValue
  change Analysis.mk <$> Checked.ok analysis.projectPath
    <*> (Reader.list Plugin.reader (.list (analysis.plugins.map Plugin.toValue))).under (.name "plugins")
    <*> (Reader.optional Dependency.Report.reader
      ((analysis.dependencies.map Dependency.Report.toValue).getD .null)).under (.name "dependencies")
    <*> (Reader.optional ConflictReport.reader
      ((analysis.conflicts.map (ConflictReport.toValue naming)).getD .null)).under (.name "conflicts")
    <*> (Reader.list ScanError.reader (.list (analysis.errors.map ScanError.toValue))).under (.name "errors")
    <*> (Reader.list .text (.texts analysis.warnings)).under (.name "warnings") = .ok analysis
  rw [plugins, dependencies, conflicts, errors, Reader.list_texts]
  rfl

end Analysis

end PluginAudit
