import Mathlib
import PluginAudit.Proofs.Analysis.Reading
import PluginAudit.Proofs.Json.RoundTrip
import PluginAudit.Report.Document

namespace PluginAudit

open PluginAudit.Json (Plain)

variable {limit : Number.Limit}

theorem plain_map {α : Type} {toValue : α → Value} (plain : ∀ a, Plain limit (toValue a)) (items : List α) :
    Plain limit (.list (items.map toValue)) := by
  refine .list fun item member => ?_
  obtain ⟨a, _, rfl⟩ := List.mem_map.mp member
  exact plain a

theorem plain_texts (items : List String) : Plain limit (.texts items) :=
  plain_map Plain.text items

theorem plain_option {α : Type} {toValue : α → Value} {found : Option α}
    (plain : ∀ a ∈ found, Plain limit (toValue a)) : Plain limit ((found.map toValue).getD .null) := by
  cases found with
  | none => exact .null
  | some a => exact plain a rfl

theorem Plugin.plain_toValue (plugin : Plugin) : Plain limit plugin.toValue :=
  .record (by simp [Register.names]) (by simp [Plain.text, plain_texts])

theorem ScanError.plain_toValue (error : ScanError) : Plain limit error.toValue :=
  .record (by simp [Register.names]) (by simp [Plain.text])

theorem Dependency.Issue.plain_toValue (issue : Issue) : Plain limit issue.toValue := by
  have details : Plain limit ((issue.details.map Value.text).getD .null) := plain_option fun s _ => .text s
  exact .record (by simp [Register.names]) (by simp [Plain.text, details])

theorem Dependency.Report.plain_toValue (report : Report) : Plain limit report.toValue := by
  have issues : Plain limit (.list (report.issues.map Issue.toValue)) := plain_map Issue.plain_toValue report.issues
  exact .record (by simp [Register.names]) (by simp [Plain.text, plain_texts, issues])

theorem Conflict.plain_toValue (naming : Naming) (conflict : Conflict) : Plain limit (conflict.toValue naming) := by
  refine .record ?_ (by simp [Plain.text, plain_texts])
  cases naming <;> simp [Register.names, FieldName.under, classNameField, methodNameField]

namespace ConflictReport

theorem plain_toValue (naming : Naming) {report : ConflictReport}
    (short : limit.exceeded? (Number.digitCount report.totalOverrides) = none) : Plain limit (report.toValue naming) := by
  have conflicts : Plain limit (.list (report.conflicts.map (Conflict.toValue naming))) :=
    plain_map (Conflict.plain_toValue naming) report.conflicts
  refine .record ?_ (by simp [Plain.text, conflicts, Plain.int short])
  cases naming <;> simp [Register.names, FieldName.under, totalField]

end ConflictReport

namespace Analysis

/-- The limit, if the number of overrides has more digits. -/
def exceeded? (limit : Number.Limit) (analysis : Analysis) : Option Nat :=
  analysis.conflicts.bind fun report => limit.exceeded? (Number.digitCount report.totalOverrides)

theorem plain_plugins (analysis : Analysis) : Plain limit (.list (analysis.plugins.map Plugin.toValue)) :=
  plain_map Plugin.plain_toValue analysis.plugins

theorem plain_dependencies (analysis : Analysis) :
    Plain limit ((analysis.dependencies.map Dependency.Report.toValue).getD .null) :=
  plain_option fun report _ => report.plain_toValue

theorem plain_toValue (naming : Naming) {analysis : Analysis} (short : analysis.exceeded? limit = none) :
    Plain limit (analysis.toValue naming) := by
  have conflicts : Plain limit ((analysis.conflicts.map (ConflictReport.toValue naming)).getD .null) := by
    refine plain_option fun report found => ConflictReport.plain_toValue naming ?_
    rwa [exceeded?, found, Option.bind_some] at short
  have errors : Plain limit (.list (analysis.errors.map ScanError.toValue)) :=
    plain_map ScanError.plain_toValue analysis.errors
  refine .record (by simp [Register.names]) ?_
  simp [Plain.text, plain_texts, analysis.plain_plugins, analysis.plain_dependencies, conflicts, errors]

end Analysis

namespace Document

end Document

end PluginAudit
