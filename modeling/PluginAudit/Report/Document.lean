import PluginAudit.Analysis.Basic
import PluginAudit.Failure

namespace PluginAudit.Document

def defaultTemplate : String :=
  "# Plugin Analysis Report\n\n" ++
  "**Project:** \x7bproject_path\x7d\n" ++
  "**Plugins analyzed:** \x7bplugin_count\x7d\n\n" ++
  "## Override Conflicts\n\n" ++
  "\x7bconflicts\x7d\n\n" ++
  "## Dependency Issues\n\n" ++
  "\x7bdependencies\x7d\n\n" ++
  "## Load Order\n\n" ++
  "\x7bload_order\x7d\n" ++
  "\x7bnotes\x7d"

def unlines (lines : List String) : String :=
  "\n".intercalate lines

def conflictIcon : Severity → String
  | .warning => "🟠"
  | .info => "🔵"

def conflictItem (conflict : Conflict) : String :=
  s!"- {conflictIcon conflict.severity} **{conflict.method}** ({conflict.severity.word})\n" ++
    "  - Plugins (load order): " ++ " → ".intercalate conflict.plugins

def conflictSection : Option ConflictReport → Except DataFault String
  | none => .ok "Not checked."
  | some report => do
    let total ← (Value.int report.totalOverrides).display
    let summary := s!"**Health:** {report.health.word}  \n**Total overrides:** {total}"
    if report.conflicts.isEmpty then return summary ++ "\n\nNo plugins override the same method."
    else return summary ++ "\n\n" ++ unlines (report.conflicts.map conflictItem)

def issueIcon : Dependency.IssueSeverity → String
  | .error => "🔴"
  | .warning => "🟡"

def issueItem (issue : Dependency.Issue) : String :=
  let line := s!"- {issueIcon issue.severity} **{issue.pluginName}** [{issue.kind.word}] {issue.message}"
  let details := issue.details.getD ""
  if details ≠ "" ∧ issue.kind = .loadOrder then line ++ "\n  - " ++ details else line

def dependencySection : Option Dependency.Report → String
  | none => "Not checked."
  | some report =>
    let summary := s!"**Health:** {report.health.word}\n\n"
    if report.issues.isEmpty then summary ++ "No dependency issues."
    else summary ++ unlines (report.issues.map issueItem)

def loadOrderSection (plugins : List Plugin) : String :=
  if plugins.isEmpty then "No plugins found."
  else unlines (plugins.zipIdx.map fun entry => s!"{entry.2 + 1}. {entry.1.name}")

def noteSection (analysis : Analysis) : String :=
  let notes := analysis.warnings.map ("- ⚠️ " ++ ·) ++
    analysis.errors.map fun error => s!"- ✗ {error.file}: {error.error}"
  if notes.isEmpty then "" else "\n## Scan Notes\n\n" ++ unlines notes ++ "\n"

def fillings (analysis : Analysis) : Except DataFault (List (String × Template.Filling)) := do
  let conflicts ← conflictSection analysis.conflicts
  return [("project_path", .text analysis.projectPath),
    ("plugin_count", .count analysis.plugins.length),
    ("conflicts", .text conflicts),
    ("dependencies", .text (dependencySection analysis.dependencies)),
    ("load_order", .text (loadOrderSection analysis.plugins)),
    ("notes", .text (noteSection analysis))]

def markdown (template : String) (analysis : Analysis) : Except Failure String := do
  let fillings ← (fillings analysis).mapError .data
  (Template.fill fillings template).mapError .template

def jsonStyle : Json.Style :=
  ⟨false, true⟩

def jsonWithin (limit : Number.Limit) (analysis : Analysis) : Except Failure String :=
  (Json.dumpWithin limit jsonStyle (analysis.toValue .camel)).mapError .unwritable

def json (analysis : Analysis) : Except Failure String :=
  jsonWithin Number.usualLimit analysis

end PluginAudit.Document
