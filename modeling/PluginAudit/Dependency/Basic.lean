import PluginAudit.Value.Checked

namespace PluginAudit

namespace Dependency

inductive IssueKind where
  | missing
  | circular
  | loadOrder
  | duplicate
deriving Repr, DecidableEq

namespace IssueKind

def word : IssueKind → String
  | missing => "missing"
  | circular => "circular"
  | loadOrder => "load-order"
  | duplicate => "duplicate"

def reader : Reader IssueKind :=
  .choice [("missing", missing), ("circular", circular), ("load-order", loadOrder), ("duplicate", duplicate)]

end IssueKind

inductive IssueSeverity where
  | error
  | warning
deriving Repr, DecidableEq

namespace IssueSeverity

def word : IssueSeverity → String
  | error => "error"
  | warning => "warning"

def reader : Reader IssueSeverity :=
  .choice [("error", error), ("warning", warning)]

end IssueSeverity

structure Issue where
  kind : IssueKind
  severity : IssueSeverity
  pluginName : String
  message : String
  details : Option String
deriving Repr, DecidableEq

namespace Issue

def reader : Reader Issue :=
  .record "DependencyIssue" fun fields =>
    Issue.mk
      <$> Reader.required fields ["type"] IssueKind.reader
      <*> Reader.required fields ["severity"] IssueSeverity.reader
      <*> Reader.required fields ["plugin_name"] .text
      <*> Reader.required fields ["message"] .text
      <*> Reader.withDefault fields ["details"] (.optional .text) none

def toValue (issue : Issue) : Value :=
  .record [
    ("type", .text issue.kind.word),
    ("severity", .text issue.severity.word),
    ("plugin_name", .text issue.pluginName),
    ("message", .text issue.message),
    ("details", (issue.details.map Value.text).getD .null)]

end Issue

inductive Health where
  | healthy
  | warnings
  | errors
deriving Repr, DecidableEq

namespace Health

def word : Health → String
  | healthy => "healthy"
  | warnings => "warnings"
  | errors => "errors"

def reader : Reader Health :=
  .choice [("healthy", healthy), ("warnings", warnings), ("errors", errors)]

/-- One error makes errors; else one issue makes warnings. -/
def ofIssues (issues : List Issue) : Health :=
  if issues.any (·.severity = .error) then errors
  else if issues.isEmpty then healthy
  else warnings

end Health

structure Report where
  -- Issues in the order in which they were detected.
  issues : List Issue
  health : Health
  loadOrder : List String
  pluginNames : List String
deriving Repr, DecidableEq

namespace Report

def reader : Reader Report :=
  .record "DependencyReport" fun fields =>
    Report.mk
      <$> Reader.withDefault fields ["issues"] (.list Issue.reader) []
      <*> Reader.withDefault fields ["health"] Health.reader .healthy
      <*> Reader.withDefault fields ["load_order"] (.list .text) []
      <*> Reader.withDefault fields ["plugin_names"] (.list .text) []

def toValue (report : Report) : Value :=
  .record [
    ("issues", .list (report.issues.map Issue.toValue)),
    ("health", .text report.health.word),
    ("load_order", .texts report.loadOrder),
    ("plugin_names", .texts report.pluginNames)]

end Report

end Dependency

end PluginAudit
