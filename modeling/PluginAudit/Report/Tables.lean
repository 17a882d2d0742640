import PluginAudit.Analysis.Basic
import PluginAudit.Console.Table
import PluginAudit.Failure
import PluginAudit.Popularity.Corpus

namespace PluginAudit.Tables

def literal (text : String) : String :=
  match Markup.render (Markup.escape text) with
  | .ok printed => printed
  | .error _ => text

def leftColumns (headings : List String) : List Column :=
  headings.map fun heading => ⟨heading, .left⟩

def ofConflicts (report : ConflictReport) : Except DataFault Table := do
  let total ← (Value.int report.totalOverrides).display
  return {
    title := s!"Override Conflicts ({total} overrides, {report.health.word})"
    columns := leftColumns ["Severity", "Method", "Plugins (load order)"]
    rows := report.conflicts.map fun conflict =>
      [conflict.severity.word, literal conflict.method, literal (" → ".intercalate conflict.plugins)] }

def ofDependencies (report : Dependency.Report) : Table :=
  { title := s!"Dependency Issues ({report.health.word})"
    columns := leftColumns ["Severity", "Type", "Plugin", "Message"]
    rows := report.issues.map fun issue =>
      [issue.severity.word, issue.kind.word, literal issue.pluginName, literal issue.message] }

def firstItems {α : Type} (top : Int) (items : List α) : List α :=
  if 0 ≤ top then items.take top.toNat else items.take (items.length - top.natAbs)

def ofEnrichment (enrichment : Enrichment) (top : Int) : Except DataFault Table := do
  let count ← (Value.int enrichment.pluginCount).display
  let rows ← (firstItems top enrichment.classPopularity).mapM fun entry => do
    let score ← (Value.int entry.2).display
    return [score, literal entry.1]
  return {
    title := s!"Most overridden classes ({count} plugins)"
    columns := [⟨"Plugins", .right⟩, ⟨"Class", .left⟩]
    rows }

abbrev Print := Except Failure (List String)

def ofTable (table : Except DataFault Table) : Print :=
  (table.map Table.lines).mapError .data

def ofMarkup (text : String) : Print :=
  (Markup.lines text).mapError .markup

def success (message : String) : Print :=
  ofMarkup ("[green]✓[/green] " ++ Markup.escape message)

def warning (message : String) : Print :=
  ofMarkup ("[yellow]⚠[/yellow] " ++ Markup.escape message)

/-- A file that could not be read. Brackets that the file's name leaves open can meet those of the reason. -/
def failure (error : ScanError) : Print :=
  ofMarkup s!"[red]✗[/red] {Markup.escape error.file}: {Markup.escape error.error}"

def ofAnalysis (analysis : Analysis) : List Print :=
  (analysis.conflicts.toList.map fun report => ofTable (ofConflicts report)) ++
    (analysis.dependencies.toList.map fun report => .ok (ofDependencies report).lines) ++
    analysis.warnings.map warning ++ analysis.errors.map failure

def printAll : List Print → List String × Option Failure
  | [] => ([], none)
  | .error failure :: _ => ([], some failure)
  | .ok lines :: rest =>
    let (more, failure) := printAll rest
    (lines ++ more, failure)

def printed (lines : List String) : String :=
  "".intercalate (lines.map (· ++ "\n"))

end PluginAudit.Tables
