import PluginAudit.Json.Reader
import PluginAudit.Text.Blank
import PluginAudit.Text.Finder
import PluginAudit.Value.Text

namespace PluginAudit.LoadOrder

open PluginAudit.Text

/-- Characters up to the first `]` that a semicolon follows, with the bracket. -/
def upToEnd? : List Char → Option (List Char)
  | [] => none
  | ']' :: ';' :: _ => some [']']
  | c :: rest => (upToEnd? rest).map (c :: ·)

def assignment : Finder (List Char) := fun _ text => do
  let text ← "$plugins".toList.isPrefixOf? text
  match text.dropWhile isBlank with
  | '=' :: rest =>
    match rest.dropWhile isBlank with
    | '[' :: rest => (upToEnd? rest).map fun array => ('[' :: array, 1)
    | _ => none
  | _ => none

inductive Trouble where
  | noArray
  | unreadable (reason : String)
  | data (fault : DataFault)
deriving Repr, DecidableEq

namespace Trouble

def message : Trouble → String
  | noArray => "No $plugins array found in plugins.js"
  | unreadable reason => "Cannot parse $plugins array: " ++ reason
  | data fault => fault.message

end Trouble

def entryName? (includeDisabled : Bool) : Value → Option Value
  | .map entries =>
    let name := (Value.Entries.named? entries "name").getD .null
    let status := (Value.Entries.named? entries "status").getD .null
    if name.holds && (includeDisabled || status.holds) then some name else none
  | _ => none

def namesIn (includeDisabled : Bool) : Value → Except DataFault (List String)
  | .list entries => (entries.filterMap (entryName? includeDisabled)).mapM Value.display
  | _ => .ok []

def read (includeDisabled : Bool) (text : String) : Except Trouble (List String) :=
  match assignment.first? text.toList with
  | none => .error .noArray
  | some array =>
    match Json.read array with
    | .error (.stop place) => .error (.unreadable (place.message array))
    | .error (.data fault) => .error (.data fault)
    | .ok v => (namesIn includeDisabled v).mapError .data

end PluginAudit.LoadOrder
