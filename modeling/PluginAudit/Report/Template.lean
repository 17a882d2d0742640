import PluginAudit.Report.Template.Layout

namespace PluginAudit.Template

/-- The filling for a field. Fields without a name, or with a number, have none. -/
def lookUp (fillings : List (String × Filling)) (field : List Char) : Except Fault Filling := do
  let name := firstName field
  match ← position? name with
  | some n => throw (.noPosition n)
  | none =>
    if name.isEmpty then throw (.noPosition 0)
    match List.lookup (String.ofList name) fillings with
    | some filling => filling.parts field.length (field.drop name.length)
    | none => throw (.unknownName (String.ofList name))

def fillChars (fillings : List (String × Filling)) : Nat → List Char → Except Fault (List Char)
  | 0, _ => .error .tooDeep
  | depth + 1, template => do
    let (found, fault) := pieces (template.length + 1) template
    let parts ← found.mapM fun piece =>
      match piece with
      | .literal text => pure text
      | .field name conversion format => do
        let filling ← lookUp fillings name
        let filling ← filling.convert conversion
        let format ← if format.contains '\x7b' then fillChars fillings depth format else pure format
        lay filling format
    match fault with
    | some fault => throw fault
    | none => return parts.flatten

def fill (fillings : List (String × Filling)) (template : String) : Except Fault String :=
  (fillChars fillings 2 template.toList).map String.ofList

end PluginAudit.Template
