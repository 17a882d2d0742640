import PluginAudit.Value.Checked

namespace PluginAudit

inductive Naming where
  | camel
  | lowLine
deriving Repr, DecidableEq

structure FieldName where
  camel : String
  lowLine : String

namespace FieldName

def under (name : FieldName) : Naming → String
  | .camel => name.camel
  | .lowLine => name.lowLine

def both (name : FieldName) : List String :=
  [name.camel, name.lowLine]

end FieldName

end PluginAudit
