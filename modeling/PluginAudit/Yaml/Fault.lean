import PluginAudit.Value.DataFault

namespace PluginAudit.Yaml

inductive Fault where
  | malformed
  | data (fault : DataFault)
deriving DecidableEq

def errorText : String :=
  "<YAML error>"

def refuse {α : Type} : Except Fault α :=
  .error .malformed

def require {α : Type} : Option α → Except Fault α
  | some a => .ok a
  | none => refuse

end PluginAudit.Yaml
