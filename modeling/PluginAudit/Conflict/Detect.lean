import PluginAudit.Conflict.Basic
import PluginAudit.Conflict.Index
import PluginAudit.Popularity.Index
import PluginAudit.Script.Signature

namespace PluginAudit

/-- Two values that have no order: their kinds. -/
structure Incomparable where
  left : String
  right : String
deriving Repr, DecidableEq

namespace Score

def reaches (score : Score) (threshold : Value) : Except Incomparable Bool :=
  match threshold.number? with
  | some limit => .ok (limit.le score.exact)
  | none => .error ⟨score.toValue.kind, threshold.fullKind⟩

end Score

namespace Conflict

def defaultThreshold : Value :=
  .int 10

def grade (popularity : Popularity) (threshold : Value) (method : String) (plugins : List String) :
    Except Incomparable Conflict := do
  let (className, methodName) := Script.Signature.split method
  let reached ← (popularity.score className).reaches threshold
  return { method, plugins, severity := if reached then .warning else .info, className, methodName }

def classify (index : OverrideIndex) (popularity : Popularity) (threshold : Value) :
    Except Incomparable (List Conflict) :=
  (index.methods.filter fun entry => 2 ≤ entry.2.length).mapM fun entry => grade popularity threshold entry.1 entry.2

end Conflict

namespace ConflictReport

def detect (plugins : List Plugin) (popularity : Popularity) (threshold : Value) :
    Except Incomparable ConflictReport := do
  let index := OverrideIndex.ofPlugins plugins
  let conflicts ← Conflict.classify index popularity threshold
  return build conflicts index.totalOverrides

end ConflictReport

end PluginAudit
