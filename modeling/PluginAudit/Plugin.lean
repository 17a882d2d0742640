import PluginAudit.Text.Distinct
import PluginAudit.Value.Checked

namespace PluginAudit

structure Plugin where
  filename : String
  name : String
  -- Signatures of the methods that the plugin overrides.
  overrides : List String
  base : List String
  orderAfter : List String
  orderBefore : List String
  description : String
deriving Repr, DecidableEq

namespace Plugin

def Valid (plugin : Plugin) : Prop :=
  plugin.overrides.Nodup

/-- The names that have to stand before this plugin in the load order. -/
def dependencies (plugin : Plugin) : List String :=
  plugin.base ++ plugin.orderAfter

def overridesReader : Reader (List String)
  | .null => .ok []
  | .text s => .ok [s]
  | v =>
    match v.items? with
    | none => .aborted v.fullKind
    | some items =>
      match items.mapM Value.display with
      | .ok signatures => .ok (distinct signatures)
      | .error fault => .fail (.noText fault)

def reader : Reader Plugin :=
  .record "PluginHeader" fun fields =>
    Plugin.mk
      <$> Reader.withDefault fields ["filename"] .text ""
      <*> Reader.required fields ["name"] .text
      <*> Reader.withDefault fields ["overrides"] overridesReader []
      <*> Reader.withDefault fields ["base"] (.list .text) []
      <*> Reader.withDefault fields ["order_after"] (.list .text) []
      <*> Reader.withDefault fields ["order_before"] (.list .text) []
      <*> Reader.withDefault fields ["description"] .text ""

def toValue (plugin : Plugin) : Value :=
  .record [
    ("filename", .text plugin.filename),
    ("name", .text plugin.name),
    ("overrides", .texts plugin.overrides),
    ("base", .texts plugin.base),
    ("order_after", .texts plugin.orderAfter),
    ("order_before", .texts plugin.orderBefore),
    ("description", .text plugin.description)]

end Plugin

end PluginAudit
