import PluginAudit.Plugin
import PluginAudit.Register

namespace PluginAudit

/-- Signatures with the names of the plugins that override them, and the number of all overrides. -/
structure OverrideIndex where
  methods : Register (List String)
  totalOverrides : Int
deriving Repr, DecidableEq

namespace OverrideIndex

def empty : OverrideIndex :=
  ⟨[], 0⟩

def note (methods : Register (List String)) (plugin : String) (signature : String) : Register (List String) :=
  methods.alter signature fun plugins => plugins.getD [] ++ [plugin]

def add (index : OverrideIndex) (plugin : Plugin) : OverrideIndex :=
  { methods := plugin.overrides.foldl (note · plugin.name) index.methods
    totalOverrides := index.totalOverrides + plugin.overrides.length }

def ofPlugins (plugins : List Plugin) : OverrideIndex :=
  plugins.foldl add empty

def reader : Reader OverrideIndex :=
  .record "OverrideIndex" fun fields =>
    OverrideIndex.mk
      <$> Reader.withDefault fields ["methods"] (.entries (.list .text)) []
      <*> Reader.withDefault fields ["total_overrides"] .int 0

def toValue (index : OverrideIndex) : Value :=
  .record [
    ("methods", .record (index.methods.map fun entry => (entry.1, .texts entry.2))),
    ("total_overrides", .int index.totalOverrides)]

end OverrideIndex

end PluginAudit
