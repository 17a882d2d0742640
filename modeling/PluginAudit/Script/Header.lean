import PluginAudit.Files.Path
import PluginAudit.Plugin
import PluginAudit.Script.Annotation
import PluginAudit.Script.Override

namespace PluginAudit.Plugin

/-- The name defaults to the stem of the file's name; an empty one counts as none. -/
def ofSource (source filename : String) (name : Option String) : Plugin :=
  let annotations := Script.Annotations.ofSource source
  { filename
    name := (name.filter (· ≠ "")).getD (Path.ofString filename).stem
    overrides := Script.signatures source
    base := annotations.base
    orderAfter := annotations.orderAfter
    orderBefore := annotations.orderBefore
    description := annotations.description }

theorem valid_ofSource (source filename : String) (name : Option String) : (ofSource source filename name).Valid :=
  Script.nodup_signatures source

end PluginAudit.Plugin
