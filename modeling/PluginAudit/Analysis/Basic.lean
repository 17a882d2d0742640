import PluginAudit.Conflict.Basic
import PluginAudit.Dependency.Basic
import PluginAudit.Plugin

namespace PluginAudit

structure ScanError where
  file : String
  error : String
  label : String
deriving Repr, DecidableEq

namespace ScanError

def reader : Reader ScanError :=
  .record "ScanError" fun fields =>
    ScanError.mk
      <$> Reader.required fields ["file"] .text
      <*> Reader.required fields ["error"] .text
      <*> Reader.required fields ["type"] .text

def toValue (error : ScanError) : Value :=
  .record [("file", .text error.file), ("error", .text error.error), ("type", .text error.label)]

end ScanError

structure Analysis where
  projectPath : String
  plugins : List Plugin
  dependencies : Option Dependency.Report
  conflicts : Option ConflictReport
  errors : List ScanError
  warnings : List String
deriving Repr, DecidableEq

namespace Analysis

def reader : Reader Analysis :=
  .record "ProjectAnalysis" fun fields =>
    Analysis.mk
      <$> Reader.required fields ["project_path"] .text
      <*> Reader.withDefault fields ["plugins"] (.list Plugin.reader) []
      <*> Reader.withDefault fields ["dependencies"] (.optional Dependency.Report.reader) none
      <*> Reader.withDefault fields ["conflicts"] (.optional ConflictReport.reader) none
      <*> Reader.withDefault fields ["errors"] (.list ScanError.reader) []
      <*> Reader.withDefault fields ["warnings"] (.list .text) []

def toValue (naming : Naming) (analysis : Analysis) : Value :=
  .record [
    ("project_path", .text analysis.projectPath),
    ("plugins", .list (analysis.plugins.map Plugin.toValue)),
    ("dependencies", (analysis.dependencies.map Dependency.Report.toValue).getD .null),
    ("conflicts", (analysis.conflicts.map (ConflictReport.toValue naming)).getD .null),
    ("errors", .list (analysis.errors.map ScanError.toValue)),
    ("warnings", .texts analysis.warnings)]

end Analysis

end PluginAudit
