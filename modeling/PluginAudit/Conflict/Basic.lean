import PluginAudit.Value.Naming

namespace PluginAudit

inductive Severity where
  | warning
  | info
deriving Repr, DecidableEq

namespace Severity

def word : Severity → String
  | warning => "warning"
  | info => "info"

def rank : Severity → Nat
  | warning => 0
  | info => 1

def reader : Reader Severity :=
  .choice [("warning", warning), ("info", info)]

end Severity

structure Conflict where
  method : String
  -- Names of the plugins that override it, in load order.
  plugins : List String
  severity : Severity
  className : String
  methodName : String
deriving Repr, DecidableEq

namespace Conflict

def classNameField : FieldName :=
  ⟨"className", "class_name"⟩

def methodNameField : FieldName :=
  ⟨"methodName", "method_name"⟩

def pluginsReader : Reader (List String) := fun v =>
  (Reader.list Reader.text v).andThen fun names =>
    if names.length < 2 then .fail (.tooShort 2 names.length) else .ok names

def reader : Reader Conflict :=
  .record "PluginConflict" fun fields =>
    Conflict.mk
      <$> Reader.required fields ["method"] .text
      <*> Reader.required fields ["plugins"] pluginsReader
      <*> Reader.required fields ["severity"] Severity.reader
      <*> Reader.required fields classNameField.both .text
      <*> Reader.required fields methodNameField.both .text

def toValue (naming : Naming) (conflict : Conflict) : Value :=
  .record [
    ("method", .text conflict.method),
    ("plugins", .texts conflict.plugins),
    ("severity", .text conflict.severity.word),
    (classNameField.under naming, .text conflict.className),
    (methodNameField.under naming, .text conflict.methodName)]

def le (a b : Conflict) : Bool :=
  a.severity.rank < b.severity.rank || (a.severity.rank == b.severity.rank && a.method ≤ b.method)

end Conflict

inductive ConflictHealth where
  | clean
  | conflicts
deriving Repr, DecidableEq

namespace ConflictHealth

def word : ConflictHealth → String
  | clean => "clean"
  | conflicts => "conflicts"

def reader : Reader ConflictHealth :=
  .choice [("clean", clean), ("conflicts", conflicts)]

def ofConflicts (conflicts : List Conflict) : ConflictHealth :=
  if conflicts.isEmpty then clean else .conflicts

end ConflictHealth

structure ConflictReport where
  conflicts : List Conflict
  -- Overrides of all plugins, one that two plugins share counted twice.
  totalOverrides : Int
  health : ConflictHealth
deriving Repr, DecidableEq

namespace ConflictReport

def totalField : FieldName :=
  ⟨"totalOverrides", "total_overrides"⟩

def checkHealth (report : ConflictReport) : Checked ConflictReport :=
  let expected := ConflictHealth.ofConflicts report.conflicts
  if report.health = expected then .ok report
  else .fail (.wrongHealth expected.word report.conflicts.length)

def reader : Reader ConflictReport :=
  .record "ConflictReport" fun fields =>
    Checked.andThen
      (ConflictReport.mk
        <$> Reader.withDefault fields ["conflicts"] (.list Conflict.reader) []
        <*> Reader.withDefault fields totalField.both .int 0
        <*> Reader.withDefault fields ["health"] ConflictHealth.reader .clean)
      checkHealth

def toValue (naming : Naming) (report : ConflictReport) : Value :=
  .record [
    ("conflicts", .list (report.conflicts.map (Conflict.toValue naming))),
    (totalField.under naming, .int report.totalOverrides),
    ("health", .text report.health.word)]

def build (conflicts : List Conflict) (totalOverrides : Int) : ConflictReport :=
  let sorted := conflicts.mergeSort Conflict.le
  ⟨sorted, totalOverrides, .ofConflicts sorted⟩

end ConflictReport

end PluginAudit
