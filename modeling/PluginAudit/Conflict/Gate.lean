import PluginAudit.Conflict.Basic

namespace PluginAudit

/-- The conflicts that make a run fail: none, warnings, or all. -/
inductive FailOn where
  | never
  | info
  | warning
deriving Repr, DecidableEq

namespace FailOn

def ofWord (word : String) : FailOn :=
  if word = "never" then never else if word = "warning" then warning else info

end FailOn

def stoppedCode : Nat := 2

namespace ConflictReport

def stops (failOn : FailOn) (report : ConflictReport) : Bool :=
  match failOn with
  | .never => false
  | .warning => report.conflicts.any (·.severity = .warning)
  | .info => !report.conflicts.isEmpty

def exitCode (failOn : FailOn) (report : Option ConflictReport) : Nat :=
  if report.any (stops failOn) then stoppedCode else 0

end ConflictReport

end PluginAudit
