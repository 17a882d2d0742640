import PluginAudit.Failure

namespace PluginAudit

inductive Stage where
  | scan
  | dependencies
  | conflicts
deriving Repr, DecidableEq

namespace Stage

def name : Stage → String
  | scan => "scan"
  | dependencies => "dependencies"
  | conflicts => "conflicts"

def ofName? (name : String) : Option Stage :=
  [scan, dependencies, conflicts].find? (·.name = name)

def label : Stage → String
  | scan => "Reading plugins"
  | dependencies => "Validating dependencies"
  | conflicts => "Detecting override conflicts"

def start : Stage → Binary64
  | scan => .ofDecimal false 0 0
  | dependencies => .ofDecimal false 6 (-1)
  | conflicts => .ofDecimal false 8 (-1)

def stop : Stage → Binary64
  | scan => .ofDecimal false 6 (-1)
  | dependencies => .ofDecimal false 8 (-1)
  | conflicts => .ofDecimal false 1 0

def float (n : Int) : Except DataFault Binary64 :=
  match Binary64.ofInt n with
  | .infinite _ => .error .tooLargeForFloat
  | x => .ok x

def place (stage : Stage) (done total : Int) : Except DataFault Binary64 := do
  let done ← float done
  let total ← float total
  return stage.start.add (((stage.stop.sub stage.start).mul done).div total)

end Stage

structure Task where
  description : String
  completed : Int
deriving Repr, DecidableEq

structure Progress where
  -- A display that is not enabled ignores everything.
  enabled : Bool
  stage : Option Stage
  task : Option Task
  live : Bool
  -- Descriptions of finished tasks, which the bar shows together with the current one.
  former : List String
deriving Repr, DecidableEq

namespace Progress

def idle (enabled : Bool) : Progress :=
  ⟨enabled, none, none, false, []⟩

abbrev Act := ExceptT Failure (StateM Progress)

namespace Act

def run {α : Type} (act : Act α) (progress : Progress) : Except Failure α × Progress :=
  (ExceptT.run act).run progress

def ofExcept {α : Type} (result : Except Failure α) : Act α :=
  ExceptT.mk (pure result)

end Act

def percent (place : Binary64) : Except DataFault Int :=
  match (place.mul (.ofInt 100)).round? with
  | some n => .ok n
  | none => .error .infinity

def descriptions : Act (List Marked) := do
  let progress ← get
  let texts := progress.former ++ progress.task.toList.map Task.description
  texts.mapM fun text => Act.ofExcept ((Markup.read text).mapError .markup)

def percentWidth : Nat := 5

/-- Columns for descriptions of which the longest has so many. A blank stands behind them. The bar gives up all its columns for
them, and what is missing then they share with the percentage. -/
def descriptionWidth (longest : Nat) : Nat :=
  let width := min (longest + 1) Markup.consoleWidth
  width - Binary64.roundDiv (width + percentWidth - Markup.consoleWidth) 2 - 1

def room (shown : List Marked) : Room :=
  let longest := ((shown.map fun marked => Layout.naturalWidth marked.text).max?).getD 0
  ⟨descriptionWidth longest, .ellipsis, false⟩

def draw (shown : List Marked) : Act Unit :=
  shown.forM fun marked => Act.ofExcept ((marked.check (room shown)).mapError .data)

def update (description : String) (place : Binary64) : Act Unit := do
  if (← get).task.isNone then
    discard descriptions
    modify fun progress => { progress with live := true, task := some ⟨description, 0⟩ }
  let completed ← Act.ofExcept ((percent place).mapError .data)
  modify fun progress => { progress with task := some ⟨description, completed⟩ }

def startStage (stage : Stage) : Act Unit := do
  if (← get).enabled then
    modify fun progress => { progress with stage := some stage }
    update s!"[cyan]{stage.label}[/cyan]" stage.start

def startNamed (name : String) : Act Unit := do
  if (← get).enabled then
    match Stage.ofName? name with
    | some stage => startStage stage
    | none => throw (.display (.unknownStage name))

def currentStage : Act (Option Stage) := do
  let progress ← get
  return if progress.enabled then progress.stage else none

def pace (stage : Stage) (done total : Int) : Except DataFault String := do
  let done ← (Value.int done).display
  let total ← (Value.int total).display
  return s!"[cyan]{stage.label} ({done}/{total})[/cyan]"

def advance (done total : Int) : Act Unit := do
  match ← currentStage with
  | some stage =>
    if 0 < total then
      let description ← Act.ofExcept ((pace stage done total).mapError .data)
      let place ← Act.ofExcept ((stage.place done total).mapError .data)
      update description place
  | none => return ()

def completeStage (summary : String) : Act Unit := do
  match ← currentStage with
  | some stage =>
    update s!"[green]✓[/green] {summary}" stage.stop
    modify fun progress => { progress with stage := none }
  | none => return ()

def takeDown : Act Unit := do
  if (← get).live then
    modify fun progress => { progress with live := false }
    draw (← descriptions)

def finish : Act Unit := do
  match (← get).task with
  | some task =>
    takeDown
    modify fun progress => { progress with task := none, former := progress.former ++ [task.description] }
  | none => return ()
  modify fun progress => { progress with stage := none }

inductive NoteKind where
  | warning
  | error
deriving Repr, DecidableEq

def marker : NoteKind → String
  | .warning => "[yellow]⚠[/yellow]"
  | .error => "[red]✗[/red]"

/-- The lines printed for a note; markup in its message has its meaning. A display that is not enabled prints none. -/
def noteLines (progress : Progress) (kind : NoteKind) (message : String) : Except Markup.Fault (List String) :=
  if progress.enabled then Markup.lines s!"  {marker kind} {message}" else .ok []

end Progress

end PluginAudit
