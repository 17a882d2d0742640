import PluginAudit.Failure
import PluginAudit.Log.Record

namespace PluginAudit.Log

abbrev Logged := ExceptT Failure (StateM (List Record))

namespace Logged

def add (record : Record) : Logged Unit :=
  modify (· ++ [record])

def ofExcept {α : Type} (result : Except Failure α) : Logged α :=
  ExceptT.mk (pure result)

def run {α : Type} (operation : Logged α) : Except Failure α × List Record :=
  (ExceptT.run operation).run []

end Logged

abbrev Noted (σ : Type) := ExceptT Failure (StateM (σ × List Record))

namespace Noted

variable {σ α : Type}

def add (record : Record) : Noted σ Unit :=
  modify fun state => (state.1, state.2 ++ [record])

def change (f : σ → σ) : Noted σ Unit :=
  modify fun state => (f state.1, state.2)

def ofExcept (result : Except Failure α) : Noted σ α :=
  ExceptT.mk (pure result)

def run (operation : Noted σ α) (start : σ) : Except Failure α × σ × List Record :=
  (ExceptT.run operation).run (start, [])

/-- The state that an operation leads to. If it fails, the state is lost and the records stay. -/
def reach (start : σ) (operation : Noted σ Unit) : Logged σ :=
  ExceptT.mk fun records =>
    match (ExceptT.run operation).run (start, records) with
    | (result, state, records) => (result.map fun _ => state, records)

/-- Takes an item: first the remark on it, if there is one, then its effect. -/
def take (remark? : α → Except DataFault (Option Record)) (effect : σ → α → σ) (item : α) : Noted σ Unit := do
  let remark ← ofExcept ((remark? item).mapError .data)
  remark.forM add
  change (effect · item)

def takeAll (remark? : α → Except DataFault (Option Record)) (effect : σ → α → σ) (items : List α) : Noted σ Unit :=
  items.forM (take remark? effect)

end Noted

end PluginAudit.Log
