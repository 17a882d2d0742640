import PluginAudit.Log.Logged
import PluginAudit.Popularity.Index

namespace PluginAudit.Popularity

open PluginAudit.Log (Logged Noted)

def logger : String :=
  "mzguard.analysis.popularity"

/-- The record on a value that is not a score, null apart. The name of the class must have a text in any case. -/
def remark? (entry : Value × Value) : Except DataFault (Option Log.Record) := do
  let name ← entry.1.display
  match given entry.2 with
  | .null => return none
  | v =>
    if (Score.ofValue? v).isSome then return none
    else
      let value ← v.shown
      return some (.plain .debug logger s!"Ignoring non-numeric popularity for {name}: {value}")

def ofData (v : Value) : Logged Popularity := do
  let entries ← Logged.ofExcept ((entries? v).mapError fun what => .popularity (.notMapping what))
  Noted.reach empty (Noted.takeAll remark? rate (classes entries))

def ofOptionalData (v : Value) : Logged Popularity :=
  match v with
  | .null => return empty
  | v => ofData v

end PluginAudit.Popularity
