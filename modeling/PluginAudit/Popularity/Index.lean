import PluginAudit.Register
import PluginAudit.Value.Text

namespace PluginAudit

inductive Score where
  | whole (n : Int)
  | real (x : Binary64)
deriving Repr, DecidableEq

namespace Score

def toValue : Score → Value
  | whole n => .int n
  | real x => .float x

def ofValue? : Value → Option Score
  | .int n => some (whole n)
  | .float x => some (real x)
  | _ => none

def exact : Score → Exact
  | whole n => Exact.ofInt n
  | real x => Exact.ofBinary64 x

end Score

/-- Data that have no classes: a value of this kind. -/
structure NotMapping where
  kind : String
deriving Repr, DecidableEq

/-- Scores of classes. A class that is not there has the score zero. -/
structure Popularity where
  scores : Register Score
deriving Repr, DecidableEq

namespace Popularity

def empty : Popularity :=
  ⟨[]⟩

def score (popularity : Popularity) (className : String) : Score :=
  (popularity.scores.get? className).getD (.whole 0)

def contains (popularity : Popularity) (className : String) : Bool :=
  (popularity.scores.get? className).isSome

def size (popularity : Popularity) : Nat :=
  popularity.scores.length

def toValue (popularity : Popularity) : Value :=
  .record (popularity.scores.map fun entry => (entry.1, entry.2.toValue))

def documentKeys : List String :=
  ["classPopularity", "class_popularity"]

def nested? (entries : Value.Entries) (key : String) : Option Value.Entries :=
  (entries.named? key).bind Value.entries?

def classes (entries : Value.Entries) : Value.Entries :=
  (documentKeys.findSome? (nested? entries)).getD entries

def given (v : Value) : Value :=
  match v.entries? with
  | some fields => (fields.named? "popularity").getD (.int 0)
  | none => v

def rate (popularity : Popularity) (entry : Value × Value) : Popularity :=
  ⟨popularity.scores.put entry.1.displayText ((Score.ofValue? (given entry.2)).getD (.whole 0))⟩

def entries? (v : Value) : Except NotMapping Value.Entries :=
  match v.entries? with
  | some entries => .ok entries
  | none => .error ⟨v.kind⟩

end Popularity

end PluginAudit
