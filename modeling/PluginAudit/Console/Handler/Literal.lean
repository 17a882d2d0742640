import PluginAudit.Console.Handler.Expr

namespace PluginAudit.Handler

inductive LiteralTrouble where
  -- It is no literal, on a line if it is an expression at all.
  | malformed (line : Option Nat)
  | unhashable (kind : String)
  | tooLarge
deriving DecidableEq

namespace LiteralTrouble

def message : LiteralTrouble → String
  | malformed (some line) => s!"malformed node or string on line {line}"
  | malformed none => "malformed node or string: None"
  | unhashable kind => s!"unhashable type: '{kind}'"
  | tooLarge => "int too large to convert to float"

end LiteralTrouble

/-- The value of a literal, as far as it matters where it may stand. -/
inductive Literal where
  | whole (value : Nat)
  | fraction
  | imaginary
  | plain
  | tuple (items : List Literal)
  | members
  | entries

namespace Constant

def literal : Constant → Literal
  | whole value => .whole value
  | fraction => .fraction
  | imaginary => .imaginary
  | _ => .plain

end Constant

namespace Literal

mutual

def changeable? : Literal → Option String
  | tuple items => firstChangeable? items
  | members => some "set"
  | entries => some "dict"
  | _ => none

def firstChangeable? : List Literal → Option String
  | [] => none
  | item :: rest =>
    match changeable? item with
    | some kind => some kind
    | none => firstChangeable? rest

end

def checkKey (literal : Literal) : Except LiteralTrouble Unit :=
  match literal.changeable? with
  | some kind => .error (.unhashable kind)
  | none => .ok ()

def wholeLimit : Nat :=
  Nat.pow 2 1024 - Nat.pow 2 970

end Literal

namespace Expr

def malformed {α : Type} (expr : Expr) : Except LiteralTrouble α :=
  .error (.malformed (some expr.line))

def number (expr : Expr) : Except LiteralTrouble Literal :=
  match expr with
  | constant _ (.whole value) => .ok (.whole value)
  | constant _ .fraction => .ok .fraction
  | constant _ .imaginary => .ok .imaginary
  | expr => expr.malformed

def signedNumber (expr : Expr) : Except LiteralTrouble Literal :=
  match expr with
  | signed _ operand => operand.number
  | expr => expr.number

def complexNumber (expr left right : Expr) : Except LiteralTrouble Literal := do
  let first ← left.signedNumber
  let second ← right.number
  match first, second with
  | .whole value, .imaginary => if Literal.wholeLimit ≤ value then throw .tooLarge else return .imaginary
  | .fraction, .imaginary => return .imaginary
  | _, _ => expr.malformed

mutual

def literal : Expr → Except LiteralTrouble Literal
  | constant _ value => .ok value.literal
  | tuple _ items => (literals items).map .tuple
  | members _ items => memberLiterals items
  | emptySet _ => .ok .members
  | entries _ items => entryLiterals items
  | sum line left right => complexNumber (sum line left right) left right
  | expr => expr.signedNumber

def literals : List Expr → Except LiteralTrouble (List Literal)
  | [] => .ok []
  | item :: rest => do
    let first ← literal item
    return first :: (← literals rest)

def memberLiterals : List Expr → Except LiteralTrouble Literal
  | [] => .ok .members
  | item :: rest => do
    (← literal item).checkKey
    memberLiterals rest

def entryLiterals : List (Option Expr × Expr) → Except LiteralTrouble Literal
  | [] => .ok .entries
  | (none, _) :: _ => .error (.malformed none)
  | (some key, value) :: rest => do
    let key ← literal key
    let _ ← literal value
    key.checkKey
    entryLiterals rest

end

end Expr

end PluginAudit.Handler
