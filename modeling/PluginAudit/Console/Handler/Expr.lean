import PluginAudit.Console.Handler.Trouble
import PluginAudit.Text.Digit

namespace PluginAudit.Handler

open PluginAudit.Text

inductive Constant where
  | none
  | true
  | false
  | ellipsis
  | whole (value : Nat)
  | fraction
  | imaginary
  | text
  | bytes
deriving DecidableEq

/-- An expression that no literal holds and of which only the name counts. -/
inductive Form where
  | member
  | lambda
  | call
  | operation
  | generator
  | yield
  | await
  | setSource
  | mapSource
  | fields
  | condition
  | naming
deriving DecidableEq

inductive Expr where
  | name (line : Nat) (text : String)
  | constant (line : Nat) (value : Constant)
  | tuple (line : Nat) (items : List Expr)
  | members (line : Nat) (items : List Expr)
  -- A map; an entry without a key takes over another map.
  | entries (line : Nat) (items : List (Option Expr × Expr))
  | emptySet (line : Nat)
  | starred (line : Nat) (item : Expr)
  | signed (line : Nat) (operand : Expr)
  | sum (line : Nat) (left right : Expr)
  -- A comparison with the operator behind its first operand.
  | comparison (line : Nat) (left : Expr) (operator : String)
  | other (line : Nat) (form : Form)

namespace Constant

def label : Constant → String
  | none => "None"
  | true => "True"
  | false => "False"
  | ellipsis => "ellipsis"
  | _ => "literal"

def wholeIn (base : Nat) (digits : List Char) : Nat :=
  digits.foldl (fun value c => value * base + (hexDigit? c).getD 0) 0

def ofNumber (token : List Char) : Except Trouble Constant :=
  let token := (token.filter (· != '_')).map Char.toLower
  match token with
  | '0' :: 'x' :: digits => .ok (whole (wholeIn 16 digits))
  | '0' :: 'o' :: digits => .ok (whole (wholeIn 8 digits))
  | '0' :: 'b' :: digits => .ok (whole (wholeIn 2 digits))
  | token =>
    if token.getLast? = some 'j' then .ok imaginary
    else if token.all Char.isDigit then
      if Number.digitLimit < token.length ∧ token.head? ≠ some '0' then .error (.longNumber token.length)
      else .ok (whole (wholeIn 10 token))
    else .ok fraction

end Constant

namespace Form

def label : Form → String
  | member => "attribute"
  | lambda => "lambda"
  | call => "function call"
  | operation => "expression"
  | generator => "generator expression"
  | yield => "yield expression"
  | await => "await expression"
  | setSource => "set comprehension"
  | mapSource => "dict comprehension"
  | fields => "f-string expression"
  | condition => "conditional expression"
  | naming => "named expression"

end Form

namespace Expr

def label : Expr → String
  | name .. => "name"
  | constant _ value => value.label
  | tuple .. => "tuple"
  | members .. => "set display"
  | entries .. => "dict literal"
  | emptySet _ => "function call"
  | starred .. => "starred"
  | signed .. => "expression"
  | sum .. => "expression"
  | comparison .. => "comparison"
  | other _ form => form.label

def line : Expr → Nat
  | name line _ => line
  | constant line _ => line
  | tuple line _ => line
  | members line _ => line
  | entries line _ => line
  | emptySet line => line
  | starred line _ => line
  | signed line _ => line
  | sum line _ _ => line
  | comparison line _ _ => line
  | other line _ => line

mutual

def notTarget? : Expr → Option Expr
  | name .. => none
  | other _ .member => none
  | tuple _ items => firstNotTarget? items
  | starred _ item => notTarget? item
  | comparison _ left operator => if operator = "in" then notTarget? left else none
  | expr => some expr

def firstNotTarget? : List Expr → Option Expr
  | [] => none
  | item :: rest =>
    match notTarget? item with
    | some part => some part
    | none => firstNotTarget? rest

end

end Expr

end PluginAudit.Handler
