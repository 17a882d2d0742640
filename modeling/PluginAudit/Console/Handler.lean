import PluginAudit.Console.Handler.Literal
import PluginAudit.Console.Handler.Match
import PluginAudit.Text.Word

namespace PluginAudit.Handler

open PluginAudit.Text

inductive Fault where
  | noExpression (trouble : Trouble)
  | noLiteral (trouble : LiteralTrouble)
  | nullCharacter
deriving DecidableEq

namespace Fault

def message : Fault → String
  | noExpression trouble => trouble.message
  | noLiteral trouble => trouble.message
  | nullCharacter => "source code string cannot contain null bytes"

end Fault

def check (text : List Char) : Except Fault Unit := do
  let text := text.dropWhile fun c => c == ' ' || c == '\t'
  if text.contains '\x00' then throw .nullCharacter
  let expr ← (parse text).mapError .noExpression
  let _ ← expr.literal.mapError .noLiteral

/-- The arguments that stand behind the name of a handler. A name alone has none. -/
def arguments (text : List Char) : List Char :=
  let rest := text.dropWhile fun c => isWord c || c == '.'
  if rest.isEmpty then ['(', ')']
  else if rest.head? = some '(' ∧ rest.getLast? = some ')' ∧ !rest.contains '\n' then rest
  else text

end PluginAudit.Handler
