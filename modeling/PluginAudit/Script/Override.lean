import PluginAudit.Text.Blank
import PluginAudit.Text.Distinct
import PluginAudit.Text.Finder
import PluginAudit.Text.Word
import PluginAudit.Script.Blanking
import PluginAudit.Script.Signature

namespace PluginAudit.Script

open PluginAudit.Text

structure Override where
  owner : List Char
  method : List Char
deriving Repr, DecidableEq

namespace Override

def signature (override : Override) : String :=
  Signature.make (String.ofList override.owner) (String.ofList override.method)

def takeWord? (text : List Char) : Option (List Char × List Char) :=
  match text.takeWhile isWord with
  | [] => none
  | word => some (word, text.dropWhile isWord)

def skipBlanks (text : List Char) : List Char :=
  text.dropWhile isBlank

def skipSomeBlanks? : List Char → Option (List Char)
  | c :: rest => if isBlank c then some (skipBlanks rest) else none
  | [] => none

def expect? (lexeme : String) (text : List Char) : Option (List Char) :=
  lexeme.toList.isPrefixOf? text

def dropChain : List Char → List Char
  | [] => []
  | c :: rest => if isWord c || (c == '.' && rest.head?.any isWord) then dropChain rest else c :: rest

def member? (text : List Char) : Option (Override × List Char) := do
  let (owner, text) ← takeWord? text
  let text ← expect? ".prototype." text
  let (method, text) ← takeWord? text
  return (⟨owner, method⟩, text)

def assigns? : List Char → Option (List Char)
  | '=' :: '=' :: _ => none
  | '=' :: '>' :: _ => none
  | '=' :: rest => some rest
  | _ => none

def direct? (text : List Char) : Option (Override × List Char) := do
  let (override, text) ← member? text
  let text ← assigns? (skipBlanks (dropChain text))
  return (override, text)

def aliased? (text : List Char) : Option (Override × List Char) := do
  let text ← ["const", "let", "var"].findSome? (expect? · text)
  let text ← skipSomeBlanks? text
  let (_, text) ← takeWord? text
  let text ← expect? "=" (skipBlanks text)
  let (override, text) ← member? (skipBlanks text)
  match skipBlanks text with
  | ';' :: rest => some (override, rest)
  | ',' :: rest => some (override, rest)
  | _ => none

def atWord (rule : List Char → Option (Override × List Char)) : Finder Override := fun previous text =>
  if previous.any isWord then none
  else (rule text).map fun hit => (hit.1, text.length - hit.2.length)

end Override

inductive Rule where
  | direct
  | aliased
deriving Repr, DecidableEq

namespace Rule

def find? : Rule → List Char → Option (Override × List Char)
  | direct => Override.direct?
  | aliased => Override.aliased?

def overrides (rule : Rule) (blanked : List Char) : List Override :=
  (Override.atWord rule.find?).all blanked

def defaults : List Rule :=
  [direct, aliased]

end Rule

/-- Signatures found in a blanked script, rule by rule, without later duplicates. -/
def signaturesIn (rules : List Rule) (blanked : List Char) : List String :=
  distinct (rules.flatMap fun rule => (rule.overrides blanked).map Override.signature)

def signatures (source : String) : List String :=
  signaturesIn Rule.defaults (blankChars source.toList)

theorem nodup_signatures (source : String) : (signatures source).Nodup :=
  nodup_distinct _

end PluginAudit.Script
