import PluginAudit.Console.Handler.Grammar
import Std.Data.HashMap

namespace PluginAudit.Handler

structure Source where
  tokens : Array Token
  read : FieldReader

structure Progress where
  kept : Std.HashMap (Rule × Nat) (Option (Tree × Nat)) := {}
  reached : Nat := 0

inductive Halt where
  | noToken
  | fault (trouble : TextTrouble)

abbrev Fitting := ExceptT Halt (StateM Progress)

abbrev Fit := Option (Tree × Nat)

namespace Source

def look (source : Source) (place : Nat) : Fitting Token :=
  match source.tokens[place]? with
  | some token => do
    modify fun progress => { progress with reached := max progress.reached (place + 1) }
    return token
  | none => throw .noToken

def spot (source : Source) (start next : Nat) : Spot where
  line := (source.tokens[start]?.map (·.line)).getD 1
  level := (source.tokens[next - 1]?.map (·.level)).getD 0
  read := source.read

def take (source : Source) (place : Nat) (isWanted : TokenKind → Bool) : Fitting Fit := do
  let token ← source.look place
  return if isWanted token.kind then some (.token token, place + 1) else none

end Source

def softWords : List String :=
  ["_", "case", "match"]

namespace TokenKind

def isWord (word : String) : TokenKind → Bool
  | keyword other => word == other
  | mark other => word == other
  | _ => false

def isName : TokenKind → Bool
  | name _ => true
  | _ => false

def isSoftWord : TokenKind → Bool
  | name word => softWords.any fun soft => word.toList.isPrefixOf soft.toList
  | _ => false

def isNumber : TokenKind → Bool
  | number _ => true
  | _ => false

def isText : TokenKind → Bool
  | text _ => true
  | _ => false

end TokenKind

def Alternative.isWrong (alternative : Alternative) : Bool :=
  match alternative.items with
  | [.rule rule] => rule.isWrong
  | _ => false

/-- What an alternative has taken: its parts and the place behind them, or whether no other one counts. -/
inductive Taken where
  | parts (trees : List Tree) (next : Nat)
  | none (isFinal : Bool)

mutual

def fitRule (source : Source) : Nat → Bool → Rule → Nat → Fitting Fit
  | 0, _, _, _ => throw .noToken
  | fuel + 1, isStrict, rule, place => do
    if rule.isKept then
      let _ ← source.look place
      match (← get).kept[(rule, place)]? with
      | some fit => return fit
      | none => pure ()
    let isStrict := isStrict && rule != .plainExpression
    let fit ← match rule.definition with
      | .choice alternatives => fitFirst source fuel isStrict alternatives none place place
      | .chain first steps => do
        match ← fitFirst source fuel isStrict first none place place with
        | some (tree, next) => fitSteps source fuel isStrict steps tree place next
        | none => pure none
    if rule.isKept then modify fun progress => { progress with kept := progress.kept.insert (rule, place) fit }
    return fit

/-- Fits the first alternative that can be. They start at a place, perhaps behind a tree that started before it. -/
def fitFirst (source : Source) : Nat → Bool → List Alternative → Option Tree → Nat → Nat → Fitting Fit
  | 0, _, _, _, _, _ => throw .noToken
  | _ + 1, _, [], _, _, _ => return none
  | fuel + 1, isStrict, alternative :: rest, before, start, place => do
    if alternative.isWrong && !isStrict then fitFirst source fuel isStrict rest before start place
    else
      match ← fitItems source fuel isStrict alternative.items [] false place with
      | .parts trees next =>
        match alternative.make (source.spot start next) (before.toList ++ trees) with
        | .made tree => return some (tree, next)
        | .fails => return none
        | .fault trouble => throw (.fault trouble)
      | .none true => return none
      | .none false => fitFirst source fuel isStrict rest before start place

def fitSteps (source : Source) : Nat → Bool → List Alternative → Tree → Nat → Nat → Fitting Fit
  | 0, _, _, _, _, _ => throw .noToken
  | fuel + 1, isStrict, steps, tree, start, place => do
    match ← fitFirst source fuel isStrict steps (some tree) start place with
    | some (tree, next) => fitSteps source fuel isStrict steps tree start next
    | none => return some (tree, place)

def fitItems (source : Source) : Nat → Bool → List Item → List Tree → Bool → Nat → Fitting Taken
  | 0, _, _, _, _, _ => throw .noToken
  | _ + 1, _, [], taken, _, place => return .parts taken.reverse place
  | fuel + 1, isStrict, item :: rest, taken, isFinal, place => do
    match item with
    | .commit => fitItems source fuel isStrict rest taken true place
    | .ahead item =>
      match ← fitItem source fuel isStrict item place with
      | some _ => fitItems source fuel isStrict rest taken isFinal place
      | none => return .none isFinal
    | .unlike item =>
      match ← fitItem source fuel isStrict item place with
      | some _ => return .none isFinal
      | none => fitItems source fuel isStrict rest taken isFinal place
    | item =>
      match ← fitItem source fuel isStrict item place with
      | some (tree, next) => fitItems source fuel isStrict rest (tree :: taken) isFinal next
      | none => return .none isFinal

def fitItem (source : Source) : Nat → Bool → Item → Nat → Fitting Fit
  | 0, _, _, _ => throw .noToken
  | fuel + 1, isStrict, item, place =>
    match item with
    | .word word => source.take place (·.isWord word)
    | .name => source.take place (·.isName)
    | .softWord => source.take place (·.isSoftWord)
    | .number => source.take place (·.isNumber)
    | .text => source.take place (·.isText)
    | .newLine => source.take place (· == .newLine)
    | .stop => source.take place (· == .stop)
    | .rule rule => fitRule source fuel isStrict rule place
    | .maybe item => do
      match ← fitItem source fuel isStrict item place with
      | some fit => return some fit
      | none => return some (.nothing, place)
    | .many item => fitMany source fuel isStrict [item] [] place
    | .several item => do
      match ← fitItem source fuel isStrict item place with
      | some (tree, next) => fitMany source fuel isStrict [item] [tree] next
      | none => return none
    | .separated mark item => do
      match ← fitItem source fuel isStrict item place with
      | some (tree, next) => fitMany source fuel isStrict [.word mark, item] [tree] next
      | none => return none
    | .either choices => fitEither source fuel isStrict choices place
    | .ahead _ => return some (.nothing, place)
    | .unlike _ => return some (.nothing, place)
    | .commit => return some (.nothing, place)

def fitMany (source : Source) : Nat → Bool → List Item → List Tree → Nat → Fitting Fit
  | 0, _, _, _, _ => throw .noToken
  | fuel + 1, isStrict, items, taken, place => do
    match ← fitItems source fuel isStrict items [] false place with
    | .parts trees next => fitMany source fuel isStrict items (trees.getLast?.getD .nothing :: taken) next
    | .none _ => return some (.list taken.reverse, place)

def fitEither (source : Source) : Nat → Bool → List (List Item) → Nat → Fitting Fit
  | 0, _, _, _ => throw .noToken
  | _ + 1, _, [], _ => return none
  | fuel + 1, isStrict, items :: rest, place => do
    match ← fitItems source fuel isStrict items [] false place with
    | .parts trees next => return some (trees.getLast?.getD .nothing, next)
    | .none _ => fitEither source fuel isStrict rest place

end

/-- Where a text stands: alone, or in a field of another one. -/
inductive Setting where
  | alone
  | inField
deriving DecidableEq

namespace Setting

def rule : Setting → Rule
  | alone => .whole
  | inField => .field

def told : Setting → Trouble → Trouble
  | alone, trouble => trouble
  | inField, trouble => .inField trouble

def toldText : Setting → TextTrouble → Trouble
  | setting, .own trouble => setting.told trouble
  | _, .inside trouble => trouble

end Setting

namespace Tokens

def endTrouble (setting : Setting) (tokens : Tokens) : Trouble :=
  match tokens.ending with
  | .regular => setting.told .other
  | .fault trouble => trouble
  | .halt trouble _ => setting.told trouble

/-- A fault in an expression, unless one among the tokens that follow counts more: each that has to be told, and a bracket on
an earlier line that is never closed. -/
def outweighed (setting : Setting) (tokens : Tokens) (line : Nat) (trouble : Trouble) : Trouble :=
  match tokens.ending with
  | .fault later => later
  | .halt _ (some (bracket, opened)) => if opened < line then setting.told (.neverClosed bracket) else trouble
  | _ => trouble

def lastLine (tokens : Array Token) (reached : Nat) : Nat :=
  (tokens[reached - 1]?.map (·.line)).getD 1

def generalTrouble (setting : Setting) (tokens : Tokens) (last : Option TokenKind) (line : Nat) : Trouble :=
  match last with
  | some .indent => setting.told .unexpectedIndent
  | some .unindent => setting.told .unexpectedUnindent
  | _ => tokens.outweighed setting line (setting.told .other)

/-- The expression that tokens are. If they are none, they are read again with the rules for what is not well formed. -/
def parse (setting : Setting) (read : FieldReader) (tokens : Tokens) : Except Trouble Expr :=
  let array := tokens.list.toArray
  let source : Source := ⟨array, read⟩
  let fuel := 1000 * (array.size + 2)
  let halted (halt : Halt) (progress : Progress) : Trouble :=
    match halt with
    | .noToken => tokens.endTrouble setting
    | .fault trouble =>
      let trouble := setting.toldText trouble
      if tokens.isEndSeen && progress.reached = array.size then trouble
      else tokens.outweighed setting (lastLine array progress.reached) trouble
  match (fitRule source fuel false setting.rule 0).run.run {} with
  | (.ok (some (.expr expr, _)), _) => .ok expr
  | (.error halt, progress) => .error (halted halt progress)
  | (.ok _, progress) =>
    let last := array[progress.reached - 1]?.map (·.kind)
    match (fitRule source fuel true setting.rule 0).run.run { reached := progress.reached } with
    | (.error halt, progress) => .error (halted halt progress)
    | (.ok _, progress) => .error (tokens.generalTrouble setting last (lastLine array progress.reached))

end Tokens

def readField : Nat → FieldReader
  | 0, _, _ => .ok ()
  | depth + 1, line, text =>
    let text := '(' :: text ++ [')', '\n']
    ((tokens line text).parse .inField (readField depth)).map fun _ => ()

def parse (text : List Char) : Except Trouble Expr :=
  (tokens 1 text).parse .alone (readField text.length)

end PluginAudit.Handler
