import PluginAudit.Console.Handler.Token
import PluginAudit.Text.CharacterName

namespace PluginAudit.Handler

open PluginAudit.Text

/-- A text with each character beyond ASCII written as an escape of ten characters. A backslash before one stands for itself and
is an escape of six. -/
def onlyAscii : List Char → List Char
  | [] => []
  | ['\\'] => '\\' :: "u005c".toList
  | '\\' :: c :: rest =>
    if 0x80 ≤ c.toNat then '\\' :: "u005c".toList ++ wide c ++ onlyAscii rest else '\\' :: c :: onlyAscii rest
  | c :: rest => if 0x80 ≤ c.toNat then wide c ++ onlyAscii rest else c :: onlyAscii rest
where
  wide (c : Char) : List Char :=
    '\\' :: 'U' :: hex 8 c.toNat

def codeSize? : Char → Option Nat
  | 'x' => some 2
  | 'u' => some 4
  | 'U' => some 8
  | _ => none

def truncated (letter : Char) (size : Nat) : String :=
  "truncated \\" ++ String.ofList (letter :: List.replicate size 'X') ++ " escape"

/-- The escape of a code, behind its letter, at the place of its backslash: the number of digits, or what is wrong. -/
def codeEscape (letter : Char) (size place : Nat) (rest : List Char) : Except EscapeTrouble Nat :=
  let digits := (rest.take size).takeWhile fun c => (hexDigit? c).isSome
  let last := place + 1 + digits.length
  if digits.length < size then .error (.escape place last (truncated letter size))
  else if 0x10FFFF < digits.foldl (fun value c => value * 16 + (hexDigit? c).getD 0) 0 then
    .error (.escape place last "illegal Unicode character")
  else .ok size

def nameEscape (place : Nat) (rest : List Char) : Except EscapeTrouble Nat :=
  let malformed last := Except.error (.escape place last "malformed \\N character escape")
  match rest with
  | '\x7b' :: rest =>
    let name := rest.takeWhile (· != '\x7d')
    if name.length = rest.length then malformed (place + 2 + name.length)
    else if name.isEmpty then malformed (place + 2)
    else if namesCharacter name then .ok (name.length + 2)
    else .error (.escape place (place + 3 + name.length) "unknown Unicode character name")
  | _ => malformed (place + 1)

def checkEscapes : Nat → Nat → List Char → Except EscapeTrouble Unit
  | fuel + 1, place, '\\' :: letter :: rest => do
    let size ← match codeSize? letter with
      | some size => codeEscape letter size place rest
      | none => if letter = 'N' then nameEscape place rest else pure 0
    checkEscapes fuel (place + 2 + size) (rest.drop size)
  | fuel + 1, place, _ :: rest => checkEscapes fuel (place + 1) rest
  | _, _, _ => .ok ()

def checkByteEscapes : Nat → List Char → Except EscapeTrouble Unit
  | place, '\\' :: 'x' :: rest =>
    let digits := (rest.take 2).takeWhile fun c => (hexDigit? c).isSome
    if digits.length < 2 then .error (.byteCode place) else checkByteEscapes (place + 2) rest
  | place, '\\' :: _ :: rest => checkByteEscapes (place + 2) rest
  | place, _ :: rest => checkByteEscapes (place + 1) rest
  | _, [] => .ok ()

def checkText (text : List Char) : Except Trouble Unit :=
  let text := onlyAscii text
  (checkEscapes text.length 0 text).mapError .escape

/-- What is wrong with a text, told by the text itself or by the expression in one of its fields. -/
inductive TextTrouble where
  | own (trouble : Trouble)
  | inside (trouble : Trouble)

abbrev FieldReader := Nat → List Char → Except Trouble Unit

/-- Where fields are: the line on which their text starts, whether it is raw, and how they are read. -/
structure FieldPlace where
  line : Nat
  isRaw : Bool
  read : FieldReader

/-- Text under way in fields: what is left, and the line breaks before it. -/
structure Fielded where
  rest : List Char
  breaks : Nat

def fieldFault {α : Type} (trouble : FieldTrouble) : Except TextTrouble α :=
  .error (.own (.field trouble))

def plainLength (isRaw : Bool) (isOuter : Bool) : Nat → List Char → Except TextTrouble (Nat × Bool)
  | fuel + 1, '\\' :: c :: rest =>
    if isRaw then (plainLength isRaw isOuter fuel (c :: rest)).map fun found => (found.1 + 1, found.2)
    else if c = 'N' then
      match rest with
      | '\x7b' :: more =>
        let size := min (more.takeWhile (· != '\x7d')).length.succ more.length
        (plainLength isRaw isOuter fuel (more.drop size)).map fun found => (found.1 + 3 + size, found.2)
      | _ :: more => (plainLength isRaw isOuter fuel more).map fun found => (found.1 + 3, found.2)
      | [] => .ok (2, false)
    else if c = '\x7b' ∨ c = '\x7d' then
      (brace c rest).map fun found => (found.1 + 1, found.2)
    else (plainLength isRaw isOuter fuel rest).map fun found => (found.1 + 2, found.2)
  | fuel + 1, c :: rest =>
    if c = '\x7b' ∨ c = '\x7d' then brace c rest
    else (plainLength isRaw isOuter fuel rest).map fun found => (found.1 + 1, found.2)
  | _, _ => .ok (0, false)
where
  -- A brace ends a text. Outside of fields it may be doubled, and one alone opens a field.
  brace (c : Char) (rest : List Char) : Except TextTrouble (Nat × Bool) :=
    if !isOuter then .ok (0, false)
    else if rest.head? = some c then .ok (1, true)
    else if c = '\x7d' then fieldFault .loneEnd
    else .ok (0, false)

abbrev InQuote := Option (Char × Nat)

def expressionLength : Nat → InQuote → List Char → List Char → Except TextTrouble Nat
  | fuel + 1, quote, opened, c :: rest =>
    let add (size : Nat) (quote : InQuote) (opened : List Char) :=
      (expressionLength fuel quote opened ((c :: rest).drop size)).map (· + size)
    if c = '\\' then fieldFault .backslash
    else
      match quote with
      | some (q, size) =>
        if c = q then
          if size = 3 then if [q, q].isPrefixOf rest then add 3 none opened else add 1 quote opened
          else add 1 none opened
        else add 1 quote opened
      | none =>
        if isQuote c then
          if [c, c].isPrefixOf rest then add 3 (some (c, 3)) opened else add 1 (some (c, 1)) opened
        else if isOpen c then
          if maxLevel ≤ opened.length then fieldFault .manyBrackets else add 1 none (c :: opened)
        else if c = '#' then fieldFault .comment
        else if opened.isEmpty && "!:\x7d=<>".toList.contains c then
          if "!=<>".toList.contains c && rest.head? = some '=' then add 2 none opened
          else if c = '<' ∨ c = '>' then add 1 none opened
          else .ok 0
        else if isClose c then
          match opened with
          | [] => fieldFault (.unmatched c)
          | o :: outer => if isPair o c then add 1 none outer else fieldFault (.mismatched c o)
        else add 1 none opened
  | _, some _, _, _ => fieldFault .unterminated
  | _, none, o :: _, _ => fieldFault (.unmatched o)
  | _, none, [], _ => .ok 0

def checkExpression (place : FieldPlace) (line : Nat) (text : List Char) (mark : Char) : Except TextTrouble Unit :=
  if text.all fun c => c == ' ' || c == '\t' || c == '\n' || c == '\x0c' then
    if mark = '\x7d' then fieldFault .empty else fieldFault (.missingBefore mark)
  else (place.read line text).mapError .inside

def Fielded.skip (text : Fielded) (size : Nat) : Fielded :=
  ⟨text.rest.drop size, text.breaks + (text.rest.take size).count '\n'⟩

def takeConversion (text : Fielded) : Except TextTrouble Fielded :=
  match text.rest with
  | ['!'] => fieldFault .endMissing
  | '!' :: c :: _ => if c = 's' ∨ c = 'r' ∨ c = 'a' then .ok (text.skip 2) else fieldFault .conversion
  | _ => .ok text

mutual

def checkFields (place : FieldPlace) : Nat → Nat → Fielded → Except TextTrouble Fielded
  | 0, _, text => .ok text
  | fuel + 1, depth, text => do
    let (size, isDoubled) ← plainLength place.isRaw (depth = 0) (text.rest.length + 1) text.rest
    if !place.isRaw then (checkText (text.rest.take size)).mapError .own
    let text := text.skip size
    if isDoubled then checkFields place fuel depth (text.skip 1)
    else
      match text.rest with
      | '\x7b' :: _ => do
        let text ← checkField place fuel depth text
        checkFields place fuel depth text
      | _ => return text

def checkField (place : FieldPlace) : Nat → Nat → Fielded → Except TextTrouble Fielded
  | 0, _, text => .ok text
  | fuel + 1, depth, text => do
    if 2 ≤ depth then fieldFault .deep
    let line := place.line + text.breaks
    let text := text.skip 1
    let size ← expressionLength (text.rest.length + 1) none [] text.rest
    let expression := text.rest.take size
    let text := text.skip size
    match text.rest with
    | [] => fieldFault .endMissing
    | mark :: _ =>
      checkExpression place line expression mark
      let text := if mark = '=' then text.skip 1 else text
      let text ← takeConversion text
      let text ← match text.rest with
        | ':' :: _ => checkFields place fuel (depth + 1) (text.skip 1)
        | _ => pure text
      match text.rest with
      | '\x7d' :: _ => return text.skip 1
      | _ => fieldFault .endMissing

end

/-- A text between quotes: its letters, and what is between them. -/
structure Quoted where
  isBytes : Bool
  isRaw : Bool
  hasFields : Bool
  body : List Char

def Quoted.ofToken (raw : List Char) : Quoted :=
  let letters := raw.takeWhile Char.isAlpha
  let quoted := raw.drop letters.length
  let size := quoteSize (quoted.head?.getD '\x27') quoted
  let small := letters.map Char.toLower
  ⟨small.contains 'b', small.contains 'r', small.contains 'f', (quoted.drop size).take (quoted.length - 2 * size)⟩

/-- Checks one text behind others, of which the first one tells whether all are bytes. -/
def checkQuoted (read : FieldReader) (isBytes : Option Bool) (line : Nat) (text : Quoted) : Except TextTrouble Unit := do
  if !text.hasFields then
    if text.isBytes then
      if text.body.any (0x80 ≤ ·.toNat) then throw (.own .wideBytes)
      if !text.isRaw then ((checkByteEscapes 0 text.body).mapError Trouble.escape).mapError .own
    else if !text.isRaw then (checkText text.body).mapError .own
  if isBytes.any (· != text.isBytes) then throw (.own .mixedTexts)
  if text.hasFields then
    let size := text.body.length
    let place : FieldPlace := ⟨line, text.isRaw, read⟩
    let _ ← checkFields place (4 * size + 4) 0 ⟨text.body, 0⟩

def checkAll (read : FieldReader) : Option Bool → List (Nat × Quoted) → Except TextTrouble Unit
  | _, [] => .ok ()
  | isBytes, (line, text) :: rest => do
    checkQuoted read isBytes line text
    checkAll read (some (isBytes.getD text.isBytes)) rest

end PluginAudit.Handler
