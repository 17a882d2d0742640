import PluginAudit.Console.Handler.Trouble
import PluginAudit.Text.Identifier

namespace PluginAudit.Handler

open PluginAudit.Text

inductive TokenKind where
  | name (text : String)
  | keyword (text : String)
  | mark (text : String)
  | number (text : List Char)
  | text (raw : List Char)
  | newLine
  | indent
  | unindent
  | stop
deriving DecidableEq

structure Token where
  kind : TokenKind
  line : Nat
  level : Nat
deriving DecidableEq

inductive Ending where
  | regular
  -- With a fault that counts before every other one.
  | fault (trouble : Trouble)
  -- With a fault that counts only if it is reached, and the innermost bracket that is open there, with its line.
  | halt (trouble : Trouble) (opened : Option (Char × Nat))
deriving DecidableEq

structure Tokens where
  list : List Token
  ending : Ending
  -- Whether the end of the text has been seen with the last token.
  isEndSeen : Bool := false

def keywords : List String :=
  ["False", "None", "True", "and", "as", "assert", "async", "await", "break", "class", "continue", "def", "del", "elif",
    "else", "except", "finally", "for", "from", "global", "if", "import", "in", "is", "lambda", "nonlocal", "not", "or",
    "pass", "raise", "return", "try", "while", "with", "yield"]

def longMarks : List String :=
  ["**=", "//=", "<<=", ">>=", "...", "!=", "%=", "&=", "**", "*=", "+=", "-=", "->", "//", "/=", ":=", "<<", "<=", "<>", "==",
    ">=", ">>", "@=", "^=", "|="]

/-- A text under way: what is left of it, its line, the brackets that are open, and the indents that are. -/
structure Reading where
  rest : List Char
  line : Nat
  opened : List (Char × Nat)
  -- Columns of the open indents, with tabs of eight columns and of one.
  indents : List (Nat × Nat)

def maxLevel : Nat := 200

def maxIndents : Nat := 100

namespace Reading

def halt (reading : Reading) (trouble : Trouble) : Ending :=
  .halt trouble reading.opened.head?

def haltAtEnd (reading : Reading) : Ending :=
  match reading.opened with
  | (bracket, line) :: _ => .halt (.neverClosed bracket) (some (bracket, line))
  | [] => .halt .unexpectedEnd none

def continued (reading : Reading) (rest : List Char) : Except Ending Reading :=
  match rest with
  | ['\n'] => .error reading.haltAtEnd
  | '\n' :: rest => .ok { reading with rest, line := reading.line + 1 }
  | _ => .error (reading.halt .continuation)

end Reading

def wordsBehindNumber : List String :=
  ["and", "else", "for", "or", "not"]

def startsBehindNumber : List String :=
  ["if", "in", "is"]

def isAsciiWord (c : Char) : Bool :=
  c.isAlphanum || c == '_'

def isWordLike (c : Char) : Bool :=
  isAsciiWord c || 0x80 ≤ c.toNat

def numberEnd (kind : String) (rest : List Char) : Except Trouble (List Char) :=
  let word := String.ofList (rest.takeWhile isWordLike)
  if wordsBehindNumber.contains word || startsBehindNumber.any (·.toList.isPrefixOf rest) then .ok rest
  else if rest.head?.any isAsciiWord then .error (.number kind)
  else .ok rest

def decimalRun : List Char → Except Trouble (List Char)
  | '_' :: c :: rest => if c.isDigit then decimalRun rest else .error (.number "decimal")
  | ['_'] => .error (.number "decimal")
  | c :: rest => if c.isDigit then decimalRun rest else .ok (c :: rest)
  | [] => .ok []

/-- A digit that the base of a number does not have, or something else that is no digit. -/
def noDigit {α : Type} (kind : String) (rest : List Char) : Except Trouble α :=
  match rest with
  | c :: _ => if kind != "hexadecimal" && c.isDigit then .error (.wrongDigit c kind) else .error (.number kind)
  | [] => .error (.number kind)

def basedDigits (base : Nat) (kind : String) : Nat → List Char → Except Trouble (List Char)
  | 0, rest => .ok rest
  | fuel + 1, text =>
    let isDigit c := (hexDigit? c).any (· < base)
    let text := match text with
      | '_' :: rest => rest
      | text => text
    if text.head?.any isDigit then
      match text.dropWhile isDigit with
      | '_' :: rest => basedDigits base kind fuel ('_' :: rest)
      | rest => .ok rest
    else noDigit kind text

def basedNumber (base : Nat) (kind : String) (text : List Char) : Except Trouble (List Char) := do
  let rest ← basedDigits base kind (text.length + 1) text
  if kind != "hexadecimal" && rest.head?.any Char.isDigit then noDigit kind rest else numberEnd kind rest

def imaginaryEnd (rest : List Char) : Except Trouble (List Char) :=
  match rest with
  | c :: more => if c == 'j' || c == 'J' then numberEnd "imaginary" more else numberEnd "decimal" rest
  | [] => .ok []

def exponentEnd (rest : List Char) : Except Trouble (List Char) :=
  match rest with
  | e :: more =>
    if e == 'e' || e == 'E' then
      match more with
      | sign :: digits =>
        if sign == '+' || sign == '-' then
          if digits.head?.any Char.isDigit then decimalRun digits >>= imaginaryEnd else .error (.number "decimal")
        else if sign.isDigit then decimalRun more >>= imaginaryEnd
        else numberEnd "decimal" rest
      | [] => numberEnd "decimal" rest
    else imaginaryEnd rest
  | [] => .ok []

def fractionEnd (rest : List Char) : Except Trouble (List Char) :=
  match rest with
  | '.' :: more => if more.head?.any Char.isDigit then decimalRun more >>= exponentEnd else exponentEnd more
  | rest => exponentEnd rest

def skipZeros : List Char → Except Trouble (List Char)
  | '_' :: c :: rest =>
    if c == '0' then skipZeros rest else if c.isDigit then .ok (c :: rest) else .error (.number "decimal")
  | ['_'] => .error (.number "decimal")
  | '0' :: rest => skipZeros rest
  | rest => .ok rest

def zeroNumber (text : List Char) : Except Trouble (List Char) := do
  let rest ← skipZeros text
  let isDecimal := rest.head?.any Char.isDigit
  let rest ← if isDecimal then decimalRun rest else pure rest
  match rest with
  | '.' :: _ => fractionEnd rest
  | c :: _ =>
    if c == 'e' || c == 'E' then exponentEnd rest
    else if c == 'j' || c == 'J' then imaginaryEnd rest
    else if isDecimal then .error .leadingZeros
    else numberEnd "decimal" rest
  | [] => if isDecimal then .error .leadingZeros else .ok []

def behindNumber (text : List Char) : Except Trouble (List Char) :=
  match text with
  | '0' :: c :: rest =>
    if c == 'x' || c == 'X' then basedNumber 16 "hexadecimal" rest
    else if c == 'o' || c == 'O' then basedNumber 8 "octal" rest
    else if c == 'b' || c == 'B' then basedNumber 2 "binary" rest
    else zeroNumber text
  | '0' :: _ => zeroNumber text
  | '.' :: _ => fractionEnd text
  | text => decimalRun text >>= fractionEnd

/-- The letters before a quote: for bytes, for text, for raw text and for text with fields, as they go together. -/
def quoteLetters : List (List Char) :=
  ["b", "u", "r", "f", "br", "rb", "fr", "rf"].map String.toList

def isQuote (c : Char) : Bool :=
  c == '\x27' || c == '\x22'

def lettersBeforeQuote? (text : List Char) : Option (List Char) :=
  let letters := text.takeWhile Char.isAlpha
  let isQuoted := (text.drop letters.length).head?.any isQuote
  if isQuoted && (letters.isEmpty || quoteLetters.contains (letters.map Char.toLower)) then some letters else none

/-- The number of characters up to the end of a text between quotes, with the quotes behind it. `seen` of them have been met. -/
def quotedLength? (quote : Char) (size : Nat) : Nat → List Char → Option Nat
  | seen, text =>
    if seen = size then some 0
    else
      match text with
      | [] => none
      | '\\' :: _ :: rest => (quotedLength? quote size 0 rest).map (· + 2)
      | ['\\'] => none
      | c :: rest =>
        if size = 1 ∧ c = '\n' then none
        else (quotedLength? quote size (if c = quote then seen + 1 else 0) rest).map (· + 1)

/-- The number of quotes at the start of a text: three, if there are so many, or one. -/
def quoteSize (quote : Char) (text : List Char) : Nat :=
  if [quote, quote, quote].isPrefixOf text then 3 else 1

/-- The number of lines that begin in a text without an end. A line break that counts ends a text between single quotes. -/
def linesBegun (isTriple : Bool) : List Char → Nat
  | [] => 0
  | ['\n'] => 0
  | ['\\', '\n'] => 0
  | '\\' :: '\n' :: rest => linesBegun isTriple rest + 1
  | '\\' :: _ :: rest => linesBegun isTriple rest
  | '\n' :: rest => if isTriple then linesBegun isTriple rest + 1 else 0
  | _ :: rest => linesBegun isTriple rest

/-- The indent at the start of a line, with both counts of columns, and the line behind it. -/
structure Indent where
  wide : Nat
  narrow : Nat
  -- The column of the first backslash that takes the indent to the next line.
  first : Nat
  reading : Reading

def takeIndent : Nat → Indent → Except Ending Indent
  | 0, indent => .ok indent
  | fuel + 1, indent =>
    match indent.reading.rest with
    | ' ' :: rest =>
      takeIndent fuel { indent with
        wide := indent.wide + 1, narrow := indent.narrow + 1, reading := { indent.reading with rest } }
    | '\t' :: rest =>
      takeIndent fuel { indent with
        wide := (indent.wide / 8 + 1) * 8, narrow := indent.narrow + 1, reading := { indent.reading with rest } }
    | '\x0c' :: rest => takeIndent fuel { indent with wide := 0, narrow := 0, reading := { indent.reading with rest } }
    | '\\' :: rest => do
      let reading ← indent.reading.continued rest
      takeIndent fuel { indent with first := if indent.first = 0 then indent.wide else indent.first, reading }
    | _ => .ok indent

def setIndent (wide narrow : Nat) (reading : Reading) : Except Ending (List TokenKind × Reading) :=
  let (here, hereNarrow) := reading.indents.head?.getD (0, 0)
  if wide = here then
    if narrow = hereNarrow then .ok ([], reading) else .error (reading.halt .mixedIndent)
  else if here < wide then
    if maxIndents ≤ reading.indents.length + 1 then .error (reading.halt .deepIndent)
    else if narrow ≤ hereNarrow then .error (reading.halt .mixedIndent)
    else .ok ([.indent], { reading with indents := (wide, narrow) :: reading.indents })
  else
    let closed := reading.indents.takeWhile fun indent => wide < indent.1
    let indents := reading.indents.drop closed.length
    let (outer, outerNarrow) := indents.head?.getD (0, 0)
    if wide ≠ outer then .error (reading.halt .unevenIndent)
    else if narrow ≠ outerNarrow then .error (reading.halt .mixedIndent)
    else .ok (List.replicate closed.length .unindent, { reading with indents })

/-- The start of a line: changes of the indent, and whether the line is blank. A blank line has no indent, and neither has one
inside brackets. -/
def startLine (reading : Reading) : Except Ending (List TokenKind × Bool × Reading) := do
  let indent ← takeIndent (reading.rest.length + 1) ⟨0, 0, 0, reading⟩
  let reading := indent.reading
  let isBlank := reading.rest.head?.any fun c => c == '#' || c == '\n'
  if isBlank || !reading.opened.isEmpty then return ([], isBlank, reading)
  else
    let wide := if indent.first = 0 then indent.wide else indent.first
    let narrow := if indent.first = 0 then indent.narrow else indent.first
    let (kinds, reading) ← setIndent wide narrow reading
    return (kinds, false, reading)

def wordKind (text : String) : TokenKind :=
  if keywords.contains text then .keyword text else .name text

def isPair (opened close : Char) : Bool :=
  (opened == '(' && close == ')') || (opened == '[' && close == ']') || (opened == '\x7b' && close == '\x7d')

def isOpen (c : Char) : Bool :=
  c == '(' || c == '[' || c == '\x7b'

def isClose (c : Char) : Bool :=
  c == ')' || c == ']' || c == '\x7d'

def bracket (reading : Reading) (c : Char) : Except Trouble Reading :=
  if isOpen c then
    if maxLevel ≤ reading.opened.length then .error .tooDeep
    else .ok { reading with opened := (c, reading.line) :: reading.opened }
  else if isClose c then
    match reading.opened with
    | [] => .error (.unmatched c)
    | (opened, line) :: rest =>
      if isPair opened c then .ok { reading with opened := rest }
      else .error (.mismatched c opened (if line = reading.line then none else some line))
  else .ok reading

abbrev Found := Except Trouble (TokenKind × Reading)

def quotedToken (reading : Reading) (letters : List Char) : Found :=
  let behind := reading.rest.drop letters.length
  let quote := behind.head?.getD '\x27'
  let size := quoteSize quote behind
  let body := behind.drop size
  match quotedLength? quote size 0 body with
  | some length =>
    let raw := reading.rest.take (letters.length + size + length)
    .ok (.text raw, { reading with rest := reading.rest.drop raw.length, line := reading.line + raw.count '\n' })
  | none => .error (.unterminated (size = 3) (reading.line + linesBegun (size = 3) body))

def numberToken (reading : Reading) : Found := do
  let rest ← behindNumber reading.rest
  return (.number (reading.rest.take (reading.rest.length - rest.length)), { reading with rest })

def wordToken (reading : Reading) : Found :=
  let word := reading.rest.takeWhile isWordLike
  match identifierFault? word with
  | some c => .error (.character c)
  | none => .ok (wordKind (String.ofList word), { reading with rest := reading.rest.drop word.length })

def markToken (reading : Reading) (c : Char) : Found :=
  match longMarks.find? fun mark => mark.toList.isPrefixOf reading.rest with
  | some mark => .ok (.mark mark, { reading with rest := reading.rest.drop mark.length })
  | none => do
    let next ← bracket { reading with rest := reading.rest.drop 1 } c
    if isPrintable c then return (.mark c.toString, next) else throw (.character c)

def nextToken (reading : Reading) (c : Char) : Found :=
  match lettersBeforeQuote? reading.rest with
  | some letters => quotedToken reading letters
  | none =>
    if c.isAlpha || c == '_' || 0x80 ≤ c.toNat then wordToken reading
    else if c.isDigit || (c == '.' && (reading.rest.drop 1).head?.any Char.isDigit) then numberToken reading
    else markToken reading c

def TokenKind.looksAhead : TokenKind → Bool
  | .mark word => word.length < 3
  | .text raw => (raw.dropWhile Char.isAlpha).length = 2
  | _ => true

def Tokens.addFront (kinds : List TokenKind) (reading : Reading) (tokens : Tokens) : Tokens :=
  { tokens with list := kinds.map (⟨·, reading.line, reading.opened.length⟩) ++ tokens.list }

/-- The tokens of what is left. `isStart` tells whether a line starts here, and `isBlank` whether it is blank. -/
def tokensFrom : Nat → Bool → Bool → Reading → Tokens
  | 0, _, _, _ => { list := [], ending := .regular }
  | fuel + 1, true, _, reading =>
    match startLine reading with
    | .error ending => { list := [], ending }
    | .ok (kinds, isBlank, reading) => (tokensFrom fuel false isBlank reading).addFront kinds reading
  | fuel + 1, false, isBlank, reading =>
    let rest := reading.rest.dropWhile fun c => c == ' ' || c == '\t' || c == '\x0c'
    let rest := if rest.head? = some '#' then rest.dropWhile (· != '\n') else rest
    let reading := { reading with rest }
    match rest with
    | [] =>
      if reading.opened.isEmpty then { list := [⟨.stop, reading.line, 0⟩], ending := .regular }
      else { list := [], ending := reading.haltAtEnd }
    | '\n' :: rest =>
      let next := { reading with rest, line := reading.line + 1 }
      if isBlank || !reading.opened.isEmpty then tokensFrom fuel true false next
      else (tokensFrom fuel true false next).addFront [.newLine] reading
    | '\\' :: rest =>
      match reading.continued rest with
      | .ok reading => tokensFrom fuel false isBlank reading
      | .error ending => { list := [], ending }
    | c :: _ =>
      match nextToken reading c with
      | .error trouble => { list := [], ending := .fault trouble }
      | .ok (kind, next) =>
        let tokens := tokensFrom fuel false isBlank next
        { tokens with
          list := ⟨kind, reading.line, next.opened.length⟩ :: tokens.list
          isEndSeen := tokens.isEndSeen || (next.rest.isEmpty && kind.looksAhead) }

def sameBreaks : List Char → List Char
  | '\r' :: '\n' :: rest => '\n' :: sameBreaks rest
  | '\r' :: rest => '\n' :: sameBreaks rest
  | c :: rest => c :: sameBreaks rest
  | [] => []

def tokens (line : Nat) (text : List Char) : Tokens :=
  let text := sameBreaks text
  tokensFrom (3 * text.length + 3) true false ⟨text, line, [], []⟩

end PluginAudit.Handler
