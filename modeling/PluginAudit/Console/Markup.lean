import PluginAudit.Console.Handler
import PluginAudit.Console.Marked

namespace PluginAudit.Markup

open PluginAudit.Text

inductive Fault where
  | noSuchTag (tag : String) (place : Nat)
  | noTag (place : Nat)
  -- A handler whose arguments, which are part of its parameter, cannot be used.
  | handler (arguments parameter : String) (fault : Handler.Fault)
  -- A style with a number that cannot be read.
  | style (fault : DataFault)
deriving DecidableEq

namespace Fault

def label : Fault → String
  | style fault => fault.label
  | _ => "MarkupError"

def message : Fault → String
  | noSuchTag tag place => s!"closing tag '[{tag}]' at position {place} doesn't match any open tag"
  | noTag place => s!"closing tag '[/]' at position {place} has nothing to close"
  | handler arguments parameter (.noExpression trouble) =>
    s!"error parsing {quoted arguments} in {quoted parameter}; {trouble.message}"
  | handler _ parameter fault => s!"error parsing {quoted parameter}; {fault.message}"
  | style fault => fault.message

end Fault

def opensTag (c : Char) : Bool :=
  ('a' ≤ c && c ≤ 'z') || c == '#' || c == '/' || c == '@'

def tag? : List Char → Option (List Char × List Char)
  | '[' :: c :: rest =>
    let body := rest.takeWhile fun d => d != '[' && d != ']'
    match rest.drop body.length with
    | ']' :: after => if opensTag c then some (c :: body, after) else none
    | _ => none
  | _ => none

inductive Segment where
  | plain (text : List Char)
  | tag (place : Nat) (body : List Char)
deriving DecidableEq

def plainSegment (text : List Char) : List Segment :=
  if text.isEmpty then [] else [.plain text]

/-- Cuts a text at its tags. Of the backslashes before a tag each two stand for one, and an odd one takes the tag's meaning.
`pending` is the plain text before, latest character first; `fuel` bounds the number of cuts. -/
def segmentsFrom : Nat → Nat → List Char → List Char → List Segment
  | 0, _, pending, text => plainSegment (pending.reverse ++ text)
  | _ + 1, _, pending, [] => plainSegment pending.reverse
  | fuel + 1, place, pending, c :: rest =>
    let text := c :: rest
    let slashes := (text.takeWhile (· == '\\')).length
    match tag? (text.drop slashes) with
    | some (body, after) =>
      let kept := plainSegment pending.reverse ++ plainSegment (List.replicate (slashes / 2) '\\')
      let segment :=
        if slashes % 2 = 1 then Segment.plain ('[' :: body ++ [']']) else .tag (place + slashes / 2 * 2) body
      kept ++ segment :: segmentsFrom fuel (place + slashes + body.length + 2) [] after
    | none => segmentsFrom fuel (place + 1) (c :: pending) rest

def segments (text : List Char) : List Segment :=
  segmentsFrom (text.length + 1) 0 [] text

def unescape : List Char → List Char
  | '\\' :: '[' :: rest => '[' :: unescape rest
  | c :: rest => c :: unescape rest
  | [] => []

def tagName (body : List Char) : List Char :=
  body.takeWhile (· != '=')

def tagParameter? (body : List Char) : Option (List Char) :=
  match body.dropWhile (· != '=') with
  | _ :: parameter => some parameter
  | [] => none

def styleName (text : List Char) : Except Fault String :=
  (Style.nameOf text).mapError .style

/-- A tag that is open: the name of its style, its parameter, and the place in the output where it was opened. -/
structure OpenTag where
  name : String
  parameter : Option (List Char)
  start : Nat

namespace OpenTag

def isHandler (tag : OpenTag) : Bool :=
  tag.name.toList.head? = some '@'

def style (tag : OpenTag) : List Char :=
  match tag.parameter with
  | some parameter => tag.name.toList ++ ' ' :: parameter
  | none => tag.name.toList

end OpenTag

def checkHandler (parameter : List Char) : Except Fault Unit :=
  if parameter = [] then .ok ()
  else
    let arguments := Handler.arguments (trim parameter)
    (Handler.check arguments).mapError (.handler (String.ofList arguments) (String.ofList parameter))

/-- The output so far, the open tags, and the spans of the closed ones; each latest first. -/
structure State where
  output : List Char
  opened : List OpenTag
  spans : List Span

def takeTag? (test : OpenTag → Bool) (opened : List OpenTag) : Option (OpenTag × List OpenTag) :=
  (opened.find? test).map fun tag => (tag, opened.eraseP test)

def closeTag (state : State) (place : Nat) (body : List Char) : Except Fault State := do
  let text := trim ((tagName body).drop 1)
  let found ←
    if text.isEmpty then
      match takeTag? (fun _ => true) state.opened with
      | some found => pure found
      | none => throw (.noTag place)
    else
      let name ← styleName text
      match takeTag? (·.name = name) state.opened with
      | some found => pure found
      | none => throw (.noSuchTag (String.ofList body) place)
  let (tag, opened) := found
  if tag.isHandler then
    checkHandler (tag.parameter.getD [])
    return { state with opened }
  else return { state with opened, spans := ⟨tag.start, state.output.length, tag.style⟩ :: state.spans }

def isControl (c : Char) : Bool :=
  c.toNat == 7 || c.toNat == 8 || (11 ≤ c.toNat && c.toNat ≤ 13)

def apply (state : State) : Segment → Except Fault State
  | .plain text => .ok { state with output := state.output ++ (unescape text).filter (!isControl ·) }
  | .tag place body =>
    if body.head? = some '/' then closeTag state place body
    else do
      let name ← styleName (tagName body)
      return { state with opened := ⟨name, tagParameter? body, state.output.length⟩ :: state.opened }

/-- Ends the tags that are still open. Of spans with one start the one that ended last comes first. -/
def State.finish (state : State) : Marked :=
  let rest := state.opened.map fun tag => ⟨tag.start, state.output.length, tag.style⟩
  let spans := rest.reverse ++ state.spans
  ⟨state.output, spans.mergeSort fun a b => a.start ≤ b.start⟩

def read (text : String) : Except Fault Marked :=
  let chars := text.toList
  if chars.contains '[' then ((segments chars).foldlM apply ⟨[], [], []⟩).map State.finish
  else .ok ⟨chars.filter (!isControl ·), []⟩

def render (text : String) : Except Fault String :=
  (read text).map fun marked => String.ofList marked.text

def consoleWidth : Nat := 1000

def consoleRoom : Room :=
  ⟨consoleWidth, .fold, true⟩

def lines (text : String) : Except Fault (List String) := do
  let marked ← read text
  (marked.check consoleRoom).mapError .style
  return (Layout.lines consoleWidth .fold .none marked.text).map String.ofList

def escapeFrom : Nat → List Char → List Char
  | 0, text => text
  | _ + 1, [] => []
  | fuel + 1, c :: rest =>
    let text := c :: rest
    let slashes := (text.takeWhile (· == '\\')).length
    match tag? (text.drop slashes) with
    | some (body, after) => List.replicate (2 * slashes + 1) '\\' ++ '[' :: body ++ ']' :: escapeFrom fuel after
    | none => c :: escapeFrom fuel rest

/-- A text in which no tag has a meaning. A single backslash at the end is doubled. -/
def escape (text : String) : String :=
  let escaped := escapeFrom (text.length + 1) text.toList
  let slashes := (escaped.reverse.takeWhile (· == '\\')).length
  String.ofList (if slashes = 1 then escaped ++ ['\\'] else escaped)

end PluginAudit.Markup
