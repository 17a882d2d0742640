import PluginAudit.Report.Template.Doc
import PluginAudit.Report.Template.Field

namespace PluginAudit.Template

open PluginAudit.Text

inductive Filling where
  | text (s : String)
  | count (n : Nat)
  | nothing
  | kind (kind : Kind)
  | kinds (items : List Kind)
  | shared (owner : Kind) (entry : Entry)
  | function (owner : Kind) (entry : Entry) (object : Filling)
  | boundSlot (owner : Kind) (entry : Entry) (object : Filling)
  | view (kind : Kind)
  | parameterized (kind : Kind) (item : Filling)
deriving DecidableEq

namespace EntryForm

def kind : EntryForm → Kind
  | method => .method
  | slot => .slot
  | getter => .getter
  | field => .field
  | kindMethod => .kindMethod
  | function => .function
  | static => .function
  | value => .text

def label : EntryForm → String
  | slot => "slot wrapper"
  | getter => "attribute"
  | field => "member"
  | _ => "method"

end EntryForm

namespace Filling

def kindOf : Filling → Kind
  | text _ => .text
  | count _ => .whole
  | nothing => .nothing
  | kind _ => .metakind
  | kinds _ => .tuple
  | shared _ entry => entry.form.kind
  | function .. => .function
  | boundSlot .. => .boundSlot
  | view _ => .view
  | parameterized k _ => k

def kindName : Filling → String
  | parameterized .. => "types.GenericAlias"
  | filling => filling.kindOf.name

def ofText? : Option String → Filling
  | some s => text s
  | none => nothing

def shownKind (k : Kind) : String :=
  s!"<class '{k.name}'>"

def shownKinds : List Kind → String
  | [k] => "(" ++ shownKind k ++ ",)"
  | items => "(" ++ ", ".intercalate (items.map shownKind) ++ ")"

/-- A member of a kind. Methods and slots of one object also have an address, which is left out here and below. -/
def shownEntry (k : Kind) (entry : Entry) : String :=
  match entry.form with
  | .value => ((k.value? entry).map quoted).getD "None"
  | .function => s!"<built-in method {entry.name} of type object>"
  | .static => s!"<staticmethod(<built-in method {entry.name} of type object>)>"
  | form => s!"<{form.label} '{entry.name}' of '{k.name}' objects>"

def shownEntries (k : Kind) : String :=
  let shownPair (entry : Entry) := quoted entry.name ++ ": " ++ shownEntry k entry
  "\x7b" ++ ", ".intercalate (k.entries.map shownPair) ++ "\x7d"

def shown : Filling → String
  | text s => quoted s
  | count n => toString n
  | nothing => "None"
  | kind k => shownKind k
  | kinds items => shownKinds items
  | shared owner entry => shownEntry owner entry
  | function _ entry object => s!"<built-in method {entry.name} of {object.kindName} object>"
  | boundSlot _ entry object => s!"<method-wrapper '{entry.name}' of {object.kindName} object>"
  | view k => "mappingproxy(" ++ shownEntries k ++ ")"
  | parameterized k item => s!"{k.name}[{item.shown}]"

def display : Filling → String
  | text s => s
  | view k => shownEntries k
  | filling => filling.shown

def asciiChar (c : Char) : List Char :=
  if c.toNat < 0x80 then [c] else escapedChar c

def shownAscii (filling : Filling) : String :=
  String.ofList (filling.shown.toList.flatMap asciiChar)

def owner : Filling → String
  | kind k => s!"type object '{k.name}'"
  | filling => s!"'{filling.kindName}' object"

end Filling

namespace Kind

def find? (kind : Kind) (name : String) : Option (Kind × Entry) :=
  kind.line.findSome? fun owner => (owner.entries.find? (·.name = name)).map fun entry => (owner, entry)

/-- What is said of a kind. A kind that computes it for its objects gives the member that does so. -/
def docOf (kind : Kind) : Filling :=
  match kind.doc?, kind.entries.find? (·.name = "__doc__") with
  | some doc, _ => .text doc
  | none, some entry => if entry.form = .value then .nothing else .shared kind entry
  | none, none => .nothing

def give (kind owner : Kind) (entry : Entry) : Filling :=
  match entry.form with
  | .value => .ofText? (owner.value? entry)
  | .kindMethod => .function owner entry (.kind kind)
  | .function => .function owner entry (.kind owner)
  | .static => .function owner entry (.kind owner)
  | _ => .shared owner entry

end Kind

namespace Filling

def wholeName (name : String) : Filling → String
  | kind k => k.name ++ "." ++ name
  | filling => filling.kindName ++ "." ++ name

def ofKind (k : Kind) (name : String) : Except Fault Filling :=
  match name with
  | "__basicsize__" => .ok (count k.sizes.basic)
  | "__itemsize__" => .ok (count k.sizes.item)
  | "__flags__" => .ok (count k.sizes.flags)
  | "__dictoffset__" => .ok (count k.sizes.map)
  | "__weakrefoffset__" => .ok (count k.sizes.weak)
  | "__base__" => .ok ((k.base?.map kind).getD nothing)
  | "__bases__" => .ok (kinds k.base?.toList)
  | "__mro__" => .ok (kinds k.line)
  | "__name__" => .ok (text k.name)
  | "__qualname__" => .ok (text k.name)
  | "__module__" => .ok (text "builtins")
  | "__dict__" => .ok (view k)
  | "__doc__" => .ok k.docOf
  | "__text_signature__" => .ok (ofText? k.signature?)
  | "__abstractmethods__" => .error (.unset name)
  | name => .error (.noAttribute (kind k).owner name)

def ofEntry (owner : Kind) (entry : Entry) (name : String) : Filling :=
  match name with
  | "__name__" => text entry.name
  | "__qualname__" => text (owner.name ++ "." ++ entry.name)
  | "__doc__" => ofText? (owner.entryDoc? entry)
  | "__text_signature__" => ofText? (owner.entrySignature? entry)
  | "__objclass__" => kind owner
  | _ => nothing

def ofFunction (owner : Kind) (entry : Entry) (object : Filling) (name : String) : Filling :=
  match name with
  | "__name__" => text entry.name
  | "__qualname__" => text (object.wholeName entry.name)
  | "__doc__" => ofText? (owner.entryDoc? entry)
  | "__text_signature__" => ofText? (owner.entrySignature? entry)
  | "__self__" => if entry.form = .static then nothing else object
  | _ => nothing

def ofCount (n : Nat) (name : String) : Filling :=
  match name with
  | "imag" => count 0
  | "denominator" => count 1
  | _ => count n

def read (filling : Filling) (name : String) : Except Fault Filling :=
  if name = "__class__" then .ok (kind filling.kindOf)
  else
    match filling with
    | count n => .ok (ofCount n name)
    | kind k => ofKind k name
    | shared owner entry => .ok (ofEntry owner entry name)
    | function owner entry object => .ok (ofFunction owner entry object name)
    | boundSlot owner entry object =>
      .ok (if name = "__self__" then object else ofEntry owner entry name)
    | filling => .error (.noAttribute filling.owner name)

def bind (filling : Filling) (owner : Kind) (entry : Entry) : Except Fault Filling :=
  match entry.form with
  | .getter => filling.read entry.name
  | .field => filling.read entry.name
  | .method => .ok (function owner entry filling)
  | .slot => .ok (boundSlot owner entry filling)
  | _ => .ok (filling.kindOf.give owner entry)

/-- The member of a kind with a name. A kind has the members of its objects too, and those that it computes or stores come
first. -/
def kindMember (k : Kind) (name : String) : Except Fault Filling :=
  match Kind.metakind.find? name, k.find? name with
  | some (owner, entry), own =>
    if entry.isData then (kind k).bind owner entry
    else
      match own with
      | some (owner, entry) => .ok (k.give owner entry)
      | none => (kind k).bind owner entry
  | none, some (owner, entry) => .ok (k.give owner entry)
  | none, none => .error (.noAttribute (kind k).owner name)

def member (filling : Filling) (name : String) : Except Fault Filling :=
  match filling with
  | parameterized k _ => if name = "__origin__" then .ok (kind k) else kindMember k name
  | kind k => kindMember k name
  | filling =>
    match filling.kindOf.find? name with
    | some (owner, entry) => filling.bind owner entry
    | none => .error (.noAttribute filling.owner name)

def isGeneric (k : Kind) : Bool :=
  k = .metakind || (k.entries.any (·.name = "__class_getitem__"))

/-- The item of an object with a name, which may be a position. Texts have characters as their items. -/
def item (filling : Filling) (name : String) (position : Option Nat) : Except Fault Filling :=
  match filling, position with
  | text s, some n =>
    match s.toList[n]? with
    | some c => .ok (text (String.singleton c))
    | none => .error .noCharacter
  | text _, none => .error .namedCharacter
  | kinds items, some n =>
    match items[n]? with
    | some k => .ok (kind k)
    | none => .error .noKind
  | kinds _, none => .error .namedKind
  | view _, some n => .error (.noEntry (toString n))
  | view k, none =>
    match k.entries.find? (·.name = name) with
    | some entry => .ok (if entry.form = .value then ofText? (k.value? entry) else .shared k entry)
    | none => .error (.noEntry (quoted name))
  | kind k, position =>
    if isGeneric k then .ok (parameterized k ((position.map count).getD (text name)))
    else .error (.noItems s!"type '{k.name}'")
  | parameterized .., _ => .error (.notGeneric filling.shown)
  | filling, _ => .error (.noItems filling.owner)

def part (filling : Filling) : Step → Except Fault Filling
  | .member name => filling.member (String.ofList name)
  | .item name position => filling.item (String.ofList name) position

/-- The part of a filling at the end of all steps. Each step also makes the text of the others shorter, so as many steps as
characters are enough. -/
def parts : Nat → Filling → List Char → Except Fault Filling
  | 0, filling, _ => .ok filling
  | _ + 1, filling, [] => .ok filling
  | fuel + 1, filling, c :: rest => do
    let (next, rest) ← step (c :: rest)
    let filling ← filling.part next
    parts fuel filling rest

def convert (filling : Filling) : Option Char → Except Fault Filling
  | none => .ok filling
  | some 's' => .ok (text filling.display)
  | some 'r' => .ok (text filling.shown)
  | some 'a' => .ok (text filling.shownAscii)
  | some c => .error (.unknownConversion c)

end Filling

end PluginAudit.Template
