namespace PluginAudit.Script

def blockEnd? : List Char → Option Nat
  | [] => none
  | '*' :: '/' :: _ => some 2
  | _ :: rest => (blockEnd? rest).map (· + 1)

def quoteEnd? (mark : Char) : List Char → Option Nat
  | [] => none
  | ['\\'] => none
  | '\\' :: _ :: rest => (quoteEnd? mark rest).map (· + 2)
  | c :: rest => if c = mark then some 1 else (quoteEnd? mark rest).map (· + 1)

def isQuote (c : Char) : Bool :=
  c == '\x60' || c == '\x22' || c == '\x27'

/-- Length of the complete span that starts a text; 0 if none does. -/
def spanLength : List Char → Nat
  | '/' :: '*' :: rest => (blockEnd? rest).elim 0 (· + 2)
  | '/' :: '/' :: rest => (rest.takeWhile (· != '\n')).length + 2
  | c :: rest => if isQuote c then (quoteEnd? c rest).elim 0 (· + 1) else 0
  | [] => 0

/-- Blanks out a script whose first `pending` characters belong to a span opened before. -/
def blankFrom : Nat → List Char → List Char
  | _, [] => []
  | pending + 1, _ :: rest => ' ' :: blankFrom pending rest
  | 0, c :: rest =>
    match spanLength (c :: rest) with
    | 0 => c :: blankFrom 0 rest
    | pending + 1 => ' ' :: blankFrom pending rest

def blankChars (source : List Char) : List Char :=
  blankFrom 0 source

def blank (source : String) : String :=
  String.ofList (blankChars source.toList)

theorem length_blankFrom (pending : Nat) (source : List Char) :
    (blankFrom pending source).length = source.length := by
  fun_induction blankFrom pending source <;> simp_all

@[simp] theorem length_blankChars (source : List Char) : (blankChars source).length = source.length :=
  length_blankFrom 0 source

end PluginAudit.Script
