import Mathlib
import PluginAudit.Proofs.Script.Blanking

namespace PluginAudit.Script

inductive Literal where
  | template
  | double
  | single
deriving Repr, DecidableEq

namespace Literal

def mark : Literal → Char
  | template => '\x60'
  | double => '\x22'
  | single => '\x27'

def all : List Literal :=
  [template, double, single]

def ofMark? (c : Char) : Option Literal :=
  all.find? (·.mark = c)

end Literal

/-- Where in a script the lexer is. -/
inductive Mode where
  | code
  | line
  | block
  | literal (kind : Literal)
deriving Repr, DecidableEq

/-- The characters of a text, each with the mode that it was consumed in, and the mode at the end. -/
structure Reading where
  consumed : List (Char × Mode)
  ending : Mode
deriving Repr, DecidableEq

namespace Reading

def behind (reading : Reading) (mode : Mode) (chars : List Char) : Reading :=
  { reading with consumed := chars.map (·, mode) ++ reading.consumed }

def masked (reading : Reading) : List Char :=
  reading.consumed.map fun read => if read.2 = .code then read.1 else ' '

end Reading

/-- Reads a text from a mode on. Two characters are taken at once where they are one delimiter, or where the first is
the backslash of a literal. -/
def lex : Mode → List Char → Reading
  | mode, [] => ⟨[], mode⟩
  | .code, '/' :: '/' :: rest => (lex .line rest).behind .line ['/', '/']
  | .code, '/' :: '*' :: rest => (lex .block rest).behind .block ['/', '*']
  | .code, c :: rest =>
    match Literal.ofMark? c with
    | some kind => (lex (.literal kind) rest).behind (.literal kind) [c]
    | none => (lex .code rest).behind .code [c]
  | .line, c :: rest => if c = '\n' then (lex .code rest).behind .code [c] else (lex .line rest).behind .line [c]
  | .block, '*' :: '/' :: rest => (lex .code rest).behind .block ['*', '/']
  | .block, c :: rest => (lex .block rest).behind .block [c]
  | .literal kind, '\\' :: c :: rest => (lex (.literal kind) rest).behind (.literal kind) ['\\', c]
  | .literal kind, c :: rest =>
    if c = kind.mark then (lex .code rest).behind (.literal kind) [c]
    else (lex (.literal kind) rest).behind (.literal kind) [c]

theorem Literal.isQuote_mark (kind : Literal) : isQuote kind.mark = true := by
  cases kind <;> rfl

theorem Literal.exists_mark {c : Char} (quote : isQuote c = true) : ∃ kind : Literal, kind.mark = c := by
  rcases (isQuote_iff c).mp quote with rfl | rfl | rfl
  · exact ⟨template, rfl⟩
  · exact ⟨double, rfl⟩
  · exact ⟨single, rfl⟩

theorem Literal.ofMark?_eq_none {c : Char} (plain : isQuote c = false) : ofMark? c = none := by
  rw [ofMark?, List.find?_eq_none]
  rintro kind - same
  rw [← of_decide_eq_true same, kind.isQuote_mark] at plain
  cases plain

def opens (c : Char) (next : Option Char) : Bool :=
  isQuote c || (c == '/' && (next == some '/' || next == some '*'))

theorem opens_eq_false_iff (c : Char) (next : Option Char) :
    opens c next = false ↔ isQuote c = false ∧ (c = '/' → next ≠ some '/' ∧ next ≠ some '*') := by
  simp [opens]

theorem spanLength_plain {c : Char} {rest : List Char} (plain : opens c rest.head? = false) :
    spanLength (c :: rest) = 0 := by
  obtain ⟨quote, slash⟩ := (opens_eq_false_iff c rest.head?).mp plain
  by_cases same : c = '/'
  · subst same
    cases rest with
    | nil => rfl
    | cons d rest =>
      obtain ⟨line, block⟩ := slash rfl
      exact spanLength_slash (fun star => block (congrArg some star)) (fun other => line (congrArg some other)) rest
  · exact spanLength_other same quote rest

namespace Reading

variable (reading : Reading) (mode : Mode)

@[simp] theorem behind_behind (first second : List Char) :
    (reading.behind mode second).behind mode first = reading.behind mode (first ++ second) := by
  simp [behind]

@[simp] theorem ending_behind (chars : List Char) : (reading.behind mode chars).ending = reading.ending := rfl

theorem masked_behind_code (chars : List Char) : (reading.behind .code chars).masked = chars ++ reading.masked := by
  simp [behind, masked, Function.comp_def]

variable {mode} in
theorem masked_behind (outside : mode ≠ .code) (chars : List Char) :
    (reading.behind mode chars).masked = List.replicate chars.length ' ' ++ reading.masked := by
  simp [behind, masked, outside, ← List.map_const']

end Reading

theorem lex_code_literal (kind : Literal) (rest : List Char) :
    lex .code (kind.mark :: rest) = (lex (.literal kind) rest).behind (.literal kind) [kind.mark] := by
  cases kind <;> rfl

theorem lex_code_plain {c : Char} {rest : List Char} (plain : opens c rest.head? = false) :
    lex .code (c :: rest) = (lex .code rest).behind .code [c] := by
  obtain ⟨quote, slash⟩ := (opens_eq_false_iff c rest.head?).mp plain
  rw [lex, Literal.ofMark?_eq_none quote]
  · rintro next rfl rfl
    exact (slash rfl).1 rfl
  · rintro next rfl rfl
    exact (slash rfl).2 rfl

theorem lex_block_ended {text : List Char} {n : Nat} (found : blockEnd? text = some n) :
    lex .block text = (lex .code (text.drop n)).behind .block (text.take n) := by
  induction text using blockEnd?.induct generalizing n with
  | case1 => cases found
  | case2 rest =>
    cases found
    rfl
  | case3 c rest other ih =>
    rw [blockEnd?] at found
    · obtain ⟨m, foundRest, rfl⟩ := Option.map_eq_some_iff.mp found
      rw [lex]
      · rw [ih foundRest, Reading.behind_behind]
        rfl
      · exact other
    · exact other

theorem lex_block_unended {text : List Char} (unended : blockEnd? text = none) : (lex .block text).ending = .block := by
  induction text using blockEnd?.induct with
  | case1 => rfl
  | case2 rest => cases unended
  | case3 c rest other ih =>
    rw [blockEnd?, Option.map_eq_none_iff] at unended
    · rw [lex, Reading.ending_behind]
      · exact ih unended
      · exact other
    · exact other

theorem lex_literal_plain {c : Char} (plain : c ≠ '\\') (kind : Literal) (rest : List Char) :
    lex (.literal kind) (c :: rest) =
      (if c = kind.mark then lex .code rest else lex (.literal kind) rest).behind (.literal kind) [c] := by
  rw [lex]
  · split <;> rfl
  · intro _ _ backslash
    exact absurd backslash plain

theorem lex_literal_ended {kind : Literal} {text : List Char} {n : Nat} (found : quoteEnd? kind.mark text = some n) :
    lex (.literal kind) text = (lex .code (text.drop n)).behind (.literal kind) (text.take n) := by
  induction text using quote_induction generalizing n with
  | nil => cases found
  | last => cases found
  | escape c rest ih =>
    rw [quoteEnd?_escape] at found
    obtain ⟨m, foundRest, rfl⟩ := Option.map_eq_some_iff.mp found
    rw [lex, ih foundRest, Reading.behind_behind]
    rfl
  | plain c rest other ih =>
    rw [quoteEnd?_cons other] at found
    rw [lex_literal_plain other]
    split at found
    · rename_i same
      cases found
      rw [if_pos same]
      rfl
    · rename_i different
      obtain ⟨m, foundRest, rfl⟩ := Option.map_eq_some_iff.mp found
      rw [if_neg different, ih foundRest, Reading.behind_behind]
      rfl

theorem lex_literal_unended {kind : Literal} {text : List Char} (unended : quoteEnd? kind.mark text = none) :
    (lex (.literal kind) text).ending = .literal kind := by
  induction text using quote_induction with
  | nil => rfl
  | last => cases kind <;> rfl
  | escape c rest ih =>
    rw [quoteEnd?_escape, Option.map_eq_none_iff] at unended
    exact ih unended
  | plain c rest other ih =>
    rw [quoteEnd?_cons other] at unended
    rw [lex_literal_plain other]
    split at unended
    · cases unended
    · rename_i different
      rw [if_neg different]
      exact ih (Option.map_eq_none_iff.mp unended)

theorem lex_line_ended {text : List Char} (newline : '\n' ∈ text) :
    lex .line text = (lex .code (text.dropWhile (· != '\n'))).behind .line (text.takeWhile (· != '\n')) := by
  induction text with
  | nil => cases newline
  | cons c rest ih =>
    by_cases here : c = '\n'
    · subst here
      have code : lex .code ('\n' :: rest) = (lex .code rest).behind .code ['\n'] := lex_code_plain rfl
      rw [lex, if_pos rfl, ← code]
      rfl
    · have later : '\n' ∈ rest := by simpa [Ne.symm here] using newline
      simp [lex, here, ih later]

theorem lex_line_unended {text : List Char} (none : '\n' ∉ text) :
    lex .line text = Reading.behind ⟨[], .line⟩ .line text := by
  induction text with
  | nil => rfl
  | cons c rest ih =>
    rw [List.mem_cons, not_or] at none
    simp [lex, Ne.symm none.1, ih none.2]

theorem takeWhile_line {body : List Char} (inside : '\n' ∉ body) (rest : List Char) :
    (body ++ rest).takeWhile (· != '\n') = body ++ rest.takeWhile (· != '\n') := by
  rw [List.takeWhile_append_of_pos]
  intro c member
  simpa using fun same : c = '\n' => inside (same ▸ member)

theorem drop_length_takeWhile (p : Char → Bool) (text : List Char) :
    text.drop (text.takeWhile p).length = text.dropWhile p := by
  have dropped := @List.drop_left _ (text.takeWhile p) (text.dropWhile p)
  rwa [List.takeWhile_append_dropWhile] at dropped

theorem take_length_takeWhile (p : Char → Bool) (text : List Char) :
    text.take (text.takeWhile p).length = text.takeWhile p := by
  have taken := @List.take_left _ (text.takeWhile p) (text.dropWhile p)
  rwa [List.takeWhile_append_dropWhile] at taken

/-- A complete span is consumed outside code as a whole. Only a line comment may end with the text. -/
theorem lex_span {text : List Char} (positive : 0 < spanLength text) :
    (∃ mode, mode ≠ .code ∧
      lex .code text = (lex .code (text.drop (spanLength text))).behind mode (text.take (spanLength text))) ∨
      (text.drop (spanLength text) = [] ∧ lex .code text = Reading.behind ⟨[], .line⟩ .line text) := by
  rcases spanLength_cases positive with ⟨rest, n, rfl, found, length⟩ | ⟨rest, rfl, length⟩ |
    ⟨mark, rest, n, quote, rfl, found, length⟩
  · left
    refine ⟨.block, by decide, ?_⟩
    rw [length, lex, lex_block_ended found, Reading.behind_behind]
    rfl
  · by_cases newline : '\n' ∈ rest
    · left
      refine ⟨.line, by decide, ?_⟩
      rw [length, lex, lex_line_ended newline, Reading.behind_behind, List.drop_succ_cons, List.drop_succ_cons,
        List.take_succ_cons, List.take_succ_cons, drop_length_takeWhile, take_length_takeWhile]
      rfl
    · right
      have whole : rest.takeWhile (· != '\n') = rest := by simpa using takeWhile_line newline []
      rw [length, whole, lex, lex_line_unended newline, Reading.behind_behind]
      exact ⟨by simp, rfl⟩
  · left
    obtain ⟨kind, rfl⟩ := Literal.exists_mark quote
    refine ⟨.literal kind, by simp, ?_⟩
    rw [length, lex_code_literal, lex_literal_ended found, Reading.behind_behind]
    rfl

theorem lex_unended {c : Char} {rest : List Char} (opener : opens c rest.head? = true)
    (none : spanLength (c :: rest) = 0) :
    (lex .code (c :: rest)).ending ≠ .code ∧ (lex .code (c :: rest)).ending ≠ .line := by
  by_cases quote : isQuote c = true
  · obtain ⟨kind, rfl⟩ := Literal.exists_mark quote
    have unended : quoteEnd? kind.mark rest = .none := by
      rw [spanLength_quote quote] at none
      cases found : quoteEnd? kind.mark rest with
      | none => rfl
      | some n => simp [found] at none
    rw [lex_code_literal, Reading.ending_behind, lex_literal_unended unended]
    simp
  · obtain ⟨rfl, next⟩ : c = '/' ∧ (rest.head? = some '/' ∨ rest.head? = some '*') := by
      simpa [opens, quote] using opener
    rcases next with slash | star
    · obtain ⟨later, rfl⟩ := List.head?_eq_some_iff.mp slash
      simp [spanLength] at none
    · obtain ⟨later, rfl⟩ := List.head?_eq_some_iff.mp star
      have unended : blockEnd? later = .none := by
        cases found : blockEnd? later with
        | none => rfl
        | some n => simp [spanLength, found] at none
      rw [lex, Reading.ending_behind, lex_block_unended unended]
      decide

theorem chars_lex (mode : Mode) (text : List Char) : (lex mode text).consumed.map Prod.fst = text := by
  fun_induction lex mode text <;> simp_all [Reading.behind]

theorem blankChars_eq_masked {text : List Char}
    (ended : (lex .code text).ending = .code ∨ (lex .code text).ending = .line) :
    blankChars text = (lex .code text).masked := by
  induction text using blank_induction with
  | nil => rfl
  | keep c rest none ih =>
    -- An opener that starts no span has no end, and the lexer would still be in what it opened.
    cases opener : opens c rest.head? with
    | true =>
      have left := lex_unended opener none
      rcases ended with code | line
      · exact absurd code left.1
      · exact absurd line left.2
    | false =>
      rw [lex_code_plain opener] at ended ⊢
      rw [blankChars_keep none, Reading.masked_behind_code, ih ended]
      rfl
  | span text positive ih =>
    rw [blankChars_span positive]
    rcases lex_span positive with ⟨mode, outside, read⟩ | ⟨empty, read⟩
    · rw [read] at ended ⊢
      rw [Reading.masked_behind _ outside, ih ended, List.length_take_of_le (spanLength_le text)]
    · -- The text ends in a line comment, which is a span up to the end of the text.
      have length : spanLength text = text.length :=
        Nat.le_antisymm (spanLength_le text) (List.drop_eq_nil_iff.mp empty)
      rw [read, Reading.masked_behind _ (by decide), empty, length]
      rfl

/-- Of a script in which no block comment and no literal is left open, the lexer reads each character once, and blanking
masks what it reads outside code. -/
theorem blank_eq_masked (source : String)
    (ended : (lex .code source.toList).ending = .code ∨ (lex .code source.toList).ending = .line) :
    (lex .code source.toList).consumed.map Prod.fst = source.toList ∧
      blank source = String.ofList (lex .code source.toList).masked :=
  ⟨chars_lex .code source.toList, congrArg String.ofList (blankChars_eq_masked ended)⟩

/-- A block comment that starts with its own end, a literal with an escaped mark, a comment sign and an escaped line
end, and a line comment with a mark. -/
def nestedScript : String :=
  "a/*/ ' */b '\\'//\\\n'; // \x60"

theorem blank_eq_masked_nested :
    (lex .code nestedScript.toList).ending = .line ∧
      (lex .code nestedScript.toList).consumed.map Prod.fst = nestedScript.toList ∧
      blank nestedScript = String.ofList (lex .code nestedScript.toList).masked ∧
      (lex .code nestedScript.toList).masked = "a        b         ;     ".toList := by
  have ended : (lex .code nestedScript.toList).ending = .line := by decide
  obtain ⟨chars, masked⟩ := blank_eq_masked nestedScript (.inr ended)
  exact ⟨ended, chars, masked, by decide⟩

end PluginAudit.Script
