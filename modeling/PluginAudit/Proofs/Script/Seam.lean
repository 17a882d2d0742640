import Mathlib
import PluginAudit.Proofs.Script.Lexer

namespace PluginAudit.Script

/-- Every comment and literal of a script is closed within it, a line comment by its line end. -/
def Closed (text : List Char) : Prop :=
  (lex .code text).ending = .code

instance (text : List Char) : Decidable (Closed text) :=
  inferInstanceAs (Decidable (_ = _))

theorem blockEnd?_append {text : List Char} {n : Nat} (found : blockEnd? text = some n) (more : List Char) :
    blockEnd? (text ++ more) = some n := by
  induction text using blockEnd?.induct generalizing n with
  | case1 => cases found
  | case2 rest => exact found
  | case3 c rest other ih =>
    rw [blockEnd?] at found
    · obtain ⟨m, foundRest, rfl⟩ := Option.map_eq_some_iff.mp found
      rw [List.cons_append, blockEnd?, ih foundRest]
      · rfl
      · rintro next rfl split
        cases rest with
        | nil => cases foundRest
        | cons d later =>
          cases split
          exact other later rfl rfl
    · exact other

theorem quoteEnd?_append {mark : Char} {text : List Char} {n : Nat} (found : quoteEnd? mark text = some n)
    (more : List Char) : quoteEnd? mark (text ++ more) = some n := by
  induction text using quote_induction generalizing n with
  | nil => cases found
  | last => cases found
  | escape c rest ih =>
    rw [quoteEnd?_escape] at found
    obtain ⟨m, foundRest, rfl⟩ := Option.map_eq_some_iff.mp found
    rw [List.cons_append, List.cons_append, quoteEnd?_escape, ih foundRest]
    rfl
  | plain c rest other ih =>
    rw [quoteEnd?_cons other] at found
    rw [List.cons_append, quoteEnd?_cons other]
    split at found
    · rename_i same
      rw [if_pos same, found]
    · rename_i different
      obtain ⟨m, foundRest, rfl⟩ := Option.map_eq_some_iff.mp found
      rw [if_neg different, ih foundRest]
      rfl

/-- What follows a script cannot lengthen a span of it, a line comment that the script leaves open apart. -/
theorem spanLength_append {text : List Char} (positive : 0 < spanLength text) (closed : Closed text)
    (more : List Char) : spanLength (text ++ more) = spanLength text := by
  rcases spanLength_cases positive with ⟨rest, n, rfl, found, length⟩ | ⟨rest, rfl, length⟩ |
    ⟨mark, rest, n, quote, rfl, found, length⟩
  · rw [length, List.cons_append, List.cons_append, spanLength, blockEnd?_append found]
    rfl
  · have newline : '\n' ∈ rest := by
      by_contra none
      rw [Closed, lex, lex_line_unended none] at closed
      cases closed
    have short : (rest.takeWhile (· != '\n')).length ≠ rest.length := by
      intro whole
      have all := List.takeWhile_eq_self_iff.mp ((List.takeWhile_sublist (l := rest) (· != '\n')).eq_of_length whole)
      exact absurd (all '\n' newline) (by decide)
    rw [length, List.cons_append, List.cons_append, spanLength, List.takeWhile_append, if_neg short]
  · rw [length, List.cons_append, spanLength_quote quote, quoteEnd?_append found]
    rfl

theorem getLast?_of_append (front : List Char) {text : List Char} {c : Char}
    (last : (front ++ text).getLast? ≠ some c) : text.getLast? ≠ some c := by
  intro same
  rw [List.getLast?_append, same] at last
  exact last rfl

/-- Behind a closed script blanking starts anew. A slash at its end could open a comment with what follows. -/
theorem blankChars_append {text : List Char} (closed : Closed text) (last : (blankChars text).getLast? ≠ some '/')
    (more : List Char) : blankChars (text ++ more) = blankChars text ++ blankChars more := by
  induction text using blank_induction with
  | nil => rfl
  | keep c rest none ih =>
    cases opener : opens c rest.head? with
    | true => exact absurd closed (lex_unended opener none).1
    | false =>
      rw [Closed, lex_code_plain opener] at closed
      rw [blankChars_keep none] at last ⊢
      have plain : opens c (rest ++ more).head? = false := by
        cases rest with
        | nil =>
          -- The last character of the script: what follows could only complete a slash.
          rw [opens_eq_false_iff] at opener ⊢
          refine ⟨opener.1, ?_⟩
          rintro rfl
          exact absurd rfl last
        | cons d rest => exact opener
      rw [List.cons_append, blankChars_keep (spanLength_plain plain), ih closed (getLast?_of_append [c] last)]
      rfl
  | span text positive ih =>
    have length := spanLength_append positive closed more
    have bound := spanLength_le text
    have closedRest : Closed (text.drop (spanLength text)) := by
      rcases lex_span positive with ⟨mode, _, read⟩ | ⟨_, read⟩
      · rwa [Closed, read] at closed
      · rw [Closed, read] at closed
        cases closed
    rw [blankChars_span positive] at last ⊢
    rw [blankChars_span (by omega), length, List.drop_append_of_le_length bound,
      ih closedRest (getLast?_of_append _ last), List.append_assoc]

end PluginAudit.Script
