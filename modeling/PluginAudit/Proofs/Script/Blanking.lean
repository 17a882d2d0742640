import Mathlib
import PluginAudit.Script.Blanking

namespace PluginAudit.Script

theorem isQuote_iff (c : Char) : isQuote c = true ↔ c = '\x60' ∨ c = '\x22' ∨ c = '\x27' := by
  simp [isQuote, or_assoc]

theorem spanLength_quote {c : Char} (quote : isQuote c = true) (rest : List Char) :
    spanLength (c :: rest) = (quoteEnd? c rest).elim 0 (· + 1) := by
  rcases (isQuote_iff c).mp quote with rfl | rfl | rfl <;> rfl

theorem spanLength_slash {d : Char} (star : d ≠ '*') (slash : d ≠ '/') (rest : List Char) :
    spanLength ('/' :: d :: rest) = 0 := by
  simp [spanLength, star, slash, isQuote]

theorem spanLength_other {c : Char} (slash : c ≠ '/') (quote : isQuote c = false) (rest : List Char) :
    spanLength (c :: rest) = 0 := by
  cases rest <;> simp [spanLength, slash, quote]

theorem spanLength_newline (rest : List Char) : spanLength ('\n' :: rest) = 0 :=
  spanLength_other (by decide) rfl rest

theorem spanLength_cases {text : List Char} (positive : 0 < spanLength text) :
    (∃ rest n, text = '/' :: '*' :: rest ∧ blockEnd? rest = some n ∧ spanLength text = n + 2) ∨
      (∃ rest, text = '/' :: '/' :: rest ∧ spanLength text = (rest.takeWhile (· != '\n')).length + 2) ∨
      ∃ mark rest n, isQuote mark = true ∧ text = mark :: rest ∧ quoteEnd? mark rest = some n ∧
        spanLength text = n + 1 := by
  cases text with
  | nil => simp [spanLength] at positive
  | cons c rest =>
    by_cases quote : isQuote c = true
    · right; right
      rw [spanLength_quote quote] at positive ⊢
      cases found : quoteEnd? c rest with
      | none => simp [found] at positive
      | some n => exact ⟨c, rest, n, quote, rfl, found, rfl⟩
    · by_cases slash : c = '/'
      · subst slash
        cases rest with
        | nil => simp [spanLength, isQuote] at positive
        | cons d rest =>
          by_cases star : d = '*'
          · left
            subst star
            cases found : blockEnd? rest with
            | none => simp [spanLength, found] at positive
            | some n => exact ⟨rest, n, rfl, found, by simp [spanLength, found]⟩
          · by_cases line : d = '/'
            · subst line
              exact .inr (.inl ⟨rest, rfl, rfl⟩)
            · rw [spanLength_slash star line] at positive
              omega
      · rw [spanLength_other slash (by simpa using quote)] at positive
        omega

theorem blockEnd?_le {text : List Char} {n : Nat} (found : blockEnd? text = some n) : n ≤ text.length := by
  induction text using blockEnd?.induct generalizing n with
  | case1 => simp [blockEnd?] at found
  | case2 rest =>
    simp only [blockEnd?, Option.some.injEq] at found
    simp only [List.length_cons]
    omega
  | case3 c rest other ih =>
    rw [blockEnd?] at found
    · obtain ⟨m, foundRest, rfl⟩ := Option.map_eq_some_iff.mp found
      have bound := ih foundRest
      simp only [List.length_cons]
      omega
    · exact other

theorem quoteEnd?_escape (mark c : Char) (rest : List Char) :
    quoteEnd? mark ('\\' :: c :: rest) = (quoteEnd? mark rest).map (· + 2) :=
  rfl

theorem quoteEnd?_cons {c : Char} (plain : c ≠ '\\') (mark : Char) (rest : List Char) :
    quoteEnd? mark (c :: rest) = if c = mark then some 1 else (quoteEnd? mark rest).map (· + 1) := by
  rw [quoteEnd?]
  · intro backslash
    exact absurd backslash plain
  · intro _ _ backslash
    exact absurd backslash plain

/-- Induction along a literal: a backslash goes with the character behind it. -/
theorem quote_induction {motive : List Char → Prop} (nil : motive []) (last : motive ['\\'])
    (escape : ∀ c rest, motive rest → motive ('\\' :: c :: rest))
    (plain : ∀ c rest, c ≠ '\\' → motive rest → motive (c :: rest)) : ∀ text, motive text
  | [] => nil
  | [c] => by
    by_cases backslash : c = '\\'
    · exact backslash ▸ last
    · exact plain c [] backslash nil
  | c :: d :: rest => by
    by_cases backslash : c = '\\'
    · exact backslash ▸ escape d rest (quote_induction nil last escape plain rest)
    · exact plain c (d :: rest) backslash (quote_induction nil last escape plain (d :: rest))

theorem quoteEnd?_le {mark : Char} {text : List Char} {n : Nat} (found : quoteEnd? mark text = some n) :
    n ≤ text.length := by
  induction text using quote_induction generalizing n with
  | nil => cases found
  | last => cases found
  | escape c rest ih =>
    rw [quoteEnd?_escape] at found
    obtain ⟨m, foundRest, rfl⟩ := Option.map_eq_some_iff.mp found
    have bound := ih foundRest
    simp only [List.length_cons]
    omega
  | plain c rest other ih =>
    rw [quoteEnd?_cons other] at found
    simp only [List.length_cons]
    split at found
    · cases found
      omega
    · obtain ⟨m, foundRest, rfl⟩ := Option.map_eq_some_iff.mp found
      have bound := ih foundRest
      omega

theorem spanLength_le (text : List Char) : spanLength text ≤ text.length := by
  rcases Nat.eq_zero_or_pos (spanLength text) with zero | positive
  · omega
  · rcases spanLength_cases positive with ⟨rest, n, rfl, found, length⟩ | ⟨rest, rfl, length⟩ |
      ⟨mark, rest, n, _, rfl, found, length⟩
    · have bound := blockEnd?_le found
      simp only [List.length_cons]
      omega
    · have bound := (List.takeWhile_sublist (l := rest) (· != '\n')).length_le
      simp only [List.length_cons]
      omega
    · have bound := quoteEnd?_le found
      simp only [List.length_cons]
      omega

theorem blankFrom_eq {pending : Nat} {text : List Char} (bound : pending ≤ text.length) :
    blankFrom pending text = List.replicate pending ' ' ++ blankChars (text.drop pending) := by
  induction pending generalizing text with
  | zero => rfl
  | succ pending ih =>
    cases text with
    | nil => simp at bound
    | cons c rest =>
      simp only [List.length_cons, Nat.add_le_add_iff_right] at bound
      rw [blankFrom, ih bound]
      rfl

theorem blankChars_keep {c : Char} {rest : List Char} (none : spanLength (c :: rest) = 0) :
    blankChars (c :: rest) = c :: blankChars rest := by
  rw [blankChars, blankFrom, none]
  rfl

theorem blankChars_span {text : List Char} (positive : 0 < spanLength text) :
    blankChars text = List.replicate (spanLength text) ' ' ++ blankChars (text.drop (spanLength text)) := by
  have bound := spanLength_le text
  cases text with
  | nil => simp [spanLength] at positive
  | cons c rest =>
    obtain ⟨n, length⟩ := Nat.exists_eq_add_one.mpr positive
    rw [length, List.length_cons] at bound
    rw [length, blankChars, blankFrom, length]
    exact congrArg (' ' :: ·) (blankFrom_eq (by omega))

/-- Induction along blanking: characters that are kept one by one, and spans as a whole. -/
theorem blank_induction {motive : List Char → Prop} (nil : motive [])
    (keep : ∀ c rest, spanLength (c :: rest) = 0 → motive rest → motive (c :: rest))
    (span : ∀ text, 0 < spanLength text → motive (text.drop (spanLength text)) → motive text)
    (text : List Char) : motive text := by
  rcases Nat.eq_zero_or_pos (spanLength text) with zero | positive
  · cases text with
    | nil => exact nil
    | cons c rest => exact keep c rest zero (blank_induction nil keep span rest)
  · exact span text positive (blank_induction nil keep span (text.drop (spanLength text)))
termination_by text.length
decreasing_by
  · simp
  · have bound := spanLength_le text
    simp only [List.length_drop]
    omega

/-- Blanking puts blanks in the place of some characters and changes nothing else. -/
theorem forall₂_blankFrom (pending : Nat) (text : List Char) :
    List.Forall₂ (fun c d => d = c ∨ d = ' ') text (blankFrom pending text) := by
  induction pending, text using blankFrom.induct with
  | case1 pending => simp [blankFrom]
  | case2 pending c rest ih =>
    rw [blankFrom]
    exact .cons (.inr rfl) ih
  | case3 c rest none ih =>
    rw [blankFrom, none]
    exact .cons (.inl rfl) ih
  | case4 c rest pending length ih =>
    rw [blankFrom, length]
    exact .cons (.inr rfl) ih

end PluginAudit.Script
