import PluginAudit.Proofs.Script.Blanking

namespace PluginAudit.Script

/-- No `mark` in a text ends a literal. A literal is read from its start, or from behind a backslash. -/
def Unended (mark : Char) : Bool → List Char → Prop
  | _, [] => True
  | true, _ :: rest => Unended mark false rest
  | false, c :: rest => if c = '\\' then Unended mark true rest else c ≠ mark ∧ Unended mark false rest

theorem unended_plain {mark c : Char} (plain : c ≠ '\\') (rest : List Char) :
    Unended mark false (c :: rest) ↔ c ≠ mark ∧ Unended mark false rest := by
  simp [Unended, plain]

theorem unended_backslash (mark : Char) (rest : List Char) :
    Unended mark false ('\\' :: rest) ↔ Unended mark true rest := by
  simp [Unended]

theorem Unended.tail {mark c : Char} {escaped : Bool} {rest : List Char} (unended : Unended mark escaped (c :: rest))
    (plain : c ≠ '\\') : Unended mark false rest := by
  cases escaped with
  | true => exact unended
  | false => exact ((unended_plain plain rest).mp unended).2

theorem quoteEnd?_eq_none_iff (mark : Char) (text : List Char) :
    quoteEnd? mark text = none ↔ Unended mark false text := by
  induction text using quote_induction with
  | nil => simp [quoteEnd?, Unended]
  | last => simp [quoteEnd?, Unended]
  | escape c rest ih => rw [quoteEnd?_escape, Option.map_eq_none_iff, ih, unended_backslash, Unended]
  | plain c rest other ih =>
    rw [quoteEnd?_cons other, unended_plain other, ← ih]
    by_cases same : c = mark <;> simp [same]

theorem unended_blanks {mark : Char} (visible : mark ≠ ' ') (escaped : Bool) {n : Nat} (positive : 0 < n)
    (rest : List Char) : Unended mark escaped (List.replicate n ' ' ++ rest) ↔ Unended mark false rest := by
  have blank : ∀ text, Unended mark false (' ' :: text) ↔ Unended mark false text := fun text => by
    rw [unended_plain (by decide)]
    exact and_iff_right (Ne.symm visible)
  induction n generalizing escaped with
  | zero => omega
  | succ n ih =>
    rw [List.replicate_succ, List.cons_append]
    have first : Unended mark escaped (' ' :: (List.replicate n ' ' ++ rest)) ↔
        Unended mark false (List.replicate n ' ' ++ rest) := by
      cases escaped with
      | true => exact Iff.rfl
      | false => exact blank _
    rw [first]
    cases n with
    | zero => exact Iff.rfl
    | succ n => exact ih false (by omega)

theorem Unended.drop_block {mark : Char} {escaped : Bool} {text : List Char} (unended : Unended mark escaped text)
    {n : Nat} (found : blockEnd? text = some n) : Unended mark false (text.drop n) := by
  induction text using blockEnd?.induct generalizing escaped n with
  | case1 => cases found
  | case2 rest =>
    simp only [blockEnd?, Option.some.injEq] at found
    subst found
    exact (unended.tail (by decide)).tail (by decide)
  | case3 c rest other ih =>
    rw [blockEnd?] at found
    · obtain ⟨m, foundRest, rfl⟩ := Option.map_eq_some_iff.mp found
      rw [List.drop_succ_cons]
      by_cases backslash : c = '\\'
      · subst backslash
        cases escaped with
        | true => exact ih unended foundRest
        | false => exact ih ((unended_backslash mark rest).mp unended) foundRest
      · exact ih (unended.tail backslash) foundRest
    · exact other

theorem Unended.drop_quote {mark inner : Char} {text : List Char} (unended : Unended mark false text)
    {n : Nat} (found : quoteEnd? inner text = some n) : Unended mark false (text.drop n) := by
  induction text using quote_induction generalizing n with
  | nil => cases found
  | last => cases found
  | escape c rest ih =>
    rw [quoteEnd?_escape] at found
    obtain ⟨m, foundRest, rfl⟩ := Option.map_eq_some_iff.mp found
    exact ih ((unended_backslash mark _).mp unended) foundRest
  | plain c rest other ih =>
    rw [quoteEnd?_cons other] at found
    split at found
    · cases found
      exact unended.tail other
    · obtain ⟨m, foundRest, rfl⟩ := Option.map_eq_some_iff.mp found
      exact ih (unended.tail other) foundRest

theorem Unended.drop {mark : Char} {escaped : Bool} {text : List Char} (unended : Unended mark escaped text) (n : Nat) :
    ∃ escaped, Unended mark escaped (text.drop n) := by
  induction n generalizing escaped text with
  | zero => exact ⟨escaped, unended⟩
  | succ n ih =>
    cases text with
    | nil => exact ⟨false, trivial⟩
    | cons c rest =>
      by_cases backslash : c = '\\'
      · subst backslash
        cases escaped with
        | true => exact ih unended
        | false => exact ih ((unended_backslash mark rest).mp unended)
      · exact ih (unended.tail backslash)

theorem drop_line (text : List Char) :
    text.drop (text.takeWhile (· != '\n')).length = [] ∨
      ∃ rest, text.drop (text.takeWhile (· != '\n')).length = '\n' :: rest := by
  induction text with
  | nil => exact .inl rfl
  | cons c rest ih =>
    by_cases newline : c = '\n'
    · subst newline
      exact .inr ⟨rest, rfl⟩
    · simpa [List.takeWhile_cons, newline] using ih

theorem Unended.blankChars {mark : Char} (quote : isQuote mark = true) {escaped : Bool} {text : List Char}
    (unended : Unended mark escaped text) : Unended mark escaped (blankChars text) := by
  have visible : mark ≠ ' ' := by
    rintro rfl
    cases quote
  induction text using blank_induction generalizing escaped with
  | nil => exact unended
  | keep c rest none ih =>
    rw [blankChars_keep none]
    cases escaped with
    | true => exact ih unended
    | false =>
      by_cases backslash : c = '\\'
      · subst backslash
        exact (unended_backslash mark _).mpr (ih ((unended_backslash mark rest).mp unended))
      · obtain ⟨other, tail⟩ := (unended_plain backslash rest).mp unended
        exact (unended_plain backslash _).mpr ⟨other, ih tail⟩
  | span text positive ih =>
    rw [blankChars_span positive, unended_blanks visible escaped positive]
    rcases spanLength_cases positive with ⟨rest, n, rfl, found, length⟩ | ⟨rest, rfl, length⟩ |
      ⟨inner, rest, n, innerQuote, rfl, found, length⟩
    · have inside : Unended mark false rest := (unended.tail (by decide)).tail (by decide)
      rw [length] at ih ⊢
      exact ih (inside.drop_block found)
    · -- The line may end in a backslash, so nothing is known of the state at its end. The line end makes up for it.
      rw [length] at ih ⊢
      obtain ⟨state, behind⟩ := unended.drop ((rest.takeWhile (· != '\n')).length + 2)
      have blanked := ih behind
      change Unended mark false (Script.blankChars (rest.drop _))
      change Unended mark state (Script.blankChars (rest.drop _)) at blanked
      rcases drop_line rest with empty | ⟨next, line⟩
      · rw [empty]
        trivial
      · rw [line, blankChars_keep (spanLength_newline next)] at blanked ⊢
        have other : '\n' ≠ mark := by
          rintro rfl
          cases quote
        exact (unended_plain (by decide) _).mpr ⟨other, blanked.tail (by decide)⟩
    · have plain : inner ≠ '\\' := by
        rintro rfl
        cases innerQuote
      rw [length] at ih ⊢
      exact ih ((unended.tail plain).drop_quote found)

theorem blockEnd?_blanked {text blanked : List Char}
    (pointwise : List.Forall₂ (fun c d => d = c ∨ d = ' ') text blanked) (unended : blockEnd? text = none) :
    blockEnd? blanked = none := by
  induction text using blockEnd?.induct generalizing blanked with
  | case1 =>
    cases pointwise
    rfl
  | case2 rest => cases unended
  | case3 c rest other ih =>
    cases pointwise with
    | @cons _ d _ out head tail =>
      rw [blockEnd?, Option.map_eq_none_iff] at unended
      · rw [blockEnd?, Option.map_eq_none_iff]
        · exact ih tail unended
        · rintro next rfl rfl
          cases tail with
          | @cons slash _ more _ headSlash _ =>
            have star : c = '*' := by simpa [eq_comm] using head
            have same : slash = '/' := by simpa [eq_comm] using headSlash
            exact other more star (by rw [same])
      · exact other

/-- What starts no complete span in a script starts none in the blanked script. -/
theorem spanLength_keep {c : Char} {rest : List Char} (none : spanLength (c :: rest) = 0) :
    spanLength (c :: blankChars rest) = 0 := by
  by_cases quote : isQuote c = true
  · rw [spanLength_quote quote] at none ⊢
    have unended : quoteEnd? c rest = .none := by
      cases found : quoteEnd? c rest with
      | none => rfl
      | some n => simp [found] at none
    have blanked := ((quoteEnd?_eq_none_iff c rest).mp unended).blankChars quote
    rw [(quoteEnd?_eq_none_iff c _).mpr blanked]
    rfl
  · by_cases slash : c = '/'
    · subst slash
      cases rest with
      | nil => exact none
      | cons d rest =>
        by_cases star : d = '*'
        · subst star
          have unended : blockEnd? rest = .none := by
            cases found : blockEnd? rest with
            | none => rfl
            | some n => simp [spanLength, found] at none
          have blanked : blockEnd? (blankChars rest) = .none := blockEnd?_blanked (forall₂_blankFrom 0 rest) unended
          rw [blankChars_keep (spanLength_other (by decide) rfl rest), spanLength, blanked]
          rfl
        · have notLine : d ≠ '/' := by
            rintro rfl
            simp [spanLength] at none
          rcases Nat.eq_zero_or_pos (spanLength (d :: rest)) with zero | positive
          · rw [blankChars_keep zero]
            exact spanLength_slash star notLine _
          · obtain ⟨n, length⟩ := Nat.exists_eq_add_one.mpr positive
            rw [blankChars_span positive, length, List.replicate_succ, List.cons_append]
            exact spanLength_slash (by decide) (by decide) _
    · exact spanLength_other slash (by simpa using quote) _

theorem spanLength_blank (rest : List Char) : spanLength (' ' :: rest) = 0 :=
  spanLength_other (by decide) rfl rest

theorem spanLength_suffix_blankFrom (pending : Nat) (text : List Char) {rest : List Char}
    (suffix : rest <:+ blankFrom pending text) : spanLength rest = 0 := by
  induction pending, text using blankFrom.induct with
  | case1 pending =>
    rw [blankFrom, List.suffix_nil] at suffix
    rw [suffix]
    rfl
  | case2 pending c text ih =>
    rw [blankFrom, List.suffix_cons_iff] at suffix
    rcases suffix with rfl | suffix
    · exact spanLength_blank _
    · exact ih suffix
  | case3 c text none ih =>
    rw [blankFrom, none] at suffix
    rcases List.suffix_cons_iff.mp suffix with rfl | suffix
    · exact spanLength_keep none
    · exact ih suffix
  | case4 c text pending length ih =>
    rw [blankFrom, length] at suffix
    rcases List.suffix_cons_iff.mp suffix with rfl | suffix
    · exact spanLength_blank _
    · exact ih suffix

theorem blankChars_eq_self {text : List Char} (none : ∀ rest, rest <:+ text → spanLength rest = 0) :
    blankChars text = text := by
  induction text with
  | nil => rfl
  | cons c rest ih =>
    rw [blankChars_keep (none _ List.suffix_rfl)]
    exact congrArg (c :: ·) (ih fun later suffix => none later (suffix.trans (List.suffix_cons c rest)))

/-- Blanking twice is blanking once. Whatever opener is left in a blanked script, no complete span starts there. -/
theorem blank_blank (source : String) :
    blank (blank source) = blank source ∧ ∀ place, spanLength ((blank source).toList.drop place) = 0 := by
  have none : ∀ rest, rest <:+ blankChars source.toList → spanLength rest = 0 :=
    fun rest suffix => spanLength_suffix_blankFrom 0 source.toList suffix
  simp only [blank, String.toList_ofList]
  exact ⟨congrArg String.ofList (blankChars_eq_self none), fun place => none _ (List.drop_suffix place _)⟩

end PluginAudit.Script
