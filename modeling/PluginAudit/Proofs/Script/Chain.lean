import Mathlib
import PluginAudit.Proofs.Script.Search

namespace PluginAudit.Script

open Text Override

/-- A chain of words, what stands before it and what stands behind it. -/
structure Chain where
  before : List Char
  first : List Char
  further : List (List Char)
  behind : List Char
deriving Repr, DecidableEq

namespace Chain

def words (chain : Chain) : List (List Char) :=
  chain.first :: chain.further

def text (chain : Chain) : List Char :=
  ['.'].intercalate chain.words

def endsWord (text : List Char) : Bool :=
  text.getLast?.any isWord

def startsDotted (text : List Char) : Bool :=
  text.head? == some '.' && startsWord text.tail

def endsDotted (text : List Char) : Bool :=
  text.getLast? == some '.' && endsWord text.dropLast

def joined (before behind : List Char) : Bool :=
  (endsWord before && startsWord behind) || (endsWord before && startsDotted behind) ||
    (endsDotted before && startsWord behind)

structure StandsIn (chain : Chain) (text : List Char) : Prop where
  whole : chain.before ++ chain.text ++ chain.behind = text
  words : ∀ word ∈ chain.words, word ≠ [] ∧ ∀ c ∈ word, isWord c = true
  -- The chain does not go on before its start.
  left : joined chain.before (chain.text ++ chain.behind) = false
  -- The chain does not go on behind its end.
  right : joined (chain.before ++ chain.text) chain.behind = false

def read : List Char → List Char × List (List Char) × List Char
  | [] => ([], [], [])
  | c :: rest =>
    let (first, further, behind) := read rest
    if isWord c then (c :: first, further, behind)
    else if c == '.' && startsWord rest then ([], first :: further, behind)
    else ([], [], c :: rest)

def ofText (before text : List Char) : Chain :=
  let (first, further, behind) := read text
  ⟨before, first, further, behind⟩

def allFrom (before : List Char) : List Char → List Chain
  | [] => []
  | c :: rest =>
    if isWord c && !joined before (c :: rest) then ofText before (c :: rest) :: allFrom (before ++ [c]) rest
    else allFrom (before ++ [c]) rest

/-- The chains of a text, from left to right. -/
def all (text : List Char) : List Chain :=
  allFrom [] text

def linked : List (List Char) → List Char → List Char
  | [], behind => behind
  | word :: words, behind => '.' :: (word ++ linked words behind)

theorem intercalate_append (first : List Char) (further : List (List Char)) (behind : List Char) :
    ['.'].intercalate (first :: further) ++ behind = first ++ linked further behind := by
  induction further generalizing first with
  | nil => simp [linked]
  | cons word words ih =>
    rw [List.intercalate_cons_cons, List.append_assoc, ih, linked]
    simp

theorem linked_suffix (words : List (List Char)) (behind : List Char) : behind <:+ linked words behind := by
  induction words with
  | nil => exact List.suffix_rfl
  | cons word words ih => exact (ih.trans (List.suffix_append word _)).trans (List.suffix_cons '.' _)

/-- Words that are a chain as far as they go, and of which the last one ends it. The first may be a part of a word. -/
structure Ended (first : List Char) (further : List (List Char)) (behind : List Char) : Prop where
  first : ∀ c ∈ first, isWord c = true
  further : ∀ word ∈ further, word ≠ [] ∧ ∀ c ∈ word, isWord c = true
  stop : startsWord behind = false
  dot : startsDotted behind = false

namespace Ended

variable {first word : List Char} {further : List (List Char)} {behind : List Char}

theorem tail (ended : Ended first (word :: further) behind) : Ended word further behind where
  first := (ended.further word List.mem_cons_self).2
  further other member := ended.further other (List.mem_cons_of_mem word member)
  stop := ended.stop
  dot := ended.dot

theorem nonempty (ended : Ended first (word :: further) behind) : word ≠ [] :=
  (ended.further word List.mem_cons_self).1

theorem startsWord_linked (ended : Ended first further behind) : startsWord (linked further behind) = false := by
  cases further with
  | nil => exact ended.stop
  | cons word words => rfl

theorem startsWord_next (ended : Ended first (word :: further) behind) :
    startsWord (word ++ linked further behind) = true := by
  obtain ⟨c, word, rfl⟩ := List.exists_cons_of_ne_nil ended.nonempty
  exact ended.tail.first c List.mem_cons_self

end Ended

theorem read_word {word : List Char} (all : ∀ c ∈ word, isWord c = true) (rest : List Char) :
    read (word ++ rest) = (word ++ (read rest).1, (read rest).2) := by
  induction word with
  | nil => rfl
  | cons c word ih =>
    obtain ⟨head, tail⟩ := List.forall_mem_cons.mp all
    rw [List.cons_append, read, ih tail]
    simp [head]

theorem read_ended {first : List Char} {further : List (List Char)} {behind : List Char}
    (ended : Ended first further behind) : read (first ++ linked further behind) = (first, further, behind) := by
  induction further generalizing first with
  | nil =>
    have stopped : read behind = ([], [], behind) := by
      cases behind with
      | nil => rfl
      | cons c rest =>
        have outside : isWord c = false := ended.stop
        have single : (c == '.' && startsWord rest) = false := ended.dot
        simp [read, outside, single]
    rw [linked, read_word ended.first, stopped, List.append_nil]
  | cons word words ih =>
    have next := ended.startsWord_next
    have dot : isWord '.' = false := by decide
    rw [read_word ended.first, linked, read, ih ended.tail]
    simp [dot, next]

/-- Every text starts with a chain, or with an empty first word where no word starts it. -/
theorem exists_ended (text : List Char) :
    ∃ first further behind, text = first ++ linked further behind ∧ Ended first further behind ∧
      (startsWord text = true → first ≠ []) := by
  induction text with
  | nil => exact ⟨[], [], [], rfl, ⟨by simp, by simp, rfl, rfl⟩, by simp [startsWord]⟩
  | cons c rest ih =>
    obtain ⟨first, further, behind, same, ended, nonempty⟩ := ih
    by_cases word : isWord c = true
    · refine ⟨c :: first, further, behind, by simp [same], ?_, by simp⟩
      exact { ended with first := List.forall_mem_cons.mpr ⟨word, ended.first⟩ }
    · have notWord : startsWord (c :: rest) = false := by simpa [startsWord] using word
      by_cases dotted : c = '.' ∧ startsWord rest = true
      · obtain ⟨rfl, next⟩ := dotted
        refine ⟨[], first :: further, behind, by simp [linked, same], ⟨by simp, ?_, ended.stop, ended.dot⟩,
          by simp [notWord]⟩
        exact List.forall_mem_cons.mpr ⟨⟨nonempty next, ended.first⟩, ended.further⟩
      · refine ⟨[], [], c :: rest, rfl, ⟨by simp, by simp, notWord, ?_⟩, by simp [notWord]⟩
        simpa [startsDotted] using dotted

@[simp] theorem endsWord_concat (before : List Char) (c : Char) : endsWord (before ++ [c]) = isWord c := by
  simp [endsWord]

theorem endsWord_append (before : List Char) {word : List Char} (nonempty : word ≠ [])
    (all : ∀ c ∈ word, isWord c = true) : endsWord (before ++ word) = true := by
  obtain ⟨front, last, rfl⟩ := List.eq_nil_or_concat word |>.resolve_left nonempty
  rw [List.concat_eq_append, ← List.append_assoc, endsWord_concat]
  exact all last (by simp)

/-- Behind a word a chain goes on with a word character, or with a dot before one. -/
theorem joined_of_endsWord {before : List Char} (word : endsWord before = true) (behind : List Char) :
    joined before behind = (startsWord behind || startsDotted behind) := by
  have dot : endsDotted before = false := by
    unfold endsWord at word
    unfold endsDotted
    cases last : before.getLast? with
    | none => rfl
    | some c =>
      rw [last] at word
      have other : c ≠ '.' := by
        rintro rfl
        exact absurd word (by decide)
      simp [other]
  simp [joined, word, dot]

/-- Where no chain goes on and no word starts, none goes on behind the next character. -/
theorem joined_concat {before : List Char} {c : Char} {rest : List Char} (outside : isWord c = false)
    (apart : joined before (c :: rest) = false) : joined (before ++ [c]) rest = false := by
  have dotted : endsDotted (before ++ [c]) = (c == '.' && endsWord before) := by simp [endsDotted]
  have next : startsDotted (c :: rest) = (c == '.' && startsWord rest) := by simp [startsDotted]
  simp only [joined, next, Bool.or_eq_false_iff] at apart
  simp only [joined, endsWord_concat, outside, dotted, Bool.false_and, Bool.false_or]
  cases h : (c == '.') <;> simp_all

theorem allFrom_outside {c : Char} (outside : isWord c = false) (before rest : List Char) :
    allFrom before (c :: rest) = allFrom (before ++ [c]) rest := by
  simp [allFrom, outside]

theorem allFrom_joined {before : List Char} {c : Char} {rest : List Char} (goesOn : joined before (c :: rest) = true) :
    allFrom before (c :: rest) = allFrom (before ++ [c]) rest := by
  simp [allFrom, goesOn]

theorem allFrom_word {before word : List Char} (inside : endsWord before = true) (all : ∀ c ∈ word, isWord c = true)
    (rest : List Char) : allFrom before (word ++ rest) = allFrom (before ++ word) rest := by
  induction word generalizing before with
  | nil => simp
  | cons c word ih =>
    obtain ⟨head, tail⟩ := List.forall_mem_cons.mp all
    have goesOn : joined before (c :: (word ++ rest)) = true := by
      rw [joined_of_endsWord inside, Bool.or_eq_true]
      exact .inl head
    rw [List.cons_append, allFrom_joined goesOn, ih (by simpa using head) tail]
    simp

theorem allFrom_linked {before first : List Char} {further : List (List Char)} {behind : List Char}
    (inside : endsWord before = true) (ended : Ended first further behind) :
    allFrom before (linked further behind) = allFrom (before ++ linked further []) behind := by
  induction further generalizing before first with
  | nil => simp [linked]
  | cons word words ih =>
    have all := ended.tail.first
    have inWord := endsWord_append (before ++ ['.']) ended.nonempty all
    obtain ⟨c, word, rfl⟩ := List.exists_cons_of_ne_nil ended.nonempty
    obtain ⟨head, tail⟩ := List.forall_mem_cons.mp all
    have goesOn : joined (before ++ ['.']) (c :: (word ++ linked words behind)) = true := by
      simp [joined, endsDotted, inside, startsWord, head]
    rw [linked, allFrom_outside (by decide), List.cons_append, allFrom_joined goesOn,
      allFrom_word ((endsWord_concat _ c).trans head) tail, List.append_assoc _ [c], List.singleton_append,
      ih inWord ended.tail]
    simp [linked]

theorem allFrom_chain {before first : List Char} {further : List (List Char)} {behind : List Char}
    (nonempty : first ≠ []) (ended : Ended first further behind) (apart : joined before (first ++ linked further behind) = false) :
    allFrom before (first ++ linked further behind) =
      ⟨before, first, further, behind⟩ :: allFrom (before ++ (first ++ linked further [])) behind := by
  have all := ended.first
  have chain := read_ended ended
  have inWord := endsWord_append before nonempty all
  obtain ⟨c, word, rfl⟩ := List.exists_cons_of_ne_nil nonempty
  obtain ⟨head, tail⟩ := List.forall_mem_cons.mp all
  rw [List.cons_append] at apart chain ⊢
  rw [allFrom, head, apart, ofText, chain, allFrom_word ((endsWord_concat before c).trans head) tail,
    List.append_assoc, List.singleton_append, allFrom_linked inWord ended]
  simp

theorem text_append (chain : Chain) (rest : List Char) :
    chain.text ++ rest = chain.first ++ linked chain.further rest :=
  intercalate_append chain.first chain.further rest

theorem endsWord_linked (before : List Char) {first : List Char} {further : List (List Char)}
    (words : ∀ word ∈ first :: further, word ≠ [] ∧ ∀ c ∈ word, isWord c = true) :
    endsWord (before ++ (first ++ linked further [])) = true := by
  induction further generalizing before first with
  | nil =>
    obtain ⟨nonempty, all⟩ := words first List.mem_cons_self
    simpa [linked] using endsWord_append before nonempty all
  | cons word further ih =>
    have last := ih (before ++ first ++ ['.']) fun other member => words other (List.mem_cons_of_mem first member)
    simpa [linked] using last

theorem joined_behind (before : List Char) {first : List Char} {further : List (List Char)} {behind : List Char}
    (nonempty : first ≠ []) (ended : Ended first further behind) :
    joined (before ++ (first ++ linked further [])) behind = false := by
  have words : ∀ word ∈ first :: further, word ≠ [] ∧ ∀ c ∈ word, isWord c = true :=
    List.forall_mem_cons.mpr ⟨⟨nonempty, ended.first⟩, ended.further⟩
  rw [joined_of_endsWord (endsWord_linked before words), ended.stop, ended.dot]
  rfl

theorem standsIn_iff (chain : Chain) (text : List Char) :
    chain.StandsIn text ↔
      text = chain.before ++ (chain.first ++ linked chain.further chain.behind) ∧ chain.first ≠ [] ∧
        Ended chain.first chain.further chain.behind ∧
        joined chain.before (chain.first ++ linked chain.further chain.behind) = false := by
  have whole : chain.text = chain.first ++ linked chain.further [] := by rw [← text_append, List.append_nil]
  constructor
  · rintro ⟨rfl, words, left, right⟩
    rw [whole, joined_of_endsWord (endsWord_linked chain.before words), Bool.or_eq_false_iff] at right
    rw [text_append] at left
    obtain ⟨⟨nonempty, first⟩, further⟩ := List.forall_mem_cons.mp words
    exact ⟨by rw [List.append_assoc, text_append], nonempty, ⟨first, further, right.1, right.2⟩, left⟩
  · rintro ⟨rfl, nonempty, ended, left⟩
    have words : ∀ word ∈ chain.words, word ≠ [] ∧ ∀ c ∈ word, isWord c = true :=
      List.forall_mem_cons.mpr ⟨⟨nonempty, ended.first⟩, ended.further⟩
    refine ⟨by rw [List.append_assoc, text_append], words, by rwa [text_append], ?_⟩
    rw [whole]
    exact joined_behind chain.before nonempty ended

theorem standsIn_here (chain : Chain) (text : List Char) :
    chain.StandsIn (chain.before ++ text) ↔
      startsWord text = true ∧ joined chain.before text = false ∧ chain = ofText chain.before text := by
  rw [standsIn_iff, List.append_cancel_left_eq]
  constructor
  · rintro ⟨rfl, nonempty, ended, apart⟩
    obtain ⟨c, word, same⟩ := List.exists_cons_of_ne_nil nonempty
    refine ⟨?_, apart, by rw [ofText, read_ended ended]⟩
    rw [same]
    exact ended.first c (by simp [same])
  · rintro ⟨start, apart, made⟩
    obtain ⟨first, further, behind, rfl, ended, nonempty⟩ := exists_ended text
    rw [ofText, read_ended ended] at made
    rw [made]
    exact ⟨rfl, nonempty start, ended, apart⟩

theorem prefix_iff_of_whole {before front behind rest : List Char} {c : Char}
    (whole : front ++ behind = before ++ c :: rest) : before <+: front ↔ front = before ∨ before ++ [c] <+: front := by
  constructor
  · rintro ⟨more, rfl⟩
    cases more with
    | nil => exact .inl (List.append_nil before)
    | cons d more =>
      rw [List.append_assoc, List.append_cancel_left_eq] at whole
      cases whole
      exact .inr ⟨more, by simp⟩
  · rintro (rfl | further)
    · exact List.prefix_rfl
    · exact (List.prefix_append before [c]).trans further

theorem mem_allFrom_iff {chain : Chain} {before text : List Char} :
    chain ∈ allFrom before text ↔ before <+: chain.before ∧ chain.StandsIn (before ++ text) := by
  induction text generalizing before with
  | nil =>
    simp only [allFrom, List.not_mem_nil, List.append_nil, false_iff, not_and]
    rintro ⟨front, same⟩ stands
    obtain ⟨whole, nonempty, -⟩ := (standsIn_iff chain before).mp stands
    have lengths := congrArg List.length whole
    have positive := List.length_pos_iff.mpr nonempty
    rw [← same] at lengths
    simp only [List.length_append] at lengths
    omega
  | cons c rest ih =>
    have here : startsWord (c :: rest) = isWord c := rfl
    -- A chain starts at this place, or further on; here it starts only where a word does and no chain goes on.
    have place : before <+: chain.before ∧ chain.StandsIn (before ++ c :: rest) ↔
        (chain.before = before ∧ chain.StandsIn (before ++ c :: rest)) ∨ chain ∈ allFrom (before ++ [c]) rest := by
      rw [ih, List.append_assoc, List.singleton_append, ← or_and_right]
      exact and_congr_left fun stands => prefix_iff_of_whole ((List.append_assoc _ _ _).symm.trans stands.whole)
    have first : chain.before = before ∧ chain.StandsIn (before ++ c :: rest) ↔
        (isWord c && !joined before (c :: rest)) = true ∧ chain = ofText before (c :: rest) := by
      constructor
      · rintro ⟨rfl, stands⟩
        obtain ⟨word, apart, made⟩ := (standsIn_here chain (c :: rest)).mp stands
        exact ⟨by simpa [here ▸ word] using apart, made⟩
      · rintro ⟨start, rfl⟩
        rw [Bool.and_eq_true, Bool.not_eq_true'] at start
        exact ⟨rfl, (standsIn_here _ _).mpr ⟨start.1, start.2, rfl⟩⟩
    rw [place, first, allFrom]
    split
    · rename_i start
      rw [List.mem_cons, and_iff_right start]
    · rename_i none
      exact ⟨.inr, fun either => either.resolve_left fun found => none found.1⟩

theorem pairwise_allFrom (before text : List Char) :
    (allFrom before text).Pairwise fun a b => a.before.length < b.before.length := by
  induction text generalizing before with
  | nil => exact .nil
  | cons c rest ih =>
    rw [allFrom]
    split
    · refine .cons ?_ (ih _)
      intro chain member
      have further := (mem_allFrom_iff.mp member).1.length_le
      rw [List.length_append, List.length_singleton] at further
      exact further
    · exact ih _

end Chain

end PluginAudit.Script
