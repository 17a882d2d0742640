import Mathlib
import PluginAudit.Proofs.Script.TagValue

namespace PluginAudit.Script

open Text

/-- Whether the end mark of a comment is in a text. -/
def Ended (text : List Char) : Prop :=
  ['*', '/'] <:+: text

structure EndsOnce (text : List Char) : Prop where
  ended : ['*', '/'] <:+ text
  once : ∀ front back, text = front ++ '*' :: '/' :: back → back = []

namespace EndsOnce

variable {text : List Char}

theorem mark : EndsOnce ['*', '/'] where
  ended := List.suffix_rfl
  once front back same := by
    have lengths := congrArg List.length same
    simp only [List.length_append, List.length_cons, List.length_nil] at lengths
    exact List.length_eq_zero_iff.mp (by omega)

theorem cons (whole : EndsOnce text) {c : Char} (other : c = '*' → text.head? ≠ some '/') : EndsOnce (c :: text) where
  ended := whole.ended.trans (List.suffix_cons c text)
  once front back same := by
    cases front with
    | nil =>
      obtain ⟨star, rfl⟩ := List.cons.inj same
      exact absurd rfl (other star)
    | cons d front => exact whole.once front back (List.cons.inj same).2

/-- A part of the text with the mark in it goes to the end of the text, and the mark to the end of the part. -/
theorem part (whole : EndsOnce text) {part : List Char} (within : part <:+: text) (ended : Ended part) :
    part <:+ text ∧ ∀ front back, part = front ++ '*' :: '/' :: back → back = [] := by
  obtain ⟨before, behind, rfl⟩ := within
  have last : ∀ front back, part = front ++ '*' :: '/' :: back → back ++ behind = [] := by
    rintro front back rfl
    exact whole.once (before ++ front) (back ++ behind) (by simp)
  obtain ⟨front, back, rfl⟩ := ended
  have nothing := last front back (by simp)
  refine ⟨⟨before, ?_⟩, fun front back same => (List.append_eq_nil_iff.mp (last front back same)).1⟩
  rw [(List.append_eq_nil_iff.mp nothing).2, List.append_nil]

end EndsOnce

theorem endsOnce_of_blockEnd? {text : List Char} {n : Nat} (found : blockEnd? text = some n) :
    EndsOnce (text.take n) := by
  fun_induction blockEnd? text generalizing n with
  | case1 => cases found
  | case2 rest =>
    cases found
    exact EndsOnce.mark
  | case3 c rest other ih =>
    obtain ⟨m, foundRest, rfl⟩ := Option.map_eq_some_iff.mp found
    refine (ih foundRest).cons fun star slash => ?_
    obtain ⟨later, same⟩ := List.head?_eq_some_iff.mp slash
    have starts := List.take_append_drop m rest
    rw [same] at starts
    exact other _ star starts.symm

namespace Annotations

theorem endsOnce_blockOf (text : List Char) : blockOf text = [] ∨ EndsOnce (blockOf text) := by
  induction text with
  | nil => exact .inl rfl
  | cons c rest ih =>
    rw [blockOf]
    split
    · rename_i body _
      cases found : blockEnd? body with
      | none => exact .inl rfl
      | some n =>
        have colon : ':' ≠ '*' := by decide
        have slash : '/' ≠ '*' := by decide
        have body := (endsOnce_of_blockEnd? found).cons fun star => absurd star colon
        exact .inr ((body.cons fun _ => by simp).cons fun star => absurd star slash)
    · exact ih

/-- How many words at the end of a list end with a tag. -/
def trailing (tag : List Char) (words : List (List Char)) : Nat :=
  (words.reverse.takeWhile fun word => tag <:+ word).length

theorem trailing_le (tag : List Char) (words : List (List Char)) : trailing tag words ≤ words.length := by
  have shorter := (List.takeWhile_prefix (l := words.reverse) fun word => decide (tag <:+ word)).length_le
  rwa [List.length_reverse] at shorter

theorem trailing_cons (tag word : List Char) (words : List (List Char)) :
    trailing tag (word :: words) =
      if trailing tag words = words.length then words.length + (if tag <:+ word then 1 else 0)
      else trailing tag words := by
  rw [trailing, List.reverse_cons, List.takeWhile_append, List.length_reverse, ← trailing]
  split
  · by_cases ends : tag <:+ word <;> simp [ends]
  · rfl

theorem behind_concat (tag last : List Char) (words : List (List Char)) :
    behind tag (words ++ [last]) = behind tag words ++ if Odd (trailing tag words) then [last] else [] := by
  fun_induction behind tag words with
  | case1 word next rest ends ih =>
    have shorter := trailing_le tag rest
    have parity : Odd (trailing tag (word :: next :: rest)) ↔ Odd (trailing tag rest) := by
      rw [trailing_cons, trailing_cons, if_pos ends]
      by_cases all : trailing tag rest = rest.length
      · by_cases nextEnds : tag <:+ next
        · simp [all, nextEnds, Nat.odd_add_one]
        · simp [all, nextEnds]
      · have notLonger : trailing tag rest ≠ rest.length + 1 := by omega
        simp [all, notLonger]
    rw [List.cons_append, List.cons_append, behind, if_pos ends, ih, List.cons_append]
    simp only [parity]
  | case2 word next rest other ih =>
    have same : trailing tag (word :: next :: rest) = trailing tag (next :: rest) := by
      rw [trailing_cons, if_neg other]
      split
      · rename_i all
        exact all.symm
      · rfl
    rw [List.cons_append, List.cons_append, behind, if_neg other, same]
    exact ih
  | case3 words short =>
    cases words with
    | nil => simp [behind, trailing]
    | cons word rest =>
      cases rest with
      | nil => by_cases ends : tag <:+ word <;> simp [behind, trailing, ends]
      | cons next rest => exact absurd rfl (short word next rest)

theorem exists_last_word {text : List Char} (whole : EndsOnce text) :
    ∃ others last, words text = others ++ [last] ∧ Ended last ∧ ∀ word ∈ others, ¬ Ended word := by
  obtain ⟨front, rfl⟩ := whole.ended
  obtain ⟨start, rest, same, visible, stop⟩ := exists_word front.reverse
  have split : front = rest.reverse ++ start.reverse := by rw [← List.reverse_append, ← same, List.reverse_reverse]
  have visibleLast : Visible (start.reverse ++ ['*', '/']) := by
    intro c member
    rcases List.mem_append.mp member with member | member
    · exact visible c (List.mem_reverse.mp member)
    · simp only [List.mem_cons, List.not_mem_nil, or_false] at member
      rcases member with rfl | rfl <;> rfl
  have single := words_visible (by simp) visibleLast
  have ended : Ended (start.reverse ++ ['*', '/']) := (List.suffix_append _ _).isInfix
  cases rest with
  | nil =>
    refine ⟨[], _, ?_, ended, List.forall_mem_nil _⟩
    rw [split]
    exact single
  | cons c rest =>
    have parted : front ++ ['*', '/'] = rest.reverse ++ c :: (start.reverse ++ ['*', '/']) := by rw [split]; simp
    refine ⟨words rest.reverse, _, ?_, ended, fun word member endedWord => ?_⟩
    · rw [parted, words_append_blank _ (stop c rfl), single]
    · -- A mark before the last word would have something behind it.
      have within : word <:+: rest.reverse := infix_of_mem_words member
      obtain ⟨before, behind, inside⟩ := endedWord.trans within
      have nothing := whole.once before (behind ++ c :: (start.reverse ++ ['*', '/'])) (by
        rw [parted, ← inside]
        simp)
      simp at nothing

theorem ended_trim (front : List Char) : Ended (trim (front ++ ['*', '/'])) := by
  have kept : trim (front ++ ['*', '/']) = front.dropWhile isBlank ++ ['*', '/'] := by
    rw [trim, dropWhile_stop (by rfl), trimRight, List.reverse_append]
    simp only [List.reverse_cons, List.reverse_nil, List.nil_append, List.cons_append]
    rw [List.dropWhile_cons_of_neg (by decide)]
    simp
  rw [kept]
  exact (List.suffix_append _ _).isInfix

theorem Described.marked {text rest : List Char} (described : Described text rest) (whole : EndsOnce text) :
    ['*', '/'] <:+ rest := by
  rcases List.suffix_or_suffix_of_suffix whole.ended described.ends with marked | short
  · exact marked
  · obtain ⟨c, first, gap⟩ := described.gapped
    simp only [List.suffix_cons_iff, List.suffix_nil] at short
    rcases short with rfl | rfl | rfl <;> cases first <;> cases gap

theorem ended_lineBehind_iff {text rest : List Char} (whole : EndsOnce text) (described : Described text rest) :
    Ended (lineBehind rest) ↔ '\n' ∉ rest := by
  constructor
  · intro ended lineEnd
    have behindGap : '\n' ∈ rest.dropWhile isGap := by
      rw [← List.takeWhile_append_dropWhile (p := isGap) (l := rest)] at lineEnd
      rcases List.mem_append.mp lineEnd with inGap | behindGap
      · cases List.mem_takeWhile_imp inGap
      · exact behindGap
    obtain ⟨before, same⟩ := (List.dropWhile_suffix isGap).trans described.ends
    obtain ⟨front, back, inside⟩ := ended.trans (trim_within _)
    have parted := List.takeWhile_append_dropWhile (p := (· != '\n')) (l := rest.dropWhile isGap)
    rw [← inside] at parted
    have nothing := whole.once (before ++ front) (back ++ (rest.dropWhile isGap).dropWhile (· != '\n')) (by
      simpa using same.symm.trans (congrArg (before ++ ·) parted.symm))
    have all := List.dropWhile_eq_nil_iff.mp (List.append_eq_nil_iff.mp nothing).2 '\n' behindGap
    cases all
  · intro oneLine
    obtain ⟨front, rfl⟩ := described.marked whole
    have behindGap : (front ++ ['*', '/']).dropWhile isGap = front.dropWhile isGap ++ ['*', '/'] :=
      dropWhile_stop (by rfl) ..
    have oneLineBehind : '\n' ∉ front.dropWhile isGap ++ ['*', '/'] := by
      rw [← behindGap]
      exact fun member => oneLine ((List.dropWhile_sublist isGap).subset member)
    have whole : (front.dropWhile isGap ++ ['*', '/']).takeWhile (· != '\n') = front.dropWhile isGap ++ ['*', '/'] := by
      simpa using takeWhile_line oneLineBehind []
    rw [lineBehind, behindGap, whole]
    exact ended_trim _

theorem exists_ended_value_iff {text : List Char} (block : text = [] ∨ EndsOnce text) (tag : Tag) :
    (∃ v ∈ (value tag.text).all text, Ended v.toList) ↔
      Odd (trailing tag.text.toList (words text).dropLast) := by
  rcases block with rfl | whole
  · simp [Finder.all_nil, words, trailing]
  obtain ⟨others, last, same, ended, plain⟩ := exists_last_word whole
  rw [all_value, same, List.dropLast_concat, behind_concat]
  constructor
  · rintro ⟨v, member, endedValue⟩
    obtain ⟨word, inside, rfl⟩ := List.mem_map.mp member
    rw [String.toList_ofList] at endedValue
    rcases List.mem_append.mp inside with early | late
    · exact absurd endedValue (plain word (mem_of_mem_behind early))
    · split at late
      · assumption
      · cases late
  · intro odd
    refine ⟨String.ofList last, List.mem_map_of_mem ?_, ?_⟩
    · simp [odd]
    · rwa [String.toList_ofList]

theorem ended_description_iff {text : List Char} (block : text = [] ∨ EndsOnce text) :
    Ended (((line descriptionTag).first? text).getD "").toList ↔
      (∃ rest, Described text rest) ∧ ∀ rest, Described text rest → '\n' ∉ rest := by
  rcases first?_line text with ⟨nothing, nowhere⟩ | ⟨rest, found, described, first⟩
  · rw [nothing]
    simp [Ended, nowhere]
  · have nonempty : text ≠ [] := by
      rintro rfl
      have short := described.tagged.length_le
      simp [descriptionTag] at short
    rw [found, Option.getD_some, String.toList_ofList, ended_lineBehind_iff (block.resolve_left nonempty) described]
    constructor
    · intro oneLine
      exact ⟨⟨rest, described⟩, fun other isOther member => oneLine ((first other isOther).subset member)⟩
    · rintro ⟨-, all⟩
      exact all rest described

/-- The end mark comes into what annotations say just where they are read to the end of the block: into a value of a
tag if an odd number of words directly before the last one end with the tag, and into the description if the first tag
of it is on the last line. -/
theorem commentEnd_in_annotations_iff (source : String) :
    (∀ v, (∃ tag : Tag, v ∈ tag.values (ofSource source)) ∨ v = (ofSource source).description → Ended v.toList →
      v.toList <:+ blockOf source.toList ∧ ∀ front back, v.toList = front ++ '*' :: '/' :: back → back = []) ∧
    (∀ tag : Tag, (∃ v ∈ tag.values (ofSource source), Ended v.toList) ↔
      Odd (trailing tag.text.toList (words (blockOf source.toList)).dropLast)) ∧
    (Ended (ofSource source).description.toList ↔
      (∃ rest, Described (blockOf source.toList) rest) ∧
        ∀ rest, Described (blockOf source.toList) rest → '\n' ∉ rest) := by
  have block := endsOnce_blockOf source.toList
  refine ⟨fun v said ended => ?_, fun tag => ?_, ended_description_iff block⟩
  · have within : v.toList <:+: blockOf source.toList := by
      rcases said with ⟨tag, member⟩ | rfl
      · rw [values_ofSource] at member
        exact value_within member
      · exact description_within _
    rcases block with empty | whole
    · rw [empty] at within
      have nothing := List.infix_nil.mp (ended.trans within)
      cases nothing
    · exact whole.part within ended
  · rw [values_ofSource]
    exact exists_ended_value_iff block tag

theorem commentEnd_in_annotations_iff_cloud :
    "Cloud*/" ∈ Tag.base.values (ofSource "/*: @plugindesc Rain falls @base Cloud*/") ∧ Ended "Cloud*/".toList ∧
      "Cloud*/".toList <:+ blockOf "/*: @plugindesc Rain falls @base Cloud*/".toList ∧
      Odd (trailing "@base".toList (words (blockOf "/*: @plugindesc Rain falls @base Cloud*/".toList)).dropLast) := by
  have taken : "Cloud*/" ∈ Tag.base.values (ofSource "/*: @plugindesc Rain falls @base Cloud*/") := by decide +kernel
  have ended : Ended "Cloud*/".toList := ⟨"Cloud".toList, [], rfl⟩
  obtain ⟨parts, values, -⟩ := commentEnd_in_annotations_iff "/*: @plugindesc Rain falls @base Cloud*/"
  exact ⟨taken, ended, (parts _ (.inl ⟨.base, taken⟩) ended).1, (values .base).mp ⟨_, taken, ended⟩⟩

/-- A name that the end of the comment follows at once has the end mark in it. -/
theorem commentEnd_in_base :
    ¬ ∀ (source v : String), (∃ tag : Tag, v ∈ tag.values (ofSource source)) ∨ v = (ofSource source).description →
      ¬ Ended v.toList := by
  intro never
  have taken : "Rain*/" ∈ Tag.base.values (ofSource "/*: @base Rain*/") := by decide +kernel
  exact never _ _ (.inl ⟨.base, taken⟩) ⟨"Rain".toList, [], rfl⟩

end Annotations

end PluginAudit.Script
