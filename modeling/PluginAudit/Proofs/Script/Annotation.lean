import Mathlib
import PluginAudit.Proofs.Script.Immunity
import PluginAudit.Script.Annotation

namespace PluginAudit

open Text

namespace Script

def Passed (part : List Char) : Prop :=
  ∀ rest, blockEnd? (part ++ rest) = (blockEnd? rest).map (part.length + ·)

theorem Passed.append {first second : List Char} (passed : Passed first) (passedSecond : Passed second) :
    Passed (first ++ second) := by
  intro rest
  rw [List.append_assoc, passed, passedSecond, Option.map_map, List.length_append]
  congr 1
  funext n
  simp only [Function.comp_apply]
  omega

theorem blockEnd?_cons {c : Char} {rest : List Char} (other : c = '*' → rest.head? ≠ some '/') :
    blockEnd? (c :: rest) = (blockEnd? rest).map (· + 1) := by
  rw [blockEnd?]
  rintro later rfl rfl
  exact other rfl rfl

theorem passed_concat {part : List Char} {last : Char} (inside : ¬ ['*', '/'] <:+: part) (notStar : last ≠ '*')
    (notSlash : last ≠ '/') : Passed (part ++ [last]) := by
  induction part with
  | nil =>
    intro rest
    have step : blockEnd? (last :: rest) = (blockEnd? rest).map (· + 1) :=
      blockEnd?_cons fun star => absurd star notStar
    simpa [Nat.add_comm] using step
  | cons c part ih =>
    intro rest
    have tail : ¬ ['*', '/'] <:+: part := fun within => inside (within.trans (List.suffix_cons c part).isInfix)
    have other : c = '*' → (part ++ [last] ++ rest).head? ≠ some '/' := by
      rintro rfl slash
      cases part with
      | nil => exact notSlash (by simpa using slash)
      | cons d part =>
        obtain rfl : d = '/' := by simpa using slash
        exact inside ⟨[], part, rfl⟩
    rw [List.cons_append, List.cons_append, blockEnd?_cons other, ih tail, Option.map_map, List.length_cons]
    congr 1
    funext n
    simp only [Function.comp_apply]
    omega

namespace Annotations

theorem isPrefixOf?_eq_none {mark text : List Char} (other : ¬ mark <+: text) : mark.isPrefixOf? text = none := by
  rw [Option.eq_none_iff_forall_not_mem]
  intro rest found
  exact other ⟨rest, List.isPrefixOf?_eq_some_iff_append_eq.mp found⟩

theorem isPrefixOf?_opening {c : Char} {front : List Char} (inside : ¬ "/*:".toList <:+: c :: front)
    (rest : List Char) : "/*:".toList.isPrefixOf? (c :: front ++ ("/*:".toList ++ rest)) = none := by
  apply isPrefixOf?_eq_none
  rintro ⟨later, same⟩
  -- The mark would lie in the front, or its second or third character would be the slash of the next one.
  match front with
  | [] => simp at same
  | [_] => simp at same
  | d :: e :: front =>
    simp only [String.reduceToList, List.cons_append, List.cons.injEq] at same
    obtain ⟨rfl, rfl, rfl, -⟩ := same
    exact inside ⟨[], front, rfl⟩

/-- The block is the part from the first opening mark to the first end of a comment behind it. -/
theorem blockOf_append {front body : List Char} (first : ¬ "/*:".toList <:+: front) (passed : Passed body)
    (back : List Char) :
    blockOf (front ++ ("/*:".toList ++ (body ++ ("*/".toList ++ back)))) = "/*:".toList ++ (body ++ "*/".toList) := by
  induction front with
  | nil =>
    have ended : blockEnd? (body ++ ("*/".toList ++ back)) = some (body.length + 2) := passed _
    have cut : (body ++ ("*/".toList ++ back)).take (body.length + 2) = body ++ "*/".toList :=
      List.take_length_add_append 2
    change (blockEnd? (body ++ ("*/".toList ++ back))).elim [] (fun n =>
      "/*:".toList ++ (body ++ ("*/".toList ++ back)).take n) = _
    rw [ended, Option.elim_some, cut]
  | cons c front ih =>
    have tail : ¬ "/*:".toList <:+: front := fun within => first (within.trans (List.suffix_cons c front).isInfix)
    have missed := isPrefixOf?_opening first (body ++ ("*/".toList ++ back))
    rw [List.cons_append] at missed ⊢
    rw [blockOf, missed]
    exact ih tail

/-- A finder that looks for a mark and not at what stands before it. -/
structure Seeks {α : Type} (find : Finder α) (mark : List Char) : Prop where
  marked : mark.head? = some '@'
  previous : ∀ before other text, find before text = find other text
  missed : ∀ before text, ¬ mark <+: text → find before text = none

namespace Seeks

variable {α : Type} {find : Finder α} {mark : List Char}

theorem allFrom_eq (seeks : Seeks find mark) (before : Option Char) (text : List Char) :
    Finder.allFrom find before 0 text = find.all text := by
  cases text with
  | nil => rfl
  | cons c rest =>
    unfold Finder.all Finder.allFrom
    rw [seeks.previous before none]

theorem all_missed (seeks : Seeks find mark) {c : Char} {rest : List Char} (other : ¬ mark <+: c :: rest) :
    find.all (c :: rest) = find.all rest := by
  rw [Finder.all, Finder.allFrom_missed (seeks.missed none _ other), seeks.allFrom_eq]

theorem all_plain (seeks : Seeks find mark) {plain : List Char} (unmarked : '@' ∉ plain) (rest : List Char) :
    find.all (plain ++ rest) = find.all rest := by
  induction plain with
  | nil => rfl
  | cons c plain ih =>
    rw [List.mem_cons, not_or] at unmarked
    obtain ⟨later, rfl⟩ := List.head?_eq_some_iff.mp seeks.marked
    have other : ¬ '@' :: later <+: c :: (plain ++ rest) := by
      rw [List.cons_prefix_cons]
      exact fun same => unmarked.1 same.1
    rw [List.cons_append, seeks.all_missed other, ih unmarked.2]

theorem all_found (seeks : Seeks find mark) {taken rest : List Char} {found : α} (nonempty : taken ≠ [])
    (here : find none (taken ++ rest) = some (found, taken.length)) :
    find.all (taken ++ rest) = found :: find.all rest := by
  rw [Finder.all, Finder.allFrom_found nonempty here, seeks.allFrom_eq]

end Seeks

theorem seeks_value {tag : String} (marked : tag.toList.head? = some '@') : Seeks (value tag) tag.toList where
  marked := marked
  previous _ _ _ := rfl
  missed before text other := by
    rw [value, isPrefixOf?_eq_none other]
    rfl

theorem seeks_line {tag : String} (marked : tag.toList.head? = some '@') : Seeks (line tag) tag.toList where
  marked := marked
  previous _ _ _ := rfl
  missed before text other := by
    rw [line, isPrefixOf?_eq_none other]
    rfl

/-- The tags that take a word. -/
inductive Tag where
  | base
  | orderAfter
  | orderBefore
deriving Repr, DecidableEq

def Tag.text : Tag → String
  | base => "@base"
  | orderAfter => "@orderAfter"
  | orderBefore => "@orderBefore"

def descriptionTag : String :=
  "@plugindesc"

/-- A word that can stand behind a tag. -/
structure Word where
  text : String
  nonempty : text.toList ≠ []
  visible : ∀ c ∈ text.toList, isBlank c = false
  unmarked : '@' ∉ text.toList
  unended : ¬ ['*', '/'] <:+: text.toList

/-- A text that can stand behind the tag of the description. -/
structure Description where
  text : String
  oneLine : '\n' ∉ text.toList
  unmarked : '@' ∉ text.toList
  unended : ¬ ['*', '/'] <:+: text.toList

def lineText (tag text : String) : String :=
  " * " ++ tag ++ " " ++ text ++ "\n"

def taggedLines (lines : List (Tag × Word)) : String :=
  String.join (lines.map fun line => lineText line.1.text line.2.text)

def descriptionLine (description : Option Description) : String :=
  description.elim "" fun found => lineText descriptionTag found.text

/-- A block with lines for words and, somewhere among them, at most one for the description. -/
def blockText (before : List (Tag × Word)) (description : Option Description) (after : List (Tag × Word)) : String :=
  "/*:\n" ++ taggedLines before ++ descriptionLine description ++ taggedLines after ++ " */"

/-- The words that stand behind a tag, in order. -/
def wordsOf (tag : Tag) (lines : List (Tag × Word)) : List String :=
  (lines.filter (·.1 = tag)).map (·.2.text)

theorem toList_lineText (tag text : String) :
    (lineText tag text).toList = " * ".toList ++ (tag.toList ++ (' ' :: text.toList ++ ['\n'])) := by
  simp [lineText]

theorem taggedLines_cons (line : Tag × Word) (lines : List (Tag × Word)) :
    taggedLines (line :: lines) = lineText line.1.text line.2.text ++ taggedLines lines := by
  simp [taggedLines]

theorem passed_lineText {tag text : String} (passed : Passed (" * ".toList ++ tag.toList ++ [' ']))
    (unended : ¬ ['*', '/'] <:+: text.toList) : Passed (lineText tag text).toList := by
  have rest : Passed (text.toList ++ ['\n']) := passed_concat unended (by decide) (by decide)
  have whole := passed.append rest
  rw [toList_lineText]
  simpa using whole

theorem passed_tag (tag : Tag) : Passed (" * ".toList ++ tag.text.toList ++ [' ']) := by
  cases tag <;> exact passed_concat (by decide) (by decide) (by decide)

theorem passed_taggedLines (lines : List (Tag × Word)) : Passed (taggedLines lines).toList := by
  induction lines with
  | nil =>
    intro rest
    simp [taggedLines]
  | cons line lines ih =>
    rw [taggedLines_cons, String.toList_append]
    exact (passed_lineText (passed_tag line.1) line.2.unended).append ih

def Named (tag : String) : Prop :=
  ∃ name, tag.toList = '@' :: name ∧ '@' ∉ name

theorem named_tag (tag : Tag) : Named tag.text := by
  cases tag
  · exact ⟨"base".toList, rfl, by decide⟩
  · exact ⟨"orderAfter".toList, rfl, by decide⟩
  · exact ⟨"orderBefore".toList, rfl, by decide⟩

theorem named_descriptionTag : Named descriptionTag :=
  ⟨"plugindesc".toList, rfl, by decide⟩

theorem Named.head? {tag : String} (named : Named tag) : tag.toList.head? = some '@' := by
  obtain ⟨name, tagged, -⟩ := named
  rw [tagged, List.head?_cons]

theorem Tag.not_starts {tag other : Tag} (different : tag ≠ other) (rest : List Char) :
    ¬ tag.text.toList <+: other.text.toList ++ ' ' :: rest := by
  cases tag <;> cases other <;> first | contradiction | simp [Tag.text]

theorem Tag.not_starts_description (tag : Tag) (rest : List Char) :
    ¬ tag.text.toList <+: descriptionTag.toList ++ ' ' :: rest := by
  cases tag <;> simp [Tag.text, descriptionTag]

theorem description_not_starts (tag : Tag) (rest : List Char) :
    ¬ descriptionTag.toList <+: tag.text.toList ++ ' ' :: rest := by
  cases tag <;> simp [Tag.text, descriptionTag]

section Reading

variable {α : Type} {find : Finder α} {mark : List Char}

theorem Seeks.all_other (seeks : Seeks find mark) {tag text : String} (named : Named tag)
    (other : ∀ rest, ¬ mark <+: tag.toList ++ ' ' :: rest) (unmarked : '@' ∉ text.toList) (rest : List Char) :
    find.all ((lineText tag text).toList ++ rest) = find.all rest := by
  obtain ⟨name, tagged, plain⟩ := named
  have remaining : '@' ∉ name ++ (' ' :: text.toList ++ ['\n']) := by
    simp only [List.mem_append, List.mem_cons, List.not_mem_nil, or_false, not_or]
    exact ⟨plain, ⟨by decide, unmarked⟩, by decide⟩
  have here := other (text.toList ++ '\n' :: rest)
  rw [tagged, List.cons_append] at here
  calc find.all ((lineText tag text).toList ++ rest)
    _ = find.all (" * ".toList ++ ('@' :: (name ++ ' ' :: (text.toList ++ '\n' :: rest)))) := by
      rw [toList_lineText, tagged]
      simp
    _ = find.all ('@' :: (name ++ ' ' :: (text.toList ++ '\n' :: rest))) := seeks.all_plain (by decide) _
    _ = find.all (name ++ ' ' :: (text.toList ++ '\n' :: rest)) := seeks.all_missed here
    _ = find.all (name ++ (' ' :: text.toList ++ ['\n']) ++ rest) := by simp
    _ = find.all rest := seeks.all_plain remaining rest

theorem Seeks.all_same {tag : String} (seeks : Seeks find tag.toList) {text : String} {found : α}
    (here : ∀ rest, find none (tag.toList ++ ' ' :: text.toList ++ '\n' :: rest) =
      some (found, (tag.toList ++ ' ' :: text.toList).length)) (rest : List Char) :
    find.all ((lineText tag text).toList ++ rest) = found :: find.all rest := by
  have skipped : find.all (['\n'] ++ rest) = find.all rest := seeks.all_plain (by decide) rest
  calc find.all ((lineText tag text).toList ++ rest)
    _ = find.all (" * ".toList ++ (tag.toList ++ ' ' :: text.toList ++ '\n' :: rest)) := by
      rw [toList_lineText]
      simp
    _ = find.all (tag.toList ++ ' ' :: text.toList ++ '\n' :: rest) := seeks.all_plain (by decide) _
    _ = found :: find.all ('\n' :: rest) := seeks.all_found (by simp) (here rest)
    _ = found :: find.all rest := congrArg (found :: ·) skipped

end Reading

theorem value_here (tag : String) (word : Word) (rest : List Char) :
    value tag none (tag.toList ++ ' ' :: word.text.toList ++ '\n' :: rest) =
      some (word.text, (tag.toList ++ ' ' :: word.text.toList).length) := by
  obtain ⟨c, more, split⟩ := List.exists_cons_of_ne_nil word.nonempty
  have visible := word.visible
  rw [split] at visible
  have start : isBlank c = false := visible c List.mem_cons_self
  have space : isBlank ' ' = true := by decide
  have lineEnd : isBlank '\n' = true := by decide
  have tagged : tag.toList.isPrefixOf? (tag.toList ++ ' ' :: word.text.toList ++ '\n' :: rest) =
      some (' ' :: word.text.toList ++ '\n' :: rest) :=
    List.isPrefixOf?_eq_some_iff_append_eq.mpr (List.append_assoc _ _ _).symm
  have gap : (' ' :: word.text.toList ++ '\n' :: rest).takeWhile isBlank = [' '] := by
    simp [split, space, start]
  have behind : (' ' :: word.text.toList ++ '\n' :: rest).dropWhile isBlank = word.text.toList ++ '\n' :: rest := by
    simp [split, space, start]
  have whole : (word.text.toList ++ '\n' :: rest).takeWhile (!isBlank ·) = word.text.toList := by
    rw [List.takeWhile_append_of_pos (by simpa using word.visible), List.takeWhile_cons_of_neg (by simp [lineEnd]),
      List.append_nil]
  have nonempty : word.text.toList.isEmpty = false := by simpa using word.nonempty
  simp only [value, tagged, Option.bind_eq_bind, Option.bind_some, gap, behind, whole, nonempty]
  simp only [String.ofList_toList, List.length_append, List.length_cons, List.length_nil, String.length_toList]
  simp
  omega

theorem dropWhile_dropWhile_of_imp {first second : Char → Bool} (imp : ∀ c, first c = true → second c = true)
    (text : List Char) : (text.dropWhile first).dropWhile second = text.dropWhile second := by
  induction text with
  | nil => rfl
  | cons c rest ih =>
    by_cases hit : first c = true
    · rw [List.dropWhile_cons_of_pos hit, List.dropWhile_cons_of_pos (imp c hit), ih]
    · rw [List.dropWhile_cons_of_neg hit]

theorem takeWhile_stop {kind : Char → Bool} {stop : Char} (stops : kind stop = false) (text rest : List Char) :
    (text ++ stop :: rest).takeWhile kind = text.takeWhile kind := by
  induction text with
  | nil => simp [stops]
  | cons c text ih => cases hit : kind c <;> simp [hit, ih]

theorem dropWhile_stop {kind : Char → Bool} {stop : Char} (stops : kind stop = false) (text rest : List Char) :
    (text ++ stop :: rest).dropWhile kind = text.dropWhile kind ++ stop :: rest := by
  induction text with
  | nil => simp [stops]
  | cons c text ih => cases hit : kind c <;> simp [hit, ih]

theorem line_here (tag : String) (description : Description) (rest : List Char) :
    line tag none (tag.toList ++ ' ' :: description.text.toList ++ '\n' :: rest) =
      some (String.ofList (trim description.text.toList), (tag.toList ++ ' ' :: description.text.toList).length) := by
  set isGap : Char → Bool := fun c => c == ' ' || c == '\t'
  have blank : ∀ c, isGap c = true → isBlank c = true := by
    intro c gap
    rcases (Bool.or_eq_true _ _).mp gap with same | same <;> rw [eq_of_beq same] <;> decide
  have tagged : tag.toList.isPrefixOf? (tag.toList ++ ' ' :: description.text.toList ++ '\n' :: rest) =
      some (' ' :: description.text.toList ++ '\n' :: rest) :=
    List.isPrefixOf?_eq_some_iff_append_eq.mpr (List.append_assoc _ _ _).symm
  -- The gap may take more of the text than the one blank; what is behind it ends with the line.
  have behind : (' ' :: description.text.toList ++ '\n' :: rest).drop
      ((' ' :: description.text.toList ++ '\n' :: rest).takeWhile isGap).length =
        description.text.toList.dropWhile isGap ++ '\n' :: rest := by
    rw [drop_length_takeWhile, dropWhile_stop rfl, List.dropWhile_cons_of_pos rfl]
  have words : (description.text.toList.dropWhile isGap ++ '\n' :: rest).takeWhile (· != '\n') =
      description.text.toList.dropWhile isGap := by
    have inside : '\n' ∉ description.text.toList.dropWhile isGap :=
      fun member => description.oneLine ((List.dropWhile_sublist _).subset member)
    rw [takeWhile_line inside, List.takeWhile_cons_of_neg (by simp), List.append_nil]
  have trimmed : trim (description.text.toList.dropWhile isGap) = trim description.text.toList := by
    rw [trim, trim, dropWhile_dropWhile_of_imp blank]
  have gap : (' ' :: description.text.toList ++ '\n' :: rest).takeWhile isGap =
      ' ' :: description.text.toList.takeWhile isGap := by
    rw [takeWhile_stop rfl, List.takeWhile_cons_of_pos rfl]
  have lengths := congrArg List.length (List.takeWhile_append_dropWhile (p := isGap) (l := description.text.toList))
  rw [List.length_append] at lengths
  simp only [line, tagged, Option.bind_eq_bind, Option.bind_some]
  rw [behind, words, trimmed, gap]
  simp only [List.isEmpty_cons, Bool.false_eq_true, if_false, List.length_append, List.length_cons, String.length_toList]
    at lengths ⊢
  rw [← lengths]
  congr 2
  omega

theorem value_taggedLines (tag : Tag) (lines : List (Tag × Word)) (rest : List Char) :
    (value tag.text).all ((taggedLines lines).toList ++ rest) = wordsOf tag lines ++ (value tag.text).all rest := by
  have seeks := seeks_value (named_tag tag).head?
  induction lines with
  | nil => simp [taggedLines, wordsOf]
  | cons line lines ih =>
    obtain ⟨other, word⟩ := line
    rw [taggedLines_cons, String.toList_append, List.append_assoc]
    by_cases same : other = tag
    · subst same
      rw [seeks.all_same (value_here other.text word), ih]
      simp [wordsOf]
    · rw [seeks.all_other (named_tag other) (Tag.not_starts (Ne.symm same)) word.unmarked, ih]
      simp [wordsOf, same]

theorem line_taggedLines (lines : List (Tag × Word)) (rest : List Char) :
    (line descriptionTag).all ((taggedLines lines).toList ++ rest) = (line descriptionTag).all rest := by
  have seeks := seeks_line named_descriptionTag.head?
  induction lines with
  | nil => simp [taggedLines]
  | cons line lines ih =>
    rw [taggedLines_cons, String.toList_append, List.append_assoc,
      seeks.all_other (named_tag line.1) (description_not_starts line.1) line.2.unmarked, ih]

theorem passed_descriptionLine (description : Option Description) : Passed (descriptionLine description).toList := by
  cases description with
  | none =>
    intro rest
    simp [descriptionLine]
  | some found =>
    refine passed_lineText ?_ found.unended
    exact passed_concat (by decide) (by decide) (by decide)

theorem value_descriptionLine (tag : Tag) (description : Option Description) (rest : List Char) :
    (value tag.text).all ((descriptionLine description).toList ++ rest) = (value tag.text).all rest := by
  cases description with
  | none => rfl
  | some found =>
    exact (seeks_value (named_tag tag).head?).all_other named_descriptionTag tag.not_starts_description found.unmarked rest

theorem line_descriptionLine (description : Option Description) (rest : List Char) :
    (line descriptionTag).all ((descriptionLine description).toList ++ rest) =
      (description.map fun found => String.ofList (trim found.text.toList)).toList ++ (line descriptionTag).all rest := by
  cases description with
  | none => rfl
  | some found => exact (seeks_line named_descriptionTag.head?).all_same (line_here descriptionTag found) rest

section Block

variable (before after : List (Tag × Word)) (description : Option Description)

def inner : List Char :=
  '\n' :: ((taggedLines before).toList ++ ((descriptionLine description).toList ++ ((taggedLines after).toList ++ [' '])))

theorem toList_blockText :
    (blockText before description after).toList = "/*:".toList ++ (inner before after description ++ "*/".toList) := by
  simp [blockText, inner]

theorem passed_inner : Passed (inner before after description) := by
  have lineEnd : Passed ([] ++ ['\n']) := passed_concat (by decide) (by decide) (by decide)
  have last : Passed ([] ++ [' ']) := passed_concat (by decide) (by decide) (by decide)
  exact lineEnd.append ((passed_taggedLines before).append
    ((passed_descriptionLine description).append ((passed_taggedLines after).append last)))

theorem value_block (tag : Tag) :
    (value tag.text).all ("/*:".toList ++ (inner before after description ++ "*/".toList)) =
      wordsOf tag (before ++ after) := by
  have seeks := seeks_value (named_tag tag).head?
  have start : '@' ∉ "/*:\n".toList := by decide
  have last : '@' ∉ " */".toList := by decide
  calc (value tag.text).all ("/*:".toList ++ (inner before after description ++ "*/".toList))
    _ = (value tag.text).all ("/*:\n".toList ++ ((taggedLines before).toList ++
          ((descriptionLine description).toList ++ ((taggedLines after).toList ++ " */".toList)))) := by simp [inner]
    _ = wordsOf tag before ++ (wordsOf tag after ++ (value tag.text).all (" */".toList ++ [])) := by
      rw [seeks.all_plain start, value_taggedLines, value_descriptionLine, value_taggedLines, List.append_nil]
    _ = wordsOf tag (before ++ after) := by
      rw [seeks.all_plain last, Finder.all_nil]
      simp [wordsOf]

theorem line_block :
    (line descriptionTag).all ("/*:".toList ++ (inner before after description ++ "*/".toList)) =
      (description.map fun found => String.ofList (trim found.text.toList)).toList := by
  have seeks := seeks_line named_descriptionTag.head?
  have start : '@' ∉ "/*:\n".toList := by decide
  have last : '@' ∉ " */".toList := by decide
  calc (line descriptionTag).all ("/*:".toList ++ (inner before after description ++ "*/".toList))
    _ = (line descriptionTag).all ("/*:\n".toList ++ ((taggedLines before).toList ++
          ((descriptionLine description).toList ++ ((taggedLines after).toList ++ (" */".toList ++ []))))) := by
      simp [inner]
    _ = (description.map fun found => String.ofList (trim found.text.toList)).toList := by
      rw [seeks.all_plain start, line_taggedLines, line_descriptionLine, line_taggedLines, seeks.all_plain last,
        Finder.all_nil, List.append_nil]

end Block

/-- A block is read as it was written, whatever stands behind it, if it is the first one: each tag has its words in the
order of their lines, and the description is the text of its line without the blanks around it. -/
theorem ofSource_blockText {front : String} (first : ¬ "/*:".toList <:+: front.toList)
    (before after : List (Tag × Word)) (description : Option Description) (back : String) :
    ofSource (front ++ blockText before description after ++ back) =
      { base := wordsOf .base (before ++ after)
        orderAfter := wordsOf .orderAfter (before ++ after)
        orderBefore := wordsOf .orderBefore (before ++ after)
        description := description.elim "" fun found => String.ofList (trim found.text.toList) } := by
  have block : blockOf (front ++ blockText before description after ++ back).toList =
      "/*:".toList ++ (inner before after description ++ "*/".toList) := by
    rw [String.toList_append, String.toList_append, toList_blockText]
    simpa using blockOf_append first (passed_inner before after description) back.toList
  have described : ((line descriptionTag).first?
      ("/*:".toList ++ (inner before after description ++ "*/".toList))).getD "" =
        description.elim "" fun found => String.ofList (trim found.text.toList) := by
    rw [Finder.first?, line_block]
    cases description <;> rfl
  have base := value_block before after description .base
  have orderAfter := value_block before after description .orderAfter
  have orderBefore := value_block before after description .orderBefore
  simp only [Tag.text, descriptionTag] at base orderAfter orderBefore described
  simp only [ofSource, block, base, orderAfter, orderBefore, described]

def rain : Word where
  text := "Rain/*:*"
  nonempty := by decide
  visible := by simp [isBlank]
  unmarked := by decide
  unended := by decide

def wind : Word where
  text := "base"
  nonempty := by decide
  visible := by simp [isBlank]
  unmarked := by decide
  unended := by decide

def weatherText : Description where
  text := "\t Rain,\u3000wind * "
  oneLine := by decide
  unmarked := by decide
  unended := by decide

/-- A script starts with a comment that holds a tag, and has a second block. -/
theorem ofSource_blockText_weather :
    let front := "/* @base Snow */ '/*' /"
    let back := "*/\n/*:ja\n * @base Snow\n */"
    ¬ "/*:".toList <:+: front.toList ∧
      ofSource (front ++ blockText [(.orderAfter, wind), (.base, rain)] (some weatherText) [(.orderAfter, rain)] ++ back) =
        ⟨["Rain/*:*"], ["base", "Rain/*:*"], [], "Rain,\u3000wind *"⟩ := by
  intro front back
  have first : ¬ "/*:".toList <:+: front.toList := by decide
  refine ⟨first, (ofSource_blockText first _ _ _ back).trans ?_⟩
  decide +kernel

end Annotations

end Script

end PluginAudit
