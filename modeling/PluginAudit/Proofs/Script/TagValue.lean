import Mathlib
import PluginAudit.Proofs.Script.Annotation

namespace PluginAudit.Script.Annotations

open Text

def Blank (text : List Char) : Prop :=
  ∀ c ∈ text, isBlank c = true

def Visible (text : List Char) : Prop :=
  ∀ c ∈ text, isBlank c = false

def Stops (text : List Char) : Prop :=
  ∀ c ∈ text.head?, isBlank c = true

/-- The words of a text, with blanks between them. -/
def words (text : List Char) : List (List Char) :=
  (text.splitOnP isBlank).filter (!·.isEmpty)

theorem words_append_blank (front : List Char) {c : Char} (blank : isBlank c = true) (back : List Char) :
    words (front ++ c :: back) = words front ++ words back := by
  rw [words, List.splitOnP_append_cons front back blank, List.filter_append]
  rfl

theorem words_blank {gap : List Char} (blank : Blank gap) (rest : List Char) :
    words (gap ++ rest) = words rest := by
  induction gap with
  | nil => rfl
  | cons c gap ih =>
    obtain ⟨head, tail⟩ := List.forall_mem_cons.mp blank
    exact (words_append_blank [] head (gap ++ rest)).trans (ih tail)

theorem words_visible {word : List Char} (nonempty : word ≠ []) (visible : Visible word) : words word = [word] := by
  rw [words, List.splitOnP_eq_singleton visible]
  simp [nonempty]

theorem words_word {word rest : List Char} (nonempty : word ≠ []) (visible : Visible word) (stop : Stops rest) :
    words (word ++ rest) = word :: words rest := by
  have single := words_visible nonempty visible
  cases rest with
  | nil =>
    rw [List.append_nil, single]
    rfl
  | cons c rest =>
    have blank := stop c rfl
    have skipped : words (c :: rest) = words rest := words_append_blank [] blank rest
    rw [words_append_blank word blank rest, single, skipped, List.singleton_append]

theorem exists_parts (text : List Char) :
    ∃ first others, text.splitOnP isBlank = first :: others ∧ first <+: text ∧ ∀ part ∈ others, part <:+: text := by
  induction text with
  | nil => exact ⟨[], [], rfl, List.nil_prefix, List.forall_mem_nil _⟩
  | cons c rest ih =>
    obtain ⟨first, others, parts, starts, within⟩ := ih
    have longer : rest <:+: c :: rest := (List.suffix_cons c rest).isInfix
    have later : ∀ part ∈ others, part <:+: c :: rest := fun part member => (within part member).trans longer
    rw [List.splitOnP_cons_eq_if_modifyHead, parts]
    split
    · exact ⟨[], _, rfl, List.nil_prefix, List.forall_mem_cons.mpr ⟨starts.isInfix.trans longer, later⟩⟩
    · exact ⟨c :: first, others, rfl, (List.prefix_cons_inj c).mpr starts, later⟩

theorem infix_of_mem_words {word text : List Char} (member : word ∈ words text) : word <:+: text := by
  obtain ⟨first, others, parts, starts, within⟩ := exists_parts text
  have isPart := (List.mem_filter.mp member).1
  rw [parts] at isPart
  rcases List.mem_cons.mp isPart with rfl | later
  · exact starts.isInfix
  · exact within word later

/-- The words behind a tag. A word that ends with the tag takes the next word, which then takes none. -/
def behind (tag : List Char) : List (List Char) → List (List Char)
  | word :: next :: rest => if tag <:+ word then next :: behind tag rest else behind tag (next :: rest)
  | _ => []

theorem behind_cons_other {tag word : List Char} (other : ¬ tag <:+ word) (rest : List (List Char)) :
    behind tag (word :: rest) = behind tag rest := by
  cases rest with
  | nil => rfl
  | cons next rest => rw [behind, if_neg other]

theorem mem_of_mem_behind {tag word : List Char} {words : List (List Char)} (member : word ∈ behind tag words) :
    word ∈ words := by
  fun_induction behind tag words with
  | case1 first next rest ends ih =>
    rcases List.mem_cons.mp member with rfl | later
    · simp
    · exact List.mem_cons_of_mem _ (List.mem_cons_of_mem _ (ih later))
  | case2 first next rest other ih => exact List.mem_cons_of_mem _ (ih member)
  | case3 => cases member

/-- Every text starts with a run of characters of a kind, up to one of another kind. -/
theorem exists_run (kind : Char → Bool) (text : List Char) :
    ∃ run rest, text = run ++ rest ∧ (∀ c ∈ run, kind c = true) ∧ ∀ c ∈ rest.head?, kind c = false := by
  refine ⟨text.takeWhile kind, text.dropWhile kind, List.takeWhile_append_dropWhile.symm,
    fun c member => List.mem_takeWhile_imp member, fun c first => ?_⟩
  have stops := List.head?_dropWhile_not kind text
  rw [Option.mem_def.mp first] at stops
  exact stops

theorem exists_word (text : List Char) : ∃ word rest, text = word ++ rest ∧ Visible word ∧ Stops rest := by
  simpa [Visible, Stops] using exists_run (!isBlank ·) text

theorem Seeks.all_skip {α : Type} {find : Finder α} {mark front rest : List Char} (seeks : Seeks find mark)
    (missed : ∀ part, part ≠ [] → part <:+ front → find none (part ++ rest) = none) :
    find.all (front ++ rest) = find.all rest := by
  induction front with
  | nil => rfl
  | cons c front ih =>
    have here := missed (c :: front) (List.cons_ne_nil c front) List.suffix_rfl
    have later := ih fun part nonempty ends => missed part nonempty (ends.trans (List.suffix_cons c front))
    rw [List.cons_append] at here ⊢
    rw [Finder.all, Finder.allFrom_missed here, seeks.allFrom_eq, later]

theorem visible_tag (tag : Tag) : Visible tag.text.toList := by
  have all : tag.text.toList.all (!isBlank ·) = true := by cases tag <;> decide
  simpa [Visible] using all

theorem unmarked_blank {gap : List Char} (blank : Blank gap) : '@' ∉ gap := by
  intro member
  have marked := blank '@' member
  cases marked

theorem value_tag (tag : String) (before : Option Char) (rest : List Char) :
    value tag before (tag.toList ++ rest) =
      if (rest.takeWhile isBlank).isEmpty || ((rest.dropWhile isBlank).takeWhile (!isBlank ·)).isEmpty then none
      else some (String.ofList ((rest.dropWhile isBlank).takeWhile (!isBlank ·)),
        tag.length + (rest.takeWhile isBlank).length + ((rest.dropWhile isBlank).takeWhile (!isBlank ·)).length) := by
  have tagged : tag.toList.isPrefixOf? (tag.toList ++ rest) = some rest :=
    List.isPrefixOf?_eq_some_iff_append_eq.mpr rfl
  simp only [value, tagged]
  rfl

/-- A tag takes nothing but the word behind it, so it has to be the end of its own word. -/
theorem value_missed {tag : Tag} {word rest : List Char} (visible : Visible word) (stop : Stops rest)
    (other : word ≠ tag.text.toList) : value tag.text none (word ++ rest) = none := by
  by_cases starts : tag.text.toList <+: word ++ rest
  · obtain ⟨later, same⟩ := starts
    rcases List.append_eq_append_iff.mp same with ⟨more, rfl, rfl⟩ | ⟨more, tagged, rfl⟩
    · cases more with
      | nil => exact absurd (List.append_nil _) other
      | cons c more =>
        have shown : isBlank c = false := visible c (by simp)
        rw [List.append_assoc, value_tag]
        simp [shown]
    · cases more with
      | nil => exact absurd (tagged.trans (List.append_nil word)).symm other
      | cons c more =>
        have blank : isBlank c = true := stop c rfl
        have shown : isBlank c = false := visible_tag tag c (by simp [tagged])
        exact absurd blank (by simp [shown])
  · exact (seeks_value (named_tag tag).head?).missed none _ starts

theorem value_found (tag : Tag) {gap word rest : List Char} (gapped : gap ≠ []) (blank : Blank gap)
    (nonempty : word ≠ []) (visible : Visible word) (stop : Stops rest) :
    value tag.text none (tag.text.toList ++ gap ++ word ++ rest) =
      some (String.ofList word, (tag.text.toList ++ gap ++ word).length) := by
  obtain ⟨c, more, rfl⟩ := List.exists_cons_of_ne_nil nonempty
  have shown : isBlank c = false := visible c List.mem_cons_self
  have before : (gap ++ (c :: more ++ rest)).takeWhile isBlank = gap := by
    rw [List.takeWhile_append_of_pos blank, List.cons_append, List.takeWhile_cons_of_neg (by simp [shown]),
      List.append_nil]
  have after : (gap ++ (c :: more ++ rest)).dropWhile isBlank = c :: more ++ rest := by
    rw [List.dropWhile_append_of_pos blank, List.cons_append, List.dropWhile_cons_of_neg (by simp [shown])]
  have taken : (c :: more ++ rest).takeWhile (!isBlank ·) = c :: more := by
    rw [List.takeWhile_append_of_pos (by simpa [Visible] using visible)]
    cases rest with
    | nil => simp
    | cons d rest => simp [stop d rfl]
  rw [List.append_assoc, List.append_assoc, value_tag, before, after, taken]
  simp [gapped, String.length_toList]
  omega

theorem value_unfollowed {tag : Tag} {gap : List Char} (blank : Blank gap) :
    value tag.text none (tag.text.toList ++ gap) = none := by
  have nothing : gap.dropWhile isBlank = [] := List.dropWhile_eq_nil_iff.mpr blank
  rw [value_tag, nothing]
  simp

theorem all_unfollowed {tag : Tag} {word gap : List Char} (visible : Visible word) (blank : Blank gap) :
    (value tag.text).all (word ++ gap) = [] := by
  have seeks := seeks_value (named_tag tag).head?
  have stop : Stops gap := fun c first => blank c (List.mem_of_mem_head? first)
  have nothing : (value tag.text).all gap = [] := by
    simpa [Finder.all_nil] using seeks.all_plain (unmarked_blank blank) []
  rw [seeks.all_skip, nothing]
  intro part _ ends
  by_cases whole : part = tag.text.toList
  · rw [whole, value_unfollowed blank]
  · exact value_missed (fun c member => visible c (ends.subset member)) stop whole

theorem all_other {tag : Tag} {word rest : List Char} (visible : Visible word) (stop : Stops rest)
    (other : ¬ tag.text.toList <:+ word) : (value tag.text).all (word ++ rest) = (value tag.text).all rest := by
  refine (seeks_value (named_tag tag).head?).all_skip fun part _ ends => ?_
  refine value_missed (fun c member => visible c (ends.subset member)) stop ?_
  rintro rfl
  exact other ends

theorem all_followed (tag : Tag) {front gap word rest : List Char} (visibleFront : Visible front) (gapped : gap ≠ [])
    (blank : Blank gap) (nonempty : word ≠ []) (visible : Visible word) (stop : Stops rest) :
    (value tag.text).all (front ++ tag.text.toList ++ gap ++ word ++ rest) =
      String.ofList word :: (value tag.text).all rest := by
  have seeks := seeks_value (named_tag tag).head?
  have found := value_found tag gapped blank nonempty visible stop
  have here := seeks.all_found (by simp [gapped]) found
  have skipped : (value tag.text).all (front ++ (tag.text.toList ++ gap ++ word ++ rest)) =
      (value tag.text).all (tag.text.toList ++ gap ++ word ++ rest) := by
    refine seeks.all_skip fun part nonemptyPart ends => ?_
    have longer : part ++ tag.text.toList ≠ tag.text.toList := by simpa using nonemptyPart
    have shown : Visible (part ++ tag.text.toList) := by
      intro c member
      rcases List.mem_append.mp member with member | member
      · exact visibleFront c (ends.subset member)
      · exact visible_tag tag c member
    have stopGap : Stops (gap ++ (word ++ rest)) := by
      obtain ⟨d, more, rfl⟩ := List.exists_cons_of_ne_nil gapped
      intro c first
      obtain rfl : d = c := Option.some.inj first
      exact blank d List.mem_cons_self
    have missed := value_missed shown stopGap longer
    simpa using missed
  rw [← here, ← skipped]
  simp

theorem behind_words_other {tag : Tag} {word rest : List Char} (visible : Visible word) (stop : Stops rest)
    (other : ¬ tag.text.toList <:+ word) :
    behind tag.text.toList (words (word ++ rest)) = behind tag.text.toList (words rest) := by
  by_cases nonempty : word = []
  · rw [nonempty, List.nil_append]
  · rw [words_word nonempty visible stop, behind_cons_other other]

/-- A word that ends with the tag takes the next word, if there is one, and the search goes on behind that. -/
theorem tagged_step {tag : Tag} {word rest : List Char} (visible : Visible word) (stop : Stops rest)
    (ends : tag.text.toList <:+ word) :
    (value tag.text).all (word ++ rest) = [] ∧ behind tag.text.toList (words (word ++ rest)) = [] ∨
      ∃ next later, later.length < rest.length ∧
        (value tag.text).all (word ++ rest) = String.ofList next :: (value tag.text).all later ∧
        behind tag.text.toList (words (word ++ rest)) = next :: behind tag.text.toList (words later) := by
  have nonempty : word ≠ [] := by
    rintro rfl
    have marked := (named_tag tag).head?
    rw [List.suffix_nil.mp ends] at marked
    cases marked
  obtain ⟨gap, more, rfl, blank, shown⟩ := exists_run isBlank rest
  obtain ⟨next, later, rfl, visibleNext, stopNext⟩ := exists_word more
  rw [words_word nonempty visible stop, words_blank blank]
  by_cases followed : next = []
  · -- What is not blank would be a word, so the text is at its end.
    have atEnd : later = [] := by
      subst followed
      cases later with
      | nil => rfl
      | cons c later => exact absurd (stopNext c rfl) (by simp [shown c rfl])
    subst followed atEnd
    rw [List.append_nil, List.append_nil]
    exact .inl ⟨all_unfollowed visible blank, rfl⟩
  · have gapped : gap ≠ [] := by
      rintro rfl
      obtain ⟨c, more, rfl⟩ := List.exists_cons_of_ne_nil followed
      exact absurd (stop c rfl) (by simp [shown c rfl])
    have shorter : later.length < (gap ++ (next ++ later)).length := by
      have positive := List.length_pos_iff.mpr followed
      simp only [List.length_append]
      omega
    obtain ⟨front, rfl⟩ := ends
    have visibleFront : Visible front := fun c member => visible c (List.mem_append_left _ member)
    have found := all_followed tag visibleFront gapped blank followed visibleNext stopNext
    refine .inr ⟨next, later, shorter, ?_, ?_⟩
    · rw [← found]
      simp
    · rw [words_word followed visibleNext stopNext, behind, if_pos (List.suffix_append _ _)]

theorem all_value (tag : Tag) (text : List Char) :
    (value tag.text).all text = (behind tag.text.toList (words text)).map String.ofList := by
  induction size : text.length using Nat.strong_induction_on generalizing text with
  | _ n ih =>
    obtain ⟨word, rest, rfl, visible, stop⟩ := exists_word text
    rw [List.length_append] at size
    by_cases ends : tag.text.toList <:+ word
    · rcases tagged_step visible stop ends with ⟨nothing, noWord⟩ | ⟨next, later, shorter, found, taken⟩
      · rw [nothing, noWord]
        rfl
      · rw [found, taken, List.map_cons, ih later.length (by omega) later rfl]
    · rw [all_other visible stop ends, behind_words_other visible stop ends]
      cases rest with
      | nil => rfl
      | cons c rest =>
        have blank : Blank [c] := List.forall_mem_singleton.mpr (stop c rfl)
        have skipped := (seeks_value (named_tag tag).head?).all_plain (unmarked_blank blank) rest
        have sameWords : words (c :: rest) = words rest := words_blank blank rest
        rw [List.length_cons] at size
        rw [sameWords, ← ih rest.length (by omega) rest rfl]
        exact skipped

theorem value_within {tag : Tag} {text : List Char} {v : String} (member : v ∈ (value tag.text).all text) :
    v.toList <:+: text := by
  rw [all_value] at member
  obtain ⟨word, inside, rfl⟩ := List.mem_map.mp member
  rw [String.toList_ofList]
  exact infix_of_mem_words (mem_of_mem_behind inside)

/-- What a plugin says under a tag that takes a word. -/
def Tag.values (tag : Tag) (annotations : Annotations) : List String :=
  match tag with
  | base => annotations.base
  | orderAfter => annotations.orderAfter
  | orderBefore => annotations.orderBefore

theorem values_ofSource (tag : Tag) (source : String) :
    tag.values (ofSource source) = (value tag.text).all (blockOf source.toList) := by
  cases tag <;> rfl

def isGap (c : Char) : Bool :=
  c == ' ' || c == '\t'

/-- What stands behind a place where the tag of the description has a space or a tab behind it. -/
structure Described (text rest : List Char) : Prop where
  tagged : descriptionTag.toList ++ rest <:+ text
  gapped : ∃ c ∈ rest.head?, isGap c = true

theorem Described.ends {text rest : List Char} (described : Described text rest) : rest <:+ text :=
  (List.suffix_append _ _).trans described.tagged

def lineBehind (rest : List Char) : List Char :=
  trim ((rest.dropWhile isGap).takeWhile (· != '\n'))

theorem line_tag (before : Option Char) (rest : List Char) :
    line descriptionTag before (descriptionTag.toList ++ rest) =
      if (rest.takeWhile isGap).isEmpty then none
      else some (String.ofList (lineBehind rest), descriptionTag.length + (rest.takeWhile isGap).length +
        ((rest.dropWhile isGap).takeWhile (· != '\n')).length) := by
  have tagged : descriptionTag.toList.isPrefixOf? (descriptionTag.toList ++ rest) = some rest :=
    List.isPrefixOf?_eq_some_iff_append_eq.mpr rfl
  rw [lineBehind, ← drop_length_takeWhile]
  simp only [line, tagged]
  rfl

theorem takeWhile_isGap_eq_nil_iff (rest : List Char) :
    rest.takeWhile isGap = [] ↔ ¬ ∃ c ∈ rest.head?, isGap c = true := by
  cases rest with
  | nil => simp
  | cons c rest => by_cases gap : isGap c = true <;> simp [gap]

theorem first?_line_found {rest : List Char} (gapped : ∃ c ∈ rest.head?, isGap c = true) :
    (line descriptionTag).first? (descriptionTag.toList ++ rest) = some (String.ofList (lineBehind rest)) := by
  have nonempty : rest.takeWhile isGap ≠ [] := fun nothing => (takeWhile_isGap_eq_nil_iff rest).mp nothing gapped
  have found := line_tag none rest
  rw [if_neg (by simpa using nonempty)] at found
  obtain ⟨name, named, -⟩ := named_descriptionTag
  rw [named, List.cons_append] at found ⊢
  rw [Finder.first?, Finder.all, Finder.allFrom, found]
  rfl

theorem first?_line_missed {c : Char} {text : List Char}
    (missed : ∀ rest, Described (c :: text) rest → Described text rest) :
    (line descriptionTag).first? (c :: text) = (line descriptionTag).first? text := by
  have seeks := seeks_line named_descriptionTag.head?
  have here : line descriptionTag none (c :: text) = none := by
    by_cases starts : descriptionTag.toList <+: c :: text
    · obtain ⟨rest, same⟩ := starts
      rw [← same, line_tag, if_pos]
      rw [List.isEmpty_iff, takeWhile_isGap_eq_nil_iff]
      intro gapped
      have shorter := (missed rest ⟨same ▸ List.suffix_rfl, gapped⟩).tagged.length_le
      rw [same, List.length_cons] at shorter
      omega
    · exact seeks.missed none _ starts
  rw [Finder.first?, Finder.first?, Finder.all, Finder.allFrom_missed here, seeks.allFrom_eq]

theorem first?_line (text : List Char) :
    (line descriptionTag).first? text = none ∧ (∀ rest, ¬ Described text rest) ∨
      ∃ rest, (line descriptionTag).first? text = some (String.ofList (lineBehind rest)) ∧ Described text rest ∧
        ∀ other, Described text other → other <:+ rest := by
  induction text with
  | nil =>
    refine .inl ⟨rfl, fun rest described => ?_⟩
    have nothing := List.suffix_nil.mp described.tagged
    simp [descriptionTag] at nothing
  | cons c text ih =>
    by_cases here : ∃ rest, c :: text = descriptionTag.toList ++ rest ∧ ∃ c ∈ rest.head?, isGap c = true
    · obtain ⟨rest, same, gapped⟩ := here
      rw [same]
      refine .inr ⟨rest, first?_line_found gapped, ⟨List.suffix_rfl, gapped⟩, fun other described => ?_⟩
      have shorter := described.tagged.length_le
      simp only [List.length_append] at shorter
      exact List.suffix_of_suffix_length_le described.ends (List.suffix_append _ _) (by omega)
    · have later : ∀ rest, Described (c :: text) rest → Described text rest := by
        rintro rest ⟨tagged, gapped⟩
        rcases List.suffix_cons_iff.mp tagged with same | tagged
        · exact absurd ⟨rest, same.symm, gapped⟩ here
        · exact ⟨tagged, gapped⟩
      have longer : ∀ rest, Described text rest → Described (c :: text) rest :=
        fun rest described => ⟨described.tagged.trans (List.suffix_cons c text), described.gapped⟩
      rw [first?_line_missed later]
      rcases ih with ⟨nothing, nowhere⟩ | ⟨rest, found, described, first⟩
      · exact .inl ⟨nothing, fun rest described => nowhere rest (later rest described)⟩
      · exact .inr ⟨rest, found, longer rest described, fun other described => first other (later other described)⟩

theorem trim_within (text : List Char) : trim text <:+: text :=
  (List.rdropWhile_prefix isBlank _).isInfix.trans (List.dropWhile_suffix isBlank).isInfix

theorem lineBehind_within (rest : List Char) : lineBehind rest <:+: rest :=
  (trim_within _).trans ((List.takeWhile_prefix _).isInfix.trans (List.dropWhile_suffix isGap).isInfix)

theorem description_within (text : List Char) : (((line descriptionTag).first? text).getD "").toList <:+: text := by
  rcases first?_line text with ⟨nothing, -⟩ | ⟨rest, found, described, -⟩
  · rw [nothing]
    exact List.nil_infix
  · rw [found, Option.getD_some, String.toList_ofList]
    exact (lineBehind_within rest).trans described.ends.isInfix

end PluginAudit.Script.Annotations
