import Mathlib
import PluginAudit.Proofs.Script.Direct
import PluginAudit.Proofs.Script.Signature

namespace PluginAudit.Script

open Text Override

def IsBlankText (text : List Char) : Prop :=
  ∀ c ∈ text, isBlank c = true

/-- A text that declares a variable for a method, and nothing else. -/
inductive Declares : Override → List Char → Prop where
  | intro {keyword gap name beforeSign behindSign owner method beforeStop : List Char} {stop : Char}
      (isKeyword : keyword ∈ ["const", "let", "var"].map String.toList)
      (gapNonempty : gap ≠ []) (gapBlank : IsBlankText gap)
      (isName : IsWordText name)
      (beforeBlank : IsBlankText beforeSign) (behindBlank : IsBlankText behindSign)
      (isOwner : IsWordText owner) (isMethod : IsWordText method)
      (stopBlank : IsBlankText beforeStop) (isStop : stop = ';' ∨ stop = ',') :
      Declares ⟨owner, method⟩ (keyword ++ (gap ++ (name ++ (beforeSign ++ '=' ::
        (behindSign ++ (owner ++ (".prototype.".toList ++ (method ++ (beforeStop ++ [stop])))))))))

/-- A declaration at a place of a text: what stands before it, its own text, what it declares, and what stands behind. -/
structure Alias where
  before : List Char
  taken : List Char
  override : Override
  behind : List Char
deriving Repr, DecidableEq

namespace Alias

def start (found : Alias) : Nat :=
  found.before.length

def stop (found : Alias) : Nat :=
  found.before.length + found.taken.length

def boundary (before behind : List Char) : Bool :=
  Chain.endsWord before != startsWord behind

structure StandsIn (found : Alias) (text : List Char) : Prop where
  whole : found.before ++ (found.taken ++ found.behind) = text
  boundary : boundary found.before (found.taken ++ found.behind) = true
  declares : Declares found.override found.taken

def ofText? (before text : List Char) : Option Alias :=
  if Chain.endsWord before then none
  else (aliased? text).map fun hit => ⟨before, text.take (text.length - hit.2.length), hit.1, hit.2⟩

/-- The declarations in a text that stands behind `before`; every place of the text is tried. -/
def allFrom (before : List Char) : List Char → List Alias
  | [] => []
  | c :: rest => (ofText? before (c :: rest)).toList ++ allFrom (before ++ [c]) rest

def all (text : List Char) : List Alias :=
  allFrom [] text

end Alias

theorem skipBlanks_append {blanks rest : List Char} (blank : IsBlankText blanks)
    (visible : rest.head?.any isBlank = false) : skipBlanks (blanks ++ rest) = rest := by
  rw [skipBlanks, List.dropWhile_append_of_pos blank]
  cases rest with
  | nil => rfl
  | cons c rest => exact List.dropWhile_cons_of_neg (by simpa using visible)

theorem exists_blanks (text : List Char) : ∃ blanks, text = blanks ++ skipBlanks text ∧ IsBlankText blanks :=
  ⟨text.takeWhile isBlank, List.takeWhile_append_dropWhile.symm, fun _ member => List.mem_takeWhile_imp member⟩

theorem skipSomeBlanks?_append {gap rest : List Char} (nonempty : gap ≠ []) (blank : IsBlankText gap)
    (visible : rest.head?.any isBlank = false) : skipSomeBlanks? (gap ++ rest) = some rest := by
  obtain ⟨c, gap, rfl⟩ := List.exists_cons_of_ne_nil nonempty
  obtain ⟨head, tail⟩ := List.forall_mem_cons.mp blank
  rw [List.cons_append, skipSomeBlanks?, if_pos head, skipBlanks_append tail visible]

theorem exists_gap {text rest : List Char} (found : skipSomeBlanks? text = some rest) :
    ∃ gap, text = gap ++ rest ∧ gap ≠ [] ∧ IsBlankText gap ∧ rest = skipBlanks text := by
  cases text with
  | nil => cases found
  | cons c later =>
    rw [skipSomeBlanks?] at found
    split at found
    · rename_i blank
      cases found
      obtain ⟨blanks, same, allBlank⟩ := exists_blanks later
      refine ⟨c :: blanks, congrArg (c :: ·) same, by simp, List.forall_mem_cons.mpr ⟨blank, allBlank⟩, ?_⟩
      simp [skipBlanks, blank]
    · cases found

theorem visible_of_startsWord {text : List Char} (word : startsWord text = true) : text.head?.any isBlank = false := by
  cases text with
  | nil => rfl
  | cons c rest =>
    have isWord : isWord c = true := word
    by_contra blank
    rw [not_isWord_of_isBlank (by simpa using blank)] at isWord
    cases isWord

theorem startsWord_append {word : List Char} (isWordText : IsWordText word) (rest : List Char) :
    startsWord (word ++ rest) = true := by
  obtain ⟨c, word, rfl⟩ := List.exists_cons_of_ne_nil isWordText.1
  exact isWordText.2 c List.mem_cons_self

theorem startsWord_blanks {blanks : List Char} (blank : IsBlankText blanks) {rest : List Char}
    (outside : startsWord rest = false) : startsWord (blanks ++ rest) = false := by
  cases blanks with
  | nil => exact outside
  | cons c blanks => exact not_isWord_of_isBlank (blank c List.mem_cons_self)

theorem takeWord?_append {word rest : List Char} (isWordText : IsWordText word) (outside : startsWord rest = false) :
    takeWord? (word ++ rest) = some (word, rest) :=
  takeWord?_eq_some_iff.mpr ⟨rfl, isWordText.1, isWordText.2, outside⟩

theorem member?_iff_text {text rest : List Char} {owner method : List Char} :
    member? text = some (⟨owner, method⟩, rest) ↔
      text = owner ++ (".prototype.".toList ++ (method ++ rest)) ∧ IsWordText owner ∧ IsWordText method ∧
        startsWord rest = false := by
  constructor
  · intro found
    obtain ⟨isOwner, isMethod⟩ := words_of_member? found
    obtain ⟨behindOwner, behindMarker, first, marker, second⟩ := member?_eq_some_iff.mp found
    obtain ⟨rfl, -⟩ := takeWord?_eq_some_iff.mp first
    obtain rfl := expect?_eq_some_iff.mp marker
    obtain ⟨rfl, -, -, outside⟩ := takeWord?_eq_some_iff.mp second
    exact ⟨rfl, isOwner, isMethod, outside⟩
  · rintro ⟨rfl, isOwner, isMethod, outside⟩
    exact member?_eq_some_iff.mpr ⟨_, _, takeWord?_append isOwner rfl, expect?_eq_some_iff.mpr rfl,
      takeWord?_append isMethod outside⟩

theorem aliased?_iff_declares {text rest : List Char} {override : Override} :
    aliased? text = some (override, rest) ↔ ∃ taken, text = taken ++ rest ∧ Declares override taken := by
  rw [aliased?_eq_some_iff]
  constructor
  · rintro ⟨keyword, member, behindKeyword, nameOn, name, behindName, valueOn, behindValue, rfl, blanks, word, sign,
      value, stop⟩
    obtain ⟨gap, rfl, gapNonempty, gapBlank, -⟩ := exists_gap blanks
    obtain ⟨rfl, nameNonempty, nameWord, -⟩ := takeWord?_eq_some_iff.mp word
    obtain ⟨beforeSign, beforeSame, beforeBlank⟩ := exists_blanks behindName
    obtain ⟨behindSign, behindSame, behindBlank⟩ := exists_blanks valueOn
    obtain ⟨shown, isOwner, isMethod, -⟩ := member?_iff_text.mp value
    obtain ⟨beforeStop, stopSame, stopBlank⟩ := exists_blanks behindValue
    obtain ⟨stopSign, isStop, stopped⟩ : ∃ sign, (sign = ';' ∨ sign = ',') ∧ skipBlanks behindValue = sign :: rest := by
      rcases stop?_eq_some_iff.mp stop with semicolon | comma
      · exact ⟨';', .inl rfl, semicolon⟩
      · exact ⟨',', .inr rfl, comma⟩
    refine ⟨_, ?_, .intro (List.mem_map_of_mem member) gapNonempty gapBlank ⟨nameNonempty, nameWord⟩ beforeBlank
      behindBlank isOwner isMethod stopBlank isStop⟩
    rw [expect?_eq_some_iff.mp sign] at beforeSame
    rw [shown] at behindSame
    rw [stopped] at stopSame
    rw [beforeSame, behindSame, stopSame]
    simp
  · rintro ⟨taken, rfl, declares⟩
    cases declares with
    | @intro keyword gap name beforeSign behindSign owner method beforeStop stop isKeyword gapNonempty gapBlank isName
        beforeBlank behindBlank isOwner isMethod stopBlank isStop =>
    obtain ⟨word, member, rfl⟩ := List.mem_map.mp isKeyword
    have stopWord : startsWord (stop :: rest) = false := by rcases isStop with rfl | rfl <;> rfl
    have stopVisible : (stop :: rest).head?.any isBlank = false := by rcases isStop with rfl | rfl <;> rfl
    have stopped : stop? (skipBlanks (beforeStop ++ stop :: rest)) = some rest := by
      rw [skipBlanks_append stopBlank stopVisible, stop?_eq_some_iff]
      exact isStop.imp (congrArg (· :: rest)) (congrArg (· :: rest))
    have value := member?_iff_text.mpr ⟨rfl, isOwner, isMethod, startsWord_blanks stopBlank stopWord⟩
    have valueVisible := visible_of_startsWord
      (startsWord_append isOwner (".prototype.".toList ++ (method ++ (beforeStop ++ stop :: rest))))
    rw [← skipBlanks_append behindBlank valueVisible] at value
    have sign : ∀ later, expect? "=" (skipBlanks (beforeSign ++ '=' :: later)) = some later := by
      intro later
      rw [skipBlanks_append beforeBlank rfl]
      exact expect?_eq_some_iff.mpr rfl
    refine ⟨word, member, _, _, name, _, _, _, ?_, skipSomeBlanks?_append gapNonempty gapBlank ?_,
      takeWord?_append isName (startsWord_blanks beforeBlank ?_), sign _, value, stopped⟩
    · simp
    · exact visible_of_startsWord (startsWord_append isName _)
    · rfl

section

variable {override : Override} {taken : List Char} (declares : Declares override taken)

include declares

theorem Declares.find? (rest : List Char) : Rule.aliased.find? (taken ++ rest) = some (override, rest) :=
  aliased?_iff_declares.mpr ⟨taken, rfl, declares⟩

theorem Declares.startsWord (rest : List Char) : startsWord (taken ++ rest) = true := by
  have found := declares.find? rest
  by_contra outside
  rw [Rule.find?_outside _ (by simpa using outside)] at found
  cases found

theorem Declares.ne_nil : taken ≠ [] := by
  rintro rfl
  cases declares.startsWord []

theorem Declares.endsWord (before : List Char) : Chain.endsWord (before ++ taken) = false := by
  obtain ⟨sign, notWord, front, same⟩ := Rule.find?_suffix (declares.find? [])
  rw [List.append_nil] at same
  rw [← same, ← List.append_assoc, Chain.endsWord_concat]
  exact notWord

end

theorem isWordText_keyword {keyword : List Char} (isKeyword : keyword ∈ ["const", "let", "var"].map String.toList) :
    IsWordText keyword := by
  fin_cases isKeyword <;> exact ⟨by decide, List.all_eq_true.mp rfl⟩

/-- No declaration starts with a word that has something else than a word behind it, blanks or not. -/
theorem aliased?_missed {word rest : List Char} (isWordText : IsWordText word)
    (next : startsWord (skipBlanks rest) = false) : aliased? (word ++ rest) = none := by
  rw [Option.eq_none_iff_forall_ne_some]
  rintro ⟨override, behind⟩ found
  obtain ⟨keyword, member, behindKeyword, nameOn, name, behindName, _, _, same, blanks, named, -⟩ :=
    aliased?_eq_some_iff.mp found
  obtain ⟨gap, split, gapNonempty, gapBlank, skipped⟩ := exists_gap blanks
  have nameStarts : startsWord nameOn = true := Chain.takeWord?_isSome named
  have restOutside : startsWord rest = false := by
    by_contra word
    have starts : startsWord rest = true := by simpa using word
    have unblanked : skipBlanks ([] ++ rest) = rest :=
      skipBlanks_append (List.forall_mem_nil _) (visible_of_startsWord starts)
    rw [List.nil_append] at unblanked
    rw [unblanked, starts] at next
    cases next
  have keywordOutside : startsWord behindKeyword = false := by
    obtain ⟨c, gap, rfl⟩ := List.exists_cons_of_ne_nil gapNonempty
    rw [split]
    exact not_isWord_of_isBlank (gapBlank c List.mem_cons_self)
  have keywordWord := isWordText_keyword (List.mem_map_of_mem member)
  -- The word is the keyword, so what follows it is what follows the keyword.
  have behindSame : rest = behindKeyword := by
    have first := (span_word isWordText.2 restOutside).2
    have second := (span_word keywordWord.2 keywordOutside).2
    rw [same] at first
    exact first.symm.trans second
  rw [behindSame, ← skipped, nameStarts] at next
  cases next

namespace Alias

theorem ofText?_eq_some_iff {found : Alias} {before text : List Char} :
    ofText? before text = some found ↔ found.before = before ∧ found.StandsIn (before ++ text) := by
  constructor
  · intro made
    rw [ofText?] at made
    split at made
    · cases made
    · rename_i outside
      obtain ⟨⟨override, behind⟩, hit, rfl⟩ := Option.map_eq_some_iff.mp made
      obtain ⟨taken, rfl, declares⟩ := aliased?_iff_declares.mp hit
      have own : (taken ++ behind).take ((taken ++ behind).length - behind.length) = taken := by simp
      refine ⟨rfl, ?_, ?_, ?_⟩
      · simp only [own]
      · simp only [own, boundary, declares.startsWord]
        simpa using outside
      · simpa only [own] using declares
  · obtain ⟨front, taken, override, behind⟩ := found
    rintro ⟨rfl, whole, starts, declares⟩
    simp only [List.append_cancel_left_eq] at whole
    subst whole
    have outside : Chain.endsWord front = false := by
      simpa [boundary, declares.startsWord] using starts
    have hit : aliased? (taken ++ behind) = some (override, behind) := declares.find? behind
    simp [ofText?, outside, hit]

theorem allFrom_missed {before : List Char} {c : Char} {rest : List Char}
    (missed : Chain.endsWord before = true ∨ aliased? (c :: rest) = none) :
    allFrom before (c :: rest) = allFrom (before ++ [c]) rest := by
  have none : ofText? before (c :: rest) = none := by
    rcases missed with inside | missed
    · rw [ofText?, if_pos inside]
    · rw [ofText?, missed]
      split <;> rfl
  rw [allFrom, none]
  rfl

theorem allFrom_signs (before : List Char) {signs : List Char} (outside : ∀ c ∈ signs, isWord c = false)
    (rest : List Char) : allFrom before (signs ++ rest) = allFrom (before ++ signs) rest := by
  induction signs generalizing before with
  | nil => simp
  | cons c signs ih =>
    obtain ⟨head, tail⟩ := List.forall_mem_cons.mp outside
    have missed : aliased? (c :: (signs ++ rest)) = none := Rule.aliased.find?_outside head
    rw [List.cons_append, allFrom_missed (.inr missed), ih _ tail]
    simp

theorem allFrom_inside {before word : List Char} (inside : Chain.endsWord before = true)
    (all : ∀ c ∈ word, isWord c = true) (rest : List Char) :
    allFrom before (word ++ rest) = allFrom (before ++ word) rest := by
  induction word generalizing before with
  | nil => simp
  | cons c word ih =>
    obtain ⟨head, tail⟩ := List.forall_mem_cons.mp all
    rw [List.cons_append, allFrom_missed (.inl inside), ih (by simpa using head) tail]
    simp

theorem allFrom_word (before : List Char) {word rest : List Char} (isWordText : IsWordText word)
    (next : startsWord (skipBlanks rest) = false) :
    allFrom before (word ++ rest) = allFrom (before ++ word) rest := by
  have missed := aliased?_missed isWordText next
  obtain ⟨c, word, rfl⟩ := List.exists_cons_of_ne_nil isWordText.1
  obtain ⟨head, tail⟩ := List.forall_mem_cons.mp isWordText.2
  rw [List.cons_append] at missed ⊢
  rw [allFrom_missed (.inr missed), allFrom_inside (by simpa using head) tail]
  simp

theorem allFrom_declared {override : Override} {c : Char} {inner : List Char} (declares : Declares override (c :: inner))
    (before behind : List Char) :
    allFrom (before ++ [c]) (inner ++ behind) = allFrom (before ++ c :: inner) behind := by
  generalize same : c :: inner = taken at declares
  cases declares with
  | @intro keyword gap name beforeSign behindSign owner method beforeStop stop isKeyword gapNonempty gapBlank isName
      beforeBlank behindBlank isOwner isMethod stopBlank isStop =>
  obtain ⟨d, word, rfl⟩ := List.exists_cons_of_ne_nil (isWordText_keyword isKeyword).1
  obtain ⟨head, tail⟩ := List.forall_mem_cons.mp (isWordText_keyword isKeyword).2
  rw [List.cons_append, List.cons.injEq] at same
  obtain ⟨rfl, rfl⟩ := same
  have outside : ∀ {blanks : List Char}, IsBlankText blanks → ∀ c ∈ blanks, isWord c = false :=
    fun blank c member => not_isWord_of_isBlank (blank c member)
  have signOutside : ∀ c ∈ beforeSign ++ '=' :: behindSign, isWord c = false := by
    rw [List.forall_mem_append, List.forall_mem_cons]
    exact ⟨outside beforeBlank, rfl, outside behindBlank⟩
  have stopOutside : ∀ c ∈ beforeStop ++ [stop], isWord c = false := by
    rw [List.forall_mem_append, List.forall_mem_singleton]
    exact ⟨outside stopBlank, by rcases isStop with rfl | rfl <;> rfl⟩
  have isMarker : IsWordText Chain.prototype := ⟨by decide, List.all_eq_true.mp rfl⟩
  have dot : ∀ c ∈ ['.'], isWord c = false := List.forall_mem_singleton.mpr rfl
  have marker : ".prototype.".toList = ['.'] ++ (Chain.prototype ++ ['.']) := rfl
  have split : word ++ (gap ++ (name ++ (beforeSign ++ '=' :: (behindSign ++ (owner ++ (".prototype.".toList ++
      (method ++ (beforeStop ++ [stop])))))))) ++ behind =
      word ++ (gap ++ (name ++ ((beforeSign ++ '=' :: behindSign) ++ (owner ++ (['.'] ++ (Chain.prototype ++ (['.'] ++
        (method ++ ((beforeStop ++ [stop]) ++ behind))))))))) := by
    rw [marker]
    simp only [List.append_assoc, List.cons_append]
  rw [split, allFrom_inside (by simpa using head) tail, allFrom_signs _ (outside gapBlank), allFrom_word _ isName,
    allFrom_signs _ signOutside, allFrom_word _ isOwner, allFrom_signs _ dot, allFrom_word _ isMarker,
    allFrom_signs _ dot, allFrom_word _ isMethod, allFrom_signs _ stopOutside, marker]
  · simp only [List.append_assoc, List.cons_append, List.nil_append]
  · rw [List.append_assoc, skipBlanks_append stopBlank] <;> rcases isStop with rfl | rfl <;> rfl
  · rfl
  · rfl
  · rw [List.append_assoc, skipBlanks_append beforeBlank] <;> rfl

theorem allFrom_found {before taken : List Char} {override : Override} (outside : Chain.endsWord before = false)
    (declares : Declares override taken) (behind : List Char) :
    allFrom before (taken ++ behind) = ⟨before, taken, override, behind⟩ :: allFrom (before ++ taken) behind := by
  have here : ofText? before (taken ++ behind) = some ⟨before, taken, override, behind⟩ :=
    ofText?_eq_some_iff.mpr ⟨rfl, rfl, by simp [boundary, outside, declares.startsWord], declares⟩
  obtain ⟨c, inner, rfl⟩ := List.exists_cons_of_ne_nil declares.ne_nil
  rw [List.cons_append] at here ⊢
  rw [allFrom, here, allFrom_declared declares]
  rfl

/-- Induction along a text: by a character where no declaration starts, or by a whole declaration. -/
theorem alias_induction {motive : List Char → List Char → Prop} (nil : ∀ before, motive before [])
    (missed : ∀ before c rest, Chain.endsWord before = true ∨ aliased? (c :: rest) = none →
      motive (before ++ [c]) rest → motive before (c :: rest))
    (found : ∀ before override taken behind, Chain.endsWord before = false → Declares override taken →
      motive (before ++ taken) behind → motive before (taken ++ behind))
    (before text : List Char) : motive before text := by
  induction size : text.length using Nat.strong_induction_on generalizing before text with
  | _ size ih =>
    subst size
    cases text with
    | nil => exact nil before
    | cons c rest =>
      have step : Chain.endsWord before = true ∨ aliased? (c :: rest) = none → motive before (c :: rest) :=
        fun miss => missed before c rest miss (ih rest.length (by simp) _ rest rfl)
      cases inside : Chain.endsWord before with
      | true => exact step (.inl inside)
      | false =>
        cases hit : aliased? (c :: rest) with
        | none => exact step (.inr hit)
        | some result =>
          obtain ⟨override, behind⟩ := result
          obtain ⟨taken, same, declares⟩ := aliased?_iff_declares.mp hit
          have shorter : behind.length < (c :: rest).length := by
            have positive := List.length_pos_iff.mpr declares.ne_nil
            rw [same, List.length_append]
            omega
          rw [same]
          exact found before override taken behind inside declares (ih behind.length shorter _ behind rfl)

theorem mem_allFrom_iff {found : Alias} {before text : List Char} :
    found ∈ allFrom before text ↔ before <+: found.before ∧ found.StandsIn (before ++ text) := by
  induction text generalizing before with
  | nil =>
    simp only [allFrom, List.not_mem_nil, List.append_nil, false_iff, not_and]
    rintro further ⟨whole, -, declares⟩
    have lengths := congrArg List.length whole
    have start := further.length_le
    have positive := List.length_pos_iff.mpr declares.ne_nil
    simp only [List.length_append] at lengths
    omega
  | cons c rest ih =>
    rw [allFrom, List.mem_append, ih, Option.mem_toList, ofText?_eq_some_iff, List.append_assoc,
      List.singleton_append, ← or_and_right]
    exact and_congr_left fun stands => (Chain.prefix_iff_of_whole stands.whole).symm

theorem pairwise_allFrom (before text : List Char) :
    (allFrom before text).Pairwise fun a b => a.stop ≤ b.start := by
  induction before, text using alias_induction with
  | nil before => exact .nil
  | missed before c rest miss ih => rwa [allFrom_missed miss]
  | found before override taken behind outside declares ih =>
    rw [allFrom_found outside declares]
    refine .cons (fun later member => ?_) ih
    have further := (mem_allFrom_iff.mp member).1.length_le
    rwa [List.length_append] at further

theorem search_eq_map {previous : Option Char} {before : List Char} (text : List Char)
    (same : previous.any isWord = Chain.endsWord before) :
    Rule.aliased.search previous text = (allFrom before text).map override := by
  induction before, text using alias_induction generalizing previous with
  | nil before => rfl
  | missed before c rest miss ih =>
    rw [allFrom_missed miss, Rule.aliased.search_missed (miss.imp_left same.trans), ih (by simp)]
  | found before override taken behind outside declares ih =>
    have later := @ih none (declares.endsWord before).symm
    rw [allFrom_found outside declares, Rule.search_found (same.trans outside) (declares.find? behind), later]
    rfl

theorem mem_all_iff {found : Alias} {text : List Char} : found ∈ all text ↔ found.StandsIn text := by
  rw [all, mem_allFrom_iff]
  exact and_iff_right List.nil_prefix

theorem StandsIn.start_lt_stop {found : Alias} {text : List Char} (stands : found.StandsIn text) :
    found.start < found.stop := by
  have positive := List.length_pos_iff.mpr stands.declares.ne_nil
  rw [start, stop]
  omega

theorem eq_or_apart {a b : Alias} {text : List Char} (stands : a.StandsIn text) (otherStands : b.StandsIn text) :
    a = b ∨ a.stop ≤ b.start ∨ b.stop ≤ a.start := by
  have symmetric : Std.Symm fun a b : Alias => a = b ∨ a.stop ≤ b.start ∨ b.stop ≤ a.start :=
    ⟨fun _ _ either => either.imp Eq.symm Or.symm⟩
  have pairwise := (pairwise_allFrom [] text).imp fun {a b} apart =>
    (.inr (.inl apart) : a = b ∨ a.stop ≤ b.start ∨ b.stop ≤ a.start)
  exact pairwise.forall_of_forall (fun _ _ => .inl rfl) (mem_all_iff.mpr stands) (mem_all_iff.mpr otherStands)

end Alias

/-- The declarations that stand in a text have no place in common, and at each place there is at most one. The alias rule
gives the signatures of all of them in the order of their places, and both rules give those of the direct rule and then
those of the alias rule, in each case without later duplicates. -/
theorem overrides_aliased (text : List Char) :
    (∀ found, found ∈ Alias.all text ↔ found.StandsIn text) ∧
      (∀ a b : Alias, a.StandsIn text → b.StandsIn text →
        (a.start = b.start → a = b) ∧ (a.start < b.start → a.stop ≤ b.start)) ∧
      (Alias.all text).Pairwise (fun a b => a.start < b.start) ∧
      signaturesIn [.aliased] text = ((Alias.all text).map fun found => found.override.signature).eraseDups ∧
      signaturesIn Rule.defaults text = (signaturesIn [.direct] text ++ signaturesIn [.aliased] text).eraseDups := by
  have found : Rule.aliased.overrides text = (Alias.all text).map Alias.override := Alias.search_eq_map text rfl
  refine ⟨fun _ => Alias.mem_all_iff, fun a b stands otherStands => ?_, ?_, ?_, ?_⟩
  · have nonempty := stands.start_lt_stop
    have otherNonempty := otherStands.start_lt_stop
    rcases Alias.eq_or_apart stands otherStands with rfl | before | behind
    · exact ⟨fun _ => rfl, fun less => absurd less (Nat.lt_irrefl _)⟩
    · exact ⟨fun same => by omega, fun _ => before⟩
    · exact ⟨fun same => by omega, fun less => by omega⟩
  · refine (Alias.pairwise_allFrom [] text).imp_of_mem fun {a b} member _ apart => ?_
    exact (Alias.mem_all_iff.mp member).start_lt_stop.trans_le apart
  · rw [signaturesIn, distinct_eq_eraseDups, List.flatMap_singleton, found, List.map_map]
    rfl
  · rw [← distinct_eq_eraseDups]
    simp only [signaturesIn, Rule.defaults, List.flatMap_cons, List.flatMap_nil, List.append_nil]
    rw [distinct_append_distinct]

def keywordScript : List Char :=
  "const let = var.prototype.const ,let var=let.prototype.let;".toList

theorem overrides_aliased_keywords :
    (∃ a b : Alias, a.StandsIn keywordScript ∧ b.StandsIn keywordScript ∧ a.start < b.start ∧ a.stop ≤ b.start) ∧
      signaturesIn [.aliased] keywordScript = ["var.prototype.const", "let.prototype.let"] ∧
      signaturesIn Rule.defaults keywordScript = ["var.prototype.const", "let.prototype.let"] := by
  obtain ⟨stands, apart, -, aliased, both⟩ := overrides_aliased keywordScript
  obtain ⟨a, member, b, otherMember, less⟩ :
      ∃ a ∈ Alias.all keywordScript, ∃ b ∈ Alias.all keywordScript, a.start < b.start := by decide +kernel
  have first := (stands a).mp member
  have second := (stands b).mp otherMember
  have found : signaturesIn [.aliased] keywordScript = ["var.prototype.const", "let.prototype.let"] := by
    rw [aliased]
    decide +kernel
  refine ⟨⟨a, b, first, second, less, (apart a b first second).2 less⟩, found, ?_⟩
  rw [both, found]
  decide +kernel

end PluginAudit.Script
