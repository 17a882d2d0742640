import Mathlib
import PluginAudit.Script.Override

namespace PluginAudit

namespace Text

theorem not_isWord_of_isBlank {c : Char} (blank : isBlank c = true) : isWord c = false := by
  -- A blank is one of the first characters, or one of the few that stand further on.
  have codes : ∀ code ∈ [0x85, 0xA0, 0x1680, 0x2028, 0x2029, 0x202F, 0x205F, 0x3000] ++ List.range' 0x2000 11,
      wordRanges.contains code = false := by decide +kernel
  have low : ∀ code < 0x21, isWord (Char.ofNat code) = false := by decide +kernel
  simp only [isBlank, Bool.or_eq_true, Bool.and_eq_true, decide_eq_true_eq, beq_iff_eq] at blank
  by_cases small : c.toNat < 0x80
  · have word := low c.toNat (by omega)
    rwa [Char.ofNat_toNat] at word
  · rw [isWord, if_neg small]
    apply codes
    simp
    omega

namespace Finder

variable {α : Type} {find : Finder α}

theorem allFrom_missed {previous : Option Char} {c : Char} {rest : List Char}
    (missed : find previous (c :: rest) = none) :
    allFrom find previous 0 (c :: rest) = allFrom find (some c) 0 rest := by
  rw [allFrom, missed]

theorem allFrom_skip (previous : Option Char) (taken rest : List Char) :
    allFrom find previous taken.length (taken ++ rest) = allFrom find (taken.getLast?.or previous) 0 rest := by
  induction taken generalizing previous with
  | nil => rfl
  | cons c taken ih =>
    rw [List.length_cons, List.cons_append, allFrom, ih, List.getLast?_cons]
    cases taken.getLast? <;> rfl

theorem allFrom_found {previous : Option Char} {taken rest : List Char} {found : α} (nonempty : taken ≠ [])
    (here : find previous (taken ++ rest) = some (found, taken.length)) :
    allFrom find previous 0 (taken ++ rest) = found :: allFrom find taken.getLast? 0 rest := by
  cases taken with
  | nil => exact absurd rfl nonempty
  | cons c taken =>
    rw [List.cons_append] at here ⊢
    rw [allFrom, here, List.getLast?_cons]
    simp only [List.length_cons, Nat.add_sub_cancel, allFrom_skip]
    cases taken.getLast? <;> rfl

end Finder

end Text

namespace Script

open Text

namespace Override

def startsWord (text : List Char) : Bool :=
  text.head?.any isWord

theorem startsWord_dropWhile (text : List Char) : startsWord (text.dropWhile isWord) = false := by
  have head := List.head?_dropWhile_not isWord text
  unfold startsWord
  cases first : (text.dropWhile isWord).head? with
  | none => rfl
  | some c =>
    rw [first] at head
    exact head

theorem span_word {word rest : List Char} (all : ∀ c ∈ word, isWord c = true) (stop : startsWord rest = false) :
    (word ++ rest).takeWhile isWord = word ∧ (word ++ rest).dropWhile isWord = rest := by
  rw [List.takeWhile_append_of_pos all, List.dropWhile_append_of_pos all]
  cases rest with
  | nil => simp
  | cons c rest =>
    have outside : isWord c = false := stop
    simp [outside]

theorem takeWord?_eq_some_iff {text word rest : List Char} :
    takeWord? text = some (word, rest) ↔
      text = word ++ rest ∧ word ≠ [] ∧ (∀ c ∈ word, isWord c = true) ∧ startsWord rest = false := by
  have taken : takeWord? text = some (word, rest) ↔
      text.takeWhile isWord ≠ [] ∧ text.takeWhile isWord = word ∧ text.dropWhile isWord = rest := by
    unfold takeWord?
    split <;> simp_all
  rw [taken]
  constructor
  · rintro ⟨nonempty, rfl, rfl⟩
    exact ⟨List.takeWhile_append_dropWhile.symm, nonempty, fun c member => List.mem_takeWhile_imp member,
      startsWord_dropWhile text⟩
  · rintro ⟨rfl, nonempty, all, stop⟩
    obtain ⟨word, rest⟩ := span_word all stop
    rw [word, rest]
    exact ⟨nonempty, rfl, rfl⟩

theorem takeWord?_eq_none {text : List Char} (outside : startsWord text = false) : takeWord? text = none := by
  cases text with
  | nil => rfl
  | cons c rest =>
    have head : isWord c = false := outside
    simp [takeWord?, head]

theorem expect?_eq_some_iff {lexeme : String} {text rest : List Char} :
    expect? lexeme text = some rest ↔ text = lexeme.toList ++ rest := by
  rw [expect?, List.isPrefixOf?_eq_some_iff_append_eq, eq_comm]

theorem assigns?_sign (rest : List Char) :
    assigns? ('=' :: rest) = if rest.head?.any (fun c => c == '=' || c == '>') then none else some rest := by
  cases rest with
  | nil => rfl
  | cons c later =>
    by_cases comparison : c = '='
    · subst comparison
      rfl
    · by_cases arrow : c = '>'
      · subst arrow
        rfl
      · simp [assigns?, comparison, arrow]

theorem assigns?_other {c : Char} (other : c ≠ '=') (rest : List Char) : assigns? (c :: rest) = none := by
  simp [assigns?, other]

theorem assigns?_eq_some_iff {text rest : List Char} :
    assigns? text = some rest ↔ text = '=' :: rest ∧ rest.head? ≠ some '=' ∧ rest.head? ≠ some '>' := by
  cases text with
  | nil => simp [assigns?]
  | cons c later =>
    by_cases sign : c = '='
    · subst sign
      have next : later.head?.any (fun c => c == '=' || c == '>') = true ↔
          later.head? = some '=' ∨ later.head? = some '>' := by
        cases later.head? <;> simp
      rw [assigns?_sign]
      by_cases compared : later.head? = some '=' ∨ later.head? = some '>'
      · rw [if_pos (next.mpr compared)]
        simp only [reduceCtorEq, List.cons.injEq, true_and, false_iff]
        rintro ⟨rfl, comparison, arrow⟩
        exact compared.elim comparison arrow
      · rw [if_neg (mt next.mp compared)]
        simp only [Option.some.injEq, List.cons.injEq, true_and]
        constructor
        · rintro rfl
          exact ⟨rfl, not_or.mp compared⟩
        · exact And.left
    · simp [assigns?_other sign, sign]

theorem member?_eq_some_iff {text rest : List Char} {override : Override} :
    member? text = some (override, rest) ↔
      ∃ behindOwner behindMarker, takeWord? text = some (override.owner, behindOwner) ∧
        expect? ".prototype." behindOwner = some behindMarker ∧
        takeWord? behindMarker = some (override.method, rest) := by
  obtain ⟨owner, method⟩ := override
  simp [member?, Option.bind_eq_some_iff]

theorem direct?_eq_some_iff {text rest : List Char} {override : Override} :
    direct? text = some (override, rest) ↔
      ∃ behind, member? text = some (override, behind) ∧ assigns? (skipBlanks (dropChain behind)) = some rest := by
  simp [direct?, Option.bind_eq_some_iff]

theorem keyword_eq_some_iff {text rest : List Char} :
    ["const", "let", "var"].findSome? (expect? · text) = some rest ↔
      ∃ keyword ∈ ["const", "let", "var"], text = String.toList keyword ++ rest := by
  constructor
  · intro found
    obtain ⟨keyword, member, here⟩ := List.exists_of_findSome?_eq_some found
    exact ⟨keyword, member, expect?_eq_some_iff.mp here⟩
  · rintro ⟨keyword, member, rfl⟩
    fin_cases member <;> rfl

def stop? : List Char → Option (List Char)
  | ';' :: rest => some rest
  | ',' :: rest => some rest
  | _ => none

theorem stop?_eq_some_iff {text rest : List Char} :
    stop? text = some rest ↔ text = ';' :: rest ∨ text = ',' :: rest := by
  fun_cases stop? text <;> simp_all

theorem aliased?_eq (text : List Char) :
    aliased? text = do
      let text ← ["const", "let", "var"].findSome? (expect? · text)
      let text ← skipSomeBlanks? text
      let (_, text) ← takeWord? text
      let text ← expect? "=" (skipBlanks text)
      let (override, text) ← member? (skipBlanks text)
      let text ← stop? (skipBlanks text)
      return (override, text) := by
  refine bind_congr fun behindKeyword => bind_congr fun nameOn => bind_congr fun name => bind_congr fun valueOn =>
    bind_congr fun value => ?_
  dsimp only
  generalize skipBlanks value.2 = behind
  fun_cases stop? behind <;> simp_all

theorem aliased?_eq_some_iff {text rest : List Char} {override : Override} :
    aliased? text = some (override, rest) ↔
      ∃ keyword ∈ ["const", "let", "var"], ∃ behindKeyword nameOn name behindName valueOn behindValue,
        text = String.toList keyword ++ behindKeyword ∧ skipSomeBlanks? behindKeyword = some nameOn ∧
        takeWord? nameOn = some (name, behindName) ∧ expect? "=" (skipBlanks behindName) = some valueOn ∧
        member? (skipBlanks valueOn) = some (override, behindValue) ∧ stop? (skipBlanks behindValue) = some rest := by
  simp only [aliased?_eq, Option.bind_eq_bind, Option.bind_eq_some_iff, keyword_eq_some_iff]
  constructor
  · rintro ⟨behindKeyword, ⟨keyword, member, same⟩, nameOn, blanks, ⟨name, behindName⟩, word, valueOn, sign,
      ⟨owner, behindValue⟩, value, behind, stop, found⟩
    cases found
    exact ⟨keyword, member, behindKeyword, nameOn, name, behindName, valueOn, behindValue, same, blanks, word, sign,
      value, stop⟩
  · rintro ⟨keyword, member, behindKeyword, nameOn, name, behindName, valueOn, behindValue, same, blanks, word, sign,
      value, stop⟩
    exact ⟨behindKeyword, ⟨keyword, member, same⟩, nameOn, blanks, (name, behindName), word, valueOn, sign,
      (override, behindValue), value, rest, stop, rfl⟩

theorem dropChain_suffix (text : List Char) : dropChain text <:+ text := by
  fun_induction dropChain text with
  | case1 => exact List.suffix_rfl
  | case2 c rest _ ih => exact ih.trans (List.suffix_cons c rest)
  | case3 c rest _ => exact List.suffix_rfl

theorem skipBlanks_suffix (text : List Char) : skipBlanks text <:+ text :=
  List.dropWhile_suffix isBlank

theorem skipSomeBlanks?_suffix {text rest : List Char} (found : skipSomeBlanks? text = some rest) : rest <:+ text := by
  cases text with
  | nil => cases found
  | cons c later =>
    rw [skipSomeBlanks?] at found
    split at found
    · cases found
      exact (skipBlanks_suffix later).trans (List.suffix_cons c later)
    · cases found

theorem member?_suffix {text rest : List Char} {override : Override} (found : member? text = some (override, rest)) :
    rest <:+ text := by
  obtain ⟨behindOwner, behindMarker, owner, marker, method⟩ := member?_eq_some_iff.mp found
  obtain ⟨rfl, -⟩ := takeWord?_eq_some_iff.mp owner
  obtain rfl := expect?_eq_some_iff.mp marker
  obtain ⟨rfl, -⟩ := takeWord?_eq_some_iff.mp method
  exact ((List.suffix_append _ rest).trans (List.suffix_append _ _)).trans (List.suffix_append _ _)

end Override

namespace Rule

open Override

theorem find?_outside (rule : Rule) {text : List Char} (outside : startsWord text = false) : rule.find? text = none := by
  cases rule with
  | direct => simp [find?, direct?, member?, takeWord?_eq_none outside]
  | aliased =>
    rw [find?, Option.eq_none_iff_forall_ne_some]
    rintro ⟨override, rest⟩ found
    obtain ⟨keyword, member, behind, -, -, -, -, -, rfl, -⟩ := aliased?_eq_some_iff.mp found
    have word : startsWord (keyword.toList ++ behind) = true := by fin_cases member <;> rfl
    rw [outside] at word
    cases word

theorem find?_suffix {rule : Rule} {text rest : List Char} {override : Override}
    (found : rule.find? text = some (override, rest)) : ∃ sign, isWord sign = false ∧ sign :: rest <:+ text := by
  cases rule with
  | direct =>
    obtain ⟨behind, member, assigned⟩ := direct?_eq_some_iff.mp found
    obtain ⟨same, -⟩ := assigns?_eq_some_iff.mp assigned
    refine ⟨'=', by decide, ?_⟩
    rw [← same]
    exact ((skipBlanks_suffix _).trans (dropChain_suffix behind)).trans (member?_suffix member)
  | aliased =>
    obtain ⟨keyword, -, behindKeyword, nameOn, name, behindName, valueOn, behindValue, rfl, blanks, word, equals, value,
      stop⟩ := aliased?_eq_some_iff.mp found
    have behind : skipBlanks behindValue <:+ keyword.toList ++ behindKeyword := by
      obtain ⟨rfl, -⟩ := takeWord?_eq_some_iff.mp word
      have nameSuffix := (List.suffix_append name behindName).trans (skipSomeBlanks?_suffix blanks)
      have valueSuffix : valueOn <:+ behindName :=
        (expect?_eq_some_iff.mp equals ▸ List.suffix_append _ valueOn).trans (skipBlanks_suffix behindName)
      have memberSuffix := (member?_suffix value).trans (skipBlanks_suffix valueOn)
      exact ((((skipBlanks_suffix behindValue).trans memberSuffix).trans valueSuffix).trans nameSuffix).trans
        (List.suffix_append _ _)
    rcases stop?_eq_some_iff.mp stop with semicolon | comma
    · exact ⟨';', by decide, semicolon ▸ behind⟩
    · exact ⟨',', by decide, comma ▸ behind⟩

/-- The overrides that a rule finds from a place on, where `previous` is the character before it. -/
def search (rule : Rule) (previous : Option Char) (text : List Char) : List Override :=
  (atWord rule.find?).allFrom previous 0 text

variable (rule : Rule)

/-- All that counts of the character before a place is whether it belongs to a word. -/
theorem search_previous {previous other : Option Char} (same : previous.any isWord = other.any isWord)
    (text : List Char) : rule.search previous text = rule.search other text := by
  cases text with
  | nil => rfl
  | cons c rest => simp only [search, Finder.allFrom, atWord, same]

theorem search_missed {previous : Option Char} {c : Char} {rest : List Char}
    (missed : previous.any isWord = true ∨ rule.find? (c :: rest) = none) :
    rule.search previous (c :: rest) = rule.search (some c) rest := by
  apply Finder.allFrom_missed
  rcases missed with word | missed
  · simp [atWord, word]
  · simp [atWord, missed]

theorem search_outside (previous : Option Char) {c : Char} (outside : isWord c = false) (rest : List Char) :
    rule.search previous (c :: rest) = rule.search none rest := by
  rw [search_missed rule (.inr (rule.find?_outside outside))]
  exact search_previous rule (by simp [outside]) rest

theorem search_outside_append (previous : Option Char) {signs : List Char} (nonempty : signs ≠ [])
    (outside : ∀ c ∈ signs, isWord c = false) (rest : List Char) :
    rule.search previous (signs ++ rest) = rule.search none rest := by
  induction signs generalizing previous with
  | nil => exact absurd rfl nonempty
  | cons c signs ih =>
    obtain ⟨head, tail⟩ := List.forall_mem_cons.mp outside
    rw [List.cons_append, search_outside rule previous head]
    by_cases last : signs = []
    · rw [last, List.nil_append]
    · exact ih none last tail

theorem search_inside {previous : Option Char} (inside : previous.any isWord = true) {word : List Char}
    (all : ∀ c ∈ word, isWord c = true) (rest : List Char) :
    rule.search previous (word ++ rest) = rule.search previous rest := by
  induction word generalizing previous with
  | nil => rfl
  | cons c word ih =>
    obtain ⟨head, tail⟩ := List.forall_mem_cons.mp all
    rw [List.cons_append, search_missed rule (.inl inside), ih (by simpa using head) tail]
    exact search_previous rule (by simp [head, inside]) rest

variable {rule} in
theorem search_found {previous : Option Char} {text rest : List Char} {override : Override}
    (outside : previous.any isWord = false) (found : rule.find? text = some (override, rest)) :
    rule.search previous text = override :: rule.search none rest := by
  -- The sign at the end of what is taken belongs to no word, so it is as if nothing stood before the rest.
  obtain ⟨sign, notWord, front, rfl⟩ := find?_suffix found
  have split : front ++ sign :: rest = (front ++ [sign]) ++ rest := by simp
  have here : atWord rule.find? previous (front ++ [sign] ++ rest) = some (override, (front ++ [sign]).length) := by
    rw [← split]
    simp [atWord, outside, found]
    omega
  rw [search, split, Finder.allFrom_found (by simp) here, List.getLast?_concat]
  exact congrArg (override :: ·) (search_previous rule (by simp [notWord]) rest)

end Rule

end Script

end PluginAudit
