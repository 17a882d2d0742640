import Mathlib
import PluginAudit.Json.Printer
import PluginAudit.Json.Reader

namespace PluginAudit.Json

open PluginAudit.Text

def Delimited (rest : List Char) : Prop :=
  ∀ c ∈ rest.head?, c.isDigit = false ∧ c ≠ '.' ∧ c ≠ 'e' ∧ c ≠ 'E'

theorem delimited_nil : Delimited [] := by
  simp [Delimited]

theorem delimited_cons {c : Char} (plain : c.isDigit = false ∧ c ≠ '.' ∧ c ≠ 'e' ∧ c ≠ 'E') (rest : List Char) :
    Delimited (c :: rest) := by
  simpa [Delimited] using plain

theorem head?_toDigits {n : Nat} (positive : 0 < n) : (Nat.toDigits 10 n).head? ≠ some '0' := by
  induction n using Nat.strong_induction_on with
  | _ n ih =>
    rw [Nat.toDigits_eq_if (by decide)]
    split
    · simp only [List.head?_cons, ne_eq, Option.some.injEq, Nat.digitChar_eq_zero]
      omega
    · have shorter := ih (n / 10) (by omega) (by omega)
      rw [List.head?_append_of_ne_nil _ Nat.toDigits_ne_nil]
      exact shorter

theorem isDigit_toDigits {n : Nat} : ∀ c ∈ Nat.toDigits 10 n, c.isDigit = true :=
  fun _ => Nat.isDigit_of_mem_toDigits (by decide) (by decide)

theorem toDigits_cons (n : Nat) : ∃ c digits, Nat.toDigits 10 n = c :: digits ∧ c.isDigit = true := by
  obtain ⟨c, digits, written⟩ := List.exists_cons_of_ne_nil (Nat.toDigits_ne_nil (b := 10) (n := n))
  exact ⟨c, digits, written, isDigit_toDigits c (written ▸ List.mem_cons_self)⟩

theorem ne_of_isDigit {c d : Char} (digit : c.isDigit = true) (other : d.isDigit = false) : c ≠ d := by
  rintro rfl
  simp [digit] at other

theorem wholeDigits_toDigits (n : Nat) {rest : List Char} (delimited : Delimited rest) :
    wholeDigits (Nat.toDigits 10 n ++ rest) = Nat.toDigits 10 n := by
  rcases Nat.eq_zero_or_pos n with rfl | positive
  · rfl
  · have behind : rest.takeWhile Char.isDigit = [] := by
      cases rest with
      | nil => rfl
      | cons c rest => simp [(delimited c rfl).1]
    have taken : (Nat.toDigits 10 n ++ rest).takeWhile Char.isDigit = Nat.toDigits 10 n := by
      rw [List.takeWhile_append_of_pos isDigit_toDigits, behind, List.append_nil]
    unfold wholeDigits
    split
    · rename_i tail written
      have zero : (Nat.toDigits 10 n).head? = some '0' := by
        have first : (Nat.toDigits 10 n ++ rest).head? = (Nat.toDigits 10 n).head? :=
          List.head?_append_of_ne_nil _ Nat.toDigits_ne_nil
        rw [← first, written]
        rfl
      exact absurd zero (head?_toDigits positive)
    · exact taken

theorem foldl_filterMap_asciiDigit? {digits : List Char} (all : ∀ c ∈ digits, c.isDigit = true) (n : Nat) :
    (digits.filterMap asciiDigit?).foldl (fun n d => n * 10 + d) n = Nat.ofDigitChars 10 digits n := by
  induction digits generalizing n with
  | nil => rfl
  | cons c digits ih =>
    have first : asciiDigit? c = some (c.toNat - 0x30) := by simp [asciiDigit?, all c List.mem_cons_self]
    rw [List.filterMap_cons_some first, List.foldl_cons, ih fun d member => all d (List.mem_cons_of_mem _ member),
      Nat.ofDigitChars_cons, Nat.mul_comm]
    rfl

theorem ofDigits_toDigits (n : Nat) : ofDigits 10 ((Nat.toDigits 10 n).filterMap asciiDigit?) = n := by
  rw [ofDigits, foldl_filterMap_asciiDigit? isDigit_toDigits, Nat.ofDigitChars_ten_toDigits]

theorem length_digits (n : Nat) :
    ((Nat.toDigits 10 n).filterMap asciiDigit?).length = (Nat.toDigits 10 n).length := by
  rw [List.filterMap_length_eq_length]
  intro c member
  simp [asciiDigit?, isDigit_toDigits c member]

theorem fractionDigits_delimited {rest : List Char} (delimited : Delimited rest) : fractionDigits rest = [] := by
  unfold fractionDigits
  split
  · exact absurd rfl (delimited _ rfl).2.1
  · rfl

theorem exponent?_delimited {rest : List Char} (delimited : Delimited rest) : exponent? rest = none := by
  cases rest with
  | nil => rfl
  | cons c rest =>
    obtain ⟨_, _, small, capital⟩ := delimited c rfl
    simp [exponent?, small, capital]

/-- The digits of a number behind its sign are read up to what follows them. -/
theorem number?_digits (limit : Number.Limit) (n : Nat) {rest : List Char} (delimited : Delimited rest) (negative : Bool) :
    number? limit ((if negative then ['-'] else []) ++ (Nat.toDigits 10 n ++ rest)) =
      some ((integer limit negative ((Nat.toDigits 10 n).filterMap asciiDigit?)).map fun v => (v, rest)) := by
  have signed : (((if negative then ['-'] else []) ++ (Nat.toDigits 10 n ++ rest)).head? == some '-') = negative := by
    cases negative with
    | true => rfl
    | false =>
      obtain ⟨c, digits, written, digit⟩ := toDigits_cons n
      simp [written, ne_of_isDigit digit (rfl : Char.isDigit '-' = false)]
  have unsigned : (if negative = true then ((if negative then ['-'] else []) ++ (Nat.toDigits 10 n ++ rest)).drop 1
      else (if negative then ['-'] else []) ++ (Nat.toDigits 10 n ++ rest)) = Nat.toDigits 10 n ++ rest := by
    cases negative <;> rfl
  have notEmpty : (Nat.toDigits 10 n).isEmpty = false := by simp
  unfold number?
  simp only [signed, unsigned, wholeDigits_toDigits n delimited, List.drop_left, fractionDigits_delimited delimited,
    List.isEmpty_nil, if_true, exponent?_delimited delimited, notEmpty, Bool.false_eq_true, if_false]

theorem toList_int (n : Int) :
    (scalarText (.int n)).toList = (if decide (n < 0) then ['-'] else []) ++ Nat.toDigits 10 n.natAbs := by
  cases n with
  | ofNat n =>
    change (toString (Int.ofNat n)).toList = _
    rw [Int.toString_eq_repr]
    exact Nat.toList_repr
  | negSucc n =>
    change (toString (Int.negSucc n)).toList = _
    rw [Int.toString_eq_repr, Int.repr, String.toList_append, Nat.toList_repr,
      if_pos (decide_eq_true (Int.negSucc_lt_zero n))]
    rfl

theorem int_cons (n : Int) : ∃ c rest, (scalarText (.int n)).toList = c :: rest ∧
    ∀ d : Char, d.isDigit = false → d ≠ '-' → c ≠ d := by
  obtain ⟨c, digits, written, digit⟩ := toDigits_cons n.natAbs
  rw [toList_int, written]
  split
  · exact ⟨'-', _, rfl, fun d _ other => other.symm⟩
  · exact ⟨c, digits, rfl, fun d plain _ => ne_of_isDigit digit plain⟩

theorem word?_digit {c : Char} (digit : c.isDigit = true) (rest : List Char) (negative : Bool) :
    word? ((if negative then ['-'] else []) ++ c :: rest) = none := by
  have other : ∀ d : Char, d.isDigit = false → (d == c) = false := fun d plain =>
    beq_eq_false_iff_ne.mpr (ne_of_isDigit digit plain).symm
  cases negative <;>
    simp [word?, words, List.isPrefixOf?, other 'n' rfl, other 't' rfl, other 'f' rfl, other 'N' rfl, other 'I' rfl,
      other '-' rfl]

theorem scalar_digits (limit : Number.Limit) (n : Int) {rest : List Char} (delimited : Delimited rest) :
    scalar limit ((scalarText (.int n)).toList ++ rest) =
      (integer limit (decide (n < 0)) ((Nat.toDigits 10 n.natAbs).filterMap asciiDigit?)).map fun v => (v, rest) := by
  have noWord : word? ((if decide (n < 0) then ['-'] else []) ++ (Nat.toDigits 10 n.natAbs ++ rest)) = none := by
    obtain ⟨c, digits, written, digit⟩ := toDigits_cons n.natAbs
    rw [written]
    exact word?_digit digit _ _
  rw [toList_int, List.append_assoc, scalar, noWord]
  simp only [number?_digits limit n.natAbs delimited]

theorem scalar_int {limit : Number.Limit} {n : Int} (short : limit.exceeded? (Number.digitCount n) = none)
    {rest : List Char} (delimited : Delimited rest) :
    scalar limit ((scalarText (.int n)).toList ++ rest) = .ok (.int n, rest) := by
  have same : (if decide (n < 0) = true then -(n.natAbs : Int) else n.natAbs) = n := by
    by_cases negative : n < 0 <;> simp only [negative, decide_true, decide_false, if_true, Bool.false_eq_true, if_false]
    · omega
    · omega
  rw [Number.digitCount] at short
  rw [scalar_digits limit n delimited]
  simp only [integer, length_digits, ofDigits_toDigits, short, same]
  rfl

end PluginAudit.Json
