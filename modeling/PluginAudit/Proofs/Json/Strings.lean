import Mathlib
import PluginAudit.Json.Printer
import PluginAudit.Json.Reader

namespace PluginAudit.Json

open PluginAudit.Text

theorem hex_succ (width n : Nat) : hex (width + 2) n = hex (width + 1) (n / 16) ++ [Nat.digitChar (n % 16)] := by
  unfold hex
  by_cases small : n < 16
  · have quotient : n / 16 = 0 := by omega
    have remainder : n % 16 = n := by omega
    rw [quotient, remainder, Nat.toDigits_of_lt_base small, Nat.toDigits_zero]
    simp [List.replicate_succ']
  · rw [Nat.toDigits_of_base_le (by decide) (by omega)]
    simp

theorem hex_four {unit : Nat} (bound : unit < 0x10000) :
    hex 4 unit = [Nat.digitChar (unit / 16 / 16 / 16), Nat.digitChar (unit / 16 / 16 % 16),
      Nat.digitChar (unit / 16 % 16), Nat.digitChar (unit % 16)] := by
  have small : unit / 16 / 16 / 16 < 16 := by omega
  have first : hex 1 (unit / 16 / 16 / 16) = [Nat.digitChar (unit / 16 / 16 / 16)] := by
    simp [hex, Nat.toDigits_of_lt_base small]
  rw [hex_succ, hex_succ, hex_succ, first]
  rfl

theorem hexDigit?_digitChar : ∀ digit < 16, hexDigit? (Nat.digitChar digit) = some digit := by
  decide

theorem unit?_digitChar {unit : Nat} (bound : unit < 0x10000) :
    unit? (Nat.digitChar (unit / 16 / 16 / 16)) (Nat.digitChar (unit / 16 / 16 % 16)) (Nat.digitChar (unit / 16 % 16))
      (Nat.digitChar (unit % 16)) = some unit := by
  have spelled : ofDigits 16 [unit / 16 / 16 / 16, unit / 16 / 16 % 16, unit / 16 % 16, unit % 16] = unit := by
    simp only [ofDigits, List.foldl_cons, List.foldl_nil]
    omega
  simp only [unit?, hexDigit?_digitChar _ (by omega : unit / 16 / 16 / 16 < 16),
    hexDigit?_digitChar _ (by omega : unit / 16 / 16 % 16 < 16),
    hexDigit?_digitChar _ (by omega : unit / 16 % 16 < 16), hexDigit?_digitChar _ (by omega : unit % 16 < 16)]
  exact congrArg some spelled

theorem unitEscape_eq {unit : Nat} (bound : unit < 0x10000) :
    ∃ a b c d, unitEscape unit = ['\\', 'u', a, b, c, d] ∧ unit? a b c d = some unit :=
  ⟨_, _, _, _, by rw [unitEscape, hex_four bound], unit?_digitChar bound⟩

/-- A unit that is not the first half of a pair stands for a character of its own. -/
theorem chars_unit {opened rest : List Char} {unit : Nat} (bound : unit < 0x10000) (single : isHigh unit = false)
    (more : rest ≠ []) : chars opened (unitEscape unit ++ rest) = consTo (ofUnit unit) (chars opened rest) := by
  obtain ⟨a, b, c, d, written, spelled⟩ := unitEscape_eq bound
  rw [written]
  change chars opened ('\\' :: 'u' :: a :: b :: c :: d :: rest) = _
  rw [chars.eq_def]
  simp only [spelled]
  split
  · contradiction
  · exact absurd rfl more
  · rename_i same
    cases same
    simp [single]
  · rename_i same _ _
    cases same
    rfl

theorem chars_pair {opened rest : List Char} {high low : Nat} (first : isHigh high = true) (second : isLow low = true)
    (more : rest ≠ []) :
    chars opened (unitEscape high ++ unitEscape low ++ rest) = consTo (ofPair high low) (chars opened rest) := by
  have boundHigh : high < 0x10000 := by
    simp only [isHigh, Bool.and_eq_true, decide_eq_true_eq] at first
    omega
  have boundLow : low < 0x10000 := by
    simp only [isLow, Bool.and_eq_true, decide_eq_true_eq] at second
    omega
  obtain ⟨a, b, c, d, writtenHigh, spelledHigh⟩ := unitEscape_eq boundHigh
  obtain ⟨e, f, g, h, writtenLow, spelledLow⟩ := unitEscape_eq boundLow
  obtain ⟨i, rest, rfl⟩ := List.exists_cons_of_ne_nil more
  rw [writtenHigh, writtenLow]
  change chars opened ('\\' :: 'u' :: a :: b :: c :: d :: '\\' :: 'u' :: e :: f :: g :: h :: i :: rest) = _
  rw [chars.eq_def]
  simp only [spelledHigh, spelledLow, first, second, if_true]

theorem toNat_lt (c : Char) : c.toNat < 0xD800 ∨ (0xDFFF < c.toNat ∧ c.toNat < 0x110000) :=
  c.valid

theorem chars_codeEscape {opened rest : List Char} (c : Char) (more : rest ≠ []) :
    chars opened (codeEscape c ++ rest) = consTo c (chars opened rest) := by
  have range := toNat_lt c
  unfold codeEscape
  by_cases small : c.toNat < 0x10000
  · have single : isHigh c.toNat = false := by
      simp only [isHigh, Bool.and_eq_false_iff, decide_eq_false_iff_not]
      omega
    have notLow : isLow c.toNat = false := by
      simp only [isLow, Bool.and_eq_false_iff, decide_eq_false_iff_not]
      omega
    simp only [small, if_true]
    rw [chars_unit small single more]
    simp [ofUnit, single, notLow]
  · have first : isHigh (0xD800 + (c.toNat - 0x10000) / 0x400) = true := by
      simp only [isHigh, Bool.and_eq_true, decide_eq_true_eq]
      omega
    have second : isLow (0xDC00 + (c.toNat - 0x10000) % 0x400) = true := by
      simp only [isLow, Bool.and_eq_true, decide_eq_true_eq]
      omega
    have joined : 0x10000 + (0xD800 + (c.toNat - 0x10000) / 0x400 - 0xD800) * 0x400 +
        (0xDC00 + (c.toNat - 0x10000) % 0x400 - 0xDC00) = c.toNat := by
      omega
    simp only [small, if_false]
    rw [chars_pair first second more, ofPair, joined, Char.ofNat_toNat]

theorem chars_plain {opened rest : List Char} {c : Char} (notMark : c ≠ '\x22') (notBackslash : c ≠ '\\')
    (notControl : 0x20 ≤ c.toNat) : chars opened (c :: rest) = consTo c (chars opened rest) := by
  rw [chars.eq_def]
  split <;> simp_all

theorem escaped_cases (ascii : Bool) (c : Char) :
    (∃ letter, escaped ascii c = ['\\', letter] ∧ simpleEscape? letter = some c) ∨ escaped ascii c = codeEscape c ∨
      (escaped ascii c = [c] ∧ c ≠ '\x22' ∧ c ≠ '\\' ∧ 0x20 ≤ c.toNat) := by
  unfold escaped
  split_ifs with mark backslash newline back tab backspace feed byCode
  · exact .inl ⟨_, rfl, by rw [eq_of_beq mark]; rfl⟩
  · exact .inl ⟨_, rfl, by rw [eq_of_beq backslash]; rfl⟩
  · exact .inl ⟨_, rfl, by rw [eq_of_beq newline]; rfl⟩
  · exact .inl ⟨_, rfl, by rw [eq_of_beq back]; rfl⟩
  · exact .inl ⟨_, rfl, by rw [eq_of_beq tab]; rfl⟩
  · exact .inl ⟨_, rfl, by rw [eq_of_beq backspace]; rfl⟩
  · exact .inl ⟨_, rfl, by rw [eq_of_beq feed]; rfl⟩
  · exact .inr (.inl rfl)
  · have notControl : 0x20 ≤ c.toNat := by
      simp only [Bool.or_eq_true, decide_eq_true_eq, not_or] at byCode
      omega
    exact .inr (.inr ⟨rfl, by simpa using mark, by simpa using backslash, notControl⟩)

theorem chars_letter {opened rest : List Char} {letter c : Char} (stands : simpleEscape? letter = some c) :
    chars opened ('\\' :: letter :: rest) = consTo c (chars opened rest) := by
  unfold simpleEscape? at stands
  split at stands <;> cases stands <;> rfl

theorem chars_escaped {opened rest : List Char} (ascii : Bool) (c : Char) (more : rest ≠ []) :
    chars opened (escaped ascii c ++ rest) = consTo c (chars opened rest) := by
  rcases escaped_cases ascii c with ⟨letter, written, stands⟩ | written | ⟨written, notMark, notBackslash, notControl⟩
  · rw [written]
    exact chars_letter stands
  · rw [written]
    exact chars_codeEscape c more
  · rw [written]
    exact chars_plain notMark notBackslash notControl

theorem chars_append {opened rest : List Char} (ascii : Bool) (text : List Char) (more : rest ≠ []) :
    chars opened (text.flatMap (escaped ascii) ++ rest) =
      (chars opened rest).map fun found => (text ++ found.1, found.2) := by
  induction text with
  | nil =>
    change chars opened rest = _
    cases chars opened rest <;> rfl
  | cons c text ih =>
    have goesOn : text.flatMap (escaped ascii) ++ rest ≠ [] := List.append_ne_nil_of_right_ne_nil _ more
    rw [List.flatMap_cons, List.append_assoc, chars_escaped ascii c goesOn, ih]
    cases chars opened rest <;> rfl

theorem chars_string (opened : List Char) (ascii : Bool) (text rest : List Char) :
    chars opened (text.flatMap (escaped ascii) ++ '\x22' :: rest) = .ok (text, rest) := by
  rw [chars_append ascii text (List.cons_ne_nil _ _)]
  change Except.ok (text ++ [], rest) = .ok (text, rest)
  rw [List.append_nil]

theorem chars_cut (opened : List Char) (ascii : Bool) (text : List Char) :
    chars opened (text.flatMap (escaped ascii) ++ [']']) = refuse .unterminated opened := by
  rw [chars_append ascii text (List.cons_ne_nil _ _)]
  rfl

end PluginAudit.Json
