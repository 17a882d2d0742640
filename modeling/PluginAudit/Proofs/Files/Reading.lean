import Mathlib
import PluginAudit.Files.Disk
import PluginAudit.Proofs.Effect

namespace PluginAudit

namespace Utf8

def second (n : Nat) : Nat × Nat :=
  if n = 0xE0 then (0xA0, 0xBF)
  else if n = 0xED then (0x80, 0x9F)
  else if n = 0xF0 then (0x90, 0xBF)
  else if n = 0xF4 then (0x80, 0x8F)
  else (0x80, 0xBF)

theorem within_second_iff {lead n : Nat} :
    (second lead).1 ≤ n ∧ n ≤ (second lead).2 ↔
      0x80 ≤ n ∧ n ≤ 0xBF ∧ (lead = 0xE0 → 0xA0 ≤ n) ∧ (lead = 0xED → n ≤ 0x9F) ∧ (lead = 0xF0 → 0x90 ≤ n) ∧
        (lead = 0xF4 → n ≤ 0x8F) := by
  unfold second
  split_ifs <;> simp only <;> omega

theorem lead?_eq (b : UInt8) :
    lead? b =
      if b.toNat < 0x80 then some (b.toNat, [])
      else if b.toNat < 0xC2 then none
      else if b.toNat < 0xE0 then some (b.toNat - 0xC0, [(0x80, 0xBF)])
      else if b.toNat < 0xF0 then some (b.toNat - 0xE0, [second b.toNat, (0x80, 0xBF)])
      else if b.toNat < 0xF5 then some (b.toNat - 0xF0, [second b.toNat, (0x80, 0xBF), (0x80, 0xBF)])
      else none := by
  unfold lead? second
  grind

section

variable {position code n : Nat} {taken bytes : List UInt8}

theorem follow_nil : follow position code taken [] bytes = .ok n ↔ code = n := by
  rw [follow, Except.ok.injEq]

theorem follow_cons {range : Nat × Nat} {ranges : List (Nat × Nat)} :
    follow position code taken (range :: ranges) bytes = .ok n ↔
      ∃ b rest, bytes = b :: rest ∧ (range.1 ≤ b.toNat ∧ b.toNat ≤ range.2) ∧
        follow position (code * 0x40 + (b.toNat - 0x80)) (b :: taken) ranges rest = .ok n := by
  cases bytes with
  | nil => simp [follow]
  | cons b rest =>
    rw [follow]
    by_cases within : range.1 ≤ b.toNat ∧ b.toNat ≤ range.2
    · simp [within]
    · have outside : (decide (range.1 ≤ b.toNat) && decide (b.toNat ≤ range.2)) = false := by simpa using within
      simp [outside, within]

end

theorem eq_ofNat {b : UInt8} {n : Nat} (same : n = b.toNat) : UInt8.ofNat n = b := by
  rw [same, UInt8.ofNat_toNat]

theorem encodeChar_ofNat {n : Nat} (valid : n.isValidChar) :
    String.utf8EncodeChar (Char.ofNat n) =
      if n ≤ 0x7F then [.ofNat n]
      else if n ≤ 0x7FF then [.ofNat (n / 64 % 0x20 + 0xC0), .ofNat (n % 0x40 + 0x80)]
      else if n ≤ 0xFFFF then
        [.ofNat (n / 4096 % 0x10 + 0xE0), .ofNat (n / 64 % 0x40 + 0x80), .ofNat (n % 0x40 + 0x80)]
      else
        [.ofNat (n / 262144 % 0x08 + 0xF0), .ofNat (n / 4096 % 0x40 + 0x80), .ofNat (n / 64 % 0x40 + 0x80),
          .ofNat (n % 0x40 + 0x80)] := by
  have same : (Char.ofNat n).val.toNat = n := (Char.toNat_ofNat n).trans (if_pos valid)
  unfold String.utf8EncodeChar
  rw [same]

section

variable {b b₂ b₃ b₄ : UInt8} {n : Nat}

theorem encodeChar_one (low : b.toNat < 0x80) : String.utf8EncodeChar (Char.ofNat b.toNat) = [b] := by
  have valid : b.toNat.isValidChar := .inl (by omega)
  rw [encodeChar_ofNat valid, if_pos (by omega), eq_ofNat rfl]

theorem encodeChar_two (low : 0xC2 ≤ b.toNat) (high : b.toNat < 0xE0) (within : 0x80 ≤ b₂.toNat ∧ b₂.toNat ≤ 0xBF)
    (isCode : (b.toNat - 0xC0) * 0x40 + (b₂.toNat - 0x80) = n) : String.utf8EncodeChar (Char.ofNat n) = [b, b₂] := by
  have valid : n.isValidChar := .inl (by omega)
  have first : UInt8.ofNat (n / 64 % 0x20 + 0xC0) = b := eq_ofNat (by omega)
  have last : UInt8.ofNat (n % 0x40 + 0x80) = b₂ := eq_ofNat (by omega)
  rw [encodeChar_ofNat valid, if_neg (by omega), if_pos (by omega), first, last]

theorem encodeChar_three (low : 0xE0 ≤ b.toNat) (high : b.toNat < 0xF0)
    (within₂ : (second b.toNat).1 ≤ b₂.toNat ∧ b₂.toNat ≤ (second b.toNat).2)
    (within₃ : 0x80 ≤ b₃.toNat ∧ b₃.toNat ≤ 0xBF)
    (isCode : ((b.toNat - 0xE0) * 0x40 + (b₂.toNat - 0x80)) * 0x40 + (b₃.toNat - 0x80) = n) :
    String.utf8EncodeChar (Char.ofNat n) = [b, b₂, b₃] := by
  rw [within_second_iff] at within₂
  have valid : n.isValidChar := by
    unfold Nat.isValidChar
    omega
  have first : UInt8.ofNat (n / 4096 % 0x10 + 0xE0) = b := eq_ofNat (by omega)
  have middle : UInt8.ofNat (n / 64 % 0x40 + 0x80) = b₂ := eq_ofNat (by omega)
  have last : UInt8.ofNat (n % 0x40 + 0x80) = b₃ := eq_ofNat (by omega)
  rw [encodeChar_ofNat valid, if_neg (by omega), if_neg (by omega), if_pos (by omega), first, middle, last]

theorem encodeChar_four (low : 0xF0 ≤ b.toNat) (high : b.toNat < 0xF5)
    (within₂ : (second b.toNat).1 ≤ b₂.toNat ∧ b₂.toNat ≤ (second b.toNat).2)
    (within₃ : 0x80 ≤ b₃.toNat ∧ b₃.toNat ≤ 0xBF) (within₄ : 0x80 ≤ b₄.toNat ∧ b₄.toNat ≤ 0xBF)
    (isCode : (((b.toNat - 0xF0) * 0x40 + (b₂.toNat - 0x80)) * 0x40 + (b₃.toNat - 0x80)) * 0x40 + (b₄.toNat - 0x80) = n) :
    String.utf8EncodeChar (Char.ofNat n) = [b, b₂, b₃, b₄] := by
  rw [within_second_iff] at within₂
  have valid : n.isValidChar := .inr (by omega)
  have first : UInt8.ofNat (n / 262144 % 0x08 + 0xF0) = b := eq_ofNat (by omega)
  have middle₂ : UInt8.ofNat (n / 4096 % 0x40 + 0x80) = b₂ := eq_ofNat (by omega)
  have middle₃ : UInt8.ofNat (n / 64 % 0x40 + 0x80) = b₃ := eq_ofNat (by omega)
  have last : UInt8.ofNat (n % 0x40 + 0x80) = b₄ := eq_ofNat (by omega)
  rw [encodeChar_ofNat valid, if_neg (by omega), if_neg (by omega), if_neg (by omega), first, middle₂, middle₃, last]

end

theorem cons_of_follow {b : UInt8} {bytes : List UInt8} {position code n : Nat} {ranges : List (Nat × Nat)}
    (led : lead? b = some (code, ranges)) (followed : follow position code [b] ranges bytes = .ok n) :
    b :: bytes = String.utf8EncodeChar (Char.ofNat n) ++ bytes.drop ranges.length := by
  rw [lead?_eq] at led
  split_ifs at led with one none two three four <;> obtain ⟨rfl, rfl⟩ := Prod.mk.inj (Option.some.inj led) <;>
    simp only [follow_cons, follow_nil] at followed
  · rw [← followed, encodeChar_one one]
    rfl
  · obtain ⟨b₂, rest, rfl, within, isCode⟩ := followed
    rw [encodeChar_two (by omega) two within isCode]
    rfl
  · obtain ⟨b₂, _, rfl, within₂, b₃, rest, rfl, within₃, isCode⟩ := followed
    rw [encodeChar_three (by omega) three within₂ within₃ isCode]
    rfl
  · obtain ⟨b₂, _, rfl, within₂, b₃, _, rfl, within₃, b₄, rest, rfl, within₄, isCode⟩ := followed
    rw [encodeChar_four (by omega) four within₂ within₃ within₄ isCode]
    rfl

/-- Bytes that are taken for the character of a code, whatever comes behind them. -/
def Taken (encoded : List UInt8) (n : Nat) : Prop :=
  ∃ b bytes code ranges, encoded = b :: bytes ∧ lead? b = some (code, ranges) ∧ ranges.length = bytes.length ∧
    ∀ position rest, follow position code [b] ranges (bytes ++ rest) = .ok n

theorem toNat_byte {n : Nat} (small : n < 256) : (UInt8.ofNat n).toNat = n :=
  UInt8.toNat_ofNat_of_lt' small

section

variable {n : Nat}

theorem taken_one (high : n ≤ 0x7F) : Taken [.ofNat n] n := by
  have first : (UInt8.ofNat n).toNat = n := toNat_byte (by omega)
  refine ⟨_, _, n, [], rfl, ?_, rfl, fun position rest => follow_nil.mpr rfl⟩
  rw [lead?_eq, first, if_pos (by omega)]

theorem taken_two (low : 0x7F < n) (high : n ≤ 0x7FF) :
    Taken [.ofNat (n / 64 % 0x20 + 0xC0), .ofNat (n % 0x40 + 0x80)] n := by
  have first : (UInt8.ofNat (n / 64 % 0x20 + 0xC0)).toNat = n / 64 + 0xC0 := by
    rw [toNat_byte (by omega)]
    omega
  have last : (UInt8.ofNat (n % 0x40 + 0x80)).toNat = n % 0x40 + 0x80 := toNat_byte (by omega)
  refine ⟨_, _, n / 64, [(0x80, 0xBF)], rfl, ?_, rfl, fun position rest => ?_⟩
  · rw [lead?_eq, first, if_neg (by omega), if_neg (by omega), if_pos (by omega), Nat.add_sub_cancel]
  · refine follow_cons.mpr ⟨_, rest, rfl, ?_, follow_nil.mpr ?_⟩ <;> rw [last] <;> omega

theorem taken_three (low : 0x7FF < n) (high : n ≤ 0xFFFF) (valid : n.isValidChar) :
    Taken [.ofNat (n / 4096 % 0x10 + 0xE0), .ofNat (n / 64 % 0x40 + 0x80), .ofNat (n % 0x40 + 0x80)] n := by
  unfold Nat.isValidChar at valid
  have first : (UInt8.ofNat (n / 4096 % 0x10 + 0xE0)).toNat = n / 4096 + 0xE0 := by
    rw [toNat_byte (by omega)]
    omega
  have middle : (UInt8.ofNat (n / 64 % 0x40 + 0x80)).toNat = n / 64 % 0x40 + 0x80 := toNat_byte (by omega)
  have last : (UInt8.ofNat (n % 0x40 + 0x80)).toNat = n % 0x40 + 0x80 := toNat_byte (by omega)
  refine ⟨_, _, n / 4096, [second (n / 4096 + 0xE0), (0x80, 0xBF)], rfl, ?_, rfl, fun position rest => ?_⟩
  · rw [lead?_eq, first, if_neg (by omega), if_neg (by omega), if_neg (by omega), if_pos (by omega), Nat.add_sub_cancel]
  · refine follow_cons.mpr ⟨_, _, rfl, within_second_iff.mpr ?_, follow_cons.mpr ⟨_, rest, rfl, ?_, follow_nil.mpr ?_⟩⟩
    · rw [middle]
      omega
    · rw [last]
      omega
    · rw [middle, last]
      omega

theorem taken_four (low : 0xFFFF < n) (valid : n.isValidChar) :
    Taken [.ofNat (n / 262144 % 0x08 + 0xF0), .ofNat (n / 4096 % 0x40 + 0x80), .ofNat (n / 64 % 0x40 + 0x80),
      .ofNat (n % 0x40 + 0x80)] n := by
  unfold Nat.isValidChar at valid
  have first : (UInt8.ofNat (n / 262144 % 0x08 + 0xF0)).toNat = n / 262144 + 0xF0 := by
    rw [toNat_byte (by omega)]
    omega
  have middle₂ : (UInt8.ofNat (n / 4096 % 0x40 + 0x80)).toNat = n / 4096 % 0x40 + 0x80 := toNat_byte (by omega)
  have middle₃ : (UInt8.ofNat (n / 64 % 0x40 + 0x80)).toNat = n / 64 % 0x40 + 0x80 := toNat_byte (by omega)
  have last : (UInt8.ofNat (n % 0x40 + 0x80)).toNat = n % 0x40 + 0x80 := toNat_byte (by omega)
  refine ⟨_, _, n / 262144, [second (n / 262144 + 0xF0), (0x80, 0xBF), (0x80, 0xBF)], rfl, ?_, rfl,
    fun position rest => ?_⟩
  · rw [lead?_eq, first, if_neg (by omega), if_neg (by omega), if_neg (by omega), if_neg (by omega), if_pos (by omega),
      Nat.add_sub_cancel]
  · refine follow_cons.mpr ⟨_, _, rfl, within_second_iff.mpr ?_, follow_cons.mpr ⟨_, _, rfl, ?_,
      follow_cons.mpr ⟨_, rest, rfl, ?_, follow_nil.mpr ?_⟩⟩⟩
    · rw [middle₂]
      omega
    · rw [middle₃]
      omega
    · rw [last]
      omega
    · rw [middle₂, middle₃, last]
      omega

end

theorem taken_encodeChar (c : Char) : Taken (String.utf8EncodeChar c) c.toNat := by
  have valid : c.toNat.isValidChar := c.valid
  have encoded := encodeChar_ofNat valid
  rw [Char.ofNat_toNat] at encoded
  rw [encoded]
  split_ifs with one two three
  · exact taken_one one
  · exact taken_two (by omega) two
  · exact taken_three (by omega) three valid
  · exact taken_four (by omega) valid

theorem decodeFrom_pending (position : Nat) (front rest : List UInt8) :
    decodeFrom position front.length (front ++ rest) = decodeFrom (position + front.length) 0 rest := by
  induction front generalizing position with
  | nil => rfl
  | cons b front ih =>
    rw [List.length_cons, List.cons_append, decodeFrom, ih]
    congr 1
    omega

theorem decodeFrom_encodeChar (position : Nat) (c : Char) (rest : List UInt8) :
    decodeFrom position 0 (String.utf8EncodeChar c ++ rest) =
      (decodeFrom (position + (String.utf8EncodeChar c).length) 0 rest).map (c :: ·) := by
  obtain ⟨b, bytes, code, ranges, encoded, led, sameLength, followed⟩ := taken_encodeChar c
  have behind : position + 1 + bytes.length = position + (bytes.length + 1) := by omega
  rw [encoded, List.cons_append, decodeFrom, led]
  dsimp only
  rw [followed]
  dsimp only
  rw [sameLength, decodeFrom_pending, Char.ofNat_toNat, List.length_cons, behind]

theorem decodeFrom_encode (position : Nat) (chars : List Char) :
    decodeFrom position 0 (chars.flatMap String.utf8EncodeChar) = .ok chars := by
  induction chars generalizing position with
  | nil => rfl
  | cons c rest ih =>
    rw [List.flatMap_cons, decodeFrom_encodeChar, ih]
    rfl

theorem encode_of_decodeFrom {position pending : Nat} {bytes : List UInt8} {chars : List Char}
    (decoded : decodeFrom position pending bytes = .ok chars) :
    bytes.drop pending = chars.flatMap String.utf8EncodeChar := by
  fun_induction decodeFrom position pending bytes generalizing chars with
  | case1 =>
    cases decoded
    exact List.drop_nil
  | case2 position pending b bytes ih => exact ih decoded
  | case3 => cases decoded
  | case4 => cases decoded
  | case5 position b bytes code ranges led n followed ih =>
    obtain ⟨rest, behind, rfl⟩ := exists_of_map_ok decoded
    rw [List.drop_zero, cons_of_follow led followed, ih behind, List.flatMap_cons]

theorem decode_eq_ok_iff (bytes : List UInt8) (text : String) :
    decode bytes = .ok text ↔ bytes = text.toList.flatMap String.utf8EncodeChar := by
  constructor
  · intro decoded
    obtain ⟨chars, found, rfl⟩ := exists_of_map_ok decoded
    rw [String.toList_ofList]
    exact encode_of_decodeFrom found
  · rintro rfl
    rw [decode, decodeFrom_encode]
    exact congrArg Except.ok (String.ofList_toList)

theorem not_encoded_of_error {bytes : List UInt8} {fault : Fault} (failed : decode bytes = .error fault)
    (text : String) : bytes ≠ text.toList.flatMap String.utf8EncodeChar := by
  intro encoded
  rw [(decode_eq_ok_iff bytes text).mpr encoded] at failed
  cases failed

end Utf8

namespace Disk

variable {disk : Disk} {path : Path}

theorem proper_of_walk {place rest : List String} {problem : FileProblem}
    (failed : disk.walk place rest = .error problem) : problem.isImproper = false := by
  induction rest generalizing place with
  | nil => cases failed
  | cons part rest ih =>
    rw [walk] at failed
    split at failed
    · split at failed
      · cases failed
        rfl
      · exact ih failed
    · cases failed
      rfl
    · cases failed
      rfl

theorem hasNull_of_locate {problem : FileProblem} (failed : disk.locate path = .error problem)
    (improper : problem.isImproper = true) : path.hasNull = true ∧ problem = .nullCharacter := by
  unfold locate at failed
  split at failed
  · cases failed
    exact ⟨by assumption, rfl⟩
  · split at failed
    · cases failed
      cases improper
    · rw [proper_of_walk failed] at improper
      cases improper

theorem read_of_hasNull (null : path.hasNull = true) (disk : Disk) :
    disk.read path = .error (.file (fault .nullCharacter path)) := by
  simp [read, locate, null]

theorem hasNull_of_read {fault : FileFault} (failed : disk.read path = .error (.file fault))
    (improper : fault.problem.isImproper = true) : path.hasNull = true ∧ fault = Disk.fault .nullCharacter path := by
  unfold read at failed
  split at failed
  · rename_i located
    cases failed
    obtain ⟨null, rfl⟩ := hasNull_of_locate located improper
    exact ⟨null, rfl⟩
  · split at failed
    · cases failed
      cases improper
    · cases failed
      cases improper
    · split at failed
      · cases failed
        cases improper
      · rename_i entry _ _ _
        cases decoded : entryText entry <;> rw [decoded] at failed <;> cases failed

theorem exists_of_undecodable {fault : Utf8.Fault} (failed : disk.read path = .error (.undecodable fault)) :
    ∃ place content, disk.locate path = .ok place ∧ disk.lookUp? place = some (.bytes content) ∧
      place ∉ disk.denied ∧ Utf8.decode content = .error fault := by
  unfold read at failed
  split at failed
  · cases failed
  · rename_i place located
    split at failed
    · cases failed
    · cases failed
    · rename_i entry _ stands
      split at failed
      · cases failed
      · rename_i allowed
        cases entry with
        | text content => cases failed
        | directory => cases failed
        | bytes content =>
          refine ⟨place, content, located, stands, by simpa using allowed, ?_⟩
          rw [entryText] at failed
          cases decoded : Utf8.decode content with
          | ok text =>
            rw [decoded] at failed
            cases failed
          | error first =>
            rw [decoded] at failed
            cases failed
            rfl

theorem read_of_undecodable {place : List String} {content : List UInt8} {fault : Utf8.Fault}
    (located : disk.locate path = .ok place) (stands : disk.lookUp? place = some (.bytes content))
    (allowed : place ∉ disk.denied) (failed : Utf8.decode content = .error fault) :
    disk.read path = .error (.undecodable fault) := by
  have open_ : disk.denied.contains place = false := by simpa using allowed
  simp only [read, located, stands, open_, entryText, failed]
  rfl

end Disk

end PluginAudit
