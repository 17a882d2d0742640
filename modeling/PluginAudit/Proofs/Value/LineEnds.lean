import Mathlib
import PluginAudit.Files.Disk
import PluginAudit.Json.Printer
import PluginAudit.Proofs.Json.Integers
import PluginAudit.Proofs.Json.Strings
import PluginAudit.Yaml.Printer

namespace PluginAudit

theorem Disk.plainLines_eq {text : List Char} (free : '\r' ∉ text) : Disk.plainLines text = text := by
  induction text with
  | nil => rfl
  | cons c rest ih =>
    rw [List.mem_cons, not_or] at free
    have other : c ≠ '\r' := Ne.symm free.1
    rw [Disk.plainLines, ih free.2]
    · rintro _ rfl
      exact absurd rfl other
    · exact other

theorem Disk.plainText_eq {text : String} (free : '\r' ∉ text.toList) : Disk.plainText text = text := by
  rw [Disk.plainText, Disk.plainLines_eq free, String.ofList_toList]

section Numbers

open Text

theorem exists_of_mem_toDigits {base : Nat} (valid : 1 < base) {n : Nat} {c : Char} (member : c ∈ Nat.toDigits base n) :
    ∃ digit < base, c = Nat.digitChar digit := by
  induction n using Nat.strong_induction_on with
  | _ n ih =>
    by_cases small : n < base
    · rw [Nat.toDigits_of_lt_base small, List.mem_singleton] at member
      exact ⟨n, small, member⟩
    · rw [Nat.toDigits_of_base_le valid (by omega), List.mem_append, List.mem_singleton] at member
      rcases member with front | last
      · exact ih (n / base) (Nat.div_lt_self (by omega) valid) front
      · exact ⟨n % base, Nat.mod_lt n (by omega), last⟩

theorem return_not_mem_toDigits {base : Nat} (valid : 1 < base) (n : Nat) : '\r' ∉ Nat.toDigits base n := by
  intro member
  obtain ⟨digit, -, same⟩ := exists_of_mem_toDigits valid member
  exact Nat.digitChar_ne '\r' rfl same.symm

@[simp] theorem return_not_mem_hex (width n : Nat) : '\r' ∉ hex width n := by
  simp [hex, return_not_mem_toDigits]

@[simp] theorem return_not_mem_decimal (width n : Nat) : '\r' ∉ decimal width n := by
  simp [decimal, return_not_mem_toDigits]

@[simp] theorem return_not_mem_hexCapital (width n : Nat) : '\r' ∉ hexCapital width n := by
  have digits : ∀ digit < 16, (Nat.digitChar digit).toUpper ≠ '\r' := by decide
  rw [hexCapital, List.mem_map]
  rintro ⟨c, member, upper⟩
  rw [hex, List.mem_append] at member
  rcases member with zero | written
  · rw [List.eq_of_mem_replicate zero] at upper
    exact absurd upper (by decide)
  · obtain ⟨digit, small, rfl⟩ := exists_of_mem_toDigits (by decide) written
    exact digits digit small upper

@[simp] theorem return_not_mem_int (n : Int) : '\r' ∉ (toString n).toList := by
  have written := Json.toList_int n
  rw [Json.scalarText] at written
  rw [written]
  split <;> simp [return_not_mem_toDigits]

theorem Decimal.return_not_mem_render {style : NumberStyle} (lone : '\r' ∉ style.loneDigit.toList) (d : Decimal) :
    '\r' ∉ d.render style := by
  have digits : '\r' ∉ d.digitChars := return_not_mem_toDigits (by decide) d.digits
  have taken (n : Nat) : '\r' ∉ d.digitChars.take n := fun member => digits (List.mem_of_mem_take member)
  have dropped (n : Nat) : '\r' ∉ d.digitChars.drop n := fun member => digits (List.mem_of_mem_drop member)
  have behind : '\r' ∉ d.digitChars.tail := fun member => digits (List.mem_of_mem_tail member)
  unfold render
  dsimp only
  split
  · unfold positional
    split
    · simp [digits]
    · dsimp only
      split <;> simp [taken, dropped]
  · unfold scientific
    dsimp only
    split <;> split <;> simp [taken, behind, lone]

theorem Binary64.return_not_mem_render {style : NumberStyle} (lone : '\r' ∉ style.loneDigit.toList)
    (infinity : '\r' ∉ style.infinity.toList) (notNumber : '\r' ∉ style.notNumber.toList) (x : Binary64) :
    '\r' ∉ (x.render style).toList := by
  cases x with
  | nan => exact notNumber
  | infinite negative => cases negative <;> simp [render, infinity]
  | finite negative m e =>
    have digits := (Decimal.shortest m e).return_not_mem_render lone
    cases negative <;> by_cases zero : m = 0 <;> simp [render, zero, digits]

@[simp] theorem Day.return_not_mem_display (d : Day) : '\r' ∉ d.display.toList := by
  simp [display]

@[simp] theorem Moment.return_not_mem_display (m : Moment) : '\r' ∉ m.display.toList := by
  have micro : '\r' ∉ (if m.micro = 0 then [] else '.' :: decimal 6 m.micro) := by
    split <;> simp
  have offset : '\r' ∉ (m.offset.map offsetText).getD [] := by
    cases m.offset with
    | none => simp
    | some minutes =>
      simp only [Option.map_some, Option.getD_some, offsetText]
      split <;> simp
  simp [display, micro, offset]

end Numbers

namespace Json

theorem return_not_mem_codeEscape (c : Char) : '\r' ∉ codeEscape c := by
  have unit (n : Nat) : '\r' ∉ unitEscape n := by simp [unitEscape]
  unfold codeEscape
  by_cases small : c.toNat < 0x10000
  · simpa only [small, if_true] using unit _
  · simp only [small, if_false, List.mem_append, not_or]
    exact ⟨unit _, unit _⟩

theorem return_not_mem_escaped (ascii : Bool) (c : Char) : '\r' ∉ escaped ascii c := by
  rcases escaped_cases ascii c with ⟨letter, written, stands⟩ | written | ⟨written, -, -, visible⟩
  · have other : '\r' ≠ letter := by
      rintro rfl
      cases stands
    simp [written, other]
  · rw [written]
    exact return_not_mem_codeEscape c
  · have other : '\r' ≠ c := by
      rintro rfl
      exact absurd visible (by decide)
    simpa [written] using other

theorem return_not_mem_string (ascii : Bool) (text : List Char) : '\r' ∉ string ascii text := by
  simp [string, return_not_mem_escaped]

theorem return_not_mem_scalarText (v : Value) : '\r' ∉ (scalarText v).toList := by
  unfold scalarText
  split
  · simp
  · simp
  · simp
  · exact return_not_mem_int _
  · exact Binary64.return_not_mem_render (by decide) (by decide) (by decide) _
  · simp

theorem return_not_mem_edge (style : Style) (depth : Nat) : '\r' ∉ style.edge depth := by
  unfold Style.edge
  split <;> simp

theorem not_mem_intercalate {c : Char} {between : List Char} {parts : List (List Char)} (freeBetween : c ∉ between)
    (free : ∀ part ∈ parts, c ∉ part) : c ∉ between.intercalate parts := by
  induction parts with
  | nil => simp
  | cons part parts ih =>
    obtain ⟨head, tail⟩ := List.forall_mem_cons.mp free
    cases parts with
    | nil => simpa using head
    | cons next parts =>
      rw [List.intercalate_cons_cons]
      simp [head, freeBetween, ih tail]

theorem return_not_mem_enclose {style : Style} {depth : Nat} {opening closing : Char} {parts : List (List Char)}
    (opened : '\r' ≠ opening) (closed : '\r' ≠ closing) (free : ∀ part ∈ parts, '\r' ∉ part) :
    '\r' ∉ style.enclose depth opening closing parts := by
  have between : '\r' ∉ style.between (depth + 1) := by
    unfold Style.between
    split <;> simp [return_not_mem_edge]
  have joined := not_mem_intercalate between free
  unfold Style.enclose
  split <;> simp [opened, closed, joined, return_not_mem_edge]

mutual

theorem return_not_mem_write (style : Style) (depth : Nat) : ∀ v, '\r' ∉ write style depth v
  | .text s => return_not_mem_string style.ascii s.toList
  | .list items => return_not_mem_enclose (by decide) (by decide) (return_not_mem_writeItems style (depth + 1) items)
  | .map entries =>
    return_not_mem_enclose (by decide) (by decide) (return_not_mem_writeEntries style (depth + 1) entries)
  | .null => return_not_mem_scalarText .null
  | .bool b => return_not_mem_scalarText (.bool b)
  | .int n => return_not_mem_scalarText (.int n)
  | .float x => return_not_mem_scalarText (.float x)
  | .pair first second => by
    have head := return_not_mem_write style (depth + 1) first
    have tail := return_not_mem_write style (depth + 1) second
    exact return_not_mem_enclose (by decide) (by decide) (by simp [head, tail])
  | .shared _ v => return_not_mem_write style depth v
  | .day _ => List.not_mem_nil
  | .moment _ => List.not_mem_nil
  | .bytes _ => List.not_mem_nil
  | .set _ => List.not_mem_nil
  | .around _ => List.not_mem_nil

theorem return_not_mem_writeItems (style : Style) (depth : Nat) :
    ∀ items, ∀ part ∈ writeItems style depth items, '\r' ∉ part
  | [] => List.forall_mem_nil _
  | item :: rest => List.forall_mem_cons.mpr
      ⟨return_not_mem_write style depth item, return_not_mem_writeItems style depth rest⟩

theorem return_not_mem_writeEntries (style : Style) (depth : Nat) :
    ∀ entries, ∀ part ∈ writeEntries style depth entries, '\r' ∉ part
  | [] => List.forall_mem_nil _
  | (key, item) :: rest => by
    have name := return_not_mem_string style.ascii (keyText key).toList
    have value := return_not_mem_write style depth item
    exact List.forall_mem_cons.mpr ⟨by simp [name, value], return_not_mem_writeEntries style depth rest⟩

end

theorem return_not_mem_print (style : Style) (v : Value) : '\r' ∉ (print style v).toList := by
  rw [print, String.toList_ofList]
  exact return_not_mem_write style 0 v

end Json

namespace Yaml

open Text

theorem return_not_mem_writeRun {escape : Char → List Char} (escapes : ∀ c, c ≠ '\r' → '\r' ∉ escape c)
    (indent : Nat) (inner : Bool) {pen : Pen} {run : List Char} (free : '\r' ∉ pen.written) (freeRun : '\r' ∉ run) :
    '\r' ∉ (writeRun indent inner escape pen run).written := by
  unfold writeRun
  split
  · split <;> simp [Pen.newLine, Pen.write, free]
  · simp_all
  · have escaped : '\r' ∉ run.flatMap escape := by
      rw [List.mem_flatMap]
      rintro ⟨c, member, inside⟩
      exact escapes c (fun same => freeRun (same ▸ member)) inside
    simp [Pen.write, free, escaped]

theorem return_not_mem_writeRuns {escape : Char → List Char} (escapes : ∀ c, c ≠ '\r' → '\r' ∉ escape c)
    (indent : Nat) {pen : Pen} {text : List Char} (free : '\r' ∉ pen.written) (freeText : '\r' ∉ text) :
    '\r' ∉ (writeRuns indent escape pen text).written := by
  have freeRun : ∀ run ∈ runs text, '\r' ∉ run := by
    intro run member inside
    have within := List.mem_flatten_of_mem member inside
    rw [runs, List.flatten_splitBy] at within
    exact freeText within
  refine List.foldlRecOn _ _ (motive := fun pen : Pen => '\r' ∉ pen.written) free ?_
  intro pen free entry member
  exact return_not_mem_writeRun escapes indent _ free (freeRun _ (List.fst_mem_of_mem_zipIdx member))

theorem return_not_mem_plainScalar (indent column : Nat) {text : List Char} (free : '\r' ∉ text) :
    '\r' ∉ plainScalar indent column text :=
  return_not_mem_writeRuns (by simp [eq_comm]) indent (by simp) free

theorem return_not_mem_singleQuoted (indent column : Nat) {text : List Char} (free : '\r' ∉ text) :
    '\r' ∉ singleQuoted indent column text := by
  have doubled : ∀ c : Char, c ≠ '\r' → '\r' ∉ (if c == '\x27' then [c, c] else [c]) := by
    intro c other
    split <;> simp [Ne.symm other]
  have opened : '\r' ∉ (Pen.mk ['\x27'] (column + 1)).written := by simp
  simpa [singleQuoted] using return_not_mem_writeRuns doubled indent opened free

theorem ne_return_of_isSimple {c : Char} (simple : isSimple c = true) : '\r' ≠ c := by
  rintro rfl
  exact absurd simple (by decide)

theorem return_not_mem_doubleEscape (c : Char) : '\r' ∉ doubleEscape c := by
  have letters : ∀ entry ∈ letters, entry.2 ≠ '\r' := by decide
  unfold doubleEscape
  split
  · rename_i simple
    simpa using ne_return_of_isSimple simple
  · split
    · rename_i letter found
      obtain ⟨before, behind, all, -⟩ := List.lookup_eq_some_iff.mp found
      have other : '\r' ≠ letter := Ne.symm (letters (c, letter) (by simp [all]))
      simp [other]
    · split
      · simp
      · split <;> simp

theorem return_not_mem_breakDouble (indent : Nat) (next : Option Char) {pen : Pen} (free : '\r' ∉ pen.written) :
    '\r' ∉ (breakDouble indent next pen).written := by
  unfold breakDouble
  dsimp only
  split <;> simp [Pen.write, Pen.newLine, free]

theorem return_not_mem_writeDouble (indent place : Nat) (escaped : Bool) {pen : Pen} (text : List Char)
    (free : '\r' ∉ pen.written) : '\r' ∉ (writeDouble indent place escaped pen text).written := by
  induction text generalizing place escaped pen with
  | nil => exact free
  | cons c rest ih =>
    rw [writeDouble]
    dsimp only
    split
    · rename_i simple
      have other := ne_return_of_isSimple simple
      apply ih
      split
      · simp [Pen.write, return_not_mem_breakDouble, free, other]
      · simp [Pen.write, free, other]
    · have written : '\r' ∉ (pen.write (doubleEscape c)).written := by
        simp [Pen.write, free, return_not_mem_doubleEscape]
      apply ih
      split
      · exact return_not_mem_breakDouble indent _ written
      · exact written

theorem return_not_mem_of_needsDouble {text : List Char} (plain : needsDouble text = false) : '\r' ∉ text := by
  intro member
  unfold needsDouble at plain
  simp only [Bool.or_eq_false_iff, List.any_eq_false] at plain
  exact plain.1.1 '\r' member (by decide)

theorem return_not_mem_textScalar (indent column : Nat) (text : List Char) :
    '\r' ∉ textScalar indent column text := by
  unfold textScalar
  split
  · have opened : '\r' ∉ (Pen.mk ['\x22'] (column + 1)).written := by simp
    simpa [doubleQuoted] using return_not_mem_writeDouble indent 0 false text opened
  · rename_i single
    have free := return_not_mem_of_needsDouble (Bool.eq_false_iff.mpr single)
    split
    · exact return_not_mem_plainScalar indent column free
    · exact return_not_mem_singleQuoted indent column free

theorem ne_return_letter (n : Nat) : '\r' ≠ Base64.letter n := by
  have letters : ∀ n < 62, '\r' ≠ Base64.letter n := by decide
  by_cases small : n < 62
  · exact letters n small
  · have large : ¬ n < 26 ∧ ¬ n < 52 := by omega
    simp only [Base64.letter, small, large, if_false]
    split <;> decide

theorem return_not_mem_encode (data : List UInt8) : '\r' ∉ Base64.encode data := by
  fun_induction Base64.encode data <;> simp_all [ne_return_letter]

theorem return_not_mem_byteLines (indent : Nat) (data : List UInt8) :
    '\r' ∉ (byteLines data).flatMap fun line => '\n' :: List.replicate indent ' ' ++ line := by
  rw [List.mem_flatMap]
  rintro ⟨line, member, inside⟩
  obtain ⟨n, -, rfl⟩ := List.mem_map.mp member
  simp [return_not_mem_encode] at inside

theorem return_not_mem_scalar (indent column : Nat) (v : Value) : '\r' ∉ scalar indent column v := by
  cases v with
  | null => simp [scalar]
  | bool b => cases b <;> simp [scalar]
  | int n => exact return_not_mem_int n
  | float x => exact Binary64.return_not_mem_render (by decide) (by decide) (by decide) x
  | text s => exact return_not_mem_textScalar indent column s.toList
  | day d => exact d.return_not_mem_display
  | moment m => exact return_not_mem_plainScalar indent column m.return_not_mem_display
  | bytes data =>
    have tag : '\r' ∉ binaryTag := by decide
    cases data with
    | nil =>
      change '\r' ∉ binaryTag ++ ['\x22', '\x22']
      simp [tag]
    | cons b rest =>
      have lines := return_not_mem_byteLines indent (b :: rest)
      change '\r' ∉ binaryTag ++ '|' :: (byteLines (b :: rest)).flatMap fun line => '\n' :: List.replicate indent ' ' ++ line
      simp only [List.mem_append, List.mem_cons, tag, lines, or_false, false_or]
      decide
  | _ => exact List.not_mem_nil

theorem return_not_mem_simpleScalar (v : Value) : '\r' ∉ simpleScalar v := by
  unfold simpleScalar
  split
  · rename_i s
    dsimp only
    split
    · simp [return_not_mem_doubleEscape]
    · rename_i single
      have free := return_not_mem_of_needsDouble (Bool.eq_false_iff.mpr single)
      split
      · exact free
      · have doubled : '\r' ∉ s.toList.flatMap fun c => if c == '\x27' then [c, c] else [c] := by
          rw [List.mem_flatMap]
          rintro ⟨c, member, inside⟩
          have other : '\r' ≠ c := fun same => free (same ▸ member)
          split at inside <;> simp [other] at inside
        simpa using doubled
  · exact Moment.return_not_mem_display _
  · exact return_not_mem_scalar 0 0 _

@[simp] theorem return_not_mem_anchorName (n : Nat) : '\r' ∉ anchorName n := by
  simp [anchorName]

@[simp] theorem return_not_mem_anchorMark (anchor : Option Nat) : '\r' ∉ anchorMark anchor := by
  cases anchor <;> simp [anchorMark]

theorem return_not_mem_inline (indent column : Nat) (tree : Tree) : '\r' ∉ inline indent column tree := by
  cases tree <;> simp [inline, return_not_mem_scalar]

theorem return_not_mem_simpleKey (tree : Tree) : '\r' ∉ simpleKey tree := by
  unfold simpleKey
  split
  · simp [return_not_mem_simpleScalar]
  · exact return_not_mem_inline 0 0 _

theorem return_not_mem_heading (anchor : Option Nat) {tag : List Char} (free : '\r' ∉ tag) :
    '\r' ∉ heading anchor tag := by
  cases anchor <;> simp [heading, free]

theorem return_not_mem_setTag : '\r' ∉ setTag := by
  decide

theorem return_not_mem_single (indent column : Nat) (tree : Tree) : '\r' ∉ ' ' :: inline indent column tree ++ ['\n'] := by
  simp [return_not_mem_inline]

theorem return_not_mem_block {anchor : Option Nat} {tag lines : List Char} (freeTag : '\r' ∉ tag) (free : '\r' ∉ lines) :
    '\r' ∉ heading anchor tag ++ '\n' :: lines := by
  simp [return_not_mem_heading anchor freeTag, free]

theorem return_not_mem_indented {lines : List Char} (free : '\r' ∉ lines) (n : Nat) : '\r' ∉ ' ' :: lines.drop n := by
  simpa using fun member => free (List.mem_of_mem_drop member)

mutual

theorem return_not_mem_writeItems (indent : Nat) : ∀ items, '\r' ∉ writeItems indent items
  | [] => List.not_mem_nil
  | item :: rest => by
    have head := return_not_mem_writeBehindMark indent (indent + 2) item
    have tail := return_not_mem_writeItems indent rest
    simp [writeItems, head, tail]

theorem return_not_mem_writePairs (indent : Nat) : ∀ pairs, '\r' ∉ writePairs indent pairs
  | [] => List.not_mem_nil
  | (key, item) :: rest => by
    have name := return_not_mem_simpleKey key
    have long := return_not_mem_inline (indent + 2) (indent + 2) key
    have behindName := return_not_mem_writeBehindKey indent (indent + (simpleKey key).length + 2) item
    have behindMark := return_not_mem_writeBehindMark indent indent item
    have tail := return_not_mem_writePairs indent rest
    rw [writePairs]
    split
    · simp [name, behindName, tail]
    · simp [long, behindMark, tail]

theorem return_not_mem_writeMembers (indent : Nat) : ∀ items, '\r' ∉ writeMembers indent items
  | [] => List.not_mem_nil
  | item :: rest => by
    have name := return_not_mem_simpleKey item
    have long := return_not_mem_inline (indent + 2) (indent + 2) item
    have tail := return_not_mem_writeMembers indent rest
    rw [writeMembers]
    split
    · simp [name, tail]
    · simp [long, tail]

theorem return_not_mem_writeBehindKey (indent column : Nat) : ∀ tree, '\r' ∉ writeBehindKey indent column tree
  | .sequence _ (item :: rest) => return_not_mem_block List.not_mem_nil (return_not_mem_writeItems indent (item :: rest))
  | .mapping _ (pair :: rest) =>
    return_not_mem_block List.not_mem_nil (return_not_mem_writePairs (indent + 2) (pair :: rest))
  | .members _ (item :: rest) =>
    return_not_mem_block return_not_mem_setTag (return_not_mem_writeMembers (indent + 2) (item :: rest))
  | .leaf anchor v => return_not_mem_single (indent + 2) column (.leaf anchor v)
  | .again n => return_not_mem_single (indent + 2) column (.again n)
  | .sequence anchor [] => return_not_mem_single (indent + 2) column (.sequence anchor [])
  | .mapping anchor [] => return_not_mem_single (indent + 2) column (.mapping anchor [])
  | .members anchor [] => return_not_mem_single (indent + 2) column (.members anchor [])

theorem return_not_mem_writeBehindMark (indent lines : Nat) : ∀ tree, '\r' ∉ writeBehindMark indent lines tree
  | .sequence none (item :: rest) =>
    return_not_mem_indented (return_not_mem_writeItems (indent + 2) (item :: rest)) (indent + 2)
  | .mapping none (pair :: rest) =>
    return_not_mem_indented (return_not_mem_writePairs (indent + 2) (pair :: rest)) (indent + 2)
  | .sequence (some _) (item :: rest) =>
    return_not_mem_block List.not_mem_nil (return_not_mem_writeItems lines (item :: rest))
  | .mapping (some _) (pair :: rest) =>
    return_not_mem_block List.not_mem_nil (return_not_mem_writePairs (indent + 2) (pair :: rest))
  | .members _ (item :: rest) =>
    return_not_mem_block return_not_mem_setTag (return_not_mem_writeMembers (indent + 2) (item :: rest))
  | .leaf anchor v => return_not_mem_single (indent + 2) (indent + 2) (.leaf anchor v)
  | .again n => return_not_mem_single (indent + 2) (indent + 2) (.again n)
  | .sequence none [] => return_not_mem_single (indent + 2) (indent + 2) (.sequence none [])
  | .sequence (some n) [] => return_not_mem_single (indent + 2) (indent + 2) (.sequence (some n) [])
  | .mapping none [] => return_not_mem_single (indent + 2) (indent + 2) (.mapping none [])
  | .mapping (some n) [] => return_not_mem_single (indent + 2) (indent + 2) (.mapping (some n) [])
  | .members anchor [] => return_not_mem_single (indent + 2) (indent + 2) (.members anchor [])

end

theorem return_not_mem_print (pairs : List (Value × Value)) : '\r' ∉ (print pairs).toList := by
  unfold print
  split
  · rw [String.toList_ofList]
    exact return_not_mem_writePairs 0 _
  · decide

end Yaml

end PluginAudit
