import Mathlib
import PluginAudit.Project.LoadOrder
import PluginAudit.Proofs.Json.RoundTrip

namespace PluginAudit.LoadOrder

open PluginAudit.Json

variable {limit : Number.Limit}

theorem upToEnd?_cons {c : Char} {rest : List Char} (other : c = ']' → rest.head? ≠ some ';') :
    upToEnd? (c :: rest) = (upToEnd? rest).map (c :: ·) := by
  rw [upToEnd?]
  rintro tail rfl rfl
  exact other rfl rfl

theorem upToEnd?_eq_some {text found : List Char} (ended : upToEnd? text = some found) :
    ∃ before after, text = before ++ ']' :: ';' :: after ∧ found = before ++ [']'] := by
  fun_induction upToEnd? text generalizing found with
  | case1 => cases ended
  | case2 after =>
    cases ended
    exact ⟨[], after, rfl, rfl⟩
  | case3 c rest _ ih =>
    obtain ⟨shorter, endedRest, rfl⟩ := Option.map_eq_some_iff.mp ended
    obtain ⟨before, after, rfl, rfl⟩ := ih endedRest
    exact ⟨c :: before, after, rfl, rfl⟩

/-- No end is found exactly if a bracket and a semicolon stand together nowhere. -/
theorem upToEnd?_eq_none_iff {text : List Char} : upToEnd? text = none ↔ ¬ [']', ';'] <:+: text := by
  constructor
  · rintro none ⟨before, after, rfl⟩
    induction before with
    | nil => cases none
    | cons c before ih =>
      rw [List.cons_append, List.cons_append, upToEnd?_cons, Option.map_eq_none_iff] at none
      · exact ih none
      · rintro rfl semicolon
        obtain ⟨rest, same⟩ := List.head?_eq_some_iff.mp semicolon
        simp only [same] at none
        cases none
  · intro absent
    rw [Option.eq_none_iff_forall_ne_some]
    rintro found ended
    obtain ⟨before, after, rfl, -⟩ := upToEnd?_eq_some ended
    exact absent ⟨before, after, by simp⟩

theorem upToEnd?_append {part : List Char} (free : ']' ∉ part) (more : List Char) :
    upToEnd? (part ++ more) = (upToEnd? more).map (part ++ ·) := by
  induction part with
  | nil => simp
  | cons c part ih =>
    have differs : c ≠ ']' := fun same => free (same ▸ List.mem_cons_self)
    rw [List.cons_append, upToEnd?_cons fun same => absurd same differs,
      ih fun member => free (List.mem_cons_of_mem _ member), Option.map_map]
    rfl

/-- A text in which no end is found, whatever follows, unless a semicolon does. -/
def Passes (part : List Char) : Prop :=
  ∀ more : List Char, more.head? ≠ some ';' → upToEnd? (part ++ more) = (upToEnd? more).map (part ++ ·)

theorem passes_nil : Passes [] := by
  intro more _
  simp

theorem passes_char (c : Char) : Passes [c] := by
  intro more other
  exact upToEnd?_cons fun _ => other

theorem Passes.append {first second : List Char} (passes : Passes first) (passesSecond : Passes second)
    (other : second.head? ≠ some ';') : Passes (first ++ second) := by
  intro more otherMore
  have next : (second ++ more).head? ≠ some ';' := by
    cases second with
    | nil => exact otherMore
    | cons c second => exact other
  rw [List.append_assoc, passes _ next, passesSecond more otherMore, Option.map_map]
  simp [Function.comp_def]

theorem passes_of_not_mem {part : List Char} (free : ']' ∉ part) : Passes part :=
  fun more _ => upToEnd?_append free more

section Strings

theorem escaped_bracket (ascii : Bool) : escaped ascii ']' = [']'] := by
  cases ascii <;> rfl

theorem not_mem_unitEscape {unit : Nat} (bound : unit < 0x10000) : ']' ∉ unitEscape unit := by
  have digit : ∀ n : Nat, ']' ≠ n.digitChar := fun n => (Nat.digitChar_ne ']' rfl).symm
  simp [unitEscape, hex_four bound, digit]

theorem not_mem_codeEscape (c : Char) : ']' ∉ codeEscape c := by
  have range := toNat_lt c
  unfold codeEscape
  by_cases small : c.toNat < 0x10000
  · simpa only [small, if_true] using not_mem_unitEscape small
  · simp only [small, if_false, List.mem_append, not_or]
    exact ⟨not_mem_unitEscape (by omega), not_mem_unitEscape (by omega)⟩

theorem head?_codeEscape (c : Char) : (codeEscape c).head? = some '\\' := by
  simp only [codeEscape]
  split <;> rfl

theorem escaped_ne_nil (ascii : Bool) (c : Char) : escaped ascii c ≠ [] := by
  rcases escaped_cases ascii c with ⟨letter, written, -⟩ | written | ⟨written, -⟩
  · simp [written]
  · intro empty
    have first := head?_codeEscape c
    rw [← written, empty] at first
    cases first
  · simp [written]

theorem not_mem_escaped (ascii : Bool) {c : Char} (other : c ≠ ']') : ']' ∉ escaped ascii c := by
  rcases escaped_cases ascii c with ⟨letter, written, stands⟩ | written | ⟨written, -⟩
  · rw [written]
    rintro (_ | ⟨_, _ | ⟨_, ⟨⟩⟩⟩)
    cases stands
  · rw [written]
    exact not_mem_codeEscape c
  · rw [written]
    simpa using other.symm

/-- A semicolon is written as it is, and nothing else that is written starts with one. -/
theorem head?_escaped (ascii : Bool) (c : Char) : (escaped ascii c).head? = some ';' ↔ c = ';' := by
  constructor
  · intro first
    rcases escaped_cases ascii c with ⟨letter, written, -⟩ | written | ⟨written, -⟩
    · rw [written] at first
      cases first
    · rw [written, head?_codeEscape] at first
      cases first
    · rw [written] at first
      exact Option.some.inj first
  · rintro rfl
    cases ascii <;> rfl

theorem upToEnd?_escaped {ascii : Bool} {c : Char} {rest : List Char} (other : c = ']' → rest.head? ≠ some ';') :
    upToEnd? (escaped ascii c ++ rest) = (upToEnd? rest).map (escaped ascii c ++ ·) := by
  by_cases bracket : c = ']'
  · subst bracket
    rw [escaped_bracket]
    exact passes_char ']' rest (other rfl)
  · exact upToEnd?_append (not_mem_escaped ascii bracket) rest

/-- Inside a string, the end is found where it is found in the text of the string. -/
theorem upToEnd?_chars (ascii : Bool) (text more : List Char) :
    upToEnd? (text.flatMap (escaped ascii) ++ '\x22' :: more) =
      ((upToEnd? text).map (·.flatMap (escaped ascii))).or
        ((upToEnd? more).map (text.flatMap (escaped ascii) ++ '\x22' :: ·)) := by
  fun_induction upToEnd? text with
  | case1 => exact upToEnd?_cons fun same => absurd same (by decide)
  | case2 after =>
    cases ascii <;> rfl
  | case3 c rest notEnd ih =>
    have other : c = ']' → (rest.flatMap (escaped ascii) ++ '\x22' :: more).head? ≠ some ';' := by
      rintro rfl semicolon
      cases rest with
      | nil => cases semicolon
      | cons d rest =>
        obtain ⟨e, tail, written⟩ := List.exists_cons_of_ne_nil (escaped_ne_nil ascii d)
        have first : (escaped ascii d).head? = some ';' := by
          rw [List.flatMap_cons, written] at semicolon
          rw [written]
          exact semicolon
        exact notEnd _ rfl (by rw [(head?_escaped ascii d).mp first])
    rw [List.flatMap_cons, List.append_assoc, upToEnd?_escaped other, ih]
    cases upToEnd? rest <;> cases upToEnd? more <;> simp

theorem upToEnd?_string (ascii : Bool) (text more : List Char) :
    upToEnd? (string ascii text ++ more) =
      ((upToEnd? text).map fun found => '\x22' :: found.flatMap (escaped ascii)).or
        ((upToEnd? more).map (string ascii text ++ ·)) := by
  have written : string ascii text ++ more = '\x22' :: (text.flatMap (escaped ascii) ++ '\x22' :: more) := by
    simp [string]
  rw [written, upToEnd?_cons fun same => absurd same (by decide), upToEnd?_chars]
  cases upToEnd? text <;> cases upToEnd? more <;> simp [string]

theorem passes_string (ascii : Bool) {text : List Char} (free : upToEnd? text = none) :
    Passes (string ascii text) := by
  intro more _
  rw [upToEnd?_string, free]
  rfl

end Strings

section Parts

variable {style : Json.Style} {depth : Nat} {opening : Char} {parts : List (List Char)}

theorem not_mem_edge (style : Json.Style) (depth : Nat) : ']' ∉ style.edge depth := by
  intro member
  exact absurd (isSpace_edge style depth _ member) (by decide)

theorem not_mem_between (style : Json.Style) (depth : Nat) : ']' ∉ style.between depth := by
  obtain ⟨gap, written, spaces⟩ := between_eq style depth
  rw [written]
  rintro (_ | ⟨_, member⟩)
  exact absurd (spaces _ member) (by decide)

theorem head?_solid {text : List Char} (solid : Solid text) : text.head? ≠ some ';' := by
  obtain ⟨c, first, _, other⟩ := solid
  rw [first]
  rintro ⟨⟩
  exact absurd other (by decide)

theorem head?_between (style : Json.Style) (depth : Nat) : (style.between depth).head? = some ',' := by
  obtain ⟨gap, written, -⟩ := between_eq style depth
  rw [written]
  rfl

theorem head?_edge (style : Json.Style) (depth : Nat) : (style.edge depth).head? ≠ some ';' := by
  unfold Json.Style.edge
  split <;> simp

theorem passes_intercalate (passes : ∀ part ∈ parts, Passes part) (solid : ∀ part ∈ parts, Solid part) :
    Passes ((style.between depth).intercalate parts) := by
  induction parts with
  | nil => exact passes_nil
  | cons part parts ih =>
    have rest := ih (fun other member => passes other (List.mem_cons_of_mem _ member))
      fun other member => solid other (List.mem_cons_of_mem _ member)
    cases parts with
    | nil =>
      rw [List.intercalate_singleton]
      exact passes part List.mem_cons_self
    | cons next parts =>
      rw [List.intercalate_cons_cons]
      have solidNext := solid_intercalate (solid next (by simp)) (style.between depth) parts
      have separated := (passes part List.mem_cons_self).append (passes_of_not_mem (not_mem_between style depth))
        (by rw [head?_between]; decide)
      exact separated.append rest (head?_solid solidNext)

/-- No end is found before the closing mark of a list or a map whose parts have none. -/
theorem enclose_front (style : Json.Style) (depth : Nat) {opening : Char} (closing : Char) (other : opening ≠ ']')
    (passes : ∀ part ∈ parts, Passes part) (solid : ∀ part ∈ parts, Solid part) :
    ∃ front, style.enclose depth opening closing parts = front ++ [closing] ∧ Passes front := by
  cases parts with
  | nil => exact ⟨[opening], rfl, passes_char opening⟩
  | cons part parts =>
    refine ⟨opening :: style.edge (depth + 1) ++ (style.between (depth + 1)).intercalate (part :: parts) ++
      style.edge depth, rfl, ?_⟩
    have start : Passes (opening :: style.edge (depth + 1)) := by
      apply passes_of_not_mem
      rintro (_ | ⟨_, member⟩)
      · exact other rfl
      · exact not_mem_edge style _ member
    have solidParts := solid_intercalate (solid part List.mem_cons_self) (style.between (depth + 1)) parts
    have filled := start.append (passes_intercalate passes solid) (head?_solid solidParts)
    exact filled.append (passes_of_not_mem (not_mem_edge style depth)) (head?_edge style depth)

theorem passes_enclose (style : Json.Style) (depth : Nat) {opening closing : Char} (other : opening ≠ ']')
    (plain : closing ≠ ';') (passes : ∀ part ∈ parts, Passes part) (solid : ∀ part ∈ parts, Solid part) :
    Passes (style.enclose depth opening closing parts) := by
  obtain ⟨front, written, passesFront⟩ := enclose_front style depth closing other passes solid
  rw [written]
  exact passesFront.append (passes_char closing) (by simpa using plain)

end Parts

mutual

def texts : Value → List String
  | .text s => [s]
  | .list items => textsOfItems items
  | .map entries => textsOfEntries entries
  | _ => []

def textsOfItems : List Value → List String
  | [] => []
  | item :: rest => texts item ++ textsOfItems rest

def textsOfEntries : List (Value × Value) → List String
  | [] => []
  | (key, item) :: rest => texts key ++ texts item ++ textsOfEntries rest

end

theorem mem_texts_list {s : String} {items : List Value} :
    s ∈ texts (.list items) ↔ ∃ item ∈ items, s ∈ texts item := by
  rw [texts]
  induction items with
  | nil => simp [textsOfItems]
  | cons item rest ih => simp [textsOfItems, ih]

theorem mem_texts_record {s : String} {fields : Register Value} :
    s ∈ texts (.record fields) ↔ ∃ field ∈ fields, s = field.1 ∨ s ∈ texts field.2 := by
  rw [Value.record, texts]
  induction fields with
  | nil => simp [textsOfEntries]
  | cons field rest ih => simp [textsOfEntries, texts, ih, or_assoc]

theorem passes_member (style : Json.Style) (depth : Nat) {field : String × Value} (plain : Plain limit field.2)
    (freeKey : upToEnd? field.1.toList = none) (passes : Passes (write style depth field.2)) :
    Passes (memberText style depth field) := by
  have colon : Passes [':', ' '] := passes_of_not_mem (by decide)
  have behind := colon.append passes (head?_solid (solid_write plain style depth))
  exact (passes_string style.ascii freeKey).append behind (by simp)

theorem passes_write {v : Value} (plain : Plain limit v) (free : ∀ s ∈ texts v, upToEnd? s.toList = none)
    (style : Json.Style) (depth : Nat) : Passes (write style depth v) := by
  induction plain generalizing depth with
  | null =>
    rw [write]
    exact passes_of_not_mem (by decide)
  | bool b =>
    rw [write]
    cases b <;> exact passes_of_not_mem (by decide)
  | int _ =>
    rw [write, toList_int]
    apply passes_of_not_mem
    intro member
    rcases List.mem_append.mp member with sign | digit
    · split at sign <;> simp at sign
    · exact absurd (isDigit_toDigits _ digit) (by decide)
  | text s =>
    rw [write]
    exact passes_string style.ascii (free s (by simp [texts]))
  | list plain ih =>
    rw [write, writeItems_eq]
    refine passes_enclose style depth (by decide) (by decide) (List.forall_mem_map.mpr fun item member => ?_)
      (List.forall_mem_map.mpr fun item member => solid_write (plain item member) style _)
    exact ih item member (fun s inside => free s (mem_texts_list.mpr ⟨item, member, inside⟩)) _
  | record nodup plain ih =>
    rw [Value.record, write, writeEntries_record]
    refine passes_enclose style depth (by decide) (by decide) (List.forall_mem_map.mpr fun field member => ?_)
      (List.forall_mem_map.mpr fun field _ => solid_memberText style _ field)
    have freeField := fun s inside => free s (mem_texts_record.mpr ⟨field, member, inside⟩)
    exact passes_member style _ (plain field member) (freeField _ (.inl rfl))
      (ih field member (fun s inside => freeField s (.inr inside)) _)

theorem upToEnd?_list {items : List Value} (plain : ∀ item ∈ items, Plain limit item)
    (free : ∀ s ∈ texts (.list items), upToEnd? s.toList = none) (style : Json.Style) (depth : Nat) (more : List Char) :
    upToEnd? (write style depth (.list items) ++ ';' :: more) = some (write style depth (.list items)) := by
  rw [write, writeItems_eq]
  obtain ⟨front, written, passes⟩ := enclose_front style depth ']' (by decide : '[' ≠ ']')
    (List.forall_mem_map.mpr fun item member => passes_write (plain item member)
      (fun s inside => free s (mem_texts_list.mpr ⟨item, member, inside⟩)) style (depth + 1))
    (List.forall_mem_map.mpr fun item member => solid_write (plain item member) style (depth + 1))
  rw [written, List.append_assoc, passes _ (by simp)]
  rfl

theorem head?_of_upToEnd? {text found : List Char} (ended : upToEnd? text = some found) : found.head? = text.head? := by
  obtain ⟨before, after, rfl, rfl⟩ := upToEnd?_eq_some ended
  cases before <;> rfl

theorem solid_of_upToEnd? {text found : List Char} (ended : upToEnd? text = some found) (solid : Solid text) :
    Solid found := by
  obtain ⟨c, first, plain⟩ := solid
  exact ⟨c, (head?_of_upToEnd? ended).trans first, plain⟩

/-- An end is found inside a string of the text, so that what stands before it is refused. -/
def Cut {α : Type} (reader : Nat → List Char → Read α) (part : List Char) : Prop :=
  ∀ more, ∃ text, upToEnd? (part ++ more) = some text ∧
    ∀ fuel, 2 * text.length ≤ fuel → ∃ place, reader fuel text = refuse .unterminated place

section Sequences

variable {α : Type} {reader : Nat → List Char → Read α} {parts : List (List Char)}

theorem Cut.append {part : List Char} (cut : Cut reader part) (rest : List Char) : Cut reader (part ++ rest) := by
  intro more
  rw [List.append_assoc]
  exact cut (rest ++ more)

theorem cut_intercalate (style : Json.Style) (depth : Nat) (solid : ∀ part ∈ parts, Solid part)
    (each : ∀ part ∈ parts, Passes part ∨ Cut reader part) (cut : ∃ part ∈ parts, Cut reader part)
    (step : ∀ part ∈ parts, ∀ fuel next place, part.length ≤ fuel → Solid next →
      reader fuel next = refuse .unterminated place →
        reader (fuel + 1) (part ++ (style.between depth ++ next)) = refuse .unterminated place) :
    Cut reader ((style.between depth).intercalate parts) := by
  induction parts with
  | nil =>
    obtain ⟨_, member, _⟩ := cut
    cases member
  | cons part parts ih =>
    by_cases first : Cut reader part
    · cases parts with
      | nil => rwa [List.intercalate_singleton]
      | cons next parts =>
        rw [List.intercalate_cons_cons, List.append_assoc]
        exact first.append _
    · have passes := (each part List.mem_cons_self).resolve_right first
      obtain ⟨broken, member, cutBroken⟩ := cut
      rcases List.mem_cons.mp member with rfl | later
      · exact absurd cutBroken first
      · have behind := ih (fun other member => solid other (List.mem_cons_of_mem _ member))
          (fun other member => each other (List.mem_cons_of_mem _ member)) ⟨broken, later, cutBroken⟩
          (fun other member => step other (List.mem_cons_of_mem _ member))
        obtain ⟨next, parts, rfl⟩ := List.exists_cons_of_ne_nil (List.ne_nil_of_mem later)
        intro more
        obtain ⟨text, ended, refused⟩ := behind more
        have solidNext := solid_intercalate (solid next (by simp)) (style.between depth) parts
        refine ⟨part ++ (style.between depth ++ text), ?_, ?_⟩
        · rw [List.intercalate_cons_cons, List.append_assoc, List.append_assoc, passes _ (by simp [head?_between]),
            upToEnd?_append (not_mem_between style depth), ended]
          rfl
        · intro fuel enough
          simp only [List.length_append] at enough
          have comma : 0 < (style.between depth).length := by
            obtain ⟨gap, written, -⟩ := between_eq style depth
            simp [written]
          obtain ⟨fuel, rfl⟩ : ∃ left, fuel = left + 1 := ⟨fuel - 1, by omega⟩
          obtain ⟨place, stopped⟩ := refused fuel (by omega)
          exact ⟨place, step part List.mem_cons_self fuel text place (by omega)
            (solid_of_upToEnd? ended (solidNext.append more)) stopped⟩

end Sequences

section Values

variable {style : Json.Style} {depth : Nat}

/-- What stands before an end inside a string is a start of that string, up to a bracket. -/
theorem upToEnd?_string_some (ascii : Bool) {text found : List Char} (ended : upToEnd? text = some found)
    (more : List Char) : ∃ start : List Char,
      upToEnd? (string ascii text ++ more) = some ('\x22' :: (start.flatMap (escaped ascii) ++ [']'])) := by
  obtain ⟨start, _, _, rfl⟩ := upToEnd?_eq_some ended
  refine ⟨start, ?_⟩
  rw [upToEnd?_string, ended]
  simp [escaped_bracket]

theorem cut_text (ascii : Bool) {text found : List Char} (ended : upToEnd? text = some found) :
    Cut (value limit) (string ascii text) := by
  intro more
  obtain ⟨start, endedString⟩ := upToEnd?_string_some ascii ended more
  refine ⟨_, endedString, ?_⟩
  rintro (_ | fuel) enough
  · simp at enough
  · exact ⟨_, by rw [value, chars_cut]; rfl⟩

theorem cut_item {part : List Char} (cut : Cut (value limit) part) :
    Cut (fun fuel => items limit (fuel + 1)) part := by
  intro more
  obtain ⟨text, ended, refused⟩ := cut more
  refine ⟨text, ended, fun fuel enough => ?_⟩
  obtain ⟨place, stopped⟩ := refused fuel enough
  refine ⟨place, ?_⟩
  change items limit (fuel + 1) text = _
  rw [items, stopped]
  rfl

theorem cut_enclose {α : Type} {reader : Nat → List Char → Read α} {opening closing c : Char} {part : List Char}
    {parts : List (List Char)} (other : opening ≠ ']') (first : part.head? = some c)
    (inside : Cut (fun fuel => reader (fuel + 1)) ((style.between (depth + 1)).intercalate (part :: parts)))
    (opened : ∀ fuel text place, text.head? = some c → reader fuel text = refuse .unterminated place →
      value limit (fuel + 1) (opening :: (style.edge (depth + 1) ++ text)) = refuse .unterminated place) :
    Cut (value limit) (style.enclose depth opening closing (part :: parts)) := by
  intro more
  obtain ⟨text, ended, refused⟩ := inside (style.edge depth ++ closing :: more)
  have start : text.head? = some c := by
    rw [head?_of_upToEnd? ended]
    simp [head?_intercalate first]
  refine ⟨opening :: (style.edge (depth + 1) ++ text), ?_, ?_⟩
  · rw [enclose_cons, upToEnd?_cons fun same => absurd same other, upToEnd?_append (not_mem_edge style _), ended]
    rfl
  · intro fuel enough
    simp only [List.length_cons, List.length_append] at enough
    obtain ⟨fuel, rfl⟩ : ∃ left, fuel = left + 2 := ⟨fuel - 2, by omega⟩
    obtain ⟨place, stopped⟩ := refused fuel (by omega)
    exact ⟨place, opened (fuel + 1) text place start stopped⟩

theorem cut_list {contents : List Value} (plain : ∀ item ∈ contents, Plain limit item)
    (each : ∀ item ∈ contents, Passes (write style (depth + 1) item) ∨ Cut (value limit) (write style (depth + 1) item))
    (cut : ∃ item ∈ contents, Cut (value limit) (write style (depth + 1) item)) :
    Cut (value limit) (write style depth (.list contents)) := by
  obtain ⟨gap, comma, spaces⟩ := between_eq style (depth + 1)
  have inside : Cut (fun fuel => items limit (fuel + 1))
      ((style.between (depth + 1)).intercalate (contents.map (write style (depth + 1)))) := by
    apply cut_intercalate style (depth + 1)
    · exact List.forall_mem_map.mpr fun item member => solid_write (plain item member) style (depth + 1)
    · exact List.forall_mem_map.mpr fun item member => (each item member).imp_right cut_item
    · obtain ⟨item, member, cutItem⟩ := cut
      exact ⟨_, List.mem_map_of_mem member, cut_item cutItem⟩
    · intro part member fuel next place enough solid stopped
      obtain ⟨item, there, rfl⟩ := List.mem_map.mp member
      change items limit (fuel + 2) _ = _
      change items limit (fuel + 1) _ = _ at stopped
      rw [comma, List.cons_append, items_comma (reads_write (plain item there) style _ (fuel + 1) _ (by omega)
        (delimited_cons (by decide) _)) spaces solid, stopped]
      rfl
  obtain ⟨item, member, -⟩ := cut
  obtain ⟨item, contents, rfl⟩ := List.exists_cons_of_ne_nil (List.ne_nil_of_mem member)
  obtain ⟨c, first, solid⟩ := solid_write (plain item List.mem_cons_self) style (depth + 1)
  rw [write, writeItems_eq]
  refine cut_enclose (by decide) first inside fun fuel text place start stopped => ?_
  rw [value_list (isSpace_edge style _) ⟨c, start, solid⟩, stopped]
  rfl

theorem cut_key (field : String × Value) {found : List Char} (ended : upToEnd? field.1.toList = some found) :
    Cut (fun fuel => members limit (fuel + 1)) (memberText style depth field) := by
  intro more
  obtain ⟨start, endedKey⟩ := upToEnd?_string_some style.ascii ended (':' :: ' ' :: write style depth field.2 ++ more)
  refine ⟨_, by rw [memberText, List.append_assoc]; exact endedKey, fun fuel _ =>
    ⟨'\x22' :: (start.flatMap (escaped style.ascii) ++ [']']), ?_⟩⟩
  change members limit (fuel + 1) _ = _
  rw [members, chars_cut]
  rfl

theorem cut_member {field : String × Value} (plain : Plain limit field.2) (free : upToEnd? field.1.toList = none)
    (cut : Cut (value limit) (write style depth field.2)) :
    Cut (fun fuel => members limit (fuel + 1)) (memberText style depth field) := by
  intro more
  obtain ⟨text, ended, refused⟩ := cut more
  have solid := solid_of_upToEnd? ended ((solid_write plain style depth).append more)
  refine ⟨string style.ascii field.1.toList ++ ':' :: ' ' :: text, ?_, ?_⟩
  · have colon : upToEnd? (':' :: ' ' :: (write style depth field.2 ++ more)) = some (':' :: ' ' :: text) := by
      have passed := upToEnd?_append (by decide : ']' ∉ [':', ' ']) (write style depth field.2 ++ more)
      rw [ended] at passed
      exact passed
    rw [memberText, List.append_assoc, List.cons_append, List.cons_append, upToEnd?_string, free, colon]
    rfl
  · intro fuel enough
    simp only [List.length_append, List.length_cons] at enough
    obtain ⟨place, stopped⟩ := refused fuel (by omega)
    refine ⟨place, ?_⟩
    change members limit (fuel + 1) _ = _
    rw [members_key style.ascii field.1 solid, stopped]
    rfl

theorem cut_record {fields : Register Value} (plain : ∀ field ∈ fields, Plain limit field.2)
    (each : ∀ field ∈ fields,
      Passes (memberText style (depth + 1) field) ∨
        Cut (fun fuel => members limit (fuel + 1)) (memberText style (depth + 1) field))
    (cut : ∃ field ∈ fields, Cut (fun fuel => members limit (fuel + 1)) (memberText style (depth + 1) field)) :
    Cut (value limit) (write style depth (.record fields)) := by
  obtain ⟨gap, comma, spaces⟩ := between_eq style (depth + 1)
  have inside : Cut (fun fuel => members limit (fuel + 1))
      ((style.between (depth + 1)).intercalate (fields.map (memberText style (depth + 1)))) := by
    apply cut_intercalate style (depth + 1)
    · exact List.forall_mem_map.mpr fun field _ => solid_memberText style (depth + 1) field
    · exact List.forall_mem_map.mpr each
    · obtain ⟨field, member, cutField⟩ := cut
      exact ⟨_, List.mem_map_of_mem member, cutField⟩
    · intro part member fuel next place enough solid stopped
      obtain ⟨field, there, rfl⟩ := List.mem_map.mp member
      simp only [memberText, List.length_append, List.length_cons] at enough
      change members limit (fuel + 2) _ = _
      change members limit (fuel + 1) _ = _ at stopped
      have solidValue := solid_write (plain field there) style (depth + 1)
      rw [memberText, comma, List.append_assoc, List.cons_append, List.cons_append, List.cons_append,
        members_comma style.ascii field.1 (solidValue.append _) (reads_write (plain field there) style _ (fuel + 1) _
          (by omega) (delimited_cons (by decide) _)) spaces solid, stopped]
      rfl
  obtain ⟨field, member, -⟩ := cut
  obtain ⟨field, fields, rfl⟩ := List.exists_cons_of_ne_nil (List.ne_nil_of_mem member)
  rw [Value.record, write, writeEntries_record]
  refine cut_enclose (by decide) (head?_memberText style (depth + 1) field) inside ?_
  intro fuel text place start stopped
  rw [value_map (isSpace_edge style _) start, stopped]
  rfl

theorem cut_write {v : Value} (plain : Plain limit v) (held : ∃ s ∈ texts v, upToEnd? s.toList ≠ none)
    (style : Json.Style) (depth : Nat) : Cut (value limit) (write style depth v) := by
  induction plain generalizing depth with
  | null =>
    obtain ⟨s, member, _⟩ := held
    simp [texts] at member
  | bool b =>
    obtain ⟨s, member, _⟩ := held
    simp [texts] at member
  | int _ =>
    obtain ⟨s, member, _⟩ := held
    simp [texts] at member
  | text s =>
    obtain ⟨t, member, ended⟩ := held
    obtain rfl : t = s := by simpa [texts] using member
    obtain ⟨found, ended⟩ := Option.ne_none_iff_exists'.mp ended
    rw [write]
    exact cut_text style.ascii ended
  | list plain ih =>
    apply cut_list plain
    · intro item member
      by_cases inside : ∃ s ∈ texts item, upToEnd? s.toList ≠ none
      · exact .inr (ih item member inside _)
      · push Not at inside
        exact .inl (passes_write (plain item member) inside style _)
    · obtain ⟨s, member, ended⟩ := held
      obtain ⟨item, there, inside⟩ := mem_texts_list.mp member
      exact ⟨item, there, ih item there ⟨s, inside, ended⟩ _⟩
  | @record fields nodup plain ih =>
    have cutField : ∀ field ∈ fields, (∃ s, (s = field.1 ∨ s ∈ texts field.2) ∧ upToEnd? s.toList ≠ none) →
        Cut (fun fuel => members limit (fuel + 1)) (memberText style (depth + 1) field) := by
      rintro field member ⟨s, inside, ended⟩
      cases endedKey : upToEnd? field.1.toList with
      | some found => exact cut_key field endedKey
      | none =>
        rcases inside with rfl | inside
        · exact absurd endedKey ended
        · exact cut_member (plain field member) endedKey (ih field member ⟨s, inside, ended⟩ _)
    apply cut_record plain
    · intro field member
      by_cases inside : ∃ s, (s = field.1 ∨ s ∈ texts field.2) ∧ upToEnd? s.toList ≠ none
      · exact .inr (cutField field member inside)
      · push Not at inside
        exact .inl (passes_member style _ (plain field member) (inside _ (.inl rfl))
          (passes_write (plain field member) (fun s there => inside s (.inr there)) style _))
    · obtain ⟨s, member, ended⟩ := held
      obtain ⟨field, there, inside⟩ := mem_texts_record.mp member
      exact ⟨field, there, cutField field there ⟨s, inside, ended⟩⟩

end Values

end PluginAudit.LoadOrder
