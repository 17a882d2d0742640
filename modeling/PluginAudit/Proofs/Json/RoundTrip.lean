import Mathlib
import PluginAudit.Proofs.Json.Integers
import PluginAudit.Proofs.Json.Strings
import PluginAudit.Register

namespace PluginAudit.Json

open PluginAudit.Text

variable {limit : Number.Limit}

section Layout

theorem skipSpace_append {spaces : List Char} (all : ∀ c ∈ spaces, isSpace c = true) (text : List Char) :
    skipSpace (spaces ++ text) = skipSpace text :=
  List.dropWhile_append_of_pos all

theorem skipSpace_cons {c : Char} (solid : isSpace c = false) (rest : List Char) :
    skipSpace (c :: rest) = c :: rest := by
  simp [skipSpace, solid]

theorem isSpace_edge (style : Style) (depth : Nat) : ∀ c ∈ style.edge depth, isSpace c = true := by
  intro c member
  unfold Style.edge at member
  split at member
  · rcases List.mem_cons.mp member with rfl | member
    · rfl
    · rw [List.eq_of_mem_replicate member]
      rfl
  · cases member

theorem between_eq (style : Style) (depth : Nat) :
    ∃ gap, style.between depth = ',' :: gap ∧ ∀ c ∈ gap, isSpace c = true := by
  unfold Style.between
  split
  · exact ⟨_, rfl, isSpace_edge style depth⟩
  · exact ⟨_, rfl, by simp [isSpace]⟩

theorem delimited_edge (style : Style) (depth : Nat) {c : Char}
    (plain : c.isDigit = false ∧ c ≠ '.' ∧ c ≠ 'e' ∧ c ≠ 'E') (rest : List Char) :
    Delimited (style.edge depth ++ c :: rest) := by
  unfold Style.edge
  split
  · exact delimited_cons (by decide) _
  · exact delimited_cons plain rest

theorem skipSpace_edge (style : Style) (depth : Nat) {c : Char} (solid : isSpace c = false) (rest : List Char) :
    skipSpace (style.edge depth ++ c :: rest) = c :: rest := by
  rw [skipSpace_append (isSpace_edge style depth), skipSpace_cons solid]

end Layout

/-- Values with a JSON text of their own: no floating-point numbers, no integers that are too long, and the keys of maps
are different texts. -/
inductive Plain (limit : Number.Limit) : Value → Prop where
  | null : Plain limit .null
  | bool (b : Bool) : Plain limit (.bool b)
  | int {n : Int} (short : limit.exceeded? (Number.digitCount n) = none) : Plain limit (.int n)
  | text (s : String) : Plain limit (.text s)
  | list {items : List Value} (plain : ∀ item ∈ items, Plain limit item) : Plain limit (.list items)
  | record {fields : Register Value} (nodup : fields.names.Nodup) (plain : ∀ field ∈ fields, Plain limit field.2) :
      Plain limit (.record fields)

def memberText (style : Style) (depth : Nat) (field : String × Value) : List Char :=
  string style.ascii field.1.toList ++ ':' :: ' ' :: write style depth field.2

theorem writeItems_eq (style : Style) (depth : Nat) (items : List Value) :
    writeItems style depth items = items.map (write style depth) := by
  induction items with
  | nil => rw [writeItems, List.map_nil]
  | cons item rest ih => rw [writeItems, ih, List.map_cons]

theorem writeEntries_record (style : Style) (depth : Nat) (fields : Register Value) :
    writeEntries style depth (fields.map fun field => (.text field.1, field.2)) =
      fields.map (memberText style depth) := by
  induction fields with
  | nil => rw [List.map_nil, writeEntries, List.map_nil]
  | cons field rest ih => rw [List.map_cons, writeEntries, ih, List.map_cons, memberText, keyText]

theorem enclose_cons (style : Style) (depth : Nat) (opening closing : Char) (part : List Char)
    (parts : List (List Char)) (rest : List Char) :
    style.enclose depth opening closing (part :: parts) ++ rest =
      opening :: (style.edge (depth + 1) ++ ((style.between (depth + 1)).intercalate (part :: parts) ++
        (style.edge depth ++ closing :: rest))) := by
  simp [Style.enclose]

/-- A text that starts with none of the characters that can stand before or behind a value, the comma apart. -/
def Solid (text : List Char) : Prop :=
  ∃ c, text.head? = some c ∧ isSpace c = false ∧ c ∉ [']', ';', '\ufeff']

theorem Solid.append {text : List Char} (solid : Solid text) (rest : List Char) : Solid (text ++ rest) := by
  obtain ⟨c, first, plain⟩ := solid
  exact ⟨c, by simp [first], plain⟩

theorem Solid.skipSpace {text : List Char} (solid : Solid text) : Json.skipSpace text = text := by
  obtain ⟨c, first, notSpace, _⟩ := solid
  obtain ⟨rest, rfl⟩ := List.head?_eq_some_iff.mp first
  exact skipSpace_cons notSpace rest

theorem Solid.head?_ne {text : List Char} (solid : Solid text) : text.head? ≠ some '\ufeff' := by
  obtain ⟨c, first, _, other⟩ := solid
  rw [first]
  rintro ⟨⟩
  exact absurd other (by decide)

theorem head?_intercalate {part : List Char} {c : Char} (first : part.head? = some c) (between : List Char)
    (parts : List (List Char)) : (between.intercalate (part :: parts)).head? = some c := by
  cases parts with
  | nil => rwa [List.intercalate_singleton]
  | cons next parts => simp [List.intercalate_cons_cons, first]

theorem solid_intercalate {part : List Char} (solid : Solid part) (between : List Char) (parts : List (List Char)) :
    Solid (between.intercalate (part :: parts)) := by
  obtain ⟨c, first, plain⟩ := solid
  exact ⟨c, head?_intercalate first between parts, plain⟩

theorem solid_enclose (style : Style) (depth : Nat) {opening : Char} (closing : Char) (parts : List (List Char))
    (plain : isSpace opening = false ∧ opening ∉ [']', ';', '\ufeff']) :
    Solid (style.enclose depth opening closing parts) := by
  unfold Style.enclose
  split <;> exact ⟨opening, rfl, plain⟩

theorem solid_int (n : Int) (style : Style) (depth : Nat) : Solid (write style depth (.int n)) := by
  obtain ⟨c, rest, written, other⟩ := int_cons n
  rw [write, written]
  refine ⟨c, rfl, ?_, ?_⟩
  · simp [isSpace, other ' ' rfl, other '\t' rfl, other '\n' rfl, other '\r' rfl]
  · simp [other ']' rfl, other ';' rfl, other '\ufeff' rfl]

theorem solid_write {v : Value} (plain : Plain limit v) (style : Style) (depth : Nat) :
    Solid (write style depth v) := by
  cases plain with
  | null =>
    rw [write]
    exact ⟨'n', rfl, by decide⟩
  | bool b =>
    rw [write]
    cases b <;> exact ⟨_, rfl, by decide⟩
  | int _ => exact solid_int _ style depth
  | text s =>
    rw [write]
    exact ⟨'\x22', rfl, by decide⟩
  | list _ =>
    rw [write]
    exact solid_enclose style depth _ _ (by decide)
  | record _ _ =>
    rw [Value.record, write]
    exact solid_enclose style depth _ _ (by decide)

theorem head?_memberText (style : Style) (depth : Nat) (field : String × Value) :
    (memberText style depth field).head? = some '\x22' :=
  rfl

theorem solid_memberText (style : Style) (depth : Nat) (field : String × Value) :
    Solid (memberText style depth field) :=
  ⟨'\x22', rfl, by decide⟩

section Steps

variable {fuel : Nat} {gap next rest text : List Char} {item : Value}

theorem items_comma (read : value limit fuel text = .ok (item, ',' :: (gap ++ next)))
    (spaces : ∀ c ∈ gap, isSpace c = true) (solid : Solid next) :
    items limit (fuel + 1) text = (items limit fuel next).map fun found => (item :: found.1, found.2) := by
  rw [items, read]
  simp only [skipSpace_cons (rfl : isSpace ',' = false), skipSpace_append spaces, solid.skipSpace]

theorem items_last {style : Style} {depth : Nat}
    (read : value limit fuel text = .ok (item, style.edge depth ++ ']' :: rest)) :
    items limit (fuel + 1) text = .ok ([item], rest) := by
  rw [items, read]
  simp only [skipSpace_edge style depth (rfl : isSpace ']' = false)]

theorem members_key (ascii : Bool) (key : String) (solid : Solid text) :
    members limit (fuel + 1) (string ascii key.toList ++ ':' :: ' ' :: text) =
      match value limit fuel text with
      | .error fault => .error fault
      | .ok (item, rest) =>
        match skipSpace rest with
        | '\x7d' :: rest => .ok ([(.text key, item)], rest)
        | ',' :: rest => (members limit fuel (skipSpace rest)).map fun found => ((.text key, item) :: found.1, found.2)
        | rest => refuse .comma rest := by
  have opened : string ascii key.toList ++ ':' :: ' ' :: text =
      '\x22' :: (key.toList.flatMap (escaped ascii) ++ '\x22' :: ':' :: ' ' :: text) := by
    simp [string]
  have behind : skipSpace (' ' :: text) = text := solid.skipSpace
  have unfolded := members.eq_def limit (fuel + 1) (string ascii key.toList ++ ':' :: ' ' :: text)
  simp only [opened, chars_string, skipSpace_cons (rfl : isSpace ':' = false), behind, String.ofList_toList] at unfolded
  rw [opened]
  exact unfolded

theorem members_comma (ascii : Bool) (key : String) (solid : Solid text)
    (read : value limit fuel text = .ok (item, ',' :: (gap ++ next))) (spaces : ∀ c ∈ gap, isSpace c = true)
    (solidNext : Solid next) :
    members limit (fuel + 1) (string ascii key.toList ++ ':' :: ' ' :: text) =
      (members limit fuel next).map fun found => ((.text key, item) :: found.1, found.2) := by
  rw [members_key ascii key solid, read]
  simp only [skipSpace_cons (rfl : isSpace ',' = false), skipSpace_append spaces, solidNext.skipSpace]

theorem members_last {style : Style} {depth : Nat} (ascii : Bool) (key : String) (solid : Solid text)
    (read : value limit fuel text = .ok (item, style.edge depth ++ '\x7d' :: rest)) :
    members limit (fuel + 1) (string ascii key.toList ++ ':' :: ' ' :: text) = .ok ([(.text key, item)], rest) := by
  rw [members_key ascii key solid, read]
  simp only [skipSpace_edge style depth (rfl : isSpace '\x7d' = false)]

end Steps

def Reads (limit : Number.Limit) (style : Style) (depth : Nat) (v : Value) : Prop :=
  ∀ fuel rest, (write style depth v).length ≤ fuel → Delimited rest →
    value limit fuel (write style depth v ++ rest) = .ok (v, rest)

theorem items_write {style : Style} {depth : Nat} {item : Value} {rest : List Value}
    (plain : ∀ other ∈ item :: rest, Plain limit other) (reads : ∀ other ∈ item :: rest, Reads limit style (depth + 1) other)
    {fuel : Nat} (more : List Char)
    (enough : ((style.between (depth + 1)).intercalate ((item :: rest).map (write style (depth + 1)))).length < fuel) :
    items limit fuel ((style.between (depth + 1)).intercalate ((item :: rest).map (write style (depth + 1))) ++
      (style.edge depth ++ ']' :: more)) = .ok (item :: rest, more) := by
  obtain ⟨gap, comma, spaces⟩ := between_eq style (depth + 1)
  rw [comma] at enough ⊢
  induction rest generalizing item fuel with
  | nil =>
    obtain ⟨fuel, rfl⟩ : ∃ left, fuel = left + 1 := ⟨fuel - 1, by omega⟩
    simp only [List.map_cons, List.map_nil, List.intercalate_singleton] at enough ⊢
    exact items_last (reads item List.mem_cons_self _ _ (by omega) (delimited_edge style depth (by decide) more))
  | cons next rest ih =>
    obtain ⟨fuel, rfl⟩ : ∃ left, fuel = left + 1 := ⟨fuel - 1, by omega⟩
    rw [List.map_cons, List.map_cons, List.intercalate_cons_cons, ← List.map_cons] at enough ⊢
    simp only [List.append_assoc, List.cons_append, List.length_append, List.length_cons] at enough ⊢
    have solid := solid_intercalate (solid_write (plain next (by simp)) style (depth + 1)) (',' :: gap)
      (rest.map (write style (depth + 1)))
    have read := reads item List.mem_cons_self fuel
      (',' :: (gap ++ ((',' :: gap).intercalate ((next :: rest).map (write style (depth + 1))) ++
        (style.edge depth ++ ']' :: more)))) (by omega) (delimited_cons (by decide) _)
    rw [items_comma read spaces (solid.append _),
      ih (fun other member => plain other (List.mem_cons_of_mem _ member))
        (fun other member => reads other (List.mem_cons_of_mem _ member)) (by omega)]
    rfl

theorem length_members (style : Style) (depth : Nat) (field next : String × Value) (rest : Register Value) :
    ((style.between depth).intercalate ((next :: rest).map (memberText style depth))).length +
        (write style depth field.2).length <
      ((style.between depth).intercalate ((field :: next :: rest).map (memberText style depth))).length := by
  simp only [List.map_cons, List.intercalate_cons_cons, List.length_append]
  simp only [memberText, List.length_append, List.length_cons]
  omega

theorem members_step {style : Style} {depth fuel : Nat} {field : String × Value} (plain : Plain limit field.2)
    (reads : Reads limit style depth field.2) (enough : (write style depth field.2).length ≤ fuel) (next : String × Value)
    (rest : Register Value) (more : List Char) :
    members limit (fuel + 1)
        ((style.between depth).intercalate ((field :: next :: rest).map (memberText style depth)) ++ more) =
      (members limit fuel ((style.between depth).intercalate ((next :: rest).map (memberText style depth)) ++ more)).map
        fun found => ((.text field.1, field.2) :: found.1, found.2) := by
  obtain ⟨gap, comma, spaces⟩ := between_eq style depth
  have solid := solid_write plain style depth
  have solidNext : Solid ((style.between depth).intercalate ((next :: rest).map (memberText style depth))) :=
    solid_intercalate (solid_memberText style depth next) _ _
  have read := reads fuel
    (',' :: (gap ++ ((style.between depth).intercalate ((next :: rest).map (memberText style depth)) ++ more)))
    enough (delimited_cons (by decide) _)
  rw [List.map_cons, List.map_cons, List.intercalate_cons_cons, ← List.map_cons]
  rw [memberText]
  nth_rewrite 1 [comma]
  simp only [List.append_assoc, List.cons_append]
  exact members_comma style.ascii field.1 (solid.append _) read spaces (solidNext.append _)

theorem members_write {style : Style} {depth : Nat} {field : String × Value} {rest : Register Value}
    (plain : ∀ other ∈ field :: rest, Plain limit other.2)
    (reads : ∀ other ∈ field :: rest, Reads limit style (depth + 1) other.2) {fuel : Nat} (more : List Char)
    (enough :
      ((style.between (depth + 1)).intercalate ((field :: rest).map (memberText style (depth + 1)))).length < fuel) :
    members limit fuel ((style.between (depth + 1)).intercalate ((field :: rest).map (memberText style (depth + 1))) ++
      (style.edge depth ++ '\x7d' :: more)) =
        .ok ((field :: rest).map fun other => (.text other.1, other.2), more) := by
  induction rest generalizing field fuel with
  | nil =>
    obtain ⟨fuel, rfl⟩ : ∃ left, fuel = left + 1 := ⟨fuel - 1, by omega⟩
    simp only [List.map_cons, List.map_nil, List.intercalate_singleton, memberText, List.append_assoc, List.cons_append,
      List.length_append, List.length_cons] at enough ⊢
    have solid := solid_write (plain field List.mem_cons_self) style (depth + 1)
    exact members_last style.ascii field.1 (solid.append _)
      (reads field List.mem_cons_self _ _ (by omega) (delimited_edge style depth (by decide) more))
  | cons next rest ih =>
    have longer := length_members style (depth + 1) field next rest
    obtain ⟨fuel, rfl⟩ : ∃ left, fuel = left + 1 := ⟨fuel - 1, by omega⟩
    rw [members_step (plain field List.mem_cons_self) (reads field List.mem_cons_self) (by omega),
      ih (fun other member => plain other (List.mem_cons_of_mem _ member))
        (fun other member => reads other (List.mem_cons_of_mem _ member)) (by omega)]
    rfl

section Keys

theorem put_new {entries : Value.Entries} {key : Value} (new : ∀ entry ∈ entries, entry.1.sameKey key = false)
    (v : Value) : entries.put key v = entries ++ [(key, v)] := by
  induction entries with
  | nil => rfl
  | cons entry rest ih =>
    have first := new entry List.mem_cons_self
    rw [Value.Entries.put, first, ih fun other member => new other (List.mem_cons_of_mem _ member)]
    rfl

theorem foldl_put_new (done fields : Register Value) (nodup : (done ++ fields).names.Nodup) :
    (fields.map fun field => (Value.text field.1, field.2)).foldl
      (fun entries pair => Value.Entries.put entries pair.1 pair.2)
        (done.map fun field => (.text field.1, field.2)) =
      (done ++ fields).map fun field => (.text field.1, field.2) := by
  induction fields generalizing done with
  | nil => simp
  | cons field rest ih =>
    have new : ∀ entry ∈ done.map fun field => (Value.text field.1, field.2),
        entry.1.sameKey (.text field.1) = false := by
      intro entry member
      obtain ⟨other, there, rfl⟩ := List.mem_map.mp member
      have different : other.1 ≠ field.1 := by
        simp only [Register.names, List.map_append, List.map_cons] at nodup
        exact (List.nodup_append.mp nodup).2.2 _ (List.mem_map_of_mem there) _ List.mem_cons_self
      exact beq_false_of_ne different
    have shifted := ih (done ++ [field]) (by simpa using nodup)
    rw [List.map_cons, List.foldl_cons, put_new new]
    simpa using shifted

theorem ofList_record {fields : Register Value} (nodup : fields.names.Nodup) :
    Value.Entries.ofList (fields.map fun field => (.text field.1, field.2)) =
      fields.map fun field => (.text field.1, field.2) :=
  foldl_put_new [] fields nodup

end Keys

section Values

variable {fuel : Nat} {spaces text : List Char}

theorem value_scalar {c : Char} (notMark : c ≠ '\x22') (notList : c ≠ '[') (notMap : c ≠ '\x7b') (rest : List Char) :
    value limit (fuel + 1) (c :: rest) = scalar limit (c :: rest) := by
  rw [value]
  · simp [notMark]
  · simp [notList]
  · simp [notMap]

theorem value_int (n : Int) (rest : List Char) :
    value limit (fuel + 1) ((scalarText (.int n)).toList ++ rest) =
      scalar limit ((scalarText (.int n)).toList ++ rest) := by
  obtain ⟨c, digits, written, other⟩ := int_cons n
  rw [written]
  exact value_scalar (other _ rfl (by decide)) (other _ rfl (by decide)) (other _ rfl (by decide)) _

theorem value_list (all : ∀ c ∈ spaces, isSpace c = true) (solid : Solid text) :
    value limit (fuel + 1) ('[' :: (spaces ++ text)) =
      (items limit fuel text).map fun found => (.list found.1, found.2) := by
  have skipped : skipSpace (spaces ++ text) = text := by rw [skipSpace_append all, solid.skipSpace]
  rw [value]
  simp only [skipped]
  split
  · obtain ⟨c, first, _, other⟩ := solid
    cases first
    exact absurd List.mem_cons_self other
  · rfl

theorem value_map (all : ∀ c ∈ spaces, isSpace c = true) (marked : text.head? = some '\x22') :
    value limit (fuel + 1) ('\x7b' :: (spaces ++ text)) =
      (members limit fuel text).map fun found => (.map (Value.Entries.ofList found.1), found.2) := by
  obtain ⟨rest, rfl⟩ := List.head?_eq_some_iff.mp marked
  have skipped : skipSpace (spaces ++ '\x22' :: rest) = '\x22' :: rest := by
    rw [skipSpace_append all, skipSpace_cons rfl]
  rw [value]
  simp only [skipped]
  rfl

end Values

theorem length_parts_lt (style : Style) (depth : Nat) (opening closing : Char) (part : List Char)
    (parts : List (List Char)) :
    ((style.between (depth + 1)).intercalate (part :: parts)).length + 1 <
      (style.enclose depth opening closing (part :: parts)).length := by
  have length := congrArg List.length (enclose_cons style depth opening closing part parts [])
  simp only [List.append_nil, List.length_cons, List.length_append] at length
  omega

theorem reads_list {style : Style} {depth : Nat} {items : List Value} (plain : ∀ item ∈ items, Plain limit item)
    (reads : ∀ item ∈ items, Reads limit style (depth + 1) item) : Reads limit style depth (.list items) := by
  intro fuel rest enough _
  rw [write, writeItems_eq] at enough ⊢
  cases items with
  | nil =>
    obtain ⟨fuel, rfl⟩ : ∃ left, fuel = left + 1 := ⟨fuel - 1, by simp [Style.enclose] at enough; omega⟩
    rfl
  | cons item items =>
    have longer := length_parts_lt style depth '[' ']' (write style (depth + 1) item)
      (items.map (write style (depth + 1)))
    have solid := solid_intercalate (solid_write (plain item List.mem_cons_self) style (depth + 1))
      (style.between (depth + 1)) (items.map (write style (depth + 1)))
    rw [List.map_cons] at enough ⊢
    obtain ⟨fuel, rfl⟩ : ∃ left, fuel = left + 1 := ⟨fuel - 1, by omega⟩
    rw [enclose_cons, value_list (isSpace_edge style _) (solid.append _), ← List.map_cons,
      items_write plain reads rest (by rw [List.map_cons]; omega)]
    rfl

theorem reads_record {style : Style} {depth : Nat} {fields : Register Value} (nodup : fields.names.Nodup)
    (plain : ∀ field ∈ fields, Plain limit field.2) (reads : ∀ field ∈ fields, Reads limit style (depth + 1) field.2) :
    Reads limit style depth (.record fields) := by
  intro fuel rest enough _
  rw [Value.record, write, writeEntries_record] at enough ⊢
  cases fields with
  | nil =>
    obtain ⟨fuel, rfl⟩ : ∃ left, fuel = left + 1 := ⟨fuel - 1, by simp [Style.enclose] at enough; omega⟩
    rfl
  | cons field fields =>
    have longer := length_parts_lt style depth '\x7b' '\x7d' (memberText style (depth + 1) field)
      (fields.map (memberText style (depth + 1)))
    rw [List.map_cons] at enough ⊢
    obtain ⟨fuel, rfl⟩ : ∃ left, fuel = left + 1 := ⟨fuel - 1, by omega⟩
    have marked := head?_intercalate (head?_memberText style (depth + 1) field) (style.between (depth + 1))
      (fields.map (memberText style (depth + 1)))
    rw [enclose_cons, value_map (isSpace_edge style _) (by simp [marked]), ← List.map_cons,
      members_write plain reads rest (by rw [List.map_cons]; omega)]
    simp only [Except.map, ofList_record nodup]

theorem reads_write {v : Value} (plain : Plain limit v) (style : Style) (depth : Nat) : Reads limit style depth v := by
  induction plain generalizing depth with
  | null =>
    rintro (_ | fuel) rest enough _
    · simp [write, scalarText] at enough
    · rw [write]
      rfl
  | bool b =>
    rintro (_ | fuel) rest enough _
    · cases b <;> simp [write, scalarText] at enough
    · rw [write]
      cases b <;> rfl
  | @int n short =>
    rintro (_ | fuel) rest enough delimited
    · simp [write, toList_int] at enough
    · rw [write, value_int, scalar_int short delimited]
  | text s =>
    rintro (_ | fuel) rest enough _
    · simp [write, string] at enough
    · have written : string style.ascii s.toList ++ rest =
          '\x22' :: (s.toList.flatMap (escaped style.ascii) ++ '\x22' :: rest) := by
        simp [string]
      rw [write, written, value, chars_string]
      simp only [Except.map, String.ofList_toList]
  | list plain ih => exact reads_list plain fun item member => ih item member _
  | record nodup plain ih => exact reads_record nodup plain fun field member => ih field member _

theorem read_write {v : Value} (plain : Plain limit v) (style : Style) :
    readWithin limit (write style 0 v) = .ok v := by
  have found := reads_write plain style 0 (fuelFor (write style 0 v)) [] (by unfold fuelFor; omega) delimited_nil
  have solid := solid_write plain style 0
  rw [List.append_nil] at found
  rw [readWithin, if_neg solid.head?_ne, solid.skipSpace, found]
  rfl

section Writable

variable (limit) (path : List Origin)

theorem unwritableIn?_list (items : List Value) :
    unwritableIn? limit path (.list items) = items.findSome? (unwritableIn? limit path) := by
  rw [unwritableIn?]
  induction items with
  | nil => rfl
  | cons item rest ih =>
    rw [unwritableItem?, ih, List.findSome?_cons]
    cases unwritableIn? limit path item <;> rfl

theorem unwritableIn?_record (fields : Register Value) :
    unwritableIn? limit path (.record fields) = fields.findSome? fun field => unwritableIn? limit path field.2 := by
  rw [Value.record, unwritableIn?]
  induction fields with
  | nil => rfl
  | cons field rest ih =>
    rw [List.map_cons, unwritablePair?, ih, List.findSome?_cons]
    cases unwritableIn? limit path field.2 <;> rfl

end Writable

theorem Plain.unwritableIn? {v : Value} (plain : Plain limit v) (path : List Origin) :
    unwritableIn? limit path v = none := by
  induction plain with
  | int short => rw [Json.unwritableIn?, unwritableInteger?, short, Option.map_none]
  | list _ ih => rw [unwritableIn?_list, List.findSome?_eq_none_iff.mpr ih]
  | record _ _ ih => rw [unwritableIn?_record, List.findSome?_eq_none_iff.mpr ih]
  | _ => rfl

theorem Plain.dumpWithin {v : Value} (plain : Plain limit v) (style : Style) :
    dumpWithin limit style v = .ok (print style v) := by
  rw [Json.dumpWithin, unwritable?, plain.unwritableIn? []]

end PluginAudit.Json
