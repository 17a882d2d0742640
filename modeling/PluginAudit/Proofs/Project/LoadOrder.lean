import Mathlib
import PluginAudit.Proofs.Project.ArrayEnd
import PluginAudit.Proofs.Register
import PluginAudit.Proofs.Value.Writable
import PluginAudit.Proofs.Value.Entries

namespace PluginAudit.LoadOrder

open PluginAudit.Json PluginAudit.Text

/-- An entry of a plugin list. Its fields may stand in any order. -/
structure Entry where
  name : String
  status : Bool
  description : String
  parameters : Register String
  distinct : parameters.names.Nodup
  fields : Register Value
  arranged : fields.Perm [("name", .text name), ("status", .bool status), ("description", .text description),
    ("parameters", .record (parameters.map fun parameter => (parameter.1, .text parameter.2)))]

namespace Entry

def value (entry : Entry) : Value :=
  .record entry.fields

/-- The texts of an entry that differ from entry to entry. -/
def texts (entry : Entry) : List String :=
  entry.name :: entry.description :: entry.parameters.flatMap fun parameter => [parameter.1, parameter.2]

theorem nodup_fields (entry : Entry) : entry.fields.names.Nodup := by
  have same : entry.fields.names.Perm ["name", "status", "description", "parameters"] := entry.arranged.map Prod.fst
  rw [same.nodup_iff]
  decide

theorem plain_value (entry : Entry) : Plain Number.usualLimit entry.value := by
  refine .record entry.nodup_fields fun field member => ?_
  rw [entry.arranged.mem_iff] at member
  simp only [List.mem_cons, List.not_mem_nil, or_false] at member
  rcases member with rfl | rfl | rfl | rfl
  · exact .text _
  · exact .bool _
  · exact .text _
  · refine .record ?_ (List.forall_mem_map.mpr fun parameter _ => .text _)
    simpa [Register.names, Function.comp_def] using entry.distinct

theorem mem_texts_value (entry : Entry) (s : String) :
    s ∈ LoadOrder.texts entry.value ↔ s ∈ ["name", "status", "description", "parameters"] ∨ s ∈ entry.texts := by
  have arranged : ∀ field, field ∈ entry.fields ↔ _ := fun field => entry.arranged.mem_iff
  have parameters :
      s ∈ LoadOrder.texts (.record (entry.parameters.map fun parameter => (parameter.1, .text parameter.2))) ↔
        ∃ parameter ∈ entry.parameters, s = parameter.1 ∨ s = parameter.2 := by
    simp [mem_texts_record, LoadOrder.texts]
  rw [value, mem_texts_record]
  simp only [arranged, List.mem_cons, List.not_mem_nil, or_false, or_and_right, exists_or, exists_eq_left, parameters,
    LoadOrder.texts, texts, List.mem_flatMap]
  grind

end Entry

theorem named?_record (fields : Register Value) (name : String) :
    Value.Entries.named? (fields.map fun field => (.text field.1, field.2)) name = fields.get? name := by
  induction fields with
  | nil => rfl
  | cons field rest ih =>
    obtain ⟨key, v⟩ := field
    rw [List.map_cons, Register.get?, List.lookup_cons]
    by_cases same : key = name
    · have found : (Value.text key).bare = .text name := congrArg Value.text same
      rw [Value.Entries.named?_cons_same found, same, beq_self_eq_true]
    · have other : (Value.text key).bare ≠ .text name := fun found => same (Value.text.inj found)
      rw [Value.Entries.named?_cons_other other, ih, beq_false_of_ne (Ne.symm same)]
      rfl

theorem entryName?_value (entry : Entry) (includeDisabled : Bool) :
    entryName? includeDisabled entry.value =
      if entry.name ≠ "" ∧ (includeDisabled || entry.status) then some (.text entry.name) else none := by
  have found : ∀ name v, (name, v) ∈ entry.fields →
      Value.Entries.named? (entry.fields.map fun field => (.text field.1, field.2)) name = some v := by
    intro name v member
    exact (named?_record _ _).trans ((Register.get?_eq_some_iff entry.nodup_fields name v).mpr member)
  have name := found "name" (.text entry.name) (entry.arranged.mem_iff.mpr (by simp))
  have status := found "status" (.bool entry.status) (entry.arranged.mem_iff.mpr (by simp))
  rw [Entry.value, Value.record, entryName?]
  simp only [name, status, Option.getD_some, Value.holds, Bool.and_eq_true, bne_iff_ne]

/-- The names that a plugin list gives: those of the entries that are switched on, or of all, without empty ones. -/
def names (includeDisabled : Bool) (entries : List Entry) : List String :=
  ((entries.filter fun entry => includeDisabled || entry.status).map (·.name)).filter (· ≠ "")

theorem filterMap_entryName? (includeDisabled : Bool) (entries : List Entry) :
    (entries.map Entry.value).filterMap (entryName? includeDisabled) =
      (names includeDisabled entries).map Value.text := by
  rw [names]
  induction entries with
  | nil => rfl
  | cons entry rest ih =>
    rw [List.map_cons, List.filterMap_cons, entryName?_value, ih]
    by_cases empty : entry.name = "" <;> by_cases on : (includeDisabled || entry.status) = true <;>
      simp [empty, on]

theorem namesIn_value (includeDisabled : Bool) (entries : List Entry) :
    namesIn includeDisabled (.list (entries.map Entry.value)) = .ok (names includeDisabled entries) := by
  rw [namesIn, filterMap_entryName?, Value.mapM_display_text]

theorem first?_assignment {text array : List Char} (starts : text.head? = some '[')
    (ended : upToEnd? text = some array) :
    assignment.first? ("var $plugins =\n".toList ++ text) = some array := by
  obtain ⟨rest, rfl⟩ := List.head?_eq_some_iff.mp starts
  rw [upToEnd?_cons fun same => absurd same (by decide)] at ended
  obtain ⟨inner, endedRest, rfl⟩ := Option.map_eq_some_iff.mp ended
  have here : assignment (some ' ') ('$' :: ("plugins =\n".toList ++ '[' :: rest)) = some ('[' :: inner, 1) := by
    change ((upToEnd? rest).map fun array => ('[' :: array, 1)) = _
    rw [endedRest]
    rfl
  -- Nothing is found at the four characters before the dollar sign.
  change (Finder.allFrom assignment (some ' ') 0 ('$' :: ("plugins =\n".toList ++ '[' :: rest))).head? = _
  rw [Finder.allFrom, here]
  rfl

def listStyle : Json.Style :=
  ⟨true, false⟩

/-- A plugin list that holds entries. -/
def listing (entries : List Entry) : String :=
  "var $plugins =\n" ++ print listStyle (.list (entries.map Entry.value)) ++ ";\n"

theorem toList_listing (entries : List Entry) : (listing entries).toList =
    "var $plugins =\n".toList ++ (write listStyle 0 (.list (entries.map Entry.value)) ++ [';', '\n']) := by
  simp only [listing, print, String.toList_append, String.toList_ofList, List.append_assoc]
  rfl

theorem plain_entries (entries : List Entry) : ∀ item ∈ entries.map Entry.value, Plain Number.usualLimit item :=
  List.forall_mem_map.mpr fun entry _ => entry.plain_value

theorem head?_entries (entries : List Entry) (rest : List Char) :
    (write listStyle 0 (.list (entries.map Entry.value)) ++ rest).head? = some '[' := by
  rw [write, Json.Style.enclose]
  split <;> rfl

/-- The names of fields have no end in them, so the texts of a plugin list that have one are those of its entries. -/
theorem ended_iff (entries : List Entry) :
    (∃ s ∈ texts (.list (entries.map Entry.value)), upToEnd? s.toList ≠ none) ↔
      ∃ entry ∈ entries, ∃ s ∈ entry.texts, [']', ';'] <:+: s.toList := by
  have fieldNames : ∀ s ∈ ["name", "status", "description", "parameters"], upToEnd? s.toList = none := by
    decide
  constructor
  · rintro ⟨s, member, ended⟩
    obtain ⟨v, there, inside⟩ := mem_texts_list.mp member
    obtain ⟨entry, listed, rfl⟩ := List.mem_map.mp there
    rcases (entry.mem_texts_value s).mp inside with fixed | own
    · exact absurd (fieldNames s fixed) ended
    · exact ⟨entry, listed, s, own, not_not.mp fun absent => ended (upToEnd?_eq_none_iff.mpr absent)⟩
  · rintro ⟨entry, listed, s, own, held⟩
    refine ⟨s, mem_texts_list.mpr ⟨entry.value, List.mem_map_of_mem listed, ?_⟩, ?_⟩
    · exact (entry.mem_texts_value s).mpr (.inr own)
    · exact fun free => upToEnd?_eq_none_iff.mp free held

theorem read_listing_of_free {entries : List Entry}
    (free : ∀ entry ∈ entries, ∀ s ∈ entry.texts, ¬ [']', ';'] <:+: s.toList) (includeDisabled : Bool) :
    read includeDisabled (listing entries) = .ok (names includeDisabled entries) := by
  have freeTexts : ∀ s ∈ texts (.list (entries.map Entry.value)), upToEnd? s.toList = none := by
    by_contra held
    push Not at held
    obtain ⟨entry, listed, s, own, inside⟩ := (ended_iff entries).mp held
    exact free entry listed s own inside
  have found := first?_assignment (head?_entries entries _)
    (upToEnd?_list (plain_entries entries) freeTexts listStyle 0 ['\n'])
  rw [read, toList_listing, found]
  simp only [Json.read, read_write (.list (plain_entries entries)) listStyle, namesIn_value]
  rfl

theorem read_listing_of_ended {entries : List Entry}
    (ended : ∃ entry ∈ entries, ∃ s ∈ entry.texts, [']', ';'] <:+: s.toList) (includeDisabled : Bool) :
    ∃ reason, read includeDisabled (listing entries) = .error (.unreadable reason) := by
  obtain ⟨array, cut, refused⟩ := cut_write (.list (plain_entries entries)) ((ended_iff entries).mpr ended) listStyle 0
    [';', '\n']
  obtain ⟨place, stopped⟩ := refused (fuelFor array) (by unfold fuelFor; omega)
  have found := first?_assignment (head?_entries entries _) cut
  have starts : array.head? = some '[' := (head?_of_upToEnd? cut).trans (head?_entries entries _)
  have solid : Solid array := ⟨'[', starts, by decide⟩
  have noValue : Json.read array = refuse .unterminated place := by
    rw [Json.read, readWithin, if_neg (by rw [starts]; decide), solid.skipSpace, stopped]
    rfl
  refine ⟨(⟨.unterminated, place⟩ : Stop).message array, ?_⟩
  rw [read, toList_listing, found]
  simp only [noValue, refuse]

/-- What is read from a plugin list are the names of its entries exactly if no text of an entry holds `];`. If one does,
the list is refused. -/
theorem read_listing (entries : List Entry) (includeDisabled : Bool) :
    (read includeDisabled (listing entries) = .ok (names includeDisabled entries) ↔
        ∀ entry ∈ entries, ∀ s ∈ entry.texts, ¬ [']', ';'] <:+: s.toList) ∧
      ((∃ entry ∈ entries, ∃ s ∈ entry.texts, [']', ';'] <:+: s.toList) →
        ∃ reason, read includeDisabled (listing entries) = .error (.unreadable reason)) := by
  refine ⟨⟨fun readBack entry listed s own held => ?_, fun free => read_listing_of_free free includeDisabled⟩,
    fun ended => read_listing_of_ended ended includeDisabled⟩
  obtain ⟨reason, refused⟩ := read_listing_of_ended ⟨entry, listed, s, own, held⟩ includeDisabled
  rw [refused] at readBack
  cases readBack

def scripted : Entry where
  name := "Weather"
  status := true
  description := ""
  parameters := [("Script", "return list[0];")]
  distinct := by decide
  fields := [("name", .text "Weather"), ("status", .bool true), ("description", .text ""),
    ("parameters", .record [("Script", .text "return list[0];")])]
  arranged := .refl _

/-- Code in a parameter makes the whole plugin list unreadable. -/
theorem read_listing_scripted :
    listing [scripted] =
        "var $plugins =\n[\x7b\"name\": \"Weather\", \"status\": true, \"description\": \"\", " ++
          "\"parameters\": \x7b\"Script\": \"return list[0];\"\x7d\x7d];\n" ∧
      names false [scripted] = ["Weather"] ∧ read false (listing [scripted]) ≠ .ok ["Weather"] := by
  have ended : ∃ entry ∈ [scripted], ∃ s ∈ entry.texts, [']', ';'] <:+: s.toList :=
    ⟨scripted, List.mem_cons_self, "return list[0];", by decide, by decide⟩
  obtain ⟨reason, refused⟩ := read_listing_of_ended ended false
  refine ⟨by decide +kernel, rfl, ?_⟩
  rw [refused]
  rintro ⟨⟩

end PluginAudit.LoadOrder
