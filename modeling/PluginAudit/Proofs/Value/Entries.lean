import PluginAudit.Json.Reader
import PluginAudit.Proofs.Effect

namespace PluginAudit.Value

theorem sameKey_text_iff (key : Value) (name : String) : key.sameKey (.text name) = true ↔ key.bare = .text name := by
  have plain : (Value.text name).bare = .text name := rfl
  unfold sameKey
  rw [plain]
  cases key.bare <;> simp [number?]

def Apart (first second : Value) : Prop :=
  ∀ name, first.bare = .text name → second.bare ≠ .text name

theorem apart_of_sameKey {first second : Value} (different : first.sameKey second = false) : first.Apart second := by
  intro name named again
  have same : first.sameKey second = true := by
    unfold sameKey
    rw [named, again]
    exact beq_self_eq_true name
  simp [same] at different

namespace Entries

def keys (entries : Entries) : List Value :=
  entries.map (·.1)

/-- No two keys are one name. -/
def NamedOnce (entries : Entries) : Prop :=
  entries.keys.Pairwise Apart

theorem named?_cons_same {key : Value} {name : String} (same : key.bare = .text name) (v : Value) (rest : Entries) :
    named? ((key, v) :: rest) name = some v := by
  have found := (sameKey_text_iff key name).mpr same
  simp [named?, get?, found]

theorem named?_cons_other {key : Value} {name : String} (other : key.bare ≠ .text name) (v : Value) (rest : Entries) :
    named? ((key, v) :: rest) name = named? rest name := by
  have missed : key.sameKey (.text name) = false :=
    Bool.eq_false_iff.mpr fun same => other ((sameKey_text_iff key name).mp same)
  simp [named?, get?, missed]

theorem named?_eq_none {entries : Entries} {name : String} (absent : ∀ key ∈ entries.keys, key.bare ≠ .text name) :
    named? entries name = none := by
  induction entries with
  | nil => rfl
  | cons entry rest ih =>
    obtain ⟨head, tail⟩ := List.forall_mem_cons.mp absent
    rw [named?_cons_other head, ih tail]

theorem named?_of_mem {entries : Entries} (once : NamedOnce entries) {entry : Value × Value} (member : entry ∈ entries)
    {name : String} (named : entry.1.bare = .text name) : entries.named? name = some entry.2 := by
  induction entries with
  | nil => cases member
  | cons first rest ih =>
    obtain ⟨apart, onceRest⟩ := List.pairwise_cons.mp once
    rcases List.mem_cons.mp member with rfl | member
    · exact named?_cons_same named _ rest
    · have other : first.1.bare ≠ .text name := fun same => apart _ (List.mem_map_of_mem member) name same named
      rw [named?_cons_other other, ih onceRest member]

theorem named?_filter {entries : Entries} (once : NamedOnce entries) (keep : Value → Bool) (name : String) :
    named? (entries.filter fun entry => keep entry.2) name = (named? entries name).filter keep := by
  induction entries with
  | nil => rfl
  | cons entry rest ih =>
    obtain ⟨key, v⟩ := entry
    obtain ⟨apart, onceRest⟩ := List.pairwise_cons.mp once
    by_cases same : key.bare = .text name
    · have later := named?_eq_none fun other member => apart other member name same
      by_cases kept : keep v = true
      · simp [kept, named?_cons_same same, Option.filter]
      · simp [kept, named?_cons_same same, ih onceRest, later, Option.filter]
    · by_cases kept : keep v = true
      · simp [kept, named?_cons_other same, ih onceRest]
      · simp [kept, named?_cons_other same, ih onceRest]

theorem keys_put (entries : Entries) (key v : Value) :
    (entries.put key v).keys = entries.keys ∨
      (∀ other ∈ entries.keys, other.sameKey key = false) ∧ (entries.put key v).keys = entries.keys ++ [key] := by
  induction entries with
  | nil => exact .inr ⟨by simp [keys], rfl⟩
  | cons entry rest ih =>
    unfold put
    split
    · exact .inl rfl
    · rename_i different
      rcases ih with same | ⟨new, added⟩
      · exact .inl (congrArg (entry.1 :: ·) same)
      · have differs := Bool.eq_false_iff.mpr different
        exact .inr ⟨List.forall_mem_cons.mpr ⟨differs, new⟩, congrArg (entry.1 :: ·) added⟩

theorem NamedOnce.put {entries : Entries} (once : NamedOnce entries) (key v : Value) :
    NamedOnce (entries.put key v) := by
  unfold NamedOnce
  rcases keys_put entries key v with same | ⟨new, added⟩
  · rw [same]
    exact once
  · rw [added]
    refine List.pairwise_append.mpr ⟨once, List.pairwise_singleton _ _, fun other member last isKey => ?_⟩
    rw [List.mem_singleton.mp isKey]
    exact apart_of_sameKey (new other member)

theorem namedOnce_ofList (pairs : List (Value × Value)) : NamedOnce (ofList pairs) := by
  suffices kept : ∀ entries, NamedOnce entries →
      NamedOnce (pairs.foldl (fun entries pair => entries.put pair.1 pair.2) entries) from kept [] .nil
  intro entries once
  induction pairs generalizing entries with
  | nil => exact once
  | cons pair rest ih => exact ih _ (once.put pair.1 pair.2)

end Entries

theorem keys_restoreEntries (origin : Origin) (whole : Value) (entries : Entries) :
    Entries.keys (restoreEntries origin whole entries) = entries.keys := by
  induction entries with
  | nil => rw [restoreEntries]
  | cons entry rest ih =>
    rw [restoreEntries]
    exact congrArg (entry.1 :: ·) ih

/-- What a map holds is named once if what it is written with is. -/
theorem namedOnce_of_entries? {v : Value} {entries : Entries} (found : v.entries? = some entries)
    (once : ∀ written, v.bare = .map written → Entries.NamedOnce written) : entries.NamedOnce := by
  unfold entries? at found
  split at found
  · cases found
    exact once entries rfl
  · rename_i origin written
    cases found
    unfold Entries.NamedOnce
    rw [keys_restoreEntries]
    exact once written rfl
  · cases found

end PluginAudit.Value

namespace PluginAudit.Json

variable {limit : Number.Limit}

theorem not_map_of_number? {text rest : List Char} {v : Value} (read : number? limit text = some (.ok (v, rest)))
    (written : Value.Entries) : v.bare ≠ .map written := by
  unfold number? at read
  extract_lets negative unsigned whole tail fraction behind wholeValues fractionValues at read
  clear_value behind
  split at read
  · cases read
  · split at read
    · cases read
      exact Value.noConfusion
    · split at read
      · unfold integer at read
        split at read <;> cases read
        exact Value.noConfusion
      · cases read
        exact Value.noConfusion

theorem not_map_of_scalar {text rest : List Char} {v : Value} (read : scalar limit text = .ok (v, rest))
    (written : Value.Entries) : v.bare ≠ .map written := by
  unfold scalar at read
  split at read
  · rename_i found isWord
    obtain ⟨word, member, starts⟩ := List.exists_of_findSome?_eq_some isWord
    obtain ⟨_, _, same⟩ := Option.map_eq_some_iff.mp starts
    cases read
    cases same
    have plain : ∀ word ∈ words, word.2.bare ≠ .map written := by simp [words, Value.bare]
    exact plain word member
  · split at read
    · rename_i found isNumber
      rw [read] at isNumber
      exact not_map_of_number? isNumber written
    · cases read

theorem namedOnce_of_value {fuel : Nat} {text rest : List Char} {v : Value} (read : value limit fuel text = .ok (v, rest))
    (written : Value.Entries) (isMap : v.bare = .map written) : Value.Entries.NamedOnce written := by
  unfold value at read
  split at read
  · cases read
  · split at read
    · obtain ⟨found, _, same⟩ := exists_of_map_ok read
      cases same
      cases isMap
    · split at read
      · cases read
        cases isMap
      · obtain ⟨found, _, same⟩ := exists_of_map_ok read
        cases same
        cases isMap
    · split at read
      · cases read
        cases isMap
        exact .nil
      · obtain ⟨found, _, same⟩ := exists_of_map_ok read
        cases same
        cases isMap
        exact Value.Entries.namedOnce_ofList _
    · exact absurd isMap (not_map_of_scalar read written)

theorem namedOnce_of_read {text : List Char} {v : Value} (read : read text = .ok v) (written : Value.Entries)
    (isMap : v.bare = .map written) : Value.Entries.NamedOnce written := by
  unfold Json.read readWithin at read
  split at read
  · cases read
  · split at read
    · cases read
    · rename_i found
      split at read <;> cases read
      exact namedOnce_of_value found written isMap

end PluginAudit.Json
