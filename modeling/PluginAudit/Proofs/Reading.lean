import PluginAudit.Plugin
import PluginAudit.Proofs.Text.Distinct
import PluginAudit.Proofs.Value.Writable

namespace PluginAudit

namespace Checked

variable {α β : Type}

theorem map_eq_ok {f : α → β} {x : Checked α} {b : β} : f <$> x = .ok b ↔ ∃ a, x = .ok a ∧ f a = b := by
  change x.map f = .ok b ↔ _
  cases x <;> simp [map]

theorem seq_eq_ok {f : Checked (α → β)} {x : Checked α} {b : β} :
    f <*> x = .ok b ↔ ∃ g a, f = .ok g ∧ x = .ok a ∧ g a = b := by
  change (f.both x).map (fun pair => pair.1 pair.2) = .ok b ↔ _
  cases f <;> cases x <;> simp [both, map]

theorem under_eq_ok {step : Step} {x : Checked α} {a : α} : x.under step = .ok a ↔ x = .ok a := by
  cases x <;> simp [under]

theorem all_ok (items : List α) : all (items.map .ok) = .ok items := by
  induction items with
  | nil => rfl
  | cons a rest ih =>
    rw [List.map_cons, all, ih]
    rfl

end Checked

namespace Reader

variable {α : Type}

/-- A field that may be left out is accepted when it is left out, or holds what its reader accepts. -/
theorem withDefault_eq_ok {record : Value.Entries} {names : List String} {item : Reader α} {default a : α} :
    withDefault record names item default = .ok a ↔
      (field? record names = none ∧ a = default) ∨ ∃ name v, field? record names = some (name, v) ∧ item v = .ok a := by
  unfold withDefault
  cases found : field? record names with
  | none => simp [eq_comm]
  | some entry =>
    obtain ⟨name, v⟩ := entry
    simp [Checked.under_eq_ok, and_assoc]

theorem list_texts (items : List String) : list text (.texts items) = .ok items := by
  have accepted : ((items.map Value.text).zipIdx.map fun entry => (text entry.1).under (.index entry.2)) =
      items.map .ok := by
    rw [List.zipIdx_map, List.map_map]
    change items.zipIdx.map (Checked.ok ∘ Prod.fst) = _
    rw [← List.map_map, List.zipIdx_map_fst]
  rw [Value.texts, list, accepted, Checked.all_ok]

end Reader

namespace Plugin

theorem nodup_of_overridesReader {v : Value} {overrides : List String} (read : overridesReader v = .ok overrides) :
    overrides.Nodup := by
  unfold overridesReader at read
  split at read
  · cases read
    exact List.nodup_nil
  · cases read
    exact List.nodup_cons.mpr ⟨List.not_mem_nil, List.nodup_nil⟩
  · split at read
    · cases read
    · split at read
      · cases read
        exact nodup_distinct _
      · cases read

theorem valid_of_reader {v : Value} {plugin : Plugin} (read : reader v = .ok plugin) : plugin.Valid := by
  cases v with
  | map entries =>
    -- The fields behind the overrides are peeled off from the last one on.
    obtain ⟨_, _, fields₆, _, rfl⟩ := Checked.seq_eq_ok.mp read
    obtain ⟨_, _, fields₅, _, rfl⟩ := Checked.seq_eq_ok.mp fields₆
    obtain ⟨_, _, fields₄, _, rfl⟩ := Checked.seq_eq_ok.mp fields₅
    obtain ⟨_, _, fields₃, _, rfl⟩ := Checked.seq_eq_ok.mp fields₄
    obtain ⟨_, overrides, fields₂, field, rfl⟩ := Checked.seq_eq_ok.mp fields₃
    obtain ⟨_, _, fields₁, _, rfl⟩ := Checked.seq_eq_ok.mp fields₂
    obtain ⟨_, _, rfl⟩ := Checked.map_eq_ok.mp fields₁
    rcases Reader.withDefault_eq_ok.mp field with ⟨_, rfl⟩ | ⟨_, _, _, accepted⟩
    · exact List.nodup_nil
    · exact nodup_of_overridesReader accepted
  | _ => cases read

theorem overridesReader_texts {overrides : List String} (nodup : overrides.Nodup) :
    overridesReader (.texts overrides) = .ok overrides := by
  have items : (Value.texts overrides).items? = some (overrides.map Value.text) := rfl
  rw [overridesReader, items]
  · simp only [Value.mapM_display_text, distinct_of_nodup nodup]
  · exact nofun
  · exact nofun

theorem reader_toValue {plugin : Plugin} (valid : plugin.Valid) : reader plugin.toValue = .ok plugin := by
  have overrides := overridesReader_texts valid
  have base := Reader.list_texts plugin.base
  have orderAfter := Reader.list_texts plugin.orderAfter
  have orderBefore := Reader.list_texts plugin.orderBefore
  change Plugin.mk <$> Checked.ok plugin.filename <*> .ok plugin.name
    <*> (overridesReader (.texts plugin.overrides)).under (.name "overrides")
    <*> (Reader.list .text (.texts plugin.base)).under (.name "base")
    <*> (Reader.list .text (.texts plugin.orderAfter)).under (.name "order_after")
    <*> (Reader.list .text (.texts plugin.orderBefore)).under (.name "order_before")
    <*> .ok plugin.description = .ok plugin
  rw [overrides, base, orderAfter, orderBefore]
  rfl

end Plugin

end PluginAudit
