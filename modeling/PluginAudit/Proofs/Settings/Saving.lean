import Mathlib
import PluginAudit.Proofs.Files.Writing
import PluginAudit.Proofs.Json.RoundTrip
import PluginAudit.Proofs.Settings.Precedence
import PluginAudit.Proofs.Value.LineEnds

namespace PluginAudit

namespace Setting

theorem acceptable_default {setting : Setting} (given : setting.default ≠ .null) : setting.Acceptable setting.default := by
  refine ⟨given, fun choices isChoice => ?_⟩
  cases setting <;> cases isChoice
  · exact ⟨"markdown", by decide, rfl⟩
  · exact ⟨"never", by decide, rfl⟩

theorem default_ne_null_of_choices {setting : Setting} {choices : List String}
    (isChoice : setting.choices? = some choices) : setting.default ≠ .null := by
  cases setting <;> cases isChoice <;> exact Value.noConfusion

theorem name_injective : Function.Injective name := by
  intro setting other same
  have found := ofName?_name setting
  rw [same, ofName?_name] at found
  exact (Option.some.inj found).symm

end Setting

namespace Settings

open PluginAudit.Log (Noted)
open PluginAudit.Value.Entries (NamedOnce keys named?_filter)

/-- Settings that updates lead to, those that fail included. -/
inductive Reachable : Settings → Prop where
  | fresh : Reachable defaults
  | updated {settings after : Settings} {source : String} {entries : Value.Entries} {result : Except Failure Unit}
      {records : List Log.Record} (reachable : Reachable settings)
      (ran : (update source entries).run settings = (result, after, records)) : Reachable after

theorem Reachable.applyAll {settings : Settings} (reachable : Reachable settings) {entries : Value.Entries}
    (noted : ∀ entry ∈ entries, isNoted entry = true) : Reachable (settings.applyAll entries) := by
  have ran := run_update "" entries settings []
  rw [List.takeWhile_eq_self_iff.mpr noted] at ran
  exact .updated reachable ran

def Sound (settings : Settings) : Prop :=
  ∀ setting : Setting, setting.Acceptable (settings.value setting) ∨
    settings.value setting = .null ∧ setting.default = .null

theorem sound_defaults : Sound defaults := by
  intro setting
  by_cases isNull : setting.default = .null
  · exact .inr ⟨isNull, isNull⟩
  · exact .inl (Setting.acceptable_default isNull)

namespace Sound

theorem apply {settings : Settings} (sound : Sound settings) (entry : Value × Value) : Sound (settings.apply entry) := by
  obtain ⟨key, v⟩ := entry
  intro setting
  by_cases same : key.bare = .text setting.name
  · rw [apply_value_same same]
    split
    · rename_i accepted
      exact .inl accepted
    · exact sound setting
  · rw [apply_value_other same]
    exact sound setting

theorem applyAll {settings : Settings} (sound : Sound settings) (entries : Value.Entries) :
    Sound (settings.applyAll entries) := by
  induction entries generalizing settings with
  | nil => exact sound
  | cons entry rest ih => exact ih (sound.apply entry)

theorem acceptable_of_choices {settings : Settings} (sound : Sound settings) {setting : Setting} {choices : List String}
    (isChoice : setting.choices? = some choices) : ∃ word ∈ choices, settings.value setting = .text word := by
  rcases sound setting with accepted | ⟨-, isNull⟩
  · exact accepted.2 choices isChoice
  · exact absurd isNull (Setting.default_ne_null_of_choices isChoice)

end Sound

theorem Reachable.sound {settings : Settings} (reachable : Reachable settings) : Sound settings := by
  induction reachable with
  | fresh => exact sound_defaults
  | @updated settings _ source entries _ _ _ ran ih =>
    rw [Noted.run, run_update] at ran
    cases ran
    exact ih.applyAll _

theorem namedOnce_entries (settings : Settings) : NamedOnce settings.entries := by
  have different : Setting.all.Nodup := by decide
  unfold NamedOnce keys entries
  rw [List.map_map, List.pairwise_map]
  refine different.imp fun {setting other} apart name named again => apart ?_
  cases named
  exact Setting.name_injective (Value.text.inj again).symm

theorem namedOnce_given (settings : Settings) : NamedOnce settings.given :=
  settings.namedOnce_entries.sublist (List.filter_sublist.map _)

theorem named?_entries (settings : Settings) (setting : Setting) :
    settings.entries.named? setting.name = some (settings.value setting) := by
  cases setting <;> rfl

def isGiven : Value → Bool
  | .null => false
  | _ => true

theorem named?_given (settings : Settings) (setting : Setting) :
    settings.given.named? setting.name = (some (settings.value setting)).filter isGiven := by
  rw [← named?_entries]
  exact named?_filter settings.namedOnce_entries isGiven setting.name

theorem named?_given_of_null {settings : Settings} {setting : Setting} (isNull : settings.value setting = .null) :
    settings.given.named? setting.name = none := by
  rw [named?_given, isNull]
  rfl

theorem named?_given_of_ne {settings : Settings} {setting : Setting} (given : settings.value setting ≠ .null) :
    settings.given.named? setting.name = some (settings.value setting) := by
  rw [named?_given]
  cases found : settings.value setting <;> first | exact absurd found given | rfl

theorem offered?_entries (settings : Settings) (setting : Setting) :
    offered? settings.entries setting =
      if setting.Acceptable (settings.value setting) then some (settings.value setting) else none := by
  rw [offered?, named?_entries]
  by_cases accepted : setting.Acceptable (settings.value setting) <;> simp [Option.filter, accepted]

theorem eq_of_value {settings other : Settings} (same : ∀ setting, settings.value setting = other.value setting) :
    settings = other := by
  cases settings
  cases other
  exact congrArg Settings.mk (funext same)

theorem applyAll_entries {settings : Settings} (sound : Sound settings) :
    defaults.applyAll settings.entries = settings := by
  refine eq_of_value fun setting => ?_
  rw [applyAll_value settings.namedOnce_entries, offered?_entries]
  rcases sound setting with accepted | ⟨isNull, byDefault⟩
  · rw [if_pos accepted, Option.getD_some]
  · have refused : ¬ setting.Acceptable (settings.value setting) := fun accepted => accepted.1 isNull
    rw [if_neg refused, Option.getD_none]
    exact byDefault.trans isNull.symm

/-- A relation between values that may be taken for each other: what a setting accepts, it accepts in either form. -/
structure Likeness (like : Value → Value → Prop) : Prop where
  refl (v : Value) : like v v
  acceptable {setting : Setting} {v w : Value} (alike : like v w) (accepted : setting.Acceptable v) : setting.Acceptable w

theorem likeness_eq : Likeness Eq where
  refl _ := rfl
  acceptable alike accepted := alike ▸ accepted

/-- Entries that have like values under the same names, and the second of them have no keys but names. -/
structure Alike (like : Value → Value → Prop) (first second : Value.Entries) : Prop where
  named (name : String) : Option.Rel like (first.named? name) (second.named? name)
  names : ∀ key ∈ second.keys, ∃ name, key.bare = .text name

theorem like_applyAll {like : Value → Value → Prop} (likeness : Likeness like) {settings : Settings}
    (sound : Sound settings) {read : Value.Entries} (once : NamedOnce read)
    (named : ∀ name, Option.Rel like (settings.given.named? name) (read.named? name)) (setting : Setting) :
    like (settings.value setting) ((defaults.applyAll read).value setting) := by
  have near := named setting.name
  rw [applyAll_value once, offered?]
  rcases sound setting with accepted | ⟨isNull, byDefault⟩
  · rw [named?_given_of_ne accepted.1] at near
    generalize read.named? setting.name = found at near
    cases near with
    | some near =>
      have again := likeness.acceptable near accepted
      simpa [Option.filter, again] using near
  · rw [named?_given_of_null isNull] at near
    generalize read.named? setting.name = found at near
    cases near
    have same : defaults.value setting = settings.value setting := byDefault.trans isNull.symm
    rw [Option.filter_none, Option.getD_none, same]
    exact likeness.refl _

theorem verdict_alike {like : Value → Value → Prop} (likeness : Likeness like) {settings : Settings}
    (sound : Sound settings) {read : Value.Entries} (once : NamedOnce read) (alike : Alike like settings.given read) :
    verdict read = .ok () := by
  refine Noted.verdict_of_all fun entry member => ?_
  obtain ⟨name, isName⟩ := alike.names entry.1 (List.mem_map_of_mem member)
  cases isSetting : Setting.ofKey? entry.1 with
  | none =>
    rw [isNoted, isSetting]
    exact (Value.isWritable_bare entry.1).symm.trans (by rw [isName]; rfl)
  | some setting =>
    have key := (Setting.ofKey?_eq_some_iff entry.1 setting).mp isSetting
    have near := alike.named setting.name
    rw [Value.Entries.named?_of_mem once member key] at near
    refine Fits.isNoted ⟨setting, key, .inr ?_⟩
    rcases sound setting with accepted | ⟨isNull, -⟩
    · rw [named?_given_of_ne accepted.1] at near
      cases near with
      | some near => exact likeness.acceptable near accepted
    · rw [named?_given_of_null isNull] at near
      cases near

theorem names_given (settings : Settings) : ∀ key ∈ settings.given.keys, ∃ name, key.bare = .text name := by
  intro key member
  obtain ⟨entry, isEntry, rfl⟩ := List.mem_map.mp member
  obtain ⟨setting, -, rfl⟩ := List.mem_map.mp (List.mem_of_mem_filter isEntry)
  exact ⟨setting.name, rfl⟩

theorem rel_refl {like : Value → Value → Prop} (likeness : Likeness like) (found : Option Value) :
    Option.Rel like found found := by
  cases found with
  | none => exact .none
  | some v => exact .some (likeness.refl v)

theorem applyAll_given {settings : Settings} (sound : Sound settings) : defaults.applyAll settings.given = settings :=
  eq_of_value fun setting =>
    (like_applyAll likeness_eq sound settings.namedOnce_given (fun _ => rel_refl likeness_eq _) setting).symm

theorem Sound.fits {settings : Settings} (sound : Sound settings) : ∀ entry ∈ settings.entries, Fits entry := by
  intro entry member
  obtain ⟨setting, -, rfl⟩ := List.mem_map.mp member
  rcases sound setting with accepted | ⟨isNull, -⟩
  · exact ⟨setting, rfl, .inr accepted⟩
  · exact ⟨setting, rfl, .inl isNull⟩

theorem return_not_mem_of_print {format : Format} {entries : Value.Entries} {text : String}
    (printed : print format entries = .ok text) : '\r' ∉ text.toList := by
  cases format with
  | yaml =>
    have written := ok_of_mapError printed
    unfold Value.ifWritable at written
    split at written <;> cases written
    exact Yaml.return_not_mem_print entries
  | json =>
    have written := ok_of_mapError printed
    unfold Json.dump Json.dumpWithin at written
    split at written <;> cases written
    exact Json.return_not_mem_print jsonStyle (.map entries)

theorem exists_of_save {settings : Settings} {path : Path} {format : Format} {disk after : Disk}
    (saved : (settings.save path format).run disk = (.ok (), after)) :
    ∃ text between, print format settings.given = .ok text ∧
      (Disk.Change.write path text).run between = (.ok (), after) := by
  obtain ⟨-, made, -, saved⟩ := exists_of_run_bind saved
  obtain ⟨text, between, printed, written⟩ := exists_of_run_bind saved
  exact ⟨text, between, congrArg Prod.fst printed, written⟩

theorem print_of_save {settings : Settings} {path : Path} {format : Format} {disk after : Disk} {text : String}
    (saved : (settings.save path format).run disk = (.ok (), after)) (read : after.read path = .ok text) :
    print format settings.given = .ok text := by
  obtain ⟨written, between, printed, saved⟩ := exists_of_save saved
  obtain ⟨place, located, free, rfl⟩ := Disk.Change.exists_of_write saved
  rw [Disk.read_put located free] at read
  split at read
  · cases read
  · cases read
    rw [printed, Disk.plainText_eq (return_not_mem_of_print printed)]

theorem exists_of_loadFile {disk : Disk} {path : Path} {text : String} {v : Value} {entries : Value.Entries}
    (found : disk.read path = .ok text) (read : parse path text = .ok (.value v)) (isMapping : v.entries? = some entries)
    (noted : verdict entries = .ok ()) (settings : Settings) :
    ∃ records, (loadFile disk path).run settings = (.ok (), settings.applyAll entries, records) := by
  have content : content disk path = .ok (.value v) := by
    unfold content
    rw [found]
    exact read
  obtain ⟨⟨_, records⟩, ran, rfl⟩ := ends_loadFile_mapping content isMapping settings (settings, []) rfl
  rw [noted, applyAll_noted noted] at ran
  exact ⟨records, ran⟩

/-- Settings that updates lead to keep to the choices, and come back both from all their values and from those that are
not null, without a remark. So do settings from the file that they were saved to, as far as their entries are read back
from its text. -/
theorem saved_reproduce {settings : Settings} (reachable : Reachable settings) :
    (∀ setting choices, setting.choices? = some choices → ∃ word ∈ choices, settings.value setting = .text word) ∧
      (∀ source, (update source settings.entries).run defaults = (.ok (), settings, []) ∧
        (update source settings.given).run defaults = (.ok (), settings, [])) ∧
      ∀ {like : Value → Value → Prop}, Likeness like → ∀ {path format disk after text},
        (settings.save path format).run disk = (.ok (), after) → after.read path = .ok text →
        print format settings.given = .ok text ∧
          ∀ {v read}, parse path text = .ok (.value v) → v.entries? = some read → Alike like settings.given read →
            ∃ loaded records, (loadFile after path).run defaults = (.ok (), loaded, records) ∧
              ∀ setting, like (settings.value setting) (loaded.value setting) := by
  have sound := reachable.sound
  refine ⟨fun _ _ => sound.acceptable_of_choices, fun source => ⟨?_, ?_⟩, ?_⟩
  · rw [Fits.run_update sound.fits, applyAll_entries sound]
  · have fits : ∀ entry ∈ settings.given, Fits entry :=
      fun entry member => sound.fits entry (List.mem_of_mem_filter member)
    rw [Fits.run_update fits, applyAll_given sound]
  intro like likeness path format disk after text saved found
  refine ⟨print_of_save saved found, ?_⟩
  intro v read parsed isMapping alike
  have once : NamedOnce read := Value.namedOnce_of_entries? isMapping (namedOnce_of_parse parsed)
  have noted := verdict_alike likeness sound once alike
  obtain ⟨records, loaded⟩ := exists_of_loadFile found parsed isMapping noted defaults
  exact ⟨_, records, loaded, like_applyAll likeness sound once alike.named⟩

def newDisk : Disk where
  workingDirectory := ⟨.root, ["game"]⟩
  home := ⟨.root, ["home"]⟩
  entries := [(["home"], .directory), (["game"], .directory)]
  denied := []

/-- Two updates, with words that are no choices, nulls and a key that names no setting. -/
def twiceUpdated : Settings :=
  (defaults.applyAll [(.text "output_format", .text "json"), (.text "fail_on", .text "always"),
    (.text "max_workers", .int 4)]).applyAll
  [(.text "max_workers", .null), (.int 1, .null), (.text "fail_on", .bool true), (.text "verbose", .text "é")]

def twiceUpdatedFields : Register Value :=
  [("warning_threshold", .int 10), ("max_workers", .int 4), ("include_disabled", .bool false), ("skip_prefix", .text "_"),
    ("output_format", .text "json"), ("fail_on", .text "never"), ("verbose", .text "é")]

theorem plain_twiceUpdatedFields : Json.Plain Number.usualLimit (.record twiceUpdatedFields) := by
  refine .record (by decide) ?_
  simp only [twiceUpdatedFields, List.forall_mem_cons]
  exact ⟨.int rfl, .int rfl, .bool _, .text _, .text _, .text _, .text _, by simp⟩

theorem saved_reproduce_twice :
    let path : Path := ⟨.root, ["home", "own.json"]⟩
    let after := newDisk.put path.parts (.text (Json.print jsonStyle (.map twiceUpdated.given)))
    Reachable twiceUpdated ∧ Likeness Eq ∧ (twiceUpdated.save path .json).run newDisk = (.ok (), after) ∧
      ∃ loaded records, (loadFile after path).run defaults = (.ok (), loaded, records) ∧
        loaded.value .maxWorkers = .int 4 ∧ loaded.value .outputFormat = .text "json" ∧
        loaded.value .failOn = .text "never" ∧ loaded.value .popularityFile = .null := by
  intro path after
  have reachable : Reachable twiceUpdated := (Reachable.fresh.applyAll (by decide)).applyAll (by decide)
  have saved : (twiceUpdated.save path .json).run newDisk = (.ok (), after) := rfl
  have found : after.read path = .ok (Json.print jsonStyle (.map twiceUpdated.given)) := by
    have located : newDisk.locate path = .ok path.parts := rfl
    have free : newDisk.lookUp? path.parts = none := rfl
    rw [Disk.read_put located (by simp [free]), Disk.plainText_eq (Json.return_not_mem_print _ _)]
    rfl
  have parsed : parse path (Json.print jsonStyle (.map twiceUpdated.given)) = .ok (.value (.map twiceUpdated.given)) := by
    have isRecord : Value.map twiceUpdated.given = .record twiceUpdatedFields := rfl
    have read := Json.read_write plain_twiceUpdatedFields jsonStyle
    have isJson : Path.suffix ⟨.root, ["home", "own.json"]⟩ = ".json" := by decide
    simp [parse, path, isJson, isRecord, Json.print, Json.read, read]
  have alike : Alike Eq twiceUpdated.given twiceUpdated.given := ⟨fun _ => rel_refl likeness_eq _, names_given _⟩
  have all := (saved_reproduce reachable).2.2 likeness_eq saved found
  obtain ⟨loaded, records, ran, same⟩ := all.2 parsed rfl alike
  refine ⟨reachable, likeness_eq, saved, loaded, records, ran, ?_, ?_, ?_, ?_⟩
  · exact (same .maxWorkers).symm
  · exact (same .outputFormat).symm
  · exact (same .failOn).symm
  · exact (same .popularityFile).symm

end Settings

end PluginAudit
