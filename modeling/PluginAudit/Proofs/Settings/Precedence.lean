import Mathlib
import PluginAudit.Proofs.Settings.Updating
import PluginAudit.Proofs.Yaml.Keys
import PluginAudit.Settings.Files

namespace PluginAudit

namespace Setting

/-- A value that a setting can have: not null, and one of the choices where there are choices. -/
def Acceptable (setting : Setting) (v : Value) : Prop :=
  v ≠ .null ∧ ∀ choices, setting.choices? = some choices → ∃ word ∈ choices, v = .text word

theorem accepts_iff (setting : Setting) (v : Value) : setting.accepts v = true ↔ setting.Acceptable v := by
  unfold accepts Acceptable
  cases setting.choices? <;> cases v <;> simp

instance (setting : Setting) (v : Value) : Decidable (setting.Acceptable v) :=
  decidable_of_iff _ (setting.accepts_iff v)

theorem ofName?_eq_some_iff (name : String) (setting : Setting) :
    ofName? name = some setting ↔ name = setting.name := by
  constructor
  · intro found
    unfold ofName? at found
    have named := List.find?_some found
    exact (of_decide_eq_true named).symm
  · rintro rfl
    exact ofName?_name setting

theorem ofKey?_eq_some_iff (key : Value) (setting : Setting) :
    ofKey? key = some setting ↔ key.bare = .text setting.name := by
  unfold ofKey?
  split
  · rename_i name named
    rw [named, ofName?_eq_some_iff, Value.text.injEq]
  · rename_i other
    exact iff_of_false (Option.some_ne_none setting).symm (other setting.name)

end Setting

namespace Settings

open PluginAudit.Log (Noted)
open PluginAudit.Value.Entries (NamedOnce named?_cons_same named?_cons_other named?_eq_none)

/-- The value that a layer has for a setting, if the setting can have it. -/
def offered? (layer : Value.Entries) (setting : Setting) : Option Value :=
  (layer.named? setting.name).filter (setting.Acceptable ·)

theorem apply_value_same {key : Value} {setting : Setting} (same : key.bare = .text setting.name)
    (settings : Settings) (v : Value) :
    (settings.apply (key, v)).value setting = if setting.Acceptable v then v else settings.value setting := by
  unfold apply
  rw [(Setting.ofKey?_eq_some_iff key setting).mpr same]
  by_cases accepted : setting.accepts v = true
  · simp [accepted, (setting.accepts_iff v).mp accepted, set]
  · have refused := mt (setting.accepts_iff v).mpr accepted
    simp [accepted, refused]

theorem apply_value_other {key : Value} {setting : Setting} (other : key.bare ≠ .text setting.name)
    (settings : Settings) (v : Value) : (settings.apply (key, v)).value setting = settings.value setting := by
  unfold apply
  split
  · rename_i found isFound
    have different : setting ≠ found := by
      rintro rfl
      exact other ((Setting.ofKey?_eq_some_iff key setting).mp isFound)
    split
    · exact if_neg different
    · rfl
  · rfl

theorem applyAll_value {layer : Value.Entries} (once : NamedOnce layer) (settings : Settings) (setting : Setting) :
    (settings.applyAll layer).value setting = (offered? layer setting).getD (settings.value setting) := by
  induction layer generalizing settings with
  | nil => rfl
  | cons entry rest ih =>
    obtain ⟨key, v⟩ := entry
    obtain ⟨apart, onceRest⟩ := List.pairwise_cons.mp once
    have step : (settings.applyAll ((key, v) :: rest)).value setting =
        (offered? rest setting).getD ((settings.apply (key, v)).value setting) := ih onceRest _
    rw [step]
    by_cases same : key.bare = .text setting.name
    · -- No later entry has the name, so nothing puts another value in this one's place.
      have later := named?_eq_none fun other member => apart other member setting.name same
      unfold offered?
      rw [later, named?_cons_same same, apply_value_same same]
      by_cases accepted : setting.Acceptable v <;> simp [Option.filter, accepted]
    · unfold offered?
      rw [named?_cons_other same, apply_value_other same]

/-- What a settings file brings: nothing if there is no such file or no mapping in it, else its mapping. -/
inductive Layer (disk : Disk) (path : Path) : Value.Entries → Prop where
  | absent (missing : disk.pathExists path = .ok false) : Layer disk path []
  | mapping {v : Value} {entries : Value.Entries} (present : disk.pathExists path = .ok true)
      (read : content disk path = .ok (.value v)) (isMapping : v.entries? = some entries) : Layer disk path entries
  | other {found : Content} (present : disk.pathExists path = .ok true) (read : content disk path = .ok found)
      (noMapping : ∀ v, found = .value v → v.entries? = none) : Layer disk path []

theorem content_yaml {disk : Disk} {path : Path} {text : String} {v : Value} (found : disk.read path = .ok text)
    (isYaml : path.suffix = ".yaml") (read : Yaml.read text.toList = .ok v) : content disk path = .ok (.value v) := by
  unfold content parse
  rw [found]
  simp only [isYaml, true_or, if_true, read]

theorem content_json {disk : Disk} {path : Path} {text : String} {v : Value} (found : disk.read path = .ok text)
    (isJson : path.suffix = ".json") (read : Json.read text.toList = .ok v) : content disk path = .ok (.value v) := by
  have noYaml : ¬ (path.suffix = ".yaml" ∨ path.suffix = ".yml") := by
    rw [isJson]
    decide
  unfold content parse
  rw [found]
  simp only [if_neg noYaml, if_pos isJson, read]

theorem namedOnce_of_parse {path : Path} {text : String} {v : Value} (read : parse path text = .ok (.value v))
    (written : Value.Entries) (isMap : v.bare = .map written) : NamedOnce written := by
  unfold parse at read
  split at read
  · split at read <;> cases read
    rename_i isRead
    exact Yaml.namedOnce_of_read isRead written isMap
  · split at read
    · split at read <;> cases read
      rename_i isRead
      exact Json.namedOnce_of_read isRead written isMap
    · cases read

theorem Layer.namedOnce {disk : Disk} {path : Path} {entries : Value.Entries} (layer : Layer disk path entries) :
    NamedOnce entries := by
  cases layer with
  | absent missing => exact .nil
  | other present read noMapping => exact .nil
  | mapping present read isMapping =>
    refine Value.namedOnce_of_entries? isMapping fun written isMap => ?_
    unfold content at read
    split at read
    · exact namedOnce_of_parse read written isMap
    · split at read <;> cases read
    · cases read

theorem ends_update (source : String) (entries : Value.Entries) (settings : Settings) :
    Ends (update source entries) (·.1 = settings) (verdict entries)
      (·.1 = settings.applyAll (entries.takeWhile isNoted)) := by
  rintro ⟨_, records⟩ rfl
  exact ⟨_, run_update source entries _ records, rfl⟩

theorem ends_add (record : Log.Record) (settings : Settings) :
    Ends (Noted.add record) (·.1 = settings) (.ok ()) (·.1 = settings) :=
  Ends.modify fun _ same => same

theorem ends_loadFile_mapping {disk : Disk} {path : Path} {v : Value} {entries : Value.Entries}
    (read : content disk path = .ok (.value v)) (isMapping : v.entries? = some entries) (settings : Settings) :
    Ends (loadFile disk path) (·.1 = settings) (verdict entries)
      (·.1 = settings.applyAll (entries.takeWhile isNoted)) := by
  unfold loadFile
  rw [read]
  refine Ends.bind (Ends.ofExcept _ _) ?_
  split
  · contradiction
  · contradiction
  · rename_i isNull
    cases isNull
    cases isMapping
  · rename_i found isFound
    cases isFound
    rw [isMapping]
    exact ends_update _ entries settings

theorem ends_loadFile_other {disk : Disk} {path : Path} {found : Content} (read : content disk path = .ok found)
    (noMapping : ∀ v, found = .value v → v.entries? = none) (settings : Settings) :
    Ends (loadFile disk path) (·.1 = settings) (.ok ()) (·.1 = settings) := by
  unfold loadFile
  rw [read]
  refine Ends.bind (Ends.ofExcept _ _) ?_
  split
  · exact ends_add _ settings
  · exact ends_add _ settings
  · exact Ends.pure _ _
  · rw [noMapping _ rfl]
    exact ends_add _ settings

theorem ends_loadFileIfPresent {disk : Disk} {path : Path} {entries : Value.Entries} (layer : Layer disk path entries)
    (settings : Settings) :
    Ends (loadFileIfPresent disk path) (·.1 = settings) (verdict entries)
      (·.1 = settings.applyAll (entries.takeWhile isNoted)) := by
  unfold loadFileIfPresent
  cases layer with
  | absent missing =>
    rw [missing]
    exact Ends.bind (Ends.ofExcept (.ok false) _) (Ends.pure _ _)
  | mapping present read isMapping =>
    rw [present]
    exact Ends.bind (Ends.ofExcept (.ok true) _) (ends_loadFile_mapping read isMapping settings)
  | other present read noMapping =>
    rw [present]
    exact Ends.bind (Ends.ofExcept (.ok true) _) (ends_loadFile_other read noMapping settings)

/-- An entry that brings a setting nothing, or a value that it can have. -/
def Fits (entry : Value × Value) : Prop :=
  ∃ setting : Setting, entry.1.bare = .text setting.name ∧ (entry.2 = .null ∨ setting.Acceptable entry.2)

namespace Fits

variable {entry : Value × Value} {entries : Value.Entries}

theorem isNoted (fits : Fits entry) : isNoted entry = true := by
  obtain ⟨setting, named, isNull | accepted⟩ := fits
  · simp [Settings.isNoted, (Setting.ofKey?_eq_some_iff entry.1 setting).mpr named, isNull, Value.isWritable]
  · simp [Settings.isNoted, (Setting.ofKey?_eq_some_iff entry.1 setting).mpr named,
      (setting.accepts_iff entry.2).mpr accepted]

theorem verdict (fits : ∀ entry ∈ entries, Fits entry) : verdict entries = .ok () :=
  Noted.verdict_of_all fun entry member => (fits entry member).isNoted

theorem remark? (fits : Fits entry) (source : String) : remark? source entry = .ok none := by
  obtain ⟨setting, named, brings⟩ := fits
  unfold Settings.remark?
  rw [(Setting.ofKey?_eq_some_iff entry.1 setting).mpr named]
  dsimp only
  split
  · rfl
  · rename_i noNull
    have accepted : setting.accepts entry.2 = true := by
      rcases brings with isNull | accepted
      · exact absurd isNull noNull
      · exact (setting.accepts_iff entry.2).mpr accepted
    rw [if_pos accepted]
  · rfl

theorem run_update (fits : ∀ entry ∈ entries, Fits entry) (source : String) (settings : Settings) :
    (update source entries).run settings = (.ok (), settings.applyAll entries, []) := by
  have all : entries.takeWhile Settings.isNoted = entries :=
    List.takeWhile_eq_self_iff.mpr fun entry member => (fits entry member).isNoted
  have none : entries.filterMap (Noted.note? (Settings.remark? source)) = [] :=
    List.filterMap_eq_nil_iff.mpr fun entry member => Noted.note?_of_ok ((fits entry member).remark? source)
  rw [Noted.run, Settings.run_update, Fits.verdict fits, all, none, List.append_nil]

end Fits

theorem applyAll_append (settings : Settings) (entries others : Value.Entries) :
    settings.applyAll (entries ++ others) = (settings.applyAll entries).applyAll others :=
  List.foldl_append

theorem applyAll_noted {entries : Value.Entries} (noted : verdict entries = .ok ()) (settings : Settings) :
    settings.applyAll (entries.takeWhile isNoted) = settings.applyAll entries := by
  rw [List.takeWhile_eq_self_iff.mpr ((Noted.verdict_eq_ok_iff entries).mp noted)]

/-- A change that applies entries, or fails if a remark on one of them cannot be written. -/
def Applies (change : Change Unit) (entries : Value.Entries) : Prop :=
  ∀ settings, Ends change (·.1 = settings) (verdict entries) fun state =>
    verdict entries = .ok () → state.1 = settings.applyAll entries

namespace Applies

variable {change next : Change Unit} {entries others : Value.Entries}

theorem of_ends (ends : ∀ settings, Ends change (·.1 = settings) (verdict entries)
    (·.1 = settings.applyAll (entries.takeWhile isNoted))) : Applies change entries := by
  intro settings state same
  obtain ⟨after, ran, applied⟩ := ends settings state same
  exact ⟨after, ran, fun noted => applied.trans (applyAll_noted noted settings)⟩

theorem append (applies : Applies change entries) (applied : Applies next others) :
    Applies (change >>= fun _ => next) (entries ++ others) := by
  intro settings
  have joined : verdict (entries ++ others) = verdict entries >>= fun _ => verdict others :=
    Noted.verdict_append entries others
  rw [joined]
  cases noted : verdict entries with
  | error failure =>
    have fails := applies settings
    rw [noted] at fails
    intro state same
    obtain ⟨after, ran, -⟩ := fails.bind_error (fun _ => next) state same
    exact ⟨after, ran, nofun⟩
  | ok _ =>
    have first : Ends change (·.1 = settings) (.ok ()) (·.1 = settings.applyAll entries) := by
      intro state same
      obtain ⟨after, ran, all⟩ := applies settings state same
      exact ⟨after, ran.trans (by rw [noted]), all noted⟩
    refine Ends.bind first ?_
    rw [applyAll_append]
    exact applied _

theorem run_reach (applies : Applies change entries) (settings : Settings) :
    ∃ records, (Noted.reach settings change).run =
      ((verdict entries).map fun _ => settings.applyAll entries, records) := by
  obtain ⟨⟨state, records⟩, ran, all⟩ := applies settings (settings, []) rfl
  refine ⟨records, (Noted.run_reach ran).trans ?_⟩
  cases noted : verdict entries with
  | error failure => rfl
  | ok _ => rw [← all noted]

end Applies

theorem applies_update (source : String) (entries : Value.Entries) : Applies (update source entries) entries :=
  .of_ends (ends_update source entries)

theorem applies_layer {disk : Disk} {path : Path} {entries : Value.Entries} (layer : Layer disk path entries) :
    Applies (loadFileIfPresent disk path) entries :=
  .of_ends (ends_loadFileIfPresent layer)

section

variable {disk : Disk} {userFile projectDirectory : Path} {user project : Value.Entries}

/-- Settings are loaded from all layers, unless a remark on an entry of one of them cannot be written. -/
theorem run_load (userLayer : Layer disk userFile user)
    (projectLayer : Layer disk (projectDirectory.child projectFileName) project) (given : Value.Entries) :
    ∃ records, (load disk given userFile projectDirectory).run =
      ((verdict (user ++ (project ++ given))).map fun _ => defaults.applyAll (user ++ (project ++ given)), records) := by
  have applies : Applies (loadLayers disk given userFile projectDirectory) (user ++ (project ++ given)) :=
    (applies_layer userLayer).append ((applies_layer projectLayer).append (applies_update _ given))
  exact applies.run_reach defaults

def loadFiles (disk : Disk) (userFile projectDirectory : Path) : Change Unit := do
  loadFileIfPresent disk userFile
  loadFileIfPresent disk (projectDirectory.child projectFileName)

theorem loadLayers_eq (disk : Disk) (given : Value.Entries) (userFile projectDirectory : Path) :
    loadLayers disk given userFile projectDirectory =
      loadFiles disk userFile projectDirectory >>= fun _ => update "command line" given := by
  rw [loadFiles, bind_assoc]
  rfl

theorem run_load_of_nil {lower : Settings} (files : (load disk [] userFile projectDirectory).run.1 = .ok lower)
    {given : Value.Entries} (noted : verdict given = .ok ()) :
    (load disk given userFile projectDirectory).run.1 = .ok (lower.applyAll given) := by
  obtain ⟨result, state, records, ran⟩ : ∃ result state records,
      (loadFiles disk userFile projectDirectory).run defaults = (result, state, records) := ⟨_, _, _, rfl⟩
  cases result with
  | error failure =>
    have failed : (loadLayers disk [] userFile projectDirectory).run defaults = (.error failure, state, records) := by
      rw [loadLayers_eq]
      exact run_bind_of_error ran _
    rw [load, Noted.run_reach failed] at files
    cases files
  | ok _ =>
    have layers : ∀ given, (loadLayers disk given userFile projectDirectory).run defaults =
        (verdict given, state.applyAll (given.takeWhile isNoted),
          records ++ (given.takeWhile isNoted).filterMap (Noted.note? (remark? "command line"))) := by
      intro given
      rw [loadLayers_eq, Noted.run, run_bind_of_ok ran, run_update]
    rw [load, Noted.run_reach (layers [])] at files
    rw [load, Noted.run_reach (layers given), noted, applyAll_noted noted]
    cases files
    rfl

end

/-- Settings are loaded just if every remark on an entry of a layer can be written. Then each setting has the value of the
highest layer that offers one: what is given with the command, then the project's file, then the user's file, then the
default. -/
theorem load_value {disk : Disk} {given user project : Value.Entries} {userFile projectDirectory : Path}
    (once : NamedOnce given) (userLayer : Layer disk userFile user)
    (projectLayer : Layer disk (projectDirectory.child projectFileName) project) :
    ((∀ entry ∈ user ++ (project ++ given), isNoted entry = true) →
      ∃ settings records, (load disk given userFile projectDirectory).run = (.ok settings, records) ∧
        ∀ setting, settings.value setting =
          (((offered? given setting).or (offered? project setting)).or (offered? user setting)).getD setting.default) ∧
      ((∃ entry ∈ user ++ (project ++ given), isNoted entry = false) →
        ∃ records, (load disk given userFile projectDirectory).run =
          (.error (.data (.unwritableInteger Number.digitLimit)), records)) := by
  obtain ⟨records, ran⟩ := run_load userLayer projectLayer given
  constructor
  · intro all
    have noted : verdict (user ++ (project ++ given)) = .ok () := Noted.verdict_of_all all
    rw [noted] at ran
    refine ⟨_, records, ran, fun setting => ?_⟩
    rw [applyAll_append, applyAll_append, applyAll_value once, applyAll_value projectLayer.namedOnce,
      applyAll_value userLayer.namedOnce]
    cases offered? given setting <;> cases offered? project setting <;> cases offered? user setting <;> rfl
  · intro unnoted
    have fails : verdict (user ++ (project ++ given)) = .error (.data longFault) := Noted.verdict_of_exists unnoted
    rw [fails] at ran
    exact ⟨records, ran⟩

def verboseText : String :=
  "verbose: true\nfail_on: info\n"

def verboseChars : List Char :=
  ['v', 'e', 'r', 'b', 'o', 's', 'e', ':', ' ', 't', 'r', 'u', 'e', '\n', 'f', 'a', 'i', 'l', '_', 'o', 'n', ':', ' ',
    'i', 'n', 'f', 'o', '\n']

def verboseEntries : Value.Entries :=
  [(.text "verbose", .bool true), (.text "fail_on", .text "info")]

def isVerbose : Except Yaml.Fault Value → Bool
  | .ok (.map [(.text "verbose", .bool true), (.text "fail_on", .text "info")]) => true
  | _ => false

theorem eq_of_isVerbose {result : Except Yaml.Fault Value} (found : isVerbose result = true) :
    result = .ok (.map verboseEntries) := by
  unfold isVerbose at found
  split at found
  · rfl
  · cases found

theorem read_verboseText : Yaml.read verboseText.toList = .ok (.map verboseEntries) := by
  -- The kernel would decode the text once for each look at it.
  have chars : verboseText.toList = verboseChars := by decide +kernel
  rw [chars]
  exact eq_of_isVerbose (by decide +kernel)

def layeredUser : Value.Entries :=
  [(.text "skip_prefix", .text "#"), (.text "verbose", .int 1)]

def layeredDisk : Disk where
  workingDirectory := ⟨.root, ["game"]⟩
  home := ⟨.root, ["home"]⟩
  entries := [(["home"], .directory), (["game"], .directory),
    (["home", "own.json"], .text "\x7b\"skip_prefix\": \"#\", \"verbose\": 1\x7d"),
    (["game", ".mzguard.yaml"], .text verboseText)]
  denied := []

theorem layer_layeredUser : Layer layeredDisk ⟨.root, ["home", "own.json"]⟩ layeredUser :=
  .mapping rfl (content_json rfl rfl (v := .map layeredUser) (by cbv)) rfl

theorem layer_layeredProject : Layer layeredDisk (Path.child ⟨.root, ["game"]⟩ projectFileName) verboseEntries :=
  .mapping rfl (content_yaml rfl rfl read_verboseText) rfl

theorem load_value_layered :
    let given : Value.Entries := [(.text "max_workers", .int 4), (.text "fail_on", .text "often"),
      (.text "verbose", .null), (.text "speed", .int 9)]
    NamedOnce given ∧ Layer layeredDisk ⟨.root, ["home", "own.json"]⟩ layeredUser ∧
      Layer layeredDisk (Path.child ⟨.root, ["game"]⟩ projectFileName) verboseEntries ∧
      ∃ settings records,
        (load layeredDisk given ⟨.root, ["home", "own.json"]⟩ ⟨.root, ["game"]⟩).run = (.ok settings, records) ∧
        settings.value .maxWorkers = .int 4 ∧ settings.value .verbose = .bool true ∧
        settings.value .failOn = .text "info" ∧ settings.value .skipMark = .text "#" ∧
        settings.value .outputFormat = .text "markdown" := by
  intro given
  have once : NamedOnce given := by simp [given, NamedOnce, Value.Entries.keys, Value.Apart, Value.bare]
  have noted : ∀ entry ∈ layeredUser ++ (verboseEntries ++ given), isNoted entry = true := by decide
  obtain ⟨settings, records, ran, values⟩ := (load_value once layer_layeredUser layer_layeredProject).1 noted
  refine ⟨once, layer_layeredUser, layer_layeredProject, settings, records, ran, ?_, ?_, ?_, ?_, ?_⟩
  · exact values .maxWorkers
  · exact values .verbose
  · exact values .failOn
  · exact values .skipMark
  · exact values .outputFormat

theorem not_isNoted_format {n : Int} (long : (Value.int n).isWritable = false) :
    isNoted (.text "output_format", .int n) = false := by
  have named : Setting.ofKey? (.text "output_format") = some .outputFormat := by decide
  rw [isNoted, named]
  exact long

/-- A number that is no choice hides all values below it if it has too many digits. -/
theorem load_fails_long :
    offered? verboseEntries .failOn = some (.text "info") ∧
      ∃ records, (load layeredDisk [(.text "output_format", .int (10 ^ Number.digitLimit))]
        ⟨.root, ["home", "own.json"]⟩ ⟨.root, ["game"]⟩).run =
          (.error (.data (.unwritableInteger Number.digitLimit)), records) := by
  refine ⟨by rfl, ?_⟩
  obtain ⟨records, ran⟩ := run_load layer_layeredUser layer_layeredProject
    [(.text "output_format", .int (10 ^ Number.digitLimit))]
  have fails : verdict (layeredUser ++ (verboseEntries ++ [(.text "output_format", .int (10 ^ Number.digitLimit))])) =
      .error (.data longFault) := Noted.verdict_of_exists ⟨_, by simp, not_isNoted_format Value.not_isWritable_power⟩
  rw [fails] at ran
  exact ⟨records, ran⟩

end Settings

end PluginAudit
