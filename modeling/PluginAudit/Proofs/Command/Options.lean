import PluginAudit.Proofs.Command.Given
import PluginAudit.Proofs.Command.Terminal
import PluginAudit.Proofs.Register
import PluginAudit.Proofs.Settings.Precedence

namespace PluginAudit.Command

def scanOption? : Setting → Option String
  | .warningThreshold => some "threshold"
  | .popularityFile => some "popularity"
  | .maxWorkers => some "workers"
  | .includeDisabled => some "includeDisabled"
  | .skipMark => none
  | .outputFormat => some "format"
  | .failOn => some "failOn"
  | .verbose => some "verbose"

/-- What a command line gives for a setting. -/
def Spec.State.givenFor? (state : Spec.State) (setting : Setting) : Option (String × Given) :=
  (scanOption? setting).bind fun key => (Register.get? state.given key).map fun given => (key, given)

def IsSwitch (setting : Setting) : Prop :=
  setting = .includeDisabled ∨ setting = .verbose

instance : DecidablePred IsSwitch :=
  fun _ => instDecidableOr

def scanLayer (parameters : Parameters) : Value.Entries :=
  (scanSettings parameters).map fun entry => (.text entry.1, entry.2)

theorem namedOnce_scanLayer (parameters : Parameters) : (scanLayer parameters).NamedOnce := by
  simp [scanLayer, scanSettings, reportSettings, Value.Entries.NamedOnce, Value.Entries.keys, Value.Apart, Value.bare,
    Setting.name]

def brought (parameters : Parameters) (setting : Setting) (key : String) : Value :=
  if IsSwitch setting then switched parameters key else parameters.value key

theorem named?_scanLayer (parameters : Parameters) (setting : Setting) :
    (scanLayer parameters).named? setting.name = (scanOption? setting).map (brought parameters setting) := by
  cases setting <;> rfl

theorem scanOption_of_mem_scanLayer {parameters : Parameters} {entry : Value × Value}
    (member : entry ∈ scanLayer parameters) :
    ∃ setting key, scanOption? setting = some key ∧ entry = (.text setting.name, brought parameters setting key) := by
  have settings : scanLayer parameters =
      [.popularityFile, .warningThreshold, .outputFormat, .failOn, .maxWorkers, .includeDisabled, .verbose].map
        fun setting => (.text setting.name, brought parameters setting ((scanOption? setting).getD "")) := rfl
  rw [settings] at member
  obtain ⟨setting, isSetting, rfl⟩ := List.mem_map.mp member
  cases setting <;> first | exact ⟨_, _, rfl, rfl⟩ | exact absurd isSetting (by decide)

/-- How options of a kind serve a setting: as a switch, with any value, or with the setting's own choices. -/
inductive Serves (setting : Setting) : OptionKind → Prop where
  | switch {off : List String} (isSwitch : IsSwitch setting) (free : setting.choices? = none)
      (only : off ≠ [] → setting = .verbose) : Serves setting (.flag off)
  | free {shape : Shape} (noSwitch : ¬ IsSwitch setting) (free : setting.choices? = none) :
      Serves setting (.valued shape)
  | choice {words : List String} (noSwitch : ¬ IsSwitch setting) (choices : setting.choices? = some words) :
      Serves setting (.valued (.choice words))

theorem serves_scanOption {setting : Setting} {key : String} (named : scanOption? setting = some key) :
    ∃ option, scanSpec.options.find? (·.key = key) = some option ∧ Serves setting option.kind := by
  cases setting <;> cases named
  · exact ⟨_, rfl, .free (by decide) rfl⟩
  · exact ⟨_, rfl, .free (by decide) rfl⟩
  · exact ⟨_, rfl, .free (by decide) rfl⟩
  · exact ⟨_, rfl, .switch (by decide) rfl (absurd rfl)⟩
  · exact ⟨_, rfl, .choice (by decide) rfl⟩
  · exact ⟨_, rfl, .choice (by decide) rfl⟩
  · exact ⟨_, rfl, .switch (by decide) rfl fun _ => rfl⟩

theorem Serves.acceptable {setting : Setting} {kind : OptionKind} (serves : Serves setting kind) {disk : Disk}
    {given : Given} {v : Value} (gives : kind.Gives disk given v) : setting.Acceptable v := by
  cases serves with
  | switch isSwitch free only =>
    cases gives <;> exact ⟨nofun, by simp [free]⟩
  | free noSwitch free =>
    cases gives with
    | valued read => exact ⟨Shape.ne_null_of_read read, by simp [free]⟩
  | choice noSwitch choices =>
    cases gives with
    | valued read =>
      refine ⟨Shape.ne_null_of_read read, fun words isChoices => ?_⟩
      rw [choices] at isChoices
      cases isChoices
      exact Shape.word_of_read_choice read

theorem Serves.of_off {setting : Setting} {kind : OptionKind} (serves : Serves setting kind) {disk : Disk} {v : Value}
    (gives : kind.Gives disk (.flag false) v) : IsSwitch setting ∧ setting = .verbose := by
  cases gives with
  | off named =>
    cases serves with
    | switch isSwitch free only => exact ⟨isSwitch, only named⟩

section

variable {parameters : Parameters} {setting : Setting} {key : String}

theorem brought_absent (absent : Register.get? parameters key = none) : brought parameters setting key = .null := by
  simp [brought, switched, Parameters.isOn, Parameters.value, absent]

theorem brought_off (isSwitch : IsSwitch setting) (off : Register.get? parameters key = some (.bool false)) :
    brought parameters setting key = .null := by
  simp [brought, isSwitch, switched, Parameters.isOn, off, Value.holds]

theorem brought_given {kind : OptionKind} (serves : Serves setting kind) {disk : Disk} {given : Given} {v : Value}
    (gives : kind.Gives disk given v) (notOff : given ≠ .flag false) (found : Register.get? parameters key = some v) :
    brought parameters setting key = v := by
  unfold brought
  cases serves with
  | switch isSwitch free only =>
    rw [if_pos isSwitch]
    cases gives with
    | on off => simp [switched, Parameters.isOn, found, Value.holds]
    | off named => exact absurd rfl notOff
  | free noSwitch free => simp [noSwitch, Parameters.value, found]
  | choice noSwitch choices => simp [noSwitch, Parameters.value, found]

variable (named : scanOption? setting = some key)

include named

theorem offered?_scanLayer :
    Settings.offered? (scanLayer parameters) setting =
      (some (brought parameters setting key)).filter setting.Acceptable := by
  rw [Settings.offered?, named?_scanLayer, named, Option.map_some]

theorem offered?_of_brought_null (empty : brought parameters setting key = .null) :
    Settings.offered? (scanLayer parameters) setting = none := by
  rw [offered?_scanLayer named, empty]
  simp [Option.filter, Setting.Acceptable]

theorem offered?_of_acceptable (accepted : setting.Acceptable (brought parameters setting key)) :
    Settings.offered? (scanLayer parameters) setting = some (brought parameters setting key) := by
  rw [offered?_scanLayer named]
  simp [Option.filter, accepted]

end

theorem ends_loadSettings (now : Circumstances) (given : List (String × Value)) (terminal : Terminal) :
    Ends (loadSettings now given) (· = terminal)
      ((Settings.loadUsual terminal.disk (given.map fun entry => (.text entry.1, entry.2))).run.1.mapError .escaped)
      fun _ => True := by
  obtain ⟨result, records, loaded⟩ : ∃ result records,
      (Settings.loadUsual terminal.disk (given.map fun entry => (.text entry.1, entry.2))).run = (result, records) :=
    ⟨_, _, rfl⟩
  have disk : Ends getDisk (· = terminal) (.ok terminal.disk) fun _ => True := by
    rintro _ rfl
    exact ⟨_, rfl, trivial⟩
  unfold loadSettings
  refine Ends.bind disk ?_
  rw [loaded]
  exact Ends.bind (ends_logAll now records) (ends_orEscape result _)

theorem ne_argument_of_scanOption {setting : Setting} {key : String} (named : scanOption? setting = some key) :
    key ≠ "projectPath" := by
  cases setting <;> cases named <;> decide

section

variable {words : List String} {state : Spec.State} {disk : Disk} {parameters : Parameters} {setting : Setting}
  {key : String}

theorem brought_of_not_given (accepted : scanSpec.read disk state = .ok parameters)
    (named : scanOption? setting = some key) (notGiven : Register.get? state.given key = none) :
    brought parameters setting key = .null := by
  obtain ⟨missing, -⟩ := Spec.get?_read rfl rfl accepted (ne_argument_of_scanOption named)
  exact brought_absent (missing notGiven)

/-- An option that is given brings what is read from it, unless it is a switch that is off. -/
theorem brought_of_given (asked : scanSpec.readWords words = .ok state)
    (accepted : scanSpec.read disk state = .ok parameters) (named : scanOption? setting = some key) {given : Given}
    (stands : Register.get? state.given key = some given) :
    (given ≠ .flag false → scanSpec.readGiven disk (key, given) = .ok (key, brought parameters setting key) ∧
        setting.Acceptable (brought parameters setting key)) ∧
      (given = .flag false → setting = .verbose ∧ brought parameters setting key = .null) := by
  obtain ⟨-, ofGiven⟩ := Spec.get?_read rfl rfl accepted (ne_argument_of_scanOption named)
  obtain ⟨v, read, found⟩ := ofGiven given stands
  have fits := (Spec.sound_of_readWords asked).given _ (Register.mem_of_get? stands)
  obtain ⟨option, isOption, serves⟩ := serves_scanOption named
  -- Keys are distinct, so what was read and what serves the setting are of one option.
  obtain ⟨other, isOther, gives⟩ := Spec.gives_of_readGiven (by decide) fits read
  obtain rfl : option = other := Option.some.inj (isOption.symm.trans isOther)
  constructor
  · intro notOff
    rw [brought_given serves gives notOff found]
    exact ⟨read, serves.acceptable gives⟩
  · rintro rfl
    obtain ⟨isSwitch, only⟩ := serves.of_off gives
    cases read
    exact ⟨only, brought_off isSwitch found⟩

/-- The options of a scan bring no value that a setting would refuse, so there is nothing to remark on. -/
theorem fits_scanLayer (asked : scanSpec.readWords words = .ok state)
    (accepted : scanSpec.read disk state = .ok parameters) :
    ∀ entry ∈ scanLayer parameters, Settings.Fits entry := by
  intro entry member
  obtain ⟨setting, key, named, rfl⟩ := scanOption_of_mem_scanLayer member
  refine ⟨setting, rfl, ?_⟩
  cases stands : Register.get? state.given key with
  | none => exact .inl (brought_of_not_given accepted named stands)
  | some given =>
    obtain ⟨kept, off⟩ := brought_of_given asked accepted named stands
    by_cases isOff : given = .flag false
    · exact .inl (off isOff).2
    · exact .inr (kept isOff).2

theorem offered?_absent (accepted : scanSpec.read disk state = .ok parameters)
    (absent : state.givenFor? setting = none) : Settings.offered? (scanLayer parameters) setting = none := by
  cases named : scanOption? setting with
  | none =>
    rw [Settings.offered?, named?_scanLayer, named]
    rfl
  | some key =>
    have notGiven : Register.get? state.given key = none := by simpa [Spec.State.givenFor?, named] using absent
    exact offered?_of_brought_null named (brought_of_not_given accepted named notGiven)

/-- What a command line gives for a setting comes into the layer, unless it is a switch that is off. -/
theorem offered?_given (asked : scanSpec.readWords words = .ok state)
    (accepted : scanSpec.read disk state = .ok parameters) {entry : String × Given}
    (isGiven : state.givenFor? setting = some entry) :
    (entry.2 ≠ .flag false → ∃ v, scanSpec.readGiven disk entry = .ok (entry.1, v) ∧
        Settings.offered? (scanLayer parameters) setting = some v) ∧
      (entry.2 = .flag false → setting = .verbose ∧ Settings.offered? (scanLayer parameters) setting = none) := by
  obtain ⟨key, named, isGiven⟩ := Option.bind_eq_some_iff.mp isGiven
  obtain ⟨given, stands, rfl⟩ := Option.map_eq_some_iff.mp isGiven
  obtain ⟨kept, off⟩ := brought_of_given asked accepted named stands
  constructor
  · intro notOff
    exact ⟨_, (kept notOff).1, offered?_of_acceptable named (kept notOff).2⟩
  · intro isOff
    exact ⟨(off isOff).1, offered?_of_brought_null named (off isOff).2⟩

end

/-- The settings of a scan. If the files can be loaded, they are what the files bring, with what the command line gives
for each option in its place; but a switch that is given as off, which only the one for showing progress can be,
leaves the setting to the files. -/
theorem scan_options_win {words : List String} {state : Spec.State} {disk : Disk} {parameters : Parameters}
    {terminal : Terminal} {lower : Settings} (asked : scanSpec.readWords words = .ok state)
    (accepted : scanSpec.read disk state = .ok parameters)
    (files : (Settings.loadUsual terminal.disk []).run.1 = .ok lower) (now : Circumstances) :
    ∃ settings after,
      (ExceptT.run (loadSettings now (scanSettings parameters))).run terminal = (.ok settings, after) ∧
      ∀ setting,
        (state.givenFor? setting = none → settings.value setting = lower.value setting) ∧
        ∀ entry, state.givenFor? setting = some entry →
          (entry.2 ≠ .flag false → scanSpec.readGiven disk entry = .ok (entry.1, settings.value setting)) ∧
          (entry.2 = .flag false → setting = .verbose ∧ settings.value setting = lower.value setting) := by
  obtain ⟨after, ran, -⟩ := ends_loadSettings now (scanSettings parameters) terminal terminal rfl
  have loaded : (Settings.loadUsual terminal.disk (scanLayer parameters)).run.1 =
      .ok (lower.applyAll (scanLayer parameters)) :=
    Settings.run_load_of_nil files (Settings.Fits.verdict (fits_scanLayer asked accepted))
  change _ = ((Settings.loadUsual terminal.disk (scanLayer parameters)).run.1.mapError Ending.escaped, after) at ran
  rw [loaded] at ran
  refine ⟨_, after, ran, fun setting => ?_⟩
  rw [Settings.applyAll_value (namedOnce_scanLayer parameters)]
  constructor
  · intro absent
    rw [offered?_absent accepted absent]
    rfl
  · intro entry isGiven
    obtain ⟨kept, off⟩ := offered?_given asked accepted isGiven
    constructor
    · intro notOff
      obtain ⟨v, read, offered⟩ := kept notOff
      rw [offered]
      exact read
    · intro isOff
      obtain ⟨isVerbose, none⟩ := off isOff
      rw [none]
      exact ⟨isVerbose, rfl⟩

def verboseDisk : Disk where
  workingDirectory := ⟨.root, ["game"]⟩
  home := ⟨.root, ["home"]⟩
  entries := [(["game"], .directory), (["home"], .directory), (["home", ".mzguard"], .directory),
    (["home", ".mzguard", "config.yaml"], .text "verbose: true\nfail_on: info\n")]
  denied := []

def verboseTerminal : Terminal :=
  ⟨verboseDisk, "", "", none⟩

theorem loadUsual_verboseDisk :
    (Settings.loadUsual verboseDisk []).run.1 =
      .ok (Settings.defaults.applyAll [(.text "verbose", .bool true), (.text "fail_on", .text "info")]) := by
  have user : Settings.Layer verboseDisk (Settings.userFile verboseDisk)
      [(.text "verbose", .bool true), (.text "fail_on", .text "info")] :=
    .mapping rfl (Settings.content_yaml rfl rfl Settings.read_verboseText) rfl
  have project : Settings.Layer verboseDisk (verboseDisk.workingDirectory.child Settings.projectFileName) [] :=
    .absent rfl
  obtain ⟨records, loaded⟩ := Settings.run_load user project []
  rw [Settings.loadUsual, loaded]
  rfl

theorem read_scan {disk : Disk} {given : Register Given} {options : Parameters} {path : String}
    (isGiven : given.mapM (scanSpec.readGiven disk) = .ok options) (proper : path.contains '\x00' = false)
    (stands : PathRule.problem? ⟨false, false, true⟩ disk path = none) (ended : Bool) :
    scanSpec.read disk ⟨given, [path], none, ended⟩ = .ok (options ++ [("projectPath", .text path)]) := by
  have read : Spec.readArgument disk ⟨"projectPath", "PROJECT_PATH", false, .path ⟨false, false, true⟩⟩ path =
      .ok (.text path) := Shape.read_path proper stands _
  exact Spec.read_of_argument rfl rfl isGiven read ended

theorem proper_here : ".".contains '\x00' = false := by cbv

theorem stands_here : PathRule.problem? ⟨false, false, true⟩ verboseDisk "." = none := by rfl

/-- The user's file decides, though the command line says otherwise. -/
theorem scan_shows_progress :
    let parameters : Parameters := [("verbose", .bool false), ("projectPath", .text ".")]
    scanSpec.readWords ["--no-verbose", "."] = .ok ⟨[("verbose", .flag false)], ["."], none, false⟩ ∧
      scanSpec.read verboseDisk ⟨[("verbose", .flag false)], ["."], none, false⟩ = .ok parameters ∧
      ∃ settings after,
        (ExceptT.run (loadSettings timeless (scanSettings parameters))).run verboseTerminal = (.ok settings, after) ∧
        settings.value .verbose = .bool true := by
  intro parameters
  have options : List.mapM (scanSpec.readGiven verboseDisk) [("verbose", .flag false)] =
      .ok [("verbose", .bool false)] := rfl
  have accepted := read_scan options proper_here stands_here false
  refine ⟨by rfl, accepted, ?_⟩
  obtain ⟨after, ran, -⟩ := ends_loadSettings timeless (scanSettings parameters) verboseTerminal verboseTerminal rfl
  have noted : Settings.verdict (scanLayer parameters) = .ok () := rfl
  have loaded := Settings.run_load_of_nil loadUsual_verboseDisk noted
  change _ = ((Settings.loadUsual verboseDisk (scanLayer parameters)).run.1.mapError Ending.escaped, after) at ran
  rw [Settings.loadUsual, loaded] at ran
  exact ⟨_, after, ran, rfl⟩

theorem scan_options_win_mixed :
    let given : Register Given := [("failOn", .text "warning"), ("verbose", .flag false), ("format", .text "JSON")]
    let parameters : Parameters := [("failOn", .text "warning"), ("verbose", .bool false), ("format", .text "json"),
      ("projectPath", .text ".")]
    scanSpec.readWords ["--fail-on=warning", "--no-verbose", "-f", "JSON", "."] = .ok ⟨given, ["."], none, false⟩ ∧
      scanSpec.read verboseDisk ⟨given, ["."], none, false⟩ = .ok parameters ∧
      (Settings.loadUsual verboseDisk []).run.1 =
        .ok (Settings.defaults.applyAll [(.text "verbose", .bool true), (.text "fail_on", .text "info")]) ∧
      ∃ settings after,
        (ExceptT.run (loadSettings timeless (scanSettings parameters))).run verboseTerminal = (.ok settings, after) ∧
        settings.value .failOn = .text "warning" ∧ settings.value .outputFormat = .text "json" ∧
        settings.value .verbose = .bool true ∧ settings.value .maxWorkers = .null := by
  intro given parameters
  have asked : scanSpec.readWords ["--fail-on=warning", "--no-verbose", "-f", "JSON", "."] =
      .ok ⟨given, ["."], none, false⟩ := by rfl
  have failOn : scanSpec.readGiven verboseDisk ("failOn", .text "warning") = .ok ("failOn", .text "warning") := by rfl
  have format : scanSpec.readGiven verboseDisk ("format", .text "JSON") = .ok ("format", .text "json") := by rfl
  have options : given.mapM (scanSpec.readGiven verboseDisk) =
      .ok [("failOn", .text "warning"), ("verbose", .bool false), ("format", .text "json")] := by
    simp only [given, List.mapM_cons, failOn, format]
    rfl
  have accepted := read_scan options proper_here stands_here false
  obtain ⟨settings, after, ran, values⟩ :=
    @scan_options_win _ _ _ _ verboseTerminal _ asked accepted loadUsual_verboseDisk timeless
  refine ⟨asked, accepted, loadUsual_verboseDisk, settings, after, ran, ?_, ?_, ?_, ?_⟩
  · have kept := ((values .failOn).2 _ rfl).1 (by simp)
    exact (congrArg Prod.snd (Except.ok.inj (failOn.symm.trans kept))).symm
  · have kept := ((values .outputFormat).2 _ rfl).1 (by simp)
    exact (congrArg Prod.snd (Except.ok.inj (format.symm.trans kept))).symm
  · exact (((values .verbose).2 _ rfl).2 rfl).2
  · exact (values .maxWorkers).1 rfl

end PluginAudit.Command
