import PluginAudit.Proofs.Command.Terminal
import PluginAudit.Proofs.Files.Writing
import PluginAudit.Proofs.Settings.Precedence

namespace PluginAudit

namespace Settings

theorem ends_loadFile_error {disk : Disk} {path : Path} {failure : Failure} (failed : content disk path = .error failure)
    (settings : Settings) : Ends (loadFile disk path) (·.1 = settings) (.error failure) (·.1 = settings) := by
  unfold loadFile
  rw [failed]
  exact Ends.bind_error (Ends.ofExcept _ _) _

theorem ends_save {disk : Disk} {path : Path} {name : String} {place : List String} {old : Entry}
    (named : path.parts ≠ []) (located : disk.locate (path.child name) = .ok place)
    (there : disk.lookUp? place = some old) (wasFile : old.isDirectory = false) {settings : Settings}
    (writable : (Value.map settings.given).isWritable = true) :
    Ends (settings.save (path.child name) .yaml) (· = disk) (.ok ())
      (· = disk.put place (.text (Yaml.print settings.given))) := by
  have directory := Disk.stat_of_locate_child named located
  rw [← Path.parent_child path name] at directory
  refine Ends.bind (Disk.Change.ends_makeDirectories directory) ?_
  have printed : print .yaml settings.given = .ok (Yaml.print settings.given) := by
    rw [print, Value.ifWritable, if_pos writable]
    rfl
  refine Ends.bind (Ends.ofOk printed _) ?_
  exact Disk.Change.ends_write located there wasFile _

end Settings

namespace Command

variable {now : Circumstances} {disk : Disk} {parameters : Parameters} {file : String}

theorem ends_importSettings_failed (asked : parameters.text "configFile" "" = file) {failure : Failure}
    (failed : Settings.content disk (Path.ofString file) = .error failure) :
    Ends (importSettings now parameters) (Bare disk) (.error (.escaped failure)) (Bare disk) := by
  obtain ⟨⟨settings, records⟩, loaded, -⟩ := Settings.ends_loadFile_error failed .defaults (.defaults, []) rfl
  have triple : (Settings.loadFile disk (Path.ofString file)).run .defaults = (.error failure, settings, records) := loaded
  unfold importSettings
  rw [asked]
  refine Ends.bind (ends_getDisk disk) ?_
  rw [triple]
  refine Ends.bind (ends_logAll_bare now records) ?_
  exact Ends.bind_error (ends_orEscape _ _) _

theorem ends_importSettings {settings : Settings} {place : List String} {old : Entry} {records : List Log.Record}
    (asked : parameters.text "configFile" "" = file)
    (loaded : (Settings.loadFile disk (Path.ofString file)).run .defaults = (.ok (), settings, records))
    (writable : (Value.map settings.given).isWritable = true)
    (located : disk.locate (Settings.userFile disk) = .ok place) (there : disk.lookUp? place = some old)
    (wasFile : old.isDirectory = false) :
    Ends (importSettings now parameters) (Bare disk) (.ok 0)
      (Bare (disk.put place (.text (Yaml.print settings.given)))) := by
  have named : (disk.home.child ".mzguard").parts ≠ [] := by simp [Path.child]
  have saved := Settings.ends_save named located there wasFile writable
  unfold importSettings
  rw [asked]
  refine Ends.bind (ends_getDisk disk) ?_
  rw [loaded]
  refine Ends.bind (ends_logAll_bare now records) ?_
  refine Ends.bind (ends_orEscape _ _) ?_
  refine Ends.bind (ends_change saved) ?_
  refine Ends.bind (ends_orEscape _ _) ?_
  exact Ends.bind (ends_echo _) (Ends.pure _ _)

theorem callMember_import (words : List String) :
    callMember mainSpec (members now) ("config" :: "import" :: words) = call importSpec (importSettings now) words := by
  have group : (members now).lookup "config" = some (callMember configSpec (configMembers now)) := rfl
  rw [callMember_eq rfl (by decide) group]
  exact callMember_eq rfl (by decide) rfl words

theorem read_import_standing (proper : file.contains '\x00' = false)
    (stands : PathRule.problem? ⟨true, true, true⟩ disk file = none) (ended : Bool) :
    importSpec.read disk ⟨[], [file], none, ended⟩ = .ok [("configFile", .text file)] := by
  have noOptions : List.mapM (importSpec.readGiven disk) [] = .ok [] := rfl
  have read : Spec.readArgument disk ⟨"configFile", "CONFIG_FILE", false, .path ⟨true, true, true⟩⟩ file =
      .ok (.text file) := Shape.read_path proper stands _
  exact Spec.read_of_argument rfl rfl noOptions read ended

theorem read_import {ended : Bool} (accepted : importSpec.read disk ⟨[], [file], none, ended⟩ = .ok parameters) :
    parameters.text "configFile" "" = file := by
  obtain ⟨options, text, v, given, isFile, read, rfl⟩ := Spec.exists_of_read rfl rfl accepted
  have isText := Shape.eq_text_of_read_path read
  cases given
  cases isFile
  cases isText
  rfl

section

variable {words : List String} {ended : Bool} (asked : importSpec.readWords words = .ok ⟨[], [file], none, ended⟩)

include asked

theorem run_import_refused {refusal : Refusal} (refused : importSpec.read disk ⟨[], [file], none, ended⟩ = .error refusal) :
    (run now disk ("config" :: "import" :: words)).disk = disk := by
  obtain ⟨ending, ends⟩ : ∃ ending, Ends (call importSpec (importSettings now) words) (Bare disk) (.error ending)
      (Bare disk) := ends_call_refused asked rfl refused
  rw [← callMember_import] at ends
  exact (run_of_ending ends).1

theorem run_import_failed (accepted : importSpec.read disk ⟨[], [file], none, ended⟩ = .ok parameters) {failure : Failure}
    (failed : Settings.content disk (Path.ofString file) = .error failure) :
    (run now disk ("config" :: "import" :: words)).disk = disk ∧
      (run now disk ("config" :: "import" :: words)).escaped = some failure := by
  have ends : Ends (call importSpec (importSettings now) words) (Bare disk) (.error (.escaped failure)) (Bare disk) :=
    ends_call asked rfl accepted (ends_importSettings_failed (read_import accepted) failed)
  rw [← callMember_import] at ends
  obtain ⟨same, escaped⟩ := run_of_ending ends
  exact ⟨same, escaped failure rfl⟩

/-- A file without settings that is only warned of stands for the defaults, and they are saved. -/
theorem run_import_defaults (accepted : importSpec.read disk ⟨[], [file], none, ended⟩ = .ok parameters)
    {found : Settings.Content} (read : Settings.content disk (Path.ofString file) = .ok found)
    (noMapping : ∀ v, found = .value v → v.entries? = none) {old : Entry}
    (owned : disk.stat (Settings.userFile disk) = .ok old) (wasFile : old.isDirectory = false) :
    (run now disk ("config" :: "import" :: words)).code = 0 ∧
      ∃ place, disk.locate (Settings.userFile disk) = .ok place ∧
        (run now disk ("config" :: "import" :: words)).disk =
          disk.put place (.text (Yaml.print Settings.defaults.given)) ∧
        (run now disk ("config" :: "import" :: words)).disk.stat (Settings.userFile disk) =
          .ok (.text (Yaml.print Settings.defaults.given)) := by
  obtain ⟨place, located, there⟩ := Disk.exists_of_stat owned
  obtain ⟨⟨_, records⟩, loaded, rfl⟩ := Settings.ends_loadFile_other read noMapping .defaults (.defaults, []) rfl
  have writable : (Value.map Settings.defaults.given).isWritable = true := by decide
  have ends : Ends (call importSpec (importSettings now) words) (Bare disk) (.ok 0)
      (Bare (disk.put place (.text (Yaml.print Settings.defaults.given)))) :=
    ends_call asked rfl accepted (ends_importSettings (read_import accepted) loaded writable located there wasFile)
  rw [← callMember_import] at ends
  obtain ⟨after, code, -⟩ := run_of_code ends
  refine ⟨code, place, located, after, ?_⟩
  rw [after]
  exact Disk.stat_put located there wasFile rfl

end

/-- Importing a file that brings no settings, for a user who has a settings file. If the file is refused or cannot be
loaded at all, every file stays as it is. If it is only warned of, or empty, the command succeeds, and the defaults
stand in the user's file, whatever stood there; no other file changes. -/
theorem run_import_unloadable {words : List String} {ended : Bool} {old : Entry}
    (asked : importSpec.readWords words = .ok ⟨[], [file], none, ended⟩)
    (owned : disk.stat (Settings.userFile disk) = .ok old) (wasFile : old.isDirectory = false)
    (unloadable : ∀ v, Settings.content disk (Path.ofString file) = .ok (.value v) → v.entries? = none) :
    let outcome := run now disk ("config" :: "import" :: words)
    (∀ refusal, importSpec.read disk ⟨[], [file], none, ended⟩ = .error refusal → outcome.disk = disk) ∧
    ∀ parameters, importSpec.read disk ⟨[], [file], none, ended⟩ = .ok parameters →
      (∀ failure, Settings.content disk (Path.ofString file) = .error failure →
        outcome.disk = disk ∧ outcome.escaped = some failure) ∧
      ∀ found, Settings.content disk (Path.ofString file) = .ok found →
        outcome.code = 0 ∧
          ∃ place, disk.locate (Settings.userFile disk) = .ok place ∧
            outcome.disk = disk.put place (.text (Yaml.print Settings.defaults.given)) ∧
            outcome.disk.stat (Settings.userFile disk) = .ok (.text (Yaml.print Settings.defaults.given)) := by
  intro outcome
  refine ⟨fun refusal refused => run_import_refused asked refused, fun parameters accepted => ⟨?_, ?_⟩⟩
  · intro failure failed
    exact run_import_failed asked accepted failed
  · intro found read
    refine run_import_defaults asked accepted read (fun v isValue => ?_) owned wasFile
    exact unloadable v (isValue ▸ read)

/-- A user with settings, and two files that bring none: one of a format that is not known, and one with a list. -/
def teamDisk : Disk where
  workingDirectory := ⟨.root, ["game"]⟩
  home := ⟨.root, ["home"]⟩
  entries := [(["game"], .directory), (["game", "team.toml"], .text "fail_on = 'warning'\n"),
    (["game", "team.json"], .text "[\"warning\"]"), (["home"], .directory), (["home", ".mzguard"], .directory),
    (["home", ".mzguard", "config.yaml"], .text "fail_on: info\n")]
  denied := []

theorem run_import_overwrites :
    Settings.content teamDisk (Path.ofString "team.toml") = .ok .unknownFormat ∧
      teamDisk.stat (Settings.userFile teamDisk) = .ok (.text "fail_on: info\n") ∧
      (run timeless teamDisk ["config", "import", "team.toml"]).disk.stat (Settings.userFile teamDisk) =
        .ok (.text ("warning_threshold: 10\ninclude_disabled: false\nskip_prefix: _\noutput_format: markdown\n" ++
          "fail_on: never\nverbose: false\n")) := by
  have asked : importSpec.readWords ["team.toml"] = .ok ⟨[], ["team.toml"], none, false⟩ := by rfl
  have accepted : importSpec.read teamDisk ⟨[], ["team.toml"], none, false⟩ =
      .ok [("configFile", .text "team.toml")] := read_import_standing (by cbv) (by rfl) false
  have read : Settings.content teamDisk (Path.ofString "team.toml") = .ok .unknownFormat := by rfl
  have owned : teamDisk.stat (Settings.userFile teamDisk) = .ok (.text "fail_on: info\n") := by rfl
  have noMapping : ∀ v, Settings.Content.unknownFormat = .value v → v.entries? = none := by
    intro v isValue
    cases isValue
  obtain ⟨-, place, -, -, left⟩ :=
    @run_import_defaults timeless teamDisk _ _ _ _ asked accepted _ read noMapping _ owned rfl
  refine ⟨read, owned, left.trans ?_⟩
  decide +kernel

theorem run_import_unloadable_list :
    importSpec.readWords ["--", "team.json"] = .ok ⟨[], ["team.json"], none, true⟩ ∧
      teamDisk.stat (Settings.userFile teamDisk) = .ok (.text "fail_on: info\n") ∧
      Settings.content teamDisk (Path.ofString "team.json") = .ok (.value (.list [.text "warning"])) ∧
      (run timeless teamDisk ["config", "import", "--", "team.json"]).disk.stat (Settings.userFile teamDisk) =
        .ok (.text (Yaml.print Settings.defaults.given)) := by
  have asked : importSpec.readWords ["--", "team.json"] = .ok ⟨[], ["team.json"], none, true⟩ := by rfl
  have accepted : importSpec.read teamDisk ⟨[], ["team.json"], none, true⟩ =
      .ok [("configFile", .text "team.json")] := read_import_standing (by cbv) (by rfl) true
  have owned : teamDisk.stat (Settings.userFile teamDisk) = .ok (.text "fail_on: info\n") := by rfl
  have read : Settings.content teamDisk (Path.ofString "team.json") = .ok (.value (.list [.text "warning"])) :=
    Settings.content_json rfl rfl (by cbv)
  have unloadable : ∀ v, Settings.content teamDisk (Path.ofString "team.json") = .ok (.value v) →
      v.entries? = none := by
    intro v isValue
    rw [read] at isValue
    cases isValue
    rfl
  obtain ⟨-, imported⟩ := @run_import_unloadable timeless teamDisk _ _ _ _ asked owned rfl unloadable
  obtain ⟨-, place, -, -, left⟩ := (imported _ accepted).2 _ read
  exact ⟨asked, owned, read, left⟩

end Command

end PluginAudit
