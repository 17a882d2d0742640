import Mathlib
import PluginAudit.Proofs.Command.Import
import PluginAudit.Proofs.Files.Reading

namespace PluginAudit.Settings

open PluginAudit.Log (Noted)

/-- What a text of settings stands for, in the format that the suffix of its path tells: a value, or data that has none. -/
inductive StandsFor (path : Path) (text : String) : Except DataFault Value → Prop where
  | yaml {v : Value} (isYaml : path.suffix = ".yaml" ∨ path.suffix = ".yml") (read : Yaml.read text.toList = .ok v) :
      StandsFor path text (.ok v)
  | json {v : Value} (isJson : path.suffix = ".json") (read : Json.read text.toList = .ok v) : StandsFor path text (.ok v)
  | yamlFault {fault : DataFault} (isYaml : path.suffix = ".yaml" ∨ path.suffix = ".yml")
      (read : Yaml.read text.toList = .error (.data fault)) : StandsFor path text (.error fault)
  | jsonFault {fault : DataFault} (isJson : path.suffix = ".json") (read : Json.read text.toList = .error (.data fault)) :
      StandsFor path text (.error fault)

theorem not_yaml_of_json {path : Path} (isJson : path.suffix = ".json") :
    ¬ (path.suffix = ".yaml" ∨ path.suffix = ".yml") := by
  rw [isJson]
  decide

theorem parse_eq_value_iff {path : Path} {text : String} {v : Value} :
    parse path text = .ok (.value v) ↔ StandsFor path text (.ok v) := by
  constructor
  · intro parsed
    unfold parse at parsed
    split_ifs at parsed with isYaml isJson
    · split at parsed <;> cases parsed
      exact .yaml isYaml (by assumption)
    · split at parsed <;> cases parsed
      exact .json isJson (by assumption)
    · cases parsed
  · intro standsFor
    unfold parse
    cases standsFor with
    | yaml isYaml read => rw [if_pos isYaml, read]
    | json isJson read => rw [if_neg (not_yaml_of_json isJson), if_pos isJson, read]

theorem parse_eq_error_iff {path : Path} {text : String} {failure : Failure} :
    parse path text = .error failure ↔ ∃ fault, failure = .data fault ∧ StandsFor path text (.error fault) := by
  constructor
  · intro parsed
    unfold parse at parsed
    split_ifs at parsed with isYaml isJson
    · split at parsed <;> cases parsed
      exact ⟨_, rfl, .yamlFault isYaml (by assumption)⟩
    · split at parsed <;> cases parsed
      exact ⟨_, rfl, .jsonFault isJson (by assumption)⟩
  · rintro ⟨fault, rfl, standsFor⟩
    unfold parse
    cases standsFor with
    | yamlFault isYaml read => rw [if_pos isYaml, read]
    | jsonFault isJson read => rw [if_neg (not_yaml_of_json isJson), if_pos isJson, read]

/-- The mapping of a file that can be read. -/
def HoldsMapping (disk : Disk) (path : Path) (entries : Value.Entries) : Prop :=
  ∃ text v, disk.read path = .ok text ∧ StandsFor path text (.ok v) ∧ v.entries? = some entries

/-- Why a file is not read, though there may be one. -/
inductive Unreadable (disk : Disk) (path : Path) : Failure → Prop where
  | improper (null : path.hasNull = true) : Unreadable disk path (.file ⟨.nullCharacter, path.render⟩)
  -- The bytes of a file that may be read are not those of a text.
  | undecodable {place : List String} {content : List UInt8} {fault : Utf8.Fault} (located : disk.locate path = .ok place)
      (stands : disk.lookUp? place = some (.bytes content)) (allowed : place ∉ disk.denied)
      (noText : ∀ text : String, content ≠ text.toList.flatMap String.utf8EncodeChar)
      (first : Utf8.decode content = .error fault) : Unreadable disk path (.unreadable (.undecodable fault))
  | noValue {text : String} {fault : DataFault} (found : disk.read path = .ok text)
      (standsFor : StandsFor path text (.error fault)) : Unreadable disk path (.data fault)

theorem content_eq_error_iff {disk : Disk} {path : Path} {failure : Failure} :
    content disk path = .error failure ↔ Unreadable disk path failure := by
  constructor
  · intro failed
    unfold content at failed
    split at failed
    · rename_i found
      obtain ⟨fault, rfl, standsFor⟩ := parse_eq_error_iff.mp failed
      exact .noValue found standsFor
    · rename_i notRead
      split at failed <;> cases failed
      rename_i improper
      obtain ⟨null, rfl⟩ := Disk.hasNull_of_read notRead improper
      exact .improper null
    · rename_i notRead
      cases failed
      obtain ⟨place, bytes, located, stands, allowed, first⟩ := Disk.exists_of_undecodable notRead
      exact .undecodable located stands allowed (Utf8.not_encoded_of_error first) first
  · intro unreadable
    unfold content
    cases unreadable with
    | improper null =>
      rw [Disk.read_of_hasNull null]
      rfl
    | undecodable located stands allowed noText first => rw [Disk.read_of_undecodable located stands allowed first]
    | noValue found standsFor =>
      rw [found]
      exact parse_eq_error_iff.mpr ⟨_, rfl, standsFor⟩

theorem content_eq_value_iff {disk : Disk} {path : Path} {v : Value} :
    content disk path = .ok (.value v) ↔ ∃ text, disk.read path = .ok text ∧ StandsFor path text (.ok v) := by
  constructor
  · intro read
    unfold content at read
    split at read
    · rename_i text found
      exact ⟨text, found, parse_eq_value_iff.mp read⟩
    · split at read <;> cases read
    · cases read
  · rintro ⟨text, found, standsFor⟩
    unfold content
    rw [found]
    exact parse_eq_value_iff.mpr standsFor

def Content.entries? : Content → Option Value.Entries
  | .value v => v.entries?
  | _ => none

theorem holdsMapping_iff {disk : Disk} {path : Path} {entries : Value.Entries} :
    HoldsMapping disk path entries ↔ ∃ found, content disk path = .ok found ∧ found.entries? = some entries := by
  constructor
  · rintro ⟨text, v, found, standsFor, isMapping⟩
    exact ⟨.value v, content_eq_value_iff.mpr ⟨text, found, standsFor⟩, isMapping⟩
  · rintro ⟨found, read, isMapping⟩
    cases found with
    | value v =>
      obtain ⟨text, found, standsFor⟩ := content_eq_value_iff.mp read
      exact ⟨text, v, found, standsFor, isMapping⟩
    | unknownFormat => cases isMapping
    | unreadable reason => cases isMapping

/-- Why a file cannot be loaded: it is not read, or a remark on an entry of it cannot be written. -/
inductive Unloadable (disk : Disk) (path : Path) : Failure → Prop where
  | unreadable {failure : Failure} (unreadable : Unreadable disk path failure) : Unloadable disk path failure
  | unnoted {entries : Value.Entries} {entry : Value × Value} (holds : HoldsMapping disk path entries)
      (member : entry ∈ entries) (long : isNoted entry = false) :
      Unloadable disk path (.data (.unwritableInteger Number.digitLimit))

/-- The entries of what a file holds, of which there are none if it holds no mapping. -/
def Content.entries (found : Content) : Value.Entries :=
  found.entries?.getD []

theorem run_loadFile_of_content {disk : Disk} {path : Path} {found : Content} (read : content disk path = .ok found)
    (settings : Settings) :
    ∃ records, (loadFile disk path).run settings =
      (verdict found.entries, settings.applyAll (found.entries.takeWhile isNoted), records) := by
  have ends : Ends (loadFile disk path) (·.1 = settings) (verdict found.entries)
      (·.1 = settings.applyAll (found.entries.takeWhile isNoted)) := by
    unfold Content.entries
    cases brought : found.entries? with
    | none =>
      refine ends_loadFile_other read ?_ settings
      rintro v rfl
      exact brought
    | some entries =>
      cases found with
      | value v => exact ends_loadFile_mapping read brought settings
      | unknownFormat => cases brought
      | unreadable reason => cases brought
  obtain ⟨⟨_, records⟩, ran, rfl⟩ := ends (settings, []) rfl
  exact ⟨records, ran⟩

theorem unloadable_iff_of_content {disk : Disk} {path : Path} {found : Content} (read : content disk path = .ok found)
    (failure : Failure) : Unloadable disk path failure ↔ verdict found.entries = .error failure := by
  constructor
  · rintro (unreadable | ⟨holds, member, long⟩)
    · rw [content_eq_error_iff.mpr unreadable] at read
      cases read
    · obtain ⟨held, isHeld, brought⟩ := holdsMapping_iff.mp holds
      obtain rfl : held = found := Except.ok.inj (isHeld.symm.trans read)
      rw [Content.entries, brought]
      exact Noted.verdict_of_exists ⟨_, member, long⟩
  · intro fails
    obtain ⟨rfl, entry, member, long⟩ := (Noted.verdict_eq_error_iff _ _).mp fails
    cases brought : found.entries? with
    | none =>
      rw [Content.entries, brought] at member
      cases member
    | some entries =>
      rw [Content.entries, brought] at member
      exact .unnoted (holdsMapping_iff.mpr ⟨found, read, brought⟩) member long

theorem unloadable_iff_of_error {disk : Disk} {path : Path} {reason : Failure} (failed : content disk path = .error reason)
    (failure : Failure) : Unloadable disk path failure ↔ failure = reason := by
  constructor
  · rintro (unreadable | ⟨holds, -, -⟩)
    · rw [content_eq_error_iff.mpr unreadable] at failed
      exact Except.error.inj failed
    · obtain ⟨held, isHeld, -⟩ := holdsMapping_iff.mp holds
      rw [failed] at isHeld
      cases isHeld
  · rintro rfl
    exact .unreadable (content_eq_error_iff.mp failed)

/-- Loading a file fails if it is not read, and if a remark on an entry of its mapping cannot be written. The settings are
updated with the entries before the first such one, which are all of them unless loading fails; without a mapping they
stay what they were. -/
theorem loadFile_outcome (settings : Settings) (disk : Disk) (path : Path) :
    ∃ result after records, (loadFile disk path).run settings = (result, after, records) ∧
      (∀ failure, result = .error failure ↔ Unloadable disk path failure) ∧
      (∀ entries, HoldsMapping disk path entries →
        after = settings.applyAll (entries.takeWhile isNoted) ∧ (result = .ok () → after = settings.applyAll entries)) ∧
      ((¬ ∃ entries, HoldsMapping disk path entries) → after = settings) := by
  simp only [holdsMapping_iff]
  cases read : content disk path with
  | error reason =>
    obtain ⟨⟨_, records⟩, ran, rfl⟩ := ends_loadFile_error read settings (settings, []) rfl
    refine ⟨_, _, records, ran, fun failure => ?_, ?_, fun _ => rfl⟩
    · rw [unloadable_iff_of_error read, Except.error.injEq, eq_comm]
    · rintro entries ⟨_, ⟨⟩, _⟩
  | ok found =>
    obtain ⟨records, ran⟩ := run_loadFile_of_content read settings
    refine ⟨_, _, records, ran, fun failure => (unloadable_iff_of_content read failure).symm, ?_, fun none => ?_⟩
    · rintro entries ⟨_, ⟨⟩, brought⟩
      rw [Content.entries, brought, Option.getD_some]
      exact ⟨rfl, fun noted => applyAll_noted noted settings⟩
    · have bare : found.entries? = .none := by
        cases brought : found.entries? with
        | none => rfl
        | some entries => exact absurd ⟨entries, found, rfl, brought⟩ none
      rw [Content.entries, bare]
      rfl

def rawDisk : Disk where
  workingDirectory := ⟨.root, ["game"]⟩
  home := ⟨.root, ["home"]⟩
  entries := [(["game"], .directory), (["game", "own.yaml"], .bytes [0xFF])]
  denied := []

/-- Loading bytes that are no text fails. -/
theorem loadFile_fails_undecodable :
    (loadFile rawDisk (Path.ofString "own.yaml")).run defaults =
      (.error (.unreadable (.undecodable ⟨0, [0xFF], .startByte⟩)), defaults, []) := by
  rfl

end PluginAudit.Settings
