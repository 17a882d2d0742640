import PluginAudit.Proofs.Command.Words
import PluginAudit.Proofs.Effect
import PluginAudit.Proofs.Register

namespace PluginAudit.Command

inductive OptionKind.Takes : OptionKind → Given → Prop where
  | on (off : List String) : Takes (.flag off) (.flag true)
  | off {off : List String} (named : off ≠ []) : Takes (.flag off) (.flag false)
  | text (shape : Shape) (text : String) : Takes (.valued shape) (.text text)

inductive OptionKind.Gives (disk : Disk) : OptionKind → Given → Value → Prop where
  | on (off : List String) : Gives disk (.flag off) (.flag true) (.bool true)
  | off {off : List String} (named : off ≠ []) : Gives disk (.flag off) (.flag false) (.bool false)
  | valued {shape : Shape} {hint text : String} {v : Value} (read : shape.read disk hint text = .ok v) :
      Gives disk (.valued shape) (.text text) v

namespace Spec

def Fits (spec : Spec) (entry : String × Given) : Prop :=
  ∃ option ∈ spec.options, option.key = entry.1 ∧ option.kind.Takes entry.2

/-- All that is noted so far, and what is waited for, fits. -/
structure Sound (spec : Spec) (state : State) : Prop where
  given : ∀ entry ∈ state.given, spec.Fits entry
  waiting : ∀ name key, state.waiting = some (name, key) → ∀ text, spec.Fits (key, .text text)

variable {spec : Spec} {state next : State}

theorem fits_flag {name key : String} {on : Bool} (means : spec.meaning? name = some (.flag key on)) :
    spec.Fits (key, .flag on) := by
  obtain ⟨option, member, means⟩ := List.exists_of_findSome?_eq_some means
  split at means
  · rename_i off isFlag
    refine ⟨option, member, ?_⟩
    rw [isFlag]
    split at means
    · cases means
      exact ⟨rfl, .on off⟩
    · split at means <;> cases means
      rename_i isOff
      exact ⟨rfl, .off (List.ne_nil_of_mem (List.contains_iff_mem.mp isOff))⟩
  · split at means <;> cases means

theorem fits_valued {name key : String} (means : spec.meaning? name = some (.valued key)) (text : String) :
    spec.Fits (key, .text text) := by
  obtain ⟨option, member, means⟩ := List.exists_of_findSome?_eq_some means
  split at means
  · split at means
    · cases means
    · split at means <;> cases means
  · rename_i shape isValued
    split at means <;> cases means
    refine ⟨option, member, rfl, ?_⟩
    rw [isValued]
    exact .text shape text

theorem sound_start (spec : Spec) : spec.Sound State.start :=
  ⟨nofun, nofun⟩

theorem Sound.give (sound : spec.Sound state) {key : String} {given : Given} (fits : spec.Fits (key, given)) :
    spec.Sound (state.give key given) := by
  refine ⟨fun entry member => ?_, nofun⟩
  rcases Register.mem_of_mem_put member with rfl | old
  · exact fits
  · exact sound.given entry old

theorem Sound.wait (sound : spec.Sound state) {name key : String} (means : spec.meaning? name = some (.valued key)) :
    spec.Sound { state with waiting := some (name, key) } := by
  refine ⟨sound.given, ?_⟩
  rintro _ _ ⟨rfl⟩
  exact fits_valued means

theorem Sound.readLetters {letters : List Char} (sound : spec.Sound state)
    (read : spec.readLetters state letters = .ok next) : spec.Sound next := by
  induction letters generalizing state with
  | nil =>
    cases read
    exact sound
  | cons letter rest ih =>
    simp only [Spec.readLetters] at read
    cases means : spec.meaning? (String.ofList ['-', letter]) with
    | none =>
      rw [means] at read
      cases read
    | some meaning =>
      rw [means] at read
      cases meaning with
      | flag key on => exact ih (sound.give (fits_flag means)) read
      | valued key =>
        dsimp only at read
        split at read <;> cases read
        · exact sound.wait means
        · exact sound.give (fits_valued means _)

theorem Sound.readOption {text : List Char} (sound : spec.Sound state)
    (read : spec.readOption state text = .ok next) : spec.Sound next := by
  have known {name : String} {meaning : Meaning}
      (means : (if "--".toList.isPrefixOf name.toList then spec.meaning? name else none) = some meaning) :
      spec.meaning? name = some meaning := by
    split at means
    · exact means
    · cases means
  unfold Spec.readOption at read
  split at read
  rename_i name value _
  dsimp only at read
  split at read
  · rename_i means _
    cases read
    exact sound.give (fits_flag (known means))
  · cases read
  · rename_i means _
    cases read
    exact sound.wait (known means)
  · rename_i means _
    cases read
    exact sound.give (fits_valued (known means) _)
  · split at read
    · cases read
    · exact sound.readLetters read

theorem Sound.readWord {word : String} (sound : spec.Sound state) (read : spec.readWord state word = .ok next) :
    spec.Sound next := by
  unfold Spec.readWord at read
  split at read
  · rename_i name key isWaiting
    cases read
    exact sound.give (sound.waiting name key isWaiting word)
  · split at read
    · cases read
      exact ⟨sound.given, sound.waiting⟩
    · split at read
      · cases read
        exact ⟨sound.given, sound.waiting⟩
      · split at read
        · exact sound.readOption read
        · cases read
          exact ⟨sound.given, sound.waiting⟩

theorem sound_of_readWords {words : List String} (asked : spec.readWords words = .ok state) : spec.Sound state := by
  unfold readWords at asked
  obtain ⟨last, folded, asked⟩ := exists_of_bind_ok asked
  have sound : spec.Sound last := holds_of_foldlM (fun read sound => sound.readWord read) folded (sound_start spec)
  split at asked <;> cases asked
  exact sound

theorem find?_key (distinct : (spec.options.map OptionSpec.key).Nodup) {option : OptionSpec}
    (member : option ∈ spec.options) : spec.options.find? (·.key = option.key) = some option := by
  cases found : spec.options.find? (·.key = option.key) with
  | none => simpa using List.find?_eq_none.mp found option member
  | some first =>
    have sameKey : first.key = option.key := by simpa using List.find?_some found
    have same := List.inj_on_of_nodup_map distinct (List.mem_of_find?_eq_some found) member sameKey
    rw [same]

theorem gives_of_readGiven (distinct : (spec.options.map OptionSpec.key).Nodup) {disk : Disk} {entry : String × Given}
    (fits : spec.Fits entry) {key : String} {v : Value} (read : spec.readGiven disk entry = .ok (key, v)) :
    ∃ option, spec.options.find? (·.key = key) = some option ∧ option.kind.Gives disk entry.2 v := by
  obtain ⟨option, member, isKey, takes⟩ := fits
  obtain ⟨name, given⟩ := entry
  obtain rfl : option.key = name := isKey
  have found := find?_key distinct member
  unfold readGiven at read
  simp only [found] at read
  cases kind : option.kind with
  | flag off =>
    rw [kind] at takes
    cases takes <;> cases read <;> refine ⟨option, found, ?_⟩ <;> rw [kind]
    · exact .on off
    · rename_i named
      exact .off named
  | valued shape =>
    rw [kind] at takes
    cases takes
    simp only [kind] at read
    obtain ⟨w, read, same⟩ := exists_of_map_ok read
    cases same
    refine ⟨option, found, ?_⟩
    rw [kind]
    exact .valued read

theorem key_of_readGiven {disk : Disk} {entry : String × Given} {result : String × Value}
    (read : spec.readGiven disk entry = .ok result) : result.1 = entry.1 := by
  unfold readGiven at read
  split at read
  · cases read
    rfl
  · split at read
    · obtain ⟨v, -, rfl⟩ := exists_of_map_ok read
      rfl
    · cases read
      rfl
  · cases read
    rfl

theorem get?_read {argument : ArgumentSpec} (takes : spec.argument = some argument) (single : argument.many = false)
    {disk : Disk} {parameters : Parameters} (accepted : spec.read disk state = .ok parameters) {key : String}
    (isOption : key ≠ argument.key) :
    (Register.get? state.given key = none → Register.get? parameters key = none) ∧
      ∀ given, Register.get? state.given key = some given →
        ∃ v, spec.readGiven disk (key, given) = .ok (key, v) ∧ Register.get? parameters key = some v := by
  obtain ⟨options, text, w, given, -, -, rfl⟩ := exists_of_read takes single accepted
  have behind : Register.get? (options ++ [(argument.key, w)]) key = Register.get? options key := by
    have other : (key == argument.key) = false := by simpa using isOption
    simp [Register.get?, List.lookup_append, List.lookup_cons, other]
  rw [behind]
  exact Register.get?_mapM key_of_readGiven given key

end Spec

theorem Shape.word_of_read_choice {disk : Disk} {hint text : String} {words : List String} {v : Value}
    (read : Shape.read disk hint text (.choice words) = .ok v) : ∃ word ∈ words, v = .text word := by
  simp only [Shape.read] at read
  split at read
  · rename_i word found
    cases read
    exact ⟨word, List.mem_of_find?_eq_some found, rfl⟩
  · cases read

theorem Shape.ne_null_of_read {disk : Disk} {hint text : String} {shape : Shape} {v : Value}
    (read : shape.read disk hint text = .ok v) : v ≠ .null := by
  cases shape with
  | choice words =>
    obtain ⟨word, -, rfl⟩ := Shape.word_of_read_choice read
    simp
  | path rule =>
    cases Shape.eq_text_of_read_path read
    simp
  | float | int =>
    simp only [Shape.read] at read
    split at read <;> cases read
    simp

end PluginAudit.Command
