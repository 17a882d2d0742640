import PluginAudit.Proofs.Command.Words

namespace PluginAudit.Command

def Bare (disk : Disk) (terminal : Terminal) : Prop :=
  terminal.disk = disk ∧ terminal.sink = none

section

variable {disk : Disk}

theorem ends_echo (text : String) : Ends (echo text) (Bare disk) (.ok ()) (Bare disk) :=
  Ends.modify fun _ bare => bare

theorem ends_printError (text : String) : Ends (printError text) (Bare disk) (.ok ()) (Bare disk) :=
  Ends.modify fun _ bare => bare

theorem ends_getDisk (disk : Disk) : Ends getDisk (Bare disk) (.ok disk) (Bare disk) := by
  rintro terminal ⟨rfl, bare⟩
  exact ⟨terminal, rfl, rfl, bare⟩

theorem ends_orEscape {α : Type} (result : Except Failure α) (before : Terminal → Prop) :
    Ends (orEscape result) before (result.mapError Ending.escaped) before := by
  cases result with
  | ok a => exact Ends.pure a before
  | error failure => exact Ends.throw (Ending.escaped failure) before

theorem ends_log_bare (now : Circumstances) (record : Log.Record) :
    Ends (log now record) (Bare disk) (.ok ()) (Bare disk) := by
  intro terminal bare
  refine Ends.bind (Ends.get terminal) ?_ terminal rfl
  rw [bare.2]
  rintro _ rfl
  dsimp only
  split
  · exact ends_printError record.message _ bare
  · exact Ends.pure () (Bare disk) _ bare

/-- Whatever becomes of a record, the command goes on. -/
theorem ends_log (now : Circumstances) (record : Log.Record) :
    Ends (log now record) (fun _ => True) (.ok ()) fun _ => True := by
  intro terminal _
  refine Ends.bind (Ends.get terminal) ?_ terminal rfl
  cases terminal.sink with
  | none =>
    dsimp only
    split
    · exact Ends.modify fun _ _ => trivial
    · exact fun state _ => Ends.pure () (fun _ => True) state trivial
  | some sink =>
    have printed : Ends ((sink.lines now.time [record]).forM printError) (fun _ => True) (.ok ()) fun _ => True :=
      Ends.forM fun line _ => Ends.modify fun _ _ => trivial
    intro state _
    refine Ends.bind printed ?_ state trivial
    intro printedOn _
    exact ⟨{ printedOn with disk := sink.writeFile printedOn.disk (sink.lines now.time [record]) }, rfl, trivial⟩

theorem ends_logAll_bare (now : Circumstances) (records : List Log.Record) :
    Ends (logAll now records) (Bare disk) (.ok ()) (Bare disk) :=
  Ends.forM fun record _ => ends_log_bare now record

theorem ends_logAll (now : Circumstances) (records : List Log.Record) :
    Ends (logAll now records) (fun _ => True) (.ok ()) fun _ => True :=
  Ends.forM fun record _ => ends_log now record

theorem ends_change {α : Type} {changing : Disk.Change α} {result : Except Failure α} {after : Disk}
    (changes : Ends changing (· = disk) result (· = after)) :
    Ends (change changing) (Bare disk) (.ok result) (Bare after) := by
  obtain ⟨last, ran, same⟩ := changes disk rfl
  have pair : changing.run disk = (result, after) := same ▸ ran
  refine Ends.bind (ends_getDisk disk) ?_
  rw [pair]
  refine Ends.bind (Ends.modify ?_) (Ends.pure _ _)
  rintro terminal ⟨-, bare⟩
  exact ⟨rfl, bare⟩

theorem ends_refuse (spec : Spec) (refusal : Refusal) :
    ∃ ending, Ends (α := Nat) (refuse spec refusal) (Bare disk) (.error ending) (Bare disk) := by
  cases refusal with
  | usage fault =>
    have told : Ends ((spec.faultLines fault).forM echoError) (Bare disk) (.ok ()) (Bare disk) :=
      Ends.forM fun line _ => ends_printError _
    exact ⟨.exit 2, Ends.bind told (Ends.throw _ _)⟩
  | failure failure => exact ⟨.escaped failure, Ends.throw _ _⟩

end

section

variable {spec : Spec} {command : Parameters → Run Nat} {words : List String} {state : Spec.State} {disk : Disk}

theorem ends_call_refused (asked : spec.readWords words = .ok state)
    (noHelp : Register.get? state.given "help" = none) {refusal : Refusal}
    (refused : spec.read disk state = .error refusal) :
    ∃ ending, Ends (call spec command words) (Bare disk) (.error ending) (Bare disk) := by
  obtain ⟨ending, ends⟩ := @ends_refuse disk spec refusal
  refine ⟨ending, ?_⟩
  unfold call
  rw [asked]
  dsimp only
  rw [noHelp]
  refine Ends.bind (ends_getDisk disk) ?_
  rw [refused]
  exact ends

theorem ends_call {parameters : Parameters} {result : Except Ending Nat} {after : Terminal → Prop}
    (asked : spec.readWords words = .ok state) (noHelp : Register.get? state.given "help" = none)
    (accepted : spec.read disk state = .ok parameters)
    (ends : Ends (command parameters) (Bare disk) result after) :
    Ends (call spec command words) (Bare disk) result after := by
  unfold call
  rw [asked]
  dsimp only
  rw [noHelp]
  refine Ends.bind (ends_getDisk disk) ?_
  rw [accepted]
  exact ends

end

section

variable {now : Circumstances} {disk after : Disk} {words : List String}

theorem run_of_code {code : Nat}
    (ends : Ends (callMember mainSpec (members now) words) (Bare disk) (.ok code) (Bare after)) :
    (run now disk words).disk = after ∧ (run now disk words).code = code ∧ (run now disk words).escaped = none := by
  obtain ⟨terminal, ran, same, -⟩ := ends ⟨disk, "", "", none⟩ ⟨rfl, rfl⟩
  unfold run
  rw [ran]
  exact ⟨same, rfl, rfl⟩

theorem run_of_ending {ending : Ending}
    (ends : Ends (callMember mainSpec (members now) words) (Bare disk) (.error ending) (Bare after)) :
    (run now disk words).disk = after ∧
      ∀ failure, ending = .escaped failure → (run now disk words).escaped = some failure := by
  obtain ⟨terminal, ran, same, -⟩ := ends ⟨disk, "", "", none⟩ ⟨rfl, rfl⟩
  unfold run
  rw [ran]
  refine ⟨same, ?_⟩
  rintro failure rfl
  rfl

end

def timeless : Circumstances :=
  ⟨List.range, .null, "", fun _ => ""⟩

end PluginAudit.Command
