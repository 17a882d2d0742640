import PluginAudit.Proofs.Analysis.Session
import PluginAudit.Proofs.Project.Pace

namespace PluginAudit.Session

def startPopularity (disk : Disk) (settings : Settings) : Option Popularity → Except Failure Popularity
  | some popularity => .ok popularity
  | none => (settingsPopularity disk settings).run.1

/-- The result of a call in a new session. -/
def ask (disk : Disk) (settings : Settings) (given : Option Popularity) (verbose : Bool) (call : Call)
    (elapsed : Value) : Except Failure Analysis := do
  let session ← (start disk settings given verbose).run.1
  session.answer call elapsed

section

variable {verbose : Bool} {calm : Progress → Prop} (steady : Progress.Steady verbose calm)
  (atFirst : calm (.idle verbose)) {settings : Settings} {call : Call}
  (paced : ∀ step ∈ (call.scanned settings).2.progress, Ends (Progress.advance step.1 step.2) calm (.ok ()) calm)

include steady atFirst paced

theorem answer_new (popularity : Popularity) (elapsed : Value) :
    answer ⟨settings, popularity, .idle verbose, .empty⟩ call elapsed =
      call.outcome settings popularity >>= Call.confirm verbose := by
  obtain ⟨left, leads⟩ := @leads_work _ _ steady settings popularity .empty call paced elapsed
  obtain ⟨next, ran, -⟩ := leads (⟨settings, popularity, .idle verbose, .empty⟩, []) ⟨rfl, rfl, rfl, atFirst⟩
  exact congrArg Prod.fst ran

theorem ask_eq (disk : Disk) (given : Option Popularity) (elapsed : Value) :
    ask disk settings given verbose call elapsed =
      startPopularity disk settings given >>= fun popularity =>
        call.outcome settings popularity >>= Call.confirm verbose := by
  have answers := answer_new steady atFirst paced
  cases given with
  | some popularity => exact answers popularity elapsed
  | none =>
    obtain ⟨result, records, loaded⟩ : ∃ result records, (settingsPopularity disk settings).run = (result, records) :=
      ⟨_, _, rfl⟩
    unfold ask startPopularity
    rw [loaded]
    cases result with
    | error failure =>
      have started : (start disk settings none verbose).run = (.error failure, records) := run_bind_of_error loaded _
      rw [started]
      rfl
    | ok found =>
      have started : (start disk settings none verbose).run = (.ok ⟨settings, found, .idle verbose, .empty⟩, records) :=
        run_bind_of_ok loaded
      rw [started]
      exact answers found elapsed

end

theorem ask_silent (disk : Disk) (settings : Settings) (given : Option Popularity) (call : Call) (elapsed : Value) :
    ask disk settings given false call elapsed =
      startPopularity disk settings given >>= call.outcome settings := by
  have plain : Call.confirm false = pure := funext confirm_idle
  rw [ask_eq Progress.steady_idle rfl fun _ _ => Progress.ends_advance_idle _ _]
  simp only [plain, bind_pure]

/-- No bracket opens in what a scan noted. -/
structure PlainNotes (analysis : Analysis) : Prop where
  warnings : ∀ message ∈ analysis.warnings, '[' ∉ message.toList
  errors : ∀ error ∈ analysis.errors, '[' ∉ error.file.toList ∧ '[' ∉ error.error.toList

theorem tell_plain (enabled : Bool) (kind : Progress.NoteKind) {message : String} (free : '[' ∉ message.toList) :
    tell enabled kind message = .ok () := by
  cases enabled with
  | false => rfl
  | true =>
    obtain ⟨printed, isPrinted⟩ := (Progress.drawable_note kind free).exists_lines
    have lines : (Progress.idle true).noteLines kind message = .ok printed := isPrinted
    unfold tell
    rw [lines]
    rfl

theorem confirm_plain (enabled : Bool) {analysis : Analysis} (plain : PlainNotes analysis) :
    Call.confirm enabled analysis = .ok analysis := by
  have warnings := forM_ok fun message member => tell_plain enabled .warning (plain.warnings message member)
  have errors : analysis.errors.forM (fun error => tell enabled .error s!"{error.file}: {error.error}") = .ok () := by
    refine forM_ok fun error member => tell_plain enabled .error ?_
    obtain ⟨file, text⟩ := plain.errors error member
    change '[' ∉ (error.file ++ ": " ++ error.error).toList
    simp [file, text]
  unfold Call.confirm tellNotes
  rw [warnings, errors]
  rfl

def emptyGame (list : String) : Disk where
  workingDirectory := ⟨.root, ["game"]⟩
  home := ⟨.root, ["home"]⟩
  entries := [(["game"], .directory), (["game", "js"], .directory), (["game", "js", "plugins"], .directory),
    (["game", "js", "plugins.js"], .text list)]
  denied := []

def emptyCall (list : String) : Call :=
  ⟨emptyGame list, List.range, .project "", "full"⟩

def Missing (name : String) (notes : ScanNotes) : Prop :=
  ∃ records, notes = ⟨[], [Scan.notFound name], [], records⟩

section

variable {list name : String}
  (isText : (emptyGame list).read ⟨.root, ["game", "js", "plugins.js"]⟩ = .ok list)
  (listed : LoadOrder.read false list = .ok [name])

include isText listed

theorem ends_orderFiles_emptyGame :
    Ends (Scan.orderFiles (scanSettings .defaults) (emptyGame list) ⟨.root, ["game"]⟩
      ⟨.root, ["game", "js", "plugins"]⟩) (· = .empty) (.ok []) (Missing name) := by
  have scripts : (emptyGame list).scriptsIn ⟨.root, ["game", "js", "plugins"]⟩ = [] := by cbv
  have text : Scan.listText (emptyGame list) ⟨.root, ["game", "js", "plugins"]⟩
      ⟨.root, ["game", "js", "plugins.js"]⟩ = .ok list := by
    unfold Scan.listText
    rw [isText]
  have order : Scan.readOrder (.bool false) list = pure [name] := by
    unfold Scan.readOrder
    simp only [Value.holds, listed]
  unfold Scan.orderFiles
  rw [scripts]
  refine (Ends.ofOk rfl _).bind ?_
  refine (@Ends.ofOk _ _ _ _ true rfl _).bind ?_
  refine (Ends.ofOk text _).bind ?_
  change Ends (Scan.readOrder (.bool false) list >>= _) _ _ _
  rw [order]
  rintro _ rfl
  exact ⟨_, rfl, _, rfl⟩

theorem scanned_emptyCall : ∃ notes, (emptyCall list).scanned .defaults = (.ok [], notes) ∧ Missing name notes := by
  have collected : Ends (Scan.collect (scanSettings .defaults) (emptyGame list) List.range []) (Missing name) (.ok [])
      (Missing name) := by
    rintro _ ⟨records, rfl⟩
    exact ⟨_, rfl, _, rfl⟩
  have project : Ends (Scan.project (scanSettings .defaults) (emptyGame list) List.range "") (· = .empty) (.ok [])
      (Missing name) := by
    unfold Scan.project Scan.fileResult
    refine (@Ends.ofOk _ _ _ _ (⟨.root, ["game"]⟩ : Path) rfl _).bind ?_
    refine (@Ends.ofOk _ _ _ _ true rfl _).bind ?_
    refine (@Ends.ofOk _ _ _ _ true rfl _).bind ?_
    refine (@Ends.ofOk _ _ _ _ true rfl _).bind ?_
    exact (ends_orderFiles_emptyGame isText listed).bind collected
  exact project .empty rfl

theorem outcome_emptyCall : ∃ analysis, (emptyCall list).outcome .defaults .empty = .ok analysis ∧
    analysis.warnings = [Scan.notFound name] ∧ analysis.errors = [] := by
  obtain ⟨_, scanned, records, rfl⟩ := scanned_emptyCall isText listed
  have mode : Mode.ofName? (emptyCall list).mode = some .full := rfl
  have directory : (emptyCall list).directory = .ok "/game" := rfl
  unfold Call.outcome
  rw [mode, scanned, directory]
  exact ⟨_, rfl, rfl, rfl⟩

end

/-- A session that shows progress on a project gives what a silent one gives, if all its notes can be printed; if not,
it fails at the first one that cannot. Notes in which no bracket opens all can. The disk has no more entries than a bar
can show steps, and every file of a scan is done once. -/
theorem ask_verbose {call : Call} {path : String} (onProject : call.target = .project path)
    (complete : ∀ n, (call.completion n).Perm (List.range n)) (few : call.disk.entries.length ≤ Stage.stepLimit)
    (disk : Disk) (settings : Settings) (given : Option Popularity) (elapsed elapsed' : Value) :
    ask disk settings given true call elapsed =
      ask disk settings given false call elapsed' >>= Call.confirm true ∧
    ((∀ analysis, ask disk settings given false call elapsed' = .ok analysis → PlainNotes analysis) →
      ask disk settings given true call elapsed = ask disk settings given false call elapsed') := by
  -- At this pace the bar can always be drawn, so only a note can fail.
  have paced : ∀ step ∈ (call.scanned settings).2.progress,
      Ends (Progress.advance step.1 step.2) Progress.Showing (.ok ()) Progress.Showing := by
    intro step member
    unfold Call.scanned at member
    rw [onProject] at member
    obtain ⟨done, total⟩ := Scan.paced_project _ call.disk complete path step member
    exact Progress.ends_advance (done.trans few) (total.trans few)
  have shown := ask_eq Progress.steady_showing Progress.showing_idle paced disk given elapsed
  have same : ask disk settings given true call elapsed =
      ask disk settings given false call elapsed' >>= Call.confirm true := by
    rw [shown, ask_silent, bind_assoc]
  refine ⟨same, fun plain => ?_⟩
  rw [same]
  cases silent : ask disk settings given false call elapsed' with
  | error failure => rfl
  | ok analysis => exact confirm_plain true (plain analysis silent)

def rainList : String :=
  "var $plugins =\n[\x7b\"name\": \"Rain\", \"status\": true\x7d];\n"

theorem ask_verbose_rain :
    (emptyCall rainList).target = .project "" ∧
    (∀ n, ((emptyCall rainList).completion n).Perm (List.range n)) ∧
    (emptyCall rainList).disk.entries.length ≤ Stage.stepLimit ∧
    (∃ analysis,
      ask (emptyGame rainList) .defaults (some .empty) false (emptyCall rainList) .null = .ok analysis ∧
      analysis.warnings = [Scan.notFound "Rain"]) ∧
    ask (emptyGame rainList) .defaults (some .empty) true (emptyCall rainList) .null =
      ask (emptyGame rainList) .defaults (some .empty) false (emptyCall rainList) .null := by
  have few : (emptyCall rainList).disk.entries.length ≤ Stage.stepLimit := Stage.le_stepLimit (by decide)
  have listed : LoadOrder.read false rainList = .ok ["Rain"] := by decide +kernel
  obtain ⟨analysis, gives, warnings, errors⟩ := outcome_emptyCall rfl listed
  have silent : ask (emptyGame rainList) .defaults (some .empty) false (emptyCall rainList) .null = .ok analysis := by
    rw [ask_silent]
    exact gives
  have plain : PlainNotes analysis := by
    constructor
    · rw [warnings]
      decide
    · rw [errors]
      exact List.forall_mem_nil _
  refine ⟨rfl, fun n => .refl _, few, ⟨analysis, silent, warnings⟩, ?_⟩
  refine (ask_verbose rfl (fun n => .refl _) few _ _ _ _ _).2 fun given isGiven => ?_
  rw [silent] at isGiven
  cases isGiven
  exact plain

def bracketList : String :=
  "var $plugins =\n[\x7b\"name\": \"[/b]\", \"status\": true\x7d];\n"

theorem ask_verbose_unprintable :
    (∃ analysis,
      ask (emptyGame bracketList) .defaults (some .empty) false (emptyCall bracketList) .null = .ok analysis ∧
      analysis.warnings = [Scan.notFound "[/b]"]) ∧
    ask (emptyGame bracketList) .defaults (some .empty) true (emptyCall bracketList) .null =
      .error (.markup (.noSuchTag "/b" 29)) := by
  have listed : LoadOrder.read false bracketList = .ok ["[/b]"] := by decide +kernel
  have unprintable : tell true .warning (Scan.notFound "[/b]") = .error (.markup (.noSuchTag "/b" 29)) := by
    decide +kernel
  obtain ⟨_, scanned, records, rfl⟩ := scanned_emptyCall rfl listed
  obtain ⟨analysis, gives, warnings, errors⟩ := outcome_emptyCall rfl listed
  have paced : ∀ step ∈ ((emptyCall bracketList).scanned .defaults).2.progress,
      Ends (Progress.advance step.1 step.2) Progress.Showing (.ok ()) Progress.Showing := by
    rw [scanned]
    exact List.forall_mem_nil _
  constructor
  · rw [ask_silent]
    exact ⟨analysis, gives, warnings⟩
  · rw [ask_eq Progress.steady_showing Progress.showing_idle paced]
    change (emptyCall bracketList).outcome .defaults .empty >>= Call.confirm true = _
    rw [gives]
    change Call.confirm true analysis = _
    unfold Call.confirm tellNotes
    rw [warnings, errors]
    change ((tell true .warning (Scan.notFound "[/b]") >>= fun _ => _) >>= fun _ => _).map _ = _
    rw [unprintable]
    rfl

end PluginAudit.Session
