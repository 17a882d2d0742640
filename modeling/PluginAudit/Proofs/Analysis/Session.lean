import Mathlib
import PluginAudit.Analysis.Session
import PluginAudit.Proofs.Progress

namespace PluginAudit.Session

def silent (settings : Settings) (popularity : Popularity) (notes : ScanNotes) : Session :=
  ⟨settings, popularity, .idle false, notes⟩

/-- A session with settings and popularity, the notes of its latest scan, and a display of a kind. -/
structure Works (calm : Progress → Prop) (settings : Settings) (popularity : Popularity) (notes : ScanNotes)
    (session : Session) : Prop where
  settings : session.settings = settings
  popularity : session.popularity = popularity
  notes : session.notes = notes
  progress : calm session.progress

/-- From every session of a kind the work gives a result and leads to a session of a kind, whatever it traces. -/
def Leads {α : Type} (work : Work α) (before : Session → Prop) (result : Except Failure α) (after : Session → Prop) :
    Prop :=
  Ends work (fun state => before state.1) result fun state => after state.1

def tell (enabled : Bool) (kind : Progress.NoteKind) (message : String) : Except Failure Unit :=
  (((Progress.idle enabled).noteLines kind message).mapError .markup).map fun _ => ()

def tellNotes (enabled : Bool) (warnings : List String) (errors : List ScanError) : Except Failure Unit := do
  warnings.forM fun message => tell enabled .warning message
  errors.forM fun error => tell enabled .error s!"{error.file}: {error.error}"
  return ()

section Steps

variable {enabled : Bool} {calm : Progress → Prop} {settings : Settings} {popularity : Popularity} {notes : ScanNotes}

theorem leads_display {act : Progress.Act Unit} (ends : Ends act calm (.ok ()) calm) :
    Leads (display act) (Works calm settings popularity notes) (.ok ()) (Works calm settings popularity notes) := by
  rintro ⟨session, traces⟩ works
  obtain ⟨progress, ran, kept⟩ := ends session.progress works.progress
  refine ⟨({ session with progress }, traces), ?_, works.settings, works.popularity, works.notes, kept⟩
  have pair : act.run session.progress = (.ok (), progress) := ran
  change ((act.run session.progress).1, { session with progress := (act.run session.progress).2 }, traces) = _
  rw [pair]

theorem leads_trace (before : Session → Prop) (seen : Trace) : Leads (trace seen) before (.ok ()) before :=
  Ends.modify fun _ holds => holds

theorem leads_current {α : Type} {before after : Session → Prop} {next : Session → Work α} {result : Except Failure α}
    (rest : ∀ session, before session → Leads (next session) before result after) :
    Leads (current >>= next) before result after := by
  rintro ⟨session, traces⟩ holds
  exact rest session holds (session, traces) holds

theorem leads_scan {search : ScanSettings → Scan.ScanM (List Plugin)}
    (paced : ∀ step ∈ (Scan.run (search (scanSettings settings))).2.progress,
      Ends (Progress.advance step.1 step.2) calm (.ok ()) calm) :
    Leads (scan search) (Works calm settings popularity notes) (.ok (Scan.run (search (scanSettings settings))).1)
      (Works calm settings popularity (Scan.run (search (scanSettings settings))).2) := by
  refine leads_current fun session works => ?_
  rw [works.settings]
  change Ends (do
    modify fun state =>
      ({ state.1 with notes := (Scan.run (search (scanSettings settings))).2 },
        state.2 ++ (Scan.run (search (scanSettings settings))).2.records.map .record)
    (Scan.run (search (scanSettings settings))).2.progress.forM fun step => display (Progress.advance step.1 step.2)
    return (Scan.run (search (scanSettings settings))).1) _ _ _
  refine Ends.bind (Ends.modify ?_)
    (Ends.bind (Ends.forM fun step member => leads_display (paced step member)) (Ends.pure _ _))
  rintro ⟨session, traces⟩ works
  exact ⟨works.settings, works.popularity, rfl, works.progress⟩

variable (steady : Progress.Steady enabled calm)

include steady

theorem leads_scanProject (around : Surroundings) (path : String)
    (paced : ∀ step ∈ (Scan.run (Scan.project (scanSettings settings) around.disk around.completion path)).2.progress,
      Ends (Progress.advance step.1 step.2) calm (.ok ()) calm) :
    Leads (scanProject around path) (Works calm settings popularity notes)
      (Scan.run (Scan.project (scanSettings settings) around.disk around.completion path)).1
      (Works calm settings popularity
        (Scan.run (Scan.project (scanSettings settings) around.disk around.completion path)).2) := by
  refine Ends.bind (leads_display (steady.start _)) ?_
  refine Ends.bind (leads_trace _ _) ?_
  refine Ends.bind (leads_scan paced) ?_
  cases (Scan.run (Scan.project (scanSettings settings) around.disk around.completion path)).1 with
  | ok plugins => exact Ends.pure _ _
  | error failure =>
    dsimp only
    split
    · refine Ends.bind (leads_trace _ _) ?_
      exact Ends.bind (leads_display steady.finish) (Ends.throw _ _)
    · exact Ends.throw _ _

theorem leads_scanFiles (around : Surroundings) (paths : List String)
    (paced : ∀ step ∈ (Scan.run (Scan.files (scanSettings settings) around.disk around.completion paths)).2.progress,
      Ends (Progress.advance step.1 step.2) calm (.ok ()) calm) :
    Leads (scanFiles around paths) (Works calm settings popularity notes)
      (Scan.run (Scan.files (scanSettings settings) around.disk around.completion paths)).1
      (Works calm settings popularity
        (Scan.run (Scan.files (scanSettings settings) around.disk around.completion paths)).2) := by
  refine Ends.bind (leads_display (steady.start _)) ?_
  exact Ends.bind (leads_scan paced) (Ends.ofExcept _ _)

theorem leads_tellScan (around : Surroundings) (plugins : List Plugin) :
    Leads (tellScan around plugins) (Works calm settings popularity notes) (.ok ())
      (Works calm settings popularity notes) := by
  refine leads_current fun session works => ?_
  refine Ends.bind (leads_trace _ _) ?_
  refine Ends.bind (Ends.forM fun _ _ => leads_trace _ _) (leads_display (steady.complete _ ?_))
  change '[' ∉ ("Read " ++ toString plugins.length ++ " plugins").toList
  simpa using Progress.free_toString plugins.length

theorem leads_checkDependencies (around : Surroundings) (plugins : List Plugin) :
    Leads (checkDependencies around plugins) (Works calm settings popularity notes) (.ok (Dependency.check plugins))
      (Works calm settings popularity notes) := by
  refine Ends.bind (leads_display (steady.start _)) ?_
  refine Ends.bind (leads_trace _ _) ?_
  refine Ends.bind (leads_display (steady.complete _ ?_)) (Ends.pure _ _)
  change '[' ∉ (toString (Dependency.check plugins).issues.length ++ " dependency issues").toList
  simpa using Progress.free_toString (Dependency.check plugins).issues.length

theorem leads_detectConflicts (plugins : List Plugin) :
    Leads (detectConflicts plugins) (Works calm settings popularity notes)
      ((ConflictReport.detect plugins popularity (settings.value .warningThreshold)).mapError .incomparable)
      (Works calm settings popularity notes) := by
  refine leads_current fun session works => ?_
  rw [works.settings, works.popularity]
  refine Ends.bind (leads_display (steady.start _)) ?_
  rw [← bind_pure (Except.mapError _ _)]
  refine Ends.andThen (Ends.ofExcept _ _) fun report => ?_
  refine Ends.bind (leads_trace _ _) ?_
  refine Ends.bind (leads_trace _ _) ?_
  refine Ends.bind (leads_display (steady.complete _ ?_)) (Ends.pure _ _)
  change '[' ∉ (toString report.conflicts.length ++ " conflicts").toList
  simpa using Progress.free_toString report.conflicts.length

theorem leads_note (kind : Progress.NoteKind) (message : String) :
    Leads (note kind message) (Works calm settings popularity notes) (tell enabled kind message)
      (Works calm settings popularity notes) := by
  refine leads_current fun session works => ?_
  have same : session.progress.noteLines kind message = (Progress.idle enabled).noteLines kind message := by
    unfold Progress.noteLines
    rw [steady.enabled _ works.progress]
    rfl
  rw [same, tell, map_eq_bind]
  exact Ends.andThen (Ends.ofExcept _ _) fun lines => Ends.forM fun _ _ => leads_trace _ _

theorem leads_showNotes :
    Leads showNotes (Works calm settings popularity notes) (tellNotes enabled notes.warnings notes.errors)
      (Works calm settings popularity notes) := by
  refine leads_current fun session works => ?_
  rw [works.notes]
  refine Ends.andThen (Ends.forM_result fun message _ => leads_note steady .warning message) fun _ => ?_
  refine Ends.andThen (Ends.forM_result fun error _ => leads_note steady .error _) fun _ => ?_
  exact leads_display steady.finish

end Steps

/-- What is analysed: the plugins of a project, or files. -/
inductive Target where
  | project (path : String)
  | files (paths : List String)

/-- One request of a session, with the files as they are then and the order in which they are done. -/
structure Call where
  disk : Disk
  completion : Scan.Completion
  target : Target
  mode : String

namespace Call

def work (call : Call) (elapsed : Value) : Work Analysis :=
  match call.target with
  | .project path => analyze ⟨call.disk, call.completion, elapsed⟩ path call.mode
  | .files paths => analyzeFiles ⟨call.disk, call.completion, elapsed⟩ paths call.mode

def scanned (settings : Settings) (call : Call) : Except Failure (List Plugin) × ScanNotes :=
  match call.target with
  | .project path => Scan.run (Scan.project (scanSettings settings) call.disk call.completion path)
  | .files paths => Scan.run (Scan.files (scanSettings settings) call.disk call.completion paths)

def directory (call : Call) : Except Failure String :=
  match call.target with
  | .project path => ((call.disk.fullPath path).mapError .file).map Path.render
  | .files [] => .ok ""
  | .files (path :: _) => ((call.disk.fullPath path).mapError .file).map (·.parent.render)

def conflicts (settings : Settings) (popularity : Popularity) (mode : Mode) (plugins : List Plugin) :
    Except Failure (Option ConflictReport) :=
  if mode.asksConflicts then
    some <$> (ConflictReport.detect plugins popularity (settings.value .warningThreshold)).mapError .incomparable
  else .ok none

def analysis (mode : Mode) (projectPath : String) (plugins : List Plugin) (notes : ScanNotes)
    (conflicts : Option ConflictReport) : Analysis where
  projectPath
  plugins
  dependencies := if mode.asksDependencies then some (Dependency.check plugins) else none
  conflicts
  errors := notes.errors
  warnings := notes.warnings

def outcome (settings : Settings) (popularity : Popularity) (call : Call) : Except Failure Analysis :=
  match Mode.ofName? call.mode with
  | none => .error (.project (.unknownMode call.mode))
  | some mode => do
    let plugins ← (call.scanned settings).1
    let projectPath ← call.directory
    (conflicts settings popularity mode plugins).map (analysis mode projectPath plugins (call.scanned settings).2)

/-- An analysis is given after its notes are printed. -/
def confirm (enabled : Bool) (analysis : Analysis) : Except Failure Analysis :=
  (tellNotes enabled analysis.warnings analysis.errors).map fun _ => analysis

end Call

theorem leads_filesPath (call : Call) {paths : List String} (target : call.target = .files paths)
    (holds : Session → Prop) : Leads (filesPath call.disk paths) holds call.directory holds := by
  unfold filesPath fullPath ofExcept Call.directory
  rw [target]
  cases paths with
  | nil => exact Ends.pure _ _
  | cons path rest =>
    dsimp only
    rw [map_eq_bind]
    exact Ends.andThen (Ends.ofExcept _ _) fun place => Ends.pure _ _

section Runs

variable {enabled : Bool} {calm : Progress → Prop} (steady : Progress.Steady enabled calm) {settings : Settings}
  {popularity : Popularity} {notes : ScanNotes}

include steady

theorem leads_dependencies (around : Surroundings) (mode : Mode) (plugins : List Plugin) :
    Leads (ifAsked mode.asksDependencies (checkDependencies around plugins)) (Works calm settings popularity notes)
      (.ok (if mode.asksDependencies then some (Dependency.check plugins) else none))
      (Works calm settings popularity notes) := by
  cases mode.asksDependencies with
  | true => exact Ends.map some (leads_checkDependencies steady around plugins)
  | false => exact Ends.pure none _

theorem leads_conflicts (mode : Mode) (plugins : List Plugin) :
    Leads (ifAsked mode.asksConflicts (detectConflicts plugins)) (Works calm settings popularity notes)
      (Call.conflicts settings popularity mode plugins) (Works calm settings popularity notes) := by
  unfold Call.conflicts
  cases mode.asksConflicts with
  | true => exact Ends.map some (leads_detectConflicts steady plugins)
  | false => exact Ends.pure none _

theorem leads_analyzePlugins (around : Surroundings) (mode : Mode) (projectPath : String) (plugins : List Plugin) :
    Leads (analyzePlugins around mode projectPath plugins) (Works calm settings popularity notes)
      ((Call.conflicts settings popularity mode plugins).map (Call.analysis mode projectPath plugins notes) >>=
        Call.confirm enabled)
      (Works calm settings popularity notes) := by
  refine Ends.bind (leads_tellScan steady around plugins) ?_
  refine Ends.bind (leads_dependencies steady around mode plugins) ?_
  rw [map_eq_bind, bind_assoc]
  refine Ends.andThen (leads_conflicts steady mode plugins) fun conflicts => ?_
  change Leads _ _ ((tellNotes enabled notes.warnings notes.errors).map fun _ => _) _
  rw [map_eq_bind]
  refine Ends.andThen (leads_showNotes steady) fun _ => ?_
  refine leads_current fun session works => ?_
  rw [works.notes]
  exact Ends.pure _ _

/-- A call in three stages: plugins are scanned, then their directory is found, then they are analysed. -/
theorem leads_stages {α : Type} {call : Call} {scanning : Work (List Plugin)} {finding : Work α}
    {found : Except Failure α} {name : α → String}
    (scans : Leads scanning (Works calm settings popularity notes) (call.scanned settings).1
      (Works calm settings popularity (call.scanned settings).2))
    (finds : ∀ holds, Leads finding holds found holds) (named : found.map name = call.directory)
    (around : Surroundings) :
    ∃ left, Leads (do
        let mode ← readMode call.mode
        let plugins ← scanning
        let place ← finding
        analyzePlugins around mode (name place) plugins) (Works calm settings popularity notes)
      (call.outcome settings popularity >>= Call.confirm enabled) (Works calm settings popularity left) := by
  unfold readMode Call.outcome
  cases Mode.ofName? call.mode with
  | none => exact ⟨notes, Ends.bind_error (Ends.throw _ _) _⟩
  | some mode =>
    refine ⟨(call.scanned settings).2, Ends.bind (Ends.pure mode _) ?_⟩
    dsimp only
    rw [← named, bind_assoc]
    refine Ends.andThen scans fun plugins => ?_
    rw [map_eq_bind, bind_assoc, bind_assoc]
    exact Ends.andThen (finds _) fun place => leads_analyzePlugins steady around mode (name place) plugins

theorem leads_work (call : Call)
    (paced : ∀ step ∈ (call.scanned settings).2.progress, Ends (Progress.advance step.1 step.2) calm (.ok ()) calm)
    (elapsed : Value) :
    ∃ left, Leads (call.work elapsed) (Works calm settings popularity notes)
      (call.outcome settings popularity >>= Call.confirm enabled) (Works calm settings popularity left) := by
  obtain ⟨disk, completion, target, mode⟩ := call
  cases target with
  | project path =>
    have scans := @leads_scanProject _ _ settings popularity notes steady ⟨disk, completion, elapsed⟩ path paced
    exact @leads_stages _ _ steady settings popularity notes _ ⟨disk, completion, .project path, mode⟩ _ _ _ _ scans
      (fun _ => Ends.ofExcept _ _) rfl _
  | files paths =>
    have scans := @leads_scanFiles _ _ settings popularity notes steady ⟨disk, completion, elapsed⟩ paths paced
    exact @leads_stages _ _ steady settings popularity notes _ ⟨disk, completion, .files paths, mode⟩ _ _ _ _ scans
      (leads_filesPath ⟨disk, completion, .files paths, mode⟩ rfl) (congrFun Except.map_id _) _

end Runs

theorem tell_idle (kind : Progress.NoteKind) (message : String) : tell false kind message = .ok () :=
  rfl

theorem confirm_idle (analysis : Analysis) : Call.confirm false analysis = .ok analysis := by
  unfold Call.confirm tellNotes
  rw [forM_ok fun message _ => tell_idle .warning message, forM_ok fun error _ => tell_idle .error _]
  rfl

theorem works_silent (settings : Settings) (popularity : Popularity) (notes : ScanNotes) :
    Works (· = .idle false) settings popularity notes (silent settings popularity notes) :=
  ⟨rfl, rfl, rfl, rfl⟩

theorem Works.eq_silent {settings : Settings} {popularity : Popularity} {notes : ScanNotes} {session : Session}
    (works : Works (· = .idle false) settings popularity notes session) : session = silent settings popularity notes := by
  obtain ⟨rfl, rfl, rfl, idle⟩ := works
  obtain ⟨settings, popularity, progress, notes⟩ := session
  exact congrArg (Session.mk settings popularity · notes) idle

/-- The result of a call. -/
def answer (session : Session) (call : Call) (elapsed : Value) : Except Failure Analysis :=
  (session.run (call.work elapsed)).1

/-- A session after calls, each with the time it takes. They may fail. -/
def after (session : Session) (history : List (Call × Value)) : Session :=
  history.foldl (fun session call => (session.run (call.1.work call.2)).2.1) session

section Histories

variable {settings : Settings} {popularity : Popularity} {notes : ScanNotes}

theorem leads_work_silent (call : Call) (elapsed : Value) :
    ∃ left, Leads (call.work elapsed) (· = silent settings popularity notes) (call.outcome settings popularity)
      (· = silent settings popularity left) := by
  obtain ⟨left, leads⟩ := @leads_work _ _ Progress.steady_idle settings popularity notes call
    (fun _ _ => Progress.ends_advance_idle _ _) elapsed
  have plain : Call.confirm false = pure := funext confirm_idle
  rw [plain, bind_pure] at leads
  refine ⟨left, ?_⟩
  rintro ⟨_, traces⟩ rfl
  obtain ⟨next, ran, works⟩ := leads (silent settings popularity notes, traces) (works_silent _ _ _)
  exact ⟨next, ran, works.eq_silent⟩

theorem answer_silent (call : Call) (elapsed : Value) :
    (silent settings popularity notes).answer call elapsed = call.outcome settings popularity := by
  obtain ⟨left, leads⟩ := leads_work_silent call elapsed
  obtain ⟨next, ran, -⟩ := leads (silent settings popularity notes, []) rfl
  exact congrArg Prod.fst ran

theorem after_silent (history : List (Call × Value)) :
    ∃ left, (silent settings popularity notes).after history = silent settings popularity left := by
  -- Sessions differ in their notes from call to call, and in nothing else.
  induction history generalizing notes with
  | nil => exact ⟨notes, rfl⟩
  | cons call rest ih =>
    obtain ⟨left, leads⟩ := leads_work_silent call.1 call.2
    obtain ⟨next, ran, same⟩ := leads (silent settings popularity notes, []) rfl
    have step :
        ((silent settings popularity notes).run (call.1.work call.2)).2.1 = silent settings popularity left := by
      rw [← same]
      exact congrArg (·.2.1) ran
    rw [after, List.foldl_cons, step]
    exact ih

theorem eq_silent_of_start {disk : Disk} {given : Option Popularity} {session : Session} {records : List Log.Record}
    (started : (start disk settings given false).run = (.ok session, records)) :
    session = silent settings session.popularity .empty := by
  cases given with
  | some popularity =>
    cases started
    rfl
  | none =>
    obtain ⟨found, between, -, ended⟩ := exists_of_run_bind started
    cases ended
    rfl

end Histories

namespace Call

def inMode (call : Call) (mode : Mode) : Call :=
  { call with mode := mode.name }

theorem outcome_full (settings : Settings) (popularity : Popularity) (call : Call) :
    (call.inMode .full).outcome settings popularity = do
      let checked ← (call.inMode .dependencies).outcome settings popularity
      let detected ← (call.inMode .conflicts).outcome settings popularity
      return { checked with conflicts := detected.conflicts } := by
  have named (mode : Mode) : Mode.ofName? (call.inMode mode).mode = some mode := by cases mode <;> rfl
  have scanned (mode : Mode) : (call.inMode mode).scanned settings = call.scanned settings := rfl
  have directory (mode : Mode) : (call.inMode mode).directory = call.directory := rfl
  simp only [outcome, named, scanned, directory]
  cases (call.scanned settings).1 with
  | error failure => rfl
  | ok plugins =>
    cases call.directory with
    | error failure => rfl
    | ok projectPath =>
      dsimp only [Bind.bind, Except.bind, conflicts]
      generalize (ConflictReport.detect plugins popularity (settings.value .warningThreshold)).mapError _ = found
      cases found with
      | error failure => rfl
      | ok report => rfl

theorem parts_of_outcome_full {settings : Settings} {popularity : Popularity} {call : Call} {analysis : Analysis}
    (gives : (call.inMode .full).outcome settings popularity = .ok analysis) :
    analysis.dependencies = some (Dependency.check analysis.plugins) ∧ analysis.conflicts.isSome := by
  have named : Mode.ofName? (call.inMode .full).mode = some .full := rfl
  rw [outcome, named] at gives
  obtain ⟨plugins, -, gives⟩ := exists_of_bind_ok gives
  obtain ⟨projectPath, -, gives⟩ := exists_of_bind_ok gives
  obtain ⟨found, detected, rfl⟩ := exists_of_map_ok gives
  obtain ⟨report, -, rfl⟩ := exists_of_map_ok detected
  exact ⟨rfl, rfl⟩

end Call

/-- After any calls, failed ones among them, a session that shows no progress answers like a new one, whatever the
clocks say. A full analysis holds what the two others give. -/
theorem answer_after {disk : Disk} {settings : Settings} {given : Option Popularity} {session : Session}
    {records : List Log.Record} (started : (start disk settings given false).run = (.ok session, records))
    (history : List (Call × Value)) (call : Call) :
    (∀ disk' given' fresh records', (start disk' settings given' false).run = (.ok fresh, records') →
      fresh.popularity = session.popularity →
      ∀ elapsed elapsed', (session.after history).answer call elapsed = fresh.answer call elapsed') ∧
    ∀ elapsed,
      ((session.after history).answer (call.inMode .full) elapsed = do
        let checked ← (session.after history).answer (call.inMode .dependencies) elapsed
        let detected ← (session.after history).answer (call.inMode .conflicts) elapsed
        return { checked with conflicts := detected.conflicts }) ∧
      ∀ analysis, (session.after history).answer (call.inMode .full) elapsed = .ok analysis →
        analysis.dependencies.isSome ∧ analysis.conflicts.isSome := by
  rw [eq_silent_of_start started]
  obtain ⟨left, used⟩ := after_silent history
  rw [used]
  constructor
  · intro disk' given' fresh records' startedFresh same elapsed elapsed'
    rw [eq_silent_of_start startedFresh, same, answer_silent, answer_silent]
    rfl
  · intro elapsed
    simp only [answer_silent]
    refine ⟨Call.outcome_full settings session.popularity call, fun analysis gives => ?_⟩
    obtain ⟨checked, detected⟩ := Call.parts_of_outcome_full gives
    exact ⟨checked ▸ rfl, detected⟩

def weatherGame : Disk where
  workingDirectory := ⟨.root, ["game"]⟩
  home := ⟨.root, ["home"]⟩
  entries := [(["game"], .directory), (["game", "js"], .directory), (["game", "js", "plugins"], .directory),
    (["game", "js", "plugins", "Rain.js"], .text "Map.prototype.update = rain;"),
    (["game", "js", "plugins", "Snow.js"], .text "Map.prototype.update = snow;")]
  denied := [["game", "js", "plugins", "Snow.js"]]

theorem answer_after_failures :
    let session := silent .defaults .empty .empty
    let unknown : Call := ⟨weatherGame, List.range, .project "", "quick"⟩
    let missing : Call := ⟨weatherGame, List.range, .project "away", "full"⟩
    let denied : Call := ⟨weatherGame, List.range, .files ["js/plugins/Snow.js"], "conflicts"⟩
    let call : Call := ⟨{ weatherGame with denied := [] }, List.range, .project "", "full"⟩
    let used := session.after [(unknown, .null), (denied, .null), (missing, .null)]
    (start weatherGame .defaults (some .empty) false).run = (.ok session, []) ∧
      session.answer unknown .null = .error (.project (.unknownMode "quick")) ∧
      session.answer missing .null = .error (.project (.missing "/game/away")) ∧
      used.answer call .null = session.answer call (.int 1) ∧
      used.answer (call.inMode .full) .null = do
        let checked ← used.answer (call.inMode .dependencies) .null
        let detected ← used.answer (call.inMode .conflicts) .null
        return { checked with conflicts := detected.conflicts } := by
  intro session unknown missing denied call used
  have started : (start weatherGame .defaults (some .empty) false).run = (.ok session, []) := rfl
  obtain ⟨same, joined⟩ := answer_after started [(unknown, .null), (denied, .null), (missing, .null)] call
  refine ⟨started, by decide +kernel, by decide +kernel, ?_, (joined .null).1⟩
  exact same weatherGame (some .empty) session [] started rfl .null (.int 1)

end PluginAudit.Session
