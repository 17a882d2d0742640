import Mathlib
import PluginAudit.Proofs.Project.Ordering

namespace PluginAudit

theorem Path.splitName_script {name : String} (nonempty : name ≠ "") : splitName (name ++ ".js") = (name, ".js") := by
  have chars : name.toList ≠ [] := by simpa using nonempty
  have split : lastDot (name.toList ++ ['.', 'j', 's']) = some (name.toList, ['j', 's']) := by
    have behind : (name.toList ++ ['.', 'j', 's']).reverse.takeWhile (· != '.') = ['s', 'j'] := by simp
    have before : (name.toList ++ ['.', 'j', 's']).take (name.toList.length + 3 - 2 - 1) = name.toList := by simp
    unfold lastDot
    simp only [behind, List.length_append, List.reverse_cons, List.reverse_nil, List.nil_append, List.length_cons,
      List.length_nil, List.cons_append, before]
    rw [if_neg (by omega)]
  unfold splitName
  rw [String.toList_append, show ".js".toList = ['.', 'j', 's'] from rfl, split]
  simp [chars]

namespace Scan

theorem toList_notFound (name : String) :
    (notFound name).toList = "Plugin '".toList ++ (name.toList ++
      ("' is in plugins.js but js/plugins/".toList ++ (name.toList ++ ".js was not found".toList))) := by
  simp only [notFound, toString, String.toList_append, List.append_assoc]

theorem notFound_injective : Function.Injective notFound := by
  intro name other same
  have chars := congrArg String.toList same
  rw [toList_notFound, toList_notFound] at chars
  have lengths := congrArg List.length chars
  simp only [List.length_append] at lengths
  have starts := List.append_cancel_left chars
  obtain ⟨names, -⟩ := List.append_inj starts (by omega)
  exact String.toList_inj.mp names

theorem notFound_ne_noDirectory (name path : String) : notFound name ≠ s!"No plugin directory at {path}" := by
  intro same
  have chars := congrArg String.toList same
  rw [toList_notFound, String.toList_append] at chars
  have first := congrArg List.head? chars
  simp [toString] at first

/-- A name is told of if it has no file, or if an earlier entry has taken it. -/
theorem mem_untaken_iff {file? : String → Option String} {names : List String} {name : String} :
    name ∈ untaken file? names ↔ name ∈ names ∧ (2 ≤ names.count name ∨ file? name = none) := by
  induction names using List.reverseRecOn with
  | nil => simp [untaken]
  | append_singleton names last ih =>
    rw [untaken_append, List.mem_append, ih]
    by_cases same : last = name
    · subst same
      by_cases earlier : last ∈ names
      · have counted := List.count_pos_iff.mpr earlier
        have twice : 2 ≤ (names ++ [last]).count last := by
          rw [List.count_append, List.count_singleton_self]
          omega
        exact ⟨fun _ => ⟨by simp, .inl twice⟩, fun _ => .inr (by simp [earlier])⟩
      · simp [earlier]
    · have count : (names ++ [last]).count name = names.count name := by
        simp [List.count_append, same]
      simp [count, Ne.symm same]

/-- The scan of a project gets to a load order. -/
structure Orders (settings : ScanSettings) (disk : Disk) (path : String) (project plugins : Path)
    (names : List String) : Prop where
  isPath : disk.fullPath path = .ok project
  isThere : disk.pathExists project = .ok true
  isDirectory : disk.isDirectory project = .ok true
  isPlugins : plugins = (project.child "js").child "plugins"
  hasPlugins : disk.isDirectory plugins = .ok true
  lists : Lists settings disk project plugins names

section

variable {holds : List String → Prop}

theorem unwarned_log (record : Log.Record) :
    Keeps (fun notes => holds notes.warnings) (log record) fun _ => True :=
  Keeps.modify (fun _ held => held) trivial

theorem unwarned_collect (settings : ScanSettings) (disk : Disk) (completion : Completion) (files : List Path) :
    Keeps (fun notes => holds notes.warnings) (collect settings disk completion files) fun _ => True := by
  have passed : Keeps (fun notes => holds notes.warnings)
      (settingResult (pass (parseFile disk) settings.maxWorkers completion files)) fun _ => True :=
    Keeps.ofExcept fun _ _ => trivial
  refine passed.bind fun made _ => ?_
  have noted : Keeps (fun notes => holds notes.warnings) (modify fun notes =>
      { notes with
        errors := notes.errors ++ made.failures.map scanError
        progress := notes.progress ++ made.progress
        records := notes.records ++ made.failures.map failureRecord } : ScanM Unit) fun _ => True :=
    Keeps.modify (fun _ held => held) trivial
  refine noted.bind fun _ _ => ?_
  refine Keeps.bind (Keeps.forM fun _ _ => Keeps.throw _) fun _ _ => ?_
  exact (unwarned_log _).bind fun _ _ => Keeps.pure trivial

theorem unwarned_readOrder (includeDisabled : Value) (text : String) :
    Keeps (fun notes => holds notes.warnings) (readOrder includeDisabled text)
      fun names => (run (readOrder includeDisabled text)).1 = .ok names := by
  unfold readOrder
  split
  · exact Keeps.pure rfl
  · exact Keeps.throw _
  · exact (unwarned_log _).bind fun _ _ => Keeps.pure rfl

theorem fileResult_ok {α : Type} (result : Except FileFault α) :
    Keeps (fun notes => holds notes.warnings) (fileResult result) fun a => result = .ok a :=
  Keeps.ofExcept fun _ isOk => ok_of_mapError isOk

end

def Quiet (warnings : List String) : Prop :=
  ∀ name, notFound name ∉ warnings

theorem quiet_warn {message : String} (other : ∀ name, notFound name ≠ message) :
    Keeps (fun notes => Quiet notes.warnings) (warn message) fun _ => True := by
  have noted : Keeps (fun notes => Quiet notes.warnings)
      (modify fun notes => { notes with warnings := notes.warnings ++ [message] } : ScanM Unit) fun _ => True := by
    refine Keeps.modify ?_ trivial
    intro notes quiet name member
    rcases List.mem_append.mp member with before | now
    · exact quiet name before
    · exact other name (List.mem_singleton.mp now)
  exact noted.bind fun _ _ => unwarned_log _

section

variable {settings : ScanSettings} {disk : Disk} {path : String} (completion : Completion)

theorem quiet_orderFiles {project plugins : Path} (unlisted : ∀ names, ¬ Lists settings disk project plugins names) :
    Keeps (fun notes => Quiet notes.warnings) (orderFiles settings disk project plugins) fun _ => True := by
  have chosen : Keeps (fun notes => Quiet notes.warnings)
      (settingResult (candidates settings.skipMark (disk.scriptsIn plugins))) fun _ => True :=
    Keeps.ofExcept fun _ _ => trivial
  refine chosen.bind fun found _ => ?_
  refine (fileResult_ok _).bind fun isFile there => ?_
  split
  · rename_i isTrue
    subst isTrue
    have listed : Keeps (fun notes => Quiet notes.warnings)
        (ExceptT.mk (pure (listText disk plugins ((project.child "js").child "plugins.js"))) : ScanM String)
        fun text => listText disk plugins ((project.child "js").child "plugins.js") = .ok text :=
      Keeps.ofExcept fun _ isText => isText
    refine listed.bind fun text isText => ?_
    refine (unwarned_readOrder _ text).bind fun names isOrder => ?_
    exact absurd ⟨there, text, isText, isOrder⟩ (unlisted names)
  · exact (unwarned_log _).bind fun _ _ => Keeps.pure trivial

theorem quiet_project (unordered : ∀ project plugins names, ¬ Orders settings disk path project plugins names) :
    Keeps (fun notes => Quiet notes.warnings) (project settings disk completion path) fun _ => True := by
  unfold project
  refine (fileResult_ok _).bind fun place isPath => ?_
  refine (fileResult_ok _).bind fun there isThere => ?_
  cases there with
  | false => exact Keeps.throw _
  | true =>
    refine (fileResult_ok _).bind fun directory isDirectory => ?_
    cases directory with
    | false => exact Keeps.throw _
    | true =>
      refine (fileResult_ok _).bind fun plugins hasPlugins => ?_
      cases plugins with
      | false =>
        have told := quiet_warn fun name => notFound_ne_noDirectory name ((place.child "js").child "plugins").render
        exact told.bind fun _ _ => Keeps.pure trivial
      | true =>
        have unlisted : ∀ names, ¬ Lists settings disk place ((place.child "js").child "plugins") names :=
          fun names lists => unordered _ _ names ⟨isPath, isThere, isDirectory, rfl, hasPlugins, lists⟩
        refine (quiet_orderFiles unlisted).bind fun files _ => ?_
        exact unwarned_collect settings disk completion files

theorem warnings_project {project plugins : Path} {names : List String} {found : Candidates}
    (orders : Orders settings disk path project plugins names)
    (isFound : candidates settings.skipMark (disk.scriptsIn plugins) = .ok found) :
    (run (Scan.project settings disk completion path)).2.warnings = (untaken found.get? names).map notFound := by
  obtain ⟨isPath, isThere, isDirectory, rfl, hasPlugins, lists⟩ := orders
  have reached {α : Type} {result : Except FileFault α} {a : α} (isOk : result = .ok a) :
      (ExceptT.run (fileResult result)).run ScanNotes.empty = (.ok a, .empty) := by
    rw [isOk]
    rfl
  obtain ⟨notes, ran, warned⟩ := ends_orderFiles isFound lists .empty .empty rfl
  have collected := @unwarned_collect (· = notes.warnings) settings disk completion
    ((taken found.get? names).map ((project.child "js").child "plugins").child) notes rfl
  have whole : (ExceptT.run (Scan.project settings disk completion path)).run .empty =
      (ExceptT.run (collect settings disk completion
        ((taken found.get? names).map ((project.child "js").child "plugins").child))).run notes := by
    unfold Scan.project
    rw [run_bind_of_ok (reached isPath), run_bind_of_ok (reached isThere)]
    change (ExceptT.run (fileResult (disk.isDirectory project) >>= _)).run .empty = _
    rw [run_bind_of_ok (reached isDirectory)]
    change (ExceptT.run (fileResult (disk.isDirectory ((project.child "js").child "plugins")) >>= _)).run .empty = _
    rw [run_bind_of_ok (reached hasPlugins)]
    exact run_bind_of_ok ran
  rw [run, whole, collected.1, warned.warnings]
  rfl

theorem mem_warnings_iff {mark : String} (isMark : settings.skipMark = .text mark) {project plugins : Path}
    {names : List String} (orders : Orders settings disk path project plugins names) (name : String) :
    notFound name ∈ (run (Scan.project settings disk completion path)).2.warnings ↔
      name ∈ names ∧ (2 ≤ names.count name ∨ ∀ file, ¬ Serves disk plugins mark name file) := by
  obtain ⟨found, isFound, serves⟩ := candidates_text disk plugins mark
  rw [← isMark] at isFound
  have unserved : found.get? name = none ↔ ∀ file, ¬ Serves disk plugins mark name file := by
    rw [Option.eq_none_iff_forall_ne_some]
    exact forall_congr' fun file => not_congr (serves name file)
  rw [warnings_project completion orders isFound, List.mem_map_of_injective notFound_injective, mem_untaken_iff,
    unserved]

end

/-- Two scripts alone can have a stem: the one that is named by it, and the one that is nothing but a suffix. -/
theorem eq_of_stem {disk : Disk} {plugins : Path} {file : String} (script : disk.ScriptIn plugins file) :
    file = (Path.splitName file).1 ++ ".js" ∨ file = ".js" := by
  obtain ⟨before, whole⟩ := script.2
  have parts : file = String.ofList before ++ ".js" := by
    apply String.toList_inj.mp
    rw [String.toList_append, String.toList_ofList, whole]
  by_cases empty : String.ofList before = ""
  · right
    rw [parts, empty]
    rfl
  · left
    rw [parts, Path.splitName_script empty]

/-- That a plugin was not found is told of a name exactly if it is listed and no file serves it, or listed more than
once. Where the script of that name is there, the cause is that it is listed again or left out; `.js` alone can be
served by another script. -/
theorem warns_not_found_iff {settings : ScanSettings} {mark : String} (isMark : settings.skipMark = .text mark)
    (disk : Disk) (completion : Completion) (path name : String) :
    (notFound name ∈ (run (Scan.project settings disk completion path)).2.warnings ↔
      ∃ project plugins names, Orders settings disk path project plugins names ∧ name ∈ names ∧
        (2 ≤ names.count name ∨ ∀ file, ¬ Serves disk plugins mark name file)) ∧
    ∀ project plugins names, Orders settings disk path project plugins names → name ≠ "" →
      disk.ScriptIn plugins (name ++ ".js") →
      (¬ Skipped mark (name ++ ".js") →
        (notFound name ∈ (run (Scan.project settings disk completion path)).2.warnings ↔ 2 ≤ names.count name)) ∧
      (Skipped mark (name ++ ".js") → name ≠ ".js" →
        (notFound name ∈ (run (Scan.project settings disk completion path)).2.warnings ↔ name ∈ names)) := by
  constructor
  · constructor
    · intro told
      by_contra unordered
      have none : ∀ project plugins names, ¬ Orders settings disk path project plugins names := by
        intro project plugins names orders
        exact unordered ⟨project, plugins, names, orders, (mem_warnings_iff completion isMark orders name).mp told⟩
      have quiet : Quiet ScanNotes.empty.warnings := by
        intro name member
        cases member
      exact (quiet_project completion none .empty quiet).1 name told
    · rintro ⟨project, plugins, names, orders, reason⟩
      exact (mem_warnings_iff completion isMark orders name).mpr reason
  · intro project plugins names orders nonempty script
    rw [mem_warnings_iff completion isMark orders name]
    constructor
    · intro kept
      have served : ¬ ∀ file, ¬ Serves disk plugins mark name file := by
        obtain ⟨file, serves⟩ := exists_serves script kept
        rw [Path.splitName_script nonempty] at serves
        exact fun unserved => unserved file serves
      constructor
      · rintro ⟨-, twice | unserved⟩
        · exact twice
        · exact absurd unserved served
      · intro twice
        exact ⟨List.count_pos_iff.mp (by omega), .inl twice⟩
    · intro skipped notSuffix
      have unserved : ∀ file, ¬ Serves disk plugins mark name file := by
        intro file serves
        rcases eq_of_stem serves.script with named | suffix
        · rw [serves.named] at named
          exact serves.kept (named ▸ skipped)
        · have stem : (Path.splitName ".js").1 = ".js" := by decide
          rw [← serves.named, suffix, stem] at notSuffix
          exact notSuffix rfl
      constructor
      · exact And.left
      · exact fun listed => ⟨listed, .inr unserved⟩

def twiceDisk : Disk :=
  gameDisk "var $plugins =\n[\x7b\"name\": \"Rain\", \"status\": true\x7d, \x7b\"name\": \"Rain\", \"status\": true\x7d];\n"
    ["Rain.js"]

theorem orders_twiceDisk : Orders .default twiceDisk "game" gamePath gamePlugins ["Rain", "Rain"] := by
  refine ⟨rfl, rfl, rfl, rfl, rfl, rfl, _, rfl, ?_⟩
  decide +kernel

theorem warns_not_found_iff_twice :
    Orders .default twiceDisk "game" gamePath gamePlugins ["Rain", "Rain"] ∧
      twiceDisk.ScriptIn gamePlugins "Rain.js" ∧ ¬ Skipped "_" "Rain.js" ∧
      (notFound "Rain" ∈ (run (Scan.project .default twiceDisk List.range "game")).2.warnings ↔
        2 ≤ ["Rain", "Rain"].count "Rain") := by
  have script : twiceDisk.ScriptIn gamePlugins "Rain.js" := scriptIn_gameDisk.mpr (by decide)
  have kept : ¬ Skipped "_" "Rain.js" := by decide +kernel
  have exactly := @warns_not_found_iff .default "_" rfl twiceDisk List.range "game" "Rain"
  exact ⟨orders_twiceDisk, script, kept, (exactly.2 _ _ _ orders_twiceDisk (by decide) script).1 kept⟩

/-- The script is there, and it is told that it was not found. -/
theorem warns_not_found_present :
    twiceDisk.ScriptIn gamePlugins "Rain.js" ∧
      notFound "Rain" ∈ (run (Scan.project .default twiceDisk List.range "game")).2.warnings := by
  constructor
  · exact scriptIn_gameDisk.mpr (by decide)
  · exact (mem_warnings_iff List.range rfl orders_twiceDisk "Rain").mpr ⟨by decide, .inl (by decide)⟩

end Scan

end PluginAudit
