import Mathlib
import PluginAudit.Proofs.Effect
import PluginAudit.Proofs.Register
import PluginAudit.Project.Scan

namespace PluginAudit

theorem Path.partsLe_cons {a b : String} {as bs : List String} :
    partsLe (a :: as) (b :: bs) = true ↔ a < b ∨ a = b ∧ partsLe as bs = true := by
  simp [partsLe]

theorem Path.partsLe_trans {a b c : List String} (first : partsLe a b = true) (second : partsLe b c = true) :
    partsLe a c = true := by
  induction a generalizing b c with
  | nil => rfl
  | cons x a ih =>
    cases b with
    | nil => cases first
    | cons y b =>
      cases c with
      | nil => cases second
      | cons z c =>
        rw [partsLe_cons] at first second ⊢
        rcases first with less | ⟨rfl, le⟩
        · rcases second with lessNext | ⟨rfl, -⟩
          · exact .inl (lt_trans less lessNext)
          · exact .inl less
        · rcases second with lessNext | ⟨rfl, leNext⟩
          · exact .inl lessNext
          · exact .inr ⟨rfl, ih le leNext⟩

theorem Path.partsLe_total (a b : List String) : partsLe a b = true ∨ partsLe b a = true := by
  induction a generalizing b with
  | nil => exact .inl rfl
  | cons x a ih =>
    cases b with
    | nil => exact .inr rfl
    | cons y b =>
      rw [partsLe_cons, partsLe_cons]
      rcases lt_trichotomy x y with less | rfl | greater
      · exact .inl (.inl less)
      · exact (ih b).imp (fun le => .inr ⟨rfl, le⟩) fun le => .inr ⟨rfl, le⟩
      · exact .inr (.inl greater)

namespace Disk

/-- A script stands in a directory under a name. -/
def ScriptIn (disk : Disk) (directory : Path) (name : String) : Prop :=
  (∃ entry, ((disk.workingDirectory.under directory).normal.parts ++ [name], entry) ∈ disk.entries) ∧
    ".js".toList <:+ name.toList

theorem mem_below_iff {disk : Disk} {directory : Path} {parts : List String} :
    parts ∈ disk.below directory ↔ parts ≠ [] ∧
      ∃ entry, ((disk.workingDirectory.under directory).normal.parts ++ parts, entry) ∈ disk.entries := by
  unfold below
  rw [List.mem_mergeSort, List.mem_filterMap]
  constructor
  · rintro ⟨⟨place, entry⟩, member, seen⟩
    dsimp only at seen
    split at seen
    · rename_i name rest here
      cases seen
      have whole := List.isPrefixOf?_eq_some_iff_append_eq.mp here
      exact ⟨by simp, entry, whole ▸ member⟩
    · cases seen
  · rintro ⟨nonempty, entry, member⟩
    refine ⟨_, member, ?_⟩
    obtain ⟨name, rest, rfl⟩ := List.exists_cons_of_ne_nil nonempty
    have here := List.isPrefixOf?_eq_some_iff_append_eq.mpr
      (rfl : (disk.workingDirectory.under directory).normal.parts ++ name :: rest = _)
    simp only [here]

theorem mem_scriptsIn_iff {disk : Disk} {directory : Path} {name : String} :
    name ∈ disk.scriptsIn directory ↔ disk.ScriptIn directory name := by
  have suffix (name : String) : isScript name = true ↔ ".js".toList <:+ name.toList := List.isSuffixOf_iff_suffix
  unfold scriptsIn ScriptIn
  rw [List.mem_filterMap, ← suffix]
  constructor
  · rintro ⟨parts, member, seen⟩
    split at seen
    · rename_i found
      split at seen
      · rename_i script
        cases seen
        exact ⟨(mem_below_iff.mp member).2, script⟩
      · cases seen
    · cases seen
  · rintro ⟨stands, script⟩
    exact ⟨[name], mem_below_iff.mpr ⟨by simp, stands⟩, by simp [script]⟩

theorem pairwise_scriptsIn (disk : Disk) (directory : Path) :
    (disk.scriptsIn directory).Pairwise (· ≤ ·) := by
  have sorted : (disk.below directory).Pairwise fun a b => Path.partsLe a b = true := by
    apply List.pairwise_mergeSort
    · exact fun _ _ _ => Path.partsLe_trans
    · intro a b
      rw [Bool.or_eq_true]
      exact Path.partsLe_total a b
  apply List.Pairwise.filterMap _ _ sorted
  intro a b le name isName other isOther
  split at isName
  · split at isOther
    · simp only [Option.ite_none_right_eq_some, Option.some.injEq] at isName isOther
      obtain ⟨-, rfl⟩ := isName
      obtain ⟨-, rfl⟩ := isOther
      rcases Path.partsLe_cons.mp le with less | ⟨same, -⟩
      · exact le_of_lt less
      · exact le_of_eq same
    · cases isOther
  · cases isName

end Disk

/-- In a list that is in order, the last item that passes a test is the greatest one that does. -/
theorem findRev?_eq_some_iff {α : Type} [PartialOrder α] {test : α → Bool} {items : List α}
    (sorted : items.Pairwise (· ≤ ·)) (item : α) :
    items.findRev? test = some item ↔
      item ∈ items ∧ test item = true ∧ ∀ other ∈ items, test other = true → other ≤ item := by
  have greatest {found : α} (isFound : items.findRev? test = some found) :
      found ∈ items ∧ test found = true ∧ ∀ other ∈ items, test other = true → other ≤ found := by
    rw [List.findRev?_eq_find?_reverse] at isFound
    obtain ⟨passes, behind, before, whole, others⟩ := List.find?_eq_some_iff_append.mp isFound
    have parts : items = before.reverse ++ found :: behind.reverse := by
      rw [← List.reverse_reverse items, whole]
      simp
    subst parts
    refine ⟨by simp, passes, ?_⟩
    intro other member otherPasses
    rcases List.mem_append.mp member with earlier | later
    · exact (List.pairwise_append.mp sorted).2.2 other earlier found List.mem_cons_self
    · rcases List.mem_cons.mp later with rfl | behindIt
      · exact le_refl other
      · have fails := others other (List.mem_reverse.mp behindIt)
        rw [otherPasses] at fails
        cases fails
  constructor
  · exact greatest
  · rintro ⟨member, passes, last⟩
    cases found : items.findRev? test with
    | none =>
      rw [List.findRev?_eq_find?_reverse, List.find?_eq_none] at found
      exact absurd passes (found item (List.mem_reverse.mpr member))
    | some other =>
      obtain ⟨otherMember, otherPasses, otherLast⟩ := greatest found
      exact congrArg some (le_antisymm (last other otherMember otherPasses) (otherLast item member passes))

theorem filterAuxM_ok {α ε : Type} {test : α → Bool} (items acc : List α) :
    List.filterAuxM (fun item => (.ok (test item) : Except ε Bool)) items acc =
      .ok ((items.filter test).reverse ++ acc) := by
  induction items generalizing acc with
  | nil => rfl
  | cons item rest ih =>
    change List.filterAuxM _ rest (cond (test item) (item :: acc) acc) = _
    rw [ih]
    cases passes : test item <;> simp [passes]

theorem filterM_ok {α ε : Type} (test : α → Bool) (items : List α) :
    items.filterM (fun item => (.ok (test item) : Except ε Bool)) = .ok (items.filter test) := by
  unfold List.filterM
  rw [filterAuxM_ok]
  simp [bind, Except.bind, pure, Except.pure]

namespace Scan

/-- Files are left out by the start of their names. An empty mark leaves out none. -/
def Skipped (mark name : String) : Prop :=
  mark ≠ "" ∧ mark.toList <+: name.toList

instance (mark name : String) : Decidable (Skipped mark name) :=
  inferInstanceAs (Decidable (_ ∧ _))

/-- The file that a name of the load order stands for: of the scripts with this stem that are not left out, the last. -/
structure Serves (disk : Disk) (plugins : Path) (mark stem file : String) : Prop where
  script : disk.ScriptIn plugins file
  kept : ¬ Skipped mark file
  named : (Path.splitName file).1 = stem
  last : ∀ other, disk.ScriptIn plugins other → ¬ Skipped mark other → (Path.splitName other).1 = stem → other ≤ file

theorem skips_text (mark name : String) : skips (.text mark) name = .ok (decide (Skipped mark name)) := by
  have starts : mark.toList.isPrefixOf name.toList = decide (mark.toList <+: name.toList) := by
    rw [Bool.eq_iff_iff, List.isPrefixOf_iff_prefix, decide_eq_true_iff]
  unfold skips Skipped
  by_cases empty : mark = ""
  · simp [Value.holds, empty]
  · simp [Value.holds, empty, starts]

def keptScripts (disk : Disk) (plugins : Path) (mark : String) : List String :=
  (disk.scriptsIn plugins).filter fun name => !decide (Skipped mark name)

theorem mem_keptScripts_iff {disk : Disk} {plugins : Path} {mark name : String} :
    name ∈ keptScripts disk plugins mark ↔ disk.ScriptIn plugins name ∧ ¬ Skipped mark name := by
  simp [keptScripts, Disk.mem_scriptsIn_iff]

theorem findRev?_keptScripts_iff {disk : Disk} {plugins : Path} {mark stem file : String} :
    (keptScripts disk plugins mark).findRev? (fun name => (Path.splitName name).1 = stem) = some file ↔
      Serves disk plugins mark stem file := by
  have sorted : (keptScripts disk plugins mark).Pairwise (· ≤ ·) := (disk.pairwise_scriptsIn plugins).filter _
  rw [findRev?_eq_some_iff sorted]
  simp only [mem_keptScripts_iff, decide_eq_true_eq]
  constructor
  · rintro ⟨⟨script, kept⟩, named, last⟩
    exact ⟨script, kept, named, fun other isScript isKept => last other ⟨isScript, isKept⟩⟩
  · rintro ⟨script, kept, named, last⟩
    exact ⟨⟨script, kept⟩, named, fun other both => last other both.1 both.2⟩

/-- Where a script is not left out, there is a last one with its stem. -/
theorem exists_serves {disk : Disk} {plugins : Path} {mark name : String} (script : disk.ScriptIn plugins name)
    (kept : ¬ Skipped mark name) : ∃ file, Serves disk plugins mark (Path.splitName name).1 file := by
  cases found : (keptScripts disk plugins mark).findRev? (fun other =>
      (Path.splitName other).1 = (Path.splitName name).1) with
  | none =>
    rw [List.findRev?_eq_find?_reverse, List.find?_eq_none] at found
    have other := found name (List.mem_reverse.mpr (mem_keptScripts_iff.mpr ⟨script, kept⟩))
    simp at other
  | some file => exact ⟨file, findRev?_keptScripts_iff.mp found⟩

theorem candidates_text (disk : Disk) (plugins : Path) (mark : String) :
    ∃ found, candidates (.text mark) (disk.scriptsIn plugins) = .ok found ∧
      ∀ stem file, found.get? stem = some file ↔ Serves disk plugins mark stem file := by
  have kept : (disk.scriptsIn plugins).filterM (fun name => (skips (.text mark) name).map (!·)) =
      .ok (keptScripts disk plugins mark) := by
    unfold keptScripts
    rw [← filterM_ok]
    congr 1
    funext name
    rw [skips_text]
    rfl
  refine ⟨Register.ofList ((keptScripts disk plugins mark).map fun name => ((Path.splitName name).1, name)), ?_, ?_⟩
  · unfold candidates
    rw [kept]
    rfl
  · intro stem file
    have put := Register.get?_foldl_put (fun name => (Path.splitName name).1) (fun name : String => name)
      (keptScripts disk plugins mark) [] stem
    rw [Register.ofList, List.foldl_map, put, ← findRev?_keptScripts_iff]
    simp [Register.get?]

/-- The file that the entry at a place of a load order takes. -/
def taken? (file? : String → Option String) (names : List String) (place : Nat) : Option String :=
  names[place]?.bind fun name => if name ∈ names.take place then none else file? name

def untaken (file? : String → Option String) (names : List String) : List String :=
  (List.range names.length).filterMap fun place => if (taken? file? names place).isNone then names[place]? else none

def taken (file? : String → Option String) (names : List String) : List String :=
  (List.range names.length).filterMap (taken? file? names)

section

variable {file? : String → Option String} {names : List String}

theorem taken?_append {place : Nat} (bound : place < names.length) (name : String) :
    taken? file? (names ++ [name]) place = taken? file? names place := by
  unfold taken?
  rw [List.getElem?_append_left bound, List.take_append_of_le_length (by omega)]

theorem taken?_last (name : String) :
    taken? file? (names ++ [name]) names.length = if name ∈ names then none else file? name := by
  simp [taken?]

theorem taken_append (name : String) :
    taken file? (names ++ [name]) = taken file? names ++ (if name ∈ names then none else file? name).toList := by
  have earlier : (List.range names.length).filterMap (taken? file? (names ++ [name])) = taken file? names := by
    apply List.filterMap_congr
    intro place member
    exact taken?_append (List.mem_range.mp member) name
  rw [taken, List.length_append, List.length_singleton, List.range_succ, List.filterMap_append, earlier,
    List.filterMap_cons, taken?_last]
  cases (if name ∈ names then none else file? name) <;> rfl

theorem untaken_append (name : String) :
    untaken file? (names ++ [name]) =
      untaken file? names ++ if (if name ∈ names then none else file? name).isNone then [name] else [] := by
  have earlier : (List.range names.length).filterMap (fun place =>
      if (taken? file? (names ++ [name]) place).isNone then (names ++ [name])[place]? else none) =
        untaken file? names := by
    apply List.filterMap_congr
    intro place member
    have bound := List.mem_range.mp member
    rw [taken?_append bound, List.getElem?_append_left bound]
  rw [untaken, List.length_append, List.length_singleton, List.range_succ, List.filterMap_append, earlier,
    List.filterMap_cons, taken?_last]
  cases (if name ∈ names then none else file? name) <;> simp

theorem length_taken : (taken file? names).length + (untaken file? names).length = names.length := by
  induction names using List.reverseRecOn with
  | nil => rfl
  | append_singleton names name ih =>
    rw [taken_append, untaken_append]
    cases (if name ∈ names then none else file? name) with
    | none =>
      simp only [Option.toList_none, List.length_append, List.length_nil, Option.isNone_none, if_true,
        List.length_singleton]
      omega
    | some file =>
      simp only [Option.toList_some, List.length_append, List.length_nil, Option.isNone_some, Bool.false_eq_true,
        if_false, List.length_singleton]
      omega

theorem exists_of_mem_taken {file : String} (member : file ∈ taken file? names) :
    ∃ name ∈ names, file? name = some file := by
  obtain ⟨place, -, isTaken⟩ := List.mem_filterMap.mp member
  obtain ⟨name, here, chosen⟩ := Option.bind_eq_some_iff.mp isTaken
  split at chosen
  · cases chosen
  · exact ⟨name, List.mem_of_getElem? here, chosen⟩

theorem nodup_taken {stem : String → String} (named : ∀ {name file}, file? name = some file → stem file = name) :
    (taken file? names).Nodup := by
  induction names using List.reverseRecOn with
  | nil => exact List.nodup_nil
  | append_singleton names name ih =>
    rw [taken_append]
    split
    · simpa using ih
    · rename_i new
      cases found : file? name with
      | none => simpa using ih
      | some file =>
        rw [Option.toList_some, List.nodup_append]
        refine ⟨ih, List.nodup_singleton file, ?_⟩
        rintro other member _ last rfl
        rw [List.mem_singleton] at last
        subst last
        obtain ⟨earlier, listed, same⟩ := exists_of_mem_taken member
        rw [← named found, named same] at new
        exact new listed

end

structure Taking (found : Candidates) (done : List String) (ordered : Ordered) : Prop where
  files : ordered.files = taken found.get? done
  unmatched : ordered.unmatched = untaken found.get? done
  left : ∀ name, ordered.left.get? name = if name ∈ done then none else found.get? name

variable {found : Candidates} {done : List String} {ordered : Ordered}

theorem Taking.step (taking : Taking found done ordered) (name : String) :
    Taking found (done ++ [name]) (ordered.take name) := by
  have here := taking.left name
  have left (other : String) (none : ordered.left.get? name = none) :
      ordered.left.get? other = if other ∈ done ++ [name] then Option.none else found.get? other := by
    rw [taking.left other]
    by_cases same : other = name
    · subst same
      rw [← here, none]
      simp
    · simp [same]
  unfold Ordered.take
  cases chosen : ordered.left.get? name with
  | none =>
    rw [chosen] at here
    refine ⟨?_, ?_, fun other => left other chosen⟩
    · rw [taken_append, ← here, taking.files]
      simp
    · rw [untaken_append, ← here, taking.unmatched]
      rfl
  | some file =>
    rw [chosen] at here
    refine ⟨?_, ?_, ?_⟩
    · rw [taken_append, ← here, taking.files]
      rfl
    · rw [untaken_append, ← here, taking.unmatched]
      simp
    · intro other
      change Register.get? (ordered.left.filter (·.1 ≠ name)) other = _
      rw [Register.get?_filter_ne, taking.left other]
      by_cases same : other = name
      · simp [same]
      · simp [same]

theorem taking_takeNamed (found : Candidates) (names : List String) : Taking found names (takeNamed found names) := by
  have run (done : List String) (ordered : Ordered) (taking : Taking found done ordered) :
      Taking found (done ++ names) (names.foldl Ordered.take ordered) := by
    induction names generalizing done ordered with
    | nil => simpa using taking
    | cons name rest ih =>
      have next := ih (done ++ [name]) (ordered.take name) (taking.step name)
      rwa [List.append_assoc, List.singleton_append] at next
  have start : Taking found [] ⟨[], [], found⟩ := ⟨rfl, rfl, by simp⟩
  exact run [] _ start

/-- Nothing was noted since but warnings and records. -/
structure Warned (before : ScanNotes) (messages : List String) (notes : ScanNotes) : Prop where
  warnings : notes.warnings = before.warnings ++ messages
  errors : notes.errors = before.errors
  progress : notes.progress = before.progress

section

variable {before : ScanNotes} {messages : List String}

theorem ends_log (record : Log.Record) :
    Ends (log record) (Warned before messages) (.ok ()) (Warned before messages) :=
  Ends.modify fun _ warned => ⟨warned.warnings, warned.errors, warned.progress⟩

theorem ends_warn (message : String) :
    Ends (warn message) (Warned before messages) (.ok ()) (Warned before (messages ++ [message])) := by
  have noted : Ends (modify fun notes => { notes with warnings := notes.warnings ++ [message] } : ScanM Unit)
      (Warned before messages) (.ok ()) (Warned before (messages ++ [message])) := by
    apply Ends.modify
    intro notes warned
    exact ⟨by simp [warned.warnings], warned.errors, warned.progress⟩
  exact noted.bind (ends_log _)

theorem ends_warnAll (names : List String) :
    Ends (names.forM fun name => warn (notFound name)) (Warned before messages) (.ok ())
      (Warned before (messages ++ names.map notFound)) := by
  induction names generalizing messages with
  | nil => simpa using Ends.pure () (Warned before messages)
  | cons name rest ih =>
    have others := @ih (messages ++ [notFound name])
    rw [List.append_assoc, List.singleton_append] at others
    exact (ends_warn (notFound name)).bind others

theorem ends_readOrder {includeDisabled : Value} {text : String} {names : List String}
    (isOrder : (run (readOrder includeDisabled text)).1 = .ok names) :
    Ends (readOrder includeDisabled text) (Warned before messages) (.ok names) (Warned before messages) := by
  unfold readOrder at isOrder ⊢
  split at isOrder
  · cases isOrder
    exact Ends.pure _ _
  · cases isOrder
  · cases isOrder
    exact (ends_log _).bind (Ends.pure _ _)

theorem ends_orderByList (found : Candidates) (names : List String) :
    Ends (orderByList found names) (Warned before messages) (.ok (taken found.get? names))
      (Warned before (messages ++ (untaken found.get? names).map notFound)) := by
  have taking := taking_takeNamed found names
  rw [← taking.files, ← taking.unmatched]
  unfold orderByList
  refine (ends_warnAll _).bind ?_
  refine (Ends.forM fun _ _ => ends_log _).bind ?_
  exact Ends.pure _ _

end

/-- Where the plugin list of a project can be read, and the load order in it. -/
structure Lists (settings : ScanSettings) (disk : Disk) (project plugins : Path) (names : List String) : Prop where
  isFile : disk.isFile ((project.child "js").child "plugins.js") = .ok true
  isOrder : ∃ text, listText disk plugins ((project.child "js").child "plugins.js") = .ok text ∧
    (run (readOrder settings.includeDisabled text)).1 = .ok names

theorem ends_orderFiles {settings : ScanSettings} {disk : Disk} {project plugins : Path} {names : List String}
    {found : Candidates} (isFound : candidates settings.skipMark (disk.scriptsIn plugins) = .ok found)
    (lists : Lists settings disk project plugins names) (before : ScanNotes) :
    Ends (orderFiles settings disk project plugins) (· = before)
      (.ok ((taken found.get? names).map plugins.child))
      (Warned before ((untaken found.get? names).map notFound)) := by
  obtain ⟨text, isText, isOrder⟩ := lists.isOrder
  have chosen : Ends (settingResult (candidates settings.skipMark (disk.scriptsIn plugins)))
      (Warned before []) (.ok found) (Warned before []) := by
    apply Ends.ofOk
    rw [isFound]
    rfl
  have there : Ends (fileResult (disk.isFile ((project.child "js").child "plugins.js"))) (Warned before []) (.ok true)
      (Warned before []) := by
    apply Ends.ofOk
    rw [lists.isFile]
    rfl
  have whole : Ends (orderFiles settings disk project plugins) (Warned before [])
      (.ok ((taken found.get? names).map plugins.child))
      (Warned before ((untaken found.get? names).map notFound)) := by
    refine chosen.bind ?_
    refine there.bind ?_
    refine (Ends.ofOk isText _).bind ?_
    refine (ends_readOrder isOrder).bind ?_
    exact (ends_orderByList found names).bind (Ends.pure _ _)
  rintro _ rfl
  exact whole _ ⟨by simp, rfl, rfl⟩

/-- The load order of a project takes the file of each name at its first entry and in its place, and every other entry
is told to have none. No file comes twice, none that is left out or not listed comes at all, and no entry is lost. -/
theorem orderFiles_conserves {settings : ScanSettings} {mark : String} (isMark : settings.skipMark = .text mark)
    {disk : Disk} {project plugins : Path} {names : List String} (lists : Lists settings disk project plugins names)
    (before : ScanNotes) :
    ∃ (file? : String → Option String) (files messages : List String) (notes : ScanNotes),
      (∀ stem file, file? stem = some file ↔ Serves disk plugins mark stem file) ∧
      (ExceptT.run (orderFiles settings disk project plugins)).run before = (.ok (files.map plugins.child), notes) ∧
      Warned before messages notes ∧
      files = (List.range names.length).filterMap (taken? file? names) ∧
      messages = ((List.range names.length).filterMap fun place =>
        if (taken? file? names place).isNone then names[place]?.map notFound else none) ∧
      (files.map plugins.child).Nodup ∧
      (∀ file ∈ files, ¬ Skipped mark file ∧ (Path.splitName file).1 ∈ names) ∧
      files.length + messages.length = names.length := by
  obtain ⟨found, isFound, serves⟩ := candidates_text disk plugins mark
  rw [← isMark] at isFound
  obtain ⟨notes, ran, warned⟩ := ends_orderFiles isFound lists before before rfl
  have named {name file : String} (chosen : found.get? name = some file) : (Path.splitName file).1 = name :=
    ((serves name file).mp chosen).named
  have told : (untaken found.get? names).map notFound = (List.range names.length).filterMap fun place =>
      if (taken? found.get? names place).isNone then names[place]?.map notFound else none := by
    rw [untaken, List.map_filterMap]
    apply List.filterMap_congr
    intro place _
    split <;> rfl
  refine ⟨found.get?, taken found.get? names, _, notes, serves, ran, warned, rfl, told, ?_, ?_, ?_⟩
  · apply (nodup_taken named).map
    intro file other same
    have parts := List.append_cancel_left (congrArg Path.parts same)
    exact List.singleton_inj.mp parts
  · intro file member
    obtain ⟨name, listed, chosen⟩ := exists_of_mem_taken member
    exact ⟨((serves name file).mp chosen).kept, named chosen ▸ listed⟩
  · have count := @length_taken found.get? names
    rw [List.length_map]
    exact count

def gamePath : Path :=
  ⟨.root, ["game"]⟩

def gamePlugins : Path :=
  ⟨.root, ["game", "js", "plugins"]⟩

def gameDisk (list : String) (scripts : List String) : Disk where
  workingDirectory := ⟨.root, []⟩
  home := ⟨.root, ["home"]⟩
  entries := [(["game"], .directory), (["game", "js"], .directory), (["game", "js", "plugins"], .directory),
    (["game", "js", "plugins.js"], .text list)] ++ scripts.map fun name => (["game", "js", "plugins", name], .text "")
  denied := []

theorem scriptIn_gameDisk {list : String} {scripts : List String} {name : String} :
    (gameDisk list scripts).ScriptIn gamePlugins name ↔ name ∈ scripts ∧ ".js".toList <:+ name.toList := by
  have parts : (Path.under ⟨.root, []⟩ gamePlugins).normal.parts = ["game", "js", "plugins"] := by decide
  have stands : (∃ entry, ((Path.under ⟨.root, []⟩ gamePlugins).normal.parts ++ [name], entry) ∈
      (gameDisk list scripts).entries) ↔ name ∈ scripts := by
    rw [parts]
    simp [gameDisk]
  exact and_congr_left' stands

def mixedDisk : Disk :=
  gameDisk "$plugins=[\x7b\"name\":\"Rain\",\"status\":1\x7d,\x7b\"name\":\"_Snow\",\"status\":1\x7d,
    \x7b\"name\":\".js\",\"status\":1\x7d,\x7b\"name\":\"Rain\",\"status\":1\x7d];"
    [".js.js", "Rain.js", "_Snow.js", ".js"]

theorem serves_mixedDisk {mark stem file : String}
    (served : file ∈ [".js.js", "Rain.js", "_Snow.js", ".js"] ∧ ".js".toList <:+ file.toList ∧ ¬ Skipped mark file ∧
      (Path.splitName file).1 = stem ∧ ∀ other ∈ [".js.js", "Rain.js", "_Snow.js", ".js"],
        ¬ Skipped mark other → (Path.splitName other).1 = stem → other ≤ file) :
    Serves mixedDisk gamePlugins mark stem file := by
  obtain ⟨member, script, kept, named, last⟩ := served
  refine ⟨scriptIn_gameDisk.mpr ⟨member, script⟩, kept, named, ?_⟩
  intro other isScript
  exact last other (scriptIn_gameDisk.mp isScript).1

theorem orderFiles_conserves_mixed :
    Lists .default mixedDisk gamePath gamePlugins ["Rain", "_Snow", ".js", "Rain"] ∧
    ∃ (file? : String → Option String) (files messages : List String) (notes : ScanNotes),
      (∀ stem file, file? stem = some file ↔ Serves mixedDisk gamePlugins "_" stem file) ∧
      (ExceptT.run (orderFiles .default mixedDisk gamePath gamePlugins)).run .empty =
        (.ok (files.map gamePlugins.child), notes) ∧
      notes.warnings = messages ∧ files = ["Rain.js", ".js.js"] ∧
      messages = [notFound "_Snow", notFound "Rain"] ∧ files.length + messages.length = 4 := by
  have lists : Lists .default mixedDisk gamePath gamePlugins ["Rain", "_Snow", ".js", "Rain"] := by
    refine ⟨rfl, _, rfl, ?_⟩
    decide +kernel
  obtain ⟨file?, files, messages, notes, serves, ran, warned, isFiles, isMessages, -, -, count⟩ :=
    orderFiles_conserves rfl lists .empty
  have rain : file? "Rain" = some "Rain.js" := (serves _ _).mpr (serves_mixedDisk (by decide +kernel))
  have dots : file? ".js" = some ".js.js" := (serves _ _).mpr (serves_mixedDisk (by decide +kernel))
  have snow : file? "_Snow" = none := by
    have others : ∀ other ∈ [".js.js", "Rain.js", "_Snow.js", ".js"],
        ¬ Skipped "_" other → (Path.splitName other).1 ≠ "_Snow" := by decide +kernel
    apply Option.eq_none_iff_forall_ne_some.mpr
    intro file found
    obtain ⟨script, kept, named, -⟩ := (serves _ _).mp found
    exact others file (scriptIn_gameDisk.mp script).1 kept named
  have isRange : List.range 4 = [0, 1, 2, 3] := rfl
  refine ⟨lists, file?, files, messages, notes, serves, ran, warned.warnings, ?_, ?_, count⟩
  · rw [isFiles]
    simp [isRange, taken?, rain, dots, snow]
  · rw [isMessages]
    simp [isRange, taken?, rain, dots, snow]

end Scan

end PluginAudit
