import Mathlib
import PluginAudit.Project.Scan

namespace PluginAudit.Scan

variable (parse : Path → Outcome)

def header? (file : Path) : Option Plugin :=
  (parse file).toOption

def failure? (file : Path) : Option (Path × ReadFault) :=
  match parse file with
  | .ok _ => none
  | .error fault => some (file, fault)

def advance (total : Nat) (pass : Pass) (file : Path) : Pass where
  results := pass.results ++ [header? parse file]
  failures := pass.failures ++ (failure? parse file).toList
  progress := pass.progress ++ [(pass.results.length + 1, total)]

theorem sequential_eq_foldl (total : Nat) (files : List Path) :
    sequential parse total files = files.foldl (advance parse total) ⟨[], [], []⟩ := by
  unfold sequential
  congr 1
  funext pass file
  cases outcome : parse file <;> simp [advance, header?, failure?, outcome, Except.toOption]

theorem foldl_advance (total : Nat) (files : List Path) (pass : Pass) :
    files.foldl (advance parse total) pass =
      ⟨pass.results ++ files.map (header? parse), pass.failures ++ files.filterMap (failure? parse),
        pass.progress ++ (List.range' (pass.results.length + 1) files.length).map (·, total)⟩ := by
  induction files generalizing pass with
  | nil => simp
  | cons file files ih =>
    rw [List.foldl_cons, ih]
    cases failed : failure? parse file <;> simp [advance, failed, List.range'_succ]

theorem sequential_eq (files : List Path) :
    sequential parse files.length files =
      ⟨files.map (header? parse), files.filterMap (failure? parse),
        (List.range' 1 files.length).map (·, files.length)⟩ := by
  rw [sequential_eq_foldl, foldl_advance]
  rfl

def finish (files : List Path) (pass : Pass) (place : Nat) : Pass :=
  match files[place]? with
  | none => pass
  | some file =>
    { results := pass.results.set place (header? parse file)
      failures := pass.failures ++ (failure? parse file).toList
      progress := pass.progress ++ [(pass.progress.length + 1, files.length)] }

theorem parallel_eq_foldl (files : List Path) (order : List Nat) :
    parallel parse files order = order.foldl (finish parse files) ⟨files.map fun _ => none, [], []⟩ := by
  unfold parallel
  congr 1
  funext pass place
  unfold finish
  cases files[place]? with
  | none => rfl
  | some file => cases outcome : parse file <;> simp [header?, failure?, outcome, Except.toOption]

structure Noted (files : List Path) (done : List Nat) (pass : Pass) : Prop where
  length : pass.results.length = files.length
  results : ∀ place file, files[place]? = some file →
    pass.results[place]? = some (if place ∈ done then header? parse file else none)
  failures : pass.failures = done.filterMap fun place => files[place]?.bind (failure? parse)
  progress : pass.progress = (List.range' 1 done.length).map (·, files.length)

namespace Noted

variable {parse} {files : List Path} {done : List Nat} {pass : Pass}

theorem start : Noted parse files [] ⟨files.map fun _ => none, [], []⟩ where
  length := by simp
  results place file here := by
    rw [List.getElem?_map, here]
    simp
  failures := rfl
  progress := rfl

theorem finish (noted : Noted parse files done pass) {place : Nat} (bound : place < files.length) :
    Noted parse files (done ++ [place]) (finish parse files pass place) := by
  have here : files[place]? = some files[place] := List.getElem?_eq_getElem bound
  unfold Scan.finish
  rw [here]
  constructor
  case length => simp [noted.length]
  case results =>
    intro other file there
    by_cases same : place = other
    · subst same
      rw [here] at there
      cases there
      simp [noted.length, bound]
    · rw [List.getElem?_set_ne same, noted.results other file there]
      simp [Ne.symm same]
  case failures =>
    rw [noted.failures, List.filterMap_append]
    cases failed : failure? parse files[place] <;> simp [here, failed]
  case progress =>
    simp [noted.progress, List.range'_concat, Nat.add_comm]

theorem run (noted : Noted parse files done pass) {order : List Nat} (bound : ∀ place ∈ order, place < files.length) :
    Noted parse files (done ++ order) (order.foldl (Scan.finish parse files) pass) := by
  induction order generalizing done pass with
  | nil => simpa using noted
  | cons place order ih =>
    obtain ⟨head, tail⟩ := List.forall_mem_cons.mp bound
    simpa using ih (noted.finish head) tail

end Noted

theorem filterMap_range {α β : Type} (f : α → Option β) (items : List α) :
    (List.range items.length).filterMap (fun place => items[place]?.bind f) = items.filterMap f := by
  induction items with
  | nil => rfl
  | cons item items ih =>
    rw [List.length_cons, List.range_succ_eq_map, List.filterMap_cons, List.filterMap_map, List.filterMap_cons]
    simp [ih]

theorem noted_parallel {files : List Path} {order : List Nat} (bound : ∀ place ∈ order, place < files.length) :
    Noted parse files order (parallel parse files order) := by
  rw [parallel_eq_foldl]
  simpa using Noted.start.run bound

/-- Whatever the order in which the files are done, each result stands at its file's place. -/
theorem parallel_perm {files : List Path} {order : List Nat} (complete : order.Perm (List.range files.length)) :
    (parallel parse files order).results = files.map (header? parse) ∧
      (parallel parse files order).failures.Perm (files.filterMap (failure? parse)) ∧
      (parallel parse files order).progress = (List.range' 1 files.length).map (·, files.length) := by
  have bound : ∀ place ∈ order, place < files.length :=
    fun place member => List.mem_range.mp (complete.mem_iff.mp member)
  have noted := noted_parallel parse bound
  refine ⟨?_, ?_, ?_⟩
  · apply List.ext_getElem?
    intro place
    rw [List.getElem?_map]
    cases here : files[place]? with
    | none =>
      have outside : files.length ≤ place := List.getElem?_eq_none_iff.mp here
      exact List.getElem?_eq_none_iff.mpr (noted.length ▸ outside)
    | some file =>
      have inside := (List.getElem?_eq_some_iff.mp here).1
      have done : place ∈ order := complete.mem_iff.mpr (List.mem_range.mpr inside)
      rw [noted.results place file here, if_pos done]
      rfl
  · rw [noted.failures, ← filterMap_range (failure? parse) files]
    exact complete.filterMap _
  · rw [noted.progress, complete.length_eq, List.length_range]

theorem checkWorkers_ok {maxWorkers : Value}
    (workers : maxWorkers = .null ∨ ∃ n : Int, 0 ≤ n ∧ maxWorkers = .int n) : checkWorkers maxWorkers = .ok () := by
  rcases workers with rfl | ⟨n, bound, rfl⟩
  · rfl
  · unfold checkWorkers
    by_cases zero : n = 0
    · simp [Value.holds, zero]
    · have positive : ¬ n ≤ 0 := by omega
      simp [Value.holds, zero, Value.number?, Exact.ofInt, Exact.le, positive]

theorem pass_few {files : List Path} (readable : ∀ file ∈ files, file.hasNull = false)
    (few : files.length < parallelLimit) (maxWorkers : Value) (completion : Completion) :
    pass parse maxWorkers completion files = .ok (sequential parse files.length files) := by
  have whole : files.takeWhile (!·.hasNull) = files := by
    rw [List.takeWhile_eq_self_iff]
    intro file member
    simp [readable file member]
  rw [pass, if_pos few, whole]

theorem pass_many {maxWorkers : Value} (workers : maxWorkers = .null ∨ ∃ n : Int, 0 ≤ n ∧ maxWorkers = .int n)
    {files : List Path} (readable : ∀ file ∈ files, file.hasNull = false) (many : parallelLimit ≤ files.length)
    {completion : Completion} (complete : (completion files.length).Perm (List.range files.length)) :
    pass parse maxWorkers completion files = .ok (parallel parse files (completion files.length)) := by
  have whole : (completion files.length).takeWhile (fun place => !(files[place]?).any Path.hasNull) =
      completion files.length := by
    rw [List.takeWhile_eq_self_iff]
    intro place member
    have inside : place < files.length := List.mem_range.mp (complete.mem_iff.mp member)
    simp [inside, readable]
  rw [pass, if_neg (by omega), whole, checkWorkers_ok workers]
  rfl

/-- A pass over files: what it gives and what it tells, up to the order of the failures. -/
theorem pass_eq {maxWorkers : Value} (workers : maxWorkers = .null ∨ ∃ n : Int, 0 ≤ n ∧ maxWorkers = .int n)
    {files : List Path} (readable : ∀ file ∈ files, file.hasNull = false) {completion : Completion}
    (complete : (completion files.length).Perm (List.range files.length)) :
    ∃ made, pass parse maxWorkers completion files = .ok made ∧ made.results = files.map (header? parse) ∧
      made.failures.Perm (files.filterMap (failure? parse)) ∧
      made.progress = (List.range' 1 files.length).map (·, files.length) := by
  by_cases few : files.length < parallelLimit
  · rw [pass_few parse readable few, sequential_eq]
    exact ⟨_, rfl, rfl, .refl _, rfl⟩
  · rw [pass_many parse workers readable (by omega) complete]
    exact ⟨_, rfl, parallel_perm parse complete⟩

theorem length_headers (files : List Path) :
    (files.filterMap (header? parse)).length + (files.filterMap (failure? parse)).length = files.length := by
  induction files with
  | nil => rfl
  | cons file files ih =>
    cases outcome : parse file <;>
      simp only [List.filterMap_cons, header?, failure?, outcome, Except.toOption, List.length_cons] at ih ⊢ <;> omega

theorem run_collect {settings : ScanSettings} {disk : Disk} {completion : Completion} {files : List Path} {made : Pass}
    (readable : ∀ file ∈ files, file.hasNull = false)
    (passed : pass (parseFile disk) settings.maxWorkers completion files = .ok made) :
    ∃ records, run (collect settings disk completion files) =
      (.ok (made.results.filterMap id), ⟨made.failures.map scanError, [], made.progress, records⟩) := by
  have none : files.find? Path.hasNull = none := by
    rw [List.find?_eq_none]
    intro file member
    simp [readable file member]
  unfold run collect
  rw [passed, none]
  exact ⟨_, rfl⟩

/-- Many files give the same results, failures and progress as one after the other, in whatever order they are done. Few
or many, each gives a plugin or an error, and the plugins stand in the order of the files. No file stands at a path with
a null character. -/
theorem collect_any_order {maxWorkers : Value} (workers : maxWorkers = .null ∨ ∃ n : Int, 0 ≤ n ∧ maxWorkers = .int n)
    {files : List Path} (readable : ∀ file ∈ files, file.hasNull = false) {completion : Completion}
    (complete : (completion files.length).Perm (List.range files.length)) :
    (∀ parse, parallelLimit ≤ files.length →
      ∃ made, pass parse maxWorkers completion files = .ok made ∧
        made.results = (sequential parse files.length files).results ∧
        made.failures.Perm (sequential parse files.length files).failures ∧
        made.progress = (List.range' 1 files.length).map (·, files.length)) ∧
      ∀ settings disk, settings.maxWorkers = maxWorkers →
        ∃ plugins notes, run (collect settings disk completion files) = (.ok plugins, notes) ∧
          plugins = files.filterMap (fun file => (parseFile disk file).toOption) ∧
          notes.errors.Perm ((sequential (parseFile disk) files.length files).failures.map scanError) ∧
          notes.progress = (List.range' 1 files.length).map (·, files.length) ∧
          plugins.length + notes.errors.length = files.length ∧
          (files.length = 1 → plugins = [] → notes.errors ≠ []) := by
  constructor
  · intro parse _
    rw [sequential_eq]
    exact pass_eq parse workers readable complete
  · rintro settings disk rfl
    obtain ⟨made, passed, results, failures, progress⟩ := pass_eq (parseFile disk) workers readable complete
    obtain ⟨records, collected⟩ := run_collect readable passed
    have plugins : made.results.filterMap id = files.filterMap (header? (parseFile disk)) := by
      rw [results, List.filterMap_map]
      rfl
    have count := length_headers (parseFile disk) files
    rw [plugins] at collected
    refine ⟨_, _, collected, rfl, ?_, progress, ?_, ?_⟩
    · rw [sequential_eq]
      exact failures.map scanError
    · simpa [failures.length_eq] using count
    · intro single none empty
      simp only [List.map_eq_nil_iff] at empty
      rw [none, ← failures.length_eq, empty, single] at count
      cases count

def tenFiles : List Path :=
  ["a", "b", "c", "d", "e", "f", "g", "h", "i", "j"].map fun name => ⟨.here, [name]⟩

def twoDenied (file : Path) : Outcome :=
  if file.name = "c" ∨ file.name = "h" then .error (.file ⟨.denied, file.render⟩)
  else .ok (Plugin.ofSource "" file.name none)

theorem collect_any_order_reversed :
    (∀ file ∈ tenFiles, file.hasNull = false) ∧ (List.range 10).reverse.Perm (List.range tenFiles.length) ∧
      parallelLimit ≤ tenFiles.length ∧
      ∃ made, pass twoDenied (.int 2) (fun n => (List.range n).reverse) tenFiles = .ok made ∧
        made.results = (sequential twoDenied 10 tenFiles).results ∧
        made.failures.Perm (sequential twoDenied 10 tenFiles).failures ∧
        made.progress = (List.range' 1 10).map (·, 10) := by
  have readable : ∀ file ∈ tenFiles, file.hasNull = false := by decide
  have complete : (List.range 10).reverse.Perm (List.range tenFiles.length) := List.reverse_perm _
  have agrees := @collect_any_order (.int 2) (.inr ⟨2, by decide, rfl⟩) tenFiles readable
    (fun n => (List.range n).reverse) complete
  exact ⟨readable, complete, by decide, agrees.1 twoDenied (by decide)⟩

end PluginAudit.Scan
