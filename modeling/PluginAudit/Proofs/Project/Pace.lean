import PluginAudit.Proofs.Effect
import PluginAudit.Proofs.Project.Completion
import PluginAudit.Proofs.Register

namespace PluginAudit

theorem Register.length_put_le {α : Type} (register : Register α) (name : String) (a : α) :
    (register.put name a).length ≤ register.length + 1 := by
  induction register with
  | nil => exact Nat.le_refl 1
  | cons pair rest ih =>
    unfold put at ih ⊢
    rw [alter]
    split
    · simp
    · simpa using ih

theorem Register.length_ofList_le {α : Type} (pairs : List (String × α)) :
    (Register.ofList pairs).length ≤ pairs.length := by
  have run (register : Register α) :
      (pairs.foldl (fun register pair => register.put pair.1 pair.2) register).length ≤
        register.length + pairs.length := by
    induction pairs generalizing register with
    | nil => exact Nat.le_refl _
    | cons pair rest ih =>
      have step := register.length_put_le pair.1 pair.2
      have others := ih (register.put pair.1 pair.2)
      rw [List.foldl_cons, List.length_cons]
      omega
  unfold Register.ofList
  simpa using run []

theorem Disk.length_scriptsIn_le (disk : Disk) (directory : Path) :
    (disk.scriptsIn directory).length ≤ disk.entries.length := by
  have below : (disk.below directory).length ≤ disk.entries.length := by
    unfold Disk.below
    rw [List.length_mergeSort]
    exact List.length_filterMap_le _ _
  exact (List.length_filterMap_le _ _).trans below

theorem length_filterAuxM_le {α ε : Type} {test : α → Except ε Bool} {items acc kept : List α}
    (filtered : List.filterAuxM test items acc = .ok kept) : kept.length ≤ acc.length + items.length := by
  induction items generalizing acc with
  | nil =>
    cases filtered
    exact Nat.le_refl _
  | cons item rest ih =>
    obtain ⟨isKept, -, others⟩ := exists_of_bind_ok filtered
    have few := ih others
    cases isKept <;> simp at few ⊢ <;> omega

theorem length_filterM_le {α ε : Type} {test : α → Except ε Bool} {items kept : List α}
    (filtered : items.filterM test = .ok kept) : kept.length ≤ items.length := by
  obtain ⟨made, isMade, rest⟩ := exists_of_bind_ok filtered
  cases rest
  simpa using length_filterAuxM_le isMade

namespace Scan

def Paced (most : Nat) (notes : ScanNotes) : Prop :=
  ∀ step ∈ notes.progress, step.1 ≤ most ∧ step.2 ≤ most

theorem progress_of_pass {parse : Path → Outcome} {maxWorkers : Value} {completion : Completion} {files : List Path}
    {made : Pass} (complete : (completion files.length).Perm (List.range files.length))
    (passed : pass parse maxWorkers completion files = .ok made) :
    ∀ step ∈ made.progress, step.1 ≤ files.length ∧ step.2 ≤ files.length := by
  have steps {count : Nat} (few : count ≤ files.length) :
      ∀ step ∈ (List.range' 1 count).map (·, files.length), step.1 ≤ files.length ∧ step.2 ≤ files.length := by
    intro step member
    obtain ⟨n, inRange, rfl⟩ := List.mem_map.mp member
    have := List.mem_range'_1.mp inRange
    exact ⟨by omega, Nat.le_refl _⟩
  unfold pass at passed
  split at passed
  · cases passed
    rw [sequential_eq_foldl, foldl_advance]
    exact steps (List.takeWhile_sublist _).length_le
  · obtain ⟨_, -, rfl⟩ := exists_of_map_ok passed
    have whole := List.takeWhile_sublist (l := completion files.length) fun place => !(files[place]?).any Path.hasNull
    have bound : ∀ place ∈ (completion files.length).takeWhile (fun place => !(files[place]?).any Path.hasNull),
        place < files.length :=
      fun place member => List.mem_range.mp (complete.mem_iff.mp (whole.subset member))
    have noted : Noted parse files ([] ++ _) _ := Noted.start.run bound
    rw [parallel_eq_foldl, noted.progress]
    refine steps ?_
    have length := complete.length_eq
    rw [List.length_range] at length
    exact whole.length_le.trans length.le

theorem length_candidates_le {skipMark : Value} {names : List String} {found : Candidates}
    (isFound : candidates skipMark names = .ok found) : found.length ≤ names.length := by
  obtain ⟨kept, filtered, isFound⟩ := exists_of_bind_ok isFound
  cases isFound
  have few := Register.length_ofList_le (kept.map fun name => ((Path.splitName name).1, name))
  rw [List.length_map] at few
  exact few.trans (length_filterM_le filtered)

theorem Ordered.length_take_le (ordered : Ordered) (name : String) :
    (ordered.take name).files.length + (ordered.take name).left.length ≤
      ordered.files.length + ordered.left.length := by
  unfold Ordered.take
  cases found : ordered.left.get? name with
  | none => exact Nat.le_refl _
  | some file =>
    have fewer : (ordered.left.filter (·.1 ≠ name)).length < ordered.left.length :=
      List.length_filter_lt_length_iff_exists.mpr ⟨(name, file), Register.mem_of_get? found, by simp⟩
    simp only [List.length_append, List.length_singleton]
    omega

theorem length_takeNamed_le (candidates : Candidates) (names : List String) :
    (takeNamed candidates names).files.length ≤ candidates.length := by
  -- Files taken and files left together never become more.
  have run (ordered : Ordered) : (names.foldl Ordered.take ordered).files.length ≤
      ordered.files.length + ordered.left.length := by
    induction names generalizing ordered with
    | nil => exact Nat.le_add_right _ _
    | cons name rest ih =>
      have step := ordered.length_take_le name
      have others := ih (ordered.take name)
      rw [List.foldl_cons]
      omega
  unfold takeNamed
  simpa using run ⟨[], [], candidates⟩

variable {most : Nat}

theorem keeps_log (record : Log.Record) : Keeps (Paced most) (log record) fun _ => True :=
  Keeps.modify (fun _ paced => paced) trivial

theorem keeps_warn (message : String) : Keeps (Paced most) (warn message) fun _ => True := by
  have noted : Keeps (Paced most)
      (modify fun notes => { notes with warnings := notes.warnings ++ [message] } : ScanM Unit) fun _ => True :=
    Keeps.modify (fun _ paced => paced) trivial
  exact noted.bind fun _ _ => keeps_log _

theorem keeps_fileResult {α : Type} (result : Except FileFault α) :
    Keeps (Paced most) (fileResult result) fun _ => True :=
  Keeps.ofExcept fun _ _ => trivial

theorem keeps_collect {settings : ScanSettings} {disk : Disk} {completion : Completion} {files : List Path}
    (complete : (completion files.length).Perm (List.range files.length)) (few : files.length ≤ most) :
    Keeps (Paced most) (collect settings disk completion files) fun _ => True := by
  have passes : Keeps (Paced most) (settingResult (pass (parseFile disk) settings.maxWorkers completion files))
      fun made => ∀ step ∈ made.progress, step.1 ≤ most ∧ step.2 ≤ most := by
    refine Keeps.ofExcept fun made passed step member => ?_
    obtain ⟨first, second⟩ := progress_of_pass complete (ok_of_mapError passed) step member
    exact ⟨first.trans few, second.trans few⟩
  refine passes.bind fun made paced => ?_
  have noted : Keeps (Paced most) (modify fun notes =>
      { notes with
        errors := notes.errors ++ made.failures.map scanError
        progress := notes.progress ++ made.progress
        records := notes.records ++ made.failures.map failureRecord } : ScanM Unit) fun _ => True := by
    refine Keeps.modify (fun notes pacedBefore step member => ?_) trivial
    rcases List.mem_append.mp member with before | now
    · exact pacedBefore step before
    · exact paced step now
  refine noted.bind fun _ _ => ?_
  refine Keeps.bind (Keeps.forM fun _ _ => Keeps.throw _) fun _ _ => ?_
  exact (keeps_log _).bind fun _ _ => Keeps.pure trivial

theorem keeps_readOrder (includeDisabled : Value) (text : String) :
    Keeps (Paced most) (readOrder includeDisabled text) fun _ => True := by
  unfold readOrder
  split
  · exact Keeps.pure trivial
  · exact Keeps.throw _
  · exact (keeps_log _).bind fun _ _ => Keeps.pure trivial

theorem keeps_orderByList (found : Candidates) (names : List String) :
    Keeps (Paced most) (orderByList found names) fun files => files.length ≤ found.length := by
  refine Keeps.bind (Keeps.forM fun _ _ => keeps_warn _) fun _ _ => ?_
  refine Keeps.bind (Keeps.forM fun _ _ => keeps_log _) fun _ _ => ?_
  exact Keeps.pure (length_takeNamed_le found names)

theorem keeps_orderFiles (settings : ScanSettings) (disk : Disk) (project plugins : Path) :
    Keeps (Paced most) (orderFiles settings disk project plugins) fun files => files.length ≤ disk.entries.length := by
  have chosen : Keeps (Paced most) (settingResult (candidates settings.skipMark (disk.scriptsIn plugins)))
      fun found => found.length ≤ disk.entries.length := by
    refine Keeps.ofExcept fun found isFound => ?_
    exact (length_candidates_le (ok_of_mapError isFound)).trans (disk.length_scriptsIn_le plugins)
  refine chosen.bind fun found few => ?_
  refine (keeps_fileResult _).bind fun isFile _ => ?_
  split
  · have listed (list : Path) :
        Keeps (Paced most) (ExceptT.mk (pure (listText disk plugins list)) : ScanM String) fun _ => True :=
      Keeps.ofExcept fun _ _ => trivial
    refine (listed _).bind fun text _ => ?_
    refine (keeps_readOrder _ text).bind fun names _ => ?_
    refine (keeps_orderByList found names).bind fun files fewer => Keeps.pure ?_
    rw [List.length_map]
    exact fewer.trans few
  · refine (keeps_log _).bind fun _ _ => Keeps.pure ?_
    rw [List.length_map]
    exact few

/-- A scan of a project tells of no more steps than there are entries on the disk. -/
theorem paced_project (settings : ScanSettings) (disk : Disk) {completion : Completion}
    (complete : ∀ n, (completion n).Perm (List.range n)) (path : String) :
    Paced disk.entries.length (run (project settings disk completion path)).2 := by
  have keeps : Keeps (Paced disk.entries.length) (project settings disk completion path) fun _ => True := by
    unfold project
    refine (keeps_fileResult _).bind fun place _ => ?_
    refine (keeps_fileResult _).bind fun exists? _ => ?_
    split
    · exact Keeps.throw _
    · refine (keeps_fileResult _).bind fun directory? _ => ?_
      split
      · exact Keeps.throw _
      · refine (keeps_fileResult _).bind fun plugins? _ => ?_
        split
        · refine (keeps_orderFiles settings disk _ _).bind fun files few => ?_
          exact keeps_collect (complete files.length) few
        · exact (keeps_warn _).bind fun _ _ => Keeps.pure trivial
  exact (keeps ScanNotes.empty nofun).1

end Scan

end PluginAudit
