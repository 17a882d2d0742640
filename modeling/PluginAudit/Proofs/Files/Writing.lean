import Mathlib
import PluginAudit.Files.Disk
import PluginAudit.Proofs.Effect

namespace PluginAudit

namespace Path

theorem utf8ByteSize_intercalate_le (between name : String) (parts : List String) :
    (between.intercalate parts).utf8ByteSize ≤ (between.intercalate (parts ++ [name])).utf8ByteSize := by
  induction parts with
  | nil => simp
  | cons part rest ih =>
    cases rest with
    | nil => simp [String.intercalate_cons_cons, String.utf8ByteSize_append, Nat.add_assoc]
    | cons next rest =>
      simp only [List.cons_append, String.intercalate_cons_cons, String.utf8ByteSize_append] at ih ⊢
      omega

theorem isAbsolute_child (path : Path) (name : String) : (path.child name).isAbsolute = path.isAbsolute :=
  rfl

theorem utf8ByteSize_render_le {path : Path} (named : path.parts ≠ []) (name : String) :
    path.render.utf8ByteSize ≤ (path.child name).render.utf8ByteSize := by
  have longer := utf8ByteSize_intercalate_le "/" name path.parts
  unfold render
  rw [isAbsolute_child]
  by_cases absolute : path.isAbsolute = true
  · simp only [absolute, if_true, String.utf8ByteSize_append]
    exact Nat.add_le_add_left longer _
  · have empty : path.parts.isEmpty = false := by simpa using named
    have childEmpty : (path.child name).parts.isEmpty = false := by simp [child]
    simp only [absolute, empty, childEmpty, if_false, Bool.false_eq_true]
    exact longer

theorem hasNull_of_child {path : Path} {name : String} (proper : (path.child name).hasNull = false) :
    path.hasNull = false := by
  simp only [hasNull, child, List.any_append, Bool.or_eq_false_iff] at proper
  exact proper.1

theorem parts_under_child (directory path : Path) (name : String) :
    (directory.under (path.child name)).parts = (directory.under path).parts ++ [name] := by
  unfold under
  rw [isAbsolute_child]
  split
  · rfl
  · exact (List.append_assoc _ _ _).symm

theorem parent_child (path : Path) (name : String) : (path.child name).parent = path := by
  simp [parent, child]

end Path

namespace Disk

variable {disk : Disk}

theorem walk_append (disk : Disk) (place front rest : List String) :
    disk.walk place (front ++ rest) = disk.walk place front >>= fun place => disk.walk place rest := by
  induction front generalizing place with
  | nil => rfl
  | cons part front ih =>
    simp only [List.cons_append, walk]
    split
    · split
      · rfl
      · exact ih _
    · rfl
    · rfl

theorem directory_of_walk {place last : List String} {name : String} (walked : disk.walk place [name] = .ok last) :
    disk.lookUp? place = some .directory := by
  simp only [walk] at walked
  split at walked
  · assumption
  · cases walked
  · cases walked

theorem stat_of_locate {path : Path} {place : List String} {entry : Entry} (located : disk.locate path = .ok place)
    (found : disk.lookUp? place = some entry) : disk.stat path = .ok entry := by
  simp only [stat, located, Bind.bind, Except.bind, found]

theorem exists_of_stat {path : Path} {entry : Entry} (found : disk.stat path = .ok entry) :
    ∃ place, disk.locate path = .ok place ∧ disk.lookUp? place = some entry := by
  obtain ⟨place, located, found⟩ := exists_of_bind_ok found
  refine ⟨place, located, ?_⟩
  split at found <;> cases found
  assumption

theorem stat_of_locate_child {path : Path} {name : String} {place : List String} (named : path.parts ≠ [])
    (located : disk.locate (path.child name) = .ok place) : disk.stat path = .ok .directory := by
  unfold locate at located
  split at located
  · cases located
  · rename_i proper
    split at located
    · cases located
    · rename_i short
      have shorter := Path.utf8ByteSize_render_le named name
      have proper : path.hasNull = false := Path.hasNull_of_child (Bool.eq_false_iff.mpr proper)
      have short : ¬ pathLimit ≤ path.render.utf8ByteSize := by omega
      rw [Path.parts_under_child, walk_append] at located
      obtain ⟨above, walked, last⟩ := exists_of_bind_ok located
      have found : disk.locate path = .ok above := by
        unfold locate
        rw [if_neg (by simp [proper]), if_neg short, walked]
      exact stat_of_locate found (directory_of_walk last)

theorem lookup_map_put (entries : List (List String × Entry)) (parts other : List String) (entry : Entry) :
    (entries.map fun old => if old.1 = parts then (parts, entry) else old).lookup other =
      if other = parts then (entries.lookup parts).map fun _ => entry else entries.lookup other := by
  induction entries with
  | nil => simp
  | cons first rest ih =>
    obtain ⟨name, old⟩ := first
    rw [List.map_cons, List.lookup_cons, ih]
    by_cases same : name = parts
    · subst same
      by_cases here : other = name
      · simp [here]
      · have elsewhere : (other == name) = false := by simpa using here
        simp [List.lookup_cons, here, elsewhere]
    · have elsewhere : (parts == name) = false := by simpa using Ne.symm same
      by_cases here : other = parts
      · simp [List.lookup_cons, here, same, elsewhere]
      · simp [List.lookup_cons, here, same]

theorem lookup_put (disk : Disk) (parts other : List String) (entry : Entry) :
    (disk.put parts entry).entries.lookup other = if other = parts then some entry else disk.entries.lookup other := by
  unfold put
  by_cases present : disk.entries.any (·.1 = parts) = true
  · have found : (disk.entries.lookup parts).isSome = true := by
      obtain ⟨old, member, same⟩ := List.any_eq_true.mp present
      exact List.lookup_isSome_iff.mpr ⟨old, member, by simpa using (of_decide_eq_true same).symm⟩
    obtain ⟨old, isOld⟩ := Option.isSome_iff_exists.mp found
    rw [if_pos present, lookup_map_put, isOld]
    rfl
  · have missing : disk.entries.lookup parts = none := by
      rw [List.lookup_eq_none_iff]
      intro old member
      have different : old.1 ≠ parts := fun same => present (List.any_eq_true.mpr ⟨old, member, by simpa using same⟩)
      simpa using Ne.symm different
    rw [if_neg present, List.lookup_append]
    by_cases here : other = parts
    · simp [here, missing]
    · have elsewhere : (other == parts) = false := by simpa using here
      simp [here, List.lookup_cons, elsewhere]

theorem lookUp?_put {parts : List String} (named : parts ≠ []) (other : List String) (entry : Entry) :
    (disk.put parts entry).lookUp? other = if other = parts then some entry else disk.lookUp? other := by
  unfold lookUp?
  rw [lookup_put]
  by_cases top : other = []
  · simp [top, Ne.symm named]
  · simp [top]

theorem walk_put {parts : List String} {old entry : Entry} (named : parts ≠ []) (there : disk.lookUp? parts = some old)
    (wasFile : old.isDirectory = false) (isFile : entry.isDirectory = false) (place rest : List String) :
    (disk.put parts entry).walk place rest = disk.walk place rest := by
  induction rest generalizing place with
  | nil => rfl
  | cons part rest ih =>
    simp only [walk, lookUp?_put named]
    by_cases here : place = parts
    · subst here
      rw [if_pos rfl, there]
      cases old <;> cases entry <;> first | rfl | contradiction
    · rw [if_neg here]
      simp only [ih]

theorem put_workingDirectory (disk : Disk) (parts : List String) (entry : Entry) :
    (disk.put parts entry).workingDirectory = disk.workingDirectory := by
  unfold put
  split <;> rfl

theorem locate_put {parts : List String} {old entry : Entry} (named : parts ≠ []) (there : disk.lookUp? parts = some old)
    (wasFile : old.isDirectory = false) (isFile : entry.isDirectory = false) (path : Path) :
    (disk.put parts entry).locate path = disk.locate path := by
  simp only [locate, put_workingDirectory, walk_put named there wasFile isFile]

theorem ne_nil_of_file {parts : List String} {entry : Entry} (there : disk.lookUp? parts = some entry)
    (isFile : entry.isDirectory = false) : parts ≠ [] := by
  rintro rfl
  cases there
  cases isFile

theorem stat_put {path : Path} {place : List String} {old entry : Entry} (located : disk.locate path = .ok place)
    (there : disk.lookUp? place = some old) (wasFile : old.isDirectory = false) (isFile : entry.isDirectory = false) :
    (disk.put place entry).stat path = .ok entry := by
  have named := ne_nil_of_file there wasFile
  apply stat_of_locate
  · rw [locate_put named there wasFile isFile]
    exact located
  · rw [lookUp?_put named, if_pos rfl]

theorem makeDirectoriesUp_of_directory {path : Path} (there : disk.stat path = .ok .directory) (height : Nat) :
    disk.makeDirectoriesUp path height = (disk, none) := by
  have occupied : disk.makeDirectory path = .error .occupied := by
    obtain ⟨place, located, present⟩ := exists_of_stat there
    simp [makeDirectory, located, present, Bind.bind, Except.bind]
  have kept : disk.madeOrThere path (.error .occupied) = (disk, none) := by
    simp [madeOrThere, there, Except.toOption, Entry.isDirectory]
  cases height with
  | zero => rw [makeDirectoriesUp, occupied, kept]
  | succ height =>
    rw [makeDirectoriesUp, occupied]
    exact kept

theorem put_denied (disk : Disk) (parts : List String) (entry : Entry) : (disk.put parts entry).denied = disk.denied := by
  unfold put
  split <;> rfl

/-- No directory on the way to a place is changed by what is put where no directory stands. -/
theorem walk_put_of_ok {parts : List String} (free : disk.lookUp? parts ≠ some .directory) (entry : Entry)
    {place rest last : List String} (walked : disk.walk place rest = .ok last) :
    (disk.put parts entry).walk place rest = .ok last := by
  have named : parts ≠ [] := by
    rintro rfl
    exact free rfl
  induction rest generalizing place with
  | nil => exact walked
  | cons part rest ih =>
    rw [walk] at walked ⊢
    split at walked
    · rename_i there
      have elsewhere : place ≠ parts := fun same => free (same ▸ there)
      rw [lookUp?_put named, if_neg elsewhere, there]
      split at walked
      · cases walked
      · rename_i short
        rw [if_neg short]
        exact ih walked
    · cases walked
    · cases walked

theorem locate_put_of_ok {path : Path} {place parts : List String} (free : disk.lookUp? parts ≠ some .directory)
    (entry : Entry) (located : disk.locate path = .ok place) : (disk.put parts entry).locate path = .ok place := by
  unfold locate at located ⊢
  rw [put_workingDirectory]
  split at located
  · cases located
  · rename_i proper
    rw [if_neg proper]
    split at located
    · cases located
    · rename_i short
      rw [if_neg short]
      exact walk_put_of_ok free entry located

theorem read_put {path : Path} {place : List String} (located : disk.locate path = .ok place)
    (free : disk.lookUp? place ≠ some .directory) (text : String) :
    (disk.put place (.text text)).read path =
      if disk.denied.contains place then .error (.file (fault .denied path)) else .ok (plainText text) := by
  have named : place ≠ [] := by
    rintro rfl
    exact free rfl
  have found : (disk.put place (.text text)).lookUp? place = some (.text text) := by
    rw [lookUp?_put named, if_pos rfl]
  simp only [read, locate_put_of_ok free _ located, found, put_denied]
  rfl

namespace Change

theorem exists_of_write {path : Path} {text : String} {after : Disk}
    (ran : (write path text).run disk = (.ok (), after)) :
    ∃ place, disk.locate path = .ok place ∧ disk.lookUp? place ≠ some .directory ∧
      after = disk.put place (.text text) := by
  obtain ⟨found, between, got, ran⟩ := exists_of_run_bind ran
  cases got
  split at ran
  · cases ran
  · rename_i place located
    split at ran
    · cases ran
    · rename_i free
      cases ran
      exact ⟨place, located, free, rfl⟩

theorem ends_makeDirectories {path : Path} (there : disk.stat path = .ok .directory) :
    Ends (makeDirectories path) (· = disk) (.ok ()) (· = disk) := by
  refine Ends.bind (Ends.get disk) ?_
  rw [makeDirectoriesUp_of_directory there]
  exact Ends.bind (Ends.set _ disk) (Ends.pure _ _)

theorem ends_write {path : Path} {place : List String} {old : Entry} (located : disk.locate path = .ok place)
    (there : disk.lookUp? place = some old) (wasFile : old.isDirectory = false) (text : String) :
    Ends (write path text) (· = disk) (.ok ()) (· = disk.put place (.text text)) := by
  refine Ends.bind (Ends.get disk) ?_
  rw [located]
  dsimp only
  rw [there]
  cases old with
  | directory => cases wasFile
  | text content => exact Ends.set _ _
  | bytes content => exact Ends.set _ _

end Change

end Disk

end PluginAudit
