import Mathlib
import PluginAudit.Proofs.Value.Entries
import PluginAudit.Yaml.Reader

namespace PluginAudit.Yaml.Work

section Steps

variable {α β : Type}

theorem run_bind {step : Step α} {next : α → Step β} {work last : Work} {b : β}
    (ran : (step >>= next).run work = .ok (b, last)) :
    ∃ a middle, step.run work = .ok (a, middle) ∧ (next a).run middle = .ok (b, last) := by
  rw [StateT.run_bind] at ran
  cases first : step.run work with
  | error fault =>
    rw [first] at ran
    cases ran
  | ok found =>
    rw [first] at ran
    exact ⟨found.1, found.2, rfl, ran⟩

theorem ok_of_lift {result : Except Fault α} {work next : Work} {a : α}
    (ran : (StateT.lift result : Step α).run work = .ok (a, next)) : result = .ok a := by
  cases result with
  | error fault => cases ran
  | ok b =>
    cases ran
    rfl

def Along (relation : Work → Work → Prop) (step : Step α) : Prop :=
  ∀ work a next, step.run work = .ok (a, next) → relation work next

variable {relation : Work → Work → Prop}

theorem along_modify {change : Work → Work} (changed : ∀ work, relation work (change work)) :
    Along relation (modify change : Step Unit) := by
  intro work b next ran
  cases ran
  exact changed work

variable [IsPreorder Work relation]

theorem along_pure (a : α) : Along relation (pure a) := by
  intro work b next ran
  cases ran
  exact refl work

theorem along_get : Along relation (get : Step Work) := by
  intro work b next ran
  cases ran
  exact refl work

theorem along_lift (result : Except Fault α) : Along relation (StateT.lift result : Step α) := by
  intro work b next ran
  cases result with
  | error fault => cases ran
  | ok a =>
    cases ran
    exact refl work

theorem along_fail : Along relation (fail : Step α) :=
  along_lift refuse

theorem along_bind {step : Step α} {next : α → Step β} (first : Along relation step)
    (second : ∀ a, Along relation (next a)) : Along relation (step >>= next) := by
  intro work b last ran
  obtain ⟨a, middle, ranFirst, ranNext⟩ := run_bind ran
  exact IsTrans.trans _ _ _ (first work a middle ranFirst) (second a middle b last ranNext)

theorem along_forM {items : List α} {act : α → Step PUnit} (each : ∀ item, Along relation (act item)) :
    Along relation (items.forM act) := by
  induction items with
  | nil => exact along_pure _
  | cons item rest ih => exact along_bind (each item) fun _ => ih

theorem along_mapM {items : List α} {act : α → Step β} (each : ∀ item, Along relation (act item)) :
    Along relation (items.mapM act) := by
  induction items with
  | nil => exact along_pure _
  | cons item rest ih =>
    rw [List.mapM_cons]
    exact along_bind (each item) fun _ => along_bind ih fun _ => along_pure _

theorem along_vertex (n : Nat) : Along relation (vertex n) :=
  along_bind along_get fun _ => along_pure _

end Steps

def SameMade (work next : Work) : Prop :=
  next.made = work.made ∧ next.waiting = work.waiting

instance : IsPreorder Work SameMade where
  refl _ := ⟨rfl, rfl⟩
  trans _ _ _ first second := ⟨second.1.trans first.1, second.2.trans first.2⟩

theorem sameMade_setVertex (n : Nat) (v : Vertex) : Along SameMade (setVertex n v) :=
  along_modify fun _ => ⟨rfl, rfl⟩

theorem sameMade_settle (n : Nat) (merged : List (Nat × Nat)) : Along SameMade (settle n merged) := by
  refine along_bind (along_vertex n) fun v => ?_
  refine along_bind (along_forM fun pair => along_bind (along_vertex _) fun key => ?_) fun _ => ?_
  · split
    · exact sameMade_setVertex _ _
    · exact along_pure _
  · exact along_bind (along_vertex n) fun _ => sameMade_setVertex _ _

theorem sameMade_flatten (fuel n : Nat) (merged : List (Nat × Nat)) : Along SameMade (flatten fuel n merged) := by
  induction fuel generalizing n merged with
  | zero => exact sameMade_settle n merged
  | succ fuel ih =>
    unfold flatten
    refine along_bind along_get fun _ => along_bind (along_vertex n) fun _ => ?_
    split
    · exact sameMade_settle n merged
    · refine along_bind (along_vertex n) fun _ => along_bind (sameMade_setVertex _ _) fun _ => ?_
      refine along_bind (along_vertex _) fun v => ?_
      dsimp only
      split
      · refine along_bind (ih _ []) fun _ => along_bind (along_vertex _) fun _ => ?_
        exact along_bind (along_pure _) fun more => ih n (merged ++ more)
      · refine along_bind (along_mapM fun item => along_bind (along_vertex item) fun _ => ?_) fun _ => ?_
        · split
          · exact along_bind (ih item []) fun _ => along_bind (along_vertex item) fun _ => along_pure _
          · exact along_fail
        · exact along_bind (along_pure _) fun more => ih n (merged ++ more)
      · exact along_bind along_fail fun more => ih n (merged ++ more)

theorem sameMade_scalarText (fuel n : Nat) : Along SameMade (scalarText fuel n) := by
  induction fuel generalizing n with
  | zero => exact along_fail
  | succ fuel ih =>
    unfold scalarText
    refine along_bind (along_vertex n) fun v => ?_
    split
    · exact along_pure _
    · exact along_fail
    · refine along_bind along_get fun _ => ?_
      dsimp only
      split
      · exact ih _
      · exact along_fail

theorem sameMade_makeScalar (n : Nat) : Along SameMade (makeScalar n) := by
  refine along_bind along_get fun _ => along_bind (sameMade_scalarText _ n) fun text => ?_
  refine along_bind (along_vertex n) fun v => ?_
  have valued (tag : Tag) : Along SameMade (Made.scalar <$> StateT.lift (scalarValue tag text) : Step Made) := by
    rw [map_eq_pure_bind]
    exact along_bind (along_lift _) fun _ => along_pure _
  split
  · exact along_lift _
  · split
    · exact along_pure _
    · exact valued .float
  · exact valued _

/-- What is settled of a vertex: that it is a key, and which one, or that it is a collection. -/
def settled? (work : Work) (n : Nat) : Option (Option Made) :=
  (work.made.getD n none).map fun made => if made.isKey then some made else none

theorem settled?_eq_key_iff {work : Work} {n : Nat} {made : Made} :
    work.settled? n = some (some made) ↔ work.made.getD n none = some made ∧ made.isKey = true := by
  unfold settled?
  constructor
  · intro settled
    obtain ⟨found, isFound, same⟩ := Option.map_eq_some_iff.mp settled
    split at same <;> cases same
    exact ⟨isFound, by assumption⟩
  · rintro ⟨found, isKey⟩
    simp [found, isKey]

def Extends (work next : Work) : Prop :=
  next.made.size = work.made.size ∧ ∀ n standing, work.settled? n = some standing → next.settled? n = some standing

theorem Extends.refl (work : Work) : Extends work work :=
  ⟨rfl, fun _ _ settled => settled⟩

theorem Extends.trans {work middle next : Work} (first : Extends work middle) (second : Extends middle next) :
    Extends work next :=
  ⟨second.1.trans first.1, fun n standing settled => second.2 n standing (first.2 n standing settled)⟩

/-- A vertex that is a key. One that there is not can be one too; it stands for nothing. -/
def IsKey (work : Work) (n : Nat) : Prop :=
  work.made.size ≤ n ∨ ∃ made, work.settled? n = some (some made)

def IsCollection (work : Work) (n : Nat) : Prop :=
  work.made.size ≤ n ∨ work.settled? n = some none

theorem IsKey.extend {work next : Work} {n : Nat} (isKey : work.IsKey n) (ext : Extends work next) : next.IsKey n :=
  isKey.imp (fun outside => ext.1.symm ▸ outside) fun ⟨made, settled⟩ => ⟨made, ext.2 n _ settled⟩

theorem IsCollection.extend {work next : Work} {n : Nat} (isCollection : work.IsCollection n)
    (ext : Extends work next) : next.IsCollection n :=
  isCollection.imp (fun outside => ext.1.symm ▸ outside) (ext.2 n none)

theorem IsKey.getD_made {work next : Work} {n : Nat} (isKey : work.IsKey n) (ext : Extends work next) :
    next.made.getD n none = work.made.getD n none := by
  rcases isKey with outside | ⟨made, settled⟩
  · have still : next.made.size ≤ n := ext.1.symm ▸ outside
    simp [Array.getD, outside.not_gt, still.not_gt]
  · have kept := ext.2 n _ settled
    rw [(settled?_eq_key_iff.mp kept).1, (settled?_eq_key_iff.mp settled).1]

theorem isSameKey_extend {work next : Work} {a b : Nat} (left : work.IsKey a) (right : work.IsKey b)
    (ext : Extends work next) : next.isSameKey a b = work.isSameKey a b := by
  unfold isSameKey
  rw [left.getD_made ext, right.getD_made ext]

structure Keyed (work : Work) (keys : List Nat) : Prop where
  isKey : ∀ n ∈ keys, work.IsKey n
  apart : keys.Pairwise fun a b => work.isSameKey a b = false

theorem Keyed.extend {work next : Work} {keys : List Nat} (keyed : work.Keyed keys) (ext : Extends work next) :
    next.Keyed keys where
  isKey n member := (keyed.isKey n member).extend ext
  apart := keyed.apart.imp_of_mem fun first second different =>
    (isSameKey_extend (keyed.isKey _ first) (keyed.isKey _ second) ext).trans different

theorem keys_put (same : Nat → Nat → Bool) (entry : Nat × Nat) (entries : List (Nat × Nat)) :
    (put same entry entries).map (·.1) = entries.map (·.1) ∨
      (∀ n ∈ entries.map (·.1), same n entry.1 = false) ∧
        (put same entry entries).map (·.1) = entries.map (·.1) ++ [entry.1] := by
  induction entries with
  | nil => exact .inr ⟨by simp, rfl⟩
  | cons other rest ih =>
    unfold put
    split
    · exact .inl rfl
    · rename_i different
      rcases ih with kept | ⟨new, added⟩
      · exact .inl (congrArg (other.1 :: ·) kept)
      · have differs := Bool.eq_false_iff.mpr different
        exact .inr ⟨List.forall_mem_cons.mpr ⟨differs, new⟩, congrArg (other.1 :: ·) added⟩

theorem Keyed.put {work : Work} {entries : List (Nat × Nat)} {entry : Nat × Nat}
    (keyed : work.Keyed (entries.map (·.1))) (isKey : work.IsKey entry.1) :
    work.Keyed ((put work.isSameKey entry entries).map (·.1)) := by
  rcases keys_put work.isSameKey entry entries with kept | ⟨new, added⟩
  · rw [kept]
    exact keyed
  · rw [added]
    constructor
    · intro n member
      rcases List.mem_append.mp member with old | last
      · exact keyed.isKey n old
      · rw [List.mem_singleton.mp last]
        exact isKey
    · refine List.pairwise_append.mpr ⟨keyed.apart, List.pairwise_singleton _ _, fun n member last isLast => ?_⟩
      rw [List.mem_singleton.mp isLast]
      exact new n member

theorem keyed_nil (work : Work) : work.Keyed [] :=
  ⟨fun _ member => absurd member List.not_mem_nil, .nil⟩

def Proper (work : Work) : Made → Prop
  | .map entries => work.Keyed (entries.map (·.1))
  | .scalar v => ∀ written, v.bare ≠ .map written
  | _ => True

theorem Proper.extend {work next : Work} {made : Made} (proper : work.Proper made) (ext : Extends work next) :
    next.Proper made := by
  cases made with
  | map entries => exact Keyed.extend proper ext
  | _ => exact proper

structure Sound (work : Work) : Prop where
  waiting : ∀ n ∈ work.waiting, work.IsCollection n
  proper : ∀ n made, work.made.getD n none = some made → work.Proper made

def Grown (work next : Work) : Prop :=
  work.Sound → next.Sound ∧ Extends work next

instance : IsPreorder Work Grown where
  refl work sound := ⟨sound, .refl work⟩
  trans _ _ _ first second sound :=
    have ⟨soundMiddle, ext⟩ := first sound
    have ⟨soundLast, extLast⟩ := second soundMiddle
    ⟨soundLast, ext.trans extLast⟩

theorem grown_of_sameMade {work next : Work} (same : SameMade work next) : Grown work next := by
  obtain ⟨vertices, made, waiting⟩ := work
  obtain ⟨vertices', made', waiting'⟩ := next
  obtain ⟨rfl, rfl⟩ : made' = made ∧ waiting' = waiting := same
  intro sound
  have ext : Extends ⟨vertices, made', waiting'⟩ ⟨vertices', made', waiting'⟩ := ⟨rfl, fun _ _ settled => settled⟩
  exact ⟨⟨sound.waiting, fun n made found => (sound.proper n made found).extend ext⟩, ext⟩

theorem grown_wait {work : Work} {waiting : List Nat} (collections : ∀ n ∈ waiting, work.IsCollection n) :
    Grown work { work with waiting } := by
  intro sound
  have ext : Extends work { work with waiting } := ⟨rfl, fun _ _ settled => settled⟩
  exact ⟨⟨collections, fun n made found => (sound.proper n made found).extend ext⟩, ext⟩

theorem getD_record (work : Work) (n k : Nat) (made : Made) :
    (work.made.setIfInBounds n (some made)).getD k none =
      if k = n ∧ n < work.made.size then some made else work.made.getD k none := by
  simp only [Array.getD_eq_getD_getElem?, Array.getElem?_setIfInBounds]
  grind

/-- A vertex of which nothing is settled may become anything; a collection gets its parts. -/
theorem grown_record {work : Work} {n : Nat} {made : Made}
    (fits : ∀ standing, work.settled? n = some standing → standing = none ∧ made.isKey = false)
    (proper : work.Proper made) : Grown work { work with made := work.made.setIfInBounds n (some made) } := by
  intro sound
  have ext : Extends work { work with made := work.made.setIfInBounds n (some made) } := by
    refine ⟨Array.size_setIfInBounds, fun k standing settled => ?_⟩
    unfold settled?
    rw [getD_record]
    split
    · rename_i here
      obtain ⟨rfl, -⟩ := here
      obtain ⟨rfl, noKey⟩ := fits standing settled
      simp [noKey]
    · exact settled
  refine ⟨⟨fun k member => (sound.waiting k member).extend ext, fun k found isFound => ?_⟩, ext⟩
  rw [getD_record] at isFound
  split at isFound
  · rw [← Option.some.inj isFound]
    exact proper.extend ext
  · exact (sound.proper k found isFound).extend ext

def IsMade (work : Work) (n : Nat) : Prop :=
  n < work.made.size → (work.made.getD n none).isSome

theorem isMade_record (work : Work) (n : Nat) (made : Made) :
    IsMade { work with made := work.made.setIfInBounds n (some made) } n := by
  intro inside
  rw [Array.size_setIfInBounds] at inside
  rw [getD_record, if_pos ⟨rfl, inside⟩]
  rfl

theorem isCollection_record (work : Work) (n : Nat) {made : Made} (noKey : made.isKey = false) :
    IsCollection { work with made := work.made.setIfInBounds n (some made) } n := by
  by_cases inside : n < work.made.size
  · right
    unfold settled?
    rw [getD_record, if_pos ⟨rfl, inside⟩]
    simp [noKey]
  · left
    rw [Array.size_setIfInBounds]
    exact Nat.not_lt.mp inside

theorem unsettled {work : Work} {n : Nat} (nothing : work.made.getD n none = none) (standing : Option Made) :
    work.settled? n ≠ some standing := by
  unfold settled?
  rw [nothing]
  exact (Option.some_ne_none _).symm

theorem grown_await {work next : Work} {n : Nat} {empty : Made} {a : Unit} (nothing : work.made.getD n none = none)
    (ran : (await n empty).run work = .ok (a, next)) (noKey : empty.isKey = false) (proper : work.Proper empty) :
    Grown work next ∧ next.IsMade n := by
  cases ran
  refine ⟨fun sound => ?_, isMade_record work n empty⟩
  have recorded : Grown work { work with made := work.made.setIfInBounds n (some empty) } :=
    grown_record (fun standing settled => absurd settled (unsettled nothing standing)) proper
  obtain ⟨soundRecorded, ext⟩ := recorded sound
  have collections : ∀ k ∈ n :: work.waiting,
      IsCollection { work with made := work.made.setIfInBounds n (some empty) } k :=
    List.forall_mem_cons.mpr ⟨isCollection_record work n noKey, soundRecorded.waiting⟩
  obtain ⟨soundNext, extNext⟩ := grown_wait collections soundRecorded
  exact ⟨soundNext, ext.trans extNext⟩

theorem not_map_of_scalarValue {tag : Tag} {text : List Char} {v : Value} (read : scalarValue tag text = .ok v)
    (written : Value.Entries) : v.bare ≠ .map written := by
  unfold scalarValue at read
  split at read
  · cases read
    exact Value.noConfusion
  · have read := ok_of_mapError read
    unfold truth at read
    dsimp only at read
    split_ifs at read <;> cases read <;> exact Value.noConfusion
  · obtain ⟨sign, -, read⟩ := exists_of_bind_ok (ok_of_mapError read)
    obtain ⟨n, -, read⟩ := exists_of_bind_ok read
    cases read
    exact Value.noConfusion
  · obtain ⟨sign, -, read⟩ := exists_of_bind_ok (ok_of_mapError read)
    obtain ⟨x, -, read⟩ := exists_of_bind_ok read
    cases read
    exact Value.noConfusion
  · have read := ok_of_mapError read
    unfold timestamp at read
    split at read
    · cases read
    · split at read <;> cases read <;> exact Value.noConfusion
  · unfold binary at read
    split at read
    · obtain ⟨data, -, same⟩ := exists_of_map_ok read
      rw [← same]
      exact Value.noConfusion
    · cases read
  · cases read
    exact Value.noConfusion
  · cases read

theorem proper_of_makeScalar {work next : Work} {n : Nat} {made : Made}
    (ran : (makeScalar n).run work = .ok (made, next)) (later : Work) : later.Proper made := by
  unfold makeScalar at ran
  obtain ⟨_, _, -, ran⟩ := run_bind ran
  obtain ⟨text, _, -, ran⟩ := run_bind ran
  obtain ⟨v, middle, -, ran⟩ := run_bind ran
  have valued {tag : Tag} {last : Work}
      (ran : (Made.scalar <$> StateT.lift (scalarValue tag text) : Step Made).run middle = .ok (made, last)) :
      later.Proper made := by
    rw [map_eq_pure_bind] at ran
    obtain ⟨v, _, lifted, ran⟩ := run_bind ran
    cases ran
    exact not_map_of_scalarValue (ok_of_lift lifted)
  split at ran
  · cases ran
  · split at ran
    · cases ran
      trivial
    · exact valued ran
  · exact valued ran

theorem grown_make {work next : Work} {n : Nat} {a : Unit} (ran : (make n).run work = .ok (a, next)) :
    Grown work next ∧ next.IsMade n := by
  unfold make at ran
  obtain ⟨_, _, got, ran⟩ := run_bind ran
  cases got
  split at ran
  · rename_i made
    cases ran
    exact ⟨refl work, fun _ => made⟩
  · rename_i nothing
    have nothing := Option.not_isSome_iff_eq_none.mp nothing
    obtain ⟨v, _, ranVertex, ran⟩ := run_bind ran
    cases ranVertex
    split at ran
    · exact grown_await nothing ran rfl trivial
    · exact grown_await nothing ran rfl trivial
    · exact grown_await nothing ran rfl trivial
    · exact grown_await nothing ran rfl trivial
    · exact grown_await nothing ran rfl (keyed_nil work)
    · cases ran
    · cases ran
    · cases ran
    · obtain ⟨made, middle, ranScalar, ran⟩ := run_bind ran
      cases ran
      have same := sameMade_makeScalar n work made middle ranScalar
      have recorded : Grown middle { middle with made := middle.made.setIfInBounds n (some made) } := by
        refine grown_record (fun standing settled => ?_) (proper_of_makeScalar ranScalar middle)
        exact absurd settled (unsettled (same.1 ▸ nothing) standing)
      exact ⟨IsTrans.trans work middle _ (grown_of_sameMade same) recorded, isMade_record _ _ _⟩

theorem along_grown_make (n : Nat) : Along Grown (make n) :=
  fun _ _ _ ran => (grown_make ran).1

theorem isKey_of_isMade {work : Work} {n : Nat} (isMade : work.IsMade n)
    (isKey : ((work.made.getD n none).getD (.scalar .null)).isKey = true) : work.IsKey n := by
  by_cases inside : n < work.made.size
  · right
    obtain ⟨made, found⟩ := Option.isSome_iff_exists.mp (isMade inside)
    rw [found] at isKey
    exact ⟨made, settled?_eq_key_iff.mpr ⟨found, isKey⟩⟩
  · exact .inl (Nat.not_lt.mp inside)

theorem keyed_addEntry {work next : Work} {found entries : List (Nat × Nat)} {pair : Nat × Nat} (sound : work.Sound)
    (keyed : work.Keyed (found.map (·.1))) (ran : (addEntry found pair).run work = .ok (entries, next)) :
    (next.Sound ∧ Extends work next) ∧ next.Keyed (entries.map (·.1)) := by
  unfold addEntry at ran
  obtain ⟨_, first, ranKey, ran⟩ := run_bind ran
  obtain ⟨grownKey, isMade⟩ := grown_make ranKey
  obtain ⟨soundKey, extKey⟩ := grownKey sound
  obtain ⟨made, _, ranMade, ran⟩ := run_bind ran
  cases ranMade
  split at ran
  · rename_i isKey
    obtain ⟨_, second, ranValue, ran⟩ := run_bind ran
    obtain ⟨soundValue, extValue⟩ := (grown_make ranValue).1 soundKey
    cases ran
    -- Making the value may settle more, but the key stays the key that it is.
    have key := (isKey_of_isMade isMade isKey).extend extValue
    exact ⟨⟨soundValue, extKey.trans extValue⟩, ((keyed.extend extKey).extend extValue).put key⟩
  · obtain ⟨_, _, failed, _⟩ := run_bind ran
    cases failed

theorem keyed_addEntries {work next : Work} {pairs found entries : List (Nat × Nat)} (sound : work.Sound)
    (keyed : work.Keyed (found.map (·.1))) (ran : (pairs.foldlM addEntry found).run work = .ok (entries, next)) :
    (next.Sound ∧ Extends work next) ∧ next.Keyed (entries.map (·.1)) := by
  induction pairs generalizing work found with
  | nil =>
    cases ran
    exact ⟨⟨sound, .refl _⟩, keyed⟩
  | cons pair rest ih =>
    rw [List.foldlM_cons] at ran
    obtain ⟨more, middle, ranPair, ranRest⟩ := run_bind ran
    obtain ⟨⟨soundPair, extPair⟩, keyedPair⟩ := keyed_addEntry sound keyed ranPair
    obtain ⟨⟨soundRest, extRest⟩, keyedRest⟩ := ih soundPair keyedPair ranRest
    exact ⟨⟨soundRest, extPair.trans extRest⟩, keyedRest⟩

theorem keyed_entries {work next : Work} {n : Nat} {entries : List (Nat × Nat)} (sound : work.Sound)
    (ran : (Work.entries n).run work = .ok (entries, next)) :
    (next.Sound ∧ Extends work next) ∧ next.Keyed (entries.map (·.1)) := by
  unfold Work.entries at ran
  obtain ⟨v, _, ranVertex, ran⟩ := run_bind ran
  cases ranVertex
  split at ran
  · obtain ⟨_, _, got, ran⟩ := run_bind ran
    cases got
    obtain ⟨_, flat, flattened, ran⟩ := run_bind ran
    obtain ⟨soundFlat, extFlat⟩ := grown_of_sameMade (sameMade_flatten _ _ _ _ _ _ flattened) sound
    obtain ⟨v, _, ranVertex, ran⟩ := run_bind ran
    cases ranVertex
    have none : flat.Keyed (List.map (·.1) ([] : List (Nat × Nat))) := keyed_nil flat
    obtain ⟨⟨soundNext, extNext⟩, keyed⟩ := keyed_addEntries soundFlat none ran
    exact ⟨⟨soundNext, extFlat.trans extNext⟩, keyed⟩
  · cases ran

theorem grown_pairItems (n : Nat) : Along Grown (pairItems n) := by
  unfold pairItems
  refine along_bind (along_vertex n) fun v => ?_
  split
  · refine along_mapM fun item => along_bind (along_vertex item) fun v => ?_
    split
    · refine along_bind (along_grown_make _) fun _ => along_bind (along_grown_make _) fun _ => along_pure _
    · exact along_fail
  · exact along_fail

theorem grown_refill {α : Type} {gather : Step α} {parts : α → Made} {work next : Work} {n : Nat} {a : Unit}
    (ran : (gather >>= fun found => record n (parts found)).run work = .ok (a, next))
    (collection : work.IsCollection n) (noKey : ∀ found, (parts found).isKey = false)
    (gathered : ∀ found middle, gather.run work = .ok (found, middle) →
      (middle.Sound ∧ Extends work middle) ∧ middle.Proper (parts found)) : next.Sound ∧ Extends work next := by
  obtain ⟨found, middle, ranGather, ran⟩ := run_bind ran
  cases ran
  obtain ⟨⟨sound, ext⟩, proper⟩ := gathered found middle ranGather
  have fits : ∀ standing, middle.settled? n = some standing → standing = none ∧ (parts found).isKey = false := by
    intro standing settled
    rcases collection.extend ext with outside | isCollection
    · simp [settled?, Array.getD, outside.not_gt] at settled
    · exact ⟨Option.some.inj (settled.symm.trans isCollection), noKey found⟩
  obtain ⟨soundNext, extNext⟩ := grown_record fits proper sound
  exact ⟨soundNext, ext.trans extNext⟩

theorem grown_fill {work next : Work} {n : Nat} {a : Unit} (sound : work.Sound) (collection : work.IsCollection n)
    (ran : (fill n).run work = .ok (a, next)) : next.Sound ∧ Extends work next := by
  have paired (ran : (pairItems n >>= fun items => record n (.pairs items)).run work = .ok (a, next)) :
      next.Sound ∧ Extends work next :=
    grown_refill ran collection (fun _ => rfl) fun _ _ ranItems => ⟨grown_pairItems n _ _ _ ranItems sound, trivial⟩
  unfold fill at ran
  obtain ⟨v, _, ranVertex, ran⟩ := run_bind ran
  cases ranVertex
  split at ran
  · refine grown_refill ran collection (fun _ => rfl) fun _ _ ranItems => ⟨?_, trivial⟩
    exact along_forM along_grown_make _ _ _ ranItems sound
  · exact grown_refill ran collection (fun _ => rfl) fun _ _ ranEntries => keyed_entries sound ranEntries
  · refine grown_refill ran collection (fun _ => rfl) fun _ _ ranEntries => ⟨?_, trivial⟩
    exact (keyed_entries sound ranEntries).1
  · exact paired ran
  · exact paired ran
  · cases ran

theorem sound_fillEach {work next : Work} {waiting : List Nat} {a : Unit} (sound : work.Sound)
    (collections : ∀ n ∈ waiting, work.IsCollection n) (ran : (waiting.forM fill).run work = .ok (a, next)) :
    next.Sound := by
  induction waiting generalizing work with
  | nil =>
    cases ran
    exact sound
  | cons n rest ih =>
    obtain ⟨first, others⟩ := List.forall_mem_cons.mp collections
    obtain ⟨_, middle, ranFirst, ranRest⟩ := run_bind ran
    obtain ⟨soundMiddle, ext⟩ := grown_fill sound first ranFirst
    exact ih soundMiddle (fun k member => (others k member).extend ext) ranRest

theorem sound_fillAll {fuel : Nat} {work next : Work} {a : Unit} (sound : work.Sound)
    (ran : (fillAll fuel).run work = .ok (a, next)) : next.Sound := by
  induction fuel generalizing work with
  | zero =>
    cases ran
    exact sound
  | succ fuel ih =>
    unfold fillAll at ran
    obtain ⟨_, _, got, ran⟩ := run_bind ran
    cases got
    dsimp only at ran
    split at ran
    · cases ran
      exact sound
    · obtain ⟨_, cleared, ranClear, ran⟩ := run_bind ran
      cases ranClear
      obtain ⟨_, filled, ranFill, ran⟩ := run_bind ran
      -- What waited is a collection still when the list of those that wait is emptied.
      have empty : ∀ n ∈ ([] : List Nat), work.IsCollection n := fun _ member => absurd member List.not_mem_nil
      obtain ⟨soundCleared, ext⟩ := grown_wait empty sound
      have collections : ∀ n ∈ work.waiting.reverse, IsCollection { work with waiting := [] } n :=
        fun n member => (sound.waiting n (List.mem_reverse.mp member)).extend ext
      exact ih (sound_fillEach soundCleared collections ranFill) ran

theorem sound_start (vertices : Vertices) : Sound ⟨vertices, Array.replicate vertices.size none, []⟩ where
  waiting _ member := absurd member List.not_mem_nil
  proper n made found := by
    simp [Array.getD] at found

theorem sound_run {vertices : Vertices} {made : Array Made} (ran : Work.run vertices = .ok made) :
    ∃ work : Work, work.Sound ∧ made = work.made.map (·.getD (.scalar .null)) := by
  unfold Work.run at ran
  obtain ⟨⟨_, work⟩, ranAll, same⟩ := exists_of_bind_ok ran
  obtain ⟨_, middle, ranRoot, ranFill⟩ := run_bind ranAll
  cases same
  obtain ⟨soundRoot, -⟩ := (grown_make ranRoot).1 (sound_start vertices)
  exact ⟨work, sound_fillAll soundRoot ranFill, rfl⟩

end PluginAudit.Yaml.Work
