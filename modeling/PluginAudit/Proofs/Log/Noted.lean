import Mathlib
import PluginAudit.Log.Logged
import PluginAudit.Proofs.Effect

namespace PluginAudit.Log

namespace Noted

section

variable {σ α : Type} {remark? : α → Except DataFault (Option Record)} {legible : α → Bool} {fault : DataFault}
  {item : α}

/-- The remark on an item, as far as one can be written. -/
def note? (remark? : α → Except DataFault (Option Record)) (item : α) : Option Record :=
  match remark? item with
  | .ok note => note
  | .error _ => none

theorem note?_of_ok {note : Option Record} (noted : remark? item = .ok note) : note? remark? item = note := by
  rw [note?, noted]

/-- A test that says which items are ready: that there is no remark to be made on them, or that it can be written. -/
structure Judges (remark? : α → Except DataFault (Option Record)) (legible : α → Bool) (fault : DataFault) : Prop where
  ok : ∀ {item}, legible item = true → ∃ note, remark? item = .ok note
  error : ∀ {item}, legible item = false → remark? item = .error fault

/-- What comes of taking items, of which some may not be legible. -/
def verdict (legible : α → Bool) (fault : DataFault) (items : List α) : Except Failure Unit :=
  if items.all legible then .ok () else .error (.data fault)

theorem verdict_of_all {items : List α} (all : ∀ item ∈ items, legible item = true) :
    verdict legible fault items = .ok () :=
  if_pos (List.all_eq_true.mpr all)

theorem verdict_of_exists {items : List α} (some : ∃ item ∈ items, legible item = false) :
    verdict legible fault items = .error (.data fault) := by
  obtain ⟨item, member, illegible⟩ := some
  refine if_neg fun all => ?_
  rw [List.all_eq_true.mp all item member] at illegible
  cases illegible

theorem verdict_eq_ok_iff (items : List α) :
    verdict legible fault items = .ok () ↔ ∀ item ∈ items, legible item = true := by
  rw [verdict, ← List.all_eq_true]
  split <;> simp [*]

theorem verdict_eq_error_iff (items : List α) (failure : Failure) :
    verdict legible fault items = .error failure ↔ failure = .data fault ∧ ∃ item ∈ items, legible item = false := by
  constructor
  · intro fails
    unfold verdict at fails
    split at fails
    · cases fails
    · rename_i notAll
      cases fails
      simpa using notAll
  · rintro ⟨rfl, illegible⟩
    exact verdict_of_exists illegible

theorem verdict_append (items others : List α) :
    verdict legible fault (items ++ others) = verdict legible fault items >>= fun _ => verdict legible fault others := by
  rw [verdict, verdict, verdict, List.all_append]
  cases items.all legible <;> rfl

theorem run_take {note : Option Record} (noted : remark? item = .ok note) (effect : σ → α → σ) (state : σ)
    (records : List Record) :
    (ExceptT.run (take remark? effect item)).run (state, records) =
      (.ok (), effect state item, records ++ note.toList) := by
  unfold take
  rw [noted]
  cases note with
  | none =>
    rw [Option.toList_none, List.append_nil]
    rfl
  | some record => rfl

theorem run_take_error (unnoted : remark? item = .error fault) (effect : σ → α → σ) (state : σ × List Record) :
    (ExceptT.run (take remark? effect item)).run state = (.error (.data fault), state) := by
  unfold take
  rw [unnoted]
  rfl

theorem toList_append_filterMap (note? : α → Option Record) (item : α) (rest : List α) :
    (note? item).toList ++ rest.filterMap note? = (item :: rest).filterMap note? := by
  rw [List.filterMap_cons]
  cases note? item <;> rfl

/-- Items are taken up to the first one that is not legible. What was taken before it stays, and so do the remarks. -/
theorem run_takeAll (judges : Judges remark? legible fault) (effect : σ → α → σ) (items : List α) (state : σ)
    (records : List Record) :
    (ExceptT.run (takeAll remark? effect items)).run (state, records) =
      (verdict legible fault items, (items.takeWhile legible).foldl effect state,
        records ++ (items.takeWhile legible).filterMap (note? remark?)) := by
  induction items generalizing state records with
  | nil =>
    rw [List.takeWhile_nil, List.filterMap_nil, List.append_nil]
    rfl
  | cons item rest ih =>
    change (ExceptT.run (take remark? effect item >>= fun _ => takeAll remark? effect rest)).run (state, records) = _
    cases isLegible : legible item with
    | true =>
      obtain ⟨note, noted⟩ := judges.ok isLegible
      have same : verdict legible fault (item :: rest) = verdict legible fault rest := by simp [verdict, isLegible]
      rw [run_bind_of_ok (run_take noted effect state records), ih, List.takeWhile_cons_of_pos isLegible, same,
        List.append_assoc, ← note?_of_ok noted, toList_append_filterMap]
      rfl
    | false =>
      have fails : verdict legible fault (item :: rest) = .error (.data fault) :=
        verdict_of_exists ⟨item, List.mem_cons_self, isLegible⟩
      rw [run_bind_of_error (run_take_error (judges.error isLegible) effect _), fails,
        List.takeWhile_cons_of_neg (by simp [isLegible]), List.filterMap_nil, List.append_nil]
      rfl

theorem run_reach {operation : Noted σ Unit} {start state : σ} {records : List Record} {result : Except Failure Unit}
    (ran : operation.run start = (result, state, records)) :
    (reach start operation).run = (result.map fun _ => state, records) := by
  change (match operation.run start with
    | (result, state, records) => (result.map fun _ => state, records)) = _
  rw [ran]

/-- The state after all items, or none if one of them is not legible. -/
theorem run_reach_takeAll (judges : Judges remark? legible fault) (effect : σ → α → σ) (items : List α) (start : σ) :
    (reach start (takeAll remark? effect items)).run =
      ((verdict legible fault items).map fun _ => items.foldl effect start,
        (items.takeWhile legible).filterMap (note? remark?)) := by
  rw [run_reach (run_takeAll judges effect items start [])]
  cases judged : verdict legible fault items with
  | error failure => rfl
  | ok _ =>
    have all := (verdict_eq_ok_iff items).mp judged
    rw [List.takeWhile_eq_self_iff.mpr all]
    rfl

end

end Noted

end PluginAudit.Log
