import Mathlib
import PluginAudit.Popularity.Remark
import PluginAudit.Proofs.Log.Noted
import PluginAudit.Proofs.Register
import PluginAudit.Proofs.Value.Entries
import PluginAudit.Proofs.Value.Writable

namespace PluginAudit

namespace Score

theorem ofValue?_toValue (score : Score) : ofValue? score.toValue = some score := by
  cases score <;> rfl

theorem toValue_of_ofValue? {v : Value} {score : Score} (found : ofValue? v = some score) : score.toValue = v := by
  cases v <;> cases found <;> rfl

theorem entries?_toValue (score : Score) : score.toValue.entries? = none := by
  cases score <;> rfl

end Score

namespace Popularity

open PluginAudit.Log (Noted)

def flat (scores : Register Score) : Value.Entries :=
  scores.map fun entry => (.text entry.1, entry.2.toValue)

/-- An entry of a catalog: a record with the score of a class, and whatever else. -/
def Catalogued (entry : Value × Value) (scored : String × Score) : Prop :=
  entry.1 = .text scored.1 ∧ ∃ fields, entry.2.entries? = some fields ∧
    fields.named? "popularity" = some scored.2.toValue

/-- Data that hold the scores of classes. -/
inductive Form (scores : Register Score) : Value.Entries → Prop where
  | flat : Form scores (flat scores)
  | catalog {entries : Value.Entries} (each : List.Forall₂ Catalogued entries scores)
      (plain : ∀ key ∈ documentKeys, key ∉ scores.names) : Form scores entries
  | camelDocument {entries : Value.Entries} {held : Value} (found : entries.named? "classPopularity" = some held)
      (same : held.entries? = some (Popularity.flat scores)) : Form scores entries
  | lowLineDocument {entries : Value.Entries} {held : Value}
      (noMap : ∀ other ∈ entries.named? "classPopularity", other.entries? = none)
      (found : entries.named? "class_popularity" = some held)
      (same : held.entries? = some (Popularity.flat scores)) : Form scores entries

def rating (entry : Value × Value) : Value × Option Score :=
  (entry.1, Score.ofValue? (given entry.2))

def Holds (entries : Value.Entries) (scores : Register Score) : Prop :=
  (classes entries).map rating = scores.map fun scored => (.text scored.1, some scored.2)

theorem nested?_eq_none {entries : Value.Entries} {key : String}
    (noMap : ∀ other ∈ entries.named? key, other.entries? = none) : nested? entries key = none := by
  rw [nested?]
  cases found : entries.named? key with
  | none => rfl
  | some other => exact noMap other found

theorem classes_eq_self {entries : Value.Entries}
    (noMap : ∀ key ∈ documentKeys, ∀ other ∈ entries.named? key, other.entries? = none) :
    classes entries = entries := by
  have nowhere : documentKeys.findSome? (nested? entries) = none := by
    rw [List.findSome?_eq_none_iff]
    exact fun key member => nested?_eq_none (noMap key member)
  rw [classes, nowhere, Option.getD_none]

theorem classes_flat (scores : Register Score) : classes (flat scores) = flat scores := by
  refine classes_eq_self fun key _ other found => ?_
  obtain ⟨entry, isEntry, rfl⟩ := Option.map_eq_some_iff.mp found
  obtain ⟨scored, _, rfl⟩ := List.mem_map.mp (List.mem_of_find?_eq_some isEntry)
  exact scored.2.entries?_toValue

theorem keys_catalog {entries : Value.Entries} {scores : Register Score}
    (each : List.Forall₂ Catalogued entries scores) : entries.keys = scores.names.map Value.text := by
  induction each with
  | nil => rfl
  | cons head _ ih => exact congrArg₂ List.cons head.1 ih

theorem classes_catalog {entries : Value.Entries} {scores : Register Score}
    (each : List.Forall₂ Catalogued entries scores) (plain : ∀ key ∈ documentKeys, key ∉ scores.names) :
    classes entries = entries := by
  refine classes_eq_self fun key member other found => ?_
  have absent : entries.named? key = none := by
    refine Value.Entries.named?_eq_none fun name isName same => plain key member ?_
    rw [keys_catalog each] at isName
    obtain ⟨word, isWord, rfl⟩ := List.mem_map.mp isName
    cases same
    exact isWord
  rw [absent] at found
  cases found

theorem rating_flat (scores : Register Score) :
    (flat scores).map rating = scores.map fun scored => (.text scored.1, some scored.2) := by
  rw [flat, List.map_map]
  refine List.map_congr_left fun scored _ => ?_
  rw [Function.comp_apply, rating, given, scored.2.entries?_toValue]
  exact congrArg (Value.text scored.1, ·) scored.2.ofValue?_toValue

theorem Catalogued.rating {entry : Value × Value} {scored : String × Score} (fits : Catalogued entry scored) :
    rating entry = (.text scored.1, some scored.2) := by
  obtain ⟨key, fields, isMap, held⟩ := fits
  rw [Popularity.rating, key, given, isMap]
  simp only [held, Option.getD_some, Score.ofValue?_toValue]

theorem rating_catalog {entries : Value.Entries} {scores : Register Score}
    (each : List.Forall₂ Catalogued entries scores) :
    entries.map rating = scores.map fun scored => (.text scored.1, some scored.2) := by
  induction each with
  | nil => rfl
  | cons head _ ih => exact congrArg₂ List.cons head.rating ih

theorem Form.holds {scores : Register Score} {entries : Value.Entries} (form : Form scores entries) :
    Holds entries scores := by
  unfold Holds
  cases form with
  | flat => rw [classes_flat, rating_flat]
  | catalog each plain => rw [classes_catalog each plain, rating_catalog each]
  | camelDocument found same =>
    have first : nested? entries "classPopularity" = some (Popularity.flat scores) := by
      rw [nested?, found, Option.bind_some, same]
    have holds : classes entries = Popularity.flat scores := by simp [classes, documentKeys, first]
    rw [holds, rating_flat]
  | lowLineDocument noMap found same =>
    have first := nested?_eq_none noMap
    have second : nested? entries "class_popularity" = some (Popularity.flat scores) := by
      rw [nested?, found, Option.bind_some, same]
    have holds : classes entries = Popularity.flat scores := by simp [classes, documentKeys, first, second]
    rw [holds, rating_flat]

def ofEntries (entries : Value.Entries) : Popularity :=
  (classes entries).foldl rate empty

/-- Whether an entry can be taken: the name of the class has to be written, and so has the value, unless it is a score.
-/
def isLegible (entry : Value × Value) : Bool :=
  entry.1.isWritable && ((Score.ofValue? (given entry.2)).isSome || (given entry.2).isWritable)

theorem remark?_of_score {entry : Value × Value} {score : Score} (named : entry.1.isWritable = true)
    (scored : Score.ofValue? (given entry.2) = some score) : remark? entry = .ok none := by
  have isValue := Score.toValue_of_ofValue? scored
  unfold remark?
  rw [Value.display_of_isWritable named, ← isValue]
  cases score <;> rfl

theorem exists_remark {entry : Value × Value} (legible : isLegible entry = true) :
    ∃ note, remark? entry = .ok note := by
  obtain ⟨named, isWritten⟩ := Bool.and_eq_true_iff.mp legible
  cases scored : Score.ofValue? (given entry.2) with
  | some score => exact ⟨none, remark?_of_score named scored⟩
  | none =>
    rw [scored] at isWritten
    unfold remark?
    simp only [Value.display_of_isWritable named]
    split
    · exact ⟨none, rfl⟩
    · simp only [scored, Value.shown_of_isWritable isWritten]
      exact ⟨_, rfl⟩

theorem remark?_of_not_isLegible {entry : Value × Value} (illegible : isLegible entry = false) :
    remark? entry = .error (.unwritableInteger Number.digitLimit) := by
  unfold remark?
  rcases Bool.and_eq_false_iff.mp illegible with unnamed | unwritten
  · simp only [Value.display_of_not_isWritable unnamed]
    rfl
  · obtain ⟨noScore, long⟩ := Bool.or_eq_false_iff.mp unwritten
    cases named : entry.1.isWritable with
    | false =>
      simp only [Value.display_of_not_isWritable named]
      rfl
    | true =>
      simp only [Value.display_of_isWritable named]
      split
      · rename_i isNull
        rw [isNull] at long
        cases long
      · simp only [noScore, Value.shown_of_not_isWritable long]
        rfl

theorem judges : Noted.Judges remark? isLegible (.unwritableInteger Number.digitLimit) :=
  ⟨exists_remark, remark?_of_not_isLegible⟩

section

variable {v : Value} {entries : Value.Entries}

theorem run_ofData (mapping : v.entries? = some entries) :
    (ofData v).run =
      ((Noted.verdict isLegible (.unwritableInteger Number.digitLimit) (classes entries)).map fun _ => ofEntries entries,
        ((classes entries).takeWhile isLegible).filterMap (Noted.note? remark?)) := by
  have same : (ofData v).run = (Noted.reach empty (Noted.takeAll remark? rate (classes entries))).run := by
    rw [ofData, entries?, mapping]
    rfl
  rw [same, Noted.run_reach_takeAll judges]
  rfl

theorem run_ofData_of_legible (mapping : v.entries? = some entries)
    (legible : ∀ entry ∈ classes entries, isLegible entry = true) :
    (ofData v).run = (.ok (ofEntries entries), (classes entries).filterMap (Noted.note? remark?)) := by
  rw [run_ofData mapping, Noted.verdict_of_all legible, List.takeWhile_eq_self_iff.mpr legible]
  rfl

theorem run_ofData_of_illegible (mapping : v.entries? = some entries)
    (illegible : ∃ entry ∈ classes entries, isLegible entry = false) :
    ∃ records, (ofData v).run = (.error (.data (.unwritableInteger Number.digitLimit)), records) := by
  rw [run_ofData mapping, Noted.verdict_of_exists illegible]
  exact ⟨_, rfl⟩

theorem ofOptionalData_of_entries? (mapping : v.entries? = some entries) : ofOptionalData v = ofData v := by
  rw [ofOptionalData]
  rintro rfl
  cases mapping

end

namespace Holds

variable {scores : Register Score} {entries : Value.Entries}

theorem ofEntries (holds : Holds entries scores) (nodup : scores.names.Nodup) : ofEntries entries = ⟨scores⟩ := by
  have put := Register.foldl_put_new Prod.fst Prod.snd scores [] nodup
  have same : (Popularity.ofEntries entries).scores = ((classes entries).map rating).foldl
      (fun (scores : Register Score) rated => scores.put rated.1.displayText (rated.2.getD (.whole 0))) [] := by
    rw [List.foldl_map, Popularity.ofEntries]
    exact (List.foldl_hom Popularity.scores fun _ _ => rfl).symm
  rw [holds, List.foldl_map] at same
  rw [List.nil_append, List.map_id'] at put
  exact congrArg Popularity.mk (same.trans put)

theorem exists_scored (holds : Holds entries scores) {entry : Value × Value} (member : entry ∈ classes entries) :
    ∃ name score, entry.1 = .text name ∧ Score.ofValue? (given entry.2) = some score := by
  have isRated : rating entry ∈ (classes entries).map rating := List.mem_map_of_mem member
  rw [holds] at isRated
  obtain ⟨scored, _, same⟩ := List.mem_map.mp isRated
  exact ⟨scored.1, scored.2, (congrArg Prod.fst same).symm, (congrArg Prod.snd same).symm⟩

theorem isLegible (holds : Holds entries scores) : ∀ entry ∈ classes entries, isLegible entry = true := by
  intro entry member
  obtain ⟨name, score, named, scored⟩ := holds.exists_scored member
  rw [Popularity.isLegible, named, scored]
  rfl

theorem filterMap_note? (holds : Holds entries scores) : (classes entries).filterMap (Noted.note? remark?) = [] := by
  refine List.filterMap_eq_nil_iff.mpr fun entry member => ?_
  obtain ⟨name, score, named, scored⟩ := holds.exists_scored member
  have writable : entry.1.isWritable = true := by rw [named]; rfl
  exact Noted.note?_of_ok (remark?_of_score writable scored)

theorem run_ofData (holds : Holds entries scores) {v : Value} (mapping : v.entries? = some entries)
    (nodup : scores.names.Nodup) : (ofData v).run = (.ok ⟨scores⟩, []) := by
  rw [run_ofData_of_legible mapping holds.isLegible, holds.filterMap_note?, holds.ofEntries nodup]

end Holds

theorem entries?_toValue (popularity : Popularity) : popularity.toValue.entries? = some (flat popularity.scores) :=
  congrArg some List.map_map

theorem nodup_ofEntries (entries : Value.Entries) : (ofEntries entries).scores.names.Nodup := by
  refine List.foldlRecOn (motive := fun popularity : Popularity => popularity.scores.names.Nodup) (classes entries) rate
    Register.nodup_names_nil fun popularity nodup entry _ => ?_
  exact Register.nodup_names_alter nodup _ _

/-- A class and the entry from which its score comes, zero where the entry has none. -/
def Scored (entry : Value × Value) (scored : String × Score) : Prop :=
  entry.1.displayText = scored.1 ∧
    (given entry.2 = scored.2.toValue ∨ (∀ score, given entry.2 ≠ Score.toValue score) ∧ scored.2 = .whole 0)

theorem scored_rating (entry : Value × Value) :
    Scored entry (entry.1.displayText, (Score.ofValue? (given entry.2)).getD (.whole 0)) := by
  refine ⟨rfl, ?_⟩
  cases isScore : Score.ofValue? (given entry.2) with
  | none =>
    refine .inr ⟨fun score same => ?_, rfl⟩
    rw [same, Score.ofValue?_toValue] at isScore
    cases isScore
  | some score => exact .inl (Score.toValue_of_ofValue? isScore).symm

theorem exists_scored {entries : Value.Entries} {scored : String × Score}
    (member : scored ∈ (ofEntries entries).scores) : ∃ entry ∈ classes entries, Scored entry scored := by
  revert scored
  refine List.foldlRecOn (motive := fun popularity : Popularity =>
    ∀ {scored}, scored ∈ popularity.scores → ∃ entry ∈ classes entries, Scored entry scored) (classes entries) rate
    (fun member => absurd member List.not_mem_nil) ?_
  intro popularity known entry isEntry scored member
  rcases Register.mem_of_mem_put member with rfl | before
  · exact ⟨entry, isEntry, scored_rating entry⟩
  · exact known before

/-- Scores are the same in all forms of data. From data of any kind come numbers only, and they are a form of data from
which the same numbers come again; but data in which there is an integer too long for a remark are refused, even where
that integer would count for nothing. -/
theorem forms_agree {v : Value} {entries : Value.Entries} (mapping : v.entries? = some entries) :
    (∀ {scores : Register Score}, scores.names.Nodup → Form scores entries → (ofData v).run = (.ok ⟨scores⟩, [])) ∧
      ((∀ entry ∈ classes entries, isLegible entry = true) →
        ∃ popularity records, (ofData v).run = (.ok popularity, records) ∧
          (∀ scored ∈ popularity.scores, scored.2.toValue.kind ∈ ["int", "float"] ∧
            ∃ entry ∈ classes entries, Scored entry scored) ∧
          (ofData popularity.toValue).run = (.ok popularity, [])) ∧
      ((∃ entry ∈ classes entries, isLegible entry = false) →
        ∃ records, (ofData v).run = (.error (.data (.unwritableInteger Number.digitLimit)), records)) := by
  refine ⟨fun nodup form => form.holds.run_ofData mapping nodup, ?_, run_ofData_of_illegible mapping⟩
  intro legible
  refine ⟨_, _, run_ofData_of_legible mapping legible, fun scored member => ⟨?_, exists_scored member⟩, ?_⟩
  · cases scored.2 <;> simp [Score.toValue, Value.kind]
  · exact Form.flat.holds.run_ofData (entries?_toValue _) (nodup_ofEntries entries)

def tilemapScores : Register Score :=
  [("Tilemap", .whole 3), ("Bitmap", .real (.finite false 25 (-1)))]

def tilemapCatalog : Value :=
  .record [
    ("Tilemap", .record [("methods", .int 12), ("popularity", .int 3)]),
    ("Bitmap", .record [("popularity", .float (.finite false 25 (-1)))])]

def mixedEntries : Value.Entries :=
  [(.int 1, .bool true), (.text "1", .int 4), (.null, .record [("popularity", .null)]),
    (.text "classPopularity", .text "many"), (.text "Tilemap", .list [.int 3])]

def mixedData : Value :=
  .map mixedEntries

theorem forms_agree_tilemap :
    (ofData (Popularity.mk tilemapScores).toValue).run = (.ok ⟨tilemapScores⟩, []) ∧
      (ofData tilemapCatalog).run = (.ok ⟨tilemapScores⟩, []) ∧
      (ofData (.record [("version", .int 1), ("classPopularity", (Popularity.mk tilemapScores).toValue)])).run =
        (.ok ⟨tilemapScores⟩, []) ∧
      (ofData (.record [
          ("class_popularity", (Popularity.mk tilemapScores).toValue), ("classPopularity", .int 7)])).run =
        (.ok ⟨tilemapScores⟩, []) ∧
      ∃ popularity records, (ofData mixedData).run = (.ok popularity, records) ∧
        popularity.scores =
          [("1", .whole 4), ("None", .whole 0), ("classPopularity", .whole 0), ("Tilemap", .whole 0)] ∧
        (ofData popularity.toValue).run = (.ok popularity, []) := by
  have nodup : tilemapScores.names.Nodup := by decide
  refine ⟨(forms_agree rfl).1 nodup .flat, (forms_agree rfl).1 nodup ?_, (forms_agree rfl).1 nodup ?_,
    (forms_agree rfl).1 nodup ?_, ?_⟩
  · exact .catalog (.cons ⟨rfl, _, rfl, rfl⟩ (.cons ⟨rfl, _, rfl, rfl⟩ .nil)) (by decide)
  · exact .camelDocument rfl rfl
  · refine .lowLineDocument ?_ rfl rfl
    intro other isOther
    cases isOther
    rfl
  · have legible : ∀ entry ∈ classes mixedEntries, isLegible entry = true := by decide +kernel
    obtain ⟨popularity, records, read, -, again⟩ := (@forms_agree mixedData mixedEntries rfl).2.1 legible
    have same : popularity = ofEntries mixedEntries := by
      rw [run_ofData_of_legible rfl legible] at read
      exact (Except.ok.inj (congrArg Prod.fst read)).symm
    refine ⟨popularity, records, read, ?_, again⟩
    rw [same]
    decide +kernel

theorem isLegible_list {n : Int} (long : (Value.int n).isWritable = false) (name : String) :
    isLegible (.text name, .list [.int n]) = false := by
  have unwritable : (Value.list [.int n]).isWritable = false := by
    rw [Value.isWritable, Value.areWritable, long]
    rfl
  change ((Value.text name).isWritable && (none.isSome || (Value.list [.int n]).isWritable)) = false
  rw [unwritable]
  rfl

theorem ofData_fails_long :
    ∃ records, (ofData (.record [("Tilemap", .list [.int (10 ^ Number.digitLimit)])])).run =
      (.error (.data (.unwritableInteger Number.digitLimit)), records) :=
  run_ofData_of_illegible rfl ⟨_, List.mem_singleton_self _, isLegible_list Value.not_isWritable_power "Tilemap"⟩

end Popularity

end PluginAudit
