import Mathlib
import PluginAudit.Proofs.Analysis.Reading
import PluginAudit.Proofs.Conflict.Report
import PluginAudit.Proofs.Popularity.Forms

namespace PluginAudit

/-- Integers, floating-point numbers and truth values. -/
def Value.Numeric : Value → Prop
  | .int _ => True
  | .float _ => True
  | .bool _ => True
  | _ => False

theorem Value.number?_eq_none_iff (v : Value) : v.number? = none ↔ ¬ v.Numeric := by
  cases v <;> simp [number?, Numeric]

theorem Value.exists_number {v : Value} (numeric : v.Numeric) : ∃ limit, v.number? = some limit := by
  cases found : v.number? with
  | none => exact absurd numeric ((number?_eq_none_iff v).mp found)
  | some limit => exact ⟨limit, rfl⟩

theorem mapM_eq_mapError {α β ε δ : Type} {change : ε → δ} {f : α → Except ε β} {g : α → Except δ β}
    {items : List α} (same : ∀ item ∈ items, g item = (f item).mapError change) :
    items.mapM g = (items.mapM f).mapError change := by
  induction items with
  | nil => rfl
  | cons item rest ih =>
    obtain ⟨head, tail⟩ := List.forall_mem_cons.mp same
    rw [List.mapM_cons, List.mapM_cons, head, ih tail]
    cases f item with
    | error what => rfl
    | ok b => cases rest.mapM f <;> rfl

/-- Gathering brings names in the order in which they first come, so the first of a kind is the same. -/
theorem Register.find?_names_gather {α : Type} (isOne : String → Bool) (register : Register (List α))
    (pairs : List (String × α)) :
    (register.gather pairs).names.find? isOne = (register.names ++ pairs.map Prod.fst).find? isOne := by
  induction pairs generalizing register with
  | nil => simp [gather]
  | cons pair rest ih =>
    have tail := ih (register.alter pair.1 fun old => old.getD [] ++ [pair.2])
    change (gather _ rest).names.find? isOne = _
    rw [tail, names_alter]
    split
    · rename_i present
      rw [List.find?_append, List.find?_append]
      cases earlier : register.names.find? isOne with
      | some name => rfl
      | none =>
        have missed : ¬ isOne pair.1 = true := List.find?_eq_none.mp earlier pair.1 present
        simp [missed]
    · rw [List.append_assoc]
      rfl

/-- The first method, in the order in which plugins list them, that two plugins or more override. -/
def firstShared? (plugins : List Plugin) : Option String :=
  (plugins.flatMap (·.overrides)).find? fun signature => 2 ≤ (overriders plugins signature).length

theorem isSome_firstShared?_iff (plugins : List Plugin) :
    (firstShared? plugins).isSome = true ↔ ∃ signature, 2 ≤ (overriders plugins signature).length := by
  rw [firstShared?, List.find?_isSome]
  constructor
  · rintro ⟨signature, -, two⟩
    exact ⟨signature, of_decide_eq_true two⟩
  · rintro ⟨signature, two⟩
    obtain ⟨plugin, member⟩ := List.exists_mem_of_length_pos (Nat.zero_lt_of_lt two)
    obtain ⟨inside, overrides⟩ := List.mem_filter.mp member
    exact ⟨signature, List.mem_flatMap.mpr ⟨plugin, inside, of_decide_eq_true overrides⟩, decide_eq_true two⟩

namespace OverrideIndex

variable {plugins : List Plugin}

theorem length_of_mem_methods (valid : ∀ plugin ∈ plugins, plugin.Valid) {entry : String × List String}
    (member : entry ∈ (ofPlugins plugins).methods) : entry.2.length = (overriders plugins entry.1).length := by
  have found := (Register.get?_eq_some_iff (nodup_names_ofPlugins plugins) entry.1 entry.2).mpr member
  have names := getD_methods_ofPlugins valid entry.1
  rw [found, Option.getD_some] at names
  rw [names, List.length_map]

theorem find?_shared (valid : ∀ plugin ∈ plugins, plugin.Valid) :
    ((ofPlugins plugins).methods.find? fun entry => 2 ≤ entry.2.length).map Prod.fst = firstShared? plugins := by
  have same : ((ofPlugins plugins).methods.find? fun entry => 2 ≤ entry.2.length) =
      (ofPlugins plugins).methods.find? fun entry => 2 ≤ (overriders plugins entry.1).length :=
    List.find?_congr fun entry member => by rw [length_of_mem_methods valid member]
  have noted : (notes plugins).map Prod.fst = plugins.flatMap (·.overrides) := by
    simp [notes, List.map_flatMap, Function.comp_def]
  have first := Register.find?_names_gather (fun signature => 2 ≤ (overriders plugins signature).length) empty.methods
    (notes plugins)
  rw [← foldl_add_methods, noted] at first
  rw [same]
  exact (List.find?_map ..).symm.trans first

end OverrideIndex

namespace Conflict

variable {popularity : Popularity} {threshold : Value}

theorem grade_eq_error (noNumber : threshold.number? = none) (method : String) (plugins : List String) :
    grade popularity threshold method plugins =
      .error ⟨(popularity.score (Script.Signature.split method).1).toValue.kind, threshold.fullKind⟩ := by
  simp only [grade, Score.reaches, noNumber]
  rfl

theorem plugins_of_grade {method : String} {plugins : List String} {conflict : Conflict}
    (graded : grade popularity threshold method plugins = .ok conflict) : conflict.plugins = plugins := by
  obtain ⟨reached, _, made⟩ := exists_of_bind_ok graded
  cases made
  rfl

theorem valid_of_classify {index : OverrideIndex} {conflicts : List Conflict}
    (classified : classify index popularity threshold = .ok conflicts) :
    ∀ conflict ∈ conflicts, conflict.Valid := by
  unfold classify at classified
  generalize kept : (index.methods.filter fun entry => 2 ≤ entry.2.length) = entries at classified
  have shared : ∀ entry ∈ entries, 2 ≤ entry.2.length := by
    intro entry member
    rw [← kept] at member
    exact of_decide_eq_true (List.mem_filter.mp member).2
  clear kept
  induction entries generalizing conflicts with
  | nil =>
    cases classified
    exact List.forall_mem_nil _
  | cons entry rest ih =>
    rw [List.mapM_cons] at classified
    obtain ⟨first, graded, classified⟩ := exists_of_bind_ok classified
    obtain ⟨others, gradedRest, classified⟩ := exists_of_bind_ok classified
    cases classified
    obtain ⟨two, sharedRest⟩ := List.forall_mem_cons.mp shared
    refine List.forall_mem_cons.mpr ⟨?_, ih gradedRest sharedRest⟩
    rw [Valid, plugins_of_grade graded]
    exact two

/-- Without a number to compare with, the first method to be graded is the last. -/
theorem classify_eq (noNumber : threshold.number? = none) (index : OverrideIndex) :
    classify index popularity threshold =
      match index.methods.find? fun entry => 2 ≤ entry.2.length with
      | none => .ok []
      | some entry =>
        .error ⟨(popularity.score (Script.Signature.split entry.1).1).toValue.kind, threshold.fullKind⟩ := by
  rw [classify, ← List.head?_filter]
  cases index.methods.filter fun entry => 2 ≤ entry.2.length with
  | nil => rfl
  | cons entry rest =>
    rw [List.mapM_cons, grade_eq_error noNumber]
    rfl

def gradeChecked (naming : Naming) (popularity : Popularity) (threshold : Value) (method : String)
    (plugins : List String) : Except Failure Conflict := do
  let conflict ← (grade popularity threshold method plugins).mapError .incomparable
  (reader (conflict.toValue naming)).result

theorem gradeChecked_eq {plugins : List String} (two : 2 ≤ plugins.length) (naming : Naming) (method : String) :
    gradeChecked naming popularity threshold method plugins =
      (grade popularity threshold method plugins).mapError .incomparable := by
  rw [gradeChecked]
  cases made : grade popularity threshold method plugins with
  | error what => rfl
  | ok conflict =>
    have valid : conflict.Valid := by rwa [Valid, plugins_of_grade made]
    change (reader (conflict.toValue naming)).result = .ok conflict
    rw [reader_toValue valid]
    rfl

end Conflict

namespace ConflictReport

theorem detect_eq {plugins : List Plugin} (valid : ∀ plugin ∈ plugins, plugin.Valid) (popularity : Popularity)
    {threshold : Value} (noNumber : threshold.number? = none) :
    detect plugins popularity threshold =
      match firstShared? plugins with
      | none => .ok (build [] (OverrideIndex.ofPlugins plugins).totalOverrides)
      | some signature =>
        .error ⟨(popularity.score (Script.Signature.split signature).1).toValue.kind, threshold.fullKind⟩ := by
  rw [← OverrideIndex.find?_shared valid, detect, Conflict.classify_eq noNumber]
  cases (OverrideIndex.ofPlugins plugins).methods.find? fun entry => 2 ≤ entry.2.length <;> rfl

/-- Detection that checks the data of each conflict and of the report as soon as it has them. -/
def detectChecked (naming : Naming) (plugins : List Plugin) (popularity : Popularity) (threshold : Value) :
    Except Failure ConflictReport := do
  let index := OverrideIndex.ofPlugins plugins
  let conflicts ← (index.methods.filter fun entry => 2 ≤ entry.2.length).mapM fun entry =>
    Conflict.gradeChecked naming popularity threshold entry.1 entry.2
  (reader ((build conflicts index.totalOverrides).toValue naming)).result

theorem valid_build {conflicts : List Conflict} (valid : ∀ conflict ∈ conflicts, conflict.Valid)
    (totalOverrides : Int) : (build conflicts totalOverrides).Valid where
  conflicts conflict member := valid conflict ((perm_build conflicts totalOverrides).mem_iff.mp member)
  health := rfl

/-- No check of a conflict or of the report fails, whatever the plugins are. -/
theorem detectChecked_eq (naming : Naming) (plugins : List Plugin) (popularity : Popularity) (threshold : Value) :
    detectChecked naming plugins popularity threshold =
      (detect plugins popularity threshold).mapError .incomparable := by
  have classified : ((OverrideIndex.ofPlugins plugins).methods.filter fun entry => 2 ≤ entry.2.length).mapM
      (fun entry => Conflict.gradeChecked naming popularity threshold entry.1 entry.2) =
        (Conflict.classify (.ofPlugins plugins) popularity threshold).mapError .incomparable := by
    refine mapM_eq_mapError fun entry member => Conflict.gradeChecked_eq ?_ naming entry.1
    exact of_decide_eq_true (List.mem_filter.mp member).2
  rw [detectChecked, classified, detect]
  cases made : Conflict.classify (.ofPlugins plugins) popularity threshold with
  | error what => rfl
  | ok conflicts =>
    have valid := valid_build (Conflict.valid_of_classify made) (OverrideIndex.ofPlugins plugins).totalOverrides
    change (reader ((build conflicts _).toValue naming)).result = .ok (build conflicts _)
    rw [reader_toValue valid]
    rfl

variable {plugins : List Plugin}

theorem detect_eq_error_iff (valid : ∀ plugin ∈ plugins, plugin.Valid) (popularity : Popularity) (threshold : Value)
    (what : Incomparable) :
    detect plugins popularity threshold = .error what ↔
      ¬ threshold.Numeric ∧ ∃ signature, firstShared? plugins = some signature ∧
        what = ⟨(popularity.score (Script.Signature.split signature).1).toValue.kind, threshold.fullKind⟩ := by
  by_cases numeric : threshold.Numeric
  · obtain ⟨limit, isNumber⟩ := Value.exists_number numeric
    simp [detect_of_number isNumber, numeric]
  · rw [detect_eq valid popularity ((Value.number?_eq_none_iff threshold).mpr numeric)]
    cases firstShared? plugins with
    | none => simp
    | some signature => simp [numeric, eq_comm]

/-- Detection fails just if it has to compare with what is no number, and it names what stands on both sides. No check
of what it makes ever fails. But there is no detection with popularity data in which there is an integer too long for a
remark. -/
theorem detect_outcome {headers : List Header} {data : Value} {entries : Value.Entries}
    (accepted : List.Forall₂ Header.Accepted headers plugins) (mapping : data.entries? = some entries)
    (naming : Naming) (threshold : Value) :
    ((∀ entry ∈ Popularity.classes entries, Popularity.isLegible entry = true) →
      ∃ popularity records, (Popularity.ofOptionalData data).run = (.ok popularity, records) ∧
        detectChecked naming plugins popularity threshold =
          (detect plugins popularity threshold).mapError .incomparable ∧
        ((∃ what, detect plugins popularity threshold = .error what) ↔
          ¬ threshold.Numeric ∧ ∃ signature, 2 ≤ (overriders plugins signature).length) ∧
        ∀ what, detect plugins popularity threshold = .error what →
          ∃ signature, firstShared? plugins = some signature ∧
            what.left = (popularity.score (Script.Signature.split signature).1).toValue.kind ∧
            (Failure.incomparable what).label = "TypeError" ∧
            (Failure.incomparable what).message =
              s!"'>=' not supported between instances of '{what.left}' and '{threshold.fullKind}'") ∧
      ((∃ entry ∈ Popularity.classes entries, Popularity.isLegible entry = false) →
        ∃ records, (Popularity.ofOptionalData data).run =
          (.error (.data (.unwritableInteger Number.digitLimit)), records)) := by
  have valid := Header.valid_of_accepted accepted
  have fails := detect_eq_error_iff valid (Popularity.ofEntries entries) threshold
  rw [Popularity.ofOptionalData_of_entries? mapping]
  refine ⟨fun legible => ⟨_, _, Popularity.run_ofData_of_legible mapping legible, detectChecked_eq .., ?_, ?_⟩,
    Popularity.run_ofData_of_illegible mapping⟩
  · rw [← isSome_firstShared?_iff, Option.isSome_iff_exists]
    constructor
    · rintro ⟨what, failed⟩
      obtain ⟨noNumber, signature, first, -⟩ := (fails what).mp failed
      exact ⟨noNumber, signature, first⟩
    · rintro ⟨noNumber, signature, first⟩
      exact ⟨_, (fails _).mpr ⟨noNumber, signature, first, rfl⟩⟩
  · intro what failed
    obtain ⟨-, signature, first, rfl⟩ := (fails what).mp failed
    exact ⟨signature, first, rfl, rfl, rfl⟩

def weatherEntries : Value.Entries :=
  [(.text "Map", .record [("popularity", .float (.finite false 25 (-1)))])]

theorem detect_outcome_weather :
    List.Forall₂ Header.Accepted (weatherData.map .data) weatherPlugins ∧
      firstShared? weatherPlugins = some "Map.prototype.update" ∧
      ∃ popularity records, (Popularity.ofOptionalData (.map weatherEntries)).run = (.ok popularity, records) ∧
        ∃ what, detect weatherPlugins popularity (.text "ten") = .error what ∧ what.left = "float" ∧
          (Failure.incomparable what).message = "'>=' not supported between instances of 'float' and 'str'" := by
  have first : firstShared? weatherPlugins = some "Map.prototype.update" := by decide
  have two : 2 ≤ (overriders weatherPlugins "Map.prototype.update").length := by decide
  have legible : ∀ entry ∈ Popularity.classes weatherEntries, Popularity.isLegible entry = true := by decide +kernel
  have mapping : (Value.map weatherEntries).entries? = some weatherEntries := rfl
  obtain ⟨popularity, records, read, -, fails, names⟩ :=
    (detect_outcome accepted_weather mapping .camel (.text "ten")).1 legible
  obtain ⟨what, failed⟩ := fails.mpr ⟨id, _, two⟩
  obtain ⟨signature, isFirst, left, -, message⟩ := names what failed
  have same : signature = "Map.prototype.update" := Option.some.inj (isFirst.symm.trans first)
  have isFloat : what.left = "float" := by
    have isRead := (Popularity.run_ofData_of_legible mapping legible).symm.trans read
    cases isRead
    rw [left, same]
    decide +kernel
  rw [isFloat] at message
  exact ⟨accepted_weather, first, popularity, records, read, what, failed, isFloat, message⟩

theorem detection_refuses_long :
    List.Forall₂ Header.Accepted (weatherData.map .data) weatherPlugins ∧ (Value.int 10).Numeric ∧
      ∃ records, (Popularity.ofOptionalData (.record [("Map", .list [.int (10 ^ Number.digitLimit)])])).run =
        (.error (.data (.unwritableInteger Number.digitLimit)), records) := by
  refine ⟨accepted_weather, trivial, ?_⟩
  rw [Popularity.ofOptionalData_of_entries? rfl]
  exact Popularity.run_ofData_of_illegible rfl
    ⟨_, List.mem_singleton_self _, Popularity.isLegible_list Value.not_isWritable_power "Map"⟩

end ConflictReport

end PluginAudit
