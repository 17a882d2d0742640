import Mathlib
import PluginAudit.Conflict.Gate
import PluginAudit.Proofs.Conflict.Reordering

namespace PluginAudit

namespace Exact

def Proper : Exact → Prop
  | fraction _ den => 0 < den
  | _ => True

theorem proper_ofBinary64 (x : Binary64) : (ofBinary64 x).Proper := by
  cases x with
  | nan => trivial
  | infinite negative => cases negative <;> trivial
  | finite negative m e =>
    change 0 < (Binary64.ratio m e).2
    unfold Binary64.ratio
    split
    · exact Nat.pow_pos (by decide)
    · exact Nat.one_pos

theorem proper_of_number {v : Value} {x : Exact} (numeric : v.number? = some x) : x.Proper := by
  cases v with
  | bool b => cases numeric; exact Nat.one_pos
  | int n => cases numeric; exact Nat.one_pos
  | float y => cases numeric; exact proper_ofBinary64 y
  | _ => cases numeric

/-- Through a number in between; a denominator of zero there would compare with everything. -/
theorem le_trans {a b c : Exact} (proper : b.Proper) (first : a.le b = true) (second : b.le c = true) :
    a.le c = true := by
  cases b with
  | nan => cases a <;> simp [le] at first
  | below =>
    cases a <;> simp [le] at first
    exact second
  | above =>
    cases c <;> simp [le] at second
    cases a <;> simp_all [le]
  | fraction n d =>
    cases a with
    | nan => simp [le] at first
    | above => simp [le] at first
    | below => cases c <;> simp_all [le]
    | fraction m e =>
      cases c with
      | nan => simp [le] at second
      | below => simp [le] at second
      | above => rfl
      | fraction k f =>
        simp only [le, decide_eq_true_eq] at first second ⊢
        -- Both fractions are compared with `n / d`, so the products meet at a common factor `d`.
        have positive : (0 : Int) < d := Int.natCast_pos.mpr proper
        apply le_of_mul_le_mul_right _ positive
        calc m * f * d = m * d * f := by ring
          _ ≤ n * e * f := Int.mul_le_mul_of_nonneg_right first (Int.natCast_nonneg f)
          _ = n * f * e := by ring
          _ ≤ k * d * e := Int.mul_le_mul_of_nonneg_right second (Int.natCast_nonneg e)
          _ = k * e * d := by ring

end Exact

theorem overriders_sublist {plugins more : List Plugin} (sublist : plugins.Sublist more) (signature : String) :
    (overriders plugins signature).Sublist (overriders more signature) :=
  sublist.filter _

theorem Conflict.warning_of_le (popularity : Popularity) {limit lower : Exact} (proper : limit.Proper)
    (less : lower.le limit = true) (method : String) (plugins more : List String)
    (warning : (graded popularity limit method plugins).severity = .warning) :
    (graded popularity lower method more).severity = .warning := by
  rw [severity_graded] at warning ⊢
  exact Exact.le_trans proper less warning

namespace ConflictReport

/-- Each conflict of a report is in a later one, on the same method and with all its plugins in their order. The
relation says which severities it may have before and after. -/
def Kept (severities : Severity → Severity → Prop) (report later : ConflictReport) : Prop :=
  ∀ conflict ∈ report.conflicts, ∃ kept ∈ later.conflicts,
    kept.method = conflict.method ∧ kept.className = conflict.className ∧ kept.methodName = conflict.methodName ∧
      conflict.plugins.Sublist kept.plugins ∧ severities conflict.severity kept.severity

/-- A warning stays a warning. -/
def NotMilder (before after : Severity) : Prop :=
  before = .warning → after = .warning

theorem kept_of_sublist {plugins more : List Plugin} (valid : ∀ plugin ∈ more, plugin.Valid)
    (sublist : plugins.Sublist more) (popularity : Popularity) {limit lower : Exact}
    {severities : Severity → Severity → Prop}
    (graded : ∀ method names names', severities (Conflict.graded popularity limit method names).severity
      (Conflict.graded popularity lower method names').severity) :
    (ofPlugins plugins popularity limit).Kept severities (ofPlugins more popularity lower) := by
  intro conflict member
  have validPlugins : ∀ plugin ∈ plugins, plugin.Valid := fun plugin found => valid plugin (sublist.subset found)
  obtain ⟨two, same⟩ := (mem_conflicts_iff validPlugins popularity limit conflict).mp member
  have overridden := overriders_sublist sublist conflict.method
  have twoMore : 2 ≤ (overriders more conflict.method).length := two.trans overridden.length_le
  refine ⟨Conflict.graded popularity lower conflict.method ((overriders more conflict.method).map (·.name)),
    (mem_conflicts_iff valid popularity lower _).mpr ⟨twoMore, rfl⟩, ?_⟩
  rw [same]
  exact ⟨rfl, rfl, rfl, overridden.map _, graded _ _ _⟩

theorem Kept.imp {severities others : Severity → Severity → Prop} {report later : ConflictReport}
    (implies : ∀ before after, severities before after → others before after) (kept : report.Kept severities later) :
    report.Kept others later := by
  intro conflict member
  obtain ⟨found, memberLater, method, className, methodName, plugins, severity⟩ := kept conflict member
  exact ⟨found, memberLater, method, className, methodName, plugins, implies _ _ severity⟩

theorem stops_info_iff (report : ConflictReport) :
    report.stops .info = true ↔ ∃ conflict, conflict ∈ report.conflicts := by
  simp only [stops, Bool.not_eq_true', List.isEmpty_eq_false_iff_exists_mem]

theorem stops_warning_iff (report : ConflictReport) :
    report.stops .warning = true ↔ ∃ conflict ∈ report.conflicts, conflict.severity = .warning := by
  simp only [stops, List.any_eq_true, decide_eq_true_eq]

theorem stops_of_kept {report later : ConflictReport} (kept : report.Kept NotMilder later) (failOn : FailOn)
    (stopped : report.stops failOn = true) : later.stops failOn = true := by
  cases failOn with
  | never => exact stopped
  | info =>
    rw [stops_info_iff] at stopped ⊢
    obtain ⟨conflict, member⟩ := stopped
    obtain ⟨found, memberLater, _⟩ := kept conflict member
    exact ⟨found, memberLater⟩
  | warning =>
    rw [stops_warning_iff] at stopped ⊢
    obtain ⟨conflict, member, warning⟩ := stopped
    obtain ⟨found, memberLater, _, _, _, _, notMilder⟩ := kept conflict member
    exact ⟨found, memberLater, notMilder warning⟩

theorem exitCode_eq_stopped_iff (failOn : FailOn) (report : Option ConflictReport) :
    exitCode failOn report = stoppedCode ↔ report.any (stops failOn) = true := by
  simp [exitCode, stoppedCode]

theorem exitCode_of_kept {report later : ConflictReport} (kept : report.Kept NotMilder later) (failOn : FailOn)
    (stopped : exitCode failOn (some report) = stoppedCode) : exitCode failOn (some later) = stoppedCode := by
  rw [exitCode_eq_stopped_iff, Option.any_some] at stopped ⊢
  exact stops_of_kept kept failOn stopped

theorem exitCode_info_of_warning {report : Option ConflictReport} (stopped : exitCode .warning report = stoppedCode) :
    exitCode .info report = stoppedCode := by
  rw [exitCode_eq_stopped_iff] at stopped ⊢
  cases report with
  | none => exact stopped
  | some report =>
    rw [Option.any_some] at stopped ⊢
    obtain ⟨conflict, member, _⟩ := (stops_warning_iff report).mp stopped
    exact (stops_info_iff report).mpr ⟨conflict, member⟩

/-- One more plugin, anywhere in the load order, and a lower threshold each keep all conflicts and all stops. -/
theorem detect_monotone {before after : List Header} {header : Header} {first last : List Plugin} {plugin : Plugin}
    (acceptedFirst : List.Forall₂ Header.Accepted before first)
    (acceptedLast : List.Forall₂ Header.Accepted after last) (accepted : header.Accepted plugin)
    (popularity : Popularity) {threshold lowered : Value} {limit lower : Exact}
    (numeric : threshold.number? = some limit) (numericLowered : lowered.number? = some lower)
    (less : lower.le limit = true) (failOn : FailOn) :
    ∃ report inserted strict,
      detect (first ++ last) popularity threshold = .ok report ∧
      detect (first ++ plugin :: last) popularity threshold = .ok inserted ∧
      detect (first ++ last) popularity lowered = .ok strict ∧
      report.Kept (· = ·) inserted ∧
      inserted.totalOverrides = report.totalOverrides + plugin.overrides.length ∧
      report.Kept NotMilder strict ∧
      (exitCode failOn (some report) = stoppedCode →
        exitCode failOn (some inserted) = stoppedCode ∧ exitCode failOn (some strict) = stoppedCode) ∧
      ∀ result, exitCode .warning result = stoppedCode → exitCode .info result = stoppedCode := by
  have valid : ∀ other ∈ first ++ plugin :: last, other.Valid :=
    Header.valid_of_accepted (List.rel_append acceptedFirst (.cons accepted acceptedLast))
  have sublist : (first ++ last).Sublist (first ++ plugin :: last) :=
    (List.sublist_cons_self plugin last).append_left first
  have insertion : (ofPlugins (first ++ last) popularity limit).Kept (· = ·)
      (ofPlugins (first ++ plugin :: last) popularity limit) :=
    kept_of_sublist valid sublist popularity fun _ _ _ => rfl
  have lowering : (ofPlugins (first ++ last) popularity limit).Kept NotMilder
      (ofPlugins (first ++ last) popularity lower) :=
    kept_of_sublist (fun other found => valid other (sublist.subset found)) (.refl _) popularity
      (Conflict.warning_of_le popularity (Exact.proper_of_number numeric) less)
  have total : (ofPlugins (first ++ plugin :: last) popularity limit).totalOverrides =
      (ofPlugins (first ++ last) popularity limit).totalOverrides + plugin.overrides.length := by
    simp only [totalOverrides_eq, List.map_append, List.map_cons, List.sum_append, List.sum_cons]
    omega
  refine ⟨_, _, _, detect_of_number numeric _ _, detect_of_number numeric _ _, detect_of_number numericLowered _ _,
    insertion, total, lowering, ?_, fun _ => exitCode_info_of_warning⟩
  intro stopped
  constructor
  · exact exitCode_of_kept (insertion.imp fun _ _ same warning => same.symm.trans warning) failOn stopped
  · exact exitCode_of_kept lowering failOn stopped

/-- A third plugin between two, and a threshold lowered from ten to one half. -/
theorem detect_monotone_season :
    List.Forall₂ Header.Accepted ((seasonData.take 1).map .data) (seasonPlugins.take 1) ∧
      List.Forall₂ Header.Accepted ((seasonData.drop 2).map .data) (seasonPlugins.drop 2) ∧
      Header.Accepted (.data (.record [("name", .text "Clock"), ("overrides", .text "Map.prototype.update")]))
        ⟨"", "Clock", ["Map.prototype.update"], [], [], [], ""⟩ ∧
      Value.number? (.int 10) = some (.ofInt 10) ∧
      Value.number? (.float (.finite false 1 (-1))) = some (.fraction 1 2) ∧
      (Exact.fraction 1 2).le (.ofInt 10) = true ∧
      ∃ report inserted strict,
        detect (seasonPlugins.take 1 ++ seasonPlugins.drop 2) ⟨[("Map", .whole 12)]⟩ (.int 10) = .ok report ∧
        detect seasonPlugins ⟨[("Map", .whole 12)]⟩ (.int 10) = .ok inserted ∧
        detect (seasonPlugins.take 1 ++ seasonPlugins.drop 2) ⟨[("Map", .whole 12)]⟩
          (.float (.finite false 1 (-1))) = .ok strict ∧
        report.Kept (· = ·) inserted ∧ inserted.totalOverrides = report.totalOverrides + 1 ∧
        report.Kept NotMilder strict ∧
        (exitCode .warning (some report) = stoppedCode →
          exitCode .warning (some inserted) = stoppedCode ∧ exitCode .warning (some strict) = stoppedCode) ∧
        ∀ result, exitCode .warning result = stoppedCode → exitCode .info result = stoppedCode := by
  have acceptedFirst : List.Forall₂ Header.Accepted ((seasonData.take 1).map .data) (seasonPlugins.take 1) :=
    .cons (.data rfl) .nil
  have acceptedLast : List.Forall₂ Header.Accepted ((seasonData.drop 2).map .data) (seasonPlugins.drop 2) :=
    .cons (.data rfl) .nil
  have accepted : Header.Accepted
      (.data (.record [("name", .text "Clock"), ("overrides", .text "Map.prototype.update")]))
      ⟨"", "Clock", ["Map.prototype.update"], [], [], [], ""⟩ := .data rfl
  exact ⟨acceptedFirst, acceptedLast, accepted, rfl, rfl, rfl,
    detect_monotone acceptedFirst acceptedLast accepted _ rfl rfl rfl .warning⟩

end ConflictReport

end PluginAudit
