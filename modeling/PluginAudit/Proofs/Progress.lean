import PluginAudit.Progress
import PluginAudit.Proofs.Console.Tint
import PluginAudit.Proofs.Number.Magnitude
import PluginAudit.Proofs.Value.Writable

namespace PluginAudit

namespace Stage

open PluginAudit.Binary64 (Within Beyond limit le_limit within_ofRatio beyond_ofRatio)

theorem exists_percent {place : Binary64} {bound : ℚ} (within : Within bound place) (inRange : bound * 201 ≤ limit) :
    ∃ n, Progress.percent place = .ok n := by
  have hundred : Within 201 (Binary64.ofInt 100) :=
    (@within_ofRatio 100 1 Nat.one_pos 100 (by norm_num) (le_limit (by norm_num)) false).mono (by norm_num)
  obtain ⟨negative, m, e, finite, -⟩ := within.mul hundred inRange
  unfold Progress.percent
  rw [finite]
  exact ⟨_, rfl⟩

theorem within_tenths {n : Nat} (small : n ≤ 10) : Within 3 (Binary64.ofRatio false n 10) := by
  have share : (n : ℚ) / (10 : Nat) ≤ 1 := by
    rw [div_le_one (by norm_num)]
    exact_mod_cast small
  exact (within_ofRatio (by decide) share (le_limit (by norm_num)) false).mono (by norm_num)

theorem within_start (stage : Stage) : Within 3 stage.start := by
  cases stage with
  | scan => exact ⟨false, 0, Binary64.leastExponent, rfl, by simp⟩
  | dependencies => exact @within_tenths 6 (by decide)
  | conflicts => exact @within_tenths 8 (by decide)

theorem within_stop (stage : Stage) : Within 3 stage.stop := by
  cases stage with
  | scan => exact @within_tenths 6 (by decide)
  | dependencies => exact @within_tenths 8 (by decide)
  | conflicts =>
    have one := @within_ofRatio 1 1 (by decide) 1 (by norm_num) (le_limit (by norm_num)) false
    exact one.mono (by norm_num)

theorem exists_percent_start (stage : Stage) : ∃ n, Progress.percent stage.start = .ok n :=
  exists_percent stage.within_start (le_limit (by norm_num))

theorem exists_percent_stop (stage : Stage) : ∃ n, Progress.percent stage.stop = .ok n :=
  exists_percent stage.within_stop (le_limit (by norm_num))

theorem within_share (stage : Stage) : Within 13 (stage.stop.sub stage.start) :=
  (stage.within_stop.add stage.within_start.neg (le_limit (by norm_num))).mono (by norm_num)

/-- The number of steps that a bar can show. -/
def stepLimit : Nat :=
  2 ^ 1000

theorem le_stepLimit {n : Nat} (small : n ≤ 1000) : n ≤ stepLimit := by
  unfold stepLimit
  generalize 1000 = exponent at small ⊢
  exact small.trans Nat.lt_two_pow_self.le

theorem two_pow_lt {a b : Nat} (less : a < b) : 2 ^ a < 10 ^ b :=
  (Nat.pow_le_pow_left (by decide) a).trans_lt (Nat.pow_lt_pow_right (by decide) less)

theorem isWritable_of_le {n : Nat} (few : n ≤ stepLimit) : (Value.int n).isWritable = true := by
  unfold stepLimit at few
  exact (Value.isWritable_int_iff n).mpr (few.trans_lt (two_pow_lt (by decide)))

theorem within_float {n : Nat} {bound : ℚ} (small : (n : ℚ) ≤ bound) (inRange : bound ≤ limit) :
    ∃ x, float n = .ok x ∧ Within (2 * bound + 1) x ∧ (0 < n → Beyond x) := by
  have whole : (n : ℚ) / (1 : Nat) = n := by simp
  have within := @within_ofRatio n 1 Nat.one_pos bound (whole.le.trans small) inRange false
  have same : Binary64.ofInt (n : Int) = Binary64.ofRatio false n 1 := rfl
  refine ⟨Binary64.ofRatio false n 1, ?_, within, ?_⟩
  · obtain ⟨negative, m, e, finite, -⟩ := within
    unfold float
    rw [same, finite]
  · intro positive
    exact beyond_ofRatio Nat.one_pos positive (whole.le.trans (small.trans inRange)) false

theorem exists_percent_place (stage : Stage) {done total : Nat} (fewDone : done ≤ stepLimit) (positive : 0 < total)
    (fewTotal : total ≤ stepLimit) :
    ∃ place n, stage.place done total = .ok place ∧ Progress.percent place = .ok n := by
  -- A bound by name, so that linear arithmetic does not compute the power.
  obtain ⟨bound, one, inRange, smallDone, smallTotal⟩ :
      ∃ bound : ℚ, 1 ≤ bound ∧ 2 ^ 20 * bound ≤ limit ∧ (done : ℚ) ≤ bound ∧ (total : ℚ) ≤ bound := by
    refine ⟨2 ^ 1000, one_le_pow₀ one_le_two, ?_, by exact_mod_cast fewDone, by exact_mod_cast fewTotal⟩
    unfold limit
    rw [← pow_add]
  obtain ⟨x, isDone, within, -⟩ := within_float smallDone (by linarith)
  obtain ⟨y, isTotal, -, beyond⟩ := within_float smallTotal (by linarith)
  have product := stage.within_share.mul within (by linarith)
  have quotient := product.div (beyond positive) (by linarith)
  have place := stage.within_start.add quotient (by linarith)
  obtain ⟨n, isPercent⟩ := exists_percent place (by linarith)
  refine ⟨_, n, ?_, isPercent⟩
  unfold Stage.place
  rw [isDone, isTotal]
  rfl

end Stage

namespace Progress

open PluginAudit.Markup (Drawable)

structure Showing (progress : Progress) : Prop where
  enabled : progress.enabled = true
  former : ∀ text ∈ progress.former, Drawable text
  task : ∀ task, progress.task = some task → Drawable task.description

def Usable (shown : List Marked) : Prop :=
  ∀ marked ∈ shown, ∀ span ∈ marked.spans, Style.check span.style = .ok ()

theorem ends_readAll {texts : List String} (drawable : ∀ text ∈ texts, Drawable text) (before : Progress → Prop) :
    ∃ shown, Usable shown ∧
      Ends (texts.mapM fun text => Act.ofExcept ((Markup.read text).mapError .markup)) before (.ok shown) before := by
  induction texts with
  | nil => exact ⟨[], nofun, Ends.pure _ _⟩
  | cons text rest ih =>
    obtain ⟨⟨marked, isRead, usable⟩, others⟩ := List.forall_mem_cons.mp drawable
    obtain ⟨shown, usableRest, ends⟩ := ih others
    refine ⟨marked :: shown, List.forall_mem_cons.mpr ⟨usable, usableRest⟩, ?_⟩
    rw [List.mapM_cons, isRead]
    exact Ends.bind (Ends.ofExcept _ _) (Ends.bind ends (Ends.pure _ _))

theorem ends_descriptions {progress : Progress} (showing : progress.Showing) :
    ∃ shown, Usable shown ∧ Ends descriptions (· = progress) (.ok shown) (· = progress) := by
  have drawable : ∀ text ∈ progress.former ++ progress.task.toList.map Task.description, Drawable text := by
    intro text member
    rcases List.mem_append.mp member with former | current
    · exact showing.former text former
    · obtain ⟨task, isTask, rfl⟩ := List.mem_map.mp current
      exact showing.task task (Option.mem_toList.mp isTask)
  obtain ⟨shown, usable, ends⟩ := ends_readAll drawable (· = progress)
  exact ⟨shown, usable, Ends.bind (Ends.get progress) ends⟩

theorem ends_draw {shown : List Marked} (usable : Usable shown) (before : Progress → Prop) :
    Ends (draw shown) before (.ok ()) before := by
  refine Ends.forM fun marked member => ?_
  rw [Markup.check_of_usable (usable marked member)]
  exact Ends.ofExcept _ _

theorem Showing.withTask {progress : Progress} (showing : progress.Showing) {description : String}
    (drawable : Drawable description) (live : Bool) (completed : Int) :
    Showing { progress with live, task := some ⟨description, completed⟩ } where
  enabled := showing.enabled
  former := showing.former
  task := by
    rintro _ ⟨rfl⟩
    exact drawable

theorem ends_update {description : String} (drawable : Drawable description) {place : Binary64} {n : Int}
    (isPercent : percent place = .ok n) : Ends (update description place) Showing (.ok ()) Showing := by
  have moved : Ends (do
      let completed ← Act.ofExcept ((percent place).mapError .data)
      modify fun progress => { progress with task := some ⟨description, completed⟩ }) Showing (.ok ()) Showing := by
    rw [isPercent]
    refine Ends.bind (Ends.ofExcept (.ok n) _) (Ends.modify ?_)
    exact fun progress showing => showing.withTask drawable progress.live n
  intro progress showing
  obtain ⟨shown, -, described⟩ := ends_descriptions showing
  refine Ends.bind (Ends.get progress) ?_ progress rfl
  dsimp only
  split
  · refine Ends.bind (Ends.map (fun _ => ()) described) (Ends.bind (Ends.modify ?_) moved)
    rintro _ rfl
    exact showing.withTask drawable true 0
  · rintro state rfl
    exact moved state showing

theorem drawable_of_toList {text : String} {before word inside behind : List Char}
    (written : text.toList = Markup.tinted before word inside behind) (isTint : Markup.IsTint word)
    (plainBefore : ∀ c ∈ before, c ≠ '[' ∧ c ≠ '\\') (plainInside : ∀ c ∈ inside, c ≠ '[' ∧ c ≠ '\\')
    (free : '[' ∉ behind) : Drawable text := by
  have drawable := Markup.drawable_tinted isTint plainBefore plainInside free
  rw [← written, String.ofList_toList] at drawable
  exact drawable

theorem plain_label (stage : Stage) : ∀ c ∈ stage.label.toList, c ≠ '[' ∧ c ≠ '\\' := by
  cases stage <;> simp [Stage.label]

theorem plain_toString (n : Nat) : ∀ c ∈ (toString n).toList, c ≠ '[' ∧ c ≠ '\\' := by
  intro c member
  have among : c ∈ Nat.toDigits 10 n := by simpa using member
  have digit : c.isDigit = true := Nat.isDigit_of_mem_toDigits (by decide) (by decide) among
  constructor <;> rintro rfl <;> exact absurd digit (by decide)

theorem free_toString (n : Nat) : '[' ∉ (toString n).toList :=
  fun member => (plain_toString n _ member).1 rfl

theorem drawable_start (stage : Stage) : Drawable s!"[cyan]{stage.label}[/cyan]" := by
  have written : (s!"[cyan]{stage.label}[/cyan]").toList =
      Markup.tinted [] "cyan".toList stage.label.toList [] := by
    change ("[cyan]" ++ stage.label ++ "[/cyan]").toList = _
    simp [Markup.tinted]
  exact drawable_of_toList written (Markup.isTint_of_mem (by decide)) (List.forall_mem_nil _) (plain_label stage) List.not_mem_nil

theorem drawable_advance (stage : Stage) (done total : Nat) :
    Drawable s!"[cyan]{stage.label} ({(done : Int)}/{(total : Int)})[/cyan]" := by
  have written : (s!"[cyan]{stage.label} ({(done : Int)}/{(total : Int)})[/cyan]").toList =
      Markup.tinted [] "cyan".toList
        (stage.label.toList ++ " (".toList ++ (toString done).toList ++ "/".toList ++ (toString total).toList ++
          ")".toList)
        [] := by
    change ("[cyan]" ++ stage.label ++ " (" ++ toString done ++ "/" ++ toString total ++ ")[/cyan]").toList = _
    simp [Markup.tinted]
  refine drawable_of_toList written (Markup.isTint_of_mem (by decide)) (List.forall_mem_nil _) ?_ List.not_mem_nil
  have label := plain_label stage
  have numbers := plain_toString
  simp only [List.forall_mem_append]
  exact ⟨⟨⟨⟨⟨label, by simp⟩, numbers done⟩, by simp⟩, numbers total⟩, by simp⟩

theorem drawable_complete {summary : String} (free : '[' ∉ summary.toList) :
    Drawable s!"[green]✓[/green] {summary}" := by
  have written : (s!"[green]✓[/green] {summary}").toList =
      Markup.tinted [] "green".toList "✓".toList (' ' :: summary.toList) := by
    change ("[green]✓[/green] " ++ summary).toList = _
    simp [Markup.tinted]
  refine drawable_of_toList written (Markup.isTint_of_mem (by decide)) (List.forall_mem_nil _) (by simp) ?_
  simpa using free

theorem drawable_note (kind : NoteKind) {message : String} (free : '[' ∉ message.toList) :
    Drawable s!"  {marker kind} {message}" := by
  have behind : '[' ∉ ' ' :: message.toList := by simpa using free
  cases kind with
  | warning =>
    have written : (s!"  {marker .warning} {message}").toList =
        Markup.tinted "  ".toList "yellow".toList "⚠".toList (' ' :: message.toList) := by
      change ("  " ++ "[yellow]⚠[/yellow]" ++ " " ++ message).toList = _
      simp [Markup.tinted]
    exact drawable_of_toList written (Markup.isTint_of_mem (by decide)) (by simp) (by simp) behind
  | error =>
    have written : (s!"  {marker .error} {message}").toList =
        Markup.tinted "  ".toList "red".toList "✗".toList (' ' :: message.toList) := by
      change ("  " ++ "[red]✗[/red]" ++ " " ++ message).toList = _
      simp [Markup.tinted]
    exact drawable_of_toList written (Markup.isTint_of_mem (by decide)) (by simp) (by simp) behind

theorem ends_startStage (stage : Stage) : Ends (startStage stage) Showing (.ok ()) Showing := by
  obtain ⟨n, isPercent⟩ := stage.exists_percent_start
  intro progress showing
  refine Ends.bind (Ends.get progress) ?_ progress rfl
  rw [if_pos showing.enabled]
  refine Ends.bind (Ends.modify ?_) (ends_update (drawable_start stage) isPercent)
  rintro _ rfl
  exact ⟨showing.enabled, showing.former, showing.task⟩

theorem ends_currentStage {progress : Progress} (showing : progress.Showing) :
    Ends currentStage (· = progress) (.ok progress.stage) Showing := by
  rintro state rfl
  refine ⟨state, ?_, showing⟩
  change (Except.ok (if state.enabled then state.stage else none), state) = _
  rw [if_pos showing.enabled]

theorem pace_eq (stage : Stage) {done total : Nat} (fewDone : done ≤ Stage.stepLimit)
    (fewTotal : total ≤ Stage.stepLimit) :
    pace stage done total = .ok s!"[cyan]{stage.label} ({(done : Int)}/{(total : Int)})[/cyan]" := by
  have writable : ∀ n : Nat, n ≤ Stage.stepLimit → (Value.int n).display = .ok (toString (n : Int)) :=
    fun n few => Value.display_of_isWritable (Stage.isWritable_of_le few)
  rw [pace, writable done fewDone, writable total fewTotal]
  rfl

theorem ends_advance {done total : Nat} (fewDone : done ≤ Stage.stepLimit) (fewTotal : total ≤ Stage.stepLimit) :
    Ends (advance done total) Showing (.ok ()) Showing := by
  intro progress showing
  refine Ends.bind (ends_currentStage showing) ?_ progress rfl
  cases progress.stage with
  | none => exact Ends.pure _ _
  | some stage =>
    dsimp only
    split
    · rename_i positive
      obtain ⟨place, n, isPlace, isPercent⟩ := stage.exists_percent_place fewDone (by omega) fewTotal
      rw [isPlace, pace_eq stage fewDone fewTotal]
      refine Ends.bind (Ends.ofExcept (.ok _) _) ?_
      exact Ends.bind (Ends.ofExcept (.ok place) _) (ends_update (drawable_advance stage done total) isPercent)
    · exact Ends.pure _ _

theorem ends_completeStage {summary : String} (free : '[' ∉ summary.toList) :
    Ends (completeStage summary) Showing (.ok ()) Showing := by
  intro progress showing
  refine Ends.bind (ends_currentStage showing) ?_ progress rfl
  cases progress.stage with
  | none => exact Ends.pure _ _
  | some stage =>
    obtain ⟨n, isPercent⟩ := stage.exists_percent_stop
    refine Ends.bind (ends_update (drawable_complete free) isPercent) (Ends.modify ?_)
    exact fun progress showing => ⟨showing.enabled, showing.former, showing.task⟩

theorem ends_takeDown : Ends takeDown Showing (.ok ()) Showing := by
  intro progress showing
  refine Ends.bind (Ends.get progress) ?_ progress rfl
  split
  · have hidden : Showing { progress with live := false } := ⟨showing.enabled, showing.former, showing.task⟩
    obtain ⟨shown, usable, described⟩ := ends_descriptions hidden
    have drawn : Ends (draw shown) (· = { progress with live := false }) (.ok ()) Showing := by
      rintro _ rfl
      exact ends_draw usable Showing _ hidden
    refine Ends.bind (Ends.modify ?_) (Ends.bind described drawn)
    rintro _ rfl
    rfl
  · rintro _ rfl
    exact Ends.pure () Showing _ showing

theorem ends_finish : Ends finish Showing (.ok ()) Showing := by
  intro progress showing
  refine Ends.bind (Ends.get progress) ?_ progress rfl
  cases isTask : progress.task with
  | none =>
    rintro state rfl
    exact Ends.pure () Showing state showing
  | some task =>
    have ended : Ends (modify fun progress => { progress with stage := none } : Act Unit) Showing (.ok ()) Showing :=
      Ends.modify fun _ showing => ⟨showing.enabled, showing.former, showing.task⟩
    have kept : Ends (modify fun progress =>
        { progress with task := none, former := progress.former ++ [task.description] } : Act Unit)
        Showing (.ok ()) Showing := by
      refine Ends.modify fun later showingLater => ⟨showingLater.enabled, ?_, nofun⟩
      intro text member
      rcases List.mem_append.mp member with before | isTaken
      · exact showingLater.former text before
      · rw [List.mem_singleton.mp isTaken]
        exact showing.task task isTask
    rintro state rfl
    exact Ends.bind ends_takeDown (Ends.bind kept ended) state showing

/-- Whatever an analysis does to a display of a kind succeeds and leaves it of this kind; the pace of a scan apart. -/
structure Steady (enabled : Bool) (calm : Progress → Prop) : Prop where
  enabled : ∀ progress, calm progress → progress.enabled = enabled
  start : ∀ stage, Ends (startStage stage) calm (.ok ()) calm
  complete : ∀ summary, '[' ∉ summary.toList → Ends (completeStage summary) calm (.ok ()) calm
  finish : Ends finish calm (.ok ()) calm

theorem steady_idle : Steady false (· = .idle false) where
  enabled := by
    rintro _ rfl
    rfl
  start stage := by
    rintro _ rfl
    exact ⟨_, rfl, rfl⟩
  complete summary _ := by
    rintro _ rfl
    exact ⟨_, rfl, rfl⟩
  finish := by
    rintro _ rfl
    exact ⟨_, rfl, rfl⟩

theorem ends_advance_idle (done total : Int) :
    Ends (advance done total) (· = .idle false) (.ok ()) (· = .idle false) := by
  rintro _ rfl
  exact ⟨_, rfl, rfl⟩

theorem showing_idle : Showing (.idle true) :=
  ⟨rfl, nofun, nofun⟩

theorem steady_showing : Steady true Showing where
  enabled _ showing := showing.enabled
  start := ends_startStage
  complete _ := ends_completeStage
  finish := ends_finish

end Progress

end PluginAudit
