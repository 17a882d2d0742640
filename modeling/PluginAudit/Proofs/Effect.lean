namespace PluginAudit

variable {ε σ α β : Type}

theorem exists_of_map_ok {f : α → β} {x : Except ε α} {b : β} (mapped : x.map f = .ok b) :
    ∃ a, x = .ok a ∧ f a = b := by
  cases x with
  | error e => cases mapped
  | ok a => exact ⟨a, rfl, Except.ok.inj mapped⟩

theorem map_eq_bind (f : α → β) (x : Except ε α) : x.map f = x >>= fun a => .ok (f a) := by
  cases x <;> rfl

theorem exists_of_bind_ok {x : Except ε α} {f : α → Except ε β} {b : β} (bound : x >>= f = .ok b) :
    ∃ a, x = .ok a ∧ f a = .ok b := by
  cases x with
  | error e => cases bound
  | ok a => exact ⟨a, rfl, bound⟩

theorem ok_of_mapError {f : ε → σ} {x : Except ε α} {a : α} (mapped : x.mapError f = .ok a) : x = .ok a := by
  cases x with
  | error e => cases mapped
  | ok b => exact congrArg _ (Except.ok.inj mapped)

theorem forM_ok {items : List α} {f : α → Except ε PUnit} (each : ∀ item ∈ items, f item = .ok ()) :
    items.forM f = .ok () := by
  induction items with
  | nil => rfl
  | cons item rest ih =>
    obtain ⟨head, tail⟩ := List.forall_mem_cons.mp each
    change (f item >>= fun _ => rest.forM f) = .ok ()
    rw [head]
    exact ih tail

theorem holds_of_foldlM {f : σ → α → Except ε σ} {holds : σ → Prop}
    (step : ∀ {state item next}, f state item = .ok next → holds state → holds next) {items : List α} {first last : σ}
    (folded : items.foldlM f first = .ok last) (start : holds first) : holds last := by
  induction items generalizing first with
  | nil =>
    cases folded
    exact start
  | cons item rest ih =>
    rw [List.foldlM_cons] at folded
    obtain ⟨next, stepped, folded⟩ := exists_of_bind_ok folded
    exact ih folded (step stepped start)

theorem run_bind_of_ok {operation : ExceptT ε (StateM σ) α} {next : α → ExceptT ε (StateM σ) β} {a : α}
    {state between : σ} (ran : (ExceptT.run operation).run state = (.ok a, between)) :
    (ExceptT.run (operation >>= next)).run state = (ExceptT.run (next a)).run between := by
  rw [ExceptT.run_bind, StateT.run_bind, ran]
  rfl

theorem run_bind_of_error {operation : ExceptT ε (StateM σ) α} {e : ε} {state last : σ}
    (ran : (ExceptT.run operation).run state = (.error e, last)) (next : α → ExceptT ε (StateM σ) β) :
    (ExceptT.run (operation >>= next)).run state = (.error e, last) := by
  rw [ExceptT.run_bind, StateT.run_bind, ran]
  rfl

theorem exists_of_run_bind {operation : ExceptT ε (StateM σ) α} {next : α → ExceptT ε (StateM σ) β} {b : β}
    {state last : σ} (ran : (ExceptT.run (operation >>= next)).run state = (.ok b, last)) :
    ∃ a between, (ExceptT.run operation).run state = (.ok a, between) ∧
      (ExceptT.run (next a)).run between = (.ok b, last) := by
  rw [ExceptT.run_bind, StateT.run_bind] at ran
  generalize (ExceptT.run operation).run state = outcome at ran
  obtain ⟨result, between⟩ := outcome
  cases result with
  | error e => cases ran
  | ok a => exact ⟨a, between, rfl, ran⟩

/-- From every state before it, the operation gives this result and leads to a state after it. -/
def Ends (operation : ExceptT ε (StateM σ) α) (before : σ → Prop) (result : Except ε α) (after : σ → Prop) :
    Prop :=
  ∀ state, before state → ∃ next, (ExceptT.run operation).run state = (result, next) ∧ after next

namespace Ends

variable {operation : ExceptT ε (StateM σ) α} {next : α → ExceptT ε (StateM σ) β}
  {before middle after : σ → Prop}

theorem pure (a : α) (before : σ → Prop) : Ends (ε := ε) (pure a) before (.ok a) before :=
  fun state holds => ⟨state, rfl, holds⟩

theorem throw (e : ε) (before : σ → Prop) : Ends (α := α) (throw e) before (.error e) before :=
  fun state holds => ⟨state, rfl, holds⟩

theorem ofExcept (result : Except ε α) (before : σ → Prop) :
    Ends (ExceptT.mk (Pure.pure result)) before result before :=
  fun state holds => ⟨state, rfl, holds⟩

theorem ofOk {result : Except ε α} {a : α} (isOk : result = .ok a) (before : σ → Prop) :
    Ends (ExceptT.mk (Pure.pure result)) before (.ok a) before :=
  isOk ▸ ofExcept result before

theorem modify {change : σ → σ} (changed : ∀ state, before state → after (change state)) :
    Ends (ε := ε) (modify change) before (.ok ()) after :=
  fun state holds => ⟨change state, rfl, changed state holds⟩

theorem get (state : σ) : Ends (ε := ε) (MonadState.get) (· = state) (.ok state) (· = state) := by
  rintro _ rfl
  exact ⟨_, rfl, rfl⟩

theorem set (before : σ → Prop) (state : σ) : Ends (ε := ε) (MonadStateOf.set state) before (.ok ()) (· = state) :=
  fun _ _ => ⟨state, rfl, rfl⟩

theorem bind {a : α} {result : Except ε β} (first : Ends operation before (.ok a) middle)
    (second : Ends (next a) middle result after) : Ends (operation >>= next) before result after := by
  intro state holds
  obtain ⟨between, ran, holdsBetween⟩ := first state holds
  obtain ⟨last, ranOn, holdsLast⟩ := second between holdsBetween
  exact ⟨last, (run_bind_of_ok ran).trans ranOn, holdsLast⟩

theorem bind_error {e : ε} (first : Ends operation before (.error e) after) (next : α → ExceptT ε (StateM σ) β) :
    Ends (operation >>= next) before (.error e) after := by
  intro state holds
  obtain ⟨last, ran, holdsLast⟩ := first state holds
  exact ⟨last, run_bind_of_error ran next, holdsLast⟩

/-- Two results are joined if nothing changes after the first. -/
theorem andThen {result : Except ε α} {rest : α → Except ε β} (first : Ends operation before result after)
    (second : ∀ a, Ends (next a) after (rest a) after) : Ends (operation >>= next) before (result >>= rest) after := by
  cases result with
  | error e => exact first.bind_error next
  | ok a => exact first.bind (second a)

theorem map {result : Except ε α} (f : α → β) (ends : Ends operation before result after) :
    Ends (f <$> operation) before (f <$> result) after := by
  intro state holds
  obtain ⟨next, ran, holdsNext⟩ := ends state holds
  refine ⟨next, ?_, holdsNext⟩
  rw [ExceptT.run_map, StateT.run_map, ran]
  rfl

theorem forM {items : List β} {act : β → ExceptT ε (StateM σ) PUnit}
    (each : ∀ item ∈ items, Ends (act item) before (.ok ()) before) :
    Ends (items.forM act) before (.ok ()) before := by
  induction items with
  | nil => exact pure () before
  | cons item rest ih =>
    obtain ⟨head, tail⟩ := List.forall_mem_cons.mp each
    exact head.bind (ih tail)

theorem forM_result {items : List β} {act : β → ExceptT ε (StateM σ) PUnit} {result : β → Except ε PUnit}
    (each : ∀ item ∈ items, Ends (act item) before (result item) before) :
    Ends (items.forM act) before (items.forM result) before := by
  induction items with
  | nil => exact pure () before
  | cons item rest ih =>
    obtain ⟨head, tail⟩ := List.forall_mem_cons.mp each
    exact head.andThen fun _ => ih tail

end Ends

/-- What holds of the state before holds of it after, and the result, if there is one, is of a kind. -/
def Keeps (holds : σ → Prop) (operation : ExceptT ε (StateM σ) α) (gives : α → Prop) : Prop :=
  ∀ state, holds state →
    holds ((ExceptT.run operation).run state).2 ∧ ∀ a, ((ExceptT.run operation).run state).1 = .ok a → gives a

namespace Keeps

variable {holds : σ → Prop} {gives : α → Prop} {givesNext : β → Prop} {operation : ExceptT ε (StateM σ) α}
  {next : α → ExceptT ε (StateM σ) β}

theorem pure {a : α} (given : gives a) : Keeps (ε := ε) holds (pure a) gives := by
  intro state held
  refine ⟨held, ?_⟩
  rintro _ ⟨rfl⟩
  exact given

theorem throw (e : ε) : Keeps (ε := ε) holds (throw e) gives :=
  fun _ held => ⟨held, nofun⟩

theorem ofExcept {result : Except ε α} (given : ∀ a, result = .ok a → gives a) :
    Keeps holds (ExceptT.mk (Pure.pure result)) gives :=
  fun _ held => ⟨held, given⟩

theorem modify {change : σ → σ} {gives : PUnit → Prop} (changed : ∀ state, holds state → holds (change state))
    (given : gives ()) : Keeps (ε := ε) holds (modify change) gives :=
  fun state held => ⟨changed state held, fun _ _ => given⟩

theorem bind (first : Keeps holds operation gives) (second : ∀ a, gives a → Keeps holds (next a) givesNext) :
    Keeps holds (operation >>= next) givesNext := by
  intro state held
  obtain ⟨heldBetween, given⟩ := first state held
  rw [ExceptT.run_bind, StateT.run_bind]
  generalize (ExceptT.run operation).run state = outcome at heldBetween given
  obtain ⟨result, between⟩ := outcome
  cases result with
  | error e => exact ⟨heldBetween, nofun⟩
  | ok a => exact second a (given a rfl) between heldBetween

theorem forM {items : List β} {act : β → ExceptT ε (StateM σ) PUnit}
    (each : ∀ item ∈ items, Keeps holds (act item) fun _ => True) : Keeps holds (items.forM act) fun _ => True := by
  induction items with
  | nil => exact pure trivial
  | cons item rest ih =>
    obtain ⟨head, tail⟩ := List.forall_mem_cons.mp each
    exact head.bind fun _ _ => ih tail

end Keeps

end PluginAudit
