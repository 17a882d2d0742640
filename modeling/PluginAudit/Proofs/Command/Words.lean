import Mathlib
import PluginAudit.Command.Run
import PluginAudit.Proofs.Effect

namespace PluginAudit.Command

namespace Spec

theorem foldlM_readWord_ended (spec : Spec) {state : State} (free : state.waiting = none) (ended : state.ended = true)
    (words : List String) :
    words.foldlM spec.readWord state = .ok { state with arguments := state.arguments ++ words } := by
  induction words generalizing state with
  | nil => simp [Pure.pure, Except.pure]
  | cons word rest ih =>
    have step : spec.readWord state word = .ok (state.addArgument word) := by simp [readWord, free, ended]
    have others := @ih (state.addArgument word) free ended
    rw [List.foldlM_cons, step]
    simpa [State.addArgument, Bind.bind, Except.bind] using others

/-- Behind its first argument a group reads no options. -/
theorem readWords_group {spec : Spec} (group : spec.isGroup = true) {name : String}
    (plain : name.toList.head? ≠ some '-') (rest : List String) :
    spec.readWords (name :: rest) = .ok ⟨[], name :: rest, none, true⟩ := by
  have notEnd : name ≠ "--" := by
    rintro rfl
    exact plain (by decide)
  have first : spec.readWord State.start name = .ok ⟨[], [name], none, true⟩ := by
    simp [readWord, State.start, notEnd, plain, State.addArgument, group]
  have others := @foldlM_readWord_ended spec ⟨[], [name], none, true⟩ rfl rfl rest
  have all : (name :: rest).foldlM spec.readWord State.start = .ok ⟨[], name :: rest, none, true⟩ := by
    rw [List.foldlM_cons, first]
    exact others
  unfold readWords
  rw [all]
  rfl

section

variable {spec : Spec} {argument : ArgumentSpec} {disk : Disk}

theorem exists_of_read (takes : spec.argument = some argument) (single : argument.many = false) {state : State}
    {parameters : Parameters} (accepted : spec.read disk state = .ok parameters) :
    ∃ options text v, state.given.mapM (spec.readGiven disk) = .ok options ∧ state.arguments = [text] ∧
      readArgument disk argument text = .ok v ∧ parameters = options ++ [(argument.key, v)] := by
  unfold read at accepted
  obtain ⟨options, given, accepted⟩ := exists_of_bind_ok accepted
  simp only [takes] at accepted
  obtain ⟨⟨values, left⟩, found, accepted⟩ := exists_of_bind_ok accepted
  obtain ⟨⟨v, rest⟩, read, same⟩ := exists_of_map_ok found
  cases same
  cases texts : state.arguments with
  | nil =>
    rw [texts] at read
    cases read
  | cons text others =>
    rw [texts] at read
    simp only [readArguments, single, Bool.false_eq_true, if_false] at read
    obtain ⟨_, isRead, same⟩ := exists_of_map_ok read
    cases same
    cases rest with
    | nil =>
      cases accepted
      exact ⟨options, text, _, given, rfl, isRead, rfl⟩
    | cons more rest => cases accepted

theorem read_of_argument (takes : spec.argument = some argument) (single : argument.many = false)
    {given : Register Given} {options : Parameters} (isGiven : given.mapM (spec.readGiven disk) = .ok options)
    {text : String} {v : Value} (read : readArgument disk argument text = .ok v) (ended : Bool) :
    spec.read disk ⟨given, [text], none, ended⟩ = .ok (options ++ [(argument.key, v)]) := by
  unfold Spec.read readArguments
  simp only [isGiven, takes, single, read]
  rfl

end

end Spec

theorem Shape.read_path {disk : Disk} {text : String} {rule : PathRule} (proper : text.contains '\x00' = false)
    (stands : rule.problem? disk text = none) (parameter : String) :
    Shape.read disk parameter text (.path rule) = .ok (.text text) := by
  simp only [Shape.read, proper, stands, Bool.false_eq_true, if_false]

theorem Shape.eq_text_of_read_path {disk : Disk} {parameter text : String} {rule : PathRule} {v : Value}
    (read : Shape.read disk parameter text (.path rule) = .ok v) : v = .text text := by
  simp only [Shape.read] at read
  split at read
  · cases read
  · split at read <;> cases read
    rfl

theorem groupWords_eq {spec : Spec} (group : spec.isGroup = true) {name : String}
    (plain : name.toList.head? ≠ some '-') (rest : List String) :
    groupWords spec (name :: rest) = pure (name :: rest) := by
  unfold groupWords
  rw [Spec.readWords_group group plain rest]
  rfl

theorem callMember_eq {spec : Spec} (group : spec.isGroup = true) {name : String}
    (plain : name.toList.head? ≠ some '-') {members : List (String × (List String → Run Nat))}
    {command : List String → Run Nat} (found : members.lookup name = some command) (rest : List String) :
    callMember spec members (name :: rest) = command rest := by
  unfold callMember
  rw [groupWords_eq group plain rest, pure_bind]
  dsimp only
  rw [found]

end PluginAudit.Command
