import Mathlib
import PluginAudit.Console.Markup
import PluginAudit.Proofs.Effect

namespace PluginAudit.Markup

theorem tag?_plain {text : List Char} (plain : text.head? ≠ some '[') : tag? text = none := by
  unfold tag?
  split
  · exact absurd rfl plain
  · rfl

theorem tag?_tag {c : Char} {body : List Char} (opens : opensTag c = true) (inside : ∀ d ∈ body, d ≠ '[' ∧ d ≠ ']')
    (behind : List Char) : tag? ('[' :: c :: (body ++ ']' :: behind)) = some (c :: body, behind) := by
  have taken : (body ++ ']' :: behind).takeWhile (fun d => d != '[' && d != ']') = body := by
    rw [List.takeWhile_append_of_pos]
    · simp
    · intro d member
      simpa using inside d member
  unfold tag?
  simp only [taken, List.drop_left, if_pos opens]

section

variable (fuel place : Nat) (pending : List Char)

theorem segmentsFrom_plain {run : List Char} (plain : ∀ c ∈ run, c ≠ '[' ∧ c ≠ '\\') (text : List Char) :
    segmentsFrom (run.length + fuel) place pending (run ++ text) =
      segmentsFrom fuel (place + run.length) (run.reverse ++ pending) text := by
  induction run generalizing place pending with
  | nil => simp
  | cons c rest ih =>
    obtain ⟨⟨notBracket, notSlash⟩, others⟩ := List.forall_mem_cons.mp plain
    have noSlashes : (c :: (rest ++ text)).takeWhile (· == '\\') = [] := by simp [notSlash]
    have noTag : tag? (c :: (rest ++ text)) = none := tag?_plain (by simpa using notBracket)
    have length : (c :: rest).length + fuel = rest.length + fuel + 1 := by simp; omega
    rw [length, List.cons_append, segmentsFrom]
    simp only [noSlashes, List.length_nil, List.drop_zero, noTag]
    rw [ih (place + 1) (c :: pending) others]
    simp [Nat.add_comm, Nat.add_left_comm]

theorem segmentsFrom_tag {c : Char} {body : List Char} (opens : opensTag c = true)
    (inside : ∀ d ∈ body, d ≠ '[' ∧ d ≠ ']') (behind : List Char) :
    segmentsFrom (fuel + 1) place pending ('[' :: c :: (body ++ ']' :: behind)) =
      plainSegment pending.reverse ++
        .tag place (c :: body) :: segmentsFrom fuel (place + (c :: body).length + 2) [] behind := by
  have noSlashes : ('[' :: c :: (body ++ ']' :: behind)).takeWhile (· == '\\') = [] := by simp
  have isTag := tag?_tag opens inside behind
  rw [segmentsFrom]
  simp only [noSlashes, List.length_nil, List.drop_zero, isTag]
  simp [plainSegment]

/-- Where no bracket opens, backslashes are plain too. -/
theorem segmentsFrom_end {text : List Char} (free : '[' ∉ text) (enough : text.length < fuel) :
    segmentsFrom fuel place pending text = plainSegment (pending.reverse ++ text) := by
  induction text generalizing fuel place pending with
  | nil =>
    cases fuel with
    | zero => simp at enough
    | succ fuel => simp [segmentsFrom]
  | cons c rest ih =>
    cases fuel with
    | zero => simp at enough
    | succ fuel =>
      have noTag (n : Nat) : tag? ((c :: rest).drop n) = none := by
        apply tag?_plain
        intro isBracket
        exact free (List.mem_of_mem_drop (List.mem_of_head? isBracket))
      have others : '[' ∉ rest := List.not_mem_of_not_mem_cons free
      have short : rest.length < fuel := by simpa using enough
      rw [segmentsFrom]
      simp only [noTag]
      rw [ih fuel (place + 1) (c :: pending) others short]
      simp

end

def tinted (before word inside behind : List Char) : List Char :=
  before ++ '[' :: (word ++ ']' :: (inside ++ '[' :: '/' :: (word ++ ']' :: behind)))

structure IsTint (word : List Char) : Prop where
  opens : ∃ c rest, word = c :: rest ∧ opensTag c = true ∧ c ≠ '/' ∧ c ≠ '@'
  body : ∀ c ∈ word, c ≠ '[' ∧ c ≠ ']' ∧ c ≠ '='
  trimmed : Text.trim word = word
  named : Style.nameOf word = .ok (String.ofList word)
  usable : Style.check word = .ok ()

theorem segments_tinted {before word inside behind : List Char} (isTint : IsTint word)
    (plainBefore : ∀ c ∈ before, c ≠ '[' ∧ c ≠ '\\') (plainInside : ∀ c ∈ inside, c ≠ '[' ∧ c ≠ '\\')
    (free : '[' ∉ behind) :
    ∃ place place', segments (tinted before word inside behind) =
      plainSegment before ++
        .tag place word :: (plainSegment inside ++ .tag place' ('/' :: word) :: plainSegment behind) := by
  obtain ⟨c, rest, rfl, opens, -, -⟩ := isTint.opens
  have bodyClose : ∀ d ∈ c :: rest, d ≠ '[' ∧ d ≠ ']' :=
    fun d member => ⟨(isTint.body d member).1, (isTint.body d member).2.1⟩
  have bodyOpen : ∀ d ∈ rest, d ≠ '[' ∧ d ≠ ']' :=
    fun d member => bodyClose d (List.mem_cons_of_mem _ member)
  -- A step for each plain character and one for each tag; what is left over is for the text behind.
  have fuel : (tinted before (c :: rest) inside behind).length + 1 =
      before.length + (inside.length + (behind.length + 2 * rest.length + 6 + 1) + 1) := by
    simp [tinted]
    omega
  refine ⟨before.length, before.length + (c :: rest).length + 2 + inside.length, ?_⟩
  unfold segments
  rw [fuel]
  unfold tinted
  rw [segmentsFrom_plain _ _ _ plainBefore, List.cons_append, segmentsFrom_tag _ _ _ opens bodyOpen,
    segmentsFrom_plain _ _ _ plainInside, segmentsFrom_tag _ _ _ (by decide) bodyClose,
    segmentsFrom_end _ _ _ free (by omega)]
  simp

def State.write (state : State) (text : List Char) : State :=
  { state with output := state.output ++ (unescape text).filter (!isControl ·) }

theorem foldlM_plainSegment (state : State) (text : List Char) :
    (plainSegment text).foldlM apply state = .ok (state.write text) := by
  cases text with
  | nil =>
    have same : state.write [] = state := by simp [State.write, unescape]
    rw [same]
    rfl
  | cons c rest => rfl

namespace IsTint

variable {word : List Char} (isTint : IsTint word)

include isTint

theorem tagName_eq : tagName word = word := by
  unfold tagName
  rw [List.takeWhile_eq_self_iff]
  intro c member
  simpa using (isTint.body c member).2.2

theorem tagParameter?_eq : tagParameter? word = none := by
  have nothing : word.dropWhile (· != '=') = [] := by
    rw [List.dropWhile_eq_nil_iff]
    intro c member
    simpa using (isTint.body c member).2.2
  unfold tagParameter?
  rw [nothing]

theorem styleName_eq : styleName word = .ok (String.ofList word) := by
  unfold styleName
  rw [isTint.named]
  rfl

theorem apply_open (state : State) (place : Nat) :
    apply state (.tag place word) =
      .ok { state with opened := ⟨String.ofList word, none, state.output.length⟩ :: state.opened } := by
  have noSlash : word.head? ≠ some '/' := by
    obtain ⟨c, rest, rfl, -, notSlash, -⟩ := isTint.opens
    simpa using notSlash
  unfold apply
  simp only [if_neg noSlash, isTint.tagName_eq, isTint.tagParameter?_eq, isTint.styleName_eq]
  rfl

theorem apply_close (state : State) (place start : Nat) (opened : List OpenTag)
    (isOpen : state.opened = ⟨String.ofList word, none, start⟩ :: opened) :
    apply state (.tag place ('/' :: word)) =
      .ok { state with opened, spans := ⟨start, state.output.length, word⟩ :: state.spans } := by
  obtain ⟨c, rest, isWord, -, -, notAt⟩ := isTint.opens
  have name : tagName ('/' :: word) = '/' :: word := by
    have inner := isTint.tagName_eq
    unfold tagName at inner ⊢
    rw [List.takeWhile_cons, inner]
    rfl
  have nonempty : word.isEmpty = false := by simp [isWord]
  have found : takeTag? (·.name = String.ofList word) state.opened =
      some (⟨String.ofList word, none, start⟩, opened) := by
    simp [takeTag?, isOpen]
  have noHandler : OpenTag.isHandler ⟨String.ofList word, none, start⟩ = false := by
    simp [OpenTag.isHandler, isWord, notAt]
  have style : OpenTag.style ⟨String.ofList word, none, start⟩ = word := String.toList_ofList
  unfold apply closeTag
  simp only [List.head?_cons, if_true, name, List.drop_one, List.tail_cons, isTint.trimmed, nonempty,
    isTint.styleName_eq]
  rw [if_neg Bool.false_ne_true]
  simp only [Bind.bind, Except.bind, Pure.pure, Except.pure, found, noHandler, style]
  rfl

end IsTint

theorem foldlM_tinted {before word inside behind : List Char} (isTint : IsTint word) (place place' : Nat) :
    ∃ output start stop,
      (plainSegment before ++
          .tag place word :: (plainSegment inside ++ .tag place' ('/' :: word) :: plainSegment behind)).foldlM
        apply ⟨[], [], []⟩ = .ok ⟨output, [], [⟨start, stop, word⟩]⟩ := by
  apply Exists.intro
  apply Exists.intro
  apply Exists.intro
  rw [List.foldlM_append, foldlM_plainSegment]
  change List.foldlM apply (State.write ⟨[], [], []⟩ before) _ = _
  rw [List.foldlM_cons, isTint.apply_open]
  change List.foldlM apply _ (plainSegment inside ++ _) = _
  rw [List.foldlM_append, foldlM_plainSegment]
  change List.foldlM apply (State.write _ inside) _ = _
  rw [List.foldlM_cons, isTint.apply_close _ _ _ [] rfl]
  exact foldlM_plainSegment _ behind

def Drawable (text : String) : Prop :=
  ∃ marked, read text = .ok marked ∧ ∀ span ∈ marked.spans, Style.check span.style = .ok ()

theorem drawable_tinted {before word inside behind : List Char} (isTint : IsTint word)
    (plainBefore : ∀ c ∈ before, c ≠ '[' ∧ c ≠ '\\') (plainInside : ∀ c ∈ inside, c ≠ '[' ∧ c ≠ '\\')
    (free : '[' ∉ behind) : Drawable (String.ofList (tinted before word inside behind)) := by
  obtain ⟨place, place', cut⟩ := segments_tinted isTint plainBefore plainInside free
  obtain ⟨output, start, stop, folded⟩ := @foldlM_tinted before word inside behind isTint place place'
  have marked : (tinted before word inside behind).contains '[' = true := by simp [tinted]
  refine ⟨State.finish ⟨output, [], [⟨start, stop, word⟩]⟩, ?_, ?_⟩
  · unfold read
    simp only [String.toList_ofList, marked, if_true, cut, folded]
    rfl
  · intro span member
    have same : span = ⟨start, stop, word⟩ := by simpa [State.finish] using member
    rw [same]
    exact isTint.usable

theorem check_of_usable {marked : Marked} (usable : ∀ span ∈ marked.spans, Style.check span.style = .ok ())
    (room : Room) : marked.check room = .ok () := by
  refine forM_ok fun span shown => usable span ?_
  unfold Marked.shownSpans at shown
  split at shown <;> exact List.mem_of_mem_filter shown

theorem Drawable.exists_lines {text : String} (drawable : Drawable text) : ∃ printed, lines text = .ok printed := by
  obtain ⟨marked, isRead, usable⟩ := drawable
  have checked := check_of_usable usable consoleRoom
  unfold lines
  simp only [isRead, checked, Bind.bind, Except.bind]
  exact ⟨_, rfl⟩

def tints : List String :=
  ["cyan", "green", "yellow", "red"]

theorem isTint_of_mem {name : String} (member : name ∈ tints) : IsTint name.toList where
  opens := by
    simp only [tints, List.mem_cons, List.not_mem_nil, or_false] at member
    rcases member with rfl | rfl | rfl | rfl <;> exact ⟨_, _, rfl, by decide⟩
  body := (by simp [tints] : ∀ name ∈ tints, ∀ c ∈ name.toList, c ≠ '[' ∧ c ≠ ']' ∧ c ≠ '=') name member
  trimmed := (by decide +kernel : ∀ name ∈ tints, Text.trim name.toList = name.toList) name member
  named := (by decide +kernel : ∀ name ∈ tints, Style.nameOf name.toList = .ok (String.ofList name.toList)) name member
  usable := (by decide +kernel : ∀ name ∈ tints, Style.check name.toList = .ok ()) name member

end PluginAudit.Markup
