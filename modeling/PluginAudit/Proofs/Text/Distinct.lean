import PluginAudit.Text.Distinct

namespace PluginAudit

variable {α : Type} [DecidableEq α]

theorem distinctAfter_of_nodup {seen items : List α} (nodup : items.Nodup)
    (fresh : ∀ a ∈ items, a ∉ seen) : distinctAfter seen items = items := by
  induction items generalizing seen with
  | nil => rfl
  | cons a rest ih =>
    obtain ⟨absent, nodupRest⟩ := List.nodup_cons.mp nodup
    have freshRest : ∀ b ∈ rest, b ∉ a :: seen := by
      intro b member
      rw [List.mem_cons, not_or]
      exact ⟨fun same => absent (same ▸ member), fresh b (List.mem_cons_of_mem _ member)⟩
    rw [distinctAfter, if_neg (fresh a List.mem_cons_self), ih nodupRest freshRest]

theorem distinct_of_nodup {items : List α} (nodup : items.Nodup) : distinct items = items :=
  distinctAfter_of_nodup nodup fun _ _ => List.not_mem_nil

theorem distinctAfter_eq (seen items : List α) :
    distinctAfter seen items = (items.filter (· ∉ seen)).eraseDups := by
  induction items generalizing seen with
  | nil => rfl
  | cons a rest ih =>
    by_cases member : a ∈ seen
    · simp [distinctAfter, member, ih]
    · rw [distinctAfter, if_neg member, ih, List.filter_cons_of_pos (by simpa using member), List.eraseDups_cons,
        List.filter_filter]
      refine congrArg (fun kept => a :: List.eraseDups kept) (List.filter_congr fun b _ => ?_)
      by_cases same : b = a <;> simp [same]

theorem distinct_eq_eraseDups (items : List α) : distinct items = items.eraseDups := by
  rw [distinct, distinctAfter_eq, List.filter_eq_self.mpr (by simp)]

/-- Of what was seen before, only the members that are kept count. -/
theorem distinctAfter_filter {kept : α → Bool} {seen other : List α}
    (same : ∀ a, kept a = true → (a ∈ seen ↔ a ∈ other)) (items : List α) :
    distinctAfter seen (items.filter kept) = (distinctAfter other items).filter kept := by
  induction items generalizing seen other with
  | nil => rfl
  | cons a rest ih =>
    by_cases keeps : kept a = true
    · have sameNext : ∀ b, kept b = true → (b ∈ a :: seen ↔ b ∈ a :: other) := by
        intro b keepsB
        rw [List.mem_cons, List.mem_cons, same b keepsB]
      by_cases member : a ∈ other
      · simp [distinctAfter, keeps, same a keeps, member, ih same]
      · simp [distinctAfter, keeps, same a keeps, member, ih sameNext]
    · have sameNext : ∀ b, kept b = true → (b ∈ seen ↔ b ∈ a :: other) := by
        intro b keepsB
        have different : b ≠ a := by
          rintro rfl
          exact keeps keepsB
        rw [List.mem_cons, same b keepsB, or_iff_right different]
      by_cases member : a ∈ other
      · simp [distinctAfter, keeps, member, ih same]
      · simp [distinctAfter, keeps, member, ih sameNext]

theorem distinct_append (first second : List α) :
    distinct (first ++ second) = distinct first ++ (distinct second).filter (· ∉ first) := by
  rw [distinct_eq_eraseDups, List.eraseDups_append, ← distinct_eq_eraseDups, ← distinct_eq_eraseDups, distinct, distinct,
    distinct, ← distinctAfter_filter (fun _ _ => Iff.rfl)]
  simp [List.removeAll]

theorem distinct_append_distinct (first second : List α) :
    distinct (distinct first ++ distinct second) = distinct (first ++ second) := by
  rw [distinct_append, distinct_append, distinct_of_nodup (nodup_distinct first), distinct_of_nodup (nodup_distinct second)]
  simp only [mem_distinct]

end PluginAudit
