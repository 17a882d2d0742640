namespace PluginAudit

variable {α : Type} [DecidableEq α]

/-- The members of a list that are not in `seen`, each at its first place only. -/
def distinctAfter (seen : List α) : List α → List α
  | [] => []
  | a :: rest => if a ∈ seen then distinctAfter seen rest else a :: distinctAfter (a :: seen) rest

def distinct (items : List α) : List α :=
  distinctAfter [] items

theorem mem_distinctAfter {a : α} {seen items : List α} :
    a ∈ distinctAfter seen items ↔ a ∈ items ∧ a ∉ seen := by
  induction items generalizing seen with
  | nil => simp [distinctAfter]
  | cons b rest ih =>
    by_cases h : b ∈ seen <;> by_cases hab : a = b <;> simp_all [distinctAfter]

theorem nodup_distinctAfter (seen items : List α) : (distinctAfter seen items).Nodup := by
  induction items generalizing seen with
  | nil => simp [distinctAfter]
  | cons b rest ih =>
    by_cases h : b ∈ seen <;> simp_all [distinctAfter, mem_distinctAfter]

@[simp] theorem mem_distinct {a : α} {items : List α} : a ∈ distinct items ↔ a ∈ items := by
  simp [distinct, mem_distinctAfter]

theorem nodup_distinct (items : List α) : (distinct items).Nodup :=
  nodup_distinctAfter [] items

end PluginAudit
