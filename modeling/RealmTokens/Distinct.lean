/-
Lists without repetitions. Main statements: `distinct` keeps every element, and keeps it once.
-/
namespace RealmTokens

/-- The first occurrence of every element, in order. -/
def distinct {α : Type} [DecidableEq α] : List α → List α
  | [] => []
  | x :: xs => x :: (distinct xs).filter (· ≠ x)

@[simp] theorem mem_distinct {α : Type} [DecidableEq α] {x : α} {xs : List α} :
    x ∈ distinct xs ↔ x ∈ xs := by
  induction xs with
  | nil => simp [distinct]
  | cons y ys ih =>
      by_cases h : x = y <;> simp [distinct, h, ih]

theorem nodup_distinct {α : Type} [DecidableEq α] (xs : List α) : (distinct xs).Nodup := by
  induction xs with
  | nil => simp [distinct]
  | cons y ys ih =>
      simp only [distinct, List.nodup_cons, List.mem_filter]
      exact ⟨by simp, ih.filter _⟩

end RealmTokens
