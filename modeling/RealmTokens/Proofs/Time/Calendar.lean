/-
Days and dates.

Main statements: the date of a day is one of the calendar, and the day of that date is the day again.
-/
import Mathlib.Algebra.GroupWithZero.Nat
import RealmTokens.Time.Calendar

namespace RealmTokens
namespace Time
namespace Calendar

/-! ## Years -/

/-- A day lies in the year that is found for it. -/
theorem yearOfDay_spec (day : Int) :
    dayOfYear (yearOfDay day) ≤ day ∧ day < dayOfYear (yearOfDay day + 1) := by
  have hlow : 146097 * (400 * day / 146097) ≤ 400 * day := Int.mul_ediv_self_le (by decide)
  have hhigh : 400 * day < 146097 * (400 * day / 146097) + 146097 :=
    Int.lt_mul_ediv_self_add (by decide)
  unfold yearOfDay
  dsimp only
  generalize 400 * day / 146097 = guess at hlow hhigh ⊢
  unfold dayOfYear
  split
  · rw [Int.sub_add_cancel]
    constructor <;> omega
  · split <;> constructor <;> omega

/-- A year has as many days as its months. -/
theorem dayOfYear_succ (year : Int) :
    dayOfYear (year + 1) = dayOfYear year + ((monthLengths year).sum : Int) := by
  have hsum : ((monthLengths year).sum : Int) = if isLeap year then 366 else 365 := by
    unfold monthLengths
    split <;> rfl
  rw [hsum]
  unfold dayOfYear
  by_cases hleap : isLeap year = true
  · rw [if_pos hleap]
    simp only [isLeap, Bool.and_eq_true, Bool.or_eq_true, beq_iff_eq, bne_iff_ne] at hleap
    omega
  · rw [if_neg hleap]
    simp only [isLeap, Bool.and_eq_true, Bool.or_eq_true, beq_iff_eq, bne_iff_ne] at hleap
    omega

/-! ## Months -/

theorem splitDay_spec {lengths : List Nat} {n : Nat} (h : n < lengths.sum) :
    (splitDay lengths n).1 < lengths.length ∧
      (splitDay lengths n).2 < lengths.getD (splitDay lengths n).1 0 ∧
      (lengths.take (splitDay lengths n).1).sum + (splitDay lengths n).2 = n := by
  induction lengths generalizing n with
  | nil => exact absurd h (Nat.not_lt_zero n)
  | cons length rest ih =>
      by_cases hn : n < length
      · simp [splitDay, hn]
      · rw [List.sum_cons] at h
        obtain ⟨hplace, hday, hsum⟩ := ih (n := n - length) (by omega)
        rw [splitDay, if_neg hn]
        refine ⟨Nat.succ_lt_succ hplace, hday, ?_⟩
        simp only [List.take_succ_cons, List.sum_cons]
        omega

theorem foldl_add_eq_sum (lengths : List Nat) (n : Nat) :
    lengths.foldl Nat.add n = n + lengths.sum := by
  induction lengths generalizing n with
  | nil => rfl
  | cons length rest ih =>
      rw [List.foldl_cons, ih, List.sum_cons, Nat.add_eq, Nat.add_assoc]

theorem daysBefore_succ (year : Int) (place : Nat) :
    daysBefore year (place + 1) = ((monthLengths year).take place).sum := by
  rw [daysBefore, foldl_add_eq_sum, Nat.zero_add, Nat.add_sub_cancel]

/-! ## Dates -/

theorem Date.valid_iff {d : Date} :
    d.valid = true ↔ 1 ≤ d.month ∧ d.month ≤ 12 ∧ 1 ≤ d.day ∧
      d.day ≤ (monthLengths d.year).getD (d.month - 1) 0 := by
  simp only [Date.valid, Bool.and_eq_true, decide_eq_true_eq, and_assoc]

/-- The place of a day in its year. -/
theorem dayOfYear_add_toNat (day : Int) :
    dayOfYear (yearOfDay day) + ((day - dayOfYear (yearOfDay day)).toNat : Int) = day ∧
      (day - dayOfYear (yearOfDay day)).toNat < (monthLengths (yearOfDay day)).sum := by
  obtain ⟨hlow, hhigh⟩ := yearOfDay_spec day
  rw [dayOfYear_succ] at hhigh
  constructor <;> omega

theorem valid_dateOfDay (day : Int) : (dateOfDay day).valid = true := by
  obtain ⟨hplace, hday, -⟩ := splitDay_spec (dayOfYear_add_toNat day).2
  have hmonths : (monthLengths (yearOfDay day)).length = 12 := rfl
  rw [hmonths] at hplace
  exact Date.valid_iff.2 ⟨Nat.succ_pos _, hplace, Nat.succ_pos _, hday⟩

theorem toDay_dateOfDay (day : Int) : (dateOfDay day).toDay = day := by
  obtain ⟨hsplit, hlt⟩ := dayOfYear_add_toNat day
  obtain ⟨-, -, hsum⟩ := splitDay_spec hlt
  rw [dateOfDay, Date.toDay, daysBefore_succ]
  dsimp only
  omega

/-- The numbers of a valid date have two digits at most. -/
theorem lt_of_valid {d : Date} (h : d.valid = true) : d.month < 100 ∧ d.day < 100 := by
  obtain ⟨-, hmonth, -, hday⟩ := Date.valid_iff.1 h
  have hlong : ∀ place, (monthLengths d.year).getD place 0 ≤ 31 := by
    intro place
    unfold monthLengths
    rcases place with _ | _ | _ | _ | _ | _ | _ | _ | _ | _ | _ | _ | place
    case succ.zero => cases isLeap d.year <;> decide
    all_goals simp
  have := hlong (d.month - 1)
  omega

end Calendar
end Time
end RealmTokens
