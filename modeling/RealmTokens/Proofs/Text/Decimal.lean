/-
Decimal digits of a number.  Main statements: they denote it, and a number of `n` digits is below the
`n`-th power of ten.
-/
import Mathlib.Algebra.GroupWithZero.Nat
import RealmTokens.Proofs.Text.Characters
import RealmTokens.Text.Digits

namespace RealmTokens
namespace Text

theorem ofDecimal_append (xs ys : List Char) :
    ofDecimal (xs ++ ys) = ofDecimal xs * 10 ^ ys.length + ofDecimal ys := by
  have h : ofDecimal (xs ++ ys) = Nat.ofDigitChars 10 ys (ofDecimal xs) := by
    unfold ofDecimal
    rw [List.foldl_append]
    rfl
  rw [h, Nat.ofDigitChars_eq_ofDigitChars_zero, Nat.mul_comm]
  rfl

theorem ofDecimal_replicate_zero (n : Nat) : ofDecimal (List.replicate n '0') = 0 :=
  Nat.ofDigitChars_replicate_zero

theorem ofDecimal_toDigits (n : Nat) : ofDecimal (Nat.toDigits 10 n) = n :=
  Nat.ofDigitChars_toDigits (by decide) (by decide)

theorem isDigit_of_mem_toDigits {n : Nat} {c : Char} (h : c ∈ Nat.toDigits 10 n) :
    c.isDigit = true :=
  Nat.isDigit_of_mem_toDigits (by decide) (by decide) h

/-- Only zero has a zero in front. -/
theorem head?_toDigits {n : Nat} (h : 0 < n) : (Nat.toDigits 10 n).head? ≠ some '0' := by
  induction n using Nat.strongRecOn with
  | _ n ih =>
      rw [Nat.toDigits_eq_if (by decide)]
      split
      · rw [List.head?_cons, ne_eq, Option.some_inj, Nat.digitChar_eq_zero]
        omega
      · have hfront := ih (n / 10) (by omega) (by omega)
        cases hd : Nat.toDigits 10 (n / 10) with
        | nil => exact absurd hd Nat.toDigits_ne_nil
        | cons c cs =>
            rw [hd] at hfront
            exact hfront

theorem toNat_le_of_isDigit {c : Char} (h : c.isDigit = true) : c.toNat ≤ 0x39 := by
  simp only [Char.isDigit, Bool.and_eq_true, decide_eq_true_eq, UInt32.le_iff_toNat_le] at h
  exact h.2

/-- The number of a digit lies in ASCII. -/
theorem toNat_lt_of_isDigit {c : Char} (h : c.isDigit = true) : c.toNat < 0x80 :=
  Nat.lt_of_le_of_lt (toNat_le_of_isDigit h) (by decide)

theorem ofDecimal_lt {digits : List Char} (h : ∀ c ∈ digits, c.isDigit = true) :
    ofDecimal digits < 10 ^ digits.length := by
  induction digits with
  | nil => decide
  | cons c digits ih =>
      have hrest := ih (fun d hd => h d (List.mem_cons_of_mem c hd))
      have hc := toNat_le_of_isDigit (h c List.mem_cons_self)
      have hfirst : ofDecimal [c] ≤ 9 := by
        show 10 * 0 + (c.toNat - 0x30) ≤ 9
        omega
      have hall := Nat.mul_le_mul_right (10 ^ digits.length) hfirst
      rw [← List.singleton_append, ofDecimal_append, List.length_append, List.length_singleton,
        Nat.pow_add, Nat.pow_one]
      omega

theorem toNat_lt_of_hexValue? {c : Char} (h : (hexValue? c).isSome = true) : c.toNat < 0x80 := by
  unfold hexValue? at h
  split at h
  case isTrue hdigit => exact toNat_lt_of_isDigit hdigit
  case isFalse =>
    split at h
    case isTrue hsmall =>
      exact Nat.lt_of_le_of_lt (UInt32.le_iff_toNat_le.1 hsmall.2) (by decide)
    case isFalse =>
      split at h
      case isTrue hcapital =>
        exact Nat.lt_of_le_of_lt (UInt32.le_iff_toNat_le.1 hcapital.2) (by decide)
      case isFalse => cases h

end Text
end RealmTokens
