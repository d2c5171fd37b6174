/-
Correlation ids as texts.

The text of an id has its 32 digits, in five groups.  Main statement: it is read back as this id, so two
ids have two texts.
-/
import Mathlib.Algebra.GroupWithZero.Nat
import RealmTokens.Exchange.Message

namespace RealmTokens
namespace CorrelationId

/-! ## Digits -/

theorem length_hexDigits (count n : Nat) : (hexDigits count n).length = count := by
  induction count generalizing n with
  | zero => rfl
  | succ count ih => rw [hexDigits, List.length_append, ih, List.length_singleton]

/-- What holds of the sixteen digits holds of those of a number. -/
theorem forall_mem_hexDigits {p : Char → Prop} (h : ∀ digit < 16, p (Text.hexDigit digit))
    (count n : Nat) : ∀ c ∈ hexDigits count n, p c := by
  induction count generalizing n with
  | zero => exact fun c hc => absurd hc List.not_mem_nil
  | succ count ih =>
      intro c hc
      rw [hexDigits, List.mem_append, List.mem_singleton] at hc
      rcases hc with hc | rfl
      · exact ih (n / 16) c hc
      · exact h (n % 16) (Nat.mod_lt n (by decide))

/-- So many digits denote the number if it has no more. -/
theorem hexValues_hexDigits {count n : Nat} (h : n < 16 ^ count) :
    ∃ values, (hexDigits count n).mapM Text.hexValue? = some values ∧ Text.ofHexValues values = n := by
  induction count generalizing n with
  | zero =>
      rw [Nat.pow_zero, Nat.lt_one_iff] at h
      exact ⟨[], rfl, h.symm⟩
  | succ count ih =>
      have hrest : n / 16 < 16 ^ count := by
        rw [Nat.pow_succ] at h
        exact Nat.div_lt_of_lt_mul (by omega)
      obtain ⟨values, hvalues, hvalue⟩ := ih hrest
      have hdigit := Text.hexValue?_hexDigit (n % 16) (Nat.mod_lt n (by decide))
      refine ⟨values ++ [n % 16], ?_, ?_⟩
      · rw [hexDigits, List.mapM_append, hvalues]
        simp [hdigit]
      · rw [Text.ofHexValues_concat, hvalue]
        exact Nat.div_add_mod n 16

theorem correlationLimit_eq : correlationLimit = 16 ^ 32 := by decide +kernel

theorem ofDigits?_hexDigits (id : CorrelationId) : ofDigits? (hexDigits 32 id.value) = some id := by
  obtain ⟨value, lt⟩ := id
  obtain ⟨values, hvalues, rfl⟩ := hexValues_hexDigits (correlationLimit_eq ▸ lt)
  simp only [ofDigits?, hvalues, Option.bind_eq_bind, Option.bind_some]
  rw [dif_pos lt, if_pos (length_hexDigits 32 _)]

/-! ## Groups -/

/-- The groups in which 32 digits are written. -/
def groups (digits : List Char) : List (List Char) :=
  [digits.take 8, (digits.drop 8).take 4, (digits.drop 12).take 4, (digits.drop 16).take 4,
    digits.drop 20]

theorem flatten_groups (digits : List Char) : (groups digits).flatten = digits := by
  have hjoin (front behind : Nat) :
      (digits.drop front).take behind ++ digits.drop (front + behind) = digits.drop front := by
    rw [← List.drop_drop, List.take_append_drop]
  show digits.take 8 ++ ((digits.drop 8).take 4 ++ ((digits.drop 12).take 4 ++
    ((digits.drop 16).take 4 ++ (digits.drop 20 ++ [])))) = digits
  rw [List.append_nil, hjoin 16 4, hjoin 12 4, hjoin 8 4, List.take_append_drop]

theorem splitOn_chars (id : CorrelationId) :
    id.chars.splitOn '-' = groups (hexDigits 32 id.value) := by
  have hplain : '-' ∉ hexDigits 32 id.value := fun hmem =>
    forall_mem_hexDigits (p := fun c => c ≠ '-') (by decide) 32 id.value '-' hmem rfl
  have hgroup (front behind : Nat) :
      (((hexDigits 32 id.value).drop front).take behind).splitOn '-' =
        [((hexDigits 32 id.value).drop front).take behind] :=
    List.splitOn_eq_singleton (fun hmem => hplain (List.mem_of_mem_drop (List.mem_of_mem_take hmem)))
  have hfirst : ((hexDigits 32 id.value).take 8).splitOn '-' = [(hexDigits 32 id.value).take 8] :=
    hgroup 0 8
  have hlast : ((hexDigits 32 id.value).drop 20).splitOn '-' = [(hexDigits 32 id.value).drop 20] :=
    List.splitOn_eq_singleton (fun hmem => hplain (List.mem_of_mem_drop hmem))
  rw [chars, List.splitOn_append_cons_self, List.splitOn_append_cons_self, List.splitOn_append_cons_self,
    List.splitOn_append_cons_self, hfirst, hgroup, hgroup, hgroup, hlast]
  rfl

theorem ofGroups?_chars (id : CorrelationId) : ofGroups? id.chars = some id := by
  have hlengths : (groups (hexDigits 32 id.value)).map List.length = [8, 4, 4, 4, 12] := by
    simp [groups, length_hexDigits]
  rw [ofGroups?, splitOn_chars, flatten_groups, if_pos hlengths, ofDigits?_hexDigits]

/-! ## Main statement -/

theorem length_chars (id : CorrelationId) : id.chars.length = 36 := by
  simp [chars, length_hexDigits]

/-- The text of an id begins with a digit, not with a brace or a mark. -/
theorem ofString?_render (id : CorrelationId) : ofString? id.render = some id := by
  obtain ⟨first, rest, hchars, hbrace, hmark⟩ : ∃ first rest, id.chars = first :: rest ∧
      first ≠ '\x7b' ∧ first.toLower ≠ 'u' := by
    cases hdigits : hexDigits 32 id.value with
    | nil =>
        have hlength := length_hexDigits 32 id.value
        rw [hdigits] at hlength
        cases hlength
    | cons first rest =>
        have hfirst := forall_mem_hexDigits (p := fun c => c ≠ '\x7b' ∧ c.toLower ≠ 'u') (by decide) 32
          id.value first (hdigits ▸ List.mem_cons_self)
        have hchars : id.chars = first :: id.chars.tail := by
          rw [chars, hdigits]
          rfl
        exact ⟨first, id.chars.tail, hchars, hfirst⟩
  have hlength : id.chars.length ≠ 32 := by
    rw [length_chars]
    decide
  have hopen : ¬(id.chars.head? = some '\x7b' ∧ id.chars.getLast? = some '\x7d') := by
    rw [hchars]
    exact fun h => hbrace (Option.some.inj h.1)
  have hname : (id.chars.take nameMark.length).map Char.toLower ≠ nameMark := by
    rw [hchars]
    exact fun h => hmark (List.cons.inj h).1
  rw [ofString?, render, String.toList_ofList, if_neg hlength, if_neg hopen, if_neg hname, ofGroups?_chars]

end CorrelationId
end RealmTokens
