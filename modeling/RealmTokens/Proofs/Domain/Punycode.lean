/-
Decoding an encoded label.

The encoder passes the label once for every code point outside ASCII, and counts the places that it
passes between two characters.  The decoder counts the same places, and so puts every character where
it stood.  `Tracks` says so for every moment of the encoding: what is written so far decodes to the
characters that were passed, and the count is the way from the last of them to the next.  Main
statement: a label of at most a thousand characters is what its encoding decodes to.
-/
import Mathlib.Algebra.GroupWithZero.Nat
import RealmTokens.Domain.Punycode
import RealmTokens.Proofs.Text.Characters

namespace RealmTokens
namespace Domain
namespace Punycode

/-! ## Digits -/

theorem threshold_le (k bias : Nat) : threshold k bias ≤ 26 := by
  unfold threshold
  split
  · omega
  · split <;> omega

theorem value?_digit {n : Nat} (h : n < 36) : value? (digit n) = some n := by
  have hall : ∀ n < 36, value? (digit n) = some n := by decide +kernel
  exact hall n h

/-- A digit is a small letter or a decimal digit. -/
def IsDigit (c : Char) : Prop := ∃ n < 36, c = digit n

theorem IsDigit.ne_hyphen {c : Char} (h : IsDigit c) : c ≠ '-' := by
  obtain ⟨n, hn, rfl⟩ := h
  have hall : ∀ n < 36, digit n ≠ '-' := by decide +kernel
  exact hall n hn

theorem IsDigit.isAscii {c : Char} (h : IsDigit c) : Text.isAscii c = true := by
  obtain ⟨n, hn, rfl⟩ := h
  have hall : ∀ n < 36, Text.isAscii (digit n) = true := by decide +kernel
  exact hall n hn

/-- The front digit of a number that needs more than one. -/
theorem lt_of_le {k bias n : Nat} : threshold k bias + (n - threshold k bias) % (36 - threshold k bias) < 36 := by
  have hle := threshold_le k bias
  have hmod : (n - threshold k bias) % (36 - threshold k bias) < 36 - threshold k bias :=
    Nat.mod_lt _ (by omega)
  omega

theorem isDigit_of_mem_encodeNumber {bias k n : Nat} {c : Char} (h : c ∈ encodeNumber bias k n) :
    IsDigit c := by
  fun_induction encodeNumber bias k n with
  | case1 k n t hlt =>
      have hle := threshold_le k bias
      exact ⟨n, by omega, List.mem_singleton.1 h⟩
  | case2 k n t hge ih =>
      rcases List.mem_cons.1 h with rfl | h
      · exact ⟨_, lt_of_le, rfl⟩
      · exact ih h

/-! ## Numbers

The decoder refuses a number whose weight would leave its range. No number that the encoder writes comes
near that, because neither the bias nor the count of passed places grows so far. -/

/-- The greatest count of places in a label of a thousand characters. -/
def maxDelta : Nat := 1400000000

/-- The greatest bias that follows from such a count. -/
def maxBias : Nat := 215

/-- The weight of a further digit stays in range. -/
theorem weight_lt {place k bias n weight : Nat} (hk : k = 36 * (place + 1))
    (hweight : weight ≤ 35 ^ place) (hbias : bias ≤ maxBias) (hn : threshold k bias ≤ n)
    (hdelta : n * weight ≤ maxDelta) : weight * (36 - threshold k bias) < weightLimit := by
  unfold maxBias at hbias
  unfold maxDelta at hdelta
  unfold weightLimit
  by_cases ht : 9 ≤ threshold k bias
  · -- The number has still `n` times the weight to tell, which is more than a third of the new weight.
    have hlow : threshold k bias * weight ≤ n * weight := Nat.mul_le_mul_right weight hn
    have hthree : weight * (36 - threshold k bias) ≤ 3 * (threshold k bias * weight) := by
      rw [← Nat.mul_assoc, Nat.mul_comm weight]
      exact Nat.mul_le_mul_right weight (by omega)
    omega
  · -- Small thresholds stand at the first places only.
    have hplace : place ≤ 5 := by
      unfold threshold at ht
      split at ht
      · omega
      · split at ht <;> omega
    have hpow : 35 ^ place ≤ 35 ^ 5 := Nat.pow_le_pow_right (by decide) hplace
    have hpos := threshold_pos k bias
    have hfactor : weight * (36 - threshold k bias) ≤ 35 ^ 5 * 35 :=
      Nat.mul_le_mul (Nat.le_trans hweight hpow) (by omega)
    omega

section Step

variable {s : Decoder} {n : Nat}

theorem step?_last (h : n < threshold s.k s.bias) :
    s.step? (digit n) = s.insert? (s.delta + n * s.weight) := by
  have hle := threshold_le s.k s.bias
  rw [Decoder.step?, value?_digit (by omega)]
  exact if_pos h

theorem step?_further (hn : n < 36) (h : threshold s.k s.bias ≤ n)
    (hweight : s.weight * (36 - threshold s.k s.bias) < weightLimit) :
    s.step? (digit n) =
      some ⟨s.out, s.code, s.place, s.bias, s.k + 36, s.weight * (36 - threshold s.k s.bias),
        s.delta + n * s.weight, true⟩ := by
  rw [Decoder.step?, value?_digit hn]
  exact (if_neg (Nat.not_lt.2 h)).trans (if_neg (Nat.not_le.2 hweight))

end Step

/-- The decoder reads back a number that the encoder writes. -/
theorem foldlM_encodeNumber (s : Decoder) (place n : Nat) (hk : s.k = 36 * (place + 1))
    (hweight : s.weight ≤ 35 ^ place) (hbias : s.bias ≤ maxBias)
    (hdelta : n * s.weight ≤ maxDelta) :
    (encodeNumber s.bias s.k n).foldlM Decoder.step? s = s.insert? (s.delta + n * s.weight) := by
  induction n using Nat.strongRecOn generalizing s place with
  | _ n ih =>
      rw [encodeNumber]
      by_cases hn : n < threshold s.k s.bias
      · rw [if_pos hn, List.foldlM_cons, step?_last hn]
        exact bind_pure _
      · have hge := Nat.le_of_not_lt hn
        have hle := threshold_le s.k s.bias
        have hpos := threshold_pos s.k s.bias
        have hlimit := weight_lt hk hweight hbias hge hdelta
        rw [if_neg hn, List.foldlM_cons, step?_further lt_of_le (Nat.le_add_right _ _) hlimit]
        -- What is left of the number, times the new weight, is what is left of the count.
        generalize hrest : (n - threshold s.k s.bias) / (36 - threshold s.k s.bias) = rest
        have hsplit : threshold s.k s.bias +
            (n - threshold s.k s.bias) % (36 - threshold s.k s.bias) +
              rest * (36 - threshold s.k s.bias) = n := by
          have h := Nat.mod_add_div' (n - threshold s.k s.bias) (36 - threshold s.k s.bias)
          rw [hrest] at h
          omega
        have hcount : (threshold s.k s.bias +
            (n - threshold s.k s.bias) % (36 - threshold s.k s.bias)) * s.weight +
              rest * (s.weight * (36 - threshold s.k s.bias)) = n * s.weight := by
          rw [Nat.mul_comm s.weight, ← Nat.mul_assoc, ← Nat.add_mul, hsplit]
        have hless : rest < n := by
          rw [← hrest]
          exact Nat.lt_of_le_of_lt (Nat.div_le_self _ _) (by omega)
        have hnew : s.weight * (36 - threshold s.k s.bias) ≤ 35 ^ (place + 1) := by
          rw [Nat.pow_succ]
          exact Nat.mul_le_mul hweight (by omega)
        refine (ih rest hless ⟨s.out, s.code, s.place, s.bias, s.k + 36,
          s.weight * (36 - threshold s.k s.bias), _, true⟩ (place + 1) ?_ hnew hbias ?_).trans ?_
        · show s.k + 36 = _
          omega
        · show rest * (s.weight * (36 - threshold s.k s.bias)) ≤ maxDelta
          omega
        · show s.insert? _ = _
          rw [Nat.add_assoc, hcount]

/-! ## Bias -/

theorem shrink_le (delta k fits : Nat) (h : delta < 456 * 35 ^ fits) :
    (shrink delta k).1 ≤ 455 ∧ (shrink delta k).2 ≤ k + 36 * fits := by
  induction fits generalizing delta k with
  | zero =>
      have hle : ¬455 < delta := by
        rw [Nat.pow_zero] at h
        omega
      rw [shrink, if_neg hle]
      exact ⟨Nat.le_of_not_lt hle, Nat.le_refl k⟩
  | succ fits ih =>
      rw [shrink]
      by_cases hlt : 455 < delta
      · have hdiv : delta / 35 < 456 * 35 ^ fits := by
          rw [Nat.div_lt_iff_lt_mul (by decide), Nat.mul_assoc, ← Nat.pow_succ]
          exact h
        obtain ⟨hrest, hk⟩ := ih (delta / 35) (k + 36) hdiv
        rw [if_pos hlt]
        exact ⟨hrest, by omega⟩
      · rw [if_neg hlt]
        exact ⟨Nat.le_of_not_lt hlt, Nat.le_add_right k _⟩

theorem adapt_le {delta count : Nat} (first : Bool) (hdelta : delta ≤ maxDelta) :
    adapt delta count first ≤ maxBias := by
  let halved := if first then delta / 700 else delta / 2
  have hhalf : halved ≤ delta / 2 := by
    cases first with
    | true => exact Nat.div_le_div_left (by decide) (by decide)
    | false => exact Nat.le_refl _
  have hpart : halved / count ≤ halved := Nat.div_le_self _ _
  have hsmall : halved + halved / count < 456 * 35 ^ 5 := by
    unfold maxDelta at hdelta
    omega
  obtain ⟨hrest, hk⟩ := shrink_le (halved + halved / count) 0 5 hsmall
  show (shrink (halved + halved / count) 0).2 + 36 * (shrink (halved + halved / count) 0).1 /
    ((shrink (halved + halved / count) 0).1 + 38) ≤ maxBias
  generalize shrink (halved + halved / count) 0 = shrunk at hrest hk ⊢
  have hdiv : 36 * shrunk.1 / (shrunk.1 + 38) < 36 := by
    rw [Nat.div_lt_iff_lt_mul (by omega)]
    omega
  unfold maxBias
  omega

/-! ## The passes -/

/-- What is written tells the decoder the characters before `code`, and of those with this code the ones
that were passed, which stand in `pre`. -/
structure Tracks (front : List Char) (start : Decoder) (pre suf : List Char) (code : Nat)
    (s : Encoder) (d : Decoder) : Prop where
  written : ∃ numbers, s.out = front ++ numbers ∧ (∀ c ∈ numbers, IsDigit c) ∧
    numbers.foldlM Decoder.step? start = some d
  ready : d.k = 36 ∧ d.weight = 1 ∧ d.delta = 0 ∧ d.inside = false
  out : d.out = pre.filter (fun c => c.toNat ≤ code) ++ suf.filter (fun c => c.toNat < code)
  handled : s.handled = d.out.length
  basic_le : s.basic ≤ s.handled
  first : s.handled = s.basic ↔ d.place = 0
  bias : s.bias = d.bias ∧ d.bias ≤ maxBias
  code_le : d.code ≤ code
  delta : s.delta + d.place = (code - d.code) * (d.out.length + 1) +
    (pre.filter (fun c => c.toNat ≤ code)).length

theorem toNat_le (c : Char) : c.toNat ≤ 0x10ffff := by
  rcases c.valid with h | ⟨-, h⟩
  · exact Nat.le_trans (Nat.le_of_lt h) (by decide)
  · exact Nat.le_of_lt_succ h

/-- The decoder puts a character in where the count of places leads. -/
theorem insert?_eq {d : Decoder} {delta place : Nat} {c : Char} (hcode : d.code ≤ c.toNat)
    (hplace : place ≤ d.out.length)
    (hdelta : d.place + delta = (c.toNat - d.code) * (d.out.length + 1) + place) :
    d.insert? delta =
      some ⟨d.out.take place ++ c :: d.out.drop place, c.toNat, place + 1,
        adapt delta (d.out.length + 1) (d.place == 0), 36, 1, 0, false⟩ := by
  have hdiv : (d.place + delta) / (d.out.length + 1) = c.toNat - d.code := by
    rw [hdelta, Nat.mul_comm, Nat.mul_add_div (by omega), Nat.div_eq_of_lt (by omega),
      Nat.add_zero]
  have hmod : (d.place + delta) % (d.out.length + 1) = place := by
    rw [hdelta, Nat.mul_comm, Nat.mul_add_mod, Nat.mod_eq_of_lt (by omega)]
  have hvalid : c.toNat.isValidChar := c.valid
  simp only [Decoder.insert?, hdiv, hmod, Nat.add_sub_cancel' hcode, if_pos hvalid,
    Char.ofNat_toNat]

section Tracks

variable {front : List Char} {start : Decoder} {pre suf : List Char} {code : Nat} {s : Encoder}
  {d : Decoder} {c : Char}

theorem Tracks.length_out_le (h : Tracks front start pre suf code s d) :
    d.out.length ≤ pre.length + suf.length := by
  rw [h.out, List.length_append]
  exact Nat.add_le_add (List.length_filter_le _ _) (List.length_filter_le _ _)

theorem Tracks.delta_le (h : Tracks front start pre suf code s d) (hcode : code ≤ 0x10ffff)
    (hlength : pre.length + suf.length ≤ 1000) : s.delta ≤ maxDelta := by
  have hout := h.length_out_le
  have hdelta := h.delta
  have hfilter : (pre.filter (fun c => c.toNat ≤ code)).length ≤ pre.length :=
    List.length_filter_le _ _
  have hmul : (code - d.code) * (d.out.length + 1) ≤ 0x10ffff * 1001 :=
    Nat.mul_le_mul (by omega) (by omega)
  unfold maxDelta
  omega

/-- A smaller character has its place already, which is counted. -/
theorem Tracks.pass_of_lt (h : Tracks front start pre (c :: suf) code s d) (hc : c.toNat < code) :
    Tracks front start (pre ++ [c]) suf code (s.pass code c) d := by
  have hpass : s.pass code c = ⟨s.out, s.delta + 1, s.bias, s.handled, s.basic⟩ := if_pos hc
  have hle : c.toNat ≤ code := Nat.le_of_lt hc
  rw [hpass]
  refine ⟨h.written, h.ready, ?_, h.handled, h.basic_le, h.first, h.bias, h.code_le, ?_⟩
  · rw [h.out]
    simp [hc, hle]
  · have hdelta := h.delta
    simp only [List.filter_append, List.length_append, List.filter_cons, hle, decide_true, if_true,
      List.filter_nil, List.length_singleton]
    omega

/-- A greater character is for a later round. -/
theorem Tracks.pass_of_gt (h : Tracks front start pre (c :: suf) code s d) (hc : code < c.toNat) :
    Tracks front start (pre ++ [c]) suf code (s.pass code c) d := by
  have hnotlt : ¬c.toNat < code := by omega
  have hnotle : ¬c.toNat ≤ code := by omega
  have hpass : s.pass code c = s := (if_neg hnotlt).trans (if_neg (by omega))
  rw [hpass]
  refine ⟨h.written, h.ready, ?_, h.handled, h.basic_le, h.first, h.bias, h.code_le, ?_⟩
  · rw [h.out]
    simp [hnotlt, hnotle]
  · rw [h.delta]
    simp [hnotle]

/-- A character of this round is written, and put in where it stands. -/
theorem Tracks.pass_of_eq (h : Tracks front start pre (c :: suf) c.toNat s d)
    (hlength : pre.length + (c :: suf).length ≤ 1000) :
    ∃ d', Tracks front start (pre ++ [c]) suf c.toNat (s.pass c.toNat c) d' := by
  have hpass : s.pass c.toNat c =
      ⟨s.out ++ encodeNumber s.bias 36 s.delta, 0,
        adapt s.delta (s.handled + 1) (s.handled == s.basic), s.handled + 1, s.basic⟩ :=
    (if_neg (Nat.lt_irrefl _)).trans (if_pos rfl)
  obtain ⟨numbers, hout, hdigits, hrun⟩ := h.written
  obtain ⟨hk, hweight, hdelta, -⟩ := h.ready
  have hle := h.delta_le (toNat_le c) hlength
  have hread : (encodeNumber s.bias 36 s.delta).foldlM Decoder.step? d = d.insert? s.delta := by
    have h' := foldlM_encodeNumber d 0 s.delta (by rw [hk]) (by rw [hweight]; decide) h.bias.2
      (by rw [hweight, Nat.mul_one]; exact hle)
    rwa [hk, hweight, hdelta, Nat.mul_one, Nat.zero_add, ← h.bias.1] at h'
  have hplace : (pre.filter (fun x => x.toNat ≤ c.toNat)).length ≤ d.out.length := by
    rw [h.out, List.length_append]
    exact Nat.le_add_right _ _
  have hinsert := insert?_eq h.code_le hplace ((Nat.add_comm _ _).trans h.delta)
  have hfirst : (d.place == 0) = (s.handled == s.basic) :=
    Bool.eq_iff_iff.2 (by simpa using h.first.symm)
  have htake : d.out.take (pre.filter (fun x => x.toNat ≤ c.toNat)).length =
      pre.filter (fun x => x.toNat ≤ c.toNat) := by
    rw [h.out]
    exact List.take_left
  have hdrop : d.out.drop (pre.filter (fun x => x.toNat ≤ c.toNat)).length =
      suf.filter (fun x => x.toNat < c.toNat) := by
    rw [h.out, List.drop_left]
    simp
  rw [htake, hdrop] at hinsert
  rw [hpass]
  refine ⟨_, ⟨numbers ++ encodeNumber s.bias 36 s.delta, ?_, ?_,
    (List.foldlM_append.trans (by rw [hrun]; exact hread)).trans hinsert⟩, ⟨rfl, rfl, rfl, rfl⟩, ?_,
    ?_, Nat.le_succ_of_le h.basic_le, ?_, ⟨?_, adapt_le _ hle⟩, Nat.le_refl _, ?_⟩
  · rw [hout, List.append_assoc]
  · intro x hx
    rcases List.mem_append.1 hx with hx | hx
    · exact hdigits x hx
    · exact isDigit_of_mem_encodeNumber hx
  · simp
  · show s.handled + 1 = _
    rw [h.handled, h.out]
    simp
    omega
  · have hbasic := h.basic_le
    exact iff_of_false (by show s.handled + 1 ≠ s.basic; omega) (Nat.succ_ne_zero _)
  · show adapt s.delta (s.handled + 1) _ = _
    rw [hfirst, h.handled]
  · simp

theorem Tracks.foldl_pass (h : Tracks front start pre suf code s d) (hcode : code ≤ 0x10ffff)
    (hlength : pre.length + suf.length ≤ 1000) :
    ∃ d', Tracks front start (pre ++ suf) [] code (suf.foldl (Encoder.pass code) s) d' := by
  induction suf generalizing pre s d with
  | nil =>
      rw [List.append_nil]
      exact ⟨d, h⟩
  | cons c suf ih =>
      have hpassed : ∃ d', Tracks front start (pre ++ [c]) suf code (s.pass code c) d' := by
        rcases Nat.lt_trichotomy c.toNat code with hlt | rfl | hgt
        · exact ⟨d, h.pass_of_lt hlt⟩
        · exact h.pass_of_eq hlength
        · exact ⟨d, h.pass_of_gt hgt⟩
      obtain ⟨d', h'⟩ := hpassed
      have hsum : (pre ++ [c]).length + suf.length ≤ 1000 := by
        simp only [List.length_append, List.length_cons, List.length_nil] at hlength ⊢
        omega
      obtain ⟨d'', h''⟩ := ih h' hsum
      rw [List.append_assoc] at h''
      exact ⟨d'', h''⟩

/-! ## The rounds -/

variable {label : List Char} {next : Nat}

/-- Between two rounds, the places up to the next code point are counted as well. -/
theorem Tracks.ready_for (h : Tracks front start [] label next s d) (hnext : next ≤ code)
    (hnone : ∀ c ∈ label, next ≤ c.toNat → code ≤ c.toNat) :
    Tracks front start [] label code
      ⟨s.out, s.delta + (code - next) * (s.handled + 1), s.bias, s.handled, s.basic⟩ d := by
  have hcode := h.code_le
  refine ⟨h.written, h.ready, ?_, h.handled, h.basic_le, h.first, h.bias,
    Nat.le_trans hcode hnext, ?_⟩
  · rw [h.out]
    refine congrArg _ (List.filter_congr (fun c hc => ?_))
    have hc := hnone c hc
    exact decide_eq_decide.2 (by omega)
  · have hdelta := h.delta
    rw [h.handled] at *
    simp only [List.filter_nil, List.length_nil, Nat.add_zero] at hdelta ⊢
    have hsplit : code - d.code = next - d.code + (code - next) := by omega
    rw [hsplit, Nat.add_mul]
    omega

/-- A round that has passed the whole label ends in front of the next code point. -/
theorem Tracks.finish (h : Tracks front start label [] code s d) :
    Tracks front start [] label (code + 1)
      ⟨s.out, s.delta + 1, s.bias, s.handled, s.basic⟩ d := by
  have hcode := h.code_le
  have hout : d.out = label.filter (fun c => c.toNat ≤ code) := by
    rw [h.out, List.filter_nil, List.append_nil]
  refine ⟨h.written, h.ready, ?_, h.handled, h.basic_le, h.first, h.bias,
    Nat.le_succ_of_le hcode, ?_⟩
  · rw [hout, List.filter_nil, List.nil_append]
    exact List.filter_congr (fun c _ => decide_eq_decide.2 Nat.lt_succ_iff.symm)
  · have hdelta := h.delta
    rw [← hout] at hdelta
    have hsplit : code + 1 - d.code = code - d.code + 1 := by omega
    rw [hsplit, Nat.add_mul]
    simp only [List.filter_nil, List.length_nil]
    omega

theorem Tracks.rounds {later : List Nat} (h : Tracks front start [] label next s d)
    (hlength : label.length ≤ 1000) (hsorted : later.Pairwise (· < ·))
    (hlater : ∀ code, code ∈ later ↔ next ≤ code ∧ ∃ c ∈ label, c.toNat = code) :
    ∃ numbers d', (Encoder.rounds label next s later).out = front ++ numbers ∧
      (∀ c ∈ numbers, IsDigit c) ∧ numbers.foldlM Decoder.step? start = some d' ∧
      d'.inside = false ∧ d'.out = label := by
  induction later generalizing next s d with
  | nil =>
      obtain ⟨numbers, hout, hdigits, hrun⟩ := h.written
      refine ⟨numbers, d, hout, hdigits, hrun, h.ready.2.2.2, ?_⟩
      rw [h.out, List.filter_nil, List.nil_append, List.filter_eq_self]
      intro c hc
      have hnone : c.toNat ∉ ([] : List Nat) := List.not_mem_nil
      rw [hlater] at hnone
      exact decide_eq_true (Nat.lt_of_not_le (fun hle => hnone ⟨hle, c, hc, rfl⟩))
  | cons code later ih =>
      obtain ⟨hbehind, hrest⟩ := List.pairwise_cons.1 hsorted
      obtain ⟨hnext, c, hc, rfl⟩ := (hlater code).1 List.mem_cons_self
      have hnone : ∀ x ∈ label, next ≤ x.toNat → c.toNat ≤ x.toNat := by
        intro x hx hle
        rcases List.mem_cons.1 ((hlater x.toNat).2 ⟨hle, x, hx, rfl⟩) with heq | hin
        · exact Nat.le_of_eq heq.symm
        · exact Nat.le_of_lt (hbehind _ hin)
      obtain ⟨d', h'⟩ := (h.ready_for hnext hnone).foldl_pass (toNat_le c) (by simpa using hlength)
      rw [List.nil_append] at h'
      refine ih h'.finish hrest (fun code => ⟨fun hin => ?_, ?_⟩)
      · exact ⟨hbehind code hin, ((hlater code).1 (List.mem_cons_of_mem _ hin)).2⟩
      · rintro ⟨hlt, hex⟩
        rcases List.mem_cons.1 ((hlater code).2 ⟨by omega, hex⟩) with heq | hin
        · omega
        · exact hin

end Tracks

/-! ## Whole labels -/

theorem pairwise_eraseDups {codes : List Nat} (h : codes.Pairwise (· ≤ ·)) :
    codes.eraseDups.Pairwise (· < ·) := by
  induction hn : codes.length using Nat.strongRecOn generalizing codes with
  | _ n ih =>
      cases codes with
      | nil => simp
      | cons code rest =>
          obtain ⟨hcode, hrest⟩ := List.pairwise_cons.1 h
          rw [List.eraseDups_cons]
          refine List.pairwise_cons.2 ⟨fun other hother => ?_, ?_⟩
          · obtain ⟨hin, hne⟩ := List.mem_filter.1 (List.mem_eraseDups.1 hother)
            have hle := hcode other hin
            have hne : other ≠ code := by simpa using hne
            omega
          · have hlt : (rest.filter (fun other => !other == code)).length < n := by
              rw [← hn]
              exact Nat.lt_succ_of_le (List.length_filter_le _ _)
            exact ih _ hlt (hrest.filter _) rfl

theorem pairwise_codes (label : List Char) : (codes label).Pairwise (· < ·) := by
  have htrans : ∀ a b c : Nat, decide (a ≤ b) = true → decide (b ≤ c) = true →
      decide (a ≤ c) = true := by
    simpa using fun a b c => Nat.le_trans
  have htotal : ∀ a b : Nat, (decide (a ≤ b) || decide (b ≤ a)) = true := by
    simpa using Nat.le_total
  have hsorted := List.pairwise_mergeSort htrans htotal
    ((label.filter (fun c => !Text.isAscii c)).map Char.toNat)
  exact pairwise_eraseDups (by simpa using hsorted)

theorem mem_codes {label : List Char} {code : Nat} :
    code ∈ codes label ↔ 0x80 ≤ code ∧ ∃ c ∈ label, c.toNat = code := by
  rw [codes, List.mem_eraseDups, List.mem_mergeSort, List.mem_map]
  constructor
  · rintro ⟨c, hc, rfl⟩
    obtain ⟨hin, hascii⟩ := List.mem_filter.1 hc
    exact ⟨by simpa [Text.isAscii] using hascii, c, hin, rfl⟩
  · rintro ⟨hle, c, hin, rfl⟩
    exact ⟨c, List.mem_filter.2 ⟨hin, by simpa [Text.isAscii] using hle⟩, rfl⟩

/-- The text in front of the numbers. -/
def front (label : List Char) : List Char :=
  if (label.filter Text.isAscii).isEmpty then [] else label.filter Text.isAscii ++ ['-']

/-- An encoded label is its ASCII characters and numbers, which tell the decoder the others. -/
theorem encode_eq {label : List Char} (hlength : label.length ≤ 1000) :
    ∃ numbers d, encode label = front label ++ numbers ∧ (∀ c ∈ numbers, IsDigit c) ∧
      numbers.foldlM Decoder.step?
        ⟨label.filter Text.isAscii, 0x80, 0, initialBias, 36, 1, 0, false⟩ = some d ∧
      d.inside = false ∧ d.out = label := by
  let basic := label.filter Text.isAscii
  let s : Encoder := ⟨front label, 0, initialBias, basic.length, basic.length⟩
  let d : Decoder := ⟨basic, 0x80, 0, initialBias, 36, 1, 0, false⟩
  have htracks : Tracks (front label) d [] label 0x80 s d :=
    { written := ⟨[], (List.append_nil _).symm, nofun, rfl⟩
      ready := ⟨rfl, rfl, rfl, rfl⟩
      out := rfl
      handled := rfl
      basic_le := Nat.le_refl _
      first := iff_of_true rfl rfl
      bias := ⟨rfl, show initialBias ≤ maxBias by decide⟩
      code_le := Nat.le_refl _
      delta := by simp [s, d] }
  exact htracks.rounds hlength (pairwise_codes label) (fun _ => mem_codes)

theorem divide_append (basic : List Char) {numbers : List Char}
    (hnumbers : ∀ c ∈ numbers, c ≠ '-') :
    divide (basic ++ '-' :: numbers) =
      if basic.isEmpty then ([], basic ++ '-' :: numbers) else (basic, numbers) := by
  have hlast : ((basic ++ '-' :: numbers).reverse.takeWhile (· != '-')).reverse = numbers := by
    rw [List.reverse_append, List.reverse_cons, List.append_assoc,
      List.takeWhile_append_of_pos (by simpa using hnumbers)]
    simp
  have htake : (basic ++ '-' :: numbers).take
      ((basic ++ '-' :: numbers).length - numbers.length - 1) = basic := by
    have hlength : (basic ++ '-' :: numbers).length - numbers.length - 1 = basic.length := by
      simp only [List.length_append, List.length_cons]
      omega
    rw [hlength, List.take_left]
  have hmark : (basic ++ '-' :: numbers).contains '-' = true := by simp
  simp only [divide, hlast, htake, hmark, if_true]

theorem divide_of_forall_ne {numbers : List Char} (h : ∀ c ∈ numbers, c ≠ '-') :
    divide numbers = ([], numbers) := by
  have hnot : numbers.contains '-' = false := by
    rw [List.contains_eq_mem, decide_eq_false_iff_not]
    exact fun hin => h '-' hin rfl
  rw [divide, hnot]
  rfl

/-- A label of at most a thousand characters is what its encoding decodes to. -/
theorem decode?_encode {label : List Char} (hlength : label.length ≤ 1000) :
    decode? (encode label) = some label := by
  obtain ⟨numbers, d, hencode, hdigits, hrun, hinside, hout⟩ := encode_eq hlength
  have hne : ∀ c ∈ numbers, c ≠ '-' := fun c hc => (hdigits c hc).ne_hyphen
  have hdivide : divide (encode label) = (label.filter Text.isAscii, numbers) := by
    rw [hencode]
    by_cases hbasic : label.filter Text.isAscii = []
    · simp only [front, hbasic, List.isEmpty_nil, if_true, List.nil_append]
      exact divide_of_forall_ne hne
    · simp only [front, List.isEmpty_eq_false_iff.2 hbasic, Bool.false_eq_true, if_false,
        List.append_assoc, List.singleton_append, divide_append _ hne]
  simp only [decode?, hdivide, hrun, hinside, hout]
  rfl

/-! ## Characters -/

theorem mem_encode {label : List Char} (hlength : label.length ≤ 1000) {c : Char}
    (h : c ∈ encode label) : (c ∈ label ∧ Text.isAscii c = true) ∨ c = '-' ∨ IsDigit c := by
  obtain ⟨numbers, d, hencode, hdigits, -⟩ := encode_eq hlength
  rw [hencode, List.mem_append] at h
  rcases h with h | h
  · unfold front at h
    split at h
    · exact absurd h List.not_mem_nil
    · rcases List.mem_append.1 h with h | h
      · exact Or.inl (List.mem_filter.1 h)
      · exact Or.inr (Or.inl (List.mem_singleton.1 h))
  · exact Or.inr (Or.inr (hdigits c h))

theorem isDigit_of_value? {c : Char} {n : Nat} (h : value? c = some n) : IsDigit c := by
  unfold value? at h
  by_cases hletter : 'a' ≤ c ∧ c ≤ 'z'
  · rw [if_pos hletter] at h
    have hlow : 0x61 ≤ c.toNat := hletter.1
    have hhigh : c.toNat ≤ 0x7a := hletter.2
    obtain rfl := Option.some.inj h
    refine ⟨c.toNat - 0x61, by omega, ?_⟩
    rw [digit, if_pos (by omega), Nat.add_sub_cancel' hlow, Char.ofNat_toNat]
  · rw [if_neg hletter] at h
    by_cases hdecimal : '0' ≤ c ∧ c ≤ '9'
    · rw [if_pos hdecimal] at h
      have hlow : 0x30 ≤ c.toNat := hdecimal.1
      have hhigh : c.toNat ≤ 0x39 := hdecimal.2
      obtain rfl := Option.some.inj h
      refine ⟨c.toNat - 0x16, by omega, ?_⟩
      rw [digit, if_neg (by omega), Nat.add_sub_cancel' (by omega), Char.ofNat_toNat]
    · rw [if_neg hdecimal] at h
      cases h

theorem mem_out_of_insert? {s s' : Decoder} {delta : Nat} (h : s.insert? delta = some s') {c : Char}
    (hc : c ∈ s.out) : c ∈ s'.out := by
  simp only [Decoder.insert?] at h
  split at h
  case isTrue =>
    obtain rfl := Option.some.inj h
    generalize (s.place + delta) % (s.out.length + 1) = place
    rw [← List.take_append_drop place s.out, List.mem_append] at hc
    show c ∈ s.out.take place ++ _ :: s.out.drop place
    rw [List.mem_append, List.mem_cons]
    exact hc.imp_right Or.inr
  case isFalse => cases h

/-- A step reads a digit, and drops nothing. -/
theorem step?_spec {s s' : Decoder} {c : Char} (h : s.step? c = some s') :
    IsDigit c ∧ ∀ d ∈ s.out, d ∈ s'.out := by
  unfold Decoder.step? at h
  cases hvalue : value? c with
  | none => simp [hvalue] at h
  | some value =>
      refine ⟨isDigit_of_value? hvalue, fun d hd => ?_⟩
      simp only [hvalue, bind, Option.bind] at h
      split at h
      case isTrue => exact mem_out_of_insert? h hd
      case isFalse =>
        split at h
        case isTrue => cases h
        case isFalse =>
          obtain rfl := Option.some.inj h
          exact hd

theorem foldlM_step?_spec {numbers : List Char} {s s' : Decoder}
    (h : numbers.foldlM Decoder.step? s = some s') :
    (∀ c ∈ numbers, IsDigit c) ∧ ∀ d ∈ s.out, d ∈ s'.out := by
  induction numbers generalizing s with
  | nil =>
      obtain rfl : s = s' := Option.some.inj h
      exact ⟨nofun, fun d hd => hd⟩
  | cons c numbers ih =>
      rw [List.foldlM_cons] at h
      obtain ⟨next, hstep, hrest⟩ := Option.bind_eq_some_iff.1 h
      obtain ⟨hdigit, hkept⟩ := step?_spec hstep
      obtain ⟨hdigits, hkept'⟩ := ih hrest
      exact ⟨List.forall_mem_cons.2 ⟨hdigit, hdigits⟩, fun d hd => hkept' d (hkept d hd)⟩

theorem mem_divide {cs : List Char} {c : Char} (h : c ∈ cs) :
    c ∈ (divide cs).1 ∨ c = '-' ∨ c ∈ (divide cs).2 := by
  by_cases hmark : '-' ∈ cs
  · obtain ⟨numbers, basic, hsplit, hnumbers⟩ :=
      List.eq_append_cons_of_mem (List.mem_reverse.2 hmark)
    obtain rfl : cs = basic.reverse ++ '-' :: numbers.reverse := by
      rw [← List.reverse_reverse cs, hsplit]
      simp
    have hne : ∀ c ∈ numbers.reverse, c ≠ '-' := by
      rintro c hc rfl
      exact hnumbers (List.mem_reverse.1 hc)
    rw [divide_append _ hne]
    split
    case isTrue => exact Or.inr (Or.inr h)
    case isFalse => simpa using h
  · rw [divide_of_forall_ne (fun c hc hmark' => hmark (hmark' ▸ hc))]
    exact Or.inr (Or.inr h)

/-- What is decoded holds every character of the code that is neither a digit nor the hyphen. -/
theorem mem_of_decode? {cs meaning : List Char} (h : decode? cs = some meaning) {c : Char}
    (hc : c ∈ cs) : c ∈ meaning ∨ c = '-' ∨ IsDigit c := by
  simp only [decode?] at h
  split at h
  case h_1 => cases h
  case h_2 s hrun =>
    obtain ⟨hdigits, hkept⟩ := foldlM_step?_spec hrun
    split at h
    case isTrue => cases h
    case isFalse =>
      obtain rfl := Option.some.inj h
      rcases mem_divide hc with hin | rfl | hin
      · exact Or.inl (hkept c hin)
      · exact Or.inr (Or.inl rfl)
      · exact Or.inr (Or.inr (hdigits c hin))

end Punycode
end Domain
end RealmTokens
