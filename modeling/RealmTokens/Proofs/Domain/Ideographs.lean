/-
Labels of ideographs.

No table has a row for an ideograph, so a label of ideographs is in its final form and is a name.  The
encoder writes a number for every ideograph, and a number of more than one digit where the next ideograph
is far from the last.  Main statement: a label of ideographs that are far from each other has more than
two digits for each of them in ASCII, so that the longest of these labels are too long for the decoder.
-/
import RealmTokens.Proofs.Domain.Punycode
import RealmTokens.Proofs.Domain.Reread
import RealmTokens.Proofs.Domain.Tables

namespace RealmTokens

/-! ## Numbers -/

namespace Domain
namespace Punycode

variable {n : Nat}

theorem one_le_length_encodeNumber (bias k n : Nat) : 1 ≤ (encodeNumber bias k n).length := by
  rw [encodeNumber]
  split
  · exact Nat.le_refl 1
  · exact Nat.succ_le_succ (Nat.zero_le _)

/-- A number that is no digit by itself has a digit in front of another number. -/
theorem length_encodeNumber (bias k : Nat) (h : 26 ≤ n) :
    ∃ rest, (encodeNumber bias k n).length = (encodeNumber bias (k + 36) rest).length + 1 ∧
      n - 26 ≤ 35 * (rest + 1) := by
  have hle := threshold_le k bias
  have hpos := threshold_pos k bias
  refine ⟨(n - threshold k bias) / (36 - threshold k bias), ?_, ?_⟩
  · conv_lhs => rw [encodeNumber]
    rw [if_neg (by omega), List.length_cons]
  · have hdiv := Nat.lt_mul_div_succ (n - threshold k bias) (show 0 < 36 - threshold k bias by omega)
    have hmul : (36 - threshold k bias) * ((n - threshold k bias) / (36 - threshold k bias) + 1) ≤
        35 * ((n - threshold k bias) / (36 - threshold k bias) + 1) :=
      Nat.mul_le_mul_right _ (by omega)
    omega

theorem two_le_length_encodeNumber (bias k : Nat) (h : 26 ≤ n) :
    2 ≤ (encodeNumber bias k n).length := by
  obtain ⟨rest, hlength, -⟩ := length_encodeNumber bias k h
  have hrest := one_le_length_encodeNumber bias (k + 36) rest
  omega

theorem three_le_length_encodeNumber (bias k : Nat) (h : 962 ≤ n) :
    3 ≤ (encodeNumber bias k n).length := by
  obtain ⟨rest, hlength, hle⟩ := length_encodeNumber bias k (show 26 ≤ n by omega)
  have hrest := two_le_length_encodeNumber bias (k + 36) (show 26 ≤ rest by omega)
  omega

/-! ## Rounds -/

namespace Encoder

variable {code : Nat} {s : Encoder} {cs : List Char}

/-- Whether an encoder has nothing less than another one. -/
structure Within (s t : Encoder) : Prop where
  out : s.out.length ≤ t.out.length
  handled : s.handled ≤ t.handled

theorem within_pass (code : Nat) (s : Encoder) (c : Char) : s.Within (pass code s c) := by
  unfold pass
  split
  case isTrue => exact ⟨Nat.le_refl _, Nat.le_refl _⟩
  case isFalse =>
    split
    case isTrue =>
      refine ⟨?_, Nat.le_succ _⟩
      rw [List.length_append]
      exact Nat.le_add_right _ _
    case isFalse => exact ⟨Nat.le_refl _, Nat.le_refl _⟩

theorem within_foldl_pass (code : Nat) (s : Encoder) (cs : List Char) :
    s.Within (cs.foldl (pass code) s) := by
  induction cs generalizing s with
  | nil => exact ⟨Nat.le_refl _, Nat.le_refl _⟩
  | cons c cs ih =>
      have hc := within_pass code s c
      have hcs := ih (pass code s c)
      exact ⟨Nat.le_trans hc.out hcs.out, Nat.le_trans hc.handled hcs.handled⟩

/-- Another character leaves the text alone and does not take from the count. -/
theorem pass_of_ne {c : Char} (hne : c.toNat ≠ code) :
    (pass code s c).out = s.out ∧ s.delta ≤ (pass code s c).delta ∧
      (pass code s c).bias = s.bias ∧ (pass code s c).handled = s.handled := by
  unfold pass
  split
  case isTrue => exact ⟨rfl, Nat.le_succ _, rfl, rfl⟩
  case isFalse => exact ⟨rfl, Nat.le_refl _, rfl, rfl⟩

/-- The round of a character writes a number that is no less than the count before the round. -/
theorem exists_number_of_foldl_pass (h : ∃ c ∈ cs, c.toNat = code) :
    ∃ n, s.delta ≤ n ∧
      s.out.length + (encodeNumber s.bias 36 n).length ≤ (cs.foldl (pass code) s).out.length ∧
      s.handled < (cs.foldl (pass code) s).handled := by
  induction cs generalizing s with
  | nil =>
      obtain ⟨c, hc, -⟩ := h
      exact absurd hc List.not_mem_nil
  | cons c cs ih =>
      rw [List.foldl_cons]
      by_cases heq : c.toNat = code
      · have hpass : pass code s c =
            ⟨s.out ++ encodeNumber s.bias 36 s.delta, 0,
              adapt s.delta (s.handled + 1) (s.handled == s.basic), s.handled + 1, s.basic⟩ := by
          rw [pass, if_neg (by omega), if_pos heq]
        have hrest := within_foldl_pass code (pass code s c) cs
        refine ⟨s.delta, Nat.le_refl _, ?_, ?_⟩
        · rw [← List.length_append]
          rw [hpass] at hrest ⊢
          exact hrest.out
        · rw [hpass] at hrest ⊢
          exact hrest.handled
      · have hlater : ∃ d ∈ cs, d.toNat = code := by
          obtain ⟨d, hd, hcode⟩ := h
          rcases List.mem_cons.1 hd with rfl | hd
          · exact absurd hcode heq
          · exact ⟨d, hd, hcode⟩
        obtain ⟨hout, hdelta, hbias, hhandled⟩ := pass_of_ne (s := s) heq
        obtain ⟨n, hn, hlength, hmore⟩ := ih (s := pass code s c) hlater
        rw [hout, hbias] at hlength
        rw [hhandled] at hmore
        exact ⟨n, Nat.le_trans hdelta hn, hlength, hmore⟩

/-- A round writes a number that is no less than the way from the last one. -/
theorem exists_after_round {label : List Char} (h : ∃ c ∈ label, c.toNat = code) (next : Nat)
    (s : Encoder) (later : List Nat) :
    ∃ after n, rounds label next s (code :: later) = rounds label (code + 1) after later ∧
      (code - next) * (s.handled + 1) ≤ n ∧
      s.out.length + (encodeNumber s.bias 36 n).length ≤ after.out.length ∧
      s.handled < after.handled := by
  let ready : Encoder :=
    ⟨s.out, s.delta + (code - next) * (s.handled + 1), s.bias, s.handled, s.basic⟩
  obtain ⟨n, hn, hlength, hmore⟩ := exists_number_of_foldl_pass (s := ready) h
  let passed := label.foldl (pass code) ready
  exact ⟨⟨passed.out, passed.delta + 1, passed.bias, passed.handled, passed.basic⟩, n, rfl,
    Nat.le_trans (Nat.le_add_left _ _) hn, hlength, hmore⟩

end Encoder

open Encoder

/-- Whether each code point is far from the one before it. -/
def FarApart (codes : List Nat) : Prop := codes.Pairwise (fun a b => a + 20 ≤ b)

/-- Every round that begins far from the last writes two digits. -/
theorem length_rounds {label : List Char} {next : Nat} {s : Encoder} {later : List Nat}
    (hlater : ∀ code ∈ later, ∃ c ∈ label, c.toNat = code) (hfar : FarApart later)
    (hnext : ∀ code ∈ later, next + 19 ≤ code) (hhandled : 1 ≤ s.handled) :
    s.out.length + 2 * later.length ≤ (rounds label next s later).out.length := by
  induction later generalizing next s with
  | nil => exact Nat.le_refl _
  | cons code later ih =>
      obtain ⟨hbehind, hrest⟩ := List.pairwise_cons.1 hfar
      obtain ⟨hcode, hcodes⟩ := List.forall_mem_cons.1 hlater
      obtain ⟨after, n, hround, hn, hlength, hmore⟩ := exists_after_round hcode next s later
      have hgap := hnext code List.mem_cons_self
      have hway : 19 * 2 ≤ (code - next) * (s.handled + 1) :=
        Nat.mul_le_mul (by omega) (Nat.succ_le_succ hhandled)
      have htwo := two_le_length_encodeNumber s.bias 36 (show 26 ≤ n by omega)
      have hothers := ih (s := after) hcodes hrest hbehind (by omega)
      rw [hround, List.length_cons]
      exact Nat.le_trans (by omega) hothers

/-! ## Whole labels -/

section Label

variable {label : List Char}

theorem length_codes (hplain : ∀ c ∈ label, 0x80 ≤ c.toNat) (hnodup : label.Nodup) :
    (codes label).length = label.length := by
  have hinjective : (label.map Char.toNat).Nodup :=
    List.Pairwise.map Char.toNat (fun _ _ hne heq => hne (Char.toNat_inj.1 heq)) hnodup
  have hperm : (codes label).Perm (label.map Char.toNat) := by
    refine (List.perm_ext_iff_of_nodup ?_ hinjective).2 (fun code => ?_)
    · exact (pairwise_codes label).imp (fun hlt => Nat.ne_of_lt hlt)
    · rw [mem_codes, List.mem_map]
      refine ⟨fun h => h.2, fun h => ⟨?_, h⟩⟩
      obtain ⟨c, hc, rfl⟩ := h
      exact hplain c hc
  rw [hperm.length_eq, List.length_map]

/-- Code points of one residue are far apart. -/
theorem farApart_codes {r : Nat} (h : ∀ c ∈ label, c.toNat % 20 = r) :
    FarApart (codes label) := by
  have hcodes : ∀ code ∈ codes label, code % 20 = r := by
    intro code hcode
    obtain ⟨-, c, hc, rfl⟩ := mem_codes.1 hcode
    exact h c hc
  refine (pairwise_codes label).imp_of_mem (fun {a b} ha hb hlt => ?_)
  have hresidue := (hcodes a ha).trans (hcodes b hb).symm
  omega

/-- A label of characters that are far from ASCII and from each other has more than two digits for each. -/
theorem length_encode (hne : label ≠ []) (hplain : ∀ c ∈ label, 0x80 + 962 ≤ c.toNat)
    (hnodup : label.Nodup) (hfar : FarApart (codes label)) :
    2 * label.length < (encode label).length := by
  have hbasic : label.filter Text.isAscii = [] := by
    refine List.filter_eq_nil_iff.2 (fun c hc hascii => ?_)
    have hlarge := hplain c hc
    have hsmall : c.toNat < 0x80 := of_decide_eq_true hascii
    omega
  have hlength := length_codes (fun c hc => Nat.le_trans (Nat.le_add_right _ _) (hplain c hc)) hnodup
  have hencode : encode label = (rounds label 0x80 ⟨[], 0, initialBias, 0, 0⟩ (codes label)).out := by
    rw [encode, hbasic]
    rfl
  rw [hencode, ← hlength]
  have hmem : ∀ code ∈ codes label, ∃ c ∈ label, c.toNat = code :=
    fun code hcode => (mem_codes.1 hcode).2
  cases hcodes : codes label with
  | nil =>
      rw [hcodes] at hlength
      exact absurd (List.length_eq_zero_iff.1 hlength.symm) hne
  | cons code later =>
      -- The first round comes all the way from ASCII.
      rw [hcodes] at hfar hmem
      obtain ⟨hbehind, hrest⟩ := List.pairwise_cons.1 hfar
      obtain ⟨hcode, hlater⟩ := List.forall_mem_cons.1 hmem
      obtain ⟨after, n, hround, hn, hlength, hmore⟩ :=
        exists_after_round hcode 0x80 ⟨[], 0, initialBias, 0, 0⟩ later
      have hway : 962 ≤ n := by
        obtain ⟨c, hc, rfl⟩ := hcode
        have hlarge := hplain c hc
        have hn : (c.toNat - 0x80) * (0 + 1) ≤ n := hn
        omega
      have hthree : 3 ≤ after.out.length :=
        Nat.le_trans (three_le_length_encodeNumber initialBias 36 hway)
          (Nat.le_trans (Nat.le_add_left _ _) hlength)
      have hothers := length_rounds (s := after) hlater hrest hbehind hmore
      rw [hround, List.length_cons]
      exact Nat.lt_of_lt_of_le (by omega) hothers

end Label

end Punycode
end Domain

/-! ## Ideographs -/

namespace Text

/-- Whether a character is one of the ideographs that are looked at here. -/
structure IsIdeograph (c : Char) : Prop where
  first : firstIdeograph ≤ c.toNat
  last : c.toNat ≤ lastIdeograph

namespace IsIdeograph

variable {a b c : Char} {cs : List Char}

theorem not_isAscii (h : IsIdeograph c) : isAscii c = false :=
  decide_eq_false (Nat.not_lt.2 (Nat.le_trans (by decide) h.first))

theorem ne_of_lt (h : IsIdeograph c) {d : Char} (hd : d.toNat < firstIdeograph) : c ≠ d := by
  rintro rfl
  exact absurd h.first (Nat.not_le.2 hd)

theorem not_contains (h : IsIdeograph c) {s : CodeSet} (hs : ideographCheck s = true) :
    s.contains c = false :=
  CodeSet.contains_eq_false_of_apart hs h.first h.last

theorem not_isHangul (h : IsIdeograph c) : isHangul c.toNat = false := by
  have hlast := h.last
  unfold lastIdeograph at hlast
  rw [isHangul, hangulBase, Bool.and_eq_false_iff]
  exact Or.inl (decide_eq_false (by omega))

/-- An ideograph is not taken apart. -/
theorem decomposeChar_eq (h : IsIdeograph c) : decomposeChar c = [c] := by
  have hnone : decompositionMap.get? c = none :=
    CodeMap.get?_eq_none_of_apart
      (fun row hrow => (Bool.and_eq_true_iff.1 (List.all_eq_true.1 decompositionMap_passes row hrow)).1)
      h.first h.last
  rw [decomposeChar, h.not_isAscii, h.not_isHangul, hnone]
  rfl

theorem combiningClass_eq (h : IsIdeograph c) : combiningClass c = 0 := by
  have hnone : combiningClassMap.rows.find? (fun row => row.1.contains c.toNat) = none := by
    refine List.find?_eq_none.2 (fun row hrow => ?_)
    rw [CodeSpan.contains_eq_false_of_apart (List.all_eq_true.1 combiningClassMap_passes row hrow) h.first
      h.last]
    exact Bool.false_ne_true
  rw [combiningClass, h.not_isAscii, hnone]
  rfl

/-- An ideograph is not put together with another one. -/
theorem composePair?_eq_none (ha : IsIdeograph a) (b : Char) : composePair? a b = none := by
  have hfirst := ha.first
  have hlast := ha.last
  unfold firstIdeograph at hfirst
  unfold lastIdeograph at hlast
  have hhangul : composeHangul? a.toNat b.toNat = none := by
    rw [composeHangul?, if_neg, if_neg]
    · rw [ha.not_isHangul]
      exact fun hin => Bool.false_ne_true hin.1
    · rw [leadBase, leadCount]
      omega
  have hnone : compositionMap.rows.find? (fun row => row.2 == [a.toNat, b.toNat]) = none := by
    refine List.find?_eq_none.2 (fun row hrow => ?_)
    obtain ⟨-, hparts⟩ := Bool.and_eq_true_iff.1 (List.all_eq_true.1 compositionMap_passes row hrow)
    intro heq
    rw [beq_iff_eq.1 heq, List.all_cons, Bool.and_eq_true, Bool.or_eq_true, Nat.blt_eq,
      Nat.blt_eq] at hparts
    unfold firstIdeograph lastIdeograph at hparts
    omega
  rw [composePair?, hhangul, hnone]
  rfl

/-- Ideographs have no marks among them to put in order. -/
theorem orderMarks_eq (h : ∀ c ∈ cs, IsIdeograph c) : orderMarks cs = cs := by
  induction cs with
  | nil => rfl
  | cons c cs ih =>
      obtain ⟨hc, hcs⟩ := List.forall_mem_cons.1 h
      have hplace : orderMarks (c :: cs) = placeMark c (orderMarks cs) := rfl
      rw [hplace, ih hcs]
      cases cs with
      | nil => rfl
      | cons d cs =>
          rw [placeMark, hc.combiningClass_eq, if_neg]
          exact fun hlt => absurd hlt.2 (Nat.not_lt_zero _)

/-- Each ideograph is put behind what is composed before it. -/
theorem foldl_step (h : ∀ c ∈ cs, IsIdeograph c) {s : Composing} (hmarks : s.marks = [])
    (hstarter : ∀ starter, s.starter = some starter → IsIdeograph starter) :
    (cs.foldl Composing.step s).toList = s.toList ++ cs := by
  induction cs generalizing s with
  | nil => exact (List.append_nil _).symm
  | cons c cs ih =>
      obtain ⟨hc, hcs⟩ := List.forall_mem_cons.1 h
      have hstep : Composing.step s c = ⟨s.toList, some c, []⟩ := by
        rw [Composing.step, hc.combiningClass_eq]
        cases hopen : s.starter with
        | none => rfl
        | some starter =>
            simp only [(hstarter starter hopen).composePair?_eq_none, ite_self, if_true]
      have hrest := ih (s := ⟨s.toList, some c, []⟩) hcs rfl
        (fun starter heq => Option.some.inj heq ▸ hc)
      rw [List.foldl_cons, hstep, hrest]
      simp [Composing.toList]

theorem compose_eq (h : ∀ c ∈ cs, IsIdeograph c) : compose cs = cs := by
  have hparts : cs.flatMap decomposeChar = cs := by
    rw [List.flatMap_congr (fun c hc => (h c hc).decomposeChar_eq)]
    exact List.flatMap_singleton' cs
  rw [compose, hparts, orderMarks_eq h]
  split
  case isTrue => rfl
  case isFalse =>
    exact foldl_step h rfl (fun starter hnone => absurd hnone.symm (Option.some_ne_none starter))

end IsIdeograph

end Text

namespace Domain

open Text (IsIdeograph)

variable {c : Char} {label : List Char}

theorem mapChar?_of_isIdeograph (h : IsIdeograph c) : mapChar? c = some [c] := by
  have hnone : replacementMap.get? c = none :=
    Text.CodeMap.get?_eq_none_of_apart
      (fun row hrow => (Bool.and_eq_true_iff.1
        (List.all_eq_true.1 (Bool.and_eq_true_iff.1 replacementMap_passes).1 row hrow)).1)
      h.first h.last
  rw [mapChar?, h.not_isAscii, h.not_contains refusedSet_passes, h.not_contains ignoredSet_passes,
    hnone]
  rfl

theorem not_isForbidden_of_isIdeograph (h : IsIdeograph c) : isForbidden c = false := by
  have hmarks : ∀ d ∈ "%#/:<>?@[\\]^|".toList, d.toNat < Text.firstIdeograph :=
    Text.forall_mem_of_all (by decide)
  have hfirst := h.first
  unfold Text.firstIdeograph at hfirst
  simp only [isForbidden, Bool.or_eq_false_iff, decide_eq_false_iff_not, beq_eq_false_iff_ne,
    List.contains_eq_mem]
  exact ⟨⟨by omega, by omega⟩, fun hin => h.ne_of_lt (hmarks c hin) rfl⟩

/-- An ideograph does not put its name under the rule for mixed directions. -/
theorem not_isRightToLeft_of_isIdeograph (h : IsIdeograph c) : isRightToLeft c = false := by
  obtain ⟨hright, hletter, hnumber⟩ := directionSets_pass
  have hdirection : direction c ≠ .rightToLeft ∧ direction c ≠ .arabicNumber := by
    rw [direction, h.not_isAscii, h.not_contains hright, h.not_contains hletter,
      h.not_contains hnumber]
    simp only [Bool.false_eq_true, Bool.or_self, if_false]
    split
    · decide
    · split
      · decide
      · split <;> decide
  simp [isRightToLeft, hdirection.1, hdirection.2]

theorem joinersAllowed_of_isIdeograph (h : ∀ c ∈ label, IsIdeograph c) (before : List Char) :
    joinersAllowed before label = true := by
  induction label generalizing before with
  | nil => rfl
  | cons c label ih =>
      obtain ⟨hc, hlabel⟩ := List.forall_mem_cons.1 h
      have hnon : c ≠ '\u200c' := hc.ne_of_lt (by decide)
      have hjoiner : c ≠ '\u200d' := hc.ne_of_lt (by decide)
      simp [joinersAllowed, hnon, hjoiner, ih hlabel]

theorem not_all_isAscii_of_isIdeograph (hne : label ≠ []) (h : ∀ c ∈ label, IsIdeograph c) :
    label.all Text.isAscii = false := by
  obtain ⟨c, cs, rfl⟩ := List.exists_cons_of_ne_nil hne
  rw [List.all_cons, (h c List.mem_cons_self).not_isAscii]
  rfl

/-- A label of ideographs is in its final form. -/
theorem validLabel_of_isIdeograph (hne : label ≠ []) (h : ∀ c ∈ label, IsIdeograph c) :
    validLabel label = true := by
  obtain ⟨c, cs, rfl⟩ := List.exists_cons_of_ne_nil hne
  have hc := h c List.mem_cons_self
  have hchars : (c :: cs).all (fun c => !isForbidden c && mapChar? c == some [c]) = true := by
    refine List.all_eq_true.2 (fun d hd => ?_)
    rw [not_isForbidden_of_isIdeograph (h d hd), mapChar?_of_isIdeograph (h d hd)]
    exact beq_self_eq_true _
  rw [validLabel, not_all_isAscii_of_isIdeograph hne h, hchars, IsIdeograph.compose_eq h,
    joinersAllowed_of_isIdeograph h, List.head?_cons, Option.any_some, hc.not_contains markSet_passes]
  simp

/-- A label of at most a thousand ideographs is a name, which is its encoding behind the mark. -/
theorem toAscii?_of_isIdeograph (hne : label ≠ []) (h : ∀ c ∈ label, IsIdeograph c)
    (hlength : label.length ≤ maxEncoded) :
    toAscii? label = some (encodedMark ++ Punycode.encode label) := by
  have hmapped : mapChars? label = some label := by
    have hall := mapM_eq_some_of_forall (f := mapChar?) (g := fun c => [c]) label
      (fun c hc => mapChar?_of_isIdeograph (h c hc))
    rw [mapChars?, hall, Option.map_some, ← List.flatMap_def, List.flatMap_singleton']
  have hdot : '.' ∉ label := fun hin => (h '.' hin).ne_of_lt (by decide) rfl
  have hmark : encodedMark.isPrefixOf label = false := by
    refine Bool.eq_false_iff.2 (fun hmark => ?_)
    obtain ⟨rest, rfl⟩ := List.isPrefixOf_iff_prefix.1 hmark
    exact (h 'x' (List.mem_append_left _ (by decide))).ne_of_lt (by decide) rfl
  have hlabel : label? label = some ⟨encodedMark ++ Punycode.encode label, label⟩ := by
    rw [label?, hmark, not_all_isAscii_of_isIdeograph hne h, acceptable, decide_eq_true hlength,
      validLabel_of_isIdeograph hne h]
    rfl
  have hbidi : bidiAllowed [⟨encodedMark ++ Punycode.encode label, label⟩] = true := by
    have hnone : label.any isRightToLeft = false :=
      List.any_eq_false.2 (fun c hc => by simp [not_isRightToLeft_of_isIdeograph (h c hc)])
    simp [bidiAllowed, hne, hnone]
  refine toAscii?_eq_some_iff.2 ⟨label, [⟨_, label⟩], hmapped, ?_, hbidi, ?_⟩
  · rw [IsIdeograph.compose_eq h, List.splitOn_eq_singleton hdot]
    simp [hlabel]
  · simp

/-! ## Labels that are too long for the decoder -/

/-- The encoding of a label of ideographs has no dot. -/
theorem splitOn_encode_of_isIdeograph (h : ∀ c ∈ label, IsIdeograph c)
    (hlength : label.length ≤ maxEncoded) :
    (encodedMark ++ Punycode.encode label).splitOn '.' = [encodedMark ++ Punycode.encode label] := by
  refine List.splitOn_eq_singleton (fun hin => ?_)
  rcases List.mem_append.1 hin with hin | hin
  · exact absurd hin (by decide)
  · rcases Punycode.mem_encode hlength hin with ⟨hmem, -⟩ | heq | hdigit
    · exact (h '.' hmem).ne_of_lt (by decide) rfl
    · exact absurd heq (by decide)
    · exact hdigit.ne_dot rfl

/-- A label of the greatest length is not read once it is encoded, if its ideographs are far from each
other. -/
theorem not_readable_of_isIdeograph (h : ∀ c ∈ label, IsIdeograph c) (hlength : label.length = maxEncoded)
    (hnodup : label.Nodup) (hfar : Punycode.FarApart (Punycode.codes label)) :
    ¬Readable (encodedMark ++ Punycode.encode label) := by
  have hne : label ≠ [] := by
    rintro rfl
    cases hlength
  have hplain : ∀ c ∈ label, 0x80 + 962 ≤ c.toNat :=
    fun c hc => Nat.le_trans (by decide) (h c hc).first
  have hlong := Punycode.length_encode hne hplain hnodup hfar
  intro readable
  have hpart := readable (encodedMark ++ Punycode.encode label)
    (by rw [splitOn_encode_of_isIdeograph h (Nat.le_of_eq hlength)]; exact List.mem_cons_self)
    (List.prefix_append _ _)
  rw [hlength, maxEncoded] at hlong
  rw [List.length_append, maxDecoded] at hpart
  omega

/-- A thousand ideographs with nineteen others between each two. -/
def farIdeographs : List Char := (List.range 1000).map (fun k => Char.ofNat (0x4e00 + 20 * k))

theorem toNat_farIdeograph {k : Nat} (h : k < 1000) :
    (Char.ofNat (0x4e00 + 20 * k)).toNat = 0x4e00 + 20 * k := by
  rw [Char.ofNat, dif_pos (Or.inl (by omega))]
  rfl

theorem length_farIdeographs : farIdeographs.length = maxEncoded := by
  rw [farIdeographs, List.length_map, List.length_range]
  rfl

theorem exists_of_mem_farIdeographs (h : c ∈ farIdeographs) :
    ∃ k < 1000, c.toNat = 0x4e00 + 20 * k := by
  obtain ⟨k, hk, rfl⟩ := List.mem_map.1 h
  exact ⟨k, List.mem_range.1 hk, toNat_farIdeograph (List.mem_range.1 hk)⟩

theorem isIdeograph_of_mem_farIdeographs (h : c ∈ farIdeographs) : IsIdeograph c := by
  obtain ⟨k, hk, hc⟩ := exists_of_mem_farIdeographs h
  refine ⟨?_, ?_⟩
  · rw [hc]
    exact Nat.le_add_right _ _
  · rw [hc, Text.lastIdeograph]
    omega

theorem nodup_farIdeographs : farIdeographs.Nodup := by
  refine List.pairwise_map.2 (List.nodup_range.imp_of_mem (fun {a b} ha hb hne heq => hne ?_))
  have hcode := congrArg Char.toNat heq
  rw [toNat_farIdeograph (List.mem_range.1 ha), toNat_farIdeograph (List.mem_range.1 hb)] at hcode
  omega

theorem farIdeographs_ne_nil : farIdeographs ≠ [] :=
  List.ne_nil_of_length_pos (length_farIdeographs ▸ by decide)

/-- What this label is in ASCII is too long for the decoder. -/
theorem not_readable_farIdeographs :
    ¬Readable (encodedMark ++ Punycode.encode farIdeographs) := by
  have hfar : Punycode.FarApart (Punycode.codes farIdeographs) := by
    refine Punycode.farApart_codes (r := 8) (fun c hc => ?_)
    obtain ⟨k, -, hcode⟩ := exists_of_mem_farIdeographs hc
    omega
  exact not_readable_of_isIdeograph (fun _ => isIdeograph_of_mem_farIdeographs) length_farIdeographs
    nodup_farIdeographs hfar

end Domain
end RealmTokens
