/-
Names in ASCII have no capitals.

Capitals are replaced before a name is composed, and so is every letter that composition takes apart
into a capital and marks.  Composition puts nothing together that is in ASCII, so no capital comes up
again.  Main statement: a name in ASCII is its own lowercase.
-/
import RealmTokens.Proofs.Domain.Names
import RealmTokens.Proofs.Domain.Tables
import RealmTokens.Proofs.Text.Characters

namespace RealmTokens

namespace Text

/-! ## Characters -/

/-- Whether a character is no capital of ASCII. -/
def IsSmall (c : Char) : Prop := isCapital c.toNat = false

/-- Whether a character is no capital of ASCII, and none with marks either. -/
def IsBareSmall (c : Char) : Prop := IsSmall c ∧ isLatinCapital c.toNat = false

theorem isSmall_of_lt {c : Char} (h : 0x5a < c.toNat) : IsSmall c :=
  Bool.eq_false_iff.2 (fun hcapital => by
    have := isCapital_iff.1 hcapital
    omega)

/-- A number that is no code point has the character zero. -/
theorem isSmall_ofNat {n : Nat} (h : isCapital n = false) : IsSmall (Char.ofNat n) := by
  rcases toNat_ofNat_eq_or n with heq | heq
  · rw [IsSmall, heq]
    exact h
  · rw [IsSmall, heq]
    rfl

theorem isSmall_ofNat_of_lt {n : Nat} (h : 0x5a < n) : IsSmall (Char.ofNat n) :=
  isSmall_ofNat (Bool.eq_false_iff.2 (fun hcapital => by
    have := isCapital_iff.1 hcapital
    omega))

theorem IsSmall.toLower_eq {c : Char} (h : IsSmall c) : c.toLower = c := by
  refine dif_neg (fun hcapital => Bool.false_ne_true (h.symm.trans (isCapital_iff.2 ?_)))
  exact ⟨UInt32.le_iff_toNat_le.1 hcapital.1, UInt32.le_iff_toNat_le.1 hcapital.2⟩

theorem isBareSmall_toLower {c : Char} (h : isAscii c = true) : IsBareSmall c.toLower :=
  forall_char_lt
    (p := fun c => isCapital c.toLower.toNat = false ∧ isLatinCapital c.toLower.toNat = false)
    (by decide +kernel) (of_decide_eq_true h)

/-! ## Composition -/

theorem isSmall_of_mem_decomposeHangul {n : Nat} {d : Char} (h : d ∈ decomposeHangul n) :
    IsSmall d := by
  have hlead (k : Nat) : IsSmall (Char.ofNat (leadBase + k)) :=
    isSmall_ofNat_of_lt (by unfold leadBase; omega)
  have hvowel (k : Nat) : IsSmall (Char.ofNat (vowelBase + k)) :=
    isSmall_ofNat_of_lt (by unfold vowelBase; omega)
  have htail (k : Nat) : IsSmall (Char.ofNat (tailBase + k)) :=
    isSmall_ofNat_of_lt (by unfold tailBase; omega)
  unfold decomposeHangul at h
  dsimp only at h
  split at h
  case isTrue =>
    simp only [List.mem_cons, List.not_mem_nil, or_false] at h
    rcases h with heq | heq
    · exact heq ▸ hlead _
    · exact heq ▸ hvowel _
  case isFalse =>
    simp only [List.mem_cons, List.not_mem_nil, or_false] at h
    rcases h with heq | heq | heq
    · exact heq ▸ hlead _
    · exact heq ▸ hvowel _
    · exact heq ▸ htail _

/-- Only a Latin capital has a capital among the characters that it is taken apart into. -/
theorem isSmall_of_mem_decomposeChar {c d : Char} (h : IsBareSmall c) (hd : d ∈ decomposeChar c) :
    IsSmall d := by
  unfold decomposeChar at hd
  split at hd
  case isTrue =>
    rw [List.mem_singleton.1 hd]
    exact h.1
  case isFalse =>
    split at hd
    case isTrue => exact isSmall_of_mem_decomposeHangul hd
    case isFalse =>
      cases himage : decompositionMap.get? c with
      | none =>
          rw [himage, Option.getD_none, List.mem_singleton] at hd
          rw [hd]
          exact h.1
      | some image =>
          rw [himage, Option.getD_some] at hd
          obtain ⟨row, hrow, hin, rfl⟩ := CodeMap.exists_row_of_get? himage
          obtain ⟨m, hm, rfl⟩ := List.mem_map.1 hd
          have hrows := List.all_eq_true.1 decompositionMap_passes row hrow
          rw [Bool.and_eq_true, List.all_eq_true] at hrows
          have himages := hrows.2 m hm
          simp only [Bool.or_eq_true, Bool.and_eq_true, Nat.beq_eq, Nat.blt_eq,
            Bool.not_eq_true'] at himages
          obtain ⟨hfirst, hlast, -⟩ := CodeSpan.contains_iff.1 hin
          rcases himages with hlarge | ⟨hsingle, hcapital⟩
          · exact isSmall_ofNat_of_lt (by omega)
          · have hc : c.toNat = row.1.first := by omega
            rw [← hc, h.2] at hcapital
            rw [hc, Nat.sub_self, Nat.add_zero]
            exact isSmall_ofNat (hcapital.resolve_right Bool.false_ne_true)

theorem mem_placeMark {c d : Char} {cs : List Char} (h : d ∈ placeMark c cs) : d = c ∨ d ∈ cs := by
  induction cs with
  | nil => exact Or.inl (List.mem_singleton.1 h)
  | cons e cs ih =>
      unfold placeMark at h
      split at h
      case isTrue =>
        rcases List.mem_cons.1 h with rfl | hin
        · exact Or.inr List.mem_cons_self
        · exact (ih hin).imp_right (List.mem_cons_of_mem e)
      case isFalse => exact List.mem_cons.1 h

theorem mem_of_mem_orderMarks {d : Char} {cs : List Char} (h : d ∈ orderMarks cs) : d ∈ cs := by
  induction cs with
  | nil => exact h
  | cons c cs ih =>
      rcases mem_placeMark h with rfl | hin
      · exact List.mem_cons_self
      · exact List.mem_cons_of_mem c (ih hin)

theorem isSmall_of_composePair? {a b c : Char} (h : composePair? a b = some c) : IsSmall c := by
  unfold composePair? at h
  split at h
  case h_1 hhangul =>
    cases h
    unfold composeHangul? hangulBase at hhangul
    split at hhangul
    case isTrue =>
      obtain rfl := Option.some.inj hhangul
      exact isSmall_ofNat_of_lt (by omega)
    case isFalse =>
      split at hhangul
      case isTrue hsyllable =>
        obtain rfl := Option.some.inj hhangul
        have hlow : 0xac00 ≤ a.toNat := of_decide_eq_true (Bool.and_eq_true_iff.1 hsyllable.1).1
        exact isSmall_ofNat_of_lt (by omega)
      case isFalse => cases hhangul
  case h_2 =>
    obtain ⟨row, hrow, rfl⟩ := Option.map_eq_some_iff.1 h
    have hrows := List.all_eq_true.1 compositionMap_passes row (List.mem_of_find?_eq_some hrow)
    rw [Bool.and_eq_true, Nat.ble_eq] at hrows
    exact isSmall_ofNat_of_lt (by omega)

/-- One step of composition brings in its character, or one that it is put together to. -/
theorem isSmall_step {s : Composing} {c : Char} (hs : ∀ d ∈ s.toList, IsSmall d) (hc : IsSmall c) :
    ∀ d ∈ (s.step c).toList, IsSmall d := by
  have hall : (∀ d ∈ s.done, IsSmall d) ∧ (∀ d ∈ s.starter, IsSmall d) ∧
      ∀ d ∈ s.marks, IsSmall d := by
    simpa [Composing.toList, or_imp, forall_and, and_assoc] using hs
  obtain ⟨hdone, hstarter, hmarks⟩ := hall
  have hmark : ∀ d ∈ s.marks ++ [c], IsSmall d :=
    List.forall_mem_append.2 ⟨hmarks, List.forall_mem_singleton.2 hc⟩
  have hnew : ∀ d ∈ Composing.toList ⟨s.toList, some c, []⟩, IsSmall d := by
    simpa [Composing.toList] using
      List.forall_mem_append.2 ⟨hs, List.forall_mem_singleton.2 hc⟩
  have hkept (starter : Option Char) (marks : List Char) (hstarter : ∀ d ∈ starter, IsSmall d)
      (hmarks : ∀ d ∈ marks, IsSmall d) :
      ∀ d ∈ Composing.toList ⟨s.done, starter, marks⟩, IsSmall d := by
    simpa [Composing.toList, or_imp, forall_and, and_assoc] using ⟨hdone, hstarter, hmarks⟩
  unfold Composing.step
  dsimp only
  split
  case h_1 =>
    split
    case isTrue => exact hnew
    case isFalse => exact hkept none _ (fun d hd => nomatch hd) hmark
  case h_2 starter hsome =>
    split
    case h_1 whole hwhole =>
      refine hkept (some whole) _ (fun d hd => ?_) hmarks
      obtain rfl := Option.some.inj hd
      split at hwhole
      case isTrue => cases hwhole
      case isFalse => exact isSmall_of_composePair? hwhole
    case h_2 =>
      split
      case isTrue => exact hnew
      case isFalse => exact hkept (some starter) _ (fun d hd => hstarter d (hsome ▸ hd)) hmark

theorem isSmall_of_mem_compose {cs : List Char} (h : ∀ c ∈ cs, IsBareSmall c) {d : Char}
    (hd : d ∈ compose cs) : IsSmall d := by
  have hrun (ds : List Char) (s : Composing) (hs : ∀ d ∈ s.toList, IsSmall d)
      (hds : ∀ d ∈ ds, IsSmall d) : ∀ d ∈ (ds.foldl Composing.step s).toList, IsSmall d := by
    induction ds generalizing s with
    | nil => exact hs
    | cons d ds ih =>
        obtain ⟨hd, hds⟩ := List.forall_mem_cons.1 hds
        exact ih _ (isSmall_step hs hd) hds
  unfold compose at hd
  split at hd
  case isTrue => exact (h d hd).1
  case isFalse =>
    refine hrun _ _ (fun d hd => absurd hd List.not_mem_nil) (fun e he => ?_) d hd
    obtain ⟨c, hc, hin⟩ := List.mem_flatMap.1 (mem_of_mem_orderMarks he)
    exact isSmall_of_mem_decomposeChar (h c hc) hin

end Text

namespace Domain

open Text (IsSmall IsBareSmall)

/-! ## Names -/

theorem get?_ne_none_of_isLatinCapital {c : Char} (h : Text.isLatinCapital c.toNat = true) :
    replacementMap.get? c ≠ none := by
  obtain ⟨-, hcovers⟩ := Bool.and_eq_true_iff.1 replacementMap_passes
  obtain ⟨row, hrow, hcontains⟩ := Text.exists_row_of_covers hcovers (Text.testBit_maskOf.1 h)
  rw [Text.CodeMap.get?, ne_eq, Option.map_eq_none_iff, List.find?_eq_none]
  exact fun hnone => hnone row hrow hcontains

/-- No capital enters a name, with marks or without. -/
theorem isBareSmall_of_mapChar? {c d : Char} {image : List Char} (h : mapChar? c = some image)
    (hd : d ∈ image) : IsBareSmall d := by
  unfold mapChar? at h
  split at h
  case isTrue hascii =>
    obtain rfl := Option.some.inj h
    rw [List.mem_singleton.1 hd]
    exact Text.isBareSmall_toLower hascii
  case isFalse hascii =>
    split at h
    case isTrue => cases h
    case isFalse =>
      split at h
      case isTrue =>
        obtain rfl := Option.some.inj h
        exact absurd hd List.not_mem_nil
      case isFalse =>
        obtain rfl := Option.some.inj h
        cases himage : replacementMap.get? c with
        | none =>
            rw [himage, Option.getD_none, List.mem_singleton] at hd
            have hc : ¬c.toNat < 0x80 := by simpa [Text.isAscii] using hascii
            refine hd ▸ ⟨Text.isSmall_of_lt (by omega), Bool.eq_false_iff.2 (fun hcapital => ?_)⟩
            exact get?_ne_none_of_isLatinCapital hcapital himage
        | some image =>
            rw [himage, Option.getD_some] at hd
            obtain ⟨row, hrow, hin, rfl⟩ := Text.CodeMap.exists_row_of_get? himage
            obtain ⟨m, hm, rfl⟩ := List.mem_map.1 hd
            obtain ⟨-, himages⟩ := Bool.and_eq_true_iff.1
              (List.all_eq_true.1 (Bool.and_eq_true_iff.1 replacementMap_passes).1 row hrow)
            obtain ⟨hsmall, hlatin⟩ :=
              not_isCapital_of_sparesCapitals (List.all_eq_true.1 himages m hm) hin
            refine ⟨Text.isSmall_ofNat hsmall, ?_⟩
            rcases Text.toNat_ofNat_eq_or (m + (c.toNat - row.1.first)) with heq | heq
            · rw [heq]
              exact hlatin
            · rw [heq]
              exact Bool.eq_false_iff.2 (fun hcapital =>
                absurd (Text.le_of_isLatinCapital hcapital).1 (by decide))

theorem isBareSmall_of_mapChars? {cs mapped : List Char} (h : mapChars? cs = some mapped) {d : Char}
    (hd : d ∈ mapped) : IsBareSmall d := by
  obtain ⟨images, himages, rfl⟩ := Option.map_eq_some_iff.1 h
  obtain ⟨image, himage, hin⟩ := List.mem_flatten.1 hd
  obtain ⟨c, -, hc⟩ := exists_of_mem_of_mapM himages himage
  exact isBareSmall_of_mapChar? hc hin

theorem Punycode.IsDigit.isSmall {c : Char} (h : Punycode.IsDigit c) : IsSmall c := by
  obtain ⟨n, hn, rfl⟩ := h
  have hall : ∀ n < 36, Text.isCapital (Punycode.digit n).toNat = false := by decide
  exact hall n hn

theorem isSmall_of_label? {text : List Char} {l : Label} (h : label? text = some l)
    (small : ∀ c ∈ text, IsSmall c) : ∀ c ∈ l.ascii, IsSmall c := by
  rcases label?_eq_some h with ⟨hl, -⟩ | ⟨rfl, hacceptable⟩
  · rw [hl]
    exact small
  · intro c hc
    rcases List.mem_append.1 hc with hmark | hc
    · have hall : ∀ c ∈ encodedMark, Text.isCapital c.toNat = false :=
        Text.forall_mem_of_all (by decide)
      exact hall c hmark
    · rcases Punycode.mem_encode (length_of_acceptable hacceptable) hc with ⟨hin, -⟩ | rfl | hdigit
      · exact small c hin
      · rfl
      · exact hdigit.isSmall

/-- A name in ASCII has no capitals. -/
theorem lower_of_toAscii? {name ascii : List Char} (h : toAscii? name = some ascii) :
    ∀ c ∈ ascii, c.toLower = c := by
  obtain ⟨mapped, labels, hmapped, hlabels, -, rfl⟩ := toAscii?_eq_some_iff.1 h
  intro c hc
  refine IsSmall.toLower_eq ?_
  rcases mem_intercalate hc with rfl | ⟨part, hpart, hin⟩
  · rfl
  · obtain ⟨l, hl, rfl⟩ := List.mem_map.1 hpart
    obtain ⟨text, htext, hlabel⟩ := exists_of_mem_of_mapM hlabels hl
    refine isSmall_of_label? hlabel (fun d hd => ?_) c hin
    exact Text.isSmall_of_mem_compose (fun e he => isBareSmall_of_mapChars? hmapped he)
      (mem_of_mem_splitOn htext hd)

end Domain
end RealmTokens
