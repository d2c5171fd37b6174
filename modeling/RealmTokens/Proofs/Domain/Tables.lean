/-
What the tables of characters hold.

A fact about all rows of a table is found by going through its text once, so every table is bundled with
the check that it passes.  Main statements: a character that is taken apart into a capital of ASCII and
marks is a Latin capital, all of these are replaced, and nothing is replaced by one of them or by a
capital of ASCII; and no table has a row for an ideograph.
-/
import Mathlib.Algebra.GroupWithZero.Nat
import RealmTokens.Domain.Label

namespace RealmTokens
namespace Text

/-! ## Rows -/

namespace CodeSpan

/-- Whether a span has no code point between two others. -/
def apart (first last : Nat) (span : CodeSpan) : Bool :=
  Nat.blt span.last first || Nat.blt last span.first

theorem contains_iff {span : CodeSpan} {n : Nat} :
    span.contains n = true ↔
      span.first ≤ n ∧ n ≤ span.last ∧ (n - span.first) % span.stride = 0 := by
  simp [contains, and_assoc]

theorem contains_eq_false_of_apart {span : CodeSpan} {first last n : Nat}
    (h : span.apart first last = true) (hfirst : first ≤ n) (hlast : n ≤ last) :
    span.contains n = false := by
  refine Bool.eq_false_iff.2 (fun hin => ?_)
  obtain ⟨hn, hn', -⟩ := contains_iff.1 hin
  simp only [apart, Bool.or_eq_true, Nat.blt_eq] at h
  omega

/-- How far the code points of a span are from its first. -/
def steps (span : CodeSpan) : List Nat :=
  (List.range ((span.last - span.first) / span.stride + 1)).map (fun k => k * span.stride)

def places (span : CodeSpan) : List Nat := span.steps.map (fun step => span.first + step)

theorem mem_steps {span : CodeSpan} {n : Nat} (h : span.contains n = true) :
    n - span.first ∈ span.steps := by
  obtain ⟨hfirst, hlast, hstride⟩ := contains_iff.1 h
  refine List.mem_map.2 ⟨(n - span.first) / span.stride, List.mem_range.2 ?_, ?_⟩
  · exact Nat.lt_succ_of_le (Nat.div_le_div_right (by omega))
  · exact Nat.div_mul_cancel (Nat.dvd_of_mod_eq_zero hstride)

end CodeSpan

theorem CodeSet.contains_eq_false_of_apart {s : CodeSet} {first last : Nat} {c : Char}
    (h : s.spans.all (CodeSpan.apart first last) = true) (hfirst : first ≤ c.toNat)
    (hlast : c.toNat ≤ last) : s.contains c = false :=
  List.any_eq_false.2 (fun span hspan => Bool.not_eq_true _ ▸
    CodeSpan.contains_eq_false_of_apart (List.all_eq_true.1 h span hspan) hfirst hlast)

namespace CodeMap

theorem get?_eq_none_of_apart {m : CodeMap} {first last : Nat} {c : Char}
    (h : ∀ row ∈ m.rows, row.1.apart first last = true) (hfirst : first ≤ c.toNat)
    (hlast : c.toNat ≤ last) : m.get? c = none := by
  rw [get?, Option.map_eq_none_iff, List.find?_eq_none]
  intro row hrow
  rw [CodeSpan.contains_eq_false_of_apart (h row hrow) hfirst hlast]
  exact Bool.false_ne_true

/-- An image comes from a row that has the code point. -/
theorem exists_row_of_get? {m : CodeMap} {c : Char} {image : List Char} (h : m.get? c = some image) :
    ∃ row ∈ m.rows, row.1.contains c.toNat = true ∧ image = imageAt row c.toNat := by
  obtain ⟨row, hrow, rfl⟩ := Option.map_eq_some_iff.1 h
  exact ⟨row, List.mem_of_find?_eq_some hrow, by simpa using List.find?_some hrow, rfl⟩

end CodeMap

/-- A table that passes a check of all its rows. -/
structure Checked {α : Type} (check : α → Bool) where
  table : α
  passes : check table = true

/-! ## Capitals -/

/-- The number that has the bits at these places. -/
def maskOf : List Nat → Nat
  | [] => 0
  | n :: ns => 2 ^ n ||| maskOf ns

theorem testBit_maskOf {ns : List Nat} {n : Nat} : (maskOf ns).testBit n = true ↔ n ∈ ns := by
  induction ns with
  | nil => simp [maskOf]
  | cons m ns ih => rw [maskOf, Nat.testBit_or, Bool.or_eq_true, ih, Nat.testBit_two_pow, List.mem_cons,
      decide_eq_true_eq, eq_comm]

/-- Latin letters that are written as a capital of ASCII with marks, in ascending order. -/
def latinCapitals : List Nat :=
  [⟨0xc0, 0xc5, 1⟩, ⟨0xc7, 0xcf, 1⟩, ⟨0xd1, 0xd6, 1⟩, ⟨0xd9, 0xdd, 1⟩, ⟨0x100, 0x10e, 2⟩,
    ⟨0x112, 0x124, 2⟩, ⟨0x128, 0x130, 2⟩, ⟨0x134, 0x136, 2⟩, ⟨0x139, 0x13d, 2⟩, ⟨0x143, 0x147, 2⟩,
    ⟨0x14c, 0x150, 2⟩, ⟨0x154, 0x164, 2⟩, ⟨0x168, 0x178, 2⟩, ⟨0x179, 0x17d, 2⟩, ⟨0x1a0, 0x1a0, 1⟩,
    ⟨0x1af, 0x1af, 1⟩, ⟨0x1cd, 0x1db, 2⟩, ⟨0x1de, 0x1e0, 2⟩, ⟨0x1e6, 0x1ec, 2⟩, ⟨0x1f4, 0x1f4, 1⟩,
    ⟨0x1f8, 0x1fa, 2⟩, ⟨0x200, 0x21a, 2⟩, ⟨0x21e, 0x21e, 1⟩, ⟨0x226, 0x232, 2⟩, ⟨0x1e00, 0x1e94, 2⟩,
    ⟨0x1ea0, 0x1ef8, 2⟩, ⟨0x212a, 0x212b, 1⟩].flatMap CodeSpan.places

def firstLatinCapital : Nat := 0xc0
def lastLatinCapital : Nat := 0x212b

/-- Whether a code point is a capital of ASCII. -/
def isCapital (n : Nat) : Bool := Nat.ble 0x41 n && Nat.ble n 0x5a

def isLatinCapital (n : Nat) : Bool := (maskOf latinCapitals).testBit n

theorem isCapital_iff {n : Nat} : isCapital n = true ↔ 0x41 ≤ n ∧ n ≤ 0x5a := by
  simp [isCapital]

theorem le_of_isLatinCapital {n : Nat} (h : isLatinCapital n = true) :
    firstLatinCapital ≤ n ∧ n ≤ lastLatinCapital := by
  have hall : (latinCapitals.all fun n =>
      Nat.ble firstLatinCapital n && Nat.ble n lastLatinCapital) = true := by decide +kernel
  simpa using List.all_eq_true.1 hall n (testBit_maskOf.1 h)

/-- Whether code points in ascending order have each a row.  A row is passed once for all of them. -/
def covers : List (CodeSpan × List Nat) → List Nat → Bool
  | _, [] => true
  | [], _ :: _ => false
  | row :: rows, n :: ns => covers rows ((n :: ns).dropWhile row.1.contains)

theorem exists_row_of_covers {rows : List (CodeSpan × List Nat)} {ns : List Nat} {n : Nat}
    (h : covers rows ns = true) (hn : n ∈ ns) : ∃ row ∈ rows, row.1.contains n = true := by
  induction rows generalizing ns with
  | nil =>
      cases ns with
      | nil => exact absurd hn List.not_mem_nil
      | cons m ns => cases h
  | cons row rows ih =>
      cases ns with
      | nil => exact absurd hn List.not_mem_nil
      | cons m ns =>
          rw [covers] at h
          rw [← List.takeWhile_append_dropWhile (p := row.1.contains) (l := m :: ns)] at hn
          rcases List.mem_append.1 hn with hn | hn
          · exact ⟨row, List.mem_cons_self, List.all_eq_true.1 List.all_takeWhile n hn⟩
          · obtain ⟨found, hfound, hcontains⟩ := ih h hn
            exact ⟨found, List.mem_cons_of_mem row hfound, hcontains⟩

/-! ## Ideographs -/

/-- The first and the last of the ideographs that are looked at here. -/
def firstIdeograph : Nat := 0x4e00
def lastIdeograph : Nat := 0x9fff

/-- Whether a span has no ideograph. -/
def ofNoIdeograph (span : CodeSpan) : Bool := span.apart firstIdeograph lastIdeograph

/-- Whether a set has no ideograph. -/
def ideographCheck (s : CodeSet) : Bool := s.spans.all ofNoIdeograph

/-! ## Checks -/

/-- Only Latin capitals are taken apart into a capital of ASCII and marks, each by a row of its own. -/
def decompositionCheck (m : CodeMap) : Bool :=
  m.rows.all fun row => ofNoIdeograph row.1 &&
    row.2.all fun m => Nat.blt 0x5a m ||
      (Nat.beq row.1.first row.1.last && (!isCapital m || isLatinCapital row.1.first))

/-- Nothing outside ASCII and Hangul is put together to a character of ASCII. -/
def compositionCheck (m : CodeMap) : Bool :=
  m.rows.all fun row => Nat.ble 0x80 row.1.first &&
    row.2.all fun m => Nat.blt m firstIdeograph || Nat.blt lastIdeograph m

def combiningClassCheck (m : CodeMap) : Bool := m.rows.all fun row => ofNoIdeograph row.1

section Tables

set_option maxRecDepth 100000

def checkedDecomposition : Checked decompositionCheck :=
  ⟨decompositionMap, by
    rw [decompositionMap, CodeMap.ofTable, tableWords, String.toList_ofList]
    decide +kernel⟩

def checkedComposition : Checked compositionCheck :=
  ⟨compositionMap, by
    rw [compositionMap, CodeMap.ofTable, tableWords, String.toList_ofList]
    decide +kernel⟩

def checkedCombiningClass : Checked combiningClassCheck :=
  ⟨combiningClassMap, by
    rw [combiningClassMap, CodeMap.ofTable, tableWords, String.toList_ofList]
    decide +kernel⟩

end Tables

theorem decompositionMap_passes : decompositionCheck decompositionMap = true :=
  checkedDecomposition.passes

theorem compositionMap_passes : compositionCheck compositionMap = true := checkedComposition.passes

theorem combiningClassMap_passes : combiningClassCheck combiningClassMap = true :=
  checkedCombiningClass.passes

end Text

namespace Domain

open Text

/-- Whether the images that a row gives to a span are no capitals. -/
def sparesCapitals (span : CodeSpan) (m : Nat) : Bool :=
  Nat.blt lastLatinCapital m || span.steps.all fun step =>
    !isCapital (m + step) && !isLatinCapital (m + step)

theorem not_isCapital_of_sparesCapitals {span : CodeSpan} {m n : Nat}
    (h : sparesCapitals span m = true) (hn : span.contains n = true) :
    isCapital (m + (n - span.first)) = false ∧ isLatinCapital (m + (n - span.first)) = false := by
  rw [sparesCapitals, Bool.or_eq_true, Nat.blt_eq] at h
  rcases h with hlarge | h
  · unfold lastLatinCapital at hlarge
    refine ⟨Bool.eq_false_iff.2 (fun hcapital => ?_), Bool.eq_false_iff.2 (fun hcapital => ?_)⟩
    · have hle := isCapital_iff.1 hcapital
      omega
    · have hle := (le_of_isLatinCapital hcapital).2
      unfold lastLatinCapital at hle
      omega
  · simpa using List.all_eq_true.1 h _ (CodeSpan.mem_steps hn)

/-- All Latin capitals are replaced, and nothing is replaced by a capital. -/
def replacementCheck (m : CodeMap) : Bool :=
  (m.rows.all fun row => ofNoIdeograph row.1 && row.2.all (sparesCapitals row.1)) &&
    covers m.rows latinCapitals

section Tables

set_option maxRecDepth 100000

def checkedReplacement : Checked replacementCheck :=
  ⟨replacementMap, by
    rw [replacementMap, CodeMap.ofTable, tableWords, String.toList_ofList]
    decide +kernel⟩

def checkedRefused : Checked ideographCheck :=
  ⟨refusedSet, by
    rw [refusedSet, CodeSet.ofTable, tableWords, String.toList_ofList]
    decide +kernel⟩

def checkedIgnored : Checked ideographCheck :=
  ⟨ignoredSet, by
    rw [ignoredSet, CodeSet.ofTable, tableWords, String.toList_ofList]
    decide +kernel⟩

def checkedMarks : Checked ideographCheck :=
  ⟨markSet, by
    rw [markSet, CodeSet.ofTable, tableWords, String.toList_ofList]
    decide +kernel⟩

def checkedRightToLeft : Checked ideographCheck :=
  ⟨rightToLeftSet, by
    rw [rightToLeftSet, CodeSet.ofTable, tableWords, String.toList_ofList]
    decide +kernel⟩

def checkedArabicLetters : Checked ideographCheck :=
  ⟨arabicLetterSet, by
    rw [arabicLetterSet, CodeSet.ofTable, tableWords, String.toList_ofList]
    decide +kernel⟩

def checkedArabicNumbers : Checked ideographCheck :=
  ⟨arabicNumberSet, by
    rw [arabicNumberSet, CodeSet.ofTable, tableWords, String.toList_ofList]
    decide +kernel⟩

end Tables

theorem replacementMap_passes : replacementCheck replacementMap = true := checkedReplacement.passes

theorem refusedSet_passes : ideographCheck refusedSet = true := checkedRefused.passes

theorem ignoredSet_passes : ideographCheck ignoredSet = true := checkedIgnored.passes

theorem markSet_passes : ideographCheck markSet = true := checkedMarks.passes

/-- Ideographs are written from left to right. -/
theorem directionSets_pass : ideographCheck rightToLeftSet = true ∧
    ideographCheck arabicLetterSet = true ∧ ideographCheck arabicNumberSet = true :=
  ⟨checkedRightToLeft.passes, checkedArabicLetters.passes, checkedArabicNumbers.passes⟩

end Domain
end RealmTokens
