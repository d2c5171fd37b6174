/-
Sets of code points and maps between them, read from compact tables.

A table is a text of words. The word `41` names one code point, `41-5a` a range, `100-12e/2` every
second code point of a range. In a map the word goes on with its image: `130>69.307` sends one code
point to two, `c0-d6>e0` sends a range to the range of equal length that starts at `e0`.
-/
import RealmTokens.Text.Digits

namespace RealmTokens
namespace Text

/-- The code points `first`, `first + stride`, ... up to `last`. -/
structure CodeSpan where
  first : Nat
  last : Nat
  stride : Nat
  deriving DecidableEq, Repr

namespace CodeSpan

def contains (s : CodeSpan) (n : Nat) : Bool :=
  decide (s.first ≤ n) && decide (n ≤ s.last) && (n - s.first) % s.stride == 0

def ofHex (cs : List Char) : Nat :=
  ofHexValues (cs.filterMap hexValue?)

def ofBounds (cs : List Char) (stride : Nat) : CodeSpan :=
  match cs.splitOn '-' with
  | [first, last] => ⟨ofHex first, ofHex last, stride⟩
  | _ => ⟨ofHex cs, ofHex cs, stride⟩

def ofWord (cs : List Char) : CodeSpan :=
  match cs.splitOn '/' with
  | [bounds, stride] => ofBounds bounds (ofHex stride)
  | _ => ofBounds cs 1

end CodeSpan

/-- The words of a table, which spaces and line ends separate. -/
def tableWords (table : String) : List (List Char) :=
  (table.toList.splitOnP (fun c => c == ' ' || c == '\n')).filter (fun w => !w.isEmpty)

structure CodeSet where
  spans : List CodeSpan

namespace CodeSet

def ofTable (table : String) : CodeSet :=
  ⟨(tableWords table).map CodeSpan.ofWord⟩

def contains (s : CodeSet) (c : Char) : Bool :=
  s.spans.any (fun span => span.contains c.toNat)

end CodeSet

/-- A map that leaves every code point outside its spans alone. -/
structure CodeMap where
  rows : List (CodeSpan × List Nat)

namespace CodeMap

def rowOfWord (cs : List Char) : CodeSpan × List Nat :=
  match cs.splitOn '>' with
  | [span, image] => (CodeSpan.ofWord span, (image.splitOn '.').map CodeSpan.ofHex)
  | _ => (CodeSpan.ofWord cs, [])

def ofTable (table : String) : CodeMap :=
  ⟨(tableWords table).map rowOfWord⟩

/-- The image of a code point under one row: the row's image, moved by the place in the span. -/
def imageAt (row : CodeSpan × List Nat) (n : Nat) : List Char :=
  row.2.map (fun m => Char.ofNat (m + (n - row.1.first)))

def get? (m : CodeMap) (c : Char) : Option (List Char) :=
  (m.rows.find? (fun row => row.1.contains c.toNat)).map (fun row => imageAt row c.toNat)

end CodeMap

end Text
end RealmTokens
