/-
The composed canonical form of a text: characters are taken apart, marks are put in order of their
classes, and pairs are put together again.
-/
import RealmTokens.Text.CanonicalForms
import RealmTokens.Text.Lowercase

namespace RealmTokens
namespace Text

def hangulBase : Nat := 0xac00
def leadBase : Nat := 0x1100
def vowelBase : Nat := 0x1161
def tailBase : Nat := 0x11a7
def leadCount : Nat := 19
def vowelCount : Nat := 21
def tailCount : Nat := 28

def decomposeHangul (n : Nat) : List Char :=
  let i := n - hangulBase
  let lead := Char.ofNat (leadBase + i / (vowelCount * tailCount))
  let vowel := Char.ofNat (vowelBase + i % (vowelCount * tailCount) / tailCount)
  let tail := i % tailCount
  if tail = 0 then [lead, vowel] else [lead, vowel, Char.ofNat (tailBase + tail)]

def isHangul (n : Nat) : Bool :=
  hangulBase ≤ n && n < hangulBase + leadCount * vowelCount * tailCount

def decomposeChar (c : Char) : List Char :=
  if isAscii c then [c]
  else if isHangul c.toNat then decomposeHangul c.toNat
  else (decompositionMap.get? c).getD [c]

/-- The class that orders a mark among its neighbours. Other characters have class zero. -/
def combiningClass (c : Char) : Nat :=
  if isAscii c then 0
  else
    match combiningClassMap.rows.find? (fun row => row.1.contains c.toNat) with
    | some (_, value :: _) => value
    | _ => 0

/-- Moves a mark behind the marks of a smaller class that follow it. -/
def placeMark (c : Char) : List Char → List Char
  | [] => [c]
  | d :: rest =>
      if 0 < combiningClass d ∧ combiningClass d < combiningClass c then d :: placeMark c rest
      else c :: d :: rest

def orderMarks (cs : List Char) : List Char :=
  cs.foldr placeMark []

def composeHangul? (a b : Nat) : Option Char :=
  if leadBase ≤ a ∧ a < leadBase + leadCount ∧ vowelBase ≤ b ∧ b < vowelBase + vowelCount then
    some (Char.ofNat
      (hangulBase + ((a - leadBase) * vowelCount + (b - vowelBase)) * tailCount))
  else if isHangul a ∧ (a - hangulBase) % tailCount = 0 ∧ tailBase < b ∧ b < tailBase + tailCount then
    some (Char.ofNat (a + (b - tailBase)))
  else none

def composePair? (a b : Char) : Option Char :=
  match composeHangul? a.toNat b.toNat with
  | some c => some c
  | none =>
      (compositionMap.rows.find? (fun row => row.2 == [a.toNat, b.toNat])).map
        (fun row => Char.ofNat row.1.first)

/-- Composition under way: all before the last starter, the starter, and the marks behind it. -/
structure Composing where
  done : List Char
  starter : Option Char
  marks : List Char

namespace Composing

def toList (s : Composing) : List Char :=
  s.done ++ s.starter.toList ++ s.marks

/-- Whether a character of this class is cut off from the starter by the marks behind it. -/
def blocked (s : Composing) (cls : Nat) : Bool :=
  match s.marks.getLast? with
  | none => false
  | some mark => cls ≤ combiningClass mark

def step (s : Composing) (c : Char) : Composing :=
  let cls := combiningClass c
  match s.starter with
  | none => if cls = 0 then ⟨s.toList, some c, []⟩ else ⟨s.done, none, s.marks ++ [c]⟩
  | some starter =>
      let composed := if s.blocked cls then none else composePair? starter c
      match composed with
      | some whole => ⟨s.done, some whole, s.marks⟩
      | none => if cls = 0 then ⟨s.toList, some c, []⟩ else ⟨s.done, some starter, s.marks ++ [c]⟩

end Composing

/-- The composed form. A text of ASCII characters is its own. -/
def compose (cs : List Char) : List Char :=
  if cs.all isAscii then cs
  else ((orderMarks (cs.flatMap decomposeChar)).foldl Composing.step ⟨[], none, []⟩).toList

theorem compose_of_ascii {cs : List Char} (h : cs.all isAscii = true) : compose cs = cs := by
  simp [compose, h]

end Text
end RealmTokens
