/-
Labels outside ASCII, written in ASCII. The ASCII characters come first, then the places and values of
the others as numbers of variable length.
-/
import RealmTokens.Text.Lowercase

namespace RealmTokens
namespace Domain
namespace Punycode

/-- The digit of a value below 36. -/
def digit (n : Nat) : Char :=
  if n < 26 then Char.ofNat (0x61 + n) else Char.ofNat (0x16 + n)

def value? (c : Char) : Option Nat :=
  if 'a' ≤ c ∧ c ≤ 'z' then some (c.toNat - 0x61)
  else if '0' ≤ c ∧ c ≤ '9' then some (c.toNat - 0x16)
  else none

/-- The least digit that is not the last of its number, at the place `k`. -/
def threshold (k bias : Nat) : Nat :=
  if k ≤ bias then 1 else if bias + 26 ≤ k then 26 else k - bias

theorem threshold_pos (k bias : Nat) : 1 ≤ threshold k bias := by
  unfold threshold; split
  · omega
  · split <;> omega

/-- How often `delta` can be divided by 35 before it fits, in steps of 36, and what is left of it. -/
def shrink (delta k : Nat) : Nat × Nat :=
  if 455 < delta then shrink (delta / 35) (k + 36) else (delta, k)
termination_by delta
decreasing_by omega

def adapt (delta count : Nat) (first : Bool) : Nat :=
  let halved := if first then delta / 700 else delta / 2
  let (rest, k) := shrink (halved + halved / count) 0
  k + 36 * rest / (rest + 38)

def initialBias : Nat := 72

def encodeNumber (bias k n : Nat) : List Char :=
  let t := threshold k bias
  if n < t then [digit n]
  else digit (t + (n - t) % (36 - t)) :: encodeNumber bias (k + 36) ((n - t) / (36 - t))
termination_by n
decreasing_by
  have := threshold_pos k bias
  exact Nat.lt_of_le_of_lt (Nat.div_le_self _ _) (by omega)

/-- Encoding under way. `handled` characters are written, `basic` of them in ASCII. -/
structure Encoder where
  out : List Char
  delta : Nat
  bias : Nat
  handled : Nat
  basic : Nat

namespace Encoder

/-- Passes one character of the label in the round of the code point `code`. -/
def pass (code : Nat) (s : Encoder) (c : Char) : Encoder :=
  if c.toNat < code then ⟨s.out, s.delta + 1, s.bias, s.handled, s.basic⟩
  else if c.toNat = code then
    ⟨s.out ++ encodeNumber s.bias 36 s.delta, 0,
      adapt s.delta (s.handled + 1) (s.handled == s.basic), s.handled + 1, s.basic⟩
  else s

/-- All rounds, `next` being the least code point that no round has had. -/
def rounds (label : List Char) (next : Nat) (s : Encoder) : List Nat → Encoder
  | [] => s
  | code :: later =>
      let ready : Encoder :=
        ⟨s.out, s.delta + (code - next) * (s.handled + 1), s.bias, s.handled, s.basic⟩
      let passed := label.foldl (pass code) ready
      rounds label (code + 1)
        ⟨passed.out, passed.delta + 1, passed.bias, passed.handled, passed.basic⟩ later

end Encoder

/-- The code points outside ASCII, ascending, each once. -/
def codes (label : List Char) : List Nat :=
  (((label.filter (fun c => !Text.isAscii c)).map Char.toNat).mergeSort (· ≤ ·)).eraseDups

def encode (label : List Char) : List Char :=
  let basic := label.filter Text.isAscii
  let start : Encoder :=
    ⟨if basic.isEmpty then [] else basic ++ ['-'], 0, initialBias, basic.length, basic.length⟩
  (Encoder.rounds label 0x80 start (codes label)).out

def weightLimit : Nat := 4294967296

/-- Decoding under way: the text so far, the last code point and place, and an open number. -/
structure Decoder where
  out : List Char
  code : Nat
  place : Nat
  bias : Nat
  k : Nat
  weight : Nat
  delta : Nat
  inside : Bool

namespace Decoder

/-- Puts in the character that a complete number describes. -/
def insert? (s : Decoder) (delta : Nat) : Option Decoder :=
  let count := s.out.length + 1
  let code := s.code + (s.place + delta) / count
  let place := (s.place + delta) % count
  if code.isValidChar then
    some ⟨s.out.take place ++ Char.ofNat code :: s.out.drop place, code, place + 1,
      adapt delta count (s.place == 0), 36, 1, 0, false⟩
  else none

def step? (s : Decoder) (c : Char) : Option Decoder := do
  let value ← value? c
  let t := threshold s.k s.bias
  let delta := s.delta + value * s.weight
  if value < t then s.insert? delta
  else if weightLimit ≤ s.weight * (36 - t) then none
  else some ⟨s.out, s.code, s.place, s.bias, s.k + 36, s.weight * (36 - t), delta, true⟩

end Decoder

/-- The ASCII part in front of the last hyphen, and the numbers behind it. -/
def divide (cs : List Char) : List Char × List Char :=
  if cs.contains '-' then
    let numbers := (cs.reverse.takeWhile (· != '-')).reverse
    let basic := cs.take (cs.length - numbers.length - 1)
    if basic.isEmpty then ([], cs) else (basic, numbers)
  else ([], cs)

def decode? (cs : List Char) : Option (List Char) :=
  let (basic, numbers) := divide cs
  match numbers.foldlM Decoder.step? ⟨basic, 0x80, 0, initialBias, 36, 1, 0, false⟩ with
  | none => none
  | some s => if s.inside then none else some s.out

end Punycode
end Domain
end RealmTokens
