/-
Numeric hosts: IPv4 addresses in all their spellings, and IPv6 addresses between brackets.
-/
import RealmTokens.Text.Lowercase
import RealmTokens.Url.Percent

namespace RealmTokens
namespace Url

/-! ## IPv4 -/

namespace Ipv4

/-- The digits of a number and its base. `0x` marks base 16 and a leading zero base 8. -/
def digitsOfPart : List Char → List Char × Nat
  | '0' :: 'x' :: rest | '0' :: 'X' :: rest => (rest, 16)
  | '0' :: c :: rest => (c :: rest, 8)
  | cs => (cs, 10)

def valueOfDigits? (base : Nat) (digits : List Char) : Option Nat :=
  digits.foldlM
    (fun n c =>
      match Text.hexValue? c with
      | some d => if d < base then some (base * n + d) else none
      | none => none)
    0

/-- The number of a part between dots, which may be of any size. -/
def part? (cs : List Char) : Option Nat :=
  if cs.isEmpty then none
  else
    let (digits, base) := digitsOfPart cs
    valueOfDigits? base digits

/-- The parts between the dots. A dot at the end does not open a part. -/
def parts (cs : List Char) : List (List Char) :=
  let all := cs.splitOn '.'
  if all.length > 1 && all.getLast? == some [] then all.dropLast else all

/-- Whether a name ends in a number, so that it can only be an address. -/
def endsInNumber (cs : List Char) : Bool :=
  match (parts cs).getLast? with
  | none => false
  | some last => (!last.isEmpty && last.all Char.isDigit) || (part? last).isSome

/-- The address of numbers. The last one fills all places that the others leave. -/
def combine? (numbers : List Nat) : Option UInt32 :=
  match numbers.getLast? with
  | none => none
  | some last =>
      let front := numbers.dropLast
      let room := Nat.pow 256 (4 - front.length)
      if last < room ∧ front.all (· ≤ 255) then
        some (Nat.toUInt32 (front.foldl (fun n part => 256 * n + part) 0 * room + last))
      else none

def ofChars? (cs : List Char) : Option UInt32 :=
  let all := parts cs
  if 4 < all.length then none else (all.mapM part?).bind combine?

def chars (address : UInt32) : List Char :=
  let n := address.toNat
  ['.'].intercalate ([n / 16777216, n / 65536 % 256, n / 256 % 256, n % 256].map (Nat.toDigits 10))

end Ipv4

/-! ## IPv6 -/

structure Ipv6 where
  groups : List UInt16
  length_eq : groups.length = 8
  deriving DecidableEq, Repr

namespace Ipv6

def group? (cs : List Char) : Option UInt16 :=
  if cs.isEmpty || 4 < cs.length then none
  else (cs.mapM Text.hexValue?).map (fun values => (Text.ofHexValues values).toUInt16)

/-- A decimal number below 256 without leading zeros. -/
def octet? (cs : List Char) : Option Nat :=
  if cs.isEmpty || 3 < cs.length || !cs.all Char.isDigit then none
  else
    let n := Text.ofDecimal cs
    if 255 < n ∨ (1 < cs.length ∧ cs.head? = some '0') then none else some n

/-- Four octets between dots make two groups. -/
def dotted? (cs : List Char) : Option (List UInt16) :=
  match (cs.splitOn '.').mapM octet? with
  | some [a, b, c, d] => some [(256 * a + b).toUInt16, (256 * c + d).toUInt16]
  | _ => none

/-- The groups between colons. Only the last may be written with dots. -/
def groups? : List (List Char) → Option (List UInt16)
  | [] => some []
  | [last] => if last.contains '.' then dotted? last else (group? last).map ([·])
  | first :: rest => do
      let group ← group? first
      let later ← groups? rest
      return group :: later

/-- The groups of a text, which has none when it is empty. -/
def side? (cs : List Char) : Option (List UInt16) :=
  if cs.isEmpty then some [] else groups? (cs.splitOn ':')

def ofGroups? (groups : List UInt16) : Option Ipv6 :=
  if h : groups.length = 8 then some ⟨groups, h⟩ else none

/-- The texts around the first double colon. -/
def divide? : List Char → Option (List Char × List Char)
  | ':' :: ':' :: rest => some ([], rest)
  | c :: rest => (divide? rest).map (fun (front, back) => (c :: front, back))
  | [] => none

/-- A double colon stands for one group of zero or more. -/
def ofChars? (cs : List Char) : Option Ipv6 :=
  match divide? cs with
  | none => (side? cs).bind ofGroups?
  | some (front, back) =>
      if front.contains '.' then none
      else do
        let left ← side? front
        let right ← side? back
        if left.length + right.length ≤ 7 then
          ofGroups? (left ++ List.replicate (8 - left.length - right.length) 0 ++ right)
        else none

def zeroRun (groups : List UInt16) : Nat :=
  (groups.takeWhile (· == 0)).length

def longestRun : List UInt16 → Nat
  | [] => 0
  | g :: rest => max (zeroRun (g :: rest)) (longestRun rest)

/-- The groups in front of the first run of `length` zeros. -/
def beforeRun (length : Nat) : List UInt16 → List UInt16
  | [] => []
  | g :: rest => if zeroRun (g :: rest) = length then [] else g :: beforeRun length rest

def joined (groups : List UInt16) : List Char :=
  [':'].intercalate (groups.map (fun g => Nat.toDigits 16 g.toNat))

/-- The first longest run of two zeros or more is written as a double colon. -/
def chars (address : Ipv6) : List Char :=
  let run := longestRun address.groups
  if run < 2 then joined address.groups
  else
    let front := beforeRun run address.groups
    joined front ++ ':' :: ':' :: joined (address.groups.drop (front.length + run))

end Ipv6
end Url
end RealmTokens
