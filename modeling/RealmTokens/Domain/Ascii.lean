/-
Domain names in ASCII. A name is mapped character by character, composed, and cut at its dots. A label
outside ASCII is then encoded, and a label that came encoded must decode to one that could have been
encoded.
-/
import RealmTokens.Domain.Label
import RealmTokens.Domain.Punycode

namespace RealmTokens
namespace Domain

def encodedMark : List Char := ['x', 'n', '-', '-']

/-- The longest label outside ASCII, and the longest text that is decoded. -/
def maxEncoded : Nat := 1000
def maxDecoded : Nat := 2000

/-- A label in ASCII, and the characters that it stands for. -/
structure Label where
  ascii : List Char
  meaning : List Char

/-- A label outside ASCII that is in its final form and not too long. -/
def acceptable (label : List Char) : Bool :=
  decide (label.length ≤ maxEncoded) && validLabel label

/-- The label that an encoded one stands for. Only ASCII is an encoding. -/
def encodedLabel? (label : List Char) : Option Label :=
  let numbers := label.drop encodedMark.length
  if maxDecoded < numbers.length || !label.all Text.isAscii then none
  else
    match Punycode.decode? numbers with
    | none => none
    | some meaning => if acceptable meaning then some ⟨label, meaning⟩ else none

def label? (label : List Char) : Option Label :=
  if encodedMark.isPrefixOf label then encodedLabel? label
  else if label.all Text.isAscii then
    if label.any isForbidden then none else some ⟨label, label⟩
  else if acceptable label then
    some ⟨encodedMark ++ Punycode.encode label, label⟩
  else none

/-- Whether labels keep the rule for mixed directions, where it applies. -/
def bidiAllowed (labels : List Label) : Bool :=
  let meanings := (labels.map Label.meaning).filter (fun m => !m.isEmpty)
  !meanings.any (fun m => m.any isRightToLeft) || meanings.all bidiLabel

def toAscii? (name : List Char) : Option (List Char) := do
  let mapped ← mapChars? name
  let labels ← ((Text.compose mapped).splitOn '.').mapM label?
  if bidiAllowed labels then some (['.'].intercalate (labels.map Label.ascii)) else none

end Domain
end RealmTokens
