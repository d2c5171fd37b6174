/-
What the labels of a domain name may hold. Main definitions: `validLabel`, and `bidiLabel` for names
that hold a character written from right to left.
-/
import RealmTokens.Domain.Characters
import RealmTokens.Domain.Mapping
import RealmTokens.Text.Blank
import RealmTokens.Text.Composition

namespace RealmTokens
namespace Domain

/-- ASCII characters that have a meaning of their own in a URL, and the invisible ones. -/
def isForbidden (c : Char) : Bool :=
  c.toNat ≤ 0x20 || c.toNat == 0x7f || "%#/:<>?@[\\]^|".toList.contains c

def mapChar? (c : Char) : Option (List Char) :=
  if Text.isAscii c then some [c.toLower]
  else if refusedSet.contains c then none
  else if ignoredSet.contains c then some []
  else some ((replacementMap.get? c).getD [c])

def mapChars? (cs : List Char) : Option (List Char) :=
  (cs.mapM mapChar?).map List.flatten

def isVirama (c : Char) : Bool := viramaSet.contains c

/-- Whether the text read away from a non-joiner begins with a character of `joining`. -/
def joins (joining : Char → Bool) (cs : List Char) : Bool :=
  match cs.dropWhile transparentSet.contains with
  | [] => false
  | c :: _ => joining c

/-- Whether a joiner or non-joiner between these texts has a function. `before` is reversed. -/
def joinerAllowed (before : List Char) (c : Char) (after : List Char) : Bool :=
  (before.head?.any isVirama) ||
    (c == '\u200c' &&
      joins (fun d => leftJoiningSet.contains d || dualJoiningSet.contains d) before &&
      joins (fun d => rightJoiningSet.contains d || dualJoiningSet.contains d) after)

/-- Whether every joiner behind `before` has a function. -/
def joinersAllowed (before : List Char) : List Char → Bool
  | [] => true
  | c :: rest =>
      ((c != '\u200c' && c != '\u200d') || joinerAllowed before c rest) &&
        joinersAllowed (c :: before) rest

/-- A label outside ASCII that is in its final form. -/
def validLabel (label : List Char) : Bool :=
  !label.isEmpty && !label.all Text.isAscii &&
    label.all (fun c => !isForbidden c && mapChar? c == some [c]) &&
    Text.compose label == label &&
    !label.head?.any markSet.contains &&
    joinersAllowed [] label

/-- How a character takes part in the direction of its surroundings. -/
inductive Direction where
  | leftToRight
  | rightToLeft
  | arabicNumber
  | europeanNumber
  | mark
  | neutral
  deriving DecidableEq, Repr

def direction (c : Char) : Direction :=
  if Text.isAscii c then
    if c.isAlpha then .leftToRight else if c.isDigit then .europeanNumber else .neutral
  else if rightToLeftSet.contains c || arabicLetterSet.contains c then .rightToLeft
  else if arabicNumberSet.contains c then .arabicNumber
  else if europeanNumberSet.contains c then .europeanNumber
  else if nonspacingMarkSet.contains c then .mark
  else if europeanSeparatorSet.contains c || commonSeparatorSet.contains c ||
      europeanTerminatorSet.contains c || neutralSet.contains c || boundaryNeutralSet.contains c then
    .neutral
  else .leftToRight

/-- Whether a character puts its whole name under the rule for mixed directions. -/
def isRightToLeft (c : Char) : Bool :=
  !Text.isAscii c && (direction c == .rightToLeft || direction c == .arabicNumber)

def bidiLabel (label : List Char) : Bool :=
  let directions := label.map direction
  let last := (Text.dropEndWhile (· == .mark) directions).getLast?
  match directions.head? with
  | some .rightToLeft =>
      directions.all (· != .leftToRight) &&
        (last == some .rightToLeft || last == some .europeanNumber || last == some .arabicNumber) &&
        !(directions.contains .europeanNumber && directions.contains .arabicNumber)
  | some .leftToRight =>
      directions.all (fun d => d != .rightToLeft && d != .arabicNumber) &&
        (last == some .leftToRight || last == some .europeanNumber)
  | _ => false

end Domain
end RealmTokens
