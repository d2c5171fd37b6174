/-
Lowercase of a text. Every character has an image of its own, with one exception: a capital sigma that
ends a word becomes the final form.
-/
import RealmTokens.Text.LetterCase

namespace RealmTokens
namespace Text

def isAscii (c : Char) : Bool :=
  c.toNat < 0x80

def isCased (c : Char) : Bool :=
  if isAscii c then c.isAlpha else casedSet.contains c

def isCaseIgnorable (c : Char) : Bool :=
  if isAscii c then
    c == '\'' || c == '.' || c == ':' || c == '^' || c == '`'
  else
    caseIgnorableSet.contains c

/-- The lowercase image of a character without its surroundings. -/
def lowercaseChar (c : Char) : List Char :=
  if isAscii c then [c.toLower] else (lowercaseMap.get? c).getD [c]

/-- Whether a cased character comes first, behind case-ignorable ones. -/
def casedAhead (cs : List Char) : Bool :=
  match cs.dropWhile isCaseIgnorable with
  | [] => false
  | c :: _ => isCased c

/-- The image of a capital sigma. `before` is read away from it, so backwards. -/
def lowercaseSigma (before after : List Char) : Char :=
  if casedAhead before && !casedAhead after then 'ς' else 'σ'

/-- Lowercase of the text that follows `before`, which is given in reverse. -/
def lowercaseAfter (before : List Char) : List Char → List Char
  | [] => []
  | c :: rest =>
      (if c = 'Σ' then [lowercaseSigma before rest] else lowercaseChar c) ++
        lowercaseAfter (c :: before) rest

def lowercase (s : String) : String :=
  String.ofList (lowercaseAfter [] s.toList)

/-- Lowercase of the ASCII letters alone. -/
def asciiLowercase (cs : List Char) : List Char :=
  cs.map Char.toLower

end Text
end RealmTokens
