/-
How the segments of a path are put together. Dot segments move within the path, and drive letters of
file systems are protected from that.
-/
import RealmTokens.Url.Basic

namespace RealmTokens
namespace Url

def isSlash (special : Bool) (c : Char) : Bool :=
  c == '/' || (special && c == '\\')

/-- Tabs and line ends, which are no part of a URL. -/
def isBreak (c : Char) : Bool :=
  c == '\t' || c == '\n' || c == '\r'

def dropBreaks (cs : List Char) : List Char :=
  cs.filter (fun c => !isBreak c)

/-- A segment that means its own place, with the dot spelled out or encoded. -/
def isDot (segment : String) : Bool :=
  [".", "%2e"].contains (String.ofList (Text.asciiLowercase segment.toList))

def isDoubleDot (segment : String) : Bool :=
  ["..", ".%2e", "%2e.", "%2e%2e"].contains (String.ofList (Text.asciiLowercase segment.toList))

def isDrive : List Char → Bool
  | [c, ':'] => c.isAlpha
  | _ => false

def isLooseDrive : List Char → Bool
  | [c, ':'] | [c, '|'] => c.isAlpha
  | _ => false

/-- A text that begins with a drive letter of its own. -/
def startsWithDrive : List Char → Bool
  | c :: d :: rest =>
      isLooseDrive [c, d] && (rest.head?.all (fun e => e == '/' || e == '\\' || e == '?' || e == '#'))
  | _ => false

/-- The segments without the last one. A drive letter stays. -/
def dropSegment (parts : List String) : List String :=
  match parts.getLast? with
  | some last => if startsWithDrive last.toList then parts else parts.dropLast
  | none => []

/-- The segment that a text between slashes writes. -/
def segment (text : List Char) : String :=
  String.ofList (Percent.encode Percent.pathSet (dropBreaks text))

/-- A drive letter with a break behind its colon, and the text behind that, which is not empty. -/
def brokenDrive? (text : List Char) : Option (String × List Char) :=
  match text.dropWhile isBreak with
  | c :: rest =>
      match rest.dropWhile isBreak with
      | ':' :: d :: more =>
          if c.isAlpha && isBreak d && !(dropBreaks more).isEmpty then
            some (String.ofList [c, ':'], more)
          else none
      | _ => none
  | [] => none

/-- A path under way. `drive` says that its first segment was read as a drive letter. -/
structure Walk where
  parts : List String
  drive : Bool
  deriving DecidableEq, Repr

namespace Walk

/--
Adds the segment of a text that is no dot segment. Only the first segment of a file's path can be a
drive letter. A break behind its colon divides it from the rest of its text.
-/
def enter (file : Bool) (w : Walk) (text : List Char) : Walk :=
  if file && w.parts.isEmpty then
    match dropBreaks text, brokenDrive? text with
    | [c, d], _ =>
        if isLooseDrive [c, d] then ⟨[String.ofList [c, ':']], true⟩ else ⟨[segment text], w.drive⟩
    | _, some (drive, rest) => ⟨[drive, segment rest], w.drive⟩
    | _, none => ⟨[segment text], w.drive⟩
  else ⟨w.parts ++ [segment text], w.drive⟩

def next (file : Bool) (w : Walk) (text : List Char) : Walk :=
  if isDoubleDot (segment text) then ⟨dropSegment w.parts, w.drive⟩
  else if isDot (segment text) then w
  else w.enter file text

/-- The last text. A dot segment leaves an empty one. -/
def last (file : Bool) (w : Walk) (text : List Char) : Walk :=
  if isDoubleDot (segment text) then ⟨dropSegment w.parts ++ [""], w.drive⟩
  else if isDot (segment text) then ⟨w.parts ++ [""], w.drive⟩
  else w.enter file text

def all (file : Bool) (w : Walk) : List (List Char) → Walk
  | [] => w
  | [text] => w.last file text
  | text :: rest => (w.next file text).all file rest

end Walk

def pieces (special : Bool) (cs : List Char) : List (List Char) :=
  cs.splitOnP (isSlash special)

def dropSlash (special : Bool) : List Char → List Char
  | c :: rest => if isSlash special c then rest else c :: rest
  | [] => []

/-- The path that a text continues `parts` to. -/
def extendPath (special : Bool) (parts : List String) (cs : List Char) : Path :=
  .segments (Walk.all false ⟨parts, false⟩ (pieces special cs)).parts

/-- Paths of files have no empty segments at the front, but never none at all. -/
def collapse (parts : List String) : List String :=
  let rest := parts.dropWhile (· == "")
  if rest.isEmpty then [""] else rest

end Url
end RealmTokens
