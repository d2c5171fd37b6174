/-
Text in double quotes, with everything a reader could not see shown by number.
-/
import RealmTokens.Text.Visible

namespace RealmTokens
namespace Text
namespace Quoted

def isPlain (c : Char) : Bool :=
  if c.toNat < 0x80 then
    0x20 ≤ c.toNat && c.toNat < 0x7f
  else
    !extenderSet.contains c && !invisibleSet.contains c

/-- The code point of a character in lowercase hexadecimal, between braces. -/
def numbered (c : Char) : List Char :=
  '\\' :: 'u' :: '\x7b' :: (Nat.toDigits 16 c.toNat ++ ['\x7d'])

def encodeChar (c : Char) : List Char :=
  match c with
  | '\x00' => ['\\', '0']
  | '\t' => ['\\', 't']
  | '\n' => ['\\', 'n']
  | '\r' => ['\\', 'r']
  | '"' => ['\\', '"']
  | '\\' => ['\\', '\\']
  | c => if isPlain c then [c] else numbered c

def encode (s : String) : String :=
  String.ofList ('"' :: (s.toList.flatMap encodeChar ++ ['"']))

/-- An optional text, with the word that says whether it is there. -/
def encodeOption : Option String → String
  | none => "None"
  | some s => "Some(" ++ encode s ++ ")"

end Quoted
end Text
end RealmTokens
