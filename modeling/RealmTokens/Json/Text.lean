/-
The text that a JSON string stands for. Writing escapes quotes, backslashes and control characters
only, the common ones by a letter. Reading accepts every escape, and surrogates in pairs.
-/
import RealmTokens.Json.Basic
import RealmTokens.Text.Digits
import RealmTokens.Text.Utf8

namespace RealmTokens
namespace Json

def escapeChar (c : Char) : List Char :=
  match c with
  | '"' => ['\\', '"']
  | '\\' => ['\\', '\\']
  | '\x08' => ['\\', 'b']
  | '\t' => ['\\', 't']
  | '\n' => ['\\', 'n']
  | '\x0c' => ['\\', 'f']
  | '\r' => ['\\', 'r']
  | c =>
      if c.toNat < 0x20 then
        ['\\', 'u', '0', '0', Text.hexDigit (c.toNat / 16), Text.hexDigit (c.toNat % 16)]
      else [c]

def escape (cs : List Char) : List Char :=
  cs.flatMap escapeChar

def unit? (a b c d : Char) : Option Nat :=
  ([a, b, c, d].mapM Text.hexValue?).map Text.ofHexValues

def shortEscape? (c : Char) : Option Char :=
  match c with
  | '"' => some '"'
  | '\\' => some '\\'
  | '/' => some '/'
  | 'b' => some '\x08'
  | 'f' => some '\x0c'
  | 'n' => some '\n'
  | 'r' => some '\r'
  | 't' => some '\t'
  | _ => none

def isHighSurrogate (n : Nat) : Bool := 0xd800 ≤ n && n ≤ 0xdbff

def isLowSurrogate (n : Nat) : Bool := 0xdc00 ≤ n && n ≤ 0xdfff

/-- The characters that escaped ones stand for. A lone surrogate stands for none. -/
def unescape? : List Char → Option (List Char)
  | [] => some []
  | '\\' :: 'u' :: a :: b :: c :: d :: rest =>
      match unit? a b c d with
      | none => none
      | some unit =>
          if isLowSurrogate unit then none
          else if isHighSurrogate unit then
            match rest with
            | '\\' :: 'u' :: e :: f :: g :: h :: later =>
                match unit? e f g h with
                | none => none
                | some low =>
                    if isLowSurrogate low then
                      (unescape? later).map
                        (Char.ofNat (0x10000 + 1024 * (unit - 0xd800) + (low - 0xdc00)) :: ·)
                    else none
            | _ => none
          else (unescape? rest).map (Char.ofNat unit :: ·)
  | '\\' :: c :: rest =>
      match shortEscape? c with
      | none => none
      | some plain => (unescape? rest).map (plain :: ·)
  | ['\\'] => none
  | c :: rest => (unescape? rest).map (c :: ·)

/-- The content of a string that stands for these characters. -/
def rawOfChars (cs : List Char) : RawText :=
  Text.utf8 (String.ofList (escape cs))

/-- The text that the content of a string stands for. -/
def textOfRaw? (raw : RawText) : Option String :=
  (Text.ofUtf8? raw).bind (fun cs => (unescape? cs).map String.ofList)

def ofText (s : String) : Json :=
  .text (rawOfChars s.toList)

def ofNat (n : Nat) : Json :=
  .number (Text.utf8 (toString n))

def ofFields (fields : List (String × Json)) : Json :=
  .object (fields.map (fun field => (rawOfChars field.1.toList, field.2)))

/-- The value of a part that may be absent. -/
def ofOption {α : Type} (write : α → Json) : Option α → Json
  | none => .null
  | some x => write x

end Json
end RealmTokens
