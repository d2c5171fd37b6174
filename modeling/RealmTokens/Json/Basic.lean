/-
JSON values as they stand in a document. The content of a string is kept as the bytes between its
quotes, and a number as its bytes, so that reading a document never has to give meaning to a part that
nobody asks for.
-/
namespace RealmTokens

/-- Bytes of a string between its quotes, or of a number. -/
abbrev RawText := List UInt8

inductive Json where
  | null
  | bool (value : Bool)
  | number (raw : RawText)
  | text (raw : RawText)
  | list (items : List Json)
  | object (fields : List (RawText × Json))
  deriving Repr, Inhabited

namespace Json

def isBlank (b : UInt8) : Bool :=
  b == 0x20 || b == 0x09 || b == 0x0a || b == 0x0d

def isDigit (b : UInt8) : Bool :=
  0x30 ≤ b && b ≤ 0x39

def isHexDigit (b : UInt8) : Bool :=
  isDigit b || (0x41 ≤ b && b ≤ 0x46) || (0x61 ≤ b && b ≤ 0x66)

def ascii (word : String) : List UInt8 :=
  word.toList.map (fun c => c.toNat.toUInt8)

end Json
end RealmTokens
