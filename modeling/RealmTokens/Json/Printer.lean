/-
Writing a JSON value without any white space.
-/
import RealmTokens.Json.Basic

namespace RealmTokens
namespace Json

def quoted (raw : RawText) : List UInt8 :=
  0x22 :: (raw ++ [0x22])

mutual

def bytes : Json → List UInt8
  | .null => ascii "null"
  | .bool true => ascii "true"
  | .bool false => ascii "false"
  | .number raw => raw
  | .text raw => quoted raw
  | .list [] => [0x5b, 0x5d]
  | .list (item :: items) => 0x5b :: (bytes item ++ moreItems items)
  | .object [] => [0x7b, 0x7d]
  | .object ((name, value) :: fields) =>
      0x7b :: (quoted name ++ 0x3a :: (bytes value ++ moreFields fields))

/-- Items behind the first one, and the closing bracket. -/
def moreItems : List Json → List UInt8
  | [] => [0x5d]
  | item :: items => 0x2c :: (bytes item ++ moreItems items)

/-- Fields behind the first one, and the closing brace. -/
def moreFields : List (RawText × Json) → List UInt8
  | [] => [0x7d]
  | (name, value) :: fields => 0x2c :: (quoted name ++ 0x3a :: (bytes value ++ moreFields fields))

end

end Json
end RealmTokens
