/-
Decoding JSON values into values of a type. A record may be an object or the list of its fields in
order. Parts that no field asks for are not looked at.
-/
import RealmTokens.Json.Reader
import RealmTokens.Json.Text

namespace RealmTokens
namespace Json

abbrev Decoder (α : Type) := Json → Option α

def text? : Decoder String
  | .text raw => textOfRaw? raw
  | _ => none

def bool? : Decoder Bool
  | .bool value => some value
  | _ => none

def ofDigits (digits : List UInt8) : Nat :=
  digits.foldl (fun n b => 10 * n + (b.toNat - 0x30)) 0

/-- A whole number, written without fraction and exponent. A negative zero is none. -/
def int? : Decoder Int
  | .number (b :: digits) =>
      if b == 0x2d then
        if digits.all isDigit && digits != [0x30] then some (-(ofDigits digits : Int)) else none
      else if (b :: digits).all isDigit then some (ofDigits (b :: digits) : Int)
      else none
  | _ => none

/-- A whole number from zero to `limit`. -/
def nat? (limit : Nat) : Decoder Nat := fun json =>
  (int? json).bind (fun n => if 0 ≤ n ∧ n ≤ limit then some n.toNat else none)

/-- The greatest numbers of 32 and of 64 bits. -/
def maxNat32 : Nat := 4294967295
def maxNat64 : Nat := 18446744073709551615

def int64? : Decoder Int := fun json =>
  (int? json).bind (fun n =>
    if -9223372036854775808 ≤ n ∧ n ≤ 9223372036854775807 then some n else none)

def nullable {α : Type} (decode : Decoder α) : Decoder (Option α)
  | .null => some none
  | json => (decode json).map some

def listOf {α : Type} (decode : Decoder α) : Decoder (List α)
  | .list items => items.mapM decode
  | _ => none

def namedFields? (fields : List (RawText × Json)) : Option (List (String × Json)) :=
  fields.mapM (fun field => (textOfRaw? field.1).map (fun name => (name, field.2)))

/-- The fields of an object. A repeated name has the value that stands last. -/
def dictionary? {α : Type} (decode : Decoder α) : Decoder (List (String × α))
  | .object fields => do
      let named ← namedFields? fields
      named.mapM (fun field => (decode field.2).map (fun value => (field.1, value)))
  | _ => none

/-- The form of a record: its field names in order, and whether other names are refused. -/
structure RecordForm where
  names : List String
  strict : Bool

abbrev Record := List (String × Json)

/-- A known name may stand once only. -/
def record? (form : RecordForm) : Decoder Record
  | .object fields => do
      let named ← namedFields? fields
      let known := named.filter (fun field => form.names.contains field.1)
      if form.strict && known.length != named.length then none
      else if (known.map (fun field => field.1)).Nodup then some known
      else none
  | .list items =>
      if items.length ≤ form.names.length then some (form.names.zip items) else none
  | _ => none

namespace Record

def required {α : Type} (r : Record) (name : String) (decode : Decoder α) : Option α :=
  (r.lookup name).bind decode

/-- The value of a field, or `default` where the record does not have it. -/
def optional {α : Type} (r : Record) (name : String) (decode : Decoder α) (default : α) :
    Option α :=
  match r.lookup name with
  | none => some default
  | some json => decode json

/-- The value of a field that may be absent or null. -/
def nullable {α : Type} (r : Record) (name : String) (decode : Decoder α) : Option (Option α) :=
  r.optional name (Json.nullable decode) none

end Record

def decode? {α : Type} (decode : Decoder α) (document : String) : Option α :=
  (ofString? document).bind decode

end Json
end RealmTokens
