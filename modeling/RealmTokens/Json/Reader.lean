/-
Reading a JSON document, one byte after the other. What is open around the current byte lies on a
stack, so nesting may have any depth. Main statement: reading one text after another is reading both
together.
-/
import RealmTokens.Json.Basic
import RealmTokens.Text.Utf8

namespace RealmTokens
namespace Json

/-- An open list or object. What it holds so far is kept backwards. -/
inductive Frame where
  | list (items : List Json)
  | object (fields : List (RawText × Json)) (name : RawText)

/-- Where the reader is inside an escape. -/
inductive Escape where
  | none
  | opened
  | hex (left : Nat)
  deriving DecidableEq, Repr

/-- Where the reader is inside a number. -/
inductive NumberPart where
  | sign
  | zero
  | whole
  | point
  | fraction
  | exponentMark
  | exponentSign
  | exponent
  deriving DecidableEq, Repr

def NumberPart.complete : NumberPart → Bool
  | .zero | .whole | .fraction | .exponent => true
  | _ => false

/-- What a string is read for. -/
inductive Purpose where
  | value
  | name (fields : List (RawText × Json))

/-- What the reader expects. Bytes read so far are kept backwards. -/
inductive Mode where
  | value
  | firstItem
  | firstName
  | name (fields : List (RawText × Json))
  | colon (fields : List (RawText × Json)) (name : RawText)
  | string (purpose : Purpose) (read : RawText) (escape : Escape)
  | number (read : RawText) (part : NumberPart)
  | word (left : List UInt8) (meaning : Json)
  | after (value : Json)

structure State where
  stack : List Frame
  mode : Mode

namespace State

def start : State := ⟨[], .value⟩

def begin? (stack : List Frame) (b : UInt8) : Option State :=
  if b == 0x7b then some ⟨stack, .firstName⟩
  else if b == 0x5b then some ⟨stack, .firstItem⟩
  else if b == 0x22 then some ⟨stack, .string .value [] .none⟩
  else if b == 0x2d then some ⟨stack, .number [b] .sign⟩
  else if b == 0x30 then some ⟨stack, .number [b] .zero⟩
  else if isDigit b then some ⟨stack, .number [b] .whole⟩
  else if b == 0x74 then some ⟨stack, .word (ascii "rue") (.bool true)⟩
  else if b == 0x66 then some ⟨stack, .word (ascii "alse") (.bool false)⟩
  else if b == 0x6e then some ⟨stack, .word (ascii "ull") .null⟩
  else none

def after? (stack : List Frame) (value : Json) (b : UInt8) : Option State :=
  if isBlank b then some ⟨stack, .after value⟩
  else
    match stack with
    | .list items :: outer =>
        if b == 0x2c then some ⟨.list (value :: items) :: outer, .value⟩
        else if b == 0x5d then some ⟨outer, .after (.list (value :: items).reverse)⟩
        else none
    | .object fields name :: outer =>
        if b == 0x2c then some ⟨outer, .name ((name, value) :: fields)⟩
        else if b == 0x7d then some ⟨outer, .after (.object ((name, value) :: fields).reverse)⟩
        else none
    | [] => none

def close (stack : List Frame) (raw : RawText) : Purpose → State
  | .value => ⟨stack, .after (.text raw)⟩
  | .name fields => ⟨stack, .colon fields raw⟩

/-- A byte inside a string. Control characters must be escaped. -/
def string? (stack : List Frame) (purpose : Purpose) (read : RawText) (b : UInt8) :
    Escape → Option State
  | .none =>
      if b == 0x22 then some (close stack read.reverse purpose)
      else if b == 0x5c then some ⟨stack, .string purpose (b :: read) .opened⟩
      else if b < 0x20 then none
      else some ⟨stack, .string purpose (b :: read) .none⟩
  | .opened =>
      if b == 0x75 then some ⟨stack, .string purpose (b :: read) (.hex 4)⟩
      else if (ascii "\"\\/bfnrt").contains b then some ⟨stack, .string purpose (b :: read) .none⟩
      else none
  | .hex left =>
      if isHexDigit b then
        some ⟨stack, .string purpose (b :: read) (if left ≤ 1 then .none else .hex (left - 1))⟩
      else none

/-- The part of a number that a byte continues with, if it continues the number. -/
def numberPart? (b : UInt8) : NumberPart → Option NumberPart
  | .sign => if b == 0x30 then some .zero else if isDigit b then some .whole else none
  | .zero =>
      if b == 0x2e then some .point else if b == 0x65 || b == 0x45 then some .exponentMark else none
  | .whole =>
      if isDigit b then some .whole
      else if b == 0x2e then some .point
      else if b == 0x65 || b == 0x45 then some .exponentMark
      else none
  | .point => if isDigit b then some .fraction else none
  | .fraction =>
      if isDigit b then some .fraction
      else if b == 0x65 || b == 0x45 then some .exponentMark
      else none
  | .exponentMark =>
      if b == 0x2b || b == 0x2d then some .exponentSign
      else if isDigit b then some .exponent
      else none
  | .exponentSign => if isDigit b then some .exponent else none
  | .exponent => if isDigit b then some .exponent else none

def step? (s : State) (b : UInt8) : Option State :=
  match s.mode with
  | .value => if isBlank b then some s else begin? s.stack b
  | .firstItem =>
      if isBlank b then some s
      else if b == 0x5d then some ⟨s.stack, .after (.list [])⟩
      else begin? (.list [] :: s.stack) b
  | .firstName =>
      if isBlank b then some s
      else if b == 0x7d then some ⟨s.stack, .after (.object [])⟩
      else if b == 0x22 then some ⟨s.stack, .string (.name []) [] .none⟩
      else none
  | .name fields =>
      if isBlank b then some s
      else if b == 0x22 then some ⟨s.stack, .string (.name fields) [] .none⟩
      else none
  | .colon fields name =>
      if isBlank b then some s
      else if b == 0x3a then some ⟨.object fields name :: s.stack, .value⟩
      else none
  | .string purpose read escape => string? s.stack purpose read b escape
  | .number read part =>
      match numberPart? b part with
      | some next => some ⟨s.stack, .number (b :: read) next⟩
      | none => if part.complete then after? s.stack (.number read.reverse) b else none
  | .word left meaning =>
      match left with
      | [] => none
      | [last] => if b == last then some ⟨s.stack, .after meaning⟩ else none
      | next :: more => if b == next then some ⟨s.stack, .word more meaning⟩ else none
  | .after value => after? s.stack value b

/-- All bytes in turn, until one is refused. -/
def run? (s : State) (bytes : List UInt8) : Option State :=
  bytes.foldlM step? s

/-- The value of a document that ends here, if nothing is left open. -/
def finish? (s : State) : Option Json :=
  match s.stack, s.mode with
  | [], .after value => some value
  | [], .number read part => if part.complete then some (.number read.reverse) else none
  | _, _ => none

@[simp] theorem run?_nil (s : State) : s.run? [] = some s := rfl

@[simp] theorem run?_cons (s : State) (b : UInt8) (bs : List UInt8) :
    s.run? (b :: bs) = (s.step? b).bind (fun t => t.run? bs) := rfl

theorem run?_append (s : State) (xs ys : List UInt8) :
    s.run? (xs ++ ys) = (s.run? xs).bind (fun t => t.run? ys) := by
  simp [run?, List.foldlM_append]

end State

/-- The value that a document holds. White space may stand around it, nothing else. -/
def ofBytes? (bytes : List UInt8) : Option Json :=
  (State.start.run? bytes).bind State.finish?

def ofString? (s : String) : Option Json :=
  ofBytes? (Text.utf8 s)

end Json
end RealmTokens
