/-
Instants as text. They are written in universal time with the fewest of 0, 3, 6 or 9 fraction digits
that are exact. Reading is more lenient: any offset, blanks between the parts, any number of digits.
-/
import RealmTokens.Text.Blank
import RealmTokens.Text.Digits
import RealmTokens.Text.Lowercase
import RealmTokens.Time.Instant

namespace RealmTokens
namespace Time

/-- The last `width` decimal digits of a number, the most significant first. -/
def lastDigits : Nat → Nat → List Char
  | 0, _ => []
  | width + 1, n => lastDigits width (n / 10) ++ [Char.ofNat ('0'.toNat + n % 10)]

/-- All decimal digits of a number, padded with zeros to `width`. -/
def padded (width n : Nat) : List Char :=
  let digits := Nat.toDigits 10 n
  List.replicate (width - digits.length) '0' ++ digits

namespace Instant

/-- A year of four digits stands alone, any other carries its sign. -/
def yearText (year : Int) : List Char :=
  if 0 ≤ year ∧ year ≤ 9999 then padded 4 year.toNat
  else if 0 ≤ year then '+' :: padded 4 year.toNat
  else '-' :: padded 4 year.natAbs

def fractionText (nanos : Nat) : List Char :=
  if nanos = 0 then []
  else if nanos % 1000000 = 0 then '.' :: lastDigits 3 (nanos / 1000000)
  else if nanos % 1000 = 0 then '.' :: lastDigits 6 (nanos / 1000)
  else '.' :: lastDigits 9 nanos

/-- A leap second is written as second 60. -/
def chars (t : Instant) : List Char :=
  let date := Calendar.dateOfDay (t.second / 86400 + Calendar.epochDay)
  let ofDay := (t.second % 86400).toNat
  let leap := t.nanos / nanosPerSecond
  yearText date.year ++ '-' :: lastDigits 2 date.month ++ '-' :: lastDigits 2 date.day ++
    'T' :: lastDigits 2 (ofDay / 3600) ++ ':' :: lastDigits 2 (ofDay / 60 % 60) ++
    ':' :: lastDigits 2 (ofDay % 60 + leap) ++ fractionText (t.nanos % nanosPerSecond) ++ ['Z']

def render (t : Instant) : String := String.ofList t.chars

/-- What a reader found, and the text behind it. -/
abbrev Reader (α : Type) := List Char → Option (α × List Char)

def takeDigits (limit : Nat) (cs : List Char) : List Char :=
  (cs.take limit).takeWhile Char.isDigit

/-- A number of one to `limit` digits. -/
def number? (limit : Nat) : Reader Nat := fun cs =>
  let digits := takeDigits limit cs
  if digits.isEmpty then none else some (Text.ofDecimal digits, cs.drop digits.length)

/-- A number of one or two digits, behind blanks. -/
def pair? : Reader Nat := fun cs => number? 2 (cs.dropWhile Text.isBlank)

/-- A year has up to four digits, or a sign and any number of digits. -/
def year? : Reader Int := fun cs =>
  match cs.dropWhile Text.isBlank with
  | '-' :: rest => (number? rest.length rest).map (fun r => (-(r.1 : Int), r.2))
  | '+' :: rest => (number? rest.length rest).map (fun r => ((r.1 : Int), r.2))
  | rest => (number? 4 rest).map (fun r => ((r.1 : Int), r.2))

def mark? (mark : Char) : Reader Unit := fun cs =>
  match cs.dropWhile Text.isBlank with
  | c :: rest => if c = mark then some ((), rest) else none
  | [] => none

/-- The letter T or a space, between date and time. Here no other blank will do. -/
def divider? : Reader Unit
  | c :: rest => if c = 'T' ∨ c = 't' ∨ c = ' ' then some ((), rest) else none
  | [] => none

/-- A fraction in nanoseconds. Digits from the tenth on are dropped. -/
def fraction? : Reader Nat
  | '.' :: rest =>
      let digits := takeDigits 9 rest
      if digits.isEmpty then none
      else some (Text.ofDecimal digits * Nat.pow 10 (9 - digits.length), rest.dropWhile Char.isDigit)
  | cs => some (0, cs)

/-- Hours and minutes of an offset, in seconds. Colons and blanks may stand between them. -/
def clock? : Reader Nat
  | h1 :: h2 :: rest =>
      match rest.dropWhile (fun c => c == ':' || Text.isBlank c) with
      | m1 :: m2 :: later =>
          if h1.isDigit && h2.isDigit && m1.isDigit && m2.isDigit && m1 < '6' then
            some (Text.ofDecimal [h1, h2] * 3600 + Text.ofDecimal [m1, m2] * 60, later)
          else none
      | _ => none
  | _ => none

def offset? : Reader Int := fun cs =>
  if Text.asciiLowercase (cs.take 3) = ['u', 't', 'c'] then some (0, cs.drop 3)
  else
    match cs with
    | 'Z' :: rest | 'z' :: rest => some (0, rest)
    | '+' :: rest => (clock? rest).map (fun r => ((r.1 : Int), r.2))
    | '-' :: rest | '−' :: rest => (clock? rest).map (fun r => (-(r.1 : Int), r.2))
    | _ => none

def date? : Reader Calendar.Date := fun cs => do
  let (year, cs) ← year? cs
  let (_, cs) ← mark? '-' cs
  let (month, cs) ← pair? cs
  let (_, cs) ← mark? '-' cs
  let (day, cs) ← pair? cs
  return (⟨year, month, day⟩, cs)

/-- The second of the day and the nanoseconds. Second 60 repeats second 59. -/
def time? : Reader (Nat × Nat) := fun cs => do
  let (hour, cs) ← pair? cs
  let (_, cs) ← mark? ':' cs
  let (minute, cs) ← pair? cs
  let (_, cs) ← mark? ':' cs
  let (second, cs) ← pair? cs
  let (nanos, cs) ← fraction? cs
  if 23 < hour ∨ 59 < minute ∨ 60 < second then none
  else if second = 60 then return ((hour * 3600 + minute * 60 + 59, nanosPerSecond + nanos), cs)
  else return ((hour * 3600 + minute * 60 + second, nanos), cs)

/-- The instant of a local date and time. Both the local and the universal date must be in range. -/
def ofLocal? (date : Calendar.Date) (ofDay nanos : Nat) (offset : Int) : Option Instant :=
  if date.valid ∧ offset.natAbs < 86400 then
    let onSite := (date.toDay - Calendar.epochDay) * 86400 + ofDay
    (of? onSite nanos).bind (fun t => of? (t.second - offset) nanos)
  else none

def ofChars? (cs : List Char) : Option Instant := do
  let (date, cs) ← date? cs
  let (_, cs) ← divider? cs
  let (time, cs) ← time? cs
  let (offset, cs) ← offset? (cs.dropWhile Text.isBlank)
  if cs.all Text.isBlank then ofLocal? date time.1 time.2 offset else none

def ofString? (s : String) : Option Instant := ofChars? s.toList

end Instant
end Time
end RealmTokens
