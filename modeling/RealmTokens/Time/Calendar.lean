/-
The Gregorian calendar, extended to all years. Days are counted from 1 January of the year 0.
-/
namespace RealmTokens
namespace Time
namespace Calendar

def isLeap (year : Int) : Bool :=
  year % 4 == 0 && (year % 100 != 0 || year % 400 == 0)

def dayOfYear (year : Int) : Int :=
  365 * year + (year + 3) / 4 - (year + 99) / 100 + (year + 399) / 400

/-- The year in which a day lies. The guess from the mean length of a year is off by one at most. -/
def yearOfDay (day : Int) : Int :=
  let guess := 400 * day / 146097
  if day < dayOfYear guess then guess - 1
  else if dayOfYear (guess + 1) ≤ day then guess + 1
  else guess

def monthLengths (year : Int) : List Nat :=
  [31, if isLeap year then 29 else 28, 31, 30, 31, 30, 31, 31, 30, 31, 30, 31]

/-- The place of the month in which a day of the year lies, and the day's place in it. -/
def splitDay : List Nat → Nat → Nat × Nat
  | [], n => (0, n)
  | length :: rest, n =>
      if n < length then (0, n)
      else
        let later := splitDay rest (n - length)
        (later.1 + 1, later.2)

/-- A date by its numbers, months and days counted from one. -/
structure Date where
  year : Int
  month : Nat
  day : Nat
  deriving DecidableEq, Repr

def Date.valid (d : Date) : Bool :=
  1 ≤ d.month && d.month ≤ 12 && 1 ≤ d.day && d.day ≤ (monthLengths d.year).getD (d.month - 1) 0

def daysBefore (year : Int) (month : Nat) : Nat :=
  ((monthLengths year).take (month - 1)).foldl Nat.add 0

def Date.toDay (d : Date) : Int :=
  dayOfYear d.year + (daysBefore d.year d.month : Int) + d.day - 1

def dateOfDay (day : Int) : Date :=
  let year := yearOfDay day
  let place := splitDay (monthLengths year) (day - dayOfYear year).toNat
  ⟨year, place.1 + 1, place.2 + 1⟩

/-- The day 1 January 1970. -/
def epochDay : Int := 719528

example : (⟨1970, 1, 1⟩ : Date).toDay = epochDay := by decide

example : dateOfDay (⟨2024, 2, 29⟩ : Date).toDay = ⟨2024, 2, 29⟩ := by decide

end Calendar
end Time
end RealmTokens
