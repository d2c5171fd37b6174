/-
Points in time, to the nanosecond. An instant in a leap second belongs to the second before it, and has a
nanosecond count of a whole second or more. Any second can have a leap second behind it.
-/
import RealmTokens.Time.Calendar
import RealmTokens.Time.Span

namespace RealmTokens
namespace Time

/-- The first second of the first representable date, 1 January of the year -262143. -/
def firstSecond : Int := -8334601228800

/-- The last second of the last representable date, 31 December of the year 262142. -/
def lastSecond : Int := 8210266876799

example : ((⟨-262143, 1, 1⟩ : Calendar.Date).toDay - Calendar.epochDay) * 86400 = firstSecond := by
  decide

example :
    ((⟨262142, 12, 31⟩ : Calendar.Date).toDay - Calendar.epochDay) * 86400 + 86399 = lastSecond := by
  decide

/-- Seconds are counted from the beginning of 1970, universal time. -/
@[ext]
structure Instant where
  second : Int
  nanos : Nat
  first_le : firstSecond ≤ second
  le_last : second ≤ lastSecond
  nanos_lt : nanos < 2 * nanosPerSecond
  deriving DecidableEq, Repr

namespace Instant

def of? (second : Int) (nanos : Nat) : Option Instant :=
  if h : firstSecond ≤ second ∧ second ≤ lastSecond ∧ nanos < 2 * nanosPerSecond then
    some ⟨second, nanos, h.1, h.2.1, h.2.2⟩
  else none

theorem of?_self (t : Instant) : of? t.second t.nanos = some t := by
  simp [of?, t.first_le, t.le_last, t.nanos_lt]

theorem parts_of_of? {second : Int} {nanos : Nat} {t : Instant} (h : of? second nanos = some t) :
    t.second = second ∧ t.nanos = nanos := by
  unfold of? at h
  split at h
  · cases h
    exact ⟨rfl, rfl⟩
  · cases h

instance : LT Instant :=
  ⟨fun a b => a.second < b.second ∨ (a.second = b.second ∧ a.nanos < b.nanos)⟩

instance : LE Instant := ⟨fun a b => ¬b < a⟩

instance (a b : Instant) : Decidable (a < b) :=
  inferInstanceAs (Decidable (a.second < b.second ∨ (a.second = b.second ∧ a.nanos < b.nanos)))

instance (a b : Instant) : Decidable (a ≤ b) := inferInstanceAs (Decidable (¬b < a))

/-- The longest span that can be added, in nanoseconds: 2^63 - 1 milliseconds. -/
def longestStep : Nat := 9223372036854775807 * 1000000

/-- Whether a step from an instant in a leap second stays in that leap second. -/
def staysInLeap (start : Instant) (step : Span) : Bool :=
  nanosPerSecond ≤ start.nanos && step.seconds == 0 &&
    start.nanos + step.nanos < 2 * nanosPerSecond

/--
The instant that lies `step` behind `start`, if it is representable. A step out of a leap second
counts from the start of the second that the leap second repeats.
-/
def add? (start : Instant) (step : Span) : Option Instant :=
  if longestStep < step.toNanos then none
  else if start.staysInLeap step then of? start.second (start.nanos + step.nanos)
  else
    let nanos := start.nanos % nanosPerSecond + step.nanos
    of? (start.second + step.seconds + (nanos / nanosPerSecond : Nat)) (nanos % nanosPerSecond)

end Instant
end Time
end RealmTokens
