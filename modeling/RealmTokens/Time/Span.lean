/-
Lengths of time: whole seconds in 64 bits, and nanoseconds below one second.
-/
namespace RealmTokens
namespace Time

def nanosPerSecond : Nat := 1000000000

def maxSeconds : Nat := 18446744073709551615

@[ext]
structure Span where
  seconds : Nat
  nanos : Nat
  seconds_le : seconds ≤ maxSeconds
  nanos_lt : nanos < nanosPerSecond
  deriving DecidableEq, Repr

namespace Span

theorem zero_lt_nanosPerSecond : 0 < nanosPerSecond := by decide

def ofSeconds (n : Nat) : Span :=
  ⟨min n maxSeconds, 0, Nat.min_le_right _ _, zero_lt_nanosPerSecond⟩

theorem millis_lt (n : Nat) : n % 1000 * 1000000 < nanosPerSecond := by
  have := Nat.mod_lt n (show 0 < 1000 by decide)
  unfold nanosPerSecond
  omega

/-- Whole milliseconds, up to the longest span. -/
def ofMillis (n : Nat) : Span :=
  ⟨min (n / 1000) maxSeconds, n % 1000 * 1000000, Nat.min_le_right _ _, millis_lt n⟩

def zero : Span := ofSeconds 0

/-- The span of these parts. Whole seconds among the nanoseconds are carried over. -/
def ofParts? (seconds nanos : Nat) : Option Span :=
  if h : seconds + nanos / nanosPerSecond ≤ maxSeconds then
    some ⟨seconds + nanos / nanosPerSecond, nanos % nanosPerSecond, h,
      Nat.mod_lt _ (by decide)⟩
  else none

/-- The length in nanoseconds, of any size. -/
def toNanos (s : Span) : Nat := s.seconds * nanosPerSecond + s.nanos

instance : LE Span := ⟨fun a b => a.toNanos ≤ b.toNanos⟩

instance : LT Span := ⟨fun a b => a.toNanos < b.toNanos⟩

instance (a b : Span) : Decidable (a ≤ b) := inferInstanceAs (Decidable (a.toNanos ≤ b.toNanos))

instance (a b : Span) : Decidable (a < b) := inferInstanceAs (Decidable (a.toNanos < b.toNanos))

def toMillis (s : Span) : Nat := s.toNanos / 1000000

theorem ofParts?_of_span (s : Span) : ofParts? s.seconds s.nanos = some s := by
  have h : s.nanos / nanosPerSecond = 0 := Nat.div_eq_of_lt s.nanos_lt
  simp [ofParts?, h, s.seconds_le, Nat.mod_eq_of_lt s.nanos_lt]

end Span
end Time
end RealmTokens
