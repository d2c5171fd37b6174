/-
Sums of an instant and a span.

A sum may lie behind the last instant.  It is a moment all the same, a second and the nanoseconds in it
without a limit, and moments are ordered as instants are.  Main statements: a sum is an instant exactly
if it does not lie behind the last second, whatever the length of the span; outside leap seconds it is
the sum of the nanoseconds; and when a later instant and a longer span have an earlier sum.
-/
import RealmTokens.Time.Instant

namespace RealmTokens
namespace Time

/-- A second and the nanoseconds in it, however far away. -/
@[ext]
structure Moment where
  second : Int
  nanos : Nat
  deriving DecidableEq, Repr

namespace Moment

instance : LT Moment :=
  ⟨fun a b => a.second < b.second ∨ (a.second = b.second ∧ a.nanos < b.nanos)⟩

instance (a b : Moment) : Decidable (a < b) :=
  inferInstanceAs (Decidable (a.second < b.second ∨ (a.second = b.second ∧ a.nanos < b.nanos)))

theorem lt_iff {a b : Moment} :
    a < b ↔ a.second < b.second ∨ (a.second = b.second ∧ a.nanos < b.nanos) :=
  Iff.rfl

/-- Nanoseconds from the beginning of 1970. -/
def toNanos (m : Moment) : Int := m.second * nanosPerSecond + m.nanos

theorem lt_irrefl (m : Moment) : ¬m < m := by
  rw [lt_iff]
  omega

theorem lt_of_not_lt_of_lt {a b c : Moment} (h : ¬b < a) (h' : b < c) : a < c := by
  rw [lt_iff] at *
  omega

/-- Outside leap seconds moments have the order of their nanoseconds. -/
theorem lt_iff_toNanos {a b : Moment} (ha : a.nanos < nanosPerSecond)
    (hb : b.nanos < nanosPerSecond) : a < b ↔ a.toNanos < b.toNanos := by
  rw [lt_iff, toNanos, toNanos]
  unfold nanosPerSecond at *
  omega

end Moment

namespace Instant

def moment (t : Instant) : Moment := ⟨t.second, t.nanos⟩

def toNanos (t : Instant) : Int := t.moment.toNanos

theorem lt_iff {a b : Instant} : a < b ↔ a.moment < b.moment := Iff.rfl

/-- Whether an instant lies in a leap second. -/
def InLeap (t : Instant) : Prop := nanosPerSecond ≤ t.nanos

instance (t : Instant) : Decidable t.InLeap := inferInstanceAs (Decidable (_ ≤ _))

/-! ## Sums -/

/-- The moment that lies `step` behind `start`. A step out of a leap second counts from the start of the
second that the leap second repeats. -/
def sum (start : Instant) (step : Span) : Moment :=
  if start.staysInLeap step then ⟨start.second, start.nanos + step.nanos⟩
  else
    let nanos := start.nanos % nanosPerSecond + step.nanos
    ⟨start.second + step.seconds + (nanos / nanosPerSecond : Nat), nanos % nanosPerSecond⟩

theorem staysInLeap_iff {start : Instant} {step : Span} :
    start.staysInLeap step = true ↔
      start.InLeap ∧ start.nanos + step.toNanos < 2 * nanosPerSecond := by
  simp only [staysInLeap, Bool.and_eq_true, decide_eq_true_eq, beq_iff_eq, InLeap, Span.toNanos]
  unfold nanosPerSecond
  omega

/-- A step that does not lead out of a leap second. -/
theorem sum_of_stays {start : Instant} {step : Span} (leap : start.InLeap)
    (stays : start.nanos + step.toNanos < 2 * nanosPerSecond) :
    start.sum step = ⟨start.second, start.nanos + step.toNanos⟩ := by
  have hseconds : step.seconds = 0 := by
    unfold InLeap at leap
    unfold Span.toNanos nanosPerSecond at *
    omega
  rw [sum, if_pos (staysInLeap_iff.2 ⟨leap, stays⟩), Span.toNanos, hseconds, Nat.zero_mul,
    Nat.zero_add]

/-- Any other step counts from the place of the instant in an ordinary second. -/
theorem sum_of_leaves {start : Instant} {step : Span}
    (leaves : start.InLeap → 2 * nanosPerSecond ≤ start.nanos + step.toNanos) :
    (start.sum step).nanos < nanosPerSecond ∧
      (start.sum step).toNanos =
        start.second * nanosPerSecond + (start.nanos % nanosPerSecond : Nat) + step.toNanos := by
  have hnot : ¬start.staysInLeap step = true := by
    rw [staysInLeap_iff]
    exact fun h => Nat.not_lt_of_le (leaves h.1) h.2
  rw [sum, if_neg hnot]
  refine ⟨Nat.mod_lt _ Span.zero_lt_nanosPerSecond, ?_⟩
  simp only [Moment.toNanos, Span.toNanos]
  unfold nanosPerSecond
  omega

/-- Outside leap seconds a sum is the sum of the nanoseconds. -/
theorem toNanos_sum {start : Instant} (plain : ¬start.InLeap) (step : Span) :
    (start.sum step).nanos < nanosPerSecond ∧
      (start.sum step).toNanos = start.toNanos + step.toNanos := by
  have hleaves : start.InLeap → 2 * nanosPerSecond ≤ start.nanos + step.toNanos :=
    fun leap => absurd leap plain
  obtain ⟨hnanos, htotal⟩ := sum_of_leaves hleaves
  have hmod : start.nanos % nanosPerSecond = start.nanos := Nat.mod_eq_of_lt (Nat.lt_of_not_le plain)
  rw [hmod] at htotal
  exact ⟨hnanos, htotal⟩

theorem second_le_sum (start : Instant) (step : Span) :
    start.second ≤ (start.sum step).second := by
  unfold sum
  split
  case isTrue => exact Int.le_refl _
  case isFalse =>
    unfold nanosPerSecond
    dsimp only
    omega

/-- A sum has no more nanoseconds than an instant. -/
theorem nanos_sum_lt (start : Instant) (step : Span) :
    (start.sum step).nanos < 2 * nanosPerSecond := by
  by_cases stays : start.InLeap ∧ start.nanos + step.toNanos < 2 * nanosPerSecond
  · rw [sum_of_stays stays.1 stays.2]
    exact stays.2
  · have hleaves : start.InLeap → 2 * nanosPerSecond ≤ start.nanos + step.toNanos :=
      fun leap => Nat.le_of_not_lt (fun h => stays ⟨leap, h⟩)
    exact Nat.lt_of_lt_of_le (sum_of_leaves hleaves).1 (by decide)

/-! ## Sums that are instants -/

theorem of?_eq_some_iff {second : Int} {nanos : Nat} {t : Instant} :
    of? second nanos = some t ↔ t.moment = ⟨second, nanos⟩ := by
  constructor
  · intro h
    obtain ⟨rfl, rfl⟩ := parts_of_of? h
    rfl
  · intro h
    obtain ⟨rfl, rfl⟩ := Moment.mk.inj h
    exact of?_self t

/-- A moment between the first second and the last is an instant, if a second can have its nanoseconds. -/
theorem exists_moment_eq {m : Moment} (first : firstSecond ≤ m.second) (last : m.second ≤ lastSecond)
    (nanos : m.nanos < 2 * nanosPerSecond) : ∃ t : Instant, t.moment = m :=
  ⟨⟨m.second, m.nanos, first, last, nanos⟩, rfl⟩

theorem exists_moment_sum_iff (start : Instant) (step : Span) :
    (∃ t : Instant, t.moment = start.sum step) ↔ (start.sum step).second ≤ lastSecond := by
  constructor
  · rintro ⟨t, ht⟩
    rw [← ht]
    exact t.le_last
  · exact fun last => exists_moment_eq
      (Int.le_trans start.first_le (second_le_sum start step)) last (nanos_sum_lt start step)

/-- A span that is too long to be added leads behind the last second from anywhere. -/
theorem lastSecond_lt_of_longestStep_lt (start : Instant) {step : Span}
    (long : longestStep < step.toNanos) : lastSecond < (start.sum step).second := by
  have hstart := start.first_le
  have hleaves : start.InLeap → 2 * nanosPerSecond ≤ start.nanos + step.toNanos := by
    unfold longestStep at long
    unfold nanosPerSecond
    omega
  obtain ⟨hnanos, htotal⟩ := sum_of_leaves hleaves
  unfold Moment.toNanos at htotal
  unfold longestStep at long
  unfold firstSecond at hstart
  unfold lastSecond
  unfold nanosPerSecond at *
  omega

theorem add?_eq_some_iff {start : Instant} {step : Span} {t : Instant} :
    start.add? step = some t ↔ t.moment = start.sum step := by
  have hadd : start.add? step =
      if longestStep < step.toNanos then none
      else of? (start.sum step).second (start.sum step).nanos := by
    unfold add? sum
    split
    case isTrue => rfl
    case isFalse => split <;> rfl
  rw [hadd]
  split
  case isTrue long =>
    refine iff_of_false (Option.some_ne_none t).symm (fun ht => ?_)
    have hlast := lastSecond_lt_of_longestStep_lt start long
    rw [← ht] at hlast
    exact Int.not_le.2 hlast t.le_last
  case isFalse => exact of?_eq_some_iff

theorem add?_eq_none_iff {start : Instant} {step : Span} :
    start.add? step = none ↔ lastSecond < (start.sum step).second := by
  rw [Option.eq_none_iff_forall_ne_some, ← Int.not_le, ← exists_moment_sum_iff, not_exists]
  exact forall_congr' (fun t => not_congr add?_eq_some_iff)

/-! ## Sums in order -/

/-- A later instant and a longer span have an earlier sum only where the later instant is in a leap
second and the other one in the second that it repeats. -/
theorem sum_lt_sum_iff {start start' : Instant} {step step' : Span} (hstart : start ≤ start')
    (hstep : step ≤ step') :
    start'.sum step' < start.sum step ↔
      start'.second = start.second ∧ ¬start.InLeap ∧ start'.InLeap ∧
        nanosPerSecond ≤ start.nanos + step.toNanos ∧
        start'.nanos + step'.toNanos < nanosPerSecond + (start.nanos + step.toNanos) := by
  have hn := start.nanos_lt
  have hn' := start'.nanos_lt
  have horder : ¬(start'.second < start.second ∨
      start'.second = start.second ∧ start'.nanos < start.nanos) := hstart
  have hlength : step.toNanos ≤ step'.toNanos := hstep
  rw [Moment.lt_iff]
  unfold InLeap
  by_cases stays : start.InLeap ∧ start.nanos + step.toNanos < 2 * nanosPerSecond
  · have hleap : nanosPerSecond ≤ start.nanos := stays.1
    rw [sum_of_stays stays.1 stays.2]
    by_cases stays' : start'.InLeap ∧ start'.nanos + step'.toNanos < 2 * nanosPerSecond
    · rw [sum_of_stays stays'.1 stays'.2]
      dsimp only
      omega
    · obtain ⟨hnanos', htotal'⟩ :=
        sum_of_leaves (fun leap => Nat.le_of_not_lt (fun h => stays' ⟨leap, h⟩))
      unfold Moment.toNanos at htotal'
      unfold InLeap at stays'
      unfold nanosPerSecond at *
      dsimp only
      omega
  · obtain ⟨hnanos, htotal⟩ := sum_of_leaves (fun leap => Nat.le_of_not_lt (fun h => stays ⟨leap, h⟩))
    unfold Moment.toNanos at htotal
    unfold InLeap at stays
    by_cases stays' : start'.InLeap ∧ start'.nanos + step'.toNanos < 2 * nanosPerSecond
    · have hleap' : nanosPerSecond ≤ start'.nanos := stays'.1
      rw [sum_of_stays stays'.1 stays'.2]
      unfold nanosPerSecond at *
      dsimp only
      omega
    · obtain ⟨hnanos', htotal'⟩ :=
        sum_of_leaves (fun leap => Nat.le_of_not_lt (fun h => stays' ⟨leap, h⟩))
      unfold Moment.toNanos at htotal'
      unfold InLeap at stays'
      unfold nanosPerSecond at *
      omega

/-- Time goes from an ordinary second into the leap second that repeats it.  The sum with the earlier
instant leaves that second, and the sum with the later one is an instant that lies before it. -/
structure TurnsBack (start : Instant) (step : Span) (start' : Instant) (step' : Span) : Prop where
  second : start'.second = start.second
  ordinary : ¬start.InLeap
  leap : start'.InLeap
  leaves : nanosPerSecond ≤ start.nanos + step.toNanos
  behind : start'.nanos + step'.toNanos < nanosPerSecond + (start.nanos + step.toNanos)
  within : (start'.add? step').isSome = true

theorem turnsBack_iff {start start' : Instant} {step step' : Span} (hstart : start ≤ start')
    (hstep : step ≤ step') :
    TurnsBack start step start' step' ↔
      start'.sum step' < start.sum step ∧ (start'.sum step').second ≤ lastSecond := by
  have hwithin : (start'.add? step').isSome = true ↔ (start'.sum step').second ≤ lastSecond := by
    rw [← Int.not_lt, ← add?_eq_none_iff, ← Option.not_isSome_iff_eq_none, Decidable.not_not]
  rw [sum_lt_sum_iff hstart hstep, ← hwithin]
  constructor
  · exact fun h => ⟨⟨h.second, h.ordinary, h.leap, h.leaves, h.behind⟩, h.within⟩
  · rintro ⟨⟨second, ordinary, leap, leaves, behind⟩, within⟩
    exact ⟨second, ordinary, leap, leaves, behind, within⟩

end Instant
end Time
end RealmTokens
