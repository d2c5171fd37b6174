/-
Which entries are about to expire.

An entry expires within a span of an instant if it expires before the sum of the two, wherever that lies.
Main statements: outside leap seconds this is a comparison of nanoseconds, however long the span is; and
an entry that has expired once stays expired, except where time goes from a second into the leap second
that repeats it.
-/
import Mathlib.Data.List.Basic
import RealmTokens.Proofs.Time.Sums
import RealmTokens.Store.Query
import RealmTokens.Time.InstantText

namespace RealmTokens

open Time (Instant Moment Span nanosPerSecond maxSeconds firstSecond lastSecond)

namespace Token
namespace Entry

variable {e : Entry} {now now' : Instant} {buffer buffer' : Span}

/-! ## Entries -/

/-- What `expiredAt` reads of a sum. -/
theorem expiredAt_iff_forall :
    e.expiredAt now buffer = true ↔
      ∃ expiry, e.expiresOn = some expiry ∧ ∀ limit, now.add? buffer = some limit → expiry < limit := by
  unfold expiredAt
  generalize now.add? buffer = limit?
  cases e.expiresOn with
  | none => simp
  | some expiry => cases limit? <;> simp

/-- Nothing expires behind the last second, so a sum that lies there is behind every expiry. -/
theorem expiredAt_iff :
    e.expiredAt now buffer = true ↔
      ∃ expiry, e.expiresOn = some expiry ∧ expiry.moment < now.sum buffer := by
  rw [expiredAt_iff_forall]
  refine exists_congr (fun expiry => and_congr_right (fun _ => ?_))
  constructor
  · intro before
    by_cases hlast : (now.sum buffer).second ≤ lastSecond
    · obtain ⟨limit, hlimit⟩ := (Instant.exists_moment_sum_iff now buffer).2 hlast
      rw [← hlimit, ← Instant.lt_iff]
      exact before limit (Instant.add?_eq_some_iff.2 hlimit)
    · have hsecond : expiry.moment.second ≤ lastSecond := expiry.le_last
      exact Moment.lt_iff.2 (.inl (Int.lt_of_le_of_lt hsecond (Int.not_le.1 hlast)))
  · intro hlt limit hlimit
    rw [Instant.lt_iff, Instant.add?_eq_some_iff.1 hlimit]
    exact hlt

/-- Whether an entry expires before `buffer` has passed since `now`, counted in nanoseconds. -/
def DueWithin (e : Entry) (now : Instant) (buffer : Span) : Prop :=
  ∃ expiry ∈ e.expiresOn, expiry.toNanos < now.toNanos + buffer.toNanos

instance (e : Entry) (now : Instant) (buffer : Span) : Decidable (e.DueWithin now buffer) :=
  inferInstanceAs (Decidable (∃ expiry ∈ e.expiresOn, _))

/-- Whether an entry expires in a leap second. -/
def ExpiresInLeap (e : Entry) : Prop := ∃ expiry ∈ e.expiresOn, expiry.InLeap

instance (e : Entry) : Decidable e.ExpiresInLeap :=
  inferInstanceAs (Decidable (∃ expiry ∈ e.expiresOn, _))

/-- Outside leap seconds expiry is a comparison of nanoseconds. -/
theorem expiredAt_iff_dueWithin (plain : ¬now.InLeap) (ordinary : ¬e.ExpiresInLeap) :
    e.expiredAt now buffer = true ↔ e.DueWithin now buffer := by
  rw [expiredAt_iff, DueWithin]
  refine exists_congr (fun expiry => and_congr_right (fun hexpiry => ?_))
  obtain ⟨hnanos, htotal⟩ := Instant.toNanos_sum plain buffer
  have hexpiry' : expiry.nanos < nanosPerSecond :=
    Nat.lt_of_not_le (fun leap => ordinary ⟨expiry, hexpiry, leap⟩)
  rw [Moment.lt_iff_toNanos hexpiry' hnanos, htotal]
  rfl

/-- All that has expired stays expired, unless time turns back. -/
theorem expiredAt_stays_iff (hnow : now ≤ now') (hbuffer : buffer ≤ buffer') :
    (∀ e : Entry, e.expiredAt now buffer = true → e.expiredAt now' buffer' = true) ↔
      ¬Instant.TurnsBack now buffer now' buffer' := by
  rw [Instant.turnsBack_iff hnow hbuffer]
  constructor
  · rintro stays ⟨hlt, hlast⟩
    -- What expires at the earlier sum itself has expired before, and has not now.
    obtain ⟨expiry, hexpiry⟩ := (Instant.exists_moment_sum_iff now' buffer').2 hlast
    let e : Entry := ⟨"", none, none, none, none, none, some expiry, false, none, none, none⟩
    have expired : e.expiredAt now buffer = true :=
      expiredAt_iff.2 ⟨expiry, rfl, hexpiry ▸ hlt⟩
    obtain ⟨t, ht, hlt'⟩ := expiredAt_iff.1 (stays e expired)
    obtain rfl : expiry = t := Option.some.inj ht
    rw [hexpiry] at hlt'
    exact Moment.lt_irrefl _ hlt'
  · intro forward e expired
    obtain ⟨expiry, hexpiry, hlt⟩ := expiredAt_iff.1 expired
    refine expiredAt_iff.2 ⟨expiry, hexpiry, Decidable.byContradiction (fun hnot => ?_)⟩
    refine forward ⟨Moment.lt_of_not_lt_of_lt hnot hlt, ?_⟩
    rw [Moment.lt_iff] at hnot
    have hlast : expiry.moment.second ≤ lastSecond := expiry.le_last
    omega

end Entry
end Token

namespace Store

open Token (Entry Key)

variable {now now' : Instant} {buffer buffer' : Span}

/-! ## Stores -/

theorem tokensAboutToExpire_eq (s : Store) (now : Instant) (buffer : Span) :
    s.tokensAboutToExpire now buffer = s.toList.filter (fun e => e.expiredAt now buffer) := by
  refine List.filter_congr (fun e _ => ?_)
  cases hexpired : e.expiredAt now buffer with
  | false => exact Bool.and_false _
  | true =>
      obtain ⟨expiry, hexpiry, -⟩ := Entry.expiredAt_iff.1 hexpired
      rw [hexpiry]
      rfl

/-- What one question finds in a store another finds, too, exactly if every entry that has expired for the
first one has expired for the second. -/
theorem sublist_tokensAboutToExpire_iff :
    (∀ s : Store, (s.tokensAboutToExpire now buffer).Sublist (s.tokensAboutToExpire now' buffer')) ↔
      ∀ e : Entry, e.expiredAt now buffer = true → e.expiredAt now' buffer' = true := by
  simp only [tokensAboutToExpire_eq]
  constructor
  · intro shown e expired
    have hshown := shown (.memory (Entries.empty.insert ⟨""⟩ e))
    have hmem : e ∈ [e].filter (fun e => e.expiredAt now buffer) :=
      List.mem_filter.2 ⟨List.mem_singleton_self e, expired⟩
    exact (List.mem_filter.1 (hshown.subset hmem)).2
  · intro stays s
    exact List.monotone_filter_right _ stays

/-- Outside leap seconds an entry has expired if its expiry lies before the sum of instant and span in
nanoseconds without a limit, and exactly these entries are about to expire. -/
theorem expiry_exact (plain : ¬now.InLeap) (buffer : Span) :
    (∀ (e : Entry) (expiry : Instant), e.expiresOn = some expiry → ¬expiry.InLeap →
      (e.expiredAt now buffer = true ↔ expiry.toNanos < now.toNanos + buffer.toNanos)) ∧
    ∀ s : Store,
      (s.tokensAboutToExpire now buffer).filter (fun e => ¬e.ExpiresInLeap) =
        s.toList.filter (fun e => decide (¬e.ExpiresInLeap ∧ e.DueWithin now buffer)) := by
  constructor
  · intro e expiry hexpiry hplain
    have ordinary : ¬e.ExpiresInLeap := by
      rintro ⟨t, ht, leap⟩
      obtain rfl : expiry = t := Option.some.inj (hexpiry.symm.trans ht)
      exact hplain leap
    rw [Entry.expiredAt_iff_dueWithin plain ordinary]
    constructor
    · rintro ⟨t, ht, hlt⟩
      obtain rfl : expiry = t := Option.some.inj (hexpiry.symm.trans ht)
      exact hlt
    · exact fun hlt => ⟨expiry, hexpiry, hlt⟩
  · intro s
    rw [tokensAboutToExpire_eq, List.filter_filter]
    refine List.filter_congr (fun e _ => ?_)
    by_cases ordinary : e.ExpiresInLeap
    · simp [ordinary]
    · have hdue : e.expiredAt now buffer = decide (e.DueWithin now buffer) :=
        Bool.eq_iff_iff.2
          ((Entry.expiredAt_iff_dueWithin plain ordinary).trans decide_eq_true_iff.symm)
      simp [ordinary, hdue]

/-- From the first instant to the last, one nanosecond further, and as far as a span goes. -/
theorem expiry_exact_at_last_instant :
    let first : Instant := ⟨firstSecond, 0, by decide, by decide, by decide⟩
    let last : Instant := ⟨lastSecond, 999999999, by decide, by decide, by decide⟩
    let range : Span := ⟨16544868105599, 999999999, by decide, by decide⟩
    let further : Span := ⟨16544868105600, 0, by decide, by decide⟩
    let endless : Span := ⟨maxSeconds, 999999999, by decide, by decide⟩
    let e : Entry := ⟨"a", none, none, none, none, none, some last, false, none, none, none⟩
    let s : Store := .memory (Entries.empty.insert ⟨"a"⟩ e)
    first.add? range = some last ∧ first.add? further = none ∧ first.add? endless = none ∧
      ¬first.InLeap ∧ ¬last.InLeap ∧ e.expiredAt first range = false ∧
      e.expiredAt first further = true ∧ e.expiredAt first endless = true ∧
      (s.tokensAboutToExpire first range).filter (fun e => ¬e.ExpiresInLeap) = [] ∧
      (s.tokensAboutToExpire first endless).filter (fun e => ¬e.ExpiresInLeap) = [e] := by
  intro first last range further endless e s
  have plain : ¬first.InLeap := by decide
  have hplain : ¬last.InLeap := by decide
  obtain ⟨hrange, hrange'⟩ := expiry_exact plain range
  obtain ⟨hendless, hendless'⟩ := expiry_exact plain endless
  refine ⟨by decide +kernel, by decide +kernel, by decide +kernel, plain, hplain, ?_, ?_, ?_,
    (hrange' s).trans (by decide +kernel), (hendless' s).trans (by decide +kernel)⟩
  · exact Bool.eq_false_iff.2 (fun h => absurd ((hrange e last rfl hplain).1 h) (by decide +kernel))
  · exact ((expiry_exact plain further).1 e last rfl hplain).2 (by decide +kernel)
  · exact (hendless e last rfl hplain).2 (by decide +kernel)

/-- What has expired, in an entry and in a store, stays so at a later instant and with a longer span,
exactly if time does not turn back between the sums. -/
theorem expiry_lasts_iff (hnow : now ≤ now') (hbuffer : buffer ≤ buffer') :
    ((∀ e : Entry, e.expiredAt now buffer = true → e.expiredAt now' buffer' = true) ↔
        ¬Instant.TurnsBack now buffer now' buffer') ∧
      ((∀ s : Store,
          (s.tokensAboutToExpire now buffer).Sublist (s.tokensAboutToExpire now' buffer')) ↔
        ¬Instant.TurnsBack now buffer now' buffer') :=
  ⟨Entry.expiredAt_stays_iff hnow hbuffer,
    sublist_tokensAboutToExpire_iff.trans (Entry.expiredAt_stays_iff hnow hbuffer)⟩

/-- Into the leap second with a longer span, and with the same one. -/
theorem expiry_lasts_iff_over_leap_second :
    let closing : Instant := ⟨1483228799, 900000000, by decide, by decide, by decide⟩
    let repeated : Instant := ⟨1483228799, 1000000000, by decide, by decide, by decide⟩
    let half : Span := ⟨0, 500000000, by decide, by decide⟩
    let minutes : Span := ⟨300, 0, by decide, by decide⟩
    closing ≤ repeated ∧ half ≤ minutes ∧ half ≤ half ∧
      (∀ e : Entry, e.expiredAt closing half = true → e.expiredAt repeated minutes = true) ∧
      (∀ s : Store,
        (s.tokensAboutToExpire closing half).Sublist (s.tokensAboutToExpire repeated minutes)) ∧
      ¬∀ e : Entry, e.expiredAt closing half = true → e.expiredAt repeated half = true := by
  intro closing repeated half minutes
  have hnow : closing ≤ repeated := by decide
  have hbuffer : half ≤ minutes := by decide
  have hsame : half ≤ half := by decide
  have forward : ¬Instant.TurnsBack closing half repeated minutes :=
    fun turns => absurd turns.behind (by decide +kernel)
  have back : Instant.TurnsBack closing half repeated half :=
    ⟨by decide, by decide, by decide, by decide, by decide, by decide +kernel⟩
  obtain ⟨hentries, hstores⟩ := expiry_lasts_iff hnow hbuffer
  exact ⟨hnow, hbuffer, hsame, hentries.2 forward, hstores.2 forward,
    fun stays => (expiry_lasts_iff hnow hsame).1.1 stays back⟩

/-- Half a second from the last tenth of a year on reaches into the next one; half a second from the
beginning of the leap second behind it does not.  What expires with the year has expired at the first of
the two instants, and not at the second. -/
theorem expiry_ends_in_leap_second :
    let closing : Instant := ⟨1483228799, 900000000, by decide, by decide, by decide⟩
    let repeated : Instant := ⟨1483228799, 1000000000, by decide, by decide, by decide⟩
    let newYear : Instant := ⟨1483228800, 0, by decide, by decide, by decide⟩
    let half : Span := ⟨0, 500000000, by decide, by decide⟩
    let e : Entry := ⟨"a", none, none, none, none, none, some newYear, false, none, none, none⟩
    let s : Store := .memory (Entries.empty.insert ⟨"a"⟩ e)
    Instant.ofString? "2016-12-31T23:59:59.9Z" = some closing ∧
      Instant.ofString? "2016-12-31T23:59:60Z" = some repeated ∧
      closing ≤ repeated ∧ half ≤ half ∧
      e.expiredAt closing half = true ∧ e.expiredAt repeated half = false ∧
      s.tokensAboutToExpire closing half = [e] ∧ s.tokensAboutToExpire repeated half = [] := by
  decide +kernel

end Store
end RealmTokens
