/-
Instants read back from their text.

Each part of the text is read alone, and the reader stops where the part ends.  A leap second has a text
of its own at the end of a minute only; anywhere else it is written as the second behind it.  Main
statements: the text of an instant is read as that instant if it has a text of its own, and as the one in
the second behind it otherwise; and whatever is read has a text of its own.
-/
import RealmTokens.Proofs.Text.Decimal
import RealmTokens.Proofs.Time.Calendar
import RealmTokens.Time.InstantText

namespace RealmTokens
namespace Time

/-! ## Written numbers -/

theorem digit_of_lt {n : Nat} (h : n < 10) :
    (Char.ofNat ('0'.toNat + n)).isDigit = true ∧
      Text.ofDecimal [Char.ofNat ('0'.toNat + n)] = n := by
  have table : ∀ n, n < 10 → (Char.ofNat ('0'.toNat + n)).isDigit = true ∧
      Text.ofDecimal [Char.ofNat ('0'.toNat + n)] = n := by
    decide
  exact table n h

theorem length_lastDigits (width n : Nat) : (lastDigits width n).length = width := by
  induction width generalizing n with
  | zero => rfl
  | succ width ih => rw [lastDigits, List.length_append, ih, List.length_singleton]

theorem isDigit_of_mem_lastDigits {width n : Nat} {c : Char} (h : c ∈ lastDigits width n) :
    c.isDigit = true := by
  induction width generalizing n with
  | zero => cases h
  | succ width ih =>
      rw [lastDigits, List.mem_append, List.mem_singleton] at h
      rcases h with h | rfl
      · exact ih h
      · exact (digit_of_lt (Nat.mod_lt n (by decide))).1

theorem ofDecimal_lastDigits (width n : Nat) :
    Text.ofDecimal (lastDigits width n) = n % 10 ^ width := by
  induction width generalizing n with
  | zero => rw [Nat.pow_zero, Nat.mod_one]; rfl
  | succ width ih =>
      rw [lastDigits, Text.ofDecimal_append, ih, (digit_of_lt (Nat.mod_lt n (by decide))).2,
        List.length_singleton, Nat.pow_one, Nat.pow_succ, Nat.mul_comm (10 ^ width),
        Nat.mod_mul, Nat.mul_comm, Nat.add_comm]

theorem isDigit_of_mem_padded {width n : Nat} {c : Char} (h : c ∈ padded width n) :
    c.isDigit = true := by
  rw [padded, List.mem_append] at h
  rcases h with h | h
  · rw [List.eq_of_mem_replicate h]
    rfl
  · exact Text.isDigit_of_mem_toDigits h

theorem ofDecimal_padded (width n : Nat) : Text.ofDecimal (padded width n) = n := by
  rw [padded, Text.ofDecimal_append, Text.ofDecimal_replicate_zero, Nat.zero_mul, Nat.zero_add,
    Text.ofDecimal_toDigits]

theorem padded_ne_nil (width n : Nat) : padded width n ≠ [] := by
  intro h
  rw [padded, List.append_eq_nil_iff] at h
  exact Nat.toDigits_ne_nil h.2

theorem length_padded {width n : Nat} (hw : 0 < width) (h : n < 10 ^ width) :
    (padded width n).length = width := by
  have hlen : (Nat.toDigits 10 n).length ≤ width :=
    (Nat.length_toDigits_le_iff (by decide) hw).2 h
  rw [padded, List.length_append, List.length_replicate]
  omega

namespace Instant

/-! ## Reading a number -/

/-- Whether a text goes on with something else than a digit. -/
def Breaks (cs : List Char) : Prop := ∀ c, cs.head? = some c → c.isDigit = false

theorem breaks_cons {c : Char} (h : c.isDigit = false) (cs : List Char) : Breaks (c :: cs) := by
  intro d hd
  cases hd
  exact h

theorem takeWhile_of_breaks {cs : List Char} (h : Breaks cs) (n : Nat) :
    (cs.take n).takeWhile Char.isDigit = [] := by
  cases n with
  | zero => rfl
  | succ n =>
      cases cs with
      | nil => rfl
      | cons c cs => rw [List.take_succ_cons, List.takeWhile_cons, h c rfl]; rfl

theorem takeDigits_append {limit : Nat} {digits rest : List Char}
    (hdigits : ∀ c ∈ digits, c.isDigit = true) (hlen : digits.length ≤ limit)
    (hend : digits.length = limit ∨ Breaks rest) :
    takeDigits limit (digits ++ rest) = digits := by
  rw [takeDigits, List.take_append, List.take_of_length_le hlen,
    List.takeWhile_append_of_pos hdigits]
  have hrest : (rest.take (limit - digits.length)).takeWhile Char.isDigit = [] := by
    rcases hend with rfl | hbreaks
    · rw [Nat.sub_self]
      rfl
    · exact takeWhile_of_breaks hbreaks _
  rw [hrest, List.append_nil]

theorem number?_append {limit : Nat} {digits rest : List Char}
    (hdigits : ∀ c ∈ digits, c.isDigit = true) (hne : digits ≠ []) (hlen : digits.length ≤ limit)
    (hend : digits.length = limit ∨ Breaks rest) :
    number? limit (digits ++ rest) = some (Text.ofDecimal digits, rest) := by
  have hempty : digits.isEmpty = false := by
    cases digits with
    | nil => exact absurd rfl hne
    | cons c cs => rfl
  rw [number?, takeDigits_append hdigits hlen hend, hempty]
  show some (Text.ofDecimal digits, (digits ++ rest).drop digits.length) = _
  rw [List.drop_left]

theorem isBlank_of_isDigit {c : Char} (h : c.isDigit = true) : Text.isBlank c = false := by
  have table : ∀ n, n < 0x80 → (Char.ofNat n).isDigit = true →
      Text.isBlank (Char.ofNat n) = false := by
    decide
  exact Text.forall_char_lt (p := fun c => c.isDigit = true → Text.isBlank c = false) table
    (Text.toNat_lt_of_isDigit h) h

/-- No blank stands in front of digits. -/
theorem dropWhile_digits {digits : List Char} (hdigits : ∀ c ∈ digits, c.isDigit = true)
    (hne : digits ≠ []) (rest : List Char) :
    (digits ++ rest).dropWhile Text.isBlank = digits ++ rest := by
  cases digits with
  | nil => exact absurd rfl hne
  | cons c cs =>
      rw [List.cons_append, List.dropWhile_cons, isBlank_of_isDigit (hdigits c List.mem_cons_self)]
      rfl

theorem pair?_lastDigits {n : Nat} (h : n < 100) (rest : List Char) :
    pair? (lastDigits 2 n ++ rest) = some (n, rest) := by
  have hdigits : ∀ c ∈ lastDigits 2 n, c.isDigit = true :=
    fun c hc => isDigit_of_mem_lastDigits hc
  have hlen : (lastDigits 2 n).length = 2 := length_lastDigits 2 n
  have hne : lastDigits 2 n ≠ [] := by
    intro hnil
    rw [hnil] at hlen
    cases hlen
  have hvalue : Text.ofDecimal (lastDigits 2 n) = n := by
    rw [ofDecimal_lastDigits]
    exact Nat.mod_eq_of_lt h
  rw [pair?, dropWhile_digits hdigits hne, number?_append hdigits hne (by omega) (Or.inl hlen),
    hvalue]

theorem mark?_cons (mark : Char) (h : Text.isBlank mark = false) (rest : List Char) :
    mark? mark (mark :: rest) = some ((), rest) := by
  unfold mark?
  rw [List.dropWhile_cons, h]
  simp

/-! ## Dates -/

theorem year?_of_isDigit {c : Char} (h : c.isDigit = true) (cs : List Char) :
    year? (c :: cs) = (number? 4 (c :: cs)).map (fun r => ((r.1 : Int), r.2)) := by
  have hminus : c ≠ '-' := by rintro rfl; exact absurd h (by decide)
  have hplus : c ≠ '+' := by rintro rfl; exact absurd h (by decide)
  unfold year?
  rw [List.dropWhile_cons, isBlank_of_isDigit h]
  simp [hminus, hplus]

/-- A year is read up to the dash behind it. -/
theorem year?_yearText (year : Int) (rest : List Char) :
    year? (yearText year ++ '-' :: rest) = some (year, '-' :: rest) := by
  have hnumber (n limit : Nat) (hlen : (padded 4 n).length ≤ limit) :
      number? limit (padded 4 n ++ '-' :: rest) = some (n, '-' :: rest) := by
    rw [number?_append (fun c hc => isDigit_of_mem_padded hc) (padded_ne_nil 4 n) hlen
      (Or.inr (breaks_cons rfl rest)), ofDecimal_padded]
  have hsigned (n : Nat) : (padded 4 n).length ≤ (padded 4 n ++ '-' :: rest).length := by
    rw [List.length_append]
    omega
  unfold yearText
  split
  case isTrue h =>
    have hlen : (padded 4 year.toNat).length = 4 := length_padded (by decide) (by omega)
    have hyear := hnumber year.toNat 4 (Nat.le_of_eq hlen)
    have hdigits : ∀ c ∈ padded 4 year.toNat, c.isDigit = true :=
      fun c hc => isDigit_of_mem_padded hc
    cases hd : padded 4 year.toNat with
    | nil => exact absurd hd (padded_ne_nil 4 year.toNat)
    | cons c cs =>
        rw [hd] at hyear hdigits
        rw [List.cons_append] at hyear ⊢
        rw [year?_of_isDigit (hdigits c List.mem_cons_self), hyear, Option.map_some]
        congr 2
        omega
  case isFalse =>
    split
    · show (number? (padded 4 year.toNat ++ '-' :: rest).length
        (padded 4 year.toNat ++ '-' :: rest)).map _ = _
      rw [hnumber year.toNat _ (hsigned year.toNat), Option.map_some]
      congr 2
      omega
    · show (number? (padded 4 year.natAbs ++ '-' :: rest).length
        (padded 4 year.natAbs ++ '-' :: rest)).map _ = _
      rw [hnumber year.natAbs _ (hsigned year.natAbs), Option.map_some]
      congr 2
      omega

theorem date?_append {d : Calendar.Date} (h : d.valid = true) (rest : List Char) :
    date? (yearText d.year ++ '-' :: (lastDigits 2 d.month ++ '-' :: (lastDigits 2 d.day ++ rest))) =
      some (d, rest) := by
  obtain ⟨hmonth, hday⟩ := Calendar.lt_of_valid h
  unfold date?
  simp only [year?_yearText, mark?_cons '-' rfl, pair?_lastDigits hmonth,
    pair?_lastDigits hday, Option.bind_eq_bind, Option.bind_some]
  rfl

/-! ## Times -/

theorem fraction?_point {digits : List Char} (hdigits : ∀ c ∈ digits, c.isDigit = true)
    (hne : digits ≠ []) (hlen : digits.length ≤ 9) (rest : List Char) :
    fraction? ('.' :: (digits ++ 'Z' :: rest)) =
      some (Text.ofDecimal digits * 10 ^ (9 - digits.length), 'Z' :: rest) := by
  have hempty : digits.isEmpty = false := by
    cases digits with
    | nil => exact absurd rfl hne
    | cons c cs => rfl
  have hdrop : (digits ++ 'Z' :: rest).dropWhile Char.isDigit = 'Z' :: rest := by
    rw [List.dropWhile_append_of_pos hdigits]
    rfl
  simp only [fraction?]
  rw [takeDigits_append hdigits hlen (Or.inr (breaks_cons rfl rest)), hempty, hdrop]
  rfl

theorem fraction?_fractionText {nanos : Nat} (h : nanos < nanosPerSecond) (rest : List Char) :
    fraction? (fractionText nanos ++ 'Z' :: rest) = some (nanos, 'Z' :: rest) := by
  have hlast (width n : Nat) (hw : 0 < width ∧ width ≤ 9) :
      fraction? ('.' :: (lastDigits width n ++ 'Z' :: rest)) =
        some (n % 10 ^ width * 10 ^ (9 - width), 'Z' :: rest) := by
    have hlen := length_lastDigits width n
    rw [fraction?_point (fun c hc => isDigit_of_mem_lastDigits hc) _ (by omega),
      ofDecimal_lastDigits, hlen]
    intro hnil
    rw [hnil] at hlen
    exact absurd hlen (Nat.ne_of_lt hw.1)
  unfold nanosPerSecond at h
  unfold fractionText
  split
  case isTrue hzero =>
    rw [hzero]
    rfl
  case isFalse hpos =>
    split
    · rw [List.cons_append, hlast 3 _ (by decide)]
      congr 2
      omega
    · split
      · rw [List.cons_append, hlast 6 _ (by decide)]
        congr 2
        omega
      · rw [List.cons_append, hlast 9 _ (by decide)]
        congr 2
        omega

/-- Second 60 is read as a second whole second after second 59. -/
theorem time?_append (hour minute : Nat) {second nanos : Nat} (hhour : hour < 24) (hminute : minute < 60)
    (hsecond : second ≤ 60) (hnanos : nanos < nanosPerSecond) (rest : List Char) :
    time? (lastDigits 2 hour ++ ':' :: (lastDigits 2 minute ++ ':' :: (lastDigits 2 second ++
        (fractionText nanos ++ 'Z' :: rest)))) =
      some (if second = 60 then (hour * 3600 + minute * 60 + 59, nanosPerSecond + nanos)
        else (hour * 3600 + minute * 60 + second, nanos), 'Z' :: rest) := by
  unfold time?
  simp only [pair?_lastDigits (show hour < 100 by omega),
    pair?_lastDigits (show minute < 100 by omega), pair?_lastDigits (show second < 100 by omega),
    mark?_cons ':' rfl, fraction?_fractionText hnanos, Option.bind_eq_bind,
    Option.bind_some]
  rw [if_neg (by omega)]
  split <;> rfl

/-! ## Instants -/

theorem ofLocal?_self (t : Instant) {d : Calendar.Date} {ofDay : Nat} (hvalid : d.valid = true)
    (hsecond : (d.toDay - Calendar.epochDay) * 86400 + ofDay = t.second) :
    ofLocal? d ofDay t.nanos 0 = some t := by
  rw [ofLocal?, if_pos ⟨hvalid, by decide⟩]
  dsimp only
  rw [hsecond, of?_self, Option.bind_some, Int.sub_zero, of?_self]

/-- Whether an instant has a text of its own: in a leap second, only at the end of a minute. -/
def Denotable (t : Instant) : Prop :=
  t.nanos < nanosPerSecond ∨ t.second % 60 = 59

instance (t : Instant) : Decidable t.Denotable := inferInstanceAs (Decidable (_ ∨ _))

/-- Behind the last second of all there is no other, and it ends a minute. -/
theorem second_lt_of_not_denotable {t : Instant} (h : ¬t.Denotable) : t.second + 1 ≤ lastSecond := by
  have hlast := t.le_last
  unfold Denotable at h
  unfold lastSecond at *
  omega

/-- The instant that the text of an instant denotes. -/
def reread (t : Instant) : Instant :=
  if h : t.Denotable then t
  else ⟨t.second + 1, t.nanos - nanosPerSecond, Int.le_trans t.first_le (by omega),
    second_lt_of_not_denotable h, Nat.lt_of_le_of_lt (Nat.sub_le _ _) t.nanos_lt⟩

theorem reread_of_denotable {t : Instant} (h : t.Denotable) : t.reread = t :=
  dif_pos h

theorem denotable_reread (t : Instant) : t.reread.Denotable := by
  unfold reread
  split
  case isTrue h => exact h
  case isFalse =>
    left
    have hnanos := t.nanos_lt
    unfold nanosPerSecond at *
    dsimp only
    omega

/-- The seconds and nanoseconds as they are written, and what is read from them. -/
theorem second_spec (t : Instant) {ofDay : Nat} (hofDay : (ofDay : Int) = t.second % 86400) :
    ofDay % 60 + t.nanos / nanosPerSecond ≤ 60 ∧
      ∃ found, (if ofDay % 60 + t.nanos / nanosPerSecond = 60 then
          (ofDay / 3600 * 3600 + ofDay / 60 % 60 * 60 + 59,
            nanosPerSecond + t.nanos % nanosPerSecond)
        else (ofDay / 3600 * 3600 + ofDay / 60 % 60 * 60 + (ofDay % 60 + t.nanos / nanosPerSecond),
          t.nanos % nanosPerSecond)) = (found, t.reread.nanos) ∧
        (found : Int) - ofDay = t.reread.second - t.second := by
  have hnanos := t.nanos_lt
  by_cases hplain : t.nanos < nanosPerSecond
  · -- An ordinary second is read as it is written.
    rw [reread_of_denotable (.inl hplain), Nat.div_eq_of_lt hplain, Nat.mod_eq_of_lt hplain,
      Nat.add_zero, if_neg (by omega)]
    exact ⟨by omega, ofDay, by congr 1; omega, by omega⟩
  have hone : t.nanos / nanosPerSecond = 1 := by
    unfold nanosPerSecond at *
    omega
  have hrest : nanosPerSecond + t.nanos % nanosPerSecond = t.nanos := by
    unfold nanosPerSecond at *
    omega
  rw [hone]
  by_cases hlast : t.second % 60 = 59
  · -- The leap second of a minute is its second 60.
    have hofMinute : ofDay % 60 = 59 := by omega
    rw [reread_of_denotable (.inr hlast), hofMinute, if_pos rfl, hrest]
    exact ⟨Nat.le_refl 60, ofDay, by congr 1; omega, by omega⟩
  · -- Any other one is taken for the second behind it.
    have hnot : ¬t.Denotable := not_or.2 ⟨hplain, hlast⟩
    have hofMinute : ofDay % 60 < 59 := by omega
    rw [reread, dif_neg hnot, if_neg (by omega)]
    dsimp only
    refine ⟨by omega, ofDay + 1, ?_, by omega⟩
    rw [Prod.mk.injEq]
    omega

/-- The text of an instant is read as the instant that it denotes. -/
theorem ofChars?_chars (t : Instant) : ofChars? t.chars = some t.reread := by
  let date := Calendar.dateOfDay (t.second / 86400 + Calendar.epochDay)
  let ofDay := (t.second % 86400).toNat
  have hvalid : date.valid = true := Calendar.valid_dateOfDay _
  have hday : date.toDay = t.second / 86400 + Calendar.epochDay := Calendar.toDay_dateOfDay _
  have hofDay : (ofDay : Int) = t.second % 86400 := Int.toNat_of_nonneg (by omega)
  obtain ⟨hle, found, hread, hfound⟩ := second_spec t hofDay
  have hchars : t.chars = yearText date.year ++ '-' :: (lastDigits 2 date.month ++
      '-' :: (lastDigits 2 date.day ++ 'T' :: (lastDigits 2 (ofDay / 3600) ++
      ':' :: (lastDigits 2 (ofDay / 60 % 60) ++
      ':' :: (lastDigits 2 (ofDay % 60 + t.nanos / nanosPerSecond) ++
      (fractionText (t.nanos % nanosPerSecond) ++ ['Z'])))))) := by
    show yearText date.year ++ _ ++ _ ++ _ ++ _ ++ _ ++ _ ++ _ = _
    simp only [List.append_assoc, List.cons_append]
    rfl
  have htime := time?_append (ofDay / 3600) (ofDay / 60 % 60) (by omega) (by omega)
    hle (Nat.mod_lt t.nanos Span.zero_lt_nanosPerSecond) []
  rw [hread] at htime
  have hdivider (rest : List Char) : divider? ('T' :: rest) = some ((), rest) := rfl
  have hoffset : offset? (List.dropWhile Text.isBlank ['Z']) = some (0, []) := by decide
  rw [hchars, ofChars?, date?_append hvalid]
  simp only [hdivider, htime, hoffset, Option.bind_eq_bind, Option.bind_some, List.all_nil, if_true]
  exact ofLocal?_self t.reread hvalid (by omega)

theorem ofString?_render (t : Instant) : ofString? t.render = some t.reread := by
  rw [ofString?, render, String.toList_ofList, ofChars?_chars]

/-! ## Instants that are read -/

theorem fraction?_lt {cs rest : List Char} {nanos : Nat} (h : fraction? cs = some (nanos, rest)) :
    nanos < nanosPerSecond := by
  unfold fraction? at h
  split at h
  case h_1 cs' =>
    have hdigits : ∀ c ∈ takeDigits 9 cs', c.isDigit = true :=
      List.all_eq_true.1 List.all_takeWhile
    have hlen : (takeDigits 9 cs').length ≤ 9 :=
      Nat.le_trans (List.takeWhile_sublist _).length_le (List.length_take_le 9 cs')
    dsimp only at h
    split at h
    · cases h
    · cases h
      calc Text.ofDecimal (takeDigits 9 cs') * 10 ^ (9 - (takeDigits 9 cs').length)
          < 10 ^ (takeDigits 9 cs').length * 10 ^ (9 - (takeDigits 9 cs').length) :=
            Nat.mul_lt_mul_of_pos_right (Text.ofDecimal_lt hdigits) (Nat.pow_pos (by decide))
        _ = nanosPerSecond := by rw [← Nat.pow_add, Nat.add_sub_cancel' hlen]; rfl
  case h_2 =>
    cases h
    decide

theorem time?_eq_some {cs rest : List Char} {ofDay nanos : Nat}
    (h : time? cs = some ((ofDay, nanos), rest)) : nanos < nanosPerSecond ∨ ofDay % 60 = 59 := by
  simp only [time?, Option.bind_eq_bind, Option.bind_eq_some_iff] at h
  obtain ⟨⟨hour, _⟩, -, _, -, ⟨minute, _⟩, -, _, -, ⟨second, _⟩, -, ⟨fraction, _⟩, hfraction, h⟩ := h
  have hnanos := fraction?_lt hfraction
  dsimp only at h
  split at h
  · cases h
  · split at h
    · cases h
      omega
    · cases h
      exact .inl hnanos

theorem clock?_mod {cs rest : List Char} {offset : Nat} (h : clock? cs = some (offset, rest)) :
    offset % 60 = 0 := by
  unfold clock? at h
  split at h
  case h_2 => cases h
  case h_1 =>
    split at h
    case h_2 => cases h
    case h_1 =>
      split at h
      · cases h
        omega
      · cases h

/-- An offset is one of whole minutes. -/
theorem offset?_mod {cs rest : List Char} {offset : Int} (h : offset? cs = some (offset, rest)) :
    offset % 60 = 0 := by
  unfold offset? at h
  split at h
  · cases h
    rfl
  · split at h
    case h_6 => cases h
    case h_1 | h_2 =>
      cases h
      rfl
    all_goals
      obtain ⟨⟨clock, _⟩, hclock, heq⟩ := Option.map_eq_some_iff.1 h
      have hclock := clock?_mod hclock
      cases heq
      dsimp only
      omega

/-- What is read has a text of its own: a leap second is read at the end of a minute only, and no offset
moves it from there. -/
theorem denotable_of_ofString? {s : String} {t : Instant} (h : ofString? s = some t) :
    t.Denotable := by
  simp only [ofString?, ofChars?, Option.bind_eq_bind, Option.bind_eq_some_iff] at h
  obtain ⟨⟨date, _⟩, -, _, -, ⟨⟨ofDay, nanos⟩, _⟩, htime, ⟨offset, _⟩, hoffset, h⟩ := h
  have hplace := time?_eq_some htime
  have hminutes := offset?_mod hoffset
  dsimp only at h
  split at h
  case isFalse => cases h
  case isTrue =>
    unfold ofLocal? at h
    split at h
    case isFalse => cases h
    case isTrue =>
      obtain ⟨onSite, hon, hmoved⟩ := Option.bind_eq_some_iff.1 h
      obtain ⟨hsecond, -⟩ := parts_of_of? hon
      obtain ⟨hmoved, hnanos⟩ := parts_of_of? hmoved
      unfold Denotable
      omega

end Instant
end Time
end RealmTokens
