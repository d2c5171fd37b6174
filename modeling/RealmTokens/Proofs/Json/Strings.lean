/-
The content of a string in a document.

`Spelled` says that the bytes between two quotes leave the reader inside the same string, with no
escape open.  Main statements: what is written for a text is spelled, and stands for that text.
-/
import RealmTokens.Json.Reader
import RealmTokens.Json.Text
import RealmTokens.Proofs.Text.Characters

namespace RealmTokens
namespace Json

/-! ## Bytes between quotes -/

namespace Escape

/-- Where a byte that does not end a string leaves the reader. -/
def next? (e : Escape) (b : UInt8) : Option Escape :=
  match e with
  | .none => if b == 0x22 then .none else if b == 0x5c then some .opened
      else if b < 0x20 then .none else some .none
  | .opened => if b == 0x75 then some (.hex 4)
      else if (ascii "\"\\/bfnrt").contains b then some .none else .none
  | .hex left => if isHexDigit b then some (if left ≤ 1 then .none else .hex (left - 1)) else .none

def run? (e : Escape) (bytes : List UInt8) : Option Escape :=
  bytes.foldlM next? e

theorem run?_append (e : Escape) (xs ys : List UInt8) :
    e.run? (xs ++ ys) = (e.run? xs).bind (fun f => f.run? ys) := by
  simp [run?, List.foldlM_append]

end Escape

/-- Bytes that may stand between two quotes. -/
def Spelled (raw : RawText) : Prop := Escape.none.run? raw = some .none

instance (raw : RawText) : Decidable (Spelled raw) :=
  inferInstanceAs (Decidable (_ = _))

theorem spelled_nil : Spelled [] := rfl

theorem Spelled.append {xs ys : RawText} (hx : Spelled xs) (hy : Spelled ys) :
    Spelled (xs ++ ys) := by
  unfold Spelled at *
  rw [Escape.run?_append, hx]
  exact hy

theorem spelled_flatMap {α : Type} {f : α → RawText} {xs : List α} (h : ∀ x ∈ xs, Spelled (f x)) :
    Spelled (xs.flatMap f) := by
  induction xs with
  | nil => exact spelled_nil
  | cons x xs ih =>
      rw [List.flatMap_cons]
      exact (h x List.mem_cons_self).append (ih (fun y hy => h y (List.mem_cons_of_mem x hy)))

/-- A byte outside ASCII has no meaning of its own in a string. -/
theorem next?_none_of_le {b : UInt8} (h : 0x80 ≤ b) : Escape.none.next? b = some .none := by
  have hq : b ≠ 0x22 := by rintro rfl; exact absurd h (by decide)
  have hs : b ≠ 0x5c := by rintro rfl; exact absurd h (by decide)
  have hc : ¬b < 0x20 := by
    rw [UInt8.lt_iff_toNat_lt]
    rw [UInt8.le_iff_toNat_le] at h
    have h1 : (0x80 : UInt8).toNat = 128 := rfl
    have h2 : (0x20 : UInt8).toNat = 32 := rfl
    omega
  simp [Escape.next?, hq, hs, hc]

theorem spelled_of_le {raw : RawText} (h : ∀ b ∈ raw, 0x80 ≤ b) : Spelled raw := by
  induction raw with
  | nil => exact spelled_nil
  | cons b raw ih =>
      show (Escape.none.next? b).bind (fun e => e.run? raw) = some .none
      rw [next?_none_of_le (h b List.mem_cons_self)]
      exact ih (fun c hc => h c (List.mem_cons_of_mem b hc))

theorem escapeChar_of_le {c : Char} (h : 0x80 ≤ c.toNat) : escapeChar c = [c] := by
  unfold escapeChar
  split
  case h_8 =>
    rw [if_neg (by omega)]
  all_goals exact absurd h (by decide)

theorem spelled_escapeChar (c : Char) :
    Spelled ((escapeChar c).flatMap String.utf8EncodeChar) := by
  by_cases h : c.toNat < 0x80
  · exact Text.forall_char_lt
      (p := fun c => Spelled ((escapeChar c).flatMap String.utf8EncodeChar)) (by decide) h
  · have hle : 0x80 ≤ c.toNat := Nat.le_of_not_lt h
    rw [escapeChar_of_le hle]
    apply spelled_of_le
    intro b hb
    simp only [List.flatMap_cons, List.flatMap_nil, List.append_nil] at hb
    exact Text.le_of_mem_utf8EncodeChar hle hb

/-- Whatever a text holds, it is written so that it ends at its closing quote only. -/
theorem spelled_rawOfChars (cs : List Char) : Spelled (rawOfChars cs) := by
  rw [rawOfChars, Text.utf8_ofList, escape, List.flatMap_assoc]
  exact spelled_flatMap (fun c _ => spelled_escapeChar c)

/-! ## Inside the reader -/

theorem string?_of_next? {e f : Escape} {b : UInt8} (h : e.next? b = some f) (stack : List Frame)
    (purpose : Purpose) (read : RawText) :
    State.string? stack purpose read b e = some ⟨stack, .string purpose (b :: read) f⟩ := by
  cases e with
  | none =>
      simp only [Escape.next?] at h
      split at h
      · cases h
      · split at h
        · cases h
          simp_all [State.string?]
        · split at h
          · cases h
          · cases h
            simp_all [State.string?]
  | opened =>
      simp only [Escape.next?] at h
      split at h
      · cases h
        simp_all [State.string?]
      · split at h
        · cases h
          simp_all [State.string?]
        · cases h
  | hex left =>
      simp only [Escape.next?] at h
      split at h
      · cases h
        simp_all [State.string?]
      · cases h

theorem run?_string_of_run? {e f : Escape} {raw : RawText} (h : e.run? raw = some f)
    (stack : List Frame) (purpose : Purpose) (read : RawText) :
    State.run? ⟨stack, .string purpose read e⟩ raw =
      some ⟨stack, .string purpose (raw.reverse ++ read) f⟩ := by
  induction raw generalizing e read with
  | nil =>
      cases h
      rfl
  | cons b raw ih =>
      have hb : (e.next? b).bind (fun g => g.run? raw) = some f := h
      obtain ⟨g, hg, hf⟩ := Option.bind_eq_some_iff.1 hb
      rw [State.run?_cons]
      have hs : State.step? ⟨stack, .string purpose read e⟩ b =
          some ⟨stack, .string purpose (b :: read) g⟩ := string?_of_next? hg stack purpose read
      rw [hs, Option.bind_some, ih hf]
      simp

/-- A spelled string is read up to its closing quote. -/
theorem run?_string {raw : RawText} (h : Spelled raw) (stack : List Frame) (purpose : Purpose)
    (rest : List UInt8) :
    State.run? ⟨stack, .string purpose [] .none⟩ (raw ++ 0x22 :: rest) =
      (State.close stack raw purpose).run? rest := by
  rw [State.run?_append, run?_string_of_run? h, Option.bind_some, State.run?_cons,
    List.append_nil]
  show (some (State.close stack raw.reverse.reverse purpose)).bind _ = _
  rw [List.reverse_reverse, Option.bind_some]

/-! ## The text of a string -/

theorem unescape?_cons_of_ne {c : Char} (h : c ≠ '\\') (rest : List Char) :
    unescape? (c :: rest) = (unescape? rest).map (c :: ·) := by
  rw [unescape?.eq_def]
  split <;> simp_all

/-- A control character is written by its number. -/
theorem unescape?_numbered {c : Char} (h : c.toNat < 0x20) (rest : List Char) :
    unescape? ('\\' :: 'u' :: '0' :: '0' :: Text.hexDigit (c.toNat / 16) ::
        Text.hexDigit (c.toNat % 16) :: rest) =
      (unescape? rest).map (c :: ·) := by
  have table : ∀ n, n < 0x20 →
      unit? '0' '0' (Text.hexDigit (n / 16)) (Text.hexDigit (n % 16)) = some n := by
    decide
  have hlow : isLowSurrogate c.toNat = false := by
    simp only [isLowSurrogate, Bool.and_eq_false_iff, decide_eq_false_iff_not]
    omega
  have hhigh : isHighSurrogate c.toNat = false := by
    simp only [isHighSurrogate, Bool.and_eq_false_iff, decide_eq_false_iff_not]
    omega
  rw [unescape?]
  simp [table c.toNat h, hlow, hhigh]

theorem unescape?_escapeChar_append (c : Char) (rest : List Char) :
    unescape? (escapeChar c ++ rest) = (unescape? rest).map (c :: ·) := by
  unfold escapeChar
  split
  case h_8 hslash _ _ _ _ _ =>
    by_cases h : c.toNat < 0x20
    · rw [if_pos h]
      exact unescape?_numbered h rest
    · rw [if_neg h]
      exact unescape?_cons_of_ne hslash rest
  all_goals simp [unescape?, shortEscape?]

theorem unescape?_escape (cs : List Char) : unescape? (escape cs) = some cs := by
  induction cs with
  | nil => rfl
  | cons c cs ih =>
      rw [escape, List.flatMap_cons, unescape?_escapeChar_append]
      have hcs : unescape? (cs.flatMap escapeChar) = some cs := ih
      rw [hcs, Option.map_some]

/-- What is written for a text stands for it. -/
@[simp] theorem textOfRaw?_rawOfChars (cs : List Char) :
    textOfRaw? (rawOfChars cs) = some (String.ofList cs) := by
  rw [textOfRaw?, rawOfChars, Text.ofUtf8?_utf8, Option.bind_some, String.toList_ofList,
    unescape?_escape, Option.map_some]

end Json
end RealmTokens
