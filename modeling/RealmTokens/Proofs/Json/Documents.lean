/-
Reading what was written.

`Written` says that every string of a value is spelled and every number is a numeral.  Main statement:
the bytes of a written value are read as that value, at any depth.
-/
import RealmTokens.Json.Printer
import RealmTokens.Proofs.Json.Strings

namespace RealmTokens
namespace Json

/-! ## Numbers -/

namespace NumberPart

/-- The part of a number that its first byte begins. -/
def start? (b : UInt8) : Option NumberPart :=
  if b == 0x2d then some .sign else if b == 0x30 then some .zero
  else if isDigit b then some .whole else none

def run? (p : NumberPart) (bytes : List UInt8) : Option NumberPart :=
  bytes.foldlM (fun q b => State.numberPart? b q) p

end NumberPart

/-- Bytes that are one whole number. -/
def Numeral (raw : RawText) : Prop :=
  ∃ b digits first last, raw = b :: digits ∧ NumberPart.start? b = some first ∧
    first.run? digits = some last ∧ last.complete = true

/-- A number begins with a minus sign or with a digit. -/
theorem NumberPart.first_of_start? {b : UInt8} {p : NumberPart} (h : start? b = some p) :
    b = 0x2d ∨ isDigit b = true := by
  unfold start? at h
  by_cases hsign : b = 0x2d
  · exact Or.inl hsign
  by_cases hzero : b = 0x30
  · exact Or.inr (by rw [hzero]; rfl)
  by_cases hdigit : isDigit b = true
  · exact Or.inr hdigit
  · simp [hsign, hzero, hdigit] at h

/-- No number begins with a byte that has another meaning in front of a value. -/
theorem NumberPart.ne_of_start? {b : UInt8} {p : NumberPart} (h : start? b = some p) :
    isBlank b = false ∧ b ≠ 0x5d ∧ b ≠ 0x7b ∧ b ≠ 0x5b ∧ b ≠ 0x22 := by
  rcases first_of_start? h with rfl | hdigit
  · decide
  · refine ⟨?_, ?_, ?_, ?_, ?_⟩
    · rw [← Bool.not_eq_true]
      intro hblank
      simp only [isBlank, Bool.or_eq_true, beq_iff_eq] at hblank
      rcases hblank with ((rfl | rfl) | rfl) | rfl <;> exact absurd hdigit (by decide)
    all_goals
      rintro rfl
      exact absurd hdigit (by decide)

theorem begin?_of_start? {b : UInt8} {p : NumberPart} (h : NumberPart.start? b = some p)
    (stack : List Frame) : State.begin? stack b = some ⟨stack, .number [b] p⟩ := by
  obtain ⟨-, -, hbrace, hbracket, hquote⟩ := NumberPart.ne_of_start? h
  unfold NumberPart.start? at h
  unfold State.begin?
  by_cases hsign : b = 0x2d
  · subst hsign
    cases h
    rfl
  by_cases hzero : b = 0x30
  · subst hzero
    cases h
    rfl
  by_cases hdigit : isDigit b = true
  · simp_all
  · simp_all

theorem run?_number_of_run? {p q : NumberPart} {digits : List UInt8} (h : p.run? digits = some q)
    (stack : List Frame) (read : RawText) :
    State.run? ⟨stack, .number read p⟩ digits =
      some ⟨stack, .number (digits.reverse ++ read) q⟩ := by
  induction digits generalizing p read with
  | nil =>
      cases h
      rfl
  | cons b digits ih =>
      have hb : (State.numberPart? b p).bind (fun r => r.run? digits) = some q := h
      obtain ⟨r, hr, hq⟩ := Option.bind_eq_some_iff.1 hb
      rw [State.run?_cons]
      have hs : State.step? ⟨stack, .number read p⟩ b = some ⟨stack, .number (b :: read) r⟩ := by
        simp [State.step?, hr]
      rw [hs, Option.bind_some, ih hq]
      simp

/-- A comma or a closing bracket, which no value goes on with. -/
def Separates (b : UInt8) : Prop := b = 0x2c ∨ b = 0x5d ∨ b = 0x7d

theorem Separates.numberPart? {b : UInt8} (h : Separates b) (p : NumberPart) :
    State.numberPart? b p = none := by
  rcases h with rfl | rfl | rfl <;> cases p <;> rfl

theorem run?_numeral {raw : RawText} (h : Numeral raw) (stack : List Frame) :
    ∃ last, State.run? ⟨stack, .value⟩ raw = some ⟨stack, .number raw.reverse last⟩ ∧
      last.complete = true := by
  obtain ⟨d, digits, first, last, rfl, hstart, hrun, hdone⟩ := h
  have hblank : isBlank d = false := (NumberPart.ne_of_start? hstart).1
  have hfirst : State.step? ⟨stack, .value⟩ d = some ⟨stack, .number [d] first⟩ := by
    simp [State.step?, hblank, begin?_of_start? hstart]
  refine ⟨last, ?_, hdone⟩
  rw [State.run?_cons, hfirst, Option.bind_some, run?_number_of_run? hrun, List.reverse_cons]

theorem run?_numeral_append {raw : RawText} (h : Numeral raw) (stack : List Frame) {b : UInt8}
    (hb : Separates b) (rest : List UInt8) :
    State.run? ⟨stack, .value⟩ (raw ++ b :: rest) =
      State.run? ⟨stack, .after (.number raw)⟩ (b :: rest) := by
  obtain ⟨last, hrun, hdone⟩ := run?_numeral h stack
  rw [State.run?_append, hrun, Option.bind_some, State.run?_cons, State.run?_cons]
  simp [State.step?, hb.numberPart?, hdone]

/-! ## Values -/

mutual

/-- Whether all strings and numbers of a value can be read back. -/
def Written : Json → Prop
  | .null => True
  | .bool _ => True
  | .number raw => Numeral raw
  | .text raw => Spelled raw
  | .list items => ItemsWritten items
  | .object fields => FieldsWritten fields

def ItemsWritten : List Json → Prop
  | [] => True
  | item :: items => Written item ∧ ItemsWritten items

def FieldsWritten : List (RawText × Json) → Prop
  | [] => True
  | (name, value) :: fields => Spelled name ∧ Written value ∧ FieldsWritten fields

end

/-- Whether a value shows its end in front of these bytes.  Only a number needs a separator. -/
def EndsBefore (rest : List UInt8) : Json → Prop
  | .number _ => ∃ b more, Separates b ∧ rest = b :: more
  | _ => True

theorem endsBefore_of_cons {b : UInt8} (hb : Separates b) (rest : List UInt8) (v : Json) :
    EndsBefore (b :: rest) v := by
  cases v with
  | number raw => exact ⟨b, rest, hb, rfl⟩
  | _ => exact True.intro

theorem endsBefore_moreItems (items : List Json) (rest : List UInt8) (v : Json) :
    EndsBefore (moreItems items ++ rest) v := by
  cases items with
  | nil => exact endsBefore_of_cons (Or.inr (Or.inl rfl)) _ v
  | cons item items => exact endsBefore_of_cons (Or.inl rfl) _ v

theorem endsBefore_moreFields (fields : List (RawText × Json)) (rest : List UInt8) (v : Json) :
    EndsBefore (moreFields fields ++ rest) v := by
  rcases fields with _ | ⟨⟨name, value⟩, fields⟩
  · exact endsBefore_of_cons (Or.inr (Or.inr rfl)) _ v
  · exact endsBefore_of_cons (Or.inl rfl) _ v

/-- The first byte of a value is neither blank nor the end of a list. -/
theorem bytes_eq_cons {v : Json} (h : Written v) :
    ∃ b more, bytes v = b :: more ∧ isBlank b = false ∧ b ≠ 0x5d := by
  cases v with
  | null => exact ⟨_, _, rfl, by decide, by decide⟩
  | bool value => cases value <;> exact ⟨_, _, rfl, by decide, by decide⟩
  | number raw =>
      simp only [Written] at h
      obtain ⟨b, digits, first, last, rfl, hstart, -, -⟩ := h
      obtain ⟨hblank, hclose, -⟩ := NumberPart.ne_of_start? hstart
      exact ⟨b, digits, rfl, hblank, hclose⟩
  | text raw => exact ⟨_, _, rfl, by decide, by decide⟩
  | list items => cases items <;> exact ⟨_, _, rfl, by decide, by decide⟩
  | object fields =>
      rcases fields with _ | ⟨⟨name, value⟩, fields⟩ <;> exact ⟨_, _, rfl, by decide, by decide⟩

theorem run?_firstItem {v : Json} (h : Written v) (stack : List Frame) (rest : List UInt8) :
    State.run? ⟨stack, .firstItem⟩ (bytes v ++ rest) =
      State.run? ⟨.list [] :: stack, .value⟩ (bytes v ++ rest) := by
  obtain ⟨b, more, hv, hblank, hclose⟩ := bytes_eq_cons h
  rw [hv, List.cons_append, State.run?_cons, State.run?_cons]
  simp [State.step?, hblank, hclose]

/-- A name, the colon behind it, and the opening of its value. -/
theorem run?_name {name : RawText} (h : Spelled name) (stack : List Frame)
    (fields : List (RawText × Json)) (value more rest : List UInt8) :
    State.run? ⟨stack, .string (.name fields) [] .none⟩
        (((name ++ [0x22]) ++ 0x3a :: (value ++ more)) ++ rest) =
      State.run? ⟨.object fields name :: stack, .value⟩ (value ++ (more ++ rest)) := by
  simp only [List.append_assoc, List.cons_append, List.nil_append]
  rw [run?_string h]
  rfl

mutual

/-- A value is read up to its end. -/
theorem run?_bytes (v : Json) (h : Written v) (stack : List Frame) (rest : List UInt8)
    (hrest : EndsBefore rest v) :
    State.run? ⟨stack, .value⟩ (bytes v ++ rest) = State.run? ⟨stack, .after v⟩ rest := by
  match v, h, hrest with
  | .null, _, _ => rfl
  | .bool true, _, _ => rfl
  | .bool false, _, _ => rfl
  | .number raw, h, ⟨b, more, hb, hmore⟩ =>
      rw [hmore]
      exact run?_numeral_append h stack hb more
  | .text raw, h, _ =>
      show State.run? ⟨stack, .string .value [] .none⟩ ((raw ++ [0x22]) ++ rest) = _
      rw [List.append_assoc]
      exact run?_string h stack .value rest
  | .list [], _, _ => rfl
  | .list (item :: items), h, _ =>
      simp only [Written, ItemsWritten] at h
      show State.run? ⟨stack, .firstItem⟩ ((bytes item ++ moreItems items) ++ rest) = _
      rw [List.append_assoc, run?_firstItem h.1,
        run?_bytes item h.1 _ _ (endsBefore_moreItems items rest item), run?_moreItems items h.2]
      rfl
  | .object [], _, _ => rfl
  | .object ((name, value) :: fields), h, _ =>
      simp only [Written, FieldsWritten] at h
      show State.run? ⟨stack, .string (.name []) [] .none⟩
        (((name ++ [0x22]) ++ 0x3a :: (bytes value ++ moreFields fields)) ++ rest) = _
      rw [run?_name h.1, run?_bytes value h.2.1 _ _ (endsBefore_moreFields fields rest value),
        run?_moreFields fields h.2.2]
      rfl

theorem run?_moreItems (items : List Json) (h : ItemsWritten items) (stack : List Frame)
    (read : List Json) (item : Json) (rest : List UInt8) :
    State.run? ⟨.list read :: stack, .after item⟩ (moreItems items ++ rest) =
      State.run? ⟨stack, .after (.list (read.reverse ++ item :: items))⟩ rest := by
  match items, h with
  | [], _ =>
      show State.run? ⟨stack, .after (.list (item :: read).reverse)⟩ rest = _
      rw [List.reverse_cons]
  | next :: items, h =>
      simp only [ItemsWritten] at h
      show State.run? ⟨.list (item :: read) :: stack, .value⟩
        ((bytes next ++ moreItems items) ++ rest) = _
      rw [List.append_assoc, run?_bytes next h.1 _ _ (endsBefore_moreItems items rest next),
        run?_moreItems items h.2, List.reverse_cons, List.append_assoc, List.singleton_append]

theorem run?_moreFields (fields : List (RawText × Json)) (h : FieldsWritten fields)
    (stack : List Frame) (read : List (RawText × Json)) (name : RawText) (value : Json)
    (rest : List UInt8) :
    State.run? ⟨.object read name :: stack, .after value⟩ (moreFields fields ++ rest) =
      State.run? ⟨stack, .after (.object (read.reverse ++ (name, value) :: fields))⟩ rest := by
  match fields, h with
  | [], _ =>
      show State.run? ⟨stack, .after (.object ((name, value) :: read).reverse)⟩ rest = _
      rw [List.reverse_cons]
  | (next, part) :: fields, h =>
      simp only [FieldsWritten] at h
      show State.run? ⟨stack, .string (.name ((name, value) :: read)) [] .none⟩
        (((next ++ [0x22]) ++ 0x3a :: (bytes part ++ moreFields fields)) ++ rest) = _
      rw [run?_name h.1, run?_bytes part h.2.1 _ _ (endsBefore_moreFields fields rest part),
        run?_moreFields fields h.2.2, List.reverse_cons, List.append_assoc,
        List.singleton_append]

end

/-- A written value is what its own bytes are read as. -/
theorem ofBytes?_bytes {v : Json} (h : Written v) : ofBytes? (bytes v) = some v := by
  have hread (hend : EndsBefore [] v) : ofBytes? (bytes v) = some v := by
    have hrun := run?_bytes v h [] [] hend
    rw [List.append_nil] at hrun
    rw [ofBytes?, State.start, hrun]
    rfl
  cases v with
  | number raw =>
      obtain ⟨last, hrun, hdone⟩ := run?_numeral h []
      have hbytes : bytes (.number raw) = raw := rfl
      rw [ofBytes?, State.start, hbytes, hrun, Option.bind_some]
      simp [State.finish?, hdone]
  | _ => exact hread True.intro

end Json
end RealmTokens
