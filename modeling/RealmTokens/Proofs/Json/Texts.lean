/-
Documents as texts.

Main statements: the bytes of a list or a record whose names and parts are texts are the bytes of a
text, so that a written document can be passed on as one.
-/
import RealmTokens.Proofs.Json.Records

namespace RealmTokens

namespace Text

/-- Bytes that a text stands as. -/
def IsUtf8 (bytes : List UInt8) : Prop := ∃ s : String, utf8 s = bytes

theorem isUtf8_utf8 (s : String) : IsUtf8 (utf8 s) := ⟨s, rfl⟩

theorem IsUtf8.append {xs ys : List UInt8} (hx : IsUtf8 xs) (hy : IsUtf8 ys) :
    IsUtf8 (xs ++ ys) := by
  obtain ⟨s, rfl⟩ := hx
  obtain ⟨t, rfl⟩ := hy
  refine ⟨String.ofList (s.toList ++ t.toList), ?_⟩
  rw [utf8_ofList, List.flatMap_append, ← utf8_ofList, ← utf8_ofList, String.ofList_toList,
    String.ofList_toList]

theorem isUtf8_byte {b : UInt8} (h : b < 0x80) : IsUtf8 [b] := by
  have hlt : b.toNat < 0x80 := UInt8.lt_iff_toNat_lt.1 h
  have hvalid : b.toNat.isValidChar := Or.inl (Nat.lt_trans hlt (by decide))
  have hchar : (Char.ofNat b.toNat).toNat = b.toNat := by
    rw [Char.ofNat, dif_pos hvalid]
    rfl
  refine ⟨String.ofList [Char.ofNat b.toNat], ?_⟩
  rw [utf8_ofList, List.flatMap_singleton, utf8EncodeChar_of_lt (by rw [hchar]; exact hlt), hchar]
  exact congrArg (fun byte => [byte]) (UInt8.ofNat_toNat)

end Text

namespace Json

open Text (IsUtf8 isUtf8_byte)

/-- A value that is written as a text. -/
def IsTextual (v : Json) : Prop := IsUtf8 v.bytes

theorem isUtf8_quoted (cs : List Char) : IsUtf8 (quoted (rawOfChars cs)) := by
  have hcontent : IsUtf8 (rawOfChars cs) := Text.isUtf8_utf8 (String.ofList (escape cs))
  have hquote : IsUtf8 [0x22] := isUtf8_byte (by decide)
  exact hquote.append (hcontent.append hquote)

theorem isTextual_null : IsTextual .null := ⟨"null", by decide +kernel⟩

theorem isTextual_bool (value : Bool) : IsTextual (.bool value) := by
  cases value with
  | true => exact ⟨"true", by decide +kernel⟩
  | false => exact ⟨"false", by decide +kernel⟩

theorem isTextual_ofText (s : String) : IsTextual (.ofText s) := isUtf8_quoted s.toList

theorem isTextual_ofOption {α : Type} {write : α → Json} (h : ∀ x, IsTextual (write x))
    (part : Option α) : IsTextual (ofOption write part) := by
  cases part with
  | none => exact isTextual_null
  | some x => exact h x

theorem isTextual_ofNat (n : Nat) : IsTextual (.ofNat n) := Text.isUtf8_utf8 (toString n)

theorem isTextual_list {items : List Json} (h : ∀ item ∈ items, IsTextual item) :
    IsTextual (.list items) := by
  have hmore (items : List Json) (h : ∀ item ∈ items, IsTextual item) :
      IsUtf8 (moreItems items) := by
    induction items with
    | nil => exact isUtf8_byte (by decide)
    | cons item items ih =>
        have hcomma : IsUtf8 [0x2c] := isUtf8_byte (by decide)
        have hrest := ih (fun other hother => h other (List.mem_cons_of_mem item hother))
        exact hcomma.append ((h item List.mem_cons_self).append hrest)
  have hopen : IsUtf8 [0x5b] := isUtf8_byte (by decide)
  cases items with
  | nil => exact hopen.append (isUtf8_byte (by decide))
  | cons item items =>
      have hrest := hmore items (fun other hother => h other (List.mem_cons_of_mem item hother))
      exact hopen.append ((h item List.mem_cons_self).append hrest)

/-- A name with its value behind a mark, and what follows them. -/
theorem isUtf8_field {mark : UInt8} (hmark : mark < 0x80) (name : String) {value : Json}
    (h : IsTextual value) {rest : List UInt8} (hrest : IsUtf8 rest) :
    IsUtf8 (mark :: (quoted (rawOfChars name.toList) ++ 0x3a :: (bytes value ++ rest))) := by
  have hcolon : IsUtf8 [0x3a] := isUtf8_byte (by decide)
  exact (isUtf8_byte hmark).append
    ((isUtf8_quoted name.toList).append (hcolon.append (IsUtf8.append h hrest)))

theorem isTextual_ofFields {fields : List (String × Json)}
    (h : ∀ field ∈ fields, IsTextual field.2) : IsTextual (.ofFields fields) := by
  have hmore (fields : List (String × Json)) (h : ∀ field ∈ fields, IsTextual field.2) :
      IsUtf8 (moreFields (fields.map (fun field => (rawOfChars field.1.toList, field.2)))) := by
    induction fields with
    | nil => exact isUtf8_byte (by decide)
    | cons field fields ih =>
        exact isUtf8_field (by decide) field.1 (h field List.mem_cons_self)
          (ih (fun other hother => h other (List.mem_cons_of_mem field hother)))
  cases fields with
  | nil =>
      have hopen : IsUtf8 [0x7b] := isUtf8_byte (by decide)
      exact hopen.append (isUtf8_byte (by decide))
  | cons field fields =>
      exact isUtf8_field (by decide) field.1 (h field List.mem_cons_self)
        (hmore fields (fun other hother => h other (List.mem_cons_of_mem field hother)))

end Json
end RealmTokens
