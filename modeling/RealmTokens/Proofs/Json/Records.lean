/-
Values that are written and decoded again: texts, numbers, optional parts, lists, records and
dictionaries.
Main statements: each of them is written so that it can be read, and is decoded as itself.
-/
import RealmTokens.Json.Decode
import RealmTokens.Proofs.Json.Documents
import RealmTokens.Proofs.Lists
import RealmTokens.Proofs.Text.Decimal

namespace RealmTokens
namespace Json

/-! ## Texts -/

theorem written_ofText (s : String) : Written (.ofText s) :=
  spelled_rawOfChars s.toList

@[simp] theorem text?_ofText (s : String) : text? (.ofText s) = some s := by
  show textOfRaw? (rawOfChars s.toList) = some s
  rw [textOfRaw?_rawOfChars, String.ofList_toList]

/-! ## Numbers -/

/-- The byte that a decimal digit stands as. -/
theorem byte_of_isDigit {c : Char} (h : c.isDigit = true) :
    isDigit c.toNat.toUInt8 = true ∧ c.toNat.toUInt8.toNat = c.toNat := by
  have table : ∀ n, n < 0x80 → (Char.ofNat n).isDigit = true →
      isDigit (Char.ofNat n).toNat.toUInt8 = true ∧
        (Char.ofNat n).toNat.toUInt8.toNat = (Char.ofNat n).toNat := by
    decide
  exact Text.forall_char_lt
    (p := fun c => c.isDigit = true →
      isDigit c.toNat.toUInt8 = true ∧ c.toNat.toUInt8.toNat = c.toNat)
    table (Text.toNat_lt_of_isDigit h) h

def digitBytes (cs : List Char) : RawText :=
  cs.map (fun c => c.toNat.toUInt8)

theorem utf8_eq_digitBytes {cs : List Char} (h : ∀ c ∈ cs, c.isDigit = true) :
    Text.utf8 (String.ofList cs) = digitBytes cs := by
  rw [Text.utf8_ofList]
  induction cs with
  | nil => rfl
  | cons c cs ih =>
      have hc : c.toNat < 0x80 := Text.toNat_lt_of_isDigit (h c List.mem_cons_self)
      rw [List.flatMap_cons, Text.utf8EncodeChar_of_lt hc,
        ih (fun d hd => h d (List.mem_cons_of_mem c hd))]
      rfl

theorem all_isDigit_digitBytes {cs : List Char} (h : ∀ c ∈ cs, c.isDigit = true) :
    (digitBytes cs).all isDigit = true := by
  rw [digitBytes, List.all_map, List.all_eq_true]
  intro c hc
  exact (byte_of_isDigit (h c hc)).1

theorem ofDigits_digitBytes {cs : List Char} (h : ∀ c ∈ cs, c.isDigit = true) :
    ofDigits (digitBytes cs) = Text.ofDecimal cs := by
  have hfold (n : Nat) : (digitBytes cs).foldl (fun n b => 10 * n + (b.toNat - 0x30)) n =
      cs.foldl (fun n c => 10 * n + (c.toNat - 0x30)) n := by
    induction cs generalizing n with
    | nil => rfl
    | cons c cs ih =>
        show (digitBytes cs).foldl _ (10 * n + (c.toNat.toUInt8.toNat - 0x30)) = _
        rw [(byte_of_isDigit (h c List.mem_cons_self)).2,
          ih (fun d hd => h d (List.mem_cons_of_mem c hd)), List.foldl_cons]
  exact hfold 0

theorem ofNat_eq_digitBytes (n : Nat) : ofNat n = .number (digitBytes (Nat.toDigits 10 n)) := by
  rw [ofNat, Nat.toString_eq_ofList_toDigits,
    utf8_eq_digitBytes (fun _ hc => Text.isDigit_of_mem_toDigits hc)]

theorem run?_whole {digits : List UInt8} (h : digits.all isDigit = true) :
    NumberPart.whole.run? digits = some .whole := by
  induction digits with
  | nil => rfl
  | cons b digits ih =>
      rw [List.all_cons, Bool.and_eq_true] at h
      show (State.numberPart? b .whole).bind (fun p => p.run? digits) = some .whole
      have hb : State.numberPart? b .whole = some .whole := by
        simp [State.numberPart?, h.1]
      rw [hb, Option.bind_some, ih h.2]

/-- A digit other than zero begins a whole number of any length. -/
theorem start?_of_isDigit {c : Char} (h : c.isDigit = true) (hc : c ≠ '0') :
    NumberPart.start? c.toNat.toUInt8 = some .whole := by
  have table : ∀ n, n < 0x80 → (Char.ofNat n).isDigit = true → Char.ofNat n ≠ '0' →
      NumberPart.start? (Char.ofNat n).toNat.toUInt8 = some .whole := by
    decide
  exact Text.forall_char_lt
    (p := fun c => c.isDigit = true → c ≠ '0' → NumberPart.start? c.toNat.toUInt8 = some .whole)
    table (Text.toNat_lt_of_isDigit h) h hc

theorem written_ofNat (n : Nat) : Written (.ofNat n) := by
  rw [ofNat_eq_digitBytes]
  show Numeral (digitBytes (Nat.toDigits 10 n))
  by_cases hn : n = 0
  · subst hn
    exact ⟨0x30, [], .zero, .zero, rfl, rfl, rfl, rfl⟩
  · have hhead := Text.head?_toDigits (Nat.pos_of_ne_zero hn)
    have hall : ∀ c ∈ Nat.toDigits 10 n, c.isDigit = true :=
      fun c hc => Text.isDigit_of_mem_toDigits hc
    cases hd : Nat.toDigits 10 n with
    | nil => exact absurd hd Nat.toDigits_ne_nil
    | cons c cs =>
        rw [hd] at hhead hall
        have hc : c.isDigit = true := hall c List.mem_cons_self
        refine ⟨c.toNat.toUInt8, digitBytes cs, .whole, .whole, rfl, ?_, ?_, rfl⟩
        · exact start?_of_isDigit hc (by simpa using hhead)
        · exact run?_whole (all_isDigit_digitBytes (fun d hd => hall d (List.mem_cons_of_mem c hd)))

theorem nat?_ofNat {limit n : Nat} (h : n ≤ limit) : nat? limit (.ofNat n) = some n := by
  have hall : ∀ c ∈ Nat.toDigits 10 n, c.isDigit = true :=
    fun c hc => Text.isDigit_of_mem_toDigits hc
  have hint : int? (.ofNat n) = some (n : Int) := by
    have hdigits := all_isDigit_digitBytes hall
    have hvalue : ofDigits (digitBytes (Nat.toDigits 10 n)) = n := by
      rw [ofDigits_digitBytes hall, Text.ofDecimal_toDigits]
    rw [ofNat_eq_digitBytes]
    cases hd : digitBytes (Nat.toDigits 10 n) with
    | nil =>
        rw [digitBytes, List.map_eq_nil_iff] at hd
        exact absurd hd Nat.toDigits_ne_nil
    | cons b digits =>
        rw [hd] at hdigits hvalue
        have hb : b ≠ 0x2d := by
          rintro rfl
          simp [isDigit] at hdigits
        simp only [int?]
        rw [if_neg (by simpa using hb), if_pos hdigits, hvalue]
  rw [nat?, hint, Option.bind_some, if_pos ⟨by omega, by omega⟩]
  rfl

/-! ## Parts that may be absent -/

theorem written_ofOption {α : Type} {write : α → Json} (h : ∀ x, Written (write x))
    (part : Option α) : Written (ofOption write part) := by
  cases part with
  | none => exact True.intro
  | some x => exact h x

theorem nullable_ofOption {α β : Type} {write : α → Json} {decode : Decoder β} {f : α → β}
    (h : ∀ x, decode (write x) = some (f x)) (hnull : ∀ x, write x ≠ .null) (part : Option α) :
    nullable decode (ofOption write part) = some (part.map f) := by
  cases part with
  | none => rfl
  | some x =>
      have hx : nullable decode (write x) = (decode (write x)).map some := by
        cases hw : write x with
        | null => exact absurd hw (hnull x)
        | _ => rfl
      show nullable decode (write x) = some (some (f x))
      rw [hx, h x, Option.map_some]

/-- A part that is there was decoded. -/
theorem exists_of_nullable {α : Type} {decode : Decoder α} {json : Json} {x : α}
    (h : nullable decode json = some (some x)) : decode json = some x := by
  unfold nullable at h
  split at h
  · cases h
  · obtain ⟨y, hy, heq⟩ := Option.map_eq_some_iff.1 h
    cases heq
    exact hy

theorem Record.exists_of_nullable {α : Type} {decode : Decoder α} {r : Record} {name : String}
    {x : α} (h : r.nullable name decode = some (some x)) : ∃ json, decode json = some x := by
  unfold Record.nullable Record.optional at h
  split at h
  · cases h
  · exact ⟨_, Json.exists_of_nullable h⟩

/-! ## Lists -/

theorem written_list {items : List Json} (h : ∀ item ∈ items, Written item) :
    Written (.list items) := by
  show ItemsWritten items
  induction items with
  | nil => exact True.intro
  | cons item items ih =>
      exact ⟨h item List.mem_cons_self,
        ih (fun other hother => h other (List.mem_cons_of_mem item hother))⟩

theorem listOf_map {α : Type} {decode : Decoder α} {write : α → Json}
    (h : ∀ x, decode (write x) = some x) (xs : List α) :
    listOf decode (.list (xs.map write)) = some xs := by
  show (xs.map write).mapM decode = some xs
  exact mapM_map_eq_some (fun x _ => h x)

/-! ## Objects -/

theorem fieldsWritten_of_forall {fields : List (RawText × Json)}
    (h : ∀ field ∈ fields, Spelled field.1 ∧ Written field.2) : FieldsWritten fields := by
  induction fields with
  | nil => exact True.intro
  | cons field fields ih =>
      have hfield := h field List.mem_cons_self
      exact ⟨hfield.1, hfield.2, ih (fun f hf => h f (List.mem_cons_of_mem field hf))⟩

theorem written_ofFields {fields : List (String × Json)}
    (h : ∀ field ∈ fields, Written field.2) : Written (.ofFields fields) := by
  show FieldsWritten _
  apply fieldsWritten_of_forall
  intro field hfield
  obtain ⟨source, hsource, rfl⟩ := List.mem_map.1 hfield
  exact ⟨spelled_rawOfChars source.1.toList, h source hsource⟩

theorem namedFields?_ofFields (fields : List (String × Json)) :
    namedFields? (fields.map (fun field => (rawOfChars field.1.toList, field.2))) =
      some fields := by
  rw [namedFields?]
  exact mapM_map_eq_some (fun field _ => by simp)

/-- A record is decoded from its fields when each has a known name and stands once. -/
theorem record?_ofFields {form : RecordForm} {fields : List (String × Json)}
    (hknown : ∀ field ∈ fields, form.names.contains field.1 = true)
    (hnodup : (fields.map (fun field => field.1)).Nodup) :
    record? form (.ofFields fields) = some fields := by
  have hfilter : fields.filter (fun field => form.names.contains field.1) = fields := by
    rw [List.filter_eq_self]
    exact hknown
  show (namedFields? _).bind (fun named =>
    let known := named.filter (fun field => form.names.contains field.1)
    if form.strict && known.length != named.length then none
    else if (known.map (fun field => field.1)).Nodup then some known
    else none) = some fields
  rw [namedFields?_ofFields, Option.bind_some]
  simp only [hfilter, bne_self_eq_false, Bool.and_false, hnodup, if_true]
  rfl

theorem dictionary?_ofFields {α β : Type} {decode : Decoder β} {write : α → Json} {f : α → β}
    (h : ∀ x, decode (write x) = some (f x)) (rows : List (String × α)) :
    dictionary? decode (.ofFields (rows.map (fun row => (row.1, write row.2)))) =
      some (rows.map (fun row => (row.1, f row.2))) := by
  show (namedFields? _).bind _ = _
  rw [namedFields?_ofFields, Option.bind_some]
  show (rows.map _).mapM _ = _
  rw [List.mapM_map]
  exact mapM_eq_some_of_forall rows (fun row _ => by simp [h])

/-- Each row of a dictionary was decoded. -/
theorem exists_of_mem_dictionary? {α : Type} {decode : Decoder α} {json : Json}
    {rows : List (String × α)} (h : dictionary? decode json = some rows) {row : String × α}
    (hrow : row ∈ rows) : ∃ part, decode part = some row.2 := by
  unfold dictionary? at h
  split at h
  case h_2 => cases h
  case h_1 =>
    obtain ⟨named, -, hrows⟩ := Option.bind_eq_some_iff.1 h
    obtain ⟨field, -, hfield⟩ := exists_of_mem_of_mapM hrows hrow
    obtain ⟨x, hx, rfl⟩ := Option.map_eq_some_iff.1 hfield
    exact ⟨field.2, hx⟩

/-! ## Documents -/

/-- A document in which a value is written is decoded as this value. -/
theorem decode?_of_utf8 {α : Type} {document : String} {v : Json} (written : Written v)
    (h : Text.utf8 document = v.bytes) (decode : Decoder α) :
    decode? decode document = decode v := by
  rw [decode?, ofString?, h, ofBytes?_bytes written, Option.bind_some]

end Json
end RealmTokens
