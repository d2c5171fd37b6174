/-
How entries for one resource and entries for all resources are told apart.

The parts of an entry decide its kind, the fourth piece of its key says whether it is for all resources,
and a question for a resource compares the text that an entry holds as its resource.  A delimiter in a
text in front of the flag moves another piece into the place of the flag, and an entry for all resources
may hold a blank text as its resource.  Main statement: these are the only ways in which the three
disagree.
-/
import Mathlib.Algebra.GroupWithZero.Nat
import RealmTokens.Proofs.Lists
import RealmTokens.Proofs.Token.Collision
import RealmTokens.Store.Query

namespace RealmTokens

namespace Token

/-! ## Pieces of a key -/

namespace Key

theorem length_splitOn_pos (s : String) : 0 < (s.toList.splitOn delimiter).length :=
  List.length_pos_iff.2 (List.splitOn_ne_nil delimiter s.toList)

/-- A text of one piece is that piece. -/
theorem length_splitOn_eq_one_iff {s : String} :
    (s.toList.splitOn delimiter).length = 1 ↔ Unbroken s := by
  constructor
  · intro h
    obtain ⟨piece, hpiece⟩ := List.length_eq_one_iff.1 h
    have hself : [delimiter].intercalate (s.toList.splitOn delimiter) = s.toList :=
      List.intercalate_splitOn delimiter
    rw [hpiece, List.intercalate_singleton] at hself
    have hnot : delimiter ∉ piece :=
      not_mem_of_mem_splitOn (hpiece ▸ List.mem_singleton_self piece)
    rwa [hself] at hnot
  · intro h
    rw [h.splitOn]
    rfl

end Key

namespace Entry

variable {e : Entry} {key : Key}

/-- The segments of the key of an entry that stand in front of its flag. -/
def keyFront (e : Entry) : List String :=
  [Key.dropFinalSlash (Text.lowercase e.authority),
    if e.kind = .regular then e.resource.getD "" else "",
    if e.kind = .family then "" else Text.lowercase (e.clientId.getD "")]

/-- What the delimiter divides them into. -/
def frontPieces (e : Entry) : List (List Char) :=
  e.keyFront.flatMap (fun segment => segment.toList.splitOn Key.delimiter)

/-- The piece that stands in the place of the flag where a segment in front of it is divided. -/
def misplaced? (e : Entry) : Option (List Char) := e.frontPieces[3]?

/-- Whether no text in front of the flag holds the delimiter. -/
structure Undivided (e : Entry) : Prop where
  authority : Key.Unbroken e.authority
  resource : e.kind = .regular → Key.Unbroken (e.resource.getD "")
  client : e.kind ≠ .family → Key.Unbroken (e.clientId.getD "")

theorem splitOn_of_ofEntry? (h : Key.ofEntry? e = .ok key) :
    ∃ behind, key.text.toList.splitOn Key.delimiter =
      e.frontPieces ++ (Key.flag (e.kind != .regular)).toList :: behind := by
  have hflag (multiResource : Bool) : (Key.flag multiResource).toList.splitOn Key.delimiter =
      [(Key.flag multiResource).toList] := (Key.unbroken_flag multiResource).splitOn
  cases hkind : e.kind with
  | regular =>
      simp only [Key.ofEntry?, hkind] at h
      obtain ⟨-, -, -, rfl⟩ := Key.ofParts?_eq_ok_iff.1 h
      refine ⟨(Key.normalUser e.userId).toList.splitOn Key.delimiter, ?_⟩
      rw [Key.splitOn_join (by simp)]
      simp [frontPieces, keyFront, hkind, hflag]
  | multiResource =>
      simp only [Key.ofEntry?, hkind, Key.ofMultiResource?] at h
      obtain ⟨-, -, -, rfl⟩ := Key.ofParts?_eq_ok_iff.1 h
      refine ⟨(Key.normalUser e.userId).toList.splitOn Key.delimiter, ?_⟩
      rw [Key.splitOn_join (by simp)]
      simp [frontPieces, keyFront, hkind, hflag]
      rfl
  | family =>
      simp only [Key.ofEntry?, hkind] at h
      obtain ⟨-, -, rfl⟩ := Key.ofFamily?_eq_ok_iff.1 h
      refine ⟨[Key.normalUser e.userId,
        Key.familyMark ++ Text.lowercase (e.familyClientId.getD "")].flatMap
          (fun segment => segment.toList.splitOn Key.delimiter), ?_⟩
      rw [Key.splitOn_join (by simp)]
      simp [frontPieces, keyFront, hkind, hflag]
      rfl

theorem length_frontPieces (e : Entry) :
    e.frontPieces.length = (e.keyFront.map (fun s => (s.toList.splitOn Key.delimiter).length)).sum :=
  List.length_flatMap

theorem three_le_length_frontPieces (e : Entry) : 3 ≤ e.frontPieces.length := by
  have hpos := Key.length_splitOn_pos
  rw [length_frontPieces]
  simp only [keyFront, List.map_cons, List.map_nil, List.sum_cons, List.sum_nil]
  have h1 := hpos (Key.dropFinalSlash (Text.lowercase e.authority))
  have h2 := hpos (if e.kind = .regular then e.resource.getD "" else "")
  have h3 := hpos (if e.kind = .family then "" else Text.lowercase (e.clientId.getD ""))
  omega

theorem misplaced?_eq_none_iff : e.misplaced? = none ↔ e.Undivided := by
  have hpos := Key.length_splitOn_pos
  have hone (s : String) : (s.toList.splitOn Key.delimiter).length = 1 ↔ Key.Unbroken s :=
    Key.length_splitOn_eq_one_iff
  have h1 := hpos (Key.dropFinalSlash (Text.lowercase e.authority))
  have h2 := hpos (if e.kind = .regular then e.resource.getD "" else "")
  have h3 := hpos (if e.kind = .family then "" else Text.lowercase (e.clientId.getD ""))
  have hsegments : e.misplaced? = none ↔
      Key.Unbroken (Key.dropFinalSlash (Text.lowercase e.authority)) ∧
        Key.Unbroken (if e.kind = .regular then e.resource.getD "" else "") ∧
        Key.Unbroken (if e.kind = .family then "" else Text.lowercase (e.clientId.getD "")) := by
    rw [misplaced?, List.getElem?_eq_none_iff, length_frontPieces, ← hone, ← hone, ← hone]
    simp only [keyFront, List.map_cons, List.map_nil, List.sum_cons, List.sum_nil]
    omega
  rw [hsegments, Key.unbroken_dropFinalSlash_iff, Key.unbroken_lowercase_iff]
  constructor
  · rintro ⟨authority, resource, client⟩
    refine ⟨authority, fun hkind => ?_, fun hkind => ?_⟩
    · rwa [if_pos hkind] at resource
    · rwa [if_neg hkind, Key.unbroken_lowercase_iff] at client
  · intro undivided
    refine ⟨undivided.authority, ?_, ?_⟩
    · split
      case isTrue hkind => exact undivided.resource hkind
      case isFalse => exact Key.unbroken_empty
    · split
      case isTrue => exact Key.unbroken_empty
      case isFalse hkind => exact Key.unbroken_lowercase_iff.2 (undivided.client hkind)

/-- The fourth piece of a key is the flag, unless a piece in front of it takes its place. -/
theorem isMultiResource_iff (h : Key.ofEntry? e = .ok key) :
    (e.misplaced? = none → (key.isMultiResource = true ↔ e.kind ≠ .regular)) ∧
      ∀ piece, e.misplaced? = some piece → (key.isMultiResource = true ↔ piece = ['y']) := by
  obtain ⟨behind, hpieces⟩ := splitOn_of_ofEntry? h
  have hthree := e.three_le_length_frontPieces
  have hflag (multiResource : Bool) :
      (Key.flag multiResource).toList = ['y'] ↔ multiResource = true := by
    cases multiResource <;> decide
  rw [Key.isMultiResource, hpieces, beq_iff_eq]
  constructor
  · intro hnone
    have hle : e.frontPieces.length ≤ 3 := List.getElem?_eq_none_iff.1 hnone
    have hlength : e.frontPieces.length = 3 := by omega
    rw [List.getElem?_append_right hle, hlength, Nat.sub_self, List.getElem?_cons_zero,
      Option.some.injEq, hflag, bne_iff_ne]
  · intro piece hpiece
    obtain ⟨hlt, -⟩ := List.getElem?_eq_some_iff.1 hpiece
    have hfourth : e.frontPieces[3]? = some piece := hpiece
    rw [List.getElem?_append_left hlt, hfourth, Option.some.injEq]

theorem blankPart_of_kind_ne_regular (h : e.kind ≠ .regular) : blankPart e.resource = true := by
  unfold kind at h
  split at h
  case isTrue => exact absurd rfl h
  case isFalse hblank => simpa using hblank

end Entry
end Token

namespace Store

open Token (Entry Key)

variable {s : Store} {e : Entry}

/-! ## Three ways to tell -/

theorem mem_tokensForResource_iff {resource : String} :
    e ∈ s.tokensForResource resource ↔ e ∈ s.toList ∧ e.resource = some resource := by
  rw [tokensForResource, List.mem_filter, beq_iff_eq]

/-- A key tells the kind of its entry exactly if no piece is misplaced, or the one that is says the same
as the flag; no piece is misplaced exactly if no text in front of the flag holds the delimiter.  An
entry for all resources is found under a resource exactly if it holds that text, which is blank. -/
theorem classifiers_agree_iff (e : Entry) (s : Store) :
    (∀ key, Key.ofEntry? e = .ok key →
      ((key.isMultiResource = true ↔ e.kind ≠ .regular) ↔
        ∀ piece, e.misplaced? = some piece → (piece = ['y'] ↔ e.kind ≠ .regular)) ∧
      (e.misplaced? = none ↔ e.Undivided)) ∧
    (e ∈ s.toList → e.kind ≠ .regular → ∀ resource,
      (e ∈ s.tokensForResource resource ↔ e.resource = some resource) ∧
      (e ∈ s.tokensForResource resource → Text.blank resource = true)) := by
  constructor
  · intro key filed
    refine ⟨?_, Entry.misplaced?_eq_none_iff⟩
    obtain ⟨hplaced, hmisplaced⟩ := Entry.isMultiResource_iff filed
    cases hpiece : e.misplaced? with
    | none => exact iff_of_true (hplaced hpiece) (fun _ hsome => nomatch hsome)
    | some piece =>
        rw [hmisplaced piece hpiece]
        constructor
        · rintro agree piece' hpiece'
          cases hpiece'
          exact agree
        · exact fun agree => agree piece rfl
  · intro held forAll resource
    have hfound : e ∈ s.tokensForResource resource ↔ e.resource = some resource :=
      mem_tokensForResource_iff.trans (and_iff_right held)
    refine ⟨hfound, fun found => ?_⟩
    have hblank := Entry.blankPart_of_kind_ne_regular forAll
    rwa [hfound.1 found] at hblank

/-- A delimiter in the user and in the family, and no resource. -/
theorem classifiers_agree_of_family :
    let e : Entry := ⟨"https://a/", none, some " ", none, none, none, none, false, none, some "f$y",
      some (.ofId "u$n")⟩
    let key : Key := ⟨"https://a$$$y$u$n$foci-f$y"⟩
    let s : Store := .memory (Entries.empty.insert key e)
    Key.ofEntry? e = .ok key ∧ e.kind = .family ∧ key.isMultiResource = true ∧
      ∀ resource, e ∉ s.tokensForResource resource := by
  intro e key s
  have hkind : e.kind = .family := by decide
  have filed : Key.ofEntry? e = .ok key := by
    rw [Key.ofEntry?, hkind]
    exact Key.ofFamily?_eq_ok_iff.2 (by decide)
  have forAll : e.kind ≠ .regular := by decide
  obtain ⟨hkeys, hstores⟩ := classifiers_agree_iff e s
  have undivided : e.Undivided :=
    ⟨by simp [Key.Unbroken, e, Key.delimiter], fun h => absurd h forAll, fun h => absurd hkind h⟩
  have hnone : e.misplaced? = none := (hkeys key filed).2.2 undivided
  refine ⟨filed, hkind, ?_, fun resource found => ?_⟩
  · refine ((hkeys key filed).1.2 (fun piece hpiece => ?_)).2 forAll
    rw [hnone] at hpiece
    cases hpiece
  · cases (hstores (List.mem_singleton_self e) forAll resource).1.1 found

/-- The key of an entry for one resource is read as one for all resources, and an entry for all resources
is found under a resource. -/
theorem not_classifiers_agree :
    let one : Entry := ⟨"https://a/b$c", some "r", some "y", none, none, none, none, false, none, none,
      none⟩
    let all : Entry := ⟨"https://a", some " ", some "c", none, none, none, none, false, none, none,
      none⟩
    let s : Store := .memory (Entries.empty.insert ⟨"https://a$$c$y$"⟩ all)
    Key.ofEntry? one = .ok ⟨"https://a/b$c$r$y$n$"⟩ ∧
      (⟨"https://a/b$c$r$y$n$"⟩ : Key).isMultiResource = true ∧ one.kind = .regular ∧
      Key.ofEntry? all = .ok ⟨"https://a$$c$y$"⟩ ∧ all.kind = .multiResource ∧
      all ∈ s.tokensForResource " " := by
  intro one all s
  have hone : one.kind = .regular := by decide
  have hall : all.kind = .multiResource := by decide
  refine ⟨?_, by decide, hone, ?_, hall, by decide⟩
  · rw [Key.ofEntry?, hone]
    exact Key.ofParts?_eq_ok_iff.2 (by decide)
  · rw [Key.ofEntry?, hall]
    exact Key.ofParts?_eq_ok_iff.2 (by decide)

end Store
end RealmTokens
