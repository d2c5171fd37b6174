/-
Entries as maps.

What is filed under a key does not hang on the order of the rows.  Main statements: entries are the same
map exactly if they have the same rows in some order; and what is under each key behind a change, whose
result is the same map for the same map.
-/
import Mathlib.Data.List.Nodup
import RealmTokens.Store.Entries

namespace RealmTokens

open Token (Entry Key)

namespace Entries

/-! ## Rows and keys -/

theorem lookup_eq_some_iff {rows : List (Key × Entry)} (nodup : (rows.map Prod.fst).Nodup)
    {key : Key} {entry : Entry} : rows.lookup key = some entry ↔ (key, entry) ∈ rows := by
  induction rows with
  | nil => exact iff_of_false (fun h => nomatch h) List.not_mem_nil
  | cons row rows ih =>
      obtain ⟨hnot, hrest⟩ := List.nodup_cons.1 nodup
      rw [List.lookup_cons, List.mem_cons]
      by_cases hkey : key = row.1
      · rw [beq_iff_eq.2 hkey]
        have hout : (key, entry) ∉ rows := fun hmem =>
          hnot (List.mem_map.2 ⟨(key, entry), hmem, hkey⟩)
        rw [or_iff_left hout, hkey, Prod.ext_iff]
        simp [eq_comm]
      · rw [beq_eq_false_iff_ne.2 hkey, ih hrest, or_iff_right]
        exact fun h => hkey (congrArg Prod.fst h)

theorem get?_eq_some_iff {entries : Entries} {key : Key} {entry : Entry} :
    entries.get? key = some entry ↔ (key, entry) ∈ entries.rows :=
  lookup_eq_some_iff entries.nodup

theorem mem_keys_iff {entries : Entries} {key : Key} :
    key ∈ entries.rows.map Prod.fst ↔ ∃ entry, (key, entry) ∈ entries.rows := by
  simp [List.mem_map]

/-! ## The same map -/

/-- Whether entries have the same rows, in whatever order. -/
def Same (a b : Entries) : Prop := a.rows.Perm b.rows

namespace Same

variable {a b c : Entries}

theorem refl (a : Entries) : a.Same a := List.Perm.refl a.rows

theorem symm (h : a.Same b) : b.Same a := List.Perm.symm h

theorem trans (h : a.Same b) (h' : b.Same c) : a.Same c := List.Perm.trans h h'

theorem get?_eq (h : a.Same b) (key : Key) : a.get? key = b.get? key := by
  apply Option.ext
  intro entry
  rw [get?_eq_some_iff, get?_eq_some_iff]
  exact h.mem_iff

end Same

theorem same_iff {a b : Entries} : a.Same b ↔ ∀ key, a.get? key = b.get? key := by
  constructor
  · exact fun h => h.get?_eq
  · intro h
    have ha : a.rows.Nodup := List.Nodup.of_map Prod.fst a.nodup
    have hb : b.rows.Nodup := List.Nodup.of_map Prod.fst b.nodup
    refine (List.perm_ext_iff_of_nodup ha hb).2 (fun row => ?_)
    rw [← get?_eq_some_iff, ← get?_eq_some_iff, h row.1]

theorem same_empty_iff {entries : Entries} : entries.Same empty ↔ entries = empty :=
  ⟨fun h => ext (List.Perm.eq_nil h), fun h => h ▸ .refl _⟩

theorem Order.same (order : Order) (entries : Entries) : (order.arrange entries).Same entries :=
  order.perm entries

/-! ## Changes -/

theorem mem_rows_erase {entries : Entries} {key : Key} {row : Key × Entry} :
    row ∈ (entries.erase key).rows ↔ row ∈ entries.rows ∧ row.1 ≠ key := by
  simp [erase]

theorem get?_erase (entries : Entries) (key other : Key) :
    (entries.erase key).get? other = if other = key then none else entries.get? other := by
  apply Option.ext
  intro entry
  rw [get?_eq_some_iff, mem_rows_erase]
  by_cases h : other = key
  · simp [h]
  · simp [h, get?_eq_some_iff]

/-- A row that is filed takes the place of the row under its key, if there is one. -/
theorem mem_rows_insert {entries : Entries} {key : Key} {entry : Entry} {row : Key × Entry} :
    row ∈ (entries.insert key entry).rows ↔
      row = (key, entry) ∨ row ∈ entries.rows ∧ row.1 ≠ key := by
  unfold insert
  split
  case isTrue hkey =>
    obtain ⟨old, hold⟩ := mem_keys_iff.1 hkey
    show row ∈ entries.rows.map _ ↔ _
    rw [List.mem_map]
    constructor
    · rintro ⟨source, hsource, rfl⟩
      by_cases h : source.1 = key
      · exact .inl (if_pos h)
      · rw [if_neg h]
        exact .inr ⟨hsource, h⟩
    · rintro (rfl | ⟨hrow, hne⟩)
      · exact ⟨(key, old), hold, if_pos rfl⟩
      · exact ⟨row, hrow, if_neg hne⟩
  case isFalse hkey =>
    have hne : row ∈ entries.rows → row.1 ≠ key := fun hrow heq =>
      hkey (List.mem_map.2 ⟨row, hrow, heq⟩)
    rw [List.mem_append, List.mem_singleton, or_comm]
    exact or_congr_right (iff_self_and.2 hne)

theorem get?_insert (entries : Entries) (key other : Key) (entry : Entry) :
    (entries.insert key entry).get? other =
      if other = key then some entry else entries.get? other := by
  apply Option.ext
  intro found
  rw [get?_eq_some_iff, mem_rows_insert, Prod.mk.injEq]
  by_cases h : other = key
  · simp [h, eq_comm]
  · simp [h, get?_eq_some_iff]

theorem Same.insert {a b : Entries} (h : a.Same b) (key : Key) (entry : Entry) :
    (a.insert key entry).Same (b.insert key entry) := by
  rw [same_iff]
  intro other
  rw [get?_insert, get?_insert, h.get?_eq]

theorem Same.erase {a b : Entries} (h : a.Same b) (key : Key) : (a.erase key).Same (b.erase key) := by
  rw [same_iff]
  intro other
  rw [get?_erase, get?_erase, h.get?_eq]

end Entries
end RealmTokens
