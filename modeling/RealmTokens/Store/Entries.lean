/-
Entries by key. A key files one entry, and a new one takes the place of the old. The order of the rows
is that in which their keys came first, until they are brought into another order.
-/
import RealmTokens.Token.Codec

namespace RealmTokens

open Token (Entry Key)

structure Entries where
  rows : List (Key × Entry)
  nodup : (rows.map Prod.fst).Nodup

namespace Entries

def empty : Entries := ⟨[], by simp⟩

def get? (entries : Entries) (key : Key) : Option Entry :=
  entries.rows.lookup key

def contains (entries : Entries) (key : Key) : Bool :=
  entries.rows.any (fun row => row.1 == key)

def toList (entries : Entries) : List Entry :=
  entries.rows.map Prod.snd

def size (entries : Entries) : Nat := entries.rows.length

/-- The rows with another entry under a key that is among them. -/
def replaceRow (key : Key) (entry : Entry) (rows : List (Key × Entry)) : List (Key × Entry) :=
  rows.map (fun row => if row.1 = key then (key, entry) else row)

theorem keys_replaceRow (key : Key) (entry : Entry) (rows : List (Key × Entry)) :
    (replaceRow key entry rows).map Prod.fst = rows.map Prod.fst := by
  simp only [replaceRow, List.map_map]
  apply List.map_congr_left
  intro row _
  by_cases h : row.1 = key <;> simp [h]

def insert (entries : Entries) (key : Key) (entry : Entry) : Entries :=
  if h : key ∈ entries.rows.map Prod.fst then
    ⟨replaceRow key entry entries.rows, by rw [keys_replaceRow]; exact entries.nodup⟩
  else
    ⟨entries.rows ++ [(key, entry)], by
      rw [List.map_append, List.nodup_append]
      refine ⟨entries.nodup, by simp, ?_⟩
      intro a ha b hb hab
      simp only [List.map_cons, List.map_nil, List.mem_singleton] at hb
      exact h (hb ▸ hab ▸ ha)⟩

def erase (entries : Entries) (key : Key) : Entries :=
  ⟨entries.rows.filter (fun row => row.1 ≠ key),
    entries.nodup.sublist (List.filter_sublist.map Prod.fst)⟩

/-- The entries of rows in which a later row replaces an earlier one. -/
def ofList (rows : List (Key × Entry)) : Entries :=
  rows.foldl (fun entries row => entries.insert row.1 row.2) empty

theorem ext {a b : Entries} (h : a.rows = b.rows) : a = b := by
  cases a; cases b; cases h; rfl

/-- An order for the rows of any map. -/
structure Order where
  arrange : Entries → Entries
  perm : ∀ entries, (arrange entries).rows.Perm entries.rows

/-- The order in which the rows were filed. -/
def Order.asFiled : Order := ⟨fun entries => entries, fun _ => .refl _⟩

/-! ## JSON -/

def ofJson? : Json.Decoder Entries := fun json =>
  (Json.dictionary? Entry.ofJson? json).map (fun rows =>
    ofList (rows.map (fun row => (⟨row.1⟩, row.2))))

def toJson (entries : Entries) : Json :=
  .ofFields (entries.rows.map (fun row => (row.1.text, row.2.toJson)))

def ofString? (document : String) : Except Failure Entries :=
  match Json.decode? ofJson? document with
  | some entries => .ok entries
  | none => .error .undecodable

end Entries
end RealmTokens
