/-
Snapshots read back.

Main statements: the bytes of a snapshot are decoded as the entries it was made of, in their order, each
with the expiry that its text denotes; and entries that were decoded have expiries with texts of their
own, so they are decoded as they were the next time.
-/
import RealmTokens.Proofs.Store.Entries
import RealmTokens.Proofs.Token.Codec
import RealmTokens.Store.Snapshot

namespace RealmTokens

open Token (Entry Key)

namespace Entries

/-! ## Rows -/

theorem rows_insert_of_not_mem {entries : Entries} {key : Key}
    (h : key ∉ entries.rows.map Prod.fst) (entry : Entry) :
    (entries.insert key entry).rows = entries.rows ++ [(key, entry)] := by
  rw [insert, dif_neg h]

/-- Rows with keys of their own are filed in their order. -/
theorem rows_foldl_insert (rows : List (Key × Entry)) (entries : Entries)
    (h : (entries.rows.map Prod.fst ++ rows.map Prod.fst).Nodup) :
    (rows.foldl (fun entries row => entries.insert row.1 row.2) entries).rows =
      entries.rows ++ rows := by
  induction rows generalizing entries with
  | nil => rw [List.foldl_nil, List.append_nil]
  | cons row rows ih =>
      obtain ⟨key, entry⟩ := row
      have hnew : key ∉ entries.rows.map Prod.fst := by
        intro hmem
        exact (List.nodup_append.1 h).2.2 key hmem key List.mem_cons_self rfl
      have hrows := rows_insert_of_not_mem hnew entry
      rw [List.foldl_cons, ih, hrows, List.append_assoc, List.singleton_append]
      rw [hrows, List.map_append, List.append_assoc]
      exact h

theorem ofList_rows (entries : Entries) : ofList entries.rows = entries := by
  apply ext
  rw [ofList, rows_foldl_insert entries.rows empty entries.nodup]
  rfl

/-! ## Expiries -/

/-- The entries that are decoded, each with the expiry that its text denotes. -/
def reread (entries : Entries) : Entries :=
  ⟨entries.rows.map (fun row => (row.1, row.2.reread)), by
    rw [List.map_map]
    exact entries.nodup⟩

/-- Whether all expiries have texts of their own. -/
def Denotable (entries : Entries) : Prop := ∀ row ∈ entries.rows, row.2.Denotable

instance (entries : Entries) : Decidable entries.Denotable :=
  inferInstanceAs (Decidable (∀ row ∈ entries.rows, _))

theorem reread_of_denotable {entries : Entries} (h : entries.Denotable) : entries.reread = entries := by
  apply ext
  have hrows : entries.rows.map (fun row => (row.1, row.2.reread)) = entries.rows.map id :=
    List.map_congr_left (fun row hrow => by rw [Entry.reread_of_denotable (h row hrow), id])
  exact hrows.trans (List.map_id _)

theorem denotable_reread (entries : Entries) : entries.reread.Denotable := by
  intro row hrow
  obtain ⟨source, -, rfl⟩ := List.mem_map.1 hrow
  exact source.2.denotable_reread

theorem get?_reread (entries : Entries) (key : Key) :
    entries.reread.get? key = (entries.get? key).map Entry.reread := by
  apply Option.ext
  intro entry
  rw [get?_eq_some_iff, Option.map_eq_some_iff, reread, List.mem_map]
  constructor
  · rintro ⟨row, hrow, heq⟩
    cases heq
    exact ⟨row.2, get?_eq_some_iff.2 hrow, rfl⟩
  · rintro ⟨source, hsource, rfl⟩
    exact ⟨(key, source), get?_eq_some_iff.1 hsource, rfl⟩

theorem Same.denotable {a b : Entries} (h : a.Same b) (hb : b.Denotable) : a.Denotable :=
  fun row hrow => hb row (h.mem_iff.1 hrow)

theorem denotable_insert {entries : Entries} (h : entries.Denotable) (key : Key) {entry : Entry}
    (hentry : entry.Denotable) : (entries.insert key entry).Denotable := by
  intro row hrow
  rcases mem_rows_insert.1 hrow with rfl | ⟨hold, -⟩
  · exact hentry
  · exact h row hold

theorem denotable_ofList {rows : List (Key × Entry)} (h : ∀ row ∈ rows, row.2.Denotable) :
    (ofList rows).Denotable := by
  have hfold (entries : Entries) (hentries : entries.Denotable) :
      (rows.foldl (fun entries row => entries.insert row.1 row.2) entries).Denotable := by
    induction rows generalizing entries with
    | nil => exact hentries
    | cons row rows ih =>
        exact ih (fun other hother => h other (List.mem_cons_of_mem row hother)) _
          (denotable_insert hentries row.1 (h row List.mem_cons_self))
  exact hfold empty (fun _ h => nomatch h)

/-! ## JSON -/

theorem written_toJson (entries : Entries) : Json.Written entries.toJson := by
  apply Json.written_ofFields
  intro field hfield
  obtain ⟨row, -, rfl⟩ := List.mem_map.1 hfield
  exact row.2.written_toJson

theorem ofJson?_toJson (entries : Entries) : ofJson? entries.toJson = some entries.reread := by
  have hfields : entries.toJson = Json.ofFields
      ((entries.rows.map (fun row => (row.1.text, row.2))).map
        (fun row => (row.1, row.2.toJson))) := by
    rw [toJson, List.map_map]
    rfl
  have hkeys : ((entries.rows.map (fun row => (row.1.text, row.2))).map
      (fun row => (row.1, row.2.reread))).map (fun row => ((⟨row.1⟩ : Key), row.2)) =
        entries.reread.rows := by
    rw [List.map_map, List.map_map]
    rfl
  rw [ofJson?, hfields, Json.dictionary?_ofFields Entry.ofJson?_toJson, Option.map_some, hkeys,
    ofList_rows]

theorem denotable_of_ofJson? {json : Json} {entries : Entries} (h : ofJson? json = some entries) :
    entries.Denotable := by
  obtain ⟨rows, hrows, rfl⟩ := Option.map_eq_some_iff.1 h
  refine denotable_ofList (fun row hrow => ?_)
  obtain ⟨source, hsource, rfl⟩ := List.mem_map.1 hrow
  obtain ⟨part, hpart⟩ := Json.exists_of_mem_dictionary? hrows hsource
  exact Entry.denotable_of_ofJson? hpart

end Entries

namespace Snapshot

theorem written_toJson (entries : Entries) : Json.Written (toJson entries) := by
  apply Json.written_ofFields
  simp only [List.forall_mem_cons]
  exact ⟨Json.written_ofNat version, entries.written_toJson, fun _ h => nomatch h⟩

theorem ofJson?_toJson (entries : Entries) :
    ofJson? (toJson entries) = some (version, entries.reread) := by
  have hrecord : (toJson entries).record? form =
      some [("version", .ofNat version), ("items", entries.toJson)] := by
    apply Json.record?_ofFields
    · simp [form]
    · simp
  have hversion : Json.nat? Json.maxNat32 (.ofNat version) = some version :=
    Json.nat?_ofNat (by decide)
  have hread : ofJson? (toJson entries) = (do
      return (← Json.nat? Json.maxNat32 (.ofNat version), ← Entries.ofJson? entries.toJson)) := by
    rw [ofJson?, hrecord]
    rfl
  rw [hread, hversion, entries.ofJson?_toJson]
  rfl

theorem decode?_bytes (entries : Entries) : decode? (bytes entries) = .ok entries.reread := by
  rw [decode?, bytes, Json.ofBytes?_bytes (written_toJson entries), Option.bind_some,
    ofJson?_toJson]
  rfl

theorem denotable_of_decode? {bytes : List UInt8} {entries : Entries}
    (h : decode? bytes = .ok entries) : entries.Denotable := by
  unfold decode? at h
  split at h
  case h_1 => cases h
  case h_2 found decoded hdecoded =>
    split at h
    case isFalse => cases h
    case isTrue =>
      cases h
      obtain ⟨json, -, hjson⟩ := Option.bind_eq_some_iff.1 hdecoded
      simp only [ofJson?, Option.bind_eq_bind, Option.bind_eq_some_iff] at hjson
      obtain ⟨r, -, _, -, _, hitems, heq⟩ := hjson
      cases heq
      obtain ⟨items, -, hitems⟩ := Option.bind_eq_some_iff.1 hitems
      exact Entries.denotable_of_ofJson? hitems

theorem denotable_of_load {disk : Disk} {path : String} {entries : Entries}
    (h : load disk path = .ok entries) : entries.Denotable := by
  unfold load at h
  split at h
  · cases h
    exact fun _ h => nomatch h
  · cases h
  · split at h
    case h_1 hdecode =>
      cases h
      exact denotable_of_decode? hdecode
    case h_2 => cases h

end Snapshot
end RealmTokens
