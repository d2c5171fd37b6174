/-
Entries read back, whatever the order in which they are written.

A map has no order, so a document lists its rows in any.  Main statement: in each of these orders a
snapshot is decoded as the same map, if all expiries have texts of their own, and so is the document of a
store in memory; every entry has then the same key and kind, and expires as it did.
-/
import RealmTokens.Proofs.Store.Saving
import RealmTokens.Proofs.Json.Texts

namespace RealmTokens

open Token (Entry Key User)

/-! ## Documents -/

namespace Token

open Json (IsTextual isTextual_ofText isTextual_ofOption isTextual_ofFields)

theorem isTextual_text (part : Option String) : IsTextual (.ofOption Json.ofText part) :=
  isTextual_ofOption isTextual_ofText part

theorem isTextual_instantJson (t : Time.Instant) : IsTextual (instantJson t) := by
  rw [instantJson]
  exact isTextual_ofText t.render

theorem User.isTextual_toJson (u : User) : IsTextual u.toJson := by
  apply isTextual_ofFields
  simp only [List.forall_mem_cons]
  exact ⟨isTextual_text u.userId, isTextual_text u.displayableId, isTextual_text u.givenName,
    isTextual_text u.familyName, isTextual_text u.identityProvider, fun _ h => nomatch h⟩

theorem Entry.isTextual_toJson (e : Entry) : IsTextual e.toJson := by
  apply isTextual_ofFields
  simp only [List.forall_mem_cons]
  exact ⟨isTextual_ofText e.authority, isTextual_text e.resource, isTextual_text e.clientId,
    isTextual_text e.accessToken, isTextual_text e.refreshToken, isTextual_text e.rawIdToken,
    isTextual_ofOption isTextual_instantJson e.expiresOn,
    Json.isTextual_bool e.isMultiResource, isTextual_text e.tenantId,
    isTextual_text e.familyClientId, isTextual_ofOption User.isTextual_toJson e.user,
    fun _ h => nomatch h⟩

end Token

namespace Entries

/-- The entries of a store in memory are written as a text. -/
theorem isTextual_toJson (entries : Entries) : Json.IsTextual entries.toJson := by
  apply Json.isTextual_ofFields
  intro field hfield
  obtain ⟨row, -, rfl⟩ := List.mem_map.1 hfield
  exact row.2.isTextual_toJson

theorem ofString?_of_utf8 {entries : Entries} {document : String}
    (h : Text.utf8 document = entries.toJson.bytes) : ofString? document = .ok entries.reread := by
  rw [ofString?, Json.decode?_of_utf8 entries.written_toJson h, entries.ofJson?_toJson]

/-! ## Reading back -/

/-- In whatever order its rows are written, a map is read back from its snapshot, from a disk on which
the snapshot lies, and from the document of a store in memory.  What an entry is good for and when it
expires is then as before. -/
theorem read_back_in_any_order {entries emitted : Entries} (denotable : entries.Denotable)
    (order : emitted.rows.Perm entries.rows) :
    ∃ loaded : Entries,
      Snapshot.decode? (Snapshot.bytes emitted) = .ok loaded ∧
      (∀ disk path, Disk.read disk path = .ok (Snapshot.bytes emitted) →
        Snapshot.load disk path = .ok loaded) ∧
      (∀ hazard disk after path, (Disk.fileName? path).isSome = true →
        Snapshot.save hazard disk path emitted = (.ok (), after) →
          Snapshot.load after path = .ok loaded) ∧
      (∃ document, Text.utf8 document = emitted.toJson.bytes ∧ ofString? document = .ok loaded) ∧
      loaded.rows.Perm entries.rows ∧ (∀ key, loaded.get? key = entries.get? key) ∧
      ∀ key entry, entries.get? key = some entry → ∃ read, loaded.get? key = some read ∧
        Key.ofEntry? read = Key.ofEntry? entry ∧ read.kind = entry.kind ∧
        ∀ now buffer, read.expiredAt now buffer = entry.expiredAt now buffer := by
  obtain ⟨document, hdocument⟩ := isTextual_toJson emitted
  have hsame : emitted.Same entries := order
  have hreread : emitted.reread = emitted := reread_of_denotable (hsame.denotable denotable)
  refine ⟨emitted.reread, Snapshot.decode?_bytes emitted,
    fun disk path hread => Snapshot.load_of_read hread,
    fun hazard disk after path hpath hsave => Snapshot.load_of_save_ok hpath hsave,
    ⟨document, hdocument, ofString?_of_utf8 hdocument⟩, ?_⟩
  rw [hreread]
  exact ⟨order, hsame.get?_eq, fun key entry hget =>
    ⟨entry, (hsame.get?_eq key).trans hget, rfl, rfl, fun _ _ => rfl⟩⟩

/-- Two entries under keys with quotes and breaks, one of which expires in the last leap second of all,
written in the other order. -/
theorem read_back_in_any_order_of_two :
    let leap : Time.Instant := ⟨Time.lastSecond, 1500000000, by decide, by decide, by decide⟩
    let quoted : Key := ⟨"a\"b\n\x01"⟩
    let user : User := ⟨some "é", none, none, none, some ""⟩
    let first : Entry := ⟨"", some "\\", none, some "t", none, none, some leap, true, none, none,
      some user⟩
    let second : Entry := ⟨"x", none, none, none, none, none, none, false, none, some "", none⟩
    let entries : Entries := ⟨[(quoted, first), (⟨""⟩, second)], by decide⟩
    let emitted : Entries := ⟨[(⟨""⟩, second), (quoted, first)], by decide⟩
    entries.Denotable ∧ emitted.rows.Perm entries.rows ∧ ∃ loaded,
      Snapshot.decode? (Snapshot.bytes emitted) = .ok loaded ∧
        loaded.get? quoted = some first ∧ loaded.get? ⟨""⟩ = some second := by
  intro leap quoted user first second entries emitted
  have denotable : entries.Denotable := by decide +kernel
  have order : emitted.rows.Perm entries.rows := List.Perm.swap (quoted, first) (⟨""⟩, second) []
  obtain ⟨loaded, decoded, -, -, -, -, same, -⟩ := read_back_in_any_order denotable order
  exact ⟨denotable, order, loaded, decoded, (same quoted).trans rfl, (same ⟨""⟩).trans rfl⟩

end Entries
end RealmTokens
