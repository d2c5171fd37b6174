/-
Users and entries read back from JSON.

Main statements: what is written for a user or an entry can be read in a document; a user is decoded as
that user, and an entry as that entry, with the expiry that its text denotes.  Entries that were decoded
have an expiry with a text of its own.
-/
import RealmTokens.Proofs.Json.Records
import RealmTokens.Proofs.Time.InstantText
import RealmTokens.Token.Codec

namespace RealmTokens
namespace Token

open Json (Written written_ofText written_ofOption)

/-! ## Parts -/

theorem instant?_instantJson (t : Time.Instant) : instant? (instantJson t) = some t.reread := by
  rw [instant?, instantJson, Json.text?_ofText, Option.bind_some, Time.Instant.ofString?_render]

theorem written_instantJson (t : Time.Instant) : Written (instantJson t) := by
  rw [instantJson]
  exact written_ofText t.render

theorem nullable_text (part : Option String) :
    Json.nullable Json.text? (.ofOption Json.ofText part) = some part := by
  rw [Json.nullable_ofOption (f := id) Json.text?_ofText (fun _ h => nomatch h), Option.map_id, id]

theorem nullable_instant (part : Option Time.Instant) :
    Json.nullable instant? (.ofOption instantJson part) = some (part.map Time.Instant.reread) :=
  Json.nullable_ofOption instant?_instantJson (fun _ h => nomatch h) part

theorem written_text (part : Option String) : Written (.ofOption Json.ofText part) :=
  written_ofOption written_ofText part

/-! ## Users -/

namespace User

theorem written_toJson (u : User) : Written u.toJson := by
  apply Json.written_ofFields
  simp only [List.forall_mem_cons]
  exact ⟨written_text u.userId, written_text u.displayableId, written_text u.givenName,
    written_text u.familyName, written_text u.identityProvider, fun _ h => nomatch h⟩

theorem ofJson?_toJson (u : User) : ofJson? u.toJson = some u := by
  have hrecord : u.toJson.record? form = some
      [("user_id", .ofOption Json.ofText u.userId),
        ("displayable_id", .ofOption Json.ofText u.displayableId),
        ("given_name", .ofOption Json.ofText u.givenName),
        ("family_name", .ofOption Json.ofText u.familyName),
        ("identity_provider", .ofOption Json.ofText u.identityProvider)] := by
    apply Json.record?_ofFields
    · simp [form]
    · simp
  have hread : ofJson? u.toJson = (do
      return ⟨← Json.nullable Json.text? (.ofOption Json.ofText u.userId),
        ← Json.nullable Json.text? (.ofOption Json.ofText u.displayableId),
        ← Json.nullable Json.text? (.ofOption Json.ofText u.givenName),
        ← Json.nullable Json.text? (.ofOption Json.ofText u.familyName),
        ← Json.nullable Json.text? (.ofOption Json.ofText u.identityProvider)⟩) := by
    rw [ofJson?, hrecord]
    rfl
  rw [hread]
  simp only [nullable_text]
  rfl

end User

theorem nullable_user (part : Option User) :
    Json.nullable User.ofJson? (.ofOption User.toJson part) = some part := by
  rw [Json.nullable_ofOption (f := id) User.ofJson?_toJson (fun _ h => nomatch h), Option.map_id, id]

/-! ## Entries -/

namespace Entry

theorem written_toJson (e : Entry) : Written e.toJson := by
  apply Json.written_ofFields
  simp only [List.forall_mem_cons]
  exact ⟨written_ofText e.authority, written_text e.resource, written_text e.clientId,
    written_text e.accessToken, written_text e.refreshToken, written_text e.rawIdToken,
    written_ofOption written_instantJson e.expiresOn, True.intro,
    written_text e.tenantId, written_text e.familyClientId,
    written_ofOption User.written_toJson e.user, fun _ h => nomatch h⟩

/-- The entry that is decoded: its expiry is what the text of the expiry denotes. -/
def reread (e : Entry) : Entry :=
  { e with expiresOn := e.expiresOn.map Time.Instant.reread }

/-- Whether the expiry of an entry, if it has one, has a text of its own. -/
def Denotable (e : Entry) : Prop := ∀ expiry ∈ e.expiresOn, expiry.Denotable

instance (e : Entry) : Decidable e.Denotable :=
  inferInstanceAs (Decidable (∀ expiry ∈ e.expiresOn, _))

theorem reread_of_denotable {e : Entry} (h : e.Denotable) : e.reread = e := by
  have hexpiry : e.expiresOn.map Time.Instant.reread = e.expiresOn := by
    cases ht : e.expiresOn with
    | none => rfl
    | some t => rw [Option.map_some, Time.Instant.reread_of_denotable (h t ht)]
  rw [reread, hexpiry]

theorem denotable_reread (e : Entry) : e.reread.Denotable := by
  intro expiry hexpiry
  obtain ⟨t, -, rfl⟩ := Option.map_eq_some_iff.1 hexpiry
  exact t.denotable_reread

theorem ofJson?_toJson (e : Entry) : ofJson? e.toJson = some e.reread := by
  have hrecord : e.toJson.record? form = some
      [("authority", .ofText e.authority),
        ("resource", .ofOption Json.ofText e.resource),
        ("client_id", .ofOption Json.ofText e.clientId),
        ("access_token", .ofOption Json.ofText e.accessToken),
        ("refresh_token", .ofOption Json.ofText e.refreshToken),
        ("raw_id_token", .ofOption Json.ofText e.rawIdToken),
        ("expires_on", .ofOption instantJson e.expiresOn),
        ("is_multi_resource_refresh_token", .bool e.isMultiResource),
        ("tenant_id", .ofOption Json.ofText e.tenantId),
        ("family_client_id", .ofOption Json.ofText e.familyClientId),
        ("user_info", .ofOption User.toJson e.user)] := by
    apply Json.record?_ofFields
    · simp [form]
    · simp
  have hread : ofJson? e.toJson = (do
      return ⟨← Json.text? (.ofText e.authority),
        ← Json.nullable Json.text? (.ofOption Json.ofText e.resource),
        ← Json.nullable Json.text? (.ofOption Json.ofText e.clientId),
        ← Json.nullable Json.text? (.ofOption Json.ofText e.accessToken),
        ← Json.nullable Json.text? (.ofOption Json.ofText e.refreshToken),
        ← Json.nullable Json.text? (.ofOption Json.ofText e.rawIdToken),
        ← Json.nullable instant? (.ofOption instantJson e.expiresOn),
        ← Json.bool? (.bool e.isMultiResource),
        ← Json.nullable Json.text? (.ofOption Json.ofText e.tenantId),
        ← Json.nullable Json.text? (.ofOption Json.ofText e.familyClientId),
        ← Json.nullable User.ofJson? (.ofOption User.toJson e.user)⟩) := by
    rw [ofJson?, hrecord]
    rfl
  rw [hread]
  simp only [Json.text?_ofText, nullable_text, nullable_instant, nullable_user]
  rfl

theorem denotable_of_ofJson? {json : Json} {e : Entry} (h : ofJson? json = some e) :
    e.Denotable := by
  intro expiry hexpiry
  simp only [ofJson?, Option.bind_eq_bind, Option.bind_eq_some_iff] at h
  obtain ⟨r, -, _, -, _, -, _, -, _, -, _, -, _, -, part, hpart, h⟩ := h
  obtain ⟨_, -, _, -, _, -, _, -, heq⟩ := h
  cases heq
  obtain rfl : part = some expiry := hexpiry
  obtain ⟨field, hfield⟩ := Json.Record.exists_of_nullable hpart
  obtain ⟨text, -, htext⟩ := Option.bind_eq_some_iff.1 hfield
  exact Time.Instant.denotable_of_ofString? htext

end Entry

end Token
end RealmTokens
