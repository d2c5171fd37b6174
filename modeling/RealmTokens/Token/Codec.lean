/-
Entries in JSON. Writing names every part in a fixed order, reading wants the authority only.
-/
import RealmTokens.Json.Decode
import RealmTokens.Time.InstantText
import RealmTokens.Token.Key

namespace RealmTokens
namespace Token

def instant? : Json.Decoder Time.Instant := fun json =>
  json.text?.bind Time.Instant.ofString?

def instantJson (t : Time.Instant) : Json := .ofText t.render

namespace User

def form : Json.RecordForm :=
  ⟨["user_id", "displayable_id", "given_name", "family_name", "identity_provider"], false⟩

def ofJson? : Json.Decoder User := fun json => do
  let r ← json.record? form
  return {
    userId := ← r.nullable "user_id" Json.text?
    displayableId := ← r.nullable "displayable_id" Json.text?
    givenName := ← r.nullable "given_name" Json.text?
    familyName := ← r.nullable "family_name" Json.text?
    identityProvider := ← r.nullable "identity_provider" Json.text? }

def toJson (u : User) : Json :=
  .ofFields
    [("user_id", .ofOption Json.ofText u.userId),
      ("displayable_id", .ofOption Json.ofText u.displayableId),
      ("given_name", .ofOption Json.ofText u.givenName),
      ("family_name", .ofOption Json.ofText u.familyName),
      ("identity_provider", .ofOption Json.ofText u.identityProvider)]

end User

namespace Entry

def form : Json.RecordForm :=
  ⟨["authority", "resource", "client_id", "access_token", "refresh_token", "raw_id_token",
    "expires_on", "is_multi_resource_refresh_token", "tenant_id", "family_client_id", "user_info"],
    false⟩

def ofJson? : Json.Decoder Entry := fun json => do
  let r ← json.record? form
  return {
    authority := ← r.required "authority" Json.text?
    resource := ← r.nullable "resource" Json.text?
    clientId := ← r.nullable "client_id" Json.text?
    accessToken := ← r.nullable "access_token" Json.text?
    refreshToken := ← r.nullable "refresh_token" Json.text?
    rawIdToken := ← r.nullable "raw_id_token" Json.text?
    expiresOn := ← r.nullable "expires_on" instant?
    isMultiResource := ← r.optional "is_multi_resource_refresh_token" Json.bool? false
    tenantId := ← r.nullable "tenant_id" Json.text?
    familyClientId := ← r.nullable "family_client_id" Json.text?
    user := ← r.nullable "user_info" User.ofJson? }

def toJson (e : Entry) : Json :=
  .ofFields
    [("authority", .ofText e.authority),
      ("resource", .ofOption Json.ofText e.resource),
      ("client_id", .ofOption Json.ofText e.clientId),
      ("access_token", .ofOption Json.ofText e.accessToken),
      ("refresh_token", .ofOption Json.ofText e.refreshToken),
      ("raw_id_token", .ofOption Json.ofText e.rawIdToken),
      ("expires_on", .ofOption instantJson e.expiresOn),
      ("is_multi_resource_refresh_token", .bool e.isMultiResource),
      ("tenant_id", .ofOption Json.ofText e.tenantId),
      ("family_client_id", .ofOption Json.ofText e.familyClientId),
      ("user_info", .ofOption User.toJson e.user)]

def ofString? (document : String) : Except Failure Entry :=
  match Json.decode? ofJson? document with
  | some e => .ok e
  | none => .error .undecodable

end Entry

namespace Key

def ofJson? : Json.Decoder Key := fun json => json.text?.map Key.mk

def ofString? (document : String) : Except Failure Key :=
  match Json.decode? ofJson? document with
  | some key => .ok key
  | none => .error .undecodable

end Key
end Token
end RealmTokens
