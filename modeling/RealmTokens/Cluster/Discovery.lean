/-
Instance discovery: the question whether a host is an authority, and the document that answers it.
-/
import RealmTokens.Exchange.Client
import RealmTokens.Text.Blank
import RealmTokens.Url.Edit

namespace RealmTokens

structure ClusterDescription where
  preferredNetwork : String
  preferredCache : String
  aliases : List String
  deriving DecidableEq, Repr

structure DiscoveryDocument where
  tenantEndpoint : Option String
  clusters : Option (List ClusterDescription)
  error : Option String
  errorDescription : Option String
  errorCodes : Option (List Int)
  deriving DecidableEq, Repr

namespace ClusterDescription

def form : Json.RecordForm := ⟨["preferred_network", "preferred_cache", "aliases"], false⟩

def ofJson? : Json.Decoder ClusterDescription := fun json => do
  let r ← json.record? form
  return {
    preferredNetwork := ← r.required "preferred_network" Json.text?
    preferredCache := ← r.required "preferred_cache" Json.text?
    aliases := ← r.required "aliases" (Json.listOf Json.text?) }

end ClusterDescription

namespace DiscoveryDocument

def form : Json.RecordForm :=
  ⟨["tenant_discovery_endpoint", "metadata", "error", "error_description", "error_codes"], false⟩

def ofJson? : Json.Decoder DiscoveryDocument := fun json => do
  let r ← json.record? form
  return {
    tenantEndpoint := ← r.nullable "tenant_discovery_endpoint" Json.text?
    clusters := ← r.nullable "metadata" (Json.listOf ClusterDescription.ofJson?)
    error := ← r.nullable "error" Json.text?
    errorDescription := ← r.nullable "error_description" Json.text?
    errorCodes := ← r.nullable "error_codes" (Json.listOf Json.int64?) }

def ofString? (body : String) : Except Failure DiscoveryDocument :=
  Exchange.decodeBody .discovery ofJson? body

/-- Whether the document says that the host is an authority. -/
def recognises (d : DiscoveryDocument) : Bool :=
  match d.tenantEndpoint with
  | none => false
  | some endpoint => !Text.blank endpoint

end DiscoveryDocument

/-- The question about `subject`, put to `trusted`. -/
structure DiscoveryQuery where
  trusted : String
  subject : String
  deriving DecidableEq, Repr

namespace DiscoveryQuery

def path : String := "/common/discovery/instance"

def authorizePath : String := "/common/oauth2/authorize"

def url? (q : DiscoveryQuery) : Except Failure Url := do
  let base ← Failure.ofUrl (Url.parse ("https://" ++ q.trusted ++ path))
  return (base.appendPair "api-version" "1.1").appendPair "authorization_endpoint"
    ("https://" ++ q.subject ++ authorizePath)

/-- The document of a response. A refusal that explains itself comes with the status 400. -/
def document? (q : DiscoveryQuery) (r : Exchange.Response) : Except Failure DiscoveryDocument := do
  if r.status ≠ Status.badRequest then r.ensureOk
  match DiscoveryDocument.ofString? r.body with
  | .error failure =>
      if r.status = Status.badRequest then throw r.failure else throw failure
  | .ok document =>
      match document.errorCodes with
      | some (code :: codes) =>
          throw (.authority q.subject
            (.rejected (code :: codes) (document.errorDescription.getD "")))
      | _ => if r.status = Status.ok then return document else throw r.failure

def ask (q : DiscoveryQuery) (client : Exchange.Client) (transport : Exchange.Transport) :
    Exchange DiscoveryDocument := do
  let url ← q.url?
  let response ← client.get transport url
  q.document? response

end DiscoveryQuery
end RealmTokens
