/-
WebFinger documents: what the host of an organisation says about an authority.
-/
import RealmTokens.Realm.Registration

namespace RealmTokens

structure Link where
  rel : Option String
  href : Option String
  deriving DecidableEq, Repr

structure WebFinger where
  subject : Option String
  links : Option (List Link)
  deriving DecidableEq, Repr

namespace Link

def form : Json.RecordForm := ⟨["rel", "href"], false⟩

def ofJson? : Json.Decoder Link := fun json => do
  let r ← json.record? form
  return { rel := ← r.nullable "rel" Json.text?, href := ← r.nullable "href" Json.text? }

end Link

namespace WebFinger

def form : Json.RecordForm := ⟨["subject", "links"], false⟩

def ofJson? : Json.Decoder WebFinger := fun json => do
  let r ← json.record? form
  return {
    subject := ← r.nullable "subject" Json.text?
    links := ← r.nullable "links" (Json.listOf Link.ofJson?) }

def ofString? (body : String) : Except Failure WebFinger :=
  Exchange.decodeBody .webFinger ofJson? body

/-- All links, none where the document does not list any. -/
def allLinks (w : WebFinger) : List Link := w.links.getD []

def path : String := "/.well-known/webfinger"

/-- The scheme, host and port that are asked about an authority. -/
def originText (endpoint : Url) (host : String) (requireHttps : Bool) : String :=
  if requireHttps then "https://" ++ host
  else
    match endpoint.port? with
    | some port => endpoint.scheme ++ "://" ++ host ++ ":" ++ toString port
    | none => endpoint.scheme ++ "://" ++ host

/-- The question about an authority, put to the host of an organisation's endpoint. -/
def url? (authority : Url) (registration : Registration) (requireHttps : Bool) :
    Except Failure Url := do
  let endpoint := registration.passiveEndpoint
  match endpoint.hostText? with
  | none => throw (.document .registration .endpointWithoutHost)
  | some host =>
      let origin ← Failure.ofUrl (Url.parse (originText endpoint host requireHttps))
      let base ← Failure.ofUrl (origin.join path)
      return base.appendPair "resource" authority.render

def request (client : Exchange.Client) (transport : Exchange.Transport) (authority : Url)
    (registration : Registration) : Exchange WebFinger := do
  let url ← url? authority registration client.requireHttps
  client.fetch transport .webFinger ofJson? url

end WebFinger
end RealmTokens
