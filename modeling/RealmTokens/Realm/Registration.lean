/-
Registration documents of organisations. The organisation's own host is asked first, and the public
resolver only when that host cannot be found.
-/
import RealmTokens.Exchange.Client
import RealmTokens.Domain.HostName
import RealmTokens.Url.Edit

namespace RealmTokens

/-- What an organisation registers: where its users sign in. -/
structure Registration where
  passiveEndpoint : Url
  deriving DecidableEq, Repr

namespace Registration

def providerForm : Json.RecordForm := ⟨["PassiveAuthEndpoint"], false⟩

def form : Json.RecordForm := ⟨["IdentityProviderService"], false⟩

def provider? : Json.Decoder Url := fun json => do
  (← json.record? providerForm).required "PassiveAuthEndpoint" Settings.url?

def ofJson? : Json.Decoder Registration := fun json => do
  return ⟨← (← json.record? form).required "IdentityProviderService" provider?⟩

def ofString? (body : String) : Except Failure Registration :=
  Exchange.decodeBody .registration ofJson? body

end Registration

/-- Who is asked for a registration. -/
inductive Resolution where
  | onPremises
  | cloud
  deriving DecidableEq, Repr

namespace Resolution

def name : Resolution → String
  | .onPremises => "on-prem"
  | .cloud => "cloud"

/-- Who is asked when this host cannot be found. -/
def fallback? : Resolution → Option Resolution
  | .onPremises => some .cloud
  | .cloud => none

def hostMark : String := "enterpriseregistration."

def contractPath : String := "enrollmentserver/contract"

def url? (r : Resolution) (domain : String) (cloudResolver : Url) : Except Failure Url := do
  let base ←
    Failure.ofUrl
      (match r with
        | .onPremises => Url.parse ("https://" ++ hostMark ++ domain ++ "/" ++ contractPath)
        | .cloud => cloudResolver.join (domain ++ "/" ++ contractPath))
  return base.appendPair "api-version" "1.0"

end Resolution

/-- How the question to one host ends. -/
inductive Leg where
  | resolved (registration : Registration)
  | hostUnresolved
  | failed (failure : Failure)
  deriving DecidableEq, Repr

def Leg.ofResult : Except Failure Registration → Leg
  | .ok registration => .resolved registration
  | .error (.hostUnresolved _) => .hostUnresolved
  | .error failure => .failed failure

structure Registrar where
  client : Exchange.Client
  cloudResolver : Url
  deriving DecidableEq, Repr

namespace Registrar

/-- The compared form of a domain, which has letters, digits, hyphens and dots only. -/
def domain? (domain : String) : Except Failure String :=
  match HostName.canonical? domain with
  | none => .error (.argument .domain .blank)
  | some name =>
      if name.toList.all (fun c => c.isAlphanum || c == '.' || c == '-') then .ok name
      else .error (.argument .domain .notDnsName)

def fetch (r : Registrar) (transport : Exchange.Transport) (resolution : Resolution)
    (domain : String) : Exchange Registration := do
  let url ← resolution.url? domain r.cloudResolver
  r.client.fetch transport .registration Registration.ofJson? url

def leg (r : Registrar) (transport : Exchange.Transport) (resolution : Resolution)
    (domain : String) : Exchange Leg :=
  ExceptT.mk (fun session =>
    let fetched := r.fetch transport resolution domain session
    (.ok (Leg.ofResult fetched.1), fetched.2))

def unresolvedReason : String := "DRS discovery failed: host could not be resolved."

/-- The failure of a search that no host could be found for. -/
def unresolved (r : Registrar) (resolution : Resolution) (domain : String) : Failure :=
  match resolution.url? domain r.cloudResolver with
  | .ok url => .fetch url unresolvedReason
  | .error failure => failure

/-- Asks the public resolver, which has nobody behind it. -/
def discoverInCloud (r : Registrar) (transport : Exchange.Transport) (domain : String) :
    Exchange Registration := do
  match ← r.leg transport .cloud domain with
  | .resolved registration => return registration
  | .failed failure => throw failure
  | .hostUnresolved => throw (r.unresolved .cloud domain)

def discover (r : Registrar) (transport : Exchange.Transport) (domain : String) :
    Exchange Registration := do
  let domain ← domain? domain
  match ← r.leg transport .onPremises domain with
  | .resolved registration => return registration
  | .failed failure => throw failure
  | .hostUnresolved => r.discoverInCloud transport domain

end Registrar
end RealmTokens
