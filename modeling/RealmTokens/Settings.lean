/-
Settings: how long before its expiry a token counts as expired, how requests are made, and which hosts
are asked about authorities.
-/
import RealmTokens.Domain.HostName
import RealmTokens.Failure
import RealmTokens.Json.Decode
import RealmTokens.Time.Span
import RealmTokens.Url.Parse

namespace RealmTokens

/-! ## Checks on URLs -/

namespace Url

/-- The name under which the host of a URL is compared. -/
def hostName? (u : Url) : Option String :=
  u.hostText?.bind HostName.canonical?

/-- Requests that need encryption accept no other scheme. -/
def enforceHttps (u : Url) : Except Failure Unit :=
  if u.scheme = "https" then .ok () else .error (.insecure u)

end Url

structure Settings where
  expirationBuffer : Time.Span
  requireHttps : Bool
  requestTimeout : Time.Span
  maxResponseBytes : Nat
  cloudResolver : Url
  discoveryHost : String
  trustedHosts : List String
  deriving DecidableEq, Repr

namespace Settings

def defaultExpirationBuffer : Time.Span := .ofSeconds 300

def defaultRequestTimeout : Time.Span := .ofSeconds 30

def minRequestTimeout : Time.Span := .ofMillis 100

def defaultMaxResponseBytes : Nat := 1048576

def defaultCloudResolver : Url :=
  ⟨"https", some ⟨"", "", some (.name "enterpriseregistration.windows.net"), none⟩,
    .segments [""], none, none⟩

def defaultDiscoveryHost : String := "login.microsoftonline.com"

def defaultTrustedHosts : List String :=
  ["login.windows.net", "login.microsoftonline.com", "login.chinacloudapi.cn",
    "login.microsoftonline.de", "login-us.microsoftonline.com", "login.microsoftonline.us"]

def standard : Settings :=
  ⟨defaultExpirationBuffer, true, defaultRequestTimeout, defaultMaxResponseBytes,
    defaultCloudResolver, defaultDiscoveryHost, defaultTrustedHosts⟩

/-! ## Changes -/

def withExpirationBuffer (s : Settings) (buffer : Time.Span) : Settings :=
  { s with expirationBuffer := buffer }

def withRequireHttps (s : Settings) (required : Bool) : Settings :=
  { s with requireHttps := required }

def withRequestTimeout (s : Settings) (timeout : Time.Span) : Settings :=
  { s with requestTimeout := timeout }

def withCloudResolver (s : Settings) (resolver : String) : Except Failure Settings := do
  return { s with cloudResolver := ← Failure.ofUrl (Url.parse resolver) }

def withDiscoveryHost (s : Settings) (host : String) : Settings :=
  { s with discoveryHost := host }

def withTrustedHosts (s : Settings) (hosts : List String) : Settings :=
  { s with trustedHosts := HostName.normalize hosts }

/-! ## Decisions -/

/-- Whether a host may answer questions about itself. -/
def trusts (s : Settings) (host : String) : Bool :=
  match HostName.canonical? host with
  | none => false
  | some host => s.trustedHosts.contains host

/-- The first setting that is out of its bounds is refused. -/
def validate (s : Settings) : Except Failure Unit := do
  if s.requestTimeout < minRequestTimeout then throw (.argument .requestTimeout .tooShort)
  if s.maxResponseBytes = 0 then throw (.argument .maxResponseBytes .zero)
  if s.requireHttps then s.cloudResolver.enforceHttps
  if s.cloudResolver.hostText?.isNone then throw (.argument .cloudResolver .withoutHost)
  if s.cloudResolver.pathText.toList.getLast? ≠ some '/' then
    throw (.argument .cloudResolver .openPath)
  if (HostName.canonical? s.discoveryHost).isNone then
    throw (.argument .discoveryHost .notHostName)
  if s.trustedHosts.any (fun host => HostName.canonical? host != some host) then
    throw (.argument .trustedHosts .notCanonical)

/-! ## JSON -/

def spanForm : Json.RecordForm := ⟨["secs", "nanos"], true⟩

def span? : Json.Decoder Time.Span := fun json => do
  let r ← json.record? spanForm
  let seconds ← r.required "secs" (Json.nat? Json.maxNat64)
  let nanos ← r.required "nanos" (Json.nat? Json.maxNat32)
  Time.Span.ofParts? seconds nanos

def spanJson (s : Time.Span) : Json :=
  .ofFields [("secs", .ofNat s.seconds), ("nanos", .ofNat s.nanos)]

def url? : Json.Decoder Url := fun json =>
  json.text?.bind (fun s => (Url.parse s).toOption)

def form : Json.RecordForm :=
  ⟨["expiration_buffer", "require_https", "request_timeout", "max_response_bytes",
    "drs_cloud_resolver", "instance_discovery_host", "trusted_authority_hosts"], false⟩

/-- Settings that are not given keep their standard values. -/
def ofJson? : Json.Decoder Settings := fun json => do
  let r ← json.record? form
  return {
    expirationBuffer := ← r.optional "expiration_buffer" span? defaultExpirationBuffer
    requireHttps := ← r.optional "require_https" Json.bool? true
    requestTimeout := ← r.optional "request_timeout" span? defaultRequestTimeout
    maxResponseBytes :=
      ← r.optional "max_response_bytes" (Json.nat? Json.maxNat64) defaultMaxResponseBytes
    cloudResolver := ← r.optional "drs_cloud_resolver" url? defaultCloudResolver
    discoveryHost := ← r.optional "instance_discovery_host" Json.text? defaultDiscoveryHost
    trustedHosts :=
      ← r.optional "trusted_authority_hosts"
        (fun hosts => (Json.listOf Json.text? hosts).map HostName.normalize) defaultTrustedHosts }

def toJson (s : Settings) : Json :=
  .ofFields
    [("expiration_buffer", spanJson s.expirationBuffer),
      ("require_https", .bool s.requireHttps),
      ("request_timeout", spanJson s.requestTimeout),
      ("max_response_bytes", .ofNat s.maxResponseBytes),
      ("drs_cloud_resolver", .ofText s.cloudResolver.render),
      ("instance_discovery_host", .ofText s.discoveryHost),
      ("trusted_authority_hosts", .list (s.trustedHosts.map Json.ofText))]

def ofString? (document : String) : Except Failure Settings :=
  match Json.decode? ofJson? document with
  | some s => .ok s
  | none => .error .undecodable

end Settings
end RealmTokens
