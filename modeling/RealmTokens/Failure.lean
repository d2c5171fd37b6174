/-
Everything that can go wrong, by its cause. The wording is in `Failure.message` alone.
-/
import RealmTokens.Disk.Fault
import RealmTokens.Exchange.Status
import RealmTokens.Text.Quoted
import RealmTokens.Url.Basic

namespace RealmTokens

/-- Arguments and settings that can be refused. -/
inductive Field where
  | authority
  | resource
  | clientId
  | familyClientId
  | path
  | domain
  | host
  | authorityHost
  | requestTimeout
  | maxResponseBytes
  | cloudResolver
  | discoveryHost
  | trustedHosts
  deriving DecidableEq, Repr

def Field.name : Field → String
  | .authority => "authority"
  | .resource => "resource"
  | .clientId => "client_id"
  | .familyClientId => "family_client_id"
  | .path => "path"
  | .domain => "domain"
  | .host => "host"
  | .authorityHost => "authority_host"
  | .requestTimeout => "request_timeout"
  | .maxResponseBytes => "max_response_bytes"
  | .cloudResolver => "drs_cloud_resolver"
  | .discoveryHost => "instance_discovery_host"
  | .trustedHosts => "trusted_authority_hosts"

/-- Why an argument or a setting is refused. -/
inductive Refusal where
  | blank
  | noFileName
  | notDnsName
  | tooShort
  | zero
  | withoutHost
  | openPath
  | notHostName
  | notCanonical
  deriving DecidableEq, Repr

def Refusal.message : Refusal → String
  | .blank => "Must not be blank."
  | .noFileName => "Must name a file."
  | .notDnsName => "Must be a DNS name."
  | .tooShort => "Must be at least 100 ms."
  | .zero => "Must be greater than zero."
  | .withoutHost => "Must include a host component."
  | .openPath => "Path must end with '/' so the domain can be appended."
  | .notHostName => "Must be a non-empty hostname."
  | .notCanonical => "Entries must be canonical hostnames (lowercase, no trailing dot)."

inductive Document where
  | discovery
  | registration
  | webFinger
  deriving DecidableEq, Repr

def Document.name : Document → String
  | .discovery => "instance discovery"
  | .registration => "DRS metadata"
  | .webFinger => "WebFinger"

inductive DocumentDefect where
  | undecodable
  | incompleteCluster
  | endpointWithoutHost
  deriving DecidableEq, Repr

def DocumentDefect.message : DocumentDefect → String
  | .undecodable => "document does not have the expected form"
  | .incompleteCluster => "cluster descriptor without aliases or preferred hosts"
  | .endpointWithoutHost => "passive auth endpoint has no host"

inductive SnapshotDefect where
  | unreadable
  | version (found expected : Nat)
  deriving DecidableEq, Repr

def SnapshotDefect.message : SnapshotDefect → String
  | .unreadable => "snapshot cannot be read"
  | .version found expected =>
      "unsupported snapshot version " ++ toString found ++ " (expected " ++ toString expected ++ ")"

inductive AuthorityDefect where
  | notHttps
  | queryOrFragment
  | noTenant
  | noHost
  | unrecognised
  | noEntry
  | rejected (codes : List Int) (description : String)
  deriving DecidableEq, Repr

def AuthorityDefect.message : AuthorityDefect → String
  | .notHttps => "Authority must use HTTPS."
  | .queryOrFragment => "Authority must not carry a query or fragment."
  | .noTenant => "Authority must include a tenant path."
  | .noHost => "Authority must include a host."
  | .unrecognised => "Instance discovery does not recognise the authority host."
  | .noEntry => "Instance discovery produced no entry for the host."
  | .rejected codes description =>
      "Instance discovery failed with error codes [" ++ ", ".intercalate (codes.map toString) ++
        "]: " ++ description

inductive Failure where
  | disk (fault : Disk.Fault)
  | undecodable
  | url (fault : Url.Fault)
  | corruptSnapshot (path : String) (defect : SnapshotDefect)
  | hostUnresolved (host : String)
  | status (code : Status) (source : Url) (body : Option String)
  | argument (field : Field) (refusal : Refusal)
  | authority (name : String) (defect : AuthorityDefect)
  | fetch (source : Url) (reason : String)
  | document (kind : Document) (defect : DocumentDefect)
  | insecure (source : Url)
  deriving DecidableEq, Repr

namespace Failure

def message : Failure → String
  | .disk fault => fault.message
  | .undecodable => "text does not have the expected form"
  | .url fault => fault.message
  | .corruptSnapshot path defect =>
      "Persisted token cache at " ++ Text.Quoted.encode path ++ " cannot be loaded: " ++
        defect.message
  | .hostUnresolved host => "Host '" ++ host ++ "' could not be resolved."
  | .status code source body =>
      "Upstream HTTP status " ++ code.render ++ " from " ++ source.render ++ ": " ++
        Text.Quoted.encodeOption body
  | .argument field refusal => "Invalid argument " ++ field.name ++ ": " ++ refusal.message
  | .authority name defect =>
      "Authority " ++ name ++ " is not a valid instance: " ++ defect.message
  | .fetch source reason => "Metadata fetch from " ++ source.render ++ " failed: " ++ reason
  | .document kind defect => "Malformed " ++ kind.name ++ " document: " ++ defect.message
  | .insecure source => "Security violation: Upstream URL " ++ source.render ++ " must use HTTPS."

def isFetch : Failure → Bool
  | .hostUnresolved _ | .status _ _ _ | .fetch _ _ => true
  | _ => false

def isParse : Failure → Bool
  | .undecodable | .document _ _ | .corruptSnapshot _ _ => true
  | _ => false

/-- A URL of a text, with the failure that goes with it. -/
def ofUrl {α : Type} : Except Url.Fault α → Except Failure α
  | .ok u => .ok u
  | .error fault => .error (.url fault)

end Failure
end RealmTokens
