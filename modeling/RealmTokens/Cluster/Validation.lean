/-
Whether the host of an authority is recognised. The directory answers for hosts it knows, negative
answers included. About any other host one question is asked, and the directory keeps the answer.
-/
import RealmTokens.Cluster.Directory

namespace RealmTokens

namespace Url

/-- The path without its slashes at both ends. -/
def tenantText (u : Url) : List Char :=
  Text.dropEndWhile (· == '/') (u.pathText.toList.dropWhile (· == '/'))

/-- The host of an authority, which is an encrypted URL with a tenant and nothing behind its path. -/
def authorityHost? (u : Url) : Except Failure String := do
  if u.scheme ≠ "https" then throw (.authority u.render .notHttps)
  if u.query.isSome || u.fragment.isSome then throw (.authority u.render .queryOrFragment)
  if u.tenantText.isEmpty then throw (.authority u.render .noTenant)
  match u.hostName? with
  | none => throw (.authority u.render .noHost)
  | some host => return host

end Url

/-- What every validation needs: the request policy and the settings. -/
structure Validator where
  client : Exchange.Client
  settings : Settings
  deriving DecidableEq, Repr

namespace Validator

/-- The answer that an entry gives about an authority. -/
def verdict (authority : Url) (shared : SharedCluster) : Except Failure SharedCluster :=
  if shared.cluster.validated then .ok shared
  else .error (.authority authority.render .unrecognised)

/-- The host that is asked about another one. Trusted hosts answer for themselves. -/
def trustedHost (s : Settings) (host : String) : String :=
  if s.trusts host then host else (HostName.canonical? s.discoveryHost).getD s.discoveryHost

def query (v : Validator) (host : String) : DiscoveryQuery :=
  ⟨trustedHost v.settings host, host⟩

/-- The request about a host, unless it has no URL or the policy refuses it. -/
def request? (v : Validator) (host : String) : Except Failure Exchange.Request := do
  let url ← (v.query host).url?
  if v.client.requireHttps then url.enforceHttps
  return v.client.request url

/-- The answer about an authority whose host is filed. -/
def conclude (authority : Url) (host : String) (directory : Directory) :
    Except Failure SharedCluster :=
  match directory.get? host with
  | none => .error (.authority authority.render .noEntry)
  | some shared => verdict authority shared

/-- Files a host as a cluster by itself where a document has left it out. -/
def complete? (directory : Directory) (host : String) : Except Failure Directory :=
  if directory.contains host then .ok directory else directory.update? host (Cluster.single host)

structure Outcome where
  result : Except Failure SharedCluster
  directory : Directory

def settle (authority : Url) (host : String) (directory : Directory)
    (document : Except Failure DiscoveryDocument) : Outcome :=
  match document with
  | .error failure => ⟨.error failure, directory⟩
  | .ok document =>
      match directory.ingest? host document with
      | .error failure => ⟨.error failure, directory⟩
      | .ok filed =>
          match complete? filed host with
          | .error failure => ⟨.error failure, filed⟩
          | .ok filed => ⟨conclude authority host filed, filed⟩

/-- Answers from the directory, or asks and files the answer. -/
def answer (v : Validator) (transport : Exchange.Transport) (authority : Url) (host : String)
    (directory : Directory) (session : Exchange.Session) : Outcome × Exchange.Session :=
  match directory.get? host with
  | some shared => (⟨verdict authority shared, directory⟩, session)
  | none =>
      let asked := (v.query host).ask v.client transport session
      (settle authority host directory asked.1, asked.2)

def validate (v : Validator) (transport : Exchange.Transport) (directory : Directory)
    (authority : Url) (session : Exchange.Session) : Outcome × Exchange.Session :=
  match authority.authorityHost? with
  | .error failure => (⟨.error failure, directory⟩, session)
  | .ok host => v.answer transport authority host directory session

end Validator
end RealmTokens
