/-
Which hosts belong to one cluster. All hosts of a cluster are filed under one shared entry, which has a
number of its own.
-/
import RealmTokens.Cluster.Discovery
import RealmTokens.Domain.HostName

namespace RealmTokens

/-- What is known about a host: the cluster it belongs to, or that no instance recognises it. -/
structure Cluster where
  preferredNetwork : Option String
  preferredCache : Option String
  aliases : List String
  validated : Bool
  deriving DecidableEq, Repr

namespace Cluster

/-- What is known about a host that no instance recognises. -/
def unrecognised : Cluster := ⟨none, none, [], false⟩

def ofHosts (network cache : String) (aliases : List String) : Cluster :=
  ⟨HostName.canonical? network, HostName.canonical? cache, HostName.normalize aliases, true⟩

/-- A host that is a cluster by itself. -/
def single (host : String) : Cluster := ofHosts host host [host]

/-- The cluster of a description, which must name both preferred hosts and at least one alias. -/
def ofDescription? (d : ClusterDescription) : Except Failure Cluster :=
  let cluster := ofHosts d.preferredNetwork d.preferredCache d.aliases
  if cluster.aliases.isEmpty || cluster.preferredNetwork.isNone || cluster.preferredCache.isNone then
    .error (.document .discovery .incompleteCluster)
  else .ok cluster

end Cluster

/-- A cluster together with the number under which it is shared. -/
structure SharedCluster where
  number : Nat
  cluster : Cluster
  deriving DecidableEq, Repr

/-- Entries by host. Numbers from `next` on are free. -/
structure Directory where
  entries : List (String × SharedCluster)
  next : Nat
  deriving DecidableEq, Repr

namespace Directory

def empty : Directory := ⟨[], 0⟩

/-! ## Reading -/

/-- The entry under a name in its compared form. -/
def entry? (d : Directory) (host : String) : Option SharedCluster :=
  d.entries.lookup host

/-- The entry of a host, however it is spelled. -/
def get? (d : Directory) (host : String) : Option SharedCluster :=
  (HostName.canonical? host).bind d.entry?

def contains (d : Directory) (host : String) : Bool := (d.get? host).isSome

def isValidated (d : Directory) (host : String) : Bool :=
  (d.get? host).any (fun shared => shared.cluster.validated)

def aliases (d : Directory) (host : String) : List String :=
  ((d.get? host).map (fun shared => shared.cluster.aliases)).getD []

def size (d : Directory) : Nat := d.entries.length

/-! ## Changes -/

/-- Files an entry under a name, in place of an earlier one. -/
def put (entries : List (String × SharedCluster)) (host : String) (shared : SharedCluster) :
    List (String × SharedCluster) :=
  (host, shared) :: entries.filter (fun entry => entry.1 ≠ host)

/-- Files one shared entry under all these names. -/
def file (d : Directory) (hosts : List String) (cluster : Cluster) : Directory :=
  ⟨hosts.foldl (fun entries host => put entries host ⟨d.next, cluster⟩) d.entries, d.next + 1⟩

abbrev Plan := List (List String × Cluster)

/-- What a document about `host` says. All clusters are checked before any is filed. -/
def plan? (host : String) (document : DiscoveryDocument) : Except Failure Plan :=
  if !document.recognises then .ok [([host], Cluster.unrecognised)]
  else
    match document.clusters with
    | none | some [] => .ok [([host], Cluster.single host)]
    | some descriptions =>
        (descriptions.mapM Cluster.ofDescription?).map (fun clusters =>
          clusters.map (fun cluster => (cluster.aliases, cluster)))

def apply (d : Directory) (plan : Plan) : Directory :=
  plan.foldl (fun d step => d.file step.1 step.2) d

def ingest? (d : Directory) (host : String) (document : DiscoveryDocument) :
    Except Failure Directory := do
  match HostName.canonical? host with
  | none => throw (.argument .authorityHost .blank)
  | some host => return d.apply (← plan? host document)

def ingestBody? (d : Directory) (host body : String) : Except Failure Directory := do
  d.ingest? host (← DiscoveryDocument.ofString? body)

/-- Files a cluster for one host without asking anybody. -/
def update? (d : Directory) (host : String) (cluster : Cluster) : Except Failure Directory :=
  match HostName.canonical? host with
  | none => .error (.argument .host .blank)
  | some host => .ok (d.file [host] cluster)

/-- A directory without entries. Numbers that were given out are not used again. -/
def clear (d : Directory) : Directory := ⟨[], d.next⟩

/-! ## Preferred hosts -/

/-- The host under which the tokens of a host's cluster are kept. -/
def preferredCache? (d : Directory) (host : String) : Option String :=
  ((d.get? host).filter (fun shared => shared.cluster.validated)).bind
    (fun shared => shared.cluster.preferredCache)

/-- An authority at the preferred host of its cluster. Outside a cluster it stays as it is. -/
def preferredAuthority? (d : Directory) (authority : Url) : Except Failure Url :=
  match authority.hostName? with
  | none => .ok authority
  | some host =>
      match d.preferredCache? host with
      | none => .ok authority
      | some preferred =>
          if preferred = host then .ok authority
          else Failure.ofUrl (authority.withHost preferred)

end Directory
end RealmTokens
