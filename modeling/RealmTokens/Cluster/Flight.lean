/-
Validations that run at the same time. Each one looks its host up, and waits for its turn if it does not
find it. The one whose turn it is looks again before it asks, files the answer, and gives the turn back
when it ends. Between any two of these steps other validations may take theirs.
-/
import RealmTokens.Cluster.Validation

namespace RealmTokens

/-- How far a validation has come. -/
inductive Phase where
  | ready
  /-- The first lookup found nothing. -/
  | waiting (host : String)
  | holding (host : String)
  /-- The second lookup found nothing either. -/
  | unfiled (host : String)
  /-- A request is on its way, the newest of these. -/
  | asking (host : String) (sent : Exchange.Session)
  | answered (host : String) (document : Except Failure DiscoveryDocument)
  | filed (host : String)
  | completed (host : String)
  /-- The result is there, and the turn is still to be given back. -/
  | leaving (result : Except Failure SharedCluster)
  | done (result : Except Failure SharedCluster)

structure Call where
  authority : Url
  phase : Phase

/-- Calls under way, what they share, and whose turn it is. -/
structure Flight where
  calls : List Call
  turn : Option Nat
  directory : Directory
  session : Exchange.Session

namespace Flight

def start (authorities : List Url) (directory : Directory) (session : Exchange.Session) : Flight :=
  ⟨authorities.map (fun authority => ⟨authority, .ready⟩), none, directory, session⟩

/-- What one step of a call leaves: the call's next phase, and what all calls share. -/
structure Move where
  phase : Phase
  turn : Option Nat
  directory : Directory
  session : Exchange.Session

namespace Move

/-- A step that nobody but its call notices. -/
def quiet (f : Flight) (phase : Phase) : Move := ⟨phase, f.turn, f.directory, f.session⟩

/-- The first lookup. -/
def look (f : Flight) (authority : Url) : Move :=
  match authority.authorityHost? with
  | .error failure => quiet f (.done (.error failure))
  | .ok host =>
      match f.directory.get? host with
      | some shared => quiet f (.done (Validator.verdict authority shared))
      | none => quiet f (.waiting host)

/-- A call that waits stays where it is until the turn is free. -/
def take (f : Flight) (i : Nat) (host : String) : Move :=
  match f.turn with
  | some _ => quiet f (.waiting host)
  | none => ⟨.holding host, some i, f.directory, f.session⟩

/-- The second lookup. -/
def lookAgain (f : Flight) (authority : Url) (host : String) : Move :=
  match f.directory.get? host with
  | some shared => quiet f (.leaving (Validator.verdict authority shared))
  | none => quiet f (.unfiled host)

def ask (v : Validator) (f : Flight) (host : String) : Move :=
  match v.request? host with
  | .error failure => quiet f (.leaving (.error failure))
  | .ok request =>
      ⟨.asking host (request :: f.session), f.turn, f.directory, request :: f.session⟩

/-- Goes on with a directory, or ends without one. -/
def fileAs (f : Flight) (phase : Phase) : Except Failure Directory → Move
  | .error failure => quiet f (.leaving (.error failure))
  | .ok directory => ⟨phase, f.turn, directory, f.session⟩

/-- The next step of the call at place `i`. -/
def next (v : Validator) (transport : Exchange.Transport) (f : Flight) (i : Nat) (call : Call) :
    Move :=
  match call.phase with
  | .ready => look f call.authority
  | .waiting host => take f i host
  | .holding host => lookAgain f call.authority host
  | .unfiled host => ask v f host
  | .asking host sent =>
      quiet f (.answered host ((transport sent).bind (v.query host).document?))
  | .answered host document =>
      fileAs f (.filed host) (document.bind (f.directory.ingest? host))
  | .filed host => fileAs f (.completed host) (Validator.complete? f.directory host)
  | .completed host => quiet f (.leaving (Validator.conclude call.authority host f.directory))
  | .leaving result => ⟨.done result, none, f.directory, f.session⟩
  | .done result => quiet f (.done result)

end Move

/-- The next step of one call. -/
def step (v : Validator) (transport : Exchange.Transport) (f : Flight) (i : Nat) : Flight :=
  match f.calls[i]? with
  | none => f
  | some call =>
      let m := Move.next v transport f i call
      ⟨f.calls.set i ⟨call.authority, m.phase⟩, m.turn, m.directory, m.session⟩

def run (v : Validator) (transport : Exchange.Transport) (f : Flight) (schedule : List Nat) :
    Flight :=
  schedule.foldl (step v transport) f

/-- The most steps that a call takes behind its first lookup. -/
def stepsPerTurn : Nat := 8

/-- All calls begin before one of them goes on, and get their turns in the order they began. -/
def queue (count : Nat) : List Nat :=
  List.range count ++ (List.range count).flatMap (fun i => List.replicate stepsPerTurn i)

def results (f : Flight) : List (Option (Except Failure SharedCluster)) :=
  f.calls.map (fun call =>
    match call.phase with
    | .done result => some result
    | _ => none)

end Flight
end RealmTokens
