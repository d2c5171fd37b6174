/-
A call alone.

Main statement: a validation taken step by step, with nobody beside it, comes to the same result,
directory and requests as the validation in one piece.
-/
import RealmTokens.Proofs.Cluster.SingleFlight

namespace RealmTokens
namespace Flight

open Exchange (Transport Request)

variable (v : Validator) (transport : Transport) (authority : Url) (host : String)
  (directory : Directory) (session : Exchange.Session)

/-- A flight of one call. -/
def alone (phase : Phase) (turn : Option Nat) : Flight :=
  ⟨[⟨authority, phase⟩], turn, directory, session⟩

/-- The flight of one call behind a step. -/
def moved (m : Move) : Flight := alone authority m.directory m.session m.phase m.turn

theorem run_succ (phase : Phase) (turn : Option Nat) (n : Nat) :
    run v transport (alone authority directory session phase turn) (List.replicate (n + 1) 0) =
      run v transport
        (moved authority (Move.next v transport (alone authority directory session phase turn) 0
          ⟨authority, phase⟩))
        (List.replicate n 0) :=
  rfl

-- The phases from the last one backwards, since a run from one of them goes on as a run from the next.
theorem run_done (result : Except Failure SharedCluster) (turn : Option Nat) (n : Nat) :
    run v transport (alone authority directory session (.done result) turn) (List.replicate n 0) =
      alone authority directory session (.done result) turn := by
  induction n with
  | zero => rfl
  | succ n ih => exact ih

theorem run_leaving (result : Except Failure SharedCluster) (n : Nat) :
    run v transport (alone authority directory session (.leaving result) (some 0))
        (List.replicate (n + 1) 0) =
      alone authority directory session (.done result) none :=
  run_done v transport authority directory session result none n

theorem next_filed (turn : Option Nat) :
    Move.next v transport (alone authority directory session (.filed host) turn) 0
        ⟨authority, .filed host⟩ =
      Move.fileAs (alone authority directory session (.filed host) turn) (.completed host)
        (Validator.complete? directory host) :=
  rfl

theorem run_filed (n : Nat) :
    run v transport (alone authority directory session (.filed host) (some 0))
        (List.replicate (n + 3) 0) =
      match Validator.complete? directory host with
      | .error failure => alone authority directory session (.done (.error failure)) none
      | .ok later =>
          alone authority later session (.done (Validator.conclude authority host later)) none := by
  rw [run_succ, next_filed]
  cases Validator.complete? directory host with
  | error failure =>
      exact run_leaving v transport authority directory session (.error failure) (n + 1)
  | ok later =>
      exact run_leaving v transport authority later session
        (Validator.conclude authority host later) n

theorem next_answered (document : Except Failure DiscoveryDocument) (turn : Option Nat) :
    Move.next v transport (alone authority directory session (.answered host document) turn) 0
        ⟨authority, .answered host document⟩ =
      Move.fileAs (alone authority directory session (.answered host document) turn) (.filed host)
        (document.bind (directory.ingest? host)) :=
  rfl

theorem run_answered (document : Except Failure DiscoveryDocument) (n : Nat) :
    let outcome := Validator.settle authority host directory document
    run v transport (alone authority directory session (.answered host document) (some 0))
        (List.replicate (n + 4) 0) =
      alone authority outcome.directory session (.done outcome.result) none := by
  intro outcome
  rw [run_succ, next_answered]
  cases document with
  | error failure =>
      exact run_leaving v transport authority directory session (.error failure) (n + 2)
  | ok answer =>
      have hbind : (Except.ok answer : Except Failure DiscoveryDocument).bind
          (directory.ingest? host) = directory.ingest? host answer := rfl
      rw [hbind]
      cases ingested : directory.ingest? host answer with
      | error failure =>
          have hsettle : outcome = ⟨.error failure, directory⟩ := by
            simp only [outcome, Validator.settle, ingested]
          rw [hsettle]
          exact run_leaving v transport authority directory session (.error failure) (n + 2)
      | ok later =>
          have hfiled := run_filed v transport authority host later session n
          cases completed : Validator.complete? later host with
          | error failure =>
              have hsettle : outcome = ⟨.error failure, later⟩ := by
                simp only [outcome, Validator.settle, ingested, completed]
              rw [completed] at hfiled
              rw [hsettle]
              exact hfiled
          | ok filed =>
              have hsettle : outcome = ⟨Validator.conclude authority host filed, filed⟩ := by
                simp only [outcome, Validator.settle, ingested, completed]
              rw [completed] at hfiled
              rw [hsettle]
              exact hfiled

theorem next_unfiled_of_refused {failure : Failure} (turn : Option Nat)
    (refused : v.request? host = .error failure) :
    Move.next v transport (alone authority directory session (.unfiled host) turn) 0
        ⟨authority, .unfiled host⟩ =
      ⟨.leaving (.error failure), turn, directory, session⟩ := by
  have hask : Move.ask v (alone authority directory session (.unfiled host) turn) host =
      ⟨.leaving (.error failure), turn, directory, session⟩ := by
    unfold Move.ask
    rw [refused]
    rfl
  exact hask

theorem next_unfiled_of_asked {request : Request} (turn : Option Nat)
    (asked : v.request? host = .ok request) :
    Move.next v transport (alone authority directory session (.unfiled host) turn) 0
        ⟨authority, .unfiled host⟩ =
      ⟨.asking host (request :: session), turn, directory, request :: session⟩ := by
  have hask : Move.ask v (alone authority directory session (.unfiled host) turn) host =
    ⟨.asking host (request :: session), turn, directory, request :: session⟩ := ask_of_asked asked
  exact hask

theorem next_holding (turn : Option Nat) (unknown : directory.get? host = none) :
    Move.next v transport (alone authority directory session (.holding host) turn) 0
        ⟨authority, .holding host⟩ =
      ⟨.unfiled host, turn, directory, session⟩ := by
  have hlook : Move.lookAgain (alone authority directory session (.holding host) turn) authority
      host = ⟨.unfiled host, turn, directory, session⟩ := by
    unfold Move.lookAgain
    have hget : (alone authority directory session (.holding host) turn).directory.get? host =
      none := unknown
    rw [hget]
    rfl
  exact hlook

/-- A call whose host has no entry, up to its second lookup. -/
theorem run_waiting (n : Nat) (unknown : directory.get? host = none) :
    run v transport (alone authority directory session (.waiting host) none)
        (List.replicate (n + 2) 0) =
      run v transport (alone authority directory session (.unfiled host) (some 0))
        (List.replicate n 0) := by
  have htake : run v transport (alone authority directory session (.waiting host) none)
      (List.replicate (n + 2) 0) =
        run v transport (alone authority directory session (.holding host) (some 0))
          (List.replicate (n + 1) 0) := rfl
  rw [htake, run_succ, next_holding v transport authority host directory session (some 0) unknown]
  rfl

/-- A call whose host has no entry, from its second lookup on. -/
theorem run_unfiled (n : Nat) (shape : authority.authorityHost? = .ok host)
    (unknown : directory.get? host = none) :
    let call := v.validate transport directory authority session
    run v transport (alone authority directory session (.unfiled host) (some 0))
        (List.replicate (n + 6) 0) =
      alone authority call.1.directory call.2 (.done call.1.result) none := by
  intro call
  rw [run_succ]
  cases asked : v.request? host with
  | error failure =>
      rw [next_unfiled_of_refused v transport authority host directory session _ asked]
      have hcall : call = (⟨.error failure, directory⟩, session) :=
        Validator.validate_of_unasked shape unknown asked
      rw [hcall]
      exact run_leaving v transport authority directory session (.error failure) (n + 4)
  | ok request =>
      rw [next_unfiled_of_asked v transport authority host directory session _ asked]
      have hcall : call = (Validator.settle authority host directory
          ((transport (request :: session)).bind (v.query host).document?), request :: session) :=
        Validator.validate_of_asked shape unknown asked
      rw [hcall]
      exact run_answered v transport authority host directory (request :: session)
        ((transport (request :: session)).bind (v.query host).document?) n

theorem look_of_filed {f : Flight} {shared : SharedCluster}
    (shape : authority.authorityHost? = .ok host) (filed : f.directory.get? host = some shared) :
    Move.look f authority = Move.quiet f (.done (Validator.verdict authority shared)) := by
  unfold Move.look
  rw [shape]
  simp only [filed]

theorem look_of_unknown {f : Flight} (shape : authority.authorityHost? = .ok host)
    (unknown : f.directory.get? host = none) :
    Move.look f authority = Move.quiet f (.waiting host) := by
  unfold Move.look
  rw [shape]
  simp only [unknown]

/-- The steps of a call that is alone come to what one validation comes to. -/
theorem run_alone :
    let call := v.validate transport directory authority session
    run v transport (start [authority] directory session) (List.replicate (stepsPerTurn + 1) 0) =
      alone authority call.1.directory call.2 (.done call.1.result) none := by
  intro call
  have hready : start [authority] directory session =
    alone authority directory session .ready none := rfl
  have hnext : Move.next v transport (alone authority directory session .ready none) 0
      ⟨authority, .ready⟩ =
    Move.look (alone authority directory session .ready none) authority := rfl
  rw [hready, run_succ, hnext]
  cases shape : authority.authorityHost? with
  | error failure =>
      have hcall : call = (⟨.error failure, directory⟩, session) := by
        simp only [call, Validator.validate, shape]
      have hlook : Move.look (alone authority directory session .ready none) authority =
          Move.quiet (alone authority directory session .ready none) (.done (.error failure)) := by
        unfold Move.look
        rw [shape]
      rw [hcall, hlook]
      exact run_done v transport authority directory session (.error failure) none stepsPerTurn
  | ok host =>
      cases found : directory.get? host with
      | some shared =>
          have hcall : call = (⟨Validator.verdict authority shared, directory⟩, session) :=
            Validator.validate_of_filed shape found
          rw [hcall, look_of_filed authority host shape found]
          exact run_done v transport authority directory session _ none stepsPerTurn
      | none =>
          rw [look_of_unknown authority host shape found]
          exact (run_waiting v transport authority host directory session 6 found).trans
            (run_unfiled v transport authority host directory session 0 shape found)

end Flight
end RealmTokens
