/-
One question at a time.

Any number of validations share a directory and take their steps in any order.  `Advance` lists what one
step of a call can do.  Only the call whose turn it is looks again, asks and files, and what it files
stays filed.  Main statement: in every run at most one request is on its way, none about a host is sent
once the host has an entry, and of two requests about one host the first belongs to a call that ended
with a failure while the host was still without one.
-/
import RealmTokens.Cluster.Flight
import RealmTokens.Proofs.Cluster.Validations

namespace RealmTokens

deriving instance DecidableEq for Phase, Call

namespace Phase

/-- The phases in which the turn is the call's own. -/
def Holds : Phase → Prop
  | .ready | .waiting _ | .done _ => False
  | .holding _ | .unfiled _ | .asking .. | .answered .. | .filed _ | .completed _ | .leaving _ => True

/-- The phases between the second lookup and the filing, in which the host has no entry. -/
def Seeks (host : String) : Phase → Prop
  | .unfiled sought | .asking sought _ | .answered sought _ => sought = host
  | _ => False

/-- Whether a request of the call is on its way. -/
def InFlight : Phase → Prop
  | .asking .. => True
  | _ => False

/-- What became of a question about a host: it is on its way or being filed, or its call has ended, with
a failure unless the host has an entry. -/
def Asked (d : Directory) (host : String) : Phase → Prop
  | .asking sought _ | .answered sought _ | .filed sought => sought = host
  | .completed sought => sought = host ∧ d.contains host = true
  | .leaving result | .done result =>
      (∃ failure, result = .error failure) ∨ d.contains host = true
  | _ => False

theorem Seeks.holds {host : String} {p : Phase} (h : p.Seeks host) : p.Holds := by
  cases p <;> simp_all [Seeks, Holds]

theorem InFlight.holds {p : Phase} (h : p.InFlight) : p.Holds := by
  cases p <;> simp_all [InFlight, Holds]

theorem Asked.mono {d later : Directory} {host : String} {p : Phase} (h : p.Asked d host)
    (keeps : d.Keeps later) : p.Asked later host := by
  cases p with
  | completed sought => exact ⟨h.1, keeps.contains h.2⟩
  | leaving result => exact h.imp_right keeps.contains
  | done result => exact h.imp_right keeps.contains
  | _ => exact h

end Phase

namespace Flight

open Exchange (Transport Request)

/-! ## One step -/

section Step

variable {v : Validator} {transport : Transport} {f : Flight} {i : Nat} {p : Phase} {m : Move}

open Move (quiet)

/-- What the next step of call `i` can be, by the phase of the call. -/
inductive Advance (v : Validator) (f : Flight) (i : Nat) : Phase → Move → Prop
  | answers (result : Except Failure SharedCluster) :
      Advance v f i .ready (quiet f (.done result))
  | misses (host : String) : Advance v f i .ready (quiet f (.waiting host))
  | waits (host : String) : Advance v f i (.waiting host) (quiet f (.waiting host))
  | takes (host : String) (free : f.turn = none) :
      Advance v f i (.waiting host) ⟨.holding host, some i, f.directory, f.session⟩
  | finds (host : String) (result : Except Failure SharedCluster) :
      Advance v f i (.holding host) (quiet f (.leaving result))
  | missesAgain (host : String) (unknown : f.directory.get? host = none) :
      Advance v f i (.holding host) (quiet f (.unfiled host))
  | refuses (host : String) (failure : Failure) :
      Advance v f i (.unfiled host) (quiet f (.leaving (.error failure)))
  | sends (host : String) (request : Request) (asked : v.request? host = .ok request) :
      Advance v f i (.unfiled host)
        ⟨.asking host (request :: f.session), f.turn, f.directory, request :: f.session⟩
  | hears (host : String) (sent : Exchange.Session) (document : Except Failure DiscoveryDocument) :
      Advance v f i (.asking host sent) (quiet f (.answered host document))
  | fails (host : String) (document : Except Failure DiscoveryDocument) (failure : Failure) :
      Advance v f i (.answered host document) (quiet f (.leaving (.error failure)))
  | files (host : String) (document : Except Failure DiscoveryDocument) (later : Directory)
      (keeps : f.directory.Keeps later) :
      Advance v f i (.answered host document) ⟨.filed host, f.turn, later, f.session⟩
  | breaks (host : String) (failure : Failure) :
      Advance v f i (.filed host) (quiet f (.leaving (.error failure)))
  | completes (host : String) (later : Directory) (keeps : f.directory.Keeps later)
      (filed : later.contains host = true) :
      Advance v f i (.filed host) ⟨.completed host, f.turn, later, f.session⟩
  | concludes (host : String) (result : Except Failure SharedCluster) :
      Advance v f i (.completed host) (quiet f (.leaving result))
  | leaves (result : Except Failure SharedCluster) :
      Advance v f i (.leaving result) ⟨.done result, none, f.directory, f.session⟩
  | rests (result : Except Failure SharedCluster) :
      Advance v f i (.done result) (quiet f (.done result))

theorem advance_look (authority : Url) : Advance v f i .ready (Move.look f authority) := by
  unfold Move.look
  split
  case h_1 failure _ => exact .answers (.error failure)
  case h_2 host _ =>
    split
    case h_1 shared _ => exact .answers (Validator.verdict authority shared)
    case h_2 => exact .misses host

theorem advance_take (host : String) : Advance v f i (.waiting host) (Move.take f i host) := by
  unfold Move.take
  split
  case h_1 => exact .waits host
  case h_2 free => exact .takes host free

theorem advance_lookAgain (authority : Url) (host : String) :
    Advance v f i (.holding host) (Move.lookAgain f authority host) := by
  unfold Move.lookAgain
  split
  case h_1 shared _ => exact .finds host (Validator.verdict authority shared)
  case h_2 unknown => exact .missesAgain host unknown

theorem advance_ask (host : String) : Advance v f i (.unfiled host) (Move.ask v f host) := by
  unfold Move.ask
  split
  case h_1 failure _ => exact .refuses host failure
  case h_2 request asked => exact .sends host request asked

theorem advance_ingest (host : String) (document : Except Failure DiscoveryDocument) :
    Advance v f i (.answered host document)
      (Move.fileAs f (.filed host) (document.bind (f.directory.ingest? host))) := by
  cases document with
  | error failure => exact .fails host _ failure
  | ok answer =>
      cases ingested : f.directory.ingest? host answer with
      | error failure =>
          rw [Except.bind, ingested]
          exact .fails host _ failure
      | ok later =>
          rw [Except.bind, ingested]
          exact .files host _ later (Directory.keeps_ingest? ingested)

theorem advance_complete (host : String) :
    Advance v f i (.filed host)
      (Move.fileAs f (.completed host) (Validator.complete? f.directory host)) := by
  cases completed : Validator.complete? f.directory host with
  | error failure => exact .breaks host failure
  | ok later =>
      exact .completes host later (Directory.keeps_complete? completed)
        (Directory.contains_of_complete? completed)

theorem advance_next (v : Validator) (transport : Transport) (f : Flight) (i : Nat) (call : Call) :
    Advance v f i call.phase (Move.next v transport f i call) := by
  unfold Move.next
  cases call.phase with
  | ready => exact advance_look call.authority
  | waiting host => exact advance_take host
  | holding host => exact advance_lookAgain call.authority host
  | unfiled host => exact advance_ask host
  | asking host sent => exact .hears host sent _
  | answered host document => exact advance_ingest host document
  | filed host => exact advance_complete host
  | completed host => exact .concludes host _
  | leaving result => exact .leaves result
  | done result => exact .rests result

/-! ### What a step keeps -/

theorem keeps_of_advance (h : Advance v f i p m) : f.directory.Keeps m.directory := by
  cases h with
  | files host document later keeps => exact keeps
  | completes host later keeps filed => exact keeps
  | _ => exact Directory.Keeps.refl f.directory

/-- Who has not the turn files nothing. -/
theorem directory_of_advance (h : Advance v f i p m) (outside : ¬p.Holds) :
    m.directory = f.directory := by
  cases h with
  | files host document later keeps => exact absurd trivial outside
  | completes host later keeps filed => exact absurd trivial outside
  | _ => rfl

/-- Nobody takes the turn of another call. -/
theorem turn_of_advance (h : Advance v f i p m) (own : p.Holds → f.turn = some i) {j : Nat}
    (other : j ≠ i) (hj : f.turn = some j) : m.turn = some j := by
  cases h with
  | takes host free => rw [free] at hj; cases hj
  | leaves result => exact absurd (Option.some.inj (hj.symm.trans (own trivial))) other
  | _ => exact hj

theorem holds_of_advance (h : Advance v f i p m) (own : p.Holds → f.turn = some i)
    (hm : m.phase.Holds) : m.turn = some i := by
  cases h with
  | answers | misses | waits | leaves | rests => cases hm
  | takes host free => rfl
  | _ => exact own trivial

theorem unknown_of_advance {host : String} (h : Advance v f i p m)
    (unknown : p.Seeks host → f.directory.get? host = none) (hm : m.phase.Seeks host) :
    m.directory.get? host = none := by
  cases h with
  | missesAgain sought hsought => exact hm ▸ hsought
  | sends sought request asked => exact unknown hm
  | hears sought sent document => exact unknown hm
  | _ => cases hm

theorem asked_of_advance {host : String} (h : Advance v f i p m) (asked : p.Asked f.directory host) :
    m.phase.Asked m.directory host := by
  cases h with
  | hears sought sent document => exact asked
  | fails sought document failure => exact Or.inl ⟨failure, rfl⟩
  | files sought document later keeps => exact asked
  | breaks sought failure => exact Or.inl ⟨failure, rfl⟩
  | completes sought later keeps filed =>
      obtain rfl : sought = host := asked
      exact ⟨rfl, filed⟩
  | concludes sought result => exact Or.inr asked.2
  | leaves result => exact asked
  | rests result => exact asked
  | _ => cases asked

/-- Only the step behind the second lookup sends something. -/
theorem session_of_advance (h : Advance v f i p m) :
    m.session = f.session ∨ ∃ host request, p = .unfiled host ∧ v.request? host = .ok request ∧
      m.phase = .asking host (request :: f.session) ∧ m.session = request :: f.session := by
  cases h with
  | sends host request asked => exact Or.inr ⟨host, request, rfl, asked, rfl, rfl⟩
  | _ => exact Or.inl rfl

end Step

/-! ## Runs -/

section Run

variable {v : Validator} {transport : Transport} {f : Flight} {i j : Nat} {call : Call}
  {host : String}

/-- A step leaves everything as it is, or moves one call. -/
theorem step_cases (v : Validator) (transport : Transport) (f : Flight) (i : Nat) :
    step v transport f i = f ∨
      ∃ call m, f.calls[i]? = some call ∧ Advance v f i call.phase m ∧
        step v transport f i =
          ⟨f.calls.set i ⟨call.authority, m.phase⟩, m.turn, m.directory, m.session⟩ := by
  unfold step
  cases hcall : f.calls[i]? with
  | none => exact Or.inl rfl
  | some call =>
      exact Or.inr ⟨call, Move.next v transport f i call, rfl, advance_next v transport f i call, rfl⟩

theorem of_getElem?_set {calls : List Call} {moved : Call}
    (h : (calls.set i moved)[j]? = some call) :
    (j = i ∧ call = moved) ∨ (j ≠ i ∧ calls[j]? = some call) := by
  rw [List.getElem?_set] at h
  by_cases hij : i = j
  · rw [if_pos hij] at h
    split at h
    case isTrue => exact Or.inl ⟨hij.symm, (Option.some.inj h).symm⟩
    case isFalse => cases h
  · rw [if_neg hij] at h
    exact Or.inr ⟨fun e => hij e.symm, h⟩

theorem getElem?_set_of_call {calls : List Call} (h : calls[i]? = some call) (moved : Call) :
    (calls.set i moved)[i]? = some moved :=
  List.getElem?_set_self (List.getElem?_eq_some_iff.1 h).1

/-- A call that holds the turn is the one whose turn it is, and the host that it seeks has no entry. -/
structure Orderly (f : Flight) : Prop where
  turn : ∀ (i : Nat) (call : Call), f.calls[i]? = some call → call.phase.Holds → f.turn = some i
  unknown : ∀ (i : Nat) (call : Call) (host : String), f.calls[i]? = some call →
    call.phase.Seeks host → f.directory.get? host = none

theorem Orderly.unique (h : Orderly f) {call' : Call} (hi : f.calls[i]? = some call)
    (hj : f.calls[j]? = some call') (holds : call.phase.Holds) (holds' : call'.phase.Holds) :
    i = j :=
  Option.some.inj ((h.turn i call hi holds).symm.trans (h.turn j call' hj holds'))

theorem orderly_start (authorities : List Url) (directory : Directory)
    (session : Exchange.Session) : Orderly (start authorities directory session) := by
  have ready : ∀ (i : Nat) (call : Call), (start authorities directory session).calls[i]? = some call →
      call.phase = .ready := by
    intro i call h
    rw [start, List.getElem?_map] at h
    obtain ⟨authority, -, rfl⟩ := Option.map_eq_some_iff.1 h
    rfl
  constructor
  · intro i call hcall holds
    rw [ready i call hcall] at holds
    cases holds
  · intro i call host hcall seeks
    rw [ready i call hcall] at seeks
    cases seeks

theorem orderly_step (h : Orderly f) : Orderly (step v transport f i) := by
  rcases step_cases v transport f i with hstep | ⟨call, m, hcall, advance, hstep⟩
  · rw [hstep]
    exact h
  · have own := h.turn i call hcall
    rw [hstep]
    constructor
    · intro j other hother holds
      rcases of_getElem?_set hother with ⟨rfl, rfl⟩ | ⟨hne, hold⟩
      · exact holds_of_advance advance own holds
      · exact turn_of_advance advance own hne (h.turn j other hold holds)
    · intro j other sought hother seeks
      rcases of_getElem?_set hother with ⟨rfl, rfl⟩ | ⟨hne, hold⟩
      · exact unknown_of_advance advance (h.unknown j call sought hcall) seeks
      · -- The other call has the turn, so this one files nothing.
        have outside : ¬call.phase.Holds := fun holds =>
          hne (h.unique hold hcall seeks.holds holds)
        show m.directory.get? sought = none
        rw [directory_of_advance advance outside]
        exact h.unknown j other sought hold seeks

theorem orderly_run (h : Orderly f) (schedule : List Nat) : Orderly (run v transport f schedule) := by
  induction schedule generalizing f with
  | nil => exact h
  | cons i schedule ih => exact ih (orderly_step h)

theorem keeps_step (v : Validator) (transport : Transport) (f : Flight) (i : Nat) :
    f.directory.Keeps (step v transport f i).directory := by
  rcases step_cases v transport f i with hstep | ⟨call, m, -, advance, hstep⟩
  · rw [hstep]
    exact Directory.Keeps.refl f.directory
  · rw [hstep]
    exact keeps_of_advance advance

theorem keeps_run (v : Validator) (transport : Transport) (f : Flight) (schedule : List Nat) :
    f.directory.Keeps (run v transport f schedule).directory := by
  induction schedule generalizing f with
  | nil => exact Directory.Keeps.refl f.directory
  | cons i schedule ih => exact (keeps_step v transport f i).trans (ih (step v transport f i))

theorem run_append (v : Validator) (transport : Transport) (f : Flight) (earlier later : List Nat) :
    run v transport f (earlier ++ later) = run v transport (run v transport f earlier) later :=
  List.foldl_append

/-- The call has asked about the host. -/
def HasAsked (f : Flight) (i : Nat) (host : String) : Prop :=
  ∃ call, f.calls[i]? = some call ∧ call.phase.Asked f.directory host

theorem hasAsked_step (h : HasAsked f i host) (j : Nat) : HasAsked (step v transport f j) i host := by
  obtain ⟨call, hcall, asked⟩ := h
  rcases step_cases v transport f j with hstep | ⟨mover, m, hmover, advance, hstep⟩
  · rw [hstep]
    exact ⟨call, hcall, asked⟩
  · rw [hstep]
    by_cases hij : i = j
    · subst hij
      obtain rfl : call = mover := Option.some.inj (hcall.symm.trans hmover)
      exact ⟨⟨call.authority, m.phase⟩, getElem?_set_of_call hcall _,
        asked_of_advance advance asked⟩
    · exact ⟨call, (List.getElem?_set_ne (Ne.symm hij)).trans hcall,
        asked.mono (keeps_of_advance advance)⟩

theorem hasAsked_run (h : HasAsked f i host) (schedule : List Nat) :
    HasAsked (run v transport f schedule) i host := by
  induction schedule generalizing f with
  | nil => exact h
  | cons j schedule ih => exact ih (hasAsked_step h j)

/-- The next step of call `i` sends the request about `host`. -/
structure Sends (v : Validator) (transport : Transport) (f : Flight) (i : Nat) (host : String) :
    Prop where
  seeks : ∃ call, f.calls[i]? = some call ∧ call.phase = .unfiled host
  sent : ∃ request, v.request? host = .ok request ∧
    (step v transport f i).session = request :: f.session

theorem session_step (v : Validator) (transport : Transport) (f : Flight) (i : Nat) :
    (step v transport f i).session = f.session ∨ ∃ host, Sends v transport f i host := by
  rcases step_cases v transport f i with hstep | ⟨call, m, hcall, advance, hstep⟩
  · rw [hstep]
    exact Or.inl rfl
  · rcases session_of_advance advance with hsame | ⟨host, request, hphase, asked, -, hsent⟩
    · rw [hstep]
      exact Or.inl hsame
    · refine Or.inr ⟨host, ⟨call, hcall, hphase⟩, request, asked, ?_⟩
      rw [hstep]
      exact hsent

theorem ask_of_asked {request : Request} (asked : v.request? host = .ok request) :
    Move.ask v f host =
      ⟨.asking host (request :: f.session), f.turn, f.directory, request :: f.session⟩ := by
  unfold Move.ask
  rw [asked]

theorem sends_of_unfiled {request : Request} (hcall : f.calls[i]? = some call)
    (hphase : call.phase = .unfiled host) (asked : v.request? host = .ok request) :
    Sends v transport f i host := by
  refine ⟨⟨call, hcall, hphase⟩, request, asked, ?_⟩
  have hsession : (step v transport f i).session = (Move.next v transport f i call).session := by
    unfold step
    rw [hcall]
  have hnext : Move.next v transport f i call = Move.ask v f host := by
    unfold Move.next
    rw [hphase]
  rw [hsession, hnext, ask_of_asked asked]

theorem Sends.hasAsked (h : Sends v transport f i host) : HasAsked (step v transport f i) i host := by
  obtain ⟨call, hcall, hphase⟩ := h.seeks
  obtain ⟨request, -, hsent⟩ := h.sent
  have lengthens : (step v transport f i).session ≠ f.session := by
    rw [hsent]
    exact List.cons_ne_self request f.session
  rcases step_cases v transport f i with hstep | ⟨mover, m, hmover, advance, hstep⟩
  · exact absurd (congrArg Flight.session hstep) lengthens
  · obtain rfl : call = mover := Option.some.inj (hcall.symm.trans hmover)
    rcases session_of_advance advance with hsame | ⟨sought, sending, hsought, -, hasking, -⟩
    · rw [hstep] at lengthens
      exact absurd hsame lengthens
    · obtain rfl : host = sought := Phase.unfiled.inj (hphase.symm.trans hsought)
      rw [hstep]
      refine ⟨⟨call.authority, m.phase⟩, getElem?_set_of_call hcall _, ?_⟩
      show m.phase.Asked m.directory host
      rw [hasking]
      exact rfl

theorem Sends.unknown (h : Sends v transport f i host) (orderly : Orderly f) :
    f.directory.contains host = false := by
  obtain ⟨call, hcall, hphase⟩ := h.seeks
  have seeks : call.phase.Seeks host := by
    rw [hphase]
    exact rfl
  rw [Directory.contains, orderly.unknown i call host hcall seeks]
  rfl

/-- A call that asked about a host about which another one asks has ended with a failure. -/
theorem failed_of_hasAsked (orderly : Orderly f) (asked : HasAsked f i host)
    (sends : Sends v transport f j host) :
    i ≠ j ∧ ∃ call failure, f.calls[i]? = some call ∧ call.phase = .done (.error failure) := by
  obtain ⟨call, hcall, hasked⟩ := asked
  obtain ⟨other, hother, hphase⟩ := sends.seeks
  have unknown := sends.unknown orderly
  have holds : other.phase.Holds := by
    rw [hphase]
    exact trivial
  have hne : i ≠ j := by
    rintro rfl
    obtain rfl : call = other := Option.some.inj (hcall.symm.trans hother)
    rw [hphase] at hasked
    cases hasked
  have outside : ¬call.phase.Holds := fun hholds => hne (orderly.unique hcall hother hholds holds)
  refine ⟨hne, ?_⟩
  cases hdone : call.phase with
  | done result =>
      rw [hdone] at hasked
      rcases hasked with ⟨failure, rfl⟩ | filed
      · exact ⟨call, failure, hcall, hdone⟩
      · rw [unknown] at filed
        cases filed
  | ready | waiting => rw [hdone] at hasked; cases hasked
  | _ => rw [hdone] at outside; exact absurd trivial outside

/-- Whatever calls there are and however their steps are mixed, at most one request is on its way.
Requests are sent only about hosts that have had no entry so far.  If a host is asked about twice then
the first of these calls has ended with a failure. -/
theorem one_request_at_a_time (v : Validator) (transport : Transport) (authorities : List Url)
    (directory : Directory) (session : Exchange.Session) :
    let after := run v transport (start authorities directory session)
    (∀ (schedule : List Nat) (i j : Nat) (call other : Call), (after schedule).calls[i]? = some call →
      (after schedule).calls[j]? = some other → call.phase.InFlight → other.phase.InFlight →
        i = j) ∧
    (∀ schedule i, (step v transport (after schedule) i).session = (after schedule).session ∨
      ∃ host, Sends v transport (after schedule) i host) ∧
    (∀ earlier later i host, (after earlier).directory.contains host = true →
      ¬Sends v transport (after (earlier ++ later)) i host) ∧
    (∀ earlier i between j host, Sends v transport (after earlier) i host →
      Sends v transport (after (earlier ++ i :: between)) j host →
        i ≠ j ∧
        (∃ call failure, (after (earlier ++ i :: between)).calls[i]? = some call ∧
          call.phase = .done (.error failure)) ∧
        ∀ front, front <+: earlier ++ i :: between →
          (after front).directory.contains host = false) := by
  intro after
  have orderly : ∀ schedule, Orderly (after schedule) :=
    orderly_run (orderly_start authorities directory session)
  have append : ∀ earlier later,
      after (earlier ++ later) = run v transport (after earlier) later :=
    run_append v transport (start authorities directory session)
  have unsent : ∀ earlier later i host, (after earlier).directory.contains host = true →
      ¬Sends v transport (after (earlier ++ later)) i host := by
    intro earlier later i host filed sends
    have kept : (after earlier).directory.Keeps (after (earlier ++ later)).directory := by
      rw [append]
      exact keeps_run v transport (after earlier) later
    have unknown := sends.unknown (orderly (earlier ++ later))
    rw [kept.contains filed] at unknown
    cases unknown
  refine ⟨?_, fun schedule i => session_step v transport (after schedule) i, unsent, ?_⟩
  · intro schedule i j call other hcall hother flies flies'
    exact (orderly schedule).unique hcall hother flies.holds flies'.holds
  · intro earlier i between j host first second
    have asked : HasAsked (after (earlier ++ i :: between)) i host := by
      rw [append]
      exact hasAsked_run first.hasAsked between
    obtain ⟨hne, failed⟩ := failed_of_hasAsked (orderly _) asked second
    refine ⟨hne, failed, fun front hfront => ?_⟩
    obtain ⟨rest, hrest⟩ := hfront
    rw [← hrest] at second
    exact Bool.eq_false_iff.2 (fun filed => unsent front rest j host filed second)

/-- A host that is asked about twice, since the first request is not answered. -/
theorem one_request_at_a_time_of_failure :
    let v : Validator := ⟨⟨none, Time.Span.ofSeconds 30, true⟩, Settings.standard⟩
    let transport : Transport := fun session =>
      match session with
      | [asked, _] =>
          .ok ⟨asked.url, Status.ok, "\x7b\"tenant_discovery_endpoint\":\"e\"\x7d"⟩
      | _ => .error (.hostUnresolved "a.net")
    let after := run v transport
      (start (List.replicate 3 (Validator.tenantAt "a.net")) Directory.empty [])
    let filing := [0, 0, 0, 0, 0, 0, 0, 1, 1, 1, 1, 1, 1, 1, 1, 1]
    (∀ (j : Nat) (other : Call), (after [0, 0, 0, 0]).calls[j]? = some other →
      other.phase.InFlight → 0 = j) ∧
    (∃ call failure, (after (filing.take 10)).calls[0]? = some call ∧
      call.phase = .done (.error failure)) ∧
    (after (filing.take 7)).directory.contains "a.net" = false ∧
    (after filing).directory.contains "a.net" = true ∧
    ¬Sends v transport (after (filing ++ [2])) 2 "a.net" := by
  intro v transport after filing
  let request := v.client.request
    ⟨"https", some ⟨"", "", some (.name "login.microsoftonline.com"), none⟩,
      .segments ["common", "discovery", "instance"],
      some ("api-version=1.1&authorization_endpoint=" ++
        "https%3A%2F%2Fa.net%2Fcommon%2Foauth2%2Fauthorize"), none⟩
  have asked : v.request? "a.net" = .ok request := by decide +kernel
  have flies : (after [0, 0, 0, 0]).calls[0]? =
      some ⟨Validator.tenantAt "a.net", .asking "a.net" [request]⟩ := by decide +kernel
  have seeks : (after [0, 0, 0]).calls[0]? = some ⟨Validator.tenantAt "a.net", .unfiled "a.net"⟩ := by
    decide +kernel
  have seeks' : (after (filing.take 10)).calls[1]? =
      some ⟨Validator.tenantAt "a.net", .unfiled "a.net"⟩ := by decide +kernel
  have first : Sends v transport (after [0, 0, 0]) 0 "a.net" := sends_of_unfiled seeks rfl asked
  have second : Sends v transport (after (filing.take 10)) 1 "a.net" :=
    sends_of_unfiled seeks' rfl asked
  have filed : (after filing).directory.contains "a.net" = true := by decide +kernel
  have runs := one_request_at_a_time v transport
    (List.replicate 3 (Validator.tenantAt "a.net")) Directory.empty []
  have twice := runs.2.2.2 [0, 0, 0] 0 [0, 0, 0, 1, 1, 1] 1 "a.net" first second
  exact ⟨fun j other hother => runs.1 [0, 0, 0, 0] 0 j _ other flies hother trivial, twice.2.1,
    twice.2.2 (filing.take 7) ⟨[1, 1, 1], rfl⟩, filed, runs.2.2.1 filing [2] 2 "a.net" filed⟩

end Run

end Flight
end RealmTokens
