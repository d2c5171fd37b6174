/-
What one request brings about.

`Answered` and `Unresolved` say what the transport did with the newest request of a history, and the
main statements are that asking for a document succeeds exactly when the request was answered with
status 200 by a body that decodes, and finds no host exactly when the transport found none.  No other
step of a request fails with an unresolved host.
-/
import RealmTokens.Exchange.Client

namespace RealmTokens
namespace Exchange

/-! ## Running in order -/

/-- What an exchange comes to after the requests of `session`, and all requests so far. -/
def run {α : Type} (x : Exchange α) (session : Session) : Except Failure α × Session :=
  x session

theorem run_bind {α β : Type} (x : Exchange α) (f : α → Exchange β) (session : Session) :
    run (x >>= f) session =
      match run x session with
      | (.ok a, after) => run (f a) after
      | (.error failure, after) => (.error failure, after) := by
  show ExceptT.bind x f session = _
  simp only [ExceptT.bind, ExceptT.mk, bind, StateT.bind, ExceptT.bindCont, run]
  rcases x session with ⟨_ | _, _⟩ <;> rfl

theorem run_bind_ok {α β : Type} {x : Exchange α} {session after : Session} {a : α}
    (h : run x session = (.ok a, after)) (f : α → Exchange β) :
    run (x >>= f) session = run (f a) after := by
  rw [run_bind, h]

@[simp] theorem run_lift {α : Type} (x : Except Failure α) (session : Session) :
    run (liftM x) session = (x, session) := rfl

@[simp] theorem run_pure {α : Type} (a : α) (session : Session) :
    run (pure a) session = (.ok a, session) := rfl

@[simp] theorem run_throw {α : Type} (failure : Failure) (session : Session) :
    run (throw failure : Exchange α) session = (.error failure, session) := rfl

@[simp] theorem run_send (transport : Transport) (request : Request) (session : Session) :
    run (send transport request) session =
      (transport (request :: session), request :: session) := rfl

namespace Client

/-! ## One request -/

/-- Whether the policy of a client lets a request for a URL out. -/
def Permits (c : Client) (url : Url) : Prop :=
  c.requireHttps = true → url.scheme = "https"

/-- The request for `url` was sent after `history`, and answered with status 200 by a body that
decodes to `value`. -/
def Answered {α : Type} (c : Client) (transport : Transport) (history : Session)
    (decode : Json.Decoder α) (url : Url) (value : α) : Prop :=
  c.Permits url ∧
    ∃ response, transport (c.request url :: history) = .ok response ∧
      response.status = Status.ok ∧ Json.decode? decode response.body = some value

/-- The request for `url` was sent after `history`, and its host could not be found. -/
def Unresolved (c : Client) (transport : Transport) (history : Session) (url : Url)
    (host : String) : Prop :=
  c.Permits url ∧ transport (c.request url :: history) = .error (.hostUnresolved host)

theorem run_get_of_permits {c : Client} {url : Url} (h : c.Permits url) (transport : Transport)
    (session : Session) :
    run (c.get transport url) session =
      (transport (c.request url :: session), c.request url :: session) := by
  unfold get
  by_cases hc : c.requireHttps = true
  · have hs : url.enforceHttps = .ok () := by
      unfold Url.enforceHttps
      rw [if_pos (h hc)]
    simp only [hc, if_true, hs, run_bind, run_lift, run_send]
  · simp only [hc, if_false, Bool.false_eq_true]
    rfl

theorem run_get_of_not_permits {c : Client} {url : Url} (h : ¬c.Permits url)
    (transport : Transport) (session : Session) :
    run (c.get transport url) session = (.error (.insecure url), session) := by
  have hc : c.requireHttps = true := Decidable.of_not_not (fun hc => h (fun e => absurd e hc))
  have hs : url.scheme ≠ "https" := fun e => h (fun _ => e)
  have he : url.enforceHttps = .error (.insecure url) := by
    unfold Url.enforceHttps
    rw [if_neg hs]
  unfold get
  simp only [hc, if_true, he, run_bind, run_lift]

/-- What is made of a response: its status is looked at, then its body. -/
def document {α : Type} (kind : Document) (decode : Json.Decoder α) (response : Response) :
    Except Failure α := do
  response.ensureOk
  decodeBody kind decode response.body

theorem document_eq_ok_iff {α : Type} {kind : Document} {decode : Json.Decoder α}
    {response : Response} {value : α} :
    document kind decode response = .ok value ↔
      response.status = Status.ok ∧ Json.decode? decode response.body = some value := by
  unfold document Response.ensureOk decodeBody
  by_cases hs : response.status = Status.ok
  · rw [if_pos hs]
    cases Json.decode? decode response.body <;> simp [hs, bind, Except.bind]
  · rw [if_neg hs]
    simp [hs, bind, Except.bind]

/-- Neither a status nor a body is taken for a host that cannot be found. -/
theorem document_ne_unresolved {α : Type} (kind : Document) (decode : Json.Decoder α)
    (response : Response) (host : String) :
    document kind decode response ≠ .error (.hostUnresolved host) := by
  unfold document Response.ensureOk decodeBody Response.failure
  by_cases hs : response.status = Status.ok
  · rw [if_pos hs]
    cases Json.decode? decode response.body <;> simp [bind, Except.bind]
  · rw [if_neg hs]
    simp [bind, Except.bind]

theorem run_fetch_of_permits {α : Type} {c : Client} {url : Url} (h : c.Permits url)
    (transport : Transport) (kind : Document) (decode : Json.Decoder α) (session : Session) :
    run (c.fetch transport kind decode url) session =
      ((transport (c.request url :: session)).bind (document kind decode),
        c.request url :: session) := by
  unfold fetch
  rw [run_bind, run_get_of_permits h]
  cases transport (c.request url :: session) with
  | error failure => rfl
  | ok response =>
      simp only [run_bind, run_lift, Except.bind, document]
      cases response.ensureOk <;> rfl

theorem run_fetch_of_not_permits {α : Type} {c : Client} {url : Url} (h : ¬c.Permits url)
    (transport : Transport) (kind : Document) (decode : Json.Decoder α) (session : Session) :
    run (c.fetch transport kind decode url) session = (.error (.insecure url), session) := by
  unfold fetch
  rw [run_bind, run_get_of_not_permits h]

/-- A document is found exactly when the request for it was answered. -/
theorem run_fetch_eq_ok_iff {α : Type} {c : Client} {transport : Transport} {kind : Document}
    {decode : Json.Decoder α} {url : Url} {session last : Session} {value : α} :
    run (c.fetch transport kind decode url) session = (.ok value, last) ↔
      c.Answered transport session decode url value ∧ last = c.request url :: session := by
  by_cases hp : c.Permits url
  · rw [run_fetch_of_permits hp, Prod.mk.injEq, eq_comm (a := last)]
    cases ht : transport (c.request url :: session) with
    | error failure => simp [Answered, ht, Except.bind]
    | ok response =>
        simp only [Except.bind, document_eq_ok_iff, Answered, hp, true_and, ht,
          Except.ok.injEq, exists_eq_left']
  · rw [run_fetch_of_not_permits hp]
    simp [Answered, hp]

/-- A host counts as not found exactly when the transport could not find it. -/
theorem run_fetch_unresolved_iff {α : Type} {c : Client} {transport : Transport}
    {kind : Document} {decode : Json.Decoder α} {url : Url} {session last : Session}
    {host : String} :
    run (c.fetch transport kind decode url) session = (.error (.hostUnresolved host), last) ↔
      c.Unresolved transport session url host ∧ last = c.request url :: session := by
  by_cases hp : c.Permits url
  · rw [run_fetch_of_permits hp, Prod.mk.injEq, eq_comm (a := last)]
    cases ht : transport (c.request url :: session) with
    | error failure => simp [Unresolved, hp, ht, Except.bind]
    | ok response =>
        simp only [Except.bind, document_ne_unresolved, Unresolved, ht, false_and, reduceCtorEq,
          and_false]
  · rw [run_fetch_of_not_permits hp]
    simp [Unresolved, hp]

end Client
end Exchange
end RealmTokens
