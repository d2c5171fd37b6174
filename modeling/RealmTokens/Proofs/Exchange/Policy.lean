/-
What every request looks like.

`SendsOnly` says what an exchange may send, whatever has been sent before, and goes through its steps one
by one.  Main statement: however many questions of whatever kind are asked through clients of one
settings, the requests of each follow the policy of these settings and carry the correlation id of that
question, or none.
-/
import RealmTokens.Proofs.Cluster.SingleFlight
import RealmTokens.Proofs.Exchange.Answers
import RealmTokens.Proofs.Exchange.Correlation
import RealmTokens.Realm.Trust

namespace RealmTokens
namespace Exchange

/-! ## What an exchange sends -/

/-- Whether all requests behind those of `before` have a property. -/
def Grows (p : Request → Prop) (before after : Session) : Prop :=
  ∃ sent, after = sent ++ before ∧ ∀ request ∈ sent, p request

namespace Grows

variable {p : Request → Prop} {first second third : Session}

theorem refl (p : Request → Prop) (session : Session) : Grows p session session :=
  ⟨[], rfl, fun _ h => absurd h List.not_mem_nil⟩

theorem one {request : Request} (h : p request) (session : Session) :
    Grows p session (request :: session) := by
  refine ⟨[request], rfl, fun other hother => ?_⟩
  rw [List.mem_singleton.1 hother]
  exact h

theorem trans (h : Grows p first second) (h' : Grows p second third) : Grows p first third := by
  obtain ⟨sent, rfl, hsent⟩ := h
  obtain ⟨later, rfl, hlater⟩ := h'
  refine ⟨later ++ sent, (List.append_assoc later sent first).symm, fun request hmem => ?_⟩
  rcases List.mem_append.1 hmem with hmem | hmem
  · exact hlater request hmem
  · exact hsent request hmem

end Grows

def SendsOnly {α : Type} (p : Request → Prop) (x : Exchange α) : Prop :=
  ∀ session, Grows p session (run x session).2

namespace SendsOnly

variable {α β : Type} {p : Request → Prop}

theorem lift (p : Request → Prop) (x : Except Failure α) : SendsOnly p (liftM x) :=
  fun session => .refl p session

theorem pure (p : Request → Prop) (a : α) : SendsOnly p (Pure.pure a) :=
  fun session => .refl p session

theorem throw (p : Request → Prop) (failure : Failure) :
    SendsOnly p (MonadExcept.throw failure : Exchange α) :=
  fun session => .refl p session

theorem send (transport : Transport) {request : Request} (h : p request) :
    SendsOnly p (Exchange.send transport request) :=
  fun session => .one h session

theorem bind {x : Exchange α} {f : α → Exchange β} (h : SendsOnly p x)
    (h' : ∀ a, SendsOnly p (f a)) : SendsOnly p (x >>= f) := by
  intro session
  have hx := h session
  rw [run_bind]
  rcases hrun : run x session with ⟨failure | a, after⟩
  · rw [hrun] at hx
    exact hx
  · rw [hrun] at hx
    exact hx.trans (h' a after)

end SendsOnly

/-! ## The policy -/

/-- The policy of settings, for a question that may have a correlation id.  Whoever reads the id in the
headers of the request finds that of the question. -/
structure Complies (s : Settings) (correlation : Option CorrelationId) (request : Request) :
    Prop where
  scheme_eq : s.requireHttps = true → request.url.scheme = "https"
  timeout_eq : request.timeout = s.requestTimeout
  accept_eq : request.headers.lookup "accept" = some "application/json"
  id_eq : request.headers.lookup "client-request-id" = correlation.map CorrelationId.render
  id_read : (request.headers.lookup "client-request-id").bind CorrelationId.ofString? = correlation
  echo_eq : request.headers.lookup "return-client-request-id" = correlation.map (fun _ => "true")
  names_nodup : (request.headers.map Prod.fst).Nodup

section Client

variable {α : Type} (s : Settings) (correlation : Option CorrelationId) (transport : Transport)

/-- A request that the client lets out complies. -/
theorem complies_request {s : Settings} {correlation : Option CorrelationId} {url : Url}
    (h : (Client.ofSettings s correlation).Permits url) :
    Complies s correlation ((Client.ofSettings s correlation).request url) := by
  cases correlation with
  | none =>
      have hnodup : ["accept"].Nodup := by decide
      exact ⟨h, rfl, rfl, rfl, rfl, rfl, hnodup⟩
  | some id =>
      have hid : ((Client.ofSettings s (some id)).request url).headers.lookup "client-request-id" =
          some id.render := rfl
      have hread : (((Client.ofSettings s (some id)).request url).headers.lookup
          "client-request-id").bind CorrelationId.ofString? = some id := by
        rw [hid, Option.bind_some, CorrelationId.ofString?_render]
      have hnodup : ["accept", "client-request-id", "return-client-request-id"].Nodup := by decide
      exact ⟨h, rfl, rfl, hid, hread, rfl, hnodup⟩

theorem sendsOnly_get (url : Url) :
    SendsOnly (Complies s correlation) ((Client.ofSettings s correlation).get transport url) := by
  intro session
  by_cases h : (Client.ofSettings s correlation).Permits url
  · rw [Client.run_get_of_permits h]
    exact .one (complies_request h) session
  · rw [Client.run_get_of_not_permits h]
    exact .refl _ session

theorem sendsOnly_fetch (kind : Document) (decode : Json.Decoder α) (url : Url) :
    SendsOnly (Complies s correlation)
      ((Client.ofSettings s correlation).fetch transport kind decode url) := by
  refine (sendsOnly_get s correlation transport url).bind (fun response => ?_)
  exact (SendsOnly.lift _ response.ensureOk).bind (fun _ => .lift _ _)

end Client

/-! ## Questions -/

/-- A question that is asked through a client.  The directory that a validation begins with may be any,
so it may be what earlier validations have left. -/
inductive Inquiry where
  | page (url : Url)
  | discovery (query : DiscoveryQuery)
  | validation (directory : Directory) (authority : Url)
  | validations (directory : Directory) (authorities : List Url) (schedule : List Nat)
  | registration (domain : String)
  | leg (resolution : Resolution) (domain : String)
  | webFinger (authority : Url) (registration : Registration)
  | trust (authority : Url) (domain : String)

/-- The requests so far, once a question has been asked. -/
def Inquiry.ask (s : Settings) (correlation : Option CorrelationId) (transport : Transport)
    (session : Session) : Inquiry → Session :=
  let client := Client.ofSettings s correlation
  let registrar : Registrar := ⟨client, s.cloudResolver⟩
  let validator : Validator := ⟨client, s⟩
  fun
  | .page url => (run (client.get transport url) session).2
  | .discovery query => (run (query.ask client transport) session).2
  | .validation directory authority =>
      (validator.validate transport directory authority session).2
  | .validations directory authorities schedule =>
      (Flight.run validator transport (.start authorities directory session) schedule).session
  | .registration domain => (run (registrar.discover transport domain) session).2
  | .leg resolution domain => (run (registrar.leg transport resolution domain) session).2
  | .webFinger authority registered =>
      (run (WebFinger.request client transport authority registered) session).2
  | .trust authority domain =>
      (run (Trust.validate registrar transport authority domain) session).2

/-- The requests so far, once all of some questions have been asked, each with its correlation id. -/
def askAll (s : Settings) (transport : Transport) (session : Session)
    (inquiries : List (Option CorrelationId × Inquiry)) : Session :=
  inquiries.foldl (fun session one => one.2.ask s one.1 transport session) session

section Questions

variable (s : Settings) (correlation : Option CorrelationId) (transport : Transport)

theorem sendsOnly_ask (query : DiscoveryQuery) :
    SendsOnly (Complies s correlation)
      (query.ask (Client.ofSettings s correlation) transport) := by
  refine (SendsOnly.lift _ query.url?).bind (fun url => ?_)
  exact (sendsOnly_get s correlation transport url).bind (fun response => .lift _ _)

theorem sendsOnly_leg (cloudResolver : Url) (resolution : Resolution) (domain : String) :
    SendsOnly (Complies s correlation)
      (Registrar.leg ⟨Client.ofSettings s correlation, cloudResolver⟩ transport resolution domain) := by
  -- How a leg ends depends on what was fetched, and the requests are those of the fetch.
  have hfetch : SendsOnly (Complies s correlation)
      (Registrar.fetch ⟨Client.ofSettings s correlation, cloudResolver⟩ transport resolution
        domain) :=
    (SendsOnly.lift _ (resolution.url? domain cloudResolver)).bind (fun url =>
      sendsOnly_fetch s correlation transport .registration Registration.ofJson? url)
  exact hfetch

theorem sendsOnly_discover (cloudResolver : Url) (domain : String) :
    SendsOnly (Complies s correlation)
      (Registrar.discover ⟨Client.ofSettings s correlation, cloudResolver⟩ transport domain) := by
  refine (SendsOnly.lift _ (Registrar.domain? domain)).bind (fun name => ?_)
  refine (sendsOnly_leg s correlation transport cloudResolver .onPremises name).bind (fun leg => ?_)
  cases leg with
  | resolved registration => exact .pure _ registration
  | failed failure => exact .throw _ failure
  | hostUnresolved =>
      refine (sendsOnly_leg s correlation transport cloudResolver .cloud name).bind (fun last => ?_)
      cases last with
      | resolved registration => exact .pure _ registration
      | failed failure => exact .throw _ failure
      | hostUnresolved => exact .throw _ _

theorem sendsOnly_request (authority : Url) (registration : Registration) :
    SendsOnly (Complies s correlation)
      (WebFinger.request (Client.ofSettings s correlation) transport authority registration) :=
  (SendsOnly.lift _ (WebFinger.url? authority registration s.requireHttps)).bind (fun url =>
    sendsOnly_fetch s correlation transport .webFinger WebFinger.ofJson? url)

theorem sendsOnly_trust (cloudResolver authority : Url) (domain : String) :
    SendsOnly (Complies s correlation)
      (Trust.validate ⟨Client.ofSettings s correlation, cloudResolver⟩ transport authority
        domain) := by
  refine (sendsOnly_discover s correlation transport cloudResolver domain).bind
    (fun registration => ?_)
  exact (sendsOnly_request s correlation transport authority registration).bind
    (fun document => .pure _ _)

theorem grows_validate (directory : Directory) (authority : Url) (session : Session) :
    Grows (Complies s correlation) session
      (Validator.validate ⟨Client.ofSettings s correlation, s⟩ transport directory authority
        session).2 := by
  unfold Validator.validate
  cases authority.authorityHost? with
  | error failure => exact .refl _ session
  | ok host =>
      cases hfiled : directory.get? host with
      | some shared =>
          simp only [Validator.answer, hfiled]
          exact .refl _ session
      | none =>
          have hasked := sendsOnly_ask s correlation transport
            (Validator.query ⟨Client.ofSettings s correlation, s⟩ host) session
          simp only [Validator.answer, hfiled]
          rw [run] at hasked
          exact hasked

/-- The request of a validation is the one that its client lets out. -/
theorem complies_of_request? {s : Settings} {correlation : Option CorrelationId} {host : String}
    {request : Request}
    (h : Validator.request? ⟨Client.ofSettings s correlation, s⟩ host = .ok request) :
    Complies s correlation request := by
  cases hurl : (Validator.query ⟨Client.ofSettings s correlation, s⟩ host).url? with
  | error failure =>
      rw [Validator.request?, hurl] at h
      cases h
  | ok url =>
      by_cases hp : (Client.ofSettings s correlation).Permits url
      · rw [Validator.request?_of_permits hurl hp] at h
        cases h
        exact complies_request hp
      · rw [Validator.request?_of_not_permits hurl hp] at h
        cases h

theorem grows_flight (f : Flight) (schedule : List Nat) :
    Grows (Complies s correlation) f.session
      (Flight.run ⟨Client.ofSettings s correlation, s⟩ transport f schedule).session := by
  induction schedule generalizing f with
  | nil => exact .refl _ f.session
  | cons i schedule ih =>
      refine Grows.trans ?_ (ih (Flight.step _ transport f i))
      rcases Flight.session_step ⟨Client.ofSettings s correlation, s⟩ transport f i with
        hsame | ⟨host, -, request, hrequest, hsent⟩
      · rw [hsame]
        exact .refl _ f.session
      · rw [hsent]
        exact .one (complies_of_request? hrequest) f.session

/-- Whatever is asked, all requests comply. -/
theorem grows_inquiry (inquiry : Inquiry) (session : Session) :
    Grows (Complies s correlation) session (inquiry.ask s correlation transport session) := by
  cases inquiry with
  | page url => exact sendsOnly_get s correlation transport url session
  | discovery query => exact sendsOnly_ask s correlation transport query session
  | validation directory authority =>
      exact grows_validate s correlation transport directory authority session
  | validations directory authorities schedule =>
      exact grows_flight s correlation transport (.start authorities directory session) schedule
  | registration domain =>
      exact sendsOnly_discover s correlation transport s.cloudResolver domain session
  | leg resolution domain =>
      exact sendsOnly_leg s correlation transport s.cloudResolver resolution domain session
  | webFinger authority registration =>
      exact sendsOnly_request s correlation transport authority registration session
  | trust authority domain =>
      exact sendsOnly_trust s correlation transport s.cloudResolver authority domain session

end Questions

/-! ## Main statement -/

/-- The requests of any number of questions come in groups, one for each question, and each request
of a group complies with the settings and has the correlation id of its question, or none. -/
theorem requests_comply (s : Settings) (transport : Transport)
    (inquiries : List (Option CorrelationId × Inquiry)) (session : Session) :
    ∃ sent : List (List Request),
      askAll s transport session inquiries = sent.reverse.flatten ++ session ∧
      List.Forall₂ (fun one requests => ∀ request ∈ requests, Complies s one.1 request) inquiries
        sent := by
  induction inquiries generalizing session with
  | nil => exact ⟨[], rfl, .nil⟩
  | cons one inquiries ih =>
      obtain ⟨requests, hfirst, hcomplies⟩ := grows_inquiry s one.1 transport one.2 session
      obtain ⟨sent, hrest, hall⟩ := ih (one.2.ask s one.1 transport session)
      refine ⟨requests :: sent, ?_, .cons hcomplies hall⟩
      rw [askAll, List.foldl_cons, ← askAll, hrest, hfirst, List.reverse_cons, List.flatten_append,
        List.flatten_singleton, List.append_assoc]

/-- A registered endpoint that is not encrypted, of which only the host is asked. -/
theorem requests_comply_of_plain_endpoint :
    let authority : Url :=
      ⟨"https", some ⟨"", "", some (.name "sts.net"), none⟩, .segments [""], none, none⟩
    let transport : Transport := fun session =>
      match session with
      | [asked] => .ok ⟨asked.url, Status.ok, "[[\"http://fs.net:8080/adfs\"]]"⟩
      | _ => .error .undecodable
    let id : CorrelationId := ⟨7, by decide⟩
    let session := askAll Settings.standard transport [] [(some id, .trust authority "a.net")]
    session.map (fun request => request.url.hostText?) =
        [some "fs.net", some "enterpriseregistration.a.net"] ∧
      ∀ request ∈ session, Complies Settings.standard (some id) request := by
  intro authority transport id session
  refine ⟨by decide +kernel, fun request hrequest => ?_⟩
  obtain ⟨sent, hsession, hall⟩ := requests_comply Settings.standard transport
    [(some id, .trust authority "a.net")] []
  cases hall with
  | cons hone hrest =>
      cases hrest
      rw [List.append_nil] at hsession
      have hmem : request ∈ askAll Settings.standard transport []
        [(some id, .trust authority "a.net")] := hrequest
      rw [hsession] at hmem
      exact hone request (by simpa using hmem)

end Exchange
end RealmTokens
