/-
Validations one after the other.

`Validates` lists the ways in which a validation can end, with the directory and the requests that it
leaves.  Main statement: whatever validations went before, the next one sends one request at most, and
none about a host that has an entry; it succeeds with the validated entry of its host; it changes the
directory only by an accepted reply, and where it fails only by the negative entry of a host that is not
recognised; and what it has filed answers the same question from then on.
-/
import RealmTokens.Proofs.Cluster.Answers
import RealmTokens.Proofs.Cluster.AuthorityHosts
import RealmTokens.Proofs.Exchange.Answers

namespace RealmTokens

namespace DiscoveryQuery

open Exchange (Response)

section Document

variable {q : DiscoveryQuery} {r : Response} {document : DiscoveryDocument}

theorem document?_of_status_ok (h : r.status = Status.ok) :
    q.document? r = (DiscoveryDocument.ofString? r.body).bind (fun document =>
      match document.errorCodes with
      | some (code :: codes) =>
          .error (.authority q.subject
            (.rejected (code :: codes) (document.errorDescription.getD "")))
      | _ => .ok document) := by
  have hne : Status.ok ≠ Status.badRequest := by decide
  unfold document? Response.ensureOk
  simp only [h, hne, ne_eq, not_false_eq_true, if_true, if_false]
  cases DiscoveryDocument.ofString? r.body with
  | error failure => rfl
  | ok document => rcases hcodes : document.errorCodes with _ | _ | ⟨code, codes⟩ <;> rfl

theorem document?_ne_ok_of_status_ne (h : r.status ≠ Status.ok) : q.document? r ≠ .ok document := by
  unfold document? Response.ensureOk
  by_cases hbad : r.status = Status.badRequest
  · simp only [hbad, ne_eq, not_true_eq_false, if_false, if_true]
    cases DiscoveryDocument.ofString? r.body with
    | error failure => exact fun heq => nomatch heq
    | ok found =>
        have hne : Status.badRequest ≠ Status.ok := by decide
        rcases hcodes : found.errorCodes with _ | _ | ⟨code, codes⟩ <;>
          simp [hcodes, hne, throw, throwThe, MonadExceptOf.throw]
  · simp only [hbad, h, ne_eq, not_false_eq_true, if_true, if_false]
    exact fun heq => nomatch heq

/-- The document of a response is accepted if the status is 200 and it has no error codes. -/
theorem document?_eq_ok_iff :
    q.document? r = .ok document ↔
      r.status = Status.ok ∧ DiscoveryDocument.ofString? r.body = .ok document ∧
        document.errorCodes.getD [] = [] := by
  by_cases hok : r.status = Status.ok
  · rw [document?_of_status_ok hok, and_iff_right hok]
    cases DiscoveryDocument.ofString? r.body with
    | error failure => simp [Except.bind]
    | ok found =>
        rw [Except.bind, Except.ok.injEq]
        constructor
        · intro h
          rcases hcodes : found.errorCodes with _ | _ | ⟨code, codes⟩ <;> rw [hcodes] at h <;> cases h
          · exact ⟨rfl, by rw [hcodes]; rfl⟩
          · exact ⟨rfl, by rw [hcodes]; rfl⟩
        · rintro ⟨rfl, hnone⟩
          rcases hcodes : found.errorCodes with _ | _ | ⟨code, codes⟩
          · rfl
          · rfl
          · rw [hcodes] at hnone
            cases hnone
  · exact iff_of_false (document?_ne_ok_of_status_ne hok) (fun h => hok h.1)

end Document
end DiscoveryQuery

namespace Validator

open Exchange (Transport Session Request)
open HostName (canonical?)

/-! ## One request -/

theorem request?_of_permits {v : Validator} {host : String} {url : Url}
    (hurl : (v.query host).url? = .ok url) (h : v.client.Permits url) :
    v.request? host = .ok (v.client.request url) := by
  unfold request? Url.enforceHttps
  rw [hurl]
  by_cases hc : v.client.requireHttps = true
  · simp [hc, h hc, bind, Except.bind, pure, Except.pure]
  · simp [hc, bind, Except.bind, pure, Except.pure]

theorem request?_of_not_permits {v : Validator} {host : String} {url : Url}
    (hurl : (v.query host).url? = .ok url) (h : ¬v.client.Permits url) :
    v.request? host = .error (.insecure url) := by
  obtain ⟨hc, hs⟩ : v.client.requireHttps = true ∧ url.scheme ≠ "https" := Classical.not_imp.1 h
  unfold request? Url.enforceHttps
  rw [hurl]
  simp [hc, hs, bind, Except.bind]

/-- Asking about a host sends its request, if there is one, and reads the reply. -/
theorem run_ask (v : Validator) (transport : Transport) (host : String) (session : Session) :
    Exchange.run ((v.query host).ask v.client transport) session =
      match v.request? host with
      | .error failure => (.error failure, session)
      | .ok request =>
          ((transport (request :: session)).bind (v.query host).document?, request :: session) := by
  unfold DiscoveryQuery.ask
  rw [Exchange.run_bind, Exchange.run_lift]
  cases hurl : (v.query host).url? with
  | error failure =>
      have hrequest : v.request? host = .error failure := by
        rw [request?, hurl]
        rfl
      rw [hrequest]
  | ok url =>
      by_cases hp : v.client.Permits url
      · rw [request?_of_permits hurl hp]
        simp only [Exchange.run_bind, Exchange.Client.run_get_of_permits hp, Exchange.run_lift]
        cases transport (v.client.request url :: session) <;> rfl
      · rw [request?_of_not_permits hurl hp]
        simp only [Exchange.run_bind, Exchange.Client.run_get_of_not_permits hp]

/-! ## One validation -/

section Shape

variable {v : Validator} {transport : Transport} {d : Directory} {authority : Url} {host : String}
  {session : Session}

theorem validate_of_shape (shape : authority.authorityHost? = .ok host) :
    v.validate transport d authority session = v.answer transport authority host d session := by
  rw [validate, shape]

/-- A host that is filed is not asked about. -/
theorem validate_of_filed {shared : SharedCluster} (shape : authority.authorityHost? = .ok host)
    (filed : d.get? host = some shared) :
    v.validate transport d authority session = (⟨verdict authority shared, d⟩, session) := by
  rw [validate_of_shape shape, answer, filed]

theorem validate_of_unasked {failure : Failure} (shape : authority.authorityHost? = .ok host)
    (unknown : d.get? host = none) (refused : v.request? host = .error failure) :
    v.validate transport d authority session = (⟨.error failure, d⟩, session) := by
  have hrun := v.run_ask transport host session
  rw [refused] at hrun
  have hask : (v.query host).ask v.client transport session = (.error failure, session) := hrun
  rw [validate_of_shape shape, answer, unknown, hask]
  rfl

theorem validate_of_asked {request : Request} (shape : authority.authorityHost? = .ok host)
    (unknown : d.get? host = none) (asked : v.request? host = .ok request) :
    v.validate transport d authority session =
      (settle authority host d ((transport (request :: session)).bind (v.query host).document?),
        request :: session) := by
  have hrun := v.run_ask transport host session
  rw [asked] at hrun
  have hask : (v.query host).ask v.client transport session =
    ((transport (request :: session)).bind (v.query host).document?, request :: session) := hrun
  rw [validate_of_shape shape, answer, unknown, hask]

end Shape

section Validates

variable (v : Validator) (transport : Transport) (d : Directory) (authority : Url)
  (session : Session)

/-- How a validation can end: its outcome, and all requests so far. -/
inductive Validates : Outcome × Session → Prop
  | misshapen {failure : Failure} (shape : authority.authorityHost? = .error failure) :
      Validates (⟨.error failure, d⟩, session)
  | known {host : String} {shared : SharedCluster} (shape : authority.authorityHost? = .ok host)
      (filed : d.get? host = some shared) : Validates (⟨verdict authority shared, d⟩, session)
  | unasked {host : String} {failure : Failure} (shape : authority.authorityHost? = .ok host)
      (unknown : d.get? host = none) (refused : v.request? host = .error failure) :
      Validates (⟨.error failure, d⟩, session)
  | unanswered {host : String} {request : Request} {failure : Failure}
      (shape : authority.authorityHost? = .ok host) (unknown : d.get? host = none)
      (asked : v.request? host = .ok request)
      (reply : (transport (request :: session)).bind (v.query host).document? = .error failure) :
      Validates (⟨.error failure, d⟩, request :: session)
  | answered {host : String} {request : Request} {document : DiscoveryDocument} {outcome : Outcome}
      (shape : authority.authorityHost? = .ok host) (unknown : d.get? host = none)
      (asked : v.request? host = .ok request)
      (reply : (transport (request :: session)).bind (v.query host).document? = .ok document)
      (settles : Settles authority host d document outcome) :
      Validates (outcome, request :: session)

theorem validates_validate :
    Validates v transport d authority session (v.validate transport d authority session) := by
  cases shape : authority.authorityHost? with
  | error failure =>
      rw [validate, shape]
      exact .misshapen shape
  | ok host =>
      cases found : d.get? host with
      | some shared =>
          rw [validate_of_filed shape found]
          exact .known shape found
      | none =>
          cases asked : v.request? host with
          | error failure =>
              rw [validate_of_unasked shape found asked]
              exact .unasked shape found asked
          | ok request =>
              rw [validate_of_asked shape found asked]
              cases reply : (transport (request :: session)).bind (v.query host).document? with
              | error failure => exact .unanswered shape found asked reply
              | ok document => exact .answered shape found asked reply (settles_settle found document)

end Validates

/-- What validations share. -/
structure State where
  directory : Directory
  session : Session

/-- A validation's reply was accepted: it sent its request about a host without an entry, and got this
document with status 200 and without error codes. -/
structure Accepted (v : Validator) (transport : Transport) (s : State) (authority : Url)
    (host : String) (document : DiscoveryDocument) : Prop where
  shape : authority.authorityHost? = .ok host
  unknown : s.directory.get? host = none
  reply : ∃ request response, v.request? host = .ok request ∧
    transport (request :: s.session) = .ok response ∧ response.status = Status.ok ∧
    DiscoveryDocument.ofString? response.body = .ok document
  codes : document.errorCodes.getD [] = []

theorem accepted_of_reply {v : Validator} {transport : Transport} {s : State} {authority : Url}
    {host : String} {document : DiscoveryDocument} {request : Request}
    (shape : authority.authorityHost? = .ok host) (unknown : s.directory.get? host = none)
    (asked : v.request? host = .ok request)
    (reply : (transport (request :: s.session)).bind (v.query host).document? = .ok document) :
    Accepted v transport s authority host document := by
  cases hr : transport (request :: s.session) with
  | error failure =>
      rw [hr] at reply
      cases reply
  | ok response =>
      rw [hr] at reply
      obtain ⟨status, body, codes⟩ := DiscoveryQuery.document?_eq_ok_iff.1 reply
      exact ⟨shape, unknown, ⟨request, response, asked, hr, status, body⟩, codes⟩

/-- What the rejection of a host that is not recognised leaves: this failure, and one negative entry. -/
structure Rejected (d : Directory) (authority : Url) (host : String) (outcome : Outcome) : Prop where
  result : outcome.result = .error (.authority authority.render .unrecognised)
  filed : ∃ name, canonical? host = some name ∧
    ∀ other, outcome.directory.entry? other =
      if other = name then some ⟨d.next, Cluster.unrecognised⟩ else d.entry? other

/-! ### What an ended validation says -/

section Ended

variable {v : Validator} {transport : Transport} {s : State} {authority : Url} {host : String}
  {outcome : Outcome} {session : Session}

theorem session_of_validates
    (h : Validates v transport s.directory authority s.session (outcome, session)) :
    session = s.session ∨ ∃ host request, authority.authorityHost? = .ok host ∧
      s.directory.contains host = false ∧ v.request? host = .ok request ∧
      session = request :: s.session := by
  have unfiled {host : String} (unknown : s.directory.get? host = none) :
      s.directory.contains host = false := by rw [Directory.contains, unknown]; rfl
  cases h with
  | misshapen shape => exact Or.inl rfl
  | known shape filed => exact Or.inl rfl
  | unasked shape unknown refused => exact Or.inl rfl
  | unanswered shape unknown asked reply =>
      exact Or.inr ⟨_, _, shape, unfiled unknown, asked, rfl⟩
  | answered shape unknown asked reply settles =>
      exact Or.inr ⟨_, _, shape, unfiled unknown, asked, rfl⟩

theorem validated_of_verdict {shared filed : SharedCluster} (h : verdict authority filed = .ok shared) :
    filed = shared ∧ shared.cluster.validated = true := by
  unfold verdict at h
  split at h
  case isTrue validated =>
    cases h
    exact ⟨rfl, validated⟩
  case isFalse => cases h

theorem filed_of_validates {shared : SharedCluster}
    (h : Validates v transport s.directory authority s.session (outcome, session))
    (hok : outcome.result = .ok shared) :
    shared.cluster.validated = true ∧ ∃ host, authority.authorityHost? = .ok host ∧
      outcome.directory.get? host = some shared := by
  cases h with
  | misshapen shape => cases hok
  | known shape filed =>
      obtain ⟨rfl, validated⟩ := validated_of_verdict hok
      exact ⟨validated, _, shape, filed⟩
  | unasked shape unknown refused => cases hok
  | unanswered shape unknown asked reply => cases hok
  | answered shape unknown asked reply settles =>
      cases settles with
      | refused refuses => cases hok
      | unrecognised canonical endpoint => cases hok
      | recognised endpoint complete validated filed =>
          cases hok
          exact ⟨validated, _, shape, filed⟩

theorem accepted_of_changed
    (h : Validates v transport s.directory authority s.session (outcome, session))
    (changed : outcome.directory ≠ s.directory) :
    ∃ host document, Accepted v transport s authority host document ∧
      (document.recognises = true →
        ∀ description ∈ document.clusters.getD [], description.Complete) := by
  cases h with
  | misshapen shape => exact absurd rfl changed
  | known shape filed => exact absurd rfl changed
  | unasked shape unknown refused => exact absurd rfl changed
  | unanswered shape unknown asked reply => exact absurd rfl changed
  | answered shape unknown asked reply settles =>
      refine ⟨_, _, accepted_of_reply shape unknown asked reply, fun endpoint => ?_⟩
      cases settles with
      | refused refuses => exact absurd rfl changed
      | unrecognised canonical none => simp [endpoint] at none
      | recognised _ complete validated filed => exact complete

theorem rejected_file {name : String} (canonical : canonical? host = some name) (d : Directory) :
    Rejected d authority host
      ⟨.error (.authority authority.render .unrecognised), d.file [name] Cluster.unrecognised⟩ := by
  refine ⟨rfl, name, canonical, fun other => ?_⟩
  simp only [Directory.entry?_file, List.mem_singleton]

theorem rejected_of_error {failure : Failure}
    (h : Validates v transport s.directory authority s.session (outcome, session))
    (herror : outcome.result = .error failure) (changed : outcome.directory ≠ s.directory) :
    ∃ host document, Accepted v transport s authority host document ∧
      document.recognises = false ∧ Rejected s.directory authority host outcome := by
  cases h with
  | misshapen shape => exact absurd rfl changed
  | known shape filed => exact absurd rfl changed
  | unasked shape unknown refused => exact absurd rfl changed
  | unanswered shape unknown asked reply => exact absurd rfl changed
  | answered shape unknown asked reply settles =>
      cases settles with
      | refused refuses => exact absurd rfl changed
      | unrecognised canonical none =>
          exact ⟨_, _, accepted_of_reply shape unknown asked reply, none, rejected_file canonical _⟩
      | recognised _ complete validated filed => cases herror

/-- An accepted reply without an endpoint is that rejection, if the host has a name to file it under. -/
theorem rejected_of_accepted {document : DiscoveryDocument}
    (accepted : Accepted v transport s authority host document)
    (endpoint : document.recognises = false) (canonical : (canonical? host).isSome = true) :
    Rejected s.directory authority host
      (v.validate transport s.directory authority s.session).1 := by
  obtain ⟨name, hname⟩ := Option.isSome_iff_exists.1 canonical
  obtain ⟨request, response, asked, reply, status, body⟩ := accepted.reply
  have hdocument : (transport (request :: s.session)).bind (v.query host).document? =
      .ok document := by
    rw [reply]
    exact DiscoveryQuery.document?_eq_ok_iff.2 ⟨status, body, accepted.codes⟩
  rw [validate_of_asked accepted.shape accepted.unknown asked, hdocument,
    settle_of_not_recognises hname endpoint]
  exact rejected_file hname s.directory

end Ended

/-! ### Asking again -/

section Again

variable {v : Validator} {transport : Transport} {d : Directory} {authority : Url} {host : String}
  {session : Session}

theorem validate_of_rejected {outcome : Outcome} (shape : authority.authorityHost? = .ok host)
    (rejected : Rejected d authority host outcome) :
    v.validate transport outcome.directory authority session = (outcome, session) := by
  obtain ⟨name, canonical, filed⟩ := rejected.filed
  have hget : outcome.directory.get? host = some ⟨d.next, Cluster.unrecognised⟩ := by
    rw [Directory.get?_of_canonical? canonical, filed, if_pos rfl]
  rw [validate_of_filed shape hget]
  have hresult : verdict authority ⟨d.next, Cluster.unrecognised⟩ = outcome.result :=
    rejected.result.symm
  rw [hresult]

end Again

/-! ## Validations in a row -/

namespace State

/-- The state behind one more validation. -/
def after (v : Validator) (transport : Transport) (s : State) (authority : Url) : State :=
  let call := v.validate transport s.directory authority s.session
  ⟨call.1.directory, call.2⟩

def afterAll (v : Validator) (transport : Transport) (s : State) (authorities : List Url) : State :=
  authorities.foldl (after v transport) s

theorem session_after (v : Validator) (transport : Transport) (s : State) (authority : Url) :
    ∃ sent, (s.after v transport authority).session = sent ++ s.session ∧ sent.length ≤ 1 := by
  rcases session_of_validates (validates_validate v transport s.directory authority s.session) with
    hsame | ⟨host, request, -, -, -, hsent⟩
  · exact ⟨[], hsame, Nat.zero_le 1⟩
  · exact ⟨[request], hsent, Nat.le_refl 1⟩

/-- A run of validations sends at most as many requests as there are calls. -/
theorem session_afterAll (v : Validator) (transport : Transport) (s : State)
    (authorities : List Url) :
    ∃ sent, (s.afterAll v transport authorities).session = sent ++ s.session ∧
      sent.length ≤ authorities.length := by
  induction authorities generalizing s with
  | nil => exact ⟨[], rfl, Nat.le_refl 0⟩
  | cons authority authorities ih =>
      obtain ⟨first, hfirst, hone⟩ := session_after v transport s authority
      obtain ⟨rest, hrest, hlength⟩ := ih (s.after v transport authority)
      refine ⟨rest ++ first, ?_, ?_⟩
      · rw [List.append_assoc, ← hfirst]
        exact hrest
      · rw [List.length_append, List.length_cons]
        omega

end State

/-- Whatever validations went before, the next one sends one request at most, and none unless its
authority has a host without an entry.  Where it succeeds, the host has the entry that it gives.  Only
an accepted reply changes the directory, and where the validation fails only as the rejection of the
host, which is what an accepted reply without an endpoint comes to for every authority that was read
from a text.  Behind a success or a rejection the same question has the same answer, without a
request. -/
theorem validate_afterAll (v : Validator) (transport : Transport) (start : State)
    (earlier : List Url) (authority : Url) :
    let before := start.afterAll v transport earlier
    let call := v.validate transport before.directory authority before.session
    let again := v.validate transport call.1.directory authority call.2
    (∃ sent, before.session = sent ++ start.session ∧ sent.length ≤ earlier.length) ∧
    (call.2 = before.session ∨ ∃ host request, authority.authorityHost? = .ok host ∧
      before.directory.contains host = false ∧ v.request? host = .ok request ∧
      call.2 = request :: before.session) ∧
    (∀ shared, call.1.result = .ok shared → shared.cluster.validated = true ∧ again = call ∧
      ∃ host, authority.authorityHost? = .ok host ∧ call.1.directory.get? host = some shared) ∧
    (call.1.directory ≠ before.directory →
      ∃ host document, Accepted v transport before authority host document ∧
        (document.recognises = true →
          ∀ description ∈ document.clusters.getD [], description.Complete)) ∧
    (∀ failure, call.1.result = .error failure → call.1.directory = before.directory ∨
      ∃ host document, Accepted v transport before authority host document ∧
        document.recognises = false ∧ Rejected before.directory authority host call.1 ∧
        again = call) ∧
    (authority.HostFromText → ∀ host document,
      Accepted v transport before authority host document → document.recognises = false →
        Rejected before.directory authority host call.1 ∧ again = call) := by
  intro before call again
  have ended : Validates v transport before.directory authority before.session call :=
    validates_validate v transport before.directory authority before.session
  refine ⟨State.session_afterAll v transport start earlier, session_of_validates ended, ?_,
    accepted_of_changed ended, ?_, ?_⟩
  · intro shared hok
    obtain ⟨validated, host, shape, filed⟩ := filed_of_validates ended hok
    refine ⟨validated, ?_, host, shape, filed⟩
    have hverdict : verdict authority shared = call.1.result := by
      rw [hok]
      exact if_pos validated
    calc again = (⟨verdict authority shared, call.1.directory⟩, call.2) :=
          validate_of_filed shape filed
      _ = call := by rw [hverdict]
  · intro failure herror
    by_cases changed : call.1.directory = before.directory
    · exact Or.inl changed
    · obtain ⟨host, document, accepted, endpoint, rejected⟩ :=
        rejected_of_error ended herror changed
      exact Or.inr ⟨host, document, accepted, endpoint, rejected,
        validate_of_rejected accepted.shape rejected⟩
  · intro read host document accepted endpoint
    have canonical := Url.canonical?_of_authorityHost? read accepted.shape
    have rejected : Rejected before.directory authority host call.1 :=
      rejected_of_accepted accepted endpoint (Option.isSome_iff_exists.2 ⟨host, canonical⟩)
    exact ⟨rejected, validate_of_rejected accepted.shape rejected⟩

/-- The authority of a tenant at a host. -/
def tenantAt (host : String) : Url :=
  ⟨"https", some ⟨"", "", some (.name host), none⟩, .segments ["t"], none, none⟩

/-- A host that is recognised, and another one that is not. -/
theorem validate_afterAll_of_rejection :
    let v : Validator := ⟨⟨none, Time.Span.ofSeconds 30, true⟩, Settings.standard⟩
    let transport : Transport := fun session =>
      match session with
      | [] => .error .undecodable
      | [asked] => .ok ⟨asked.url, Status.ok, "\x7b\"tenant_discovery_endpoint\":\"e\"\x7d"⟩
      | asked :: _ => .ok ⟨asked.url, Status.ok, "\x7b\x7d"⟩
    let start : State := ⟨Directory.empty, []⟩
    let first := v.validate transport start.directory (tenantAt "b.net") start.session
    let before := start.afterAll v transport [tenantAt "b.net"]
    let call := v.validate transport before.directory (tenantAt "a.net") before.session
    v.validate transport first.1.directory (tenantAt "b.net") first.2 = first ∧
      Rejected before.directory (tenantAt "a.net") "a.net" call.1 ∧
      v.validate transport call.1.directory (tenantAt "a.net") call.2 = call := by
  intro v transport start
  have shape : (tenantAt "a.net").authorityHost? = .ok "a.net" := by decide +kernel
  have read : (tenantAt "a.net").HostFromText :=
    Url.hostFromText_of_parse (s := "https://a.net/t") (by decide +kernel)
  have settled := (validate_afterAll v transport start [] (tenantAt "b.net")).2.2.1
    ⟨0, Cluster.single "b.net"⟩ (by decide +kernel)
  have after := (validate_afterAll v transport start [tenantAt "b.net"] (tenantAt "a.net")).2.2.2.2
  have failed := after.1 (.authority (tenantAt "a.net").render .unrecognised) (by decide +kernel)
  obtain ⟨host, document, accepted, endpoint, -⟩ := failed.resolve_left (by decide +kernel)
  obtain rfl : host = "a.net" := Except.ok.inj (accepted.shape.symm.trans shape)
  exact ⟨settled.2.1, after.2 read "a.net" document accepted endpoint⟩

end Validator
end RealmTokens
