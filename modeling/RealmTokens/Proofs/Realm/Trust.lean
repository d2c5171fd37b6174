/-
When trust is established.

`Heard` is the chain of answers behind a decision: a registration of the domain, and a document from
the host that this very registration names, asked about this very authority.  Main statement: trust is
established exactly when such a chain exists and one of the document's links trusts the realm, whatever
the transport does.
-/
import RealmTokens.Proofs.Realm.Search
import RealmTokens.Realm.Trust

namespace RealmTokens
namespace WebFinger

open Exchange

/-- The host of a registration, asked about an authority after `history`, answered with a document. -/
def Answers (client : Client) (transport : Transport) (history : Session) (authority : Url)
    (registration : Registration) (url : Url) (document : WebFinger) : Prop :=
  url? authority registration client.requireHttps = .ok url ∧
    client.Answered transport history ofJson? url document

theorem run_request_eq_ok_iff {client : Client} {transport : Transport} {authority : Url}
    {registration : Registration} {session last : Session} {document : WebFinger} :
    run (request client transport authority registration) session = (.ok document, last) ↔
      ∃ url, Answers client transport session authority registration url document ∧
        last = client.request url :: session := by
  unfold request Answers
  rw [run_bind, run_lift]
  cases url? authority registration client.requireHttps with
  | error failure => simp
  | ok url => simp [Client.run_fetch_eq_ok_iff, and_assoc]

end WebFinger

namespace Trust

open Exchange

/-- A search begun after `history` led over a registration of `domain` to a document about
`authority`, with all requests of `last` sent on the way. -/
inductive Heard (r : Registrar) (transport : Transport) (history : Session) (authority : Url)
    (domain : String) : WebFinger → Session → Prop
  | intro {name : String} {registration : Registration} {found : Session} {url : Url}
      {document : WebFinger}
      (canonical : Registrar.domain? domain = .ok name)
      (registered : r.Found transport history name registration found)
      (answers : WebFinger.Answers r.client transport found authority registration url document) :
      Heard r transport history authority domain document (r.client.request url :: found)

/-- A decision is made exactly when a document was heard, and it is the document's. -/
theorem run_validate_eq_ok_iff {r : Registrar} {transport : Transport} {authority : Url}
    {domain : String} {session last : Session} {decision : Trust} :
    run (validate r transport authority domain) session = (.ok decision, last) ↔
      ∃ document, Heard r transport session authority domain document last ∧
        ofDocument authority document = decision := by
  unfold validate
  constructor
  · intro h
    rw [run_bind] at h
    rcases hd : run (r.discover transport domain) session with ⟨failure | registration, found⟩
    · simp [hd] at h
    simp only [hd, run_bind] at h
    rcases hw : run (WebFinger.request r.client transport authority registration) found with
      ⟨failure | document, after⟩
    · simp [hw] at h
    simp only [hw, run_pure, Prod.mk.injEq, Except.ok.injEq] at h
    obtain ⟨hdecision, rfl⟩ := h
    obtain ⟨name, canonical, registered⟩ := Registrar.run_discover_ok_iff_found.1 hd
    obtain ⟨url, answers, rfl⟩ := WebFinger.run_request_eq_ok_iff.1 hw
    exact ⟨document, .intro canonical registered answers, hdecision⟩
  · rintro ⟨document, ⟨canonical, registered, answers⟩, rfl⟩
    rw [run_bind_ok (Registrar.run_discover_ok_iff_found.2 ⟨_, canonical, registered⟩),
      run_bind_ok (WebFinger.run_request_eq_ok_iff.2 ⟨_, answers, rfl⟩), run_pure]

theorem isEstablished_eq_true_iff {outcome : Except Failure Trust} :
    isEstablished outcome = true ↔ outcome = .ok .trusted := by
  rcases outcome with failure | decision
  · simp [isEstablished]
  · cases decision <;> simp [isEstablished, isTrusted]

theorem isEstablished_eq_false_iff {outcome : Except Failure Trust} :
    isEstablished outcome = false ↔
      (∃ failure, outcome = .error failure) ∨ outcome = .ok .notTrusted := by
  rcases outcome with failure | decision
  · simp [isEstablished]
  · cases decision <;> simp [isEstablished, isTrusted]

theorem ofDocument_eq_trusted_iff {authority : Url} {document : WebFinger} :
    ofDocument authority document = .trusted ↔ realmIsTrusted authority document = true := by
  unfold ofDocument
  by_cases h : realmIsTrusted authority document = true <;> simp [h]

/-- Trust is established exactly by a document that was heard and has a link to the authority's
realm.  Every other validation fails or denies trust, wherever it ends. -/
theorem isEstablished_validate_iff (r : Registrar) (transport : Transport) (authority : Url)
    (domain : String) (session : Session) :
    let outcome := (run (validate r transport authority domain) session).1
    let proof := ∃ document last, Heard r transport session authority domain document last ∧
      realmIsTrusted authority document = true
    (isEstablished outcome = true ↔ proof) ∧
      (¬proof → isEstablished outcome = false ∧
        ((∃ failure, outcome = .error failure) ∨ outcome = .ok .notTrusted)) := by
  intro outcome proof
  have established : isEstablished outcome = true ↔ proof := by
    rw [isEstablished_eq_true_iff]
    constructor
    · intro h
      obtain ⟨document, heard, hd⟩ := run_validate_eq_ok_iff.1 (Prod.ext h rfl)
      exact ⟨document, _, heard, ofDocument_eq_trusted_iff.1 hd⟩
    · rintro ⟨document, last, heard, hr⟩
      have h := run_validate_eq_ok_iff.2 ⟨document, heard, ofDocument_eq_trusted_iff.2 hr⟩
      exact congrArg Prod.fst h
  refine ⟨established, fun none => ?_⟩
  have denied : isEstablished outcome = false := by
    rw [← Bool.not_eq_true, established]
    exact none
  exact ⟨denied, isEstablished_eq_false_iff.1 denied⟩

/-- An own host that cannot be found, a public resolver that answers behind it, and a registered host
that trusts the authority. -/
theorem isEstablished_validate_of_fallback :
    let authority : Url :=
      ⟨"https", some ⟨"", "", some (.name "sts.net"), none⟩, .segments [""], none, none⟩
    let r : Registrar := ⟨⟨none, Time.Span.ofSeconds 30, true⟩, Settings.defaultCloudResolver⟩
    let registration := "[[\"https://fs.net\"]]"
    let document := "[null,[[\"" ++ realmRelation ++ "\",\"" ++ authority.render ++ "\"]]]"
    let transport : Transport := fun session =>
      match session with
      | [] => .error .undecodable
      | [_] => .error (.hostUnresolved "a.net")
      | [asked, _] => .ok ⟨asked.url, Status.ok, registration⟩
      | asked :: _ => .ok ⟨asked.url, Status.ok, document⟩
    ∃ document last, Heard r transport [] authority "a.net" document last ∧
      realmIsTrusted authority document = true := by
  intro authority r registration document transport
  have established :
      isEstablished (run (validate r transport authority "a.net") []).1 = true := by
    decide +kernel
  exact (isEstablished_validate_iff r transport authority "a.net" []).1.1 established

end Trust
end RealmTokens
