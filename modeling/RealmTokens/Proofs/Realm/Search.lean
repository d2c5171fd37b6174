/-
The search for a registration: the organisation's own host first, the public resolver only behind an
own host that cannot be found.  Main statement: a search finds a registration exactly when one of the
two hosts answered with it in that order.
-/
import RealmTokens.Proofs.Exchange.Answers
import RealmTokens.Realm.Registration

namespace RealmTokens

open Exchange

namespace Resolution

/-- No URL that cannot be made counts as a host that cannot be found. -/
theorem url?_ne_unresolved (r : Resolution) (domain : String) (cloudResolver : Url)
    (host : String) : r.url? domain cloudResolver ≠ .error (.hostUnresolved host) := by
  unfold url?
  intro h
  cases r with
  | onPremises =>
      cases hu : Url.parse ("https://" ++ hostMark ++ domain ++ "/" ++ contractPath) <;>
        simp [hu, Failure.ofUrl, bind, Except.bind, pure, Except.pure] at h
  | cloud =>
      cases hu : cloudResolver.join (domain ++ "/" ++ contractPath) <;>
        simp [hu, Failure.ofUrl, bind, Except.bind, pure, Except.pure] at h

end Resolution

namespace Registrar

/-! ## One host -/

/-- The host of a resolution, asked at `url` after `history`, answered with a registration. -/
def Answers (r : Registrar) (transport : Transport) (history : Session) (resolution : Resolution)
    (name : String) (url : Url) (registration : Registration) : Prop :=
  resolution.url? name r.cloudResolver = .ok url ∧
    r.client.Answered transport history Registration.ofJson? url registration

/-- The host of a resolution, asked at `url` after `history`, could not be found. -/
def Missing (r : Registrar) (transport : Transport) (history : Session) (resolution : Resolution)
    (name : String) (url : Url) (host : String) : Prop :=
  resolution.url? name r.cloudResolver = .ok url ∧
    r.client.Unresolved transport history url host

theorem run_fetch_eq_ok_iff {r : Registrar} {transport : Transport} {resolution : Resolution}
    {name : String} {session last : Session} {registration : Registration} :
    run (r.fetch transport resolution name) session = (.ok registration, last) ↔
      ∃ url, r.Answers transport session resolution name url registration ∧
        last = r.client.request url :: session := by
  unfold fetch Answers
  rw [run_bind, run_lift]
  cases resolution.url? name r.cloudResolver with
  | error failure => simp
  | ok url => simp [Client.run_fetch_eq_ok_iff, and_assoc]

theorem run_fetch_unresolved_iff {r : Registrar} {transport : Transport}
    {resolution : Resolution} {name : String} {session last : Session} {host : String} :
    run (r.fetch transport resolution name) session = (.error (.hostUnresolved host), last) ↔
      ∃ url, r.Missing transport session resolution name url host ∧
        last = r.client.request url :: session := by
  unfold fetch Missing
  rw [run_bind, run_lift]
  cases hu : resolution.url? name r.cloudResolver with
  | error failure =>
      have hne : failure ≠ .hostUnresolved host := fun h =>
        Resolution.url?_ne_unresolved resolution name r.cloudResolver host (h ▸ hu)
      simp [hne]
  | ok url => simp [Client.run_fetch_unresolved_iff, and_assoc]

/-! ## One leg -/

theorem run_leg (r : Registrar) (transport : Transport) (resolution : Resolution) (name : String)
    (session : Session) :
    run (r.leg transport resolution name) session =
      (.ok (Leg.ofResult (run (r.fetch transport resolution name) session).1),
        (run (r.fetch transport resolution name) session).2) := rfl

/-- Asking in the cloud finds just what the public resolver answers. -/
theorem run_discoverInCloud_eq_ok_iff {r : Registrar} {transport : Transport} {name : String}
    {session last : Session} {registration : Registration} :
    run (r.discoverInCloud transport name) session = (.ok registration, last) ↔
      run (r.fetch transport .cloud name) session = (.ok registration, last) := by
  unfold discoverInCloud
  rw [run_bind, run_leg]
  rcases run (r.fetch transport .cloud name) session with ⟨failure | found, after⟩
  · cases failure <;> simp [Leg.ofResult]
  · simp [Leg.ofResult]

/-- The cloud is asked exactly behind an own host that cannot be found. -/
theorem run_discover_eq_ok_iff {r : Registrar} {transport : Transport} {domain : String}
    {session last : Session} {registration : Registration} :
    run (r.discover transport domain) session = (.ok registration, last) ↔
      ∃ name, domain? domain = .ok name ∧
        (run (r.fetch transport .onPremises name) session = (.ok registration, last) ∨
          ∃ host after,
            run (r.fetch transport .onPremises name) session =
              (.error (.hostUnresolved host), after) ∧
            run (r.fetch transport .cloud name) after = (.ok registration, last)) := by
  unfold discover
  rw [run_bind, run_lift]
  cases domain? domain with
  | error failure => simp
  | ok name =>
      simp only [run_bind, run_leg, Except.ok.injEq, exists_eq_left']
      rcases run (r.fetch transport .onPremises name) session with ⟨failure | found, after⟩
      · cases failure <;> simp [Leg.ofResult, run_discoverInCloud_eq_ok_iff, and_assoc]
      · simp [Leg.ofResult]

/-! ## The search -/

/-- A search for the registration of a name, begun after `history`, found it with the request that
`last` ends in. -/
inductive Found (r : Registrar) (transport : Transport) (history : Session) (name : String) :
    Registration → Session → Prop
  | onPremises {url : Url} {registration : Registration}
      (answers : r.Answers transport history .onPremises name url registration) :
      Found r transport history name registration (r.client.request url :: history)
  | cloud {own url : Url} {host : String} {registration : Registration}
      (missing : r.Missing transport history .onPremises name own host)
      (answers :
        r.Answers transport (r.client.request own :: history) .cloud name url registration) :
      Found r transport history name registration
        (r.client.request url :: r.client.request own :: history)

theorem run_discover_ok_iff_found {r : Registrar} {transport : Transport} {domain : String}
    {session last : Session} {registration : Registration} :
    run (r.discover transport domain) session = (.ok registration, last) ↔
      ∃ name, domain? domain = .ok name ∧
        Found r transport session name registration last := by
  rw [run_discover_eq_ok_iff]
  refine exists_congr (fun name => and_congr_right (fun _ => ?_))
  constructor
  · rintro (h | ⟨host, after, hm, h⟩)
    · obtain ⟨url, ha, rfl⟩ := run_fetch_eq_ok_iff.1 h
      exact .onPremises ha
    · obtain ⟨own, missing, rfl⟩ := run_fetch_unresolved_iff.1 hm
      obtain ⟨url, answers, rfl⟩ := run_fetch_eq_ok_iff.1 h
      exact .cloud missing answers
  · rintro (⟨ha⟩ | ⟨hm, ha⟩)
    · exact Or.inl (run_fetch_eq_ok_iff.2 ⟨_, ha, rfl⟩)
    · exact Or.inr ⟨_, _, run_fetch_unresolved_iff.2 ⟨_, hm, rfl⟩,
        run_fetch_eq_ok_iff.2 ⟨_, ha, rfl⟩⟩

end Registrar
end RealmTokens
