/-
The legs of a search, one behind the other.

`search` is the loop: it asks one host, and goes on only behind a host that cannot be found and only
while somebody else is left to ask.  Main statement: a search sends two requests at most, the second one
only behind an own host that the transport could not find; every other end of the first leg is the end
of the search; what it finds is what the newest reply says; and a search that found no host at all
fails with the URL of the cloud and not with a host.
-/
import Mathlib.Control.Monad.Basic
import RealmTokens.Proofs.Realm.Search

namespace RealmTokens

open Exchange

/-! ## Who is left to ask -/

namespace Resolution

/-- How many others can still be asked. -/
def rest : Resolution → Nat
  | .onPremises => 1
  | .cloud => 0

theorem rest_of_fallback? {resolution next : Resolution} (h : resolution.fallback? = some next) :
    next.rest < resolution.rest := by
  cases resolution with
  | onPremises =>
      obtain rfl := Option.some.inj h
      exact Nat.zero_lt_one
  | cloud => cases h

/-- What holds of a resolution wherever it holds of its fallback holds of all of them. -/
theorem fallback_induction {p : Resolution → Prop}
    (step : ∀ resolution, (∀ next, resolution.fallback? = some next → p next) → p resolution)
    (resolution : Resolution) : p resolution :=
  step resolution (fun next _ => fallback_induction step next)
termination_by resolution.rest
decreasing_by exact rest_of_fallback? ‹_›

end Resolution

namespace Registrar

/-! ## The loop -/

/-- Asks one host after the other, as long as they cannot be found. -/
def search (r : Registrar) (transport : Transport) (name : String) (resolution : Resolution) :
    Exchange Registration := do
  match ← r.leg transport resolution name with
  | .resolved registration => return registration
  | .failed failure => throw failure
  | .hostUnresolved =>
      match _ : resolution.fallback? with
      | some next => r.search transport name next
      | none => throw (r.unresolved resolution name)
termination_by resolution.rest
decreasing_by exact Resolution.rest_of_fallback? ‹_›

variable {r : Registrar} {transport : Transport} {resolution next : Resolution} {name : String}
  {session : Session}

/-- A leg that ends in any other way than without a host ends the search. -/
theorem run_search_of_settled
    (settled : ∀ host after,
      run (r.fetch transport resolution name) session ≠ (.error (.hostUnresolved host), after)) :
    run (r.search transport name resolution) session =
      run (r.fetch transport resolution name) session := by
  unfold search
  rw [run_bind, run_leg]
  rcases hrun : run (r.fetch transport resolution name) session with ⟨failure | registration, after⟩
  · cases failure with
    | hostUnresolved host => exact absurd hrun (settled host after)
    | _ => rfl
  · rfl

theorem run_search_of_unresolved {host : String} {after : Session}
    (unresolved : run (r.fetch transport resolution name) session =
      (.error (.hostUnresolved host), after)) :
    run (r.search transport name resolution) session =
      match resolution.fallback? with
      | some next => run (r.search transport name next) after
      | none => (.error (r.unresolved resolution name), after) := by
  rw [search, run_bind, run_leg, unresolved]
  cases resolution <;> rfl

theorem run_discoverInCloud (r : Registrar) (transport : Transport) (name : String)
    (session : Session) :
    run (r.discoverInCloud transport name) session =
      run (r.search transport name .cloud) session := by
  unfold discoverInCloud
  rw [run_bind, run_leg, search, run_bind, run_leg]
  rcases run (r.fetch transport .cloud name) session with ⟨failure | registration, after⟩
  · cases failure <;> rfl
  · rfl

/-- Both hosts are asked in one loop. -/
theorem run_discover (r : Registrar) (transport : Transport) (domain : String) (session : Session) :
    run (r.discover transport domain) session =
      match domain? domain with
      | .error failure => (.error failure, session)
      | .ok name => run (r.search transport name .onPremises) session := by
  unfold discover
  rw [run_bind, run_lift]
  cases domain? domain with
  | error failure => rfl
  | ok name =>
      simp only
      rw [run_bind, run_leg, search, run_bind, run_leg]
      rcases run (r.fetch transport .onPremises name) session with ⟨failure | registration, after⟩
      · cases failure with
        | hostUnresolved host => exact run_discoverInCloud r transport name after
        | _ => rfl
      · rfl

/-! ## What the loop keeps -/

theorem session_fetch (r : Registrar) (transport : Transport) (resolution : Resolution)
    (name : String) (session : Session) :
    (run (r.fetch transport resolution name) session).2 = session ∨
      ∃ url, resolution.url? name r.cloudResolver = .ok url ∧
        (run (r.fetch transport resolution name) session).2 = r.client.request url :: session := by
  unfold fetch
  rw [run_bind, run_lift]
  cases resolution.url? name r.cloudResolver with
  | error failure => exact Or.inl rfl
  | ok url =>
      by_cases permits : r.client.Permits url
      · refine Or.inr ⟨url, rfl, ?_⟩
        simp only [Client.run_fetch_of_permits permits]
      · left
        simp only [Client.run_fetch_of_not_permits permits]

/-- Either the transport found no host for a leg, or the leg ended in some other way. -/
theorem unresolved_or_settled (r : Registrar) (transport : Transport) (resolution : Resolution)
    (name : String) (session : Session) :
    (∃ url host, r.Missing transport session resolution name url host ∧
      run (r.fetch transport resolution name) session =
        (.error (.hostUnresolved host), r.client.request url :: session)) ∨
    ∀ host after,
      run (r.fetch transport resolution name) session ≠ (.error (.hostUnresolved host), after) := by
  by_cases h : ∃ host after,
      run (r.fetch transport resolution name) session = (.error (.hostUnresolved host), after)
  · obtain ⟨host, after, hrun⟩ := h
    obtain ⟨url, missing, rfl⟩ := run_fetch_unresolved_iff.1 hrun
    exact Or.inl ⟨url, host, missing, hrun⟩
  · exact Or.inr (fun host after hrun => h ⟨host, after, hrun⟩)

theorem unresolved_ne (r : Registrar) (resolution : Resolution) (name host : String) :
    r.unresolved resolution name ≠ .hostUnresolved host := by
  unfold unresolved
  cases hurl : resolution.url? name r.cloudResolver with
  | error failure =>
      intro h
      have hfailure : failure = .hostUnresolved host := h
      exact Resolution.url?_ne_unresolved resolution name r.cloudResolver host (hfailure ▸ hurl)
  | ok url => exact fun h => nomatch h

/-- No search ends with a host that cannot be found. -/
theorem run_search_ne_unresolved (r : Registrar) (transport : Transport) (name : String)
    (resolution : Resolution) (session : Session) (host : String) :
    (run (r.search transport name resolution) session).1 ≠ .error (.hostUnresolved host) := by
  induction resolution using Resolution.fallback_induction generalizing session with
  | step resolution ih =>
      rcases unresolved_or_settled r transport resolution name session with
        ⟨url, missing, -, hrun⟩ | settled
      · rw [run_search_of_unresolved hrun]
        cases hnext : resolution.fallback? with
        | some next => exact ih next hnext _
        | none => exact fun h => unresolved_ne r resolution name host (Except.error.inj h)
      · rw [run_search_of_settled settled]
        exact fun h => settled host _ (Prod.ext h rfl)

/-- What a search finds is the answer to its newest request. -/
theorem answers_of_run_search {registration : Registration} {last : Session}
    (h : run (r.search transport name resolution) session = (.ok registration, last)) :
    ∃ asked url sent, r.Answers transport (sent ++ session) asked name url registration ∧
      last = r.client.request url :: (sent ++ session) := by
  induction resolution using Resolution.fallback_induction generalizing session with
  | step resolution ih =>
      rcases unresolved_or_settled r transport resolution name session with
        ⟨own, host, -, hrun⟩ | settled
      · rw [run_search_of_unresolved hrun] at h
        cases hnext : resolution.fallback? with
        | none =>
            rw [hnext] at h
            cases h
        | some next =>
            rw [hnext] at h
            obtain ⟨asked, url, sent, answers, hlast⟩ := ih next hnext h
            refine ⟨asked, url, sent ++ [r.client.request own], ?_, ?_⟩
            · rwa [List.append_assoc]
            · rwa [List.append_assoc]
      · rw [run_search_of_settled settled] at h
        obtain ⟨url, answers, hlast⟩ := run_fetch_eq_ok_iff.1 h
        exact ⟨resolution, url, [], answers, hlast⟩

/-! ## The search -/

theorem run_search_of_missing {url : Url} {host : String}
    (missing : r.Missing transport session resolution name url host) :
    run (r.search transport name resolution) session =
      match resolution.fallback? with
      | some next => run (r.search transport name next) (r.client.request url :: session)
      | none => (.error (r.unresolved resolution name), r.client.request url :: session) :=
  run_search_of_unresolved (run_fetch_unresolved_iff.2 ⟨url, missing, rfl⟩)

/-- A search that begins at the own host asks it at most, or the cloud behind it. -/
theorem session_search (r : Registrar) (transport : Transport) (name : String) (session : Session) :
    let last := (run (r.search transport name .onPremises) session).2
    last = session ∨ ∃ own, Resolution.onPremises.url? name r.cloudResolver = .ok own ∧
      (last = r.client.request own :: session ∨
        ∃ host cloud, r.Missing transport session .onPremises name own host ∧
          Resolution.cloud.url? name r.cloudResolver = .ok cloud ∧
          last = r.client.request cloud :: r.client.request own :: session) := by
  intro last
  rcases unresolved_or_settled r transport .onPremises name session with
    ⟨own, host, missing, -⟩ | settled
  · have hlast : last = (run (r.search transport name .cloud) (r.client.request own :: session)).2 :=
      congrArg Prod.snd (run_search_of_missing missing)
    have hcloud : last =
        (run (r.fetch transport .cloud name) (r.client.request own :: session)).2 := by
      rw [hlast]
      rcases unresolved_or_settled r transport .cloud name (r.client.request own :: session) with
        ⟨cloud, host', missing', hrun⟩ | settled
      · rw [run_search_of_missing missing', hrun]
        rfl
      · rw [run_search_of_settled settled]
    refine Or.inr ⟨own, missing.1, ?_⟩
    rcases session_fetch r transport .cloud name (r.client.request own :: session) with
      hsame | ⟨cloud, hurl, hsent⟩
    · exact Or.inl (hcloud.trans hsame)
    · exact Or.inr ⟨host, cloud, missing, hurl, hcloud.trans hsent⟩
  · have hlast : last = (run (r.fetch transport .onPremises name) session).2 :=
      congrArg Prod.snd (run_search_of_settled settled)
    rcases session_fetch r transport .onPremises name session with hsame | ⟨own, hurl, hsent⟩
    · exact Or.inl (hlast.trans hsame)
    · exact Or.inr ⟨own, hurl, Or.inl (hlast.trans hsent)⟩

theorem domain?_ne_unresolved (domain host : String) :
    domain? domain ≠ .error (.hostUnresolved host) := by
  unfold domain?
  split
  · exact fun h => nomatch h
  · split
    · exact fun h => nomatch h
    · exact fun h => nomatch h

/-- A search asks the own host at most, or the cloud behind an own host that cannot be found.  Where
the own host ends in another way, this is how the search ends.  A registration is what the newest reply
says, with status 200.  No search ends with a host that cannot be found: where there is neither host it
ends with the URL of the cloud. -/
theorem run_discover_legs (r : Registrar) (transport : Transport) (domain : String)
    (session : Session) :
    let found := run (r.discover transport domain) session
    (found.2 = session ∨ ∃ name own, domain? domain = .ok name ∧
      Resolution.onPremises.url? name r.cloudResolver = .ok own ∧
      (found.2 = r.client.request own :: session ∨
        ∃ host cloud, r.Missing transport session .onPremises name own host ∧
          Resolution.cloud.url? name r.cloudResolver = .ok cloud ∧
          found.2 = r.client.request cloud :: r.client.request own :: session)) ∧
    (∀ name, domain? domain = .ok name →
      (∀ own host, ¬r.Missing transport session .onPremises name own host) →
        found = run (r.fetch transport .onPremises name) session) ∧
    (∀ registration, found.1 = .ok registration → ∃ request sent response,
      found.2 = request :: (sent ++ session) ∧ transport found.2 = .ok response ∧
        response.status = Status.ok ∧
        Json.decode? Registration.ofJson? response.body = some registration) ∧
    (∀ host, found.1 ≠ .error (.hostUnresolved host)) ∧
    (∀ name own cloud host host', domain? domain = .ok name →
      r.Missing transport session .onPremises name own host →
      r.Missing transport (r.client.request own :: session) .cloud name cloud host' →
        found = (.error (.fetch cloud unresolvedReason),
          r.client.request cloud :: r.client.request own :: session)) := by
  intro found
  have refused {failure : Failure} (hname : domain? domain = .error failure) :
      found = (.error failure, session) := by
    simp only [found, run_discover, hname]
  have searched {name : String} (hname : domain? domain = .ok name) :
      found = run (r.search transport name .onPremises) session := by
    simp only [found, run_discover, hname]
  refine ⟨?_, ?_, ?_, ?_, ?_⟩
  · cases hname : domain? domain with
    | error failure => exact Or.inl (congrArg Prod.snd (refused hname))
    | ok name =>
        rw [searched hname]
        exact (session_search r transport name session).imp_right
          (fun ⟨own, hown, hsent⟩ => ⟨name, own, rfl, hown, hsent⟩)
  · intro name hname present
    rw [searched hname]
    rcases unresolved_or_settled r transport .onPremises name session with
      ⟨own, host, missing, -⟩ | settled
    · exact absurd missing (present own host)
    · exact run_search_of_settled settled
  · intro registration hok
    cases hname : domain? domain with
    | error failure =>
        rw [refused hname] at hok
        cases hok
    | ok name =>
        obtain ⟨asked, url, sent, ⟨-, -, response, reply, status, body⟩, hlast⟩ :=
          answers_of_run_search ((searched hname).symm.trans (Prod.ext hok rfl))
        exact ⟨r.client.request url, sent, response, hlast,
          (congrArg transport hlast).trans reply, status, body⟩
  · intro host
    cases hname : domain? domain with
    | error failure =>
        rw [refused hname]
        intro h
        exact domain?_ne_unresolved domain host
          (hname.trans (congrArg Except.error (Except.error.inj h)))
    | ok name =>
        rw [searched hname]
        exact run_search_ne_unresolved r transport name .onPremises session host
  · intro name own cloud host host' hname missing missing'
    have hfailure : r.unresolved .cloud name = .fetch cloud unresolvedReason := by
      rw [unresolved, missing'.1]
    calc found = run (r.search transport name .onPremises) session := searched hname
      _ = run (r.search transport name .cloud) (r.client.request own :: session) :=
          run_search_of_missing missing
      _ = (.error (r.unresolved .cloud name),
            r.client.request cloud :: r.client.request own :: session) :=
          run_search_of_missing missing'
      _ = (.error (.fetch cloud unresolvedReason),
            r.client.request cloud :: r.client.request own :: session) := by rw [hfailure]

/-- Hosts that nobody finds, an own host that is broken, and one that only the cloud answers for. -/
theorem run_discover_legs_of_lost_hosts :
    let r : Registrar := ⟨⟨none, Time.Span.ofSeconds 30, true⟩, Settings.defaultCloudResolver⟩
    let own : Url := ⟨"https", some ⟨"", "", some (.name "enterpriseregistration.a.net"), none⟩,
      .segments ["enrollmentserver", "contract"], some "api-version=1.0", none⟩
    let cloud : Url :=
      ⟨"https", some ⟨"", "", some (.name "enterpriseregistration.windows.net"), none⟩,
        .segments ["a.net", "enrollmentserver", "contract"], some "api-version=1.0", none⟩
    let lost : Transport := fun _ => .error (.hostUnresolved "a.net")
    let broken : Transport := fun _ => .ok ⟨own, ⟨500⟩, ""⟩
    let hidden : Transport := fun session =>
      match session with
      | [_] => .error (.hostUnresolved "a.net")
      | _ => .ok ⟨cloud, Status.ok, "[[\"https://fs.net\"]]"⟩
    run (r.discover lost "A.net.") [] =
        (.error (.fetch cloud unresolvedReason), [r.client.request cloud, r.client.request own]) ∧
      run (r.discover broken "a.net") [] = run (r.fetch broken .onPremises "a.net") [] ∧
      ∃ registration request sent response,
        (run (r.discover hidden "a.net") []).1 = .ok registration ∧
          (run (r.discover hidden "a.net") []).2 = request :: (sent ++ []) ∧
          hidden (run (r.discover hidden "a.net") []).2 = .ok response ∧
          response.status = Status.ok ∧
          Json.decode? Registration.ofJson? response.body = some registration := by
  intro r own cloud lost broken hidden
  have hown : Resolution.onPremises.url? "a.net" r.cloudResolver = .ok own := by decide +kernel
  have hcloud : Resolution.cloud.url? "a.net" r.cloudResolver = .ok cloud := by decide +kernel
  refine ⟨?_, ?_, ?_⟩
  · exact (run_discover_legs r lost "A.net." []).2.2.2.2 "a.net" own cloud "a.net" "a.net"
      (by decide +kernel) ⟨hown, fun _ => rfl, rfl⟩ ⟨hcloud, fun _ => rfl, rfl⟩
  · refine (run_discover_legs r broken "a.net" []).2.1 "a.net" (by decide +kernel) ?_
    exact fun url host missing => nomatch missing.2.2
  · have hfound : (run (r.discover hidden "a.net") []).1 =
        .ok ⟨⟨"https", some ⟨"", "", some (.name "fs.net"), none⟩, .segments [""], none, none⟩⟩ := by
      decide +kernel
    obtain ⟨request, sent, response, reads⟩ :=
      (run_discover_legs r hidden "a.net" []).2.2.1 _ hfound
    exact ⟨_, request, sent, response, hfound, reads⟩

end Registrar
end RealmTokens
