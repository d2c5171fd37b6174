/-
Settings that are saved and read again.

The reader normalizes the trusted hosts, which can make a host trusted that was not: a name with capitals
is nobody's compared form, so no host is trusted on its account until it is normalized.  Main statements:
hosts that pass the check of the settings are exactly those from which reading drops repeats only; and
settings that have passed it decide everything as before once they have been written and read.
-/
import RealmTokens.Cluster.Flight
import RealmTokens.Proofs.Domain.HostLists
import RealmTokens.Proofs.Settings.Codec

namespace RealmTokens

/-! ## What a validation takes from the settings -/

section Congruence

variable {v w : Validator} (hclient : v.client = w.client)
  (hquery : ∀ host, v.query host = w.query host)

include hclient hquery

theorem Validator.validate_congr : v.validate = w.validate := by
  funext transport directory authority session
  unfold validate answer
  simp only [hclient, hquery]

/-- Only a request, and the reading of its answer, depend on the policy and on who is asked. -/
theorem Flight.next_congr (transport : Exchange.Transport) (f : Flight) (i : Nat) (call : Call) :
    Move.next v transport f i call = Move.next w transport f i call := by
  obtain ⟨authority, phase⟩ := call
  cases phase with
  | unfiled host =>
      show Move.ask v f host = Move.ask w f host
      unfold Move.ask
      rw [Validator.request?, Validator.request?, hquery, hclient]
  | asking host sent =>
      show Move.quiet f (.answered host ((transport sent).bind (v.query host).document?)) = _
      rw [hquery]
      rfl
  | _ => rfl

theorem Flight.run_congr : run v = run w := by
  have hstep : step v = step w := by
    funext transport f i
    unfold step
    simp only [next_congr hclient hquery]
  funext transport f schedule
  rw [run, run, hstep]

end Congruence

namespace Settings

open HostName (canonical?)

/-! ## Trusted hosts -/

/-- A host is trusted if its compared form is listed. -/
theorem trusts_eq_true_iff {s : Settings} {host : String} :
    s.trusts host = true ↔ ∃ form, canonical? host = some form ∧ form ∈ s.trustedHosts := by
  unfold trusts
  cases canonical? host <;> simp

/-- Which of equal hosts are listed does not matter. -/
theorem trusts_eraseDups (s : Settings) (host : String) :
    { s with trustedHosts := s.trustedHosts.eraseDups }.trusts host = s.trusts host := by
  rw [Bool.eq_iff_iff, trusts_eq_true_iff, trusts_eq_true_iff]
  simp only [List.mem_eraseDups]

/-- Hosts that pass the check are exactly those from which reading drops repeats only. -/
theorem withTrustedHosts_self_iff {s : Settings} (others : (s.withTrustedHosts []).validate = .ok ()) :
    s.withTrustedHosts s.trustedHosts = { s with trustedHosts := s.trustedHosts.eraseDups } ↔
      s.validate = .ok () := by
  rw [validate_eq_ok_iff, and_iff_right others, ← HostName.normalize_eq_eraseDups_iff]
  constructor
  · intro h
    exact congrArg trustedHosts h
  · intro h
    rw [withTrustedHosts, h]

/-- Without the check reading can trust a host that was not trusted. -/
example :
    let s := { standard with trustedHosts := ["Login.Contoso.com"] }
    s.trusts "login.contoso.com" = false ∧
      (s.withTrustedHosts s.trustedHosts).trusts "login.contoso.com" = true := by
  decide +kernel

theorem validate_eraseDups {s : Settings} (valid : s.validate = .ok ()) :
    { s with trustedHosts := s.trustedHosts.eraseDups }.validate = .ok () := by
  rw [validate_eq_ok_iff] at valid ⊢
  obtain ⟨others, canonical⟩ := valid
  exact ⟨others, fun host hhost => canonical host (List.mem_eraseDups.1 hhost)⟩

/-! ## Reading again -/

/-- Settings that pass their check, whose limit on responses is a number of 64 bits and whose resolver is
read from its own text, are written as a text and read from it as they were, but for later repeats of
trusted hosts.  They pass the check again and trust the same hosts, and validations ask and answer with
them as before, one after the other or at the same time. -/
theorem read_back_deciding_alike {s : Settings} (fits : s.maxResponseBytes ≤ Json.maxNat64)
    (reread : Url.parse s.cloudResolver.render = .ok s.cloudResolver)
    (valid : s.validate = .ok ()) :
    ∃ document loaded,
      Text.utf8 document = s.toJson.bytes ∧ ofString? document = .ok loaded ∧
      loaded = { s with trustedHosts := s.trustedHosts.eraseDups } ∧
      loaded.validate = .ok () ∧
      (∀ host, loaded.trusts host = s.trusts host) ∧
      ∀ correlation,
        Validator.validate ⟨.ofSettings loaded correlation, loaded⟩ =
            Validator.validate ⟨.ofSettings s correlation, s⟩ ∧
          Flight.run ⟨.ofSettings loaded correlation, loaded⟩ =
            Flight.run ⟨.ofSettings s correlation, s⟩ := by
  obtain ⟨document, hdocument, hread⟩ := exists_document fits reread
  have others := (validate_eq_ok_iff.1 valid).1
  rw [(withTrustedHosts_self_iff others).2 valid] at hread
  refine ⟨document, _, hdocument, hread, rfl, validate_eraseDups valid, s.trusts_eraseDups,
    fun correlation => ?_⟩
  have hquery (client : Exchange.Client) (host : String) :
      Validator.query ⟨client, { s with trustedHosts := s.trustedHosts.eraseDups }⟩ host =
        Validator.query ⟨client, s⟩ host := by
    rw [Validator.query, Validator.query, Validator.trustedHost, Validator.trustedHost,
      s.trusts_eraseDups host]
  exact ⟨Validator.validate_congr rfl (hquery _), Flight.run_congr rfl (hquery _)⟩

/-- Repeated hosts, one of them with a space inside and a letter outside ASCII, spans and a number at their
limits, and a resolver that is not encrypted, with a user, a port and a query. -/
theorem read_back_deciding_alike_of_repeats :
    let resolver : Url := ⟨"http", some ⟨"u", "", some (.name "drs.example"), some 8080⟩,
      .segments ["a", ""], some "q", none⟩
    let longest : Time.Span := ⟨Time.maxSeconds, 999999999, by decide, by decide⟩
    let s : Settings := ⟨longest, false, minRequestTimeout, Json.maxNat64, resolver, " B. ",
      ["b", "é a", "b", "é a"]⟩
    s.maxResponseBytes ≤ Json.maxNat64 ∧ Url.parse s.cloudResolver.render = .ok s.cloudResolver ∧
      s.validate = .ok () ∧
      ∃ document loaded, Text.utf8 document = s.toJson.bytes ∧ ofString? document = .ok loaded ∧
        loaded = { s with trustedHosts := ["b", "é a"] } ∧ loaded.validate = .ok () ∧
        loaded.trusts "é A.." = true := by
  intro resolver longest s
  have fits : s.maxResponseBytes ≤ Json.maxNat64 := Nat.le_refl _
  have reread : Url.parse s.cloudResolver.render = .ok s.cloudResolver := by decide +kernel
  have valid : s.validate = .ok () := by decide +kernel
  have htrusted : s.trusts "é A.." = true := by decide +kernel
  obtain ⟨document, loaded, written, read, same, again, trusts, -⟩ :=
    read_back_deciding_alike fits reread valid
  have hhosts : s.trustedHosts.eraseDups = ["b", "é a"] := by decide +kernel
  rw [hhosts] at same
  exact ⟨fits, reread, valid, document, loaded, written, read, same, again,
    (trusts _).trans htrusted⟩

end Settings
end RealmTokens
