/-
Lists of hosts in their compared form.

Main statement: a list is normalized to the compared forms of its names, each once and in the order in
which they come first; a second pass changes nothing exactly when no form ends in white space, and the
settings that trust these hosts are refused on their account exactly when one does.  From hosts in their
compared form, and from no others, it only drops later repeats.
-/
import RealmTokens.Proofs.Domain.ComparedForms
import RealmTokens.Settings
import Mathlib.Data.Finset.Max

namespace RealmTokens

/-! ## First occurrences -/

section Distinct

variable {α : Type} [DecidableEq α]

theorem distinct_of_nodup {xs : List α} (h : xs.Nodup) : distinct xs = xs := by
  induction xs with
  | nil => rfl
  | cons x xs ih =>
      obtain ⟨hnot, hrest⟩ := List.nodup_cons.1 h
      rw [distinct, ih hrest, List.filter_eq_self.2]
      intro y hy
      exact decide_eq_true (fun hyx => hnot (hyx ▸ hy))

theorem distinct_filter (p : α → Bool) (xs : List α) :
    distinct (xs.filter p) = (distinct xs).filter p := by
  induction xs with
  | nil => rfl
  | cons x xs ih =>
      rw [distinct]
      by_cases hx : p x = true
      · rw [List.filter_cons_of_pos hx, List.filter_cons_of_pos hx, distinct, ih,
          List.filter_filter, List.filter_filter]
        simp only [Bool.and_comm]
      · -- What is taken out for being `x` would be taken out by `p` as well.
        rw [List.filter_cons_of_neg hx, List.filter_cons_of_neg hx, ih, List.filter_filter]
        refine List.filter_congr (fun y _ => ?_)
        by_cases hy : y = x
        · simp [hy, hx]
        · simp [hy]

/-- Keeping each element once is dropping its later repeats. -/
theorem distinct_eq_eraseDups (xs : List α) : distinct xs = xs.eraseDups := by
  induction hn : xs.length using Nat.strongRecOn generalizing xs with
  | _ n ih =>
      cases xs with
      | nil => rfl
      | cons x xs =>
          have hlt : (xs.filter (fun y => decide (y ≠ x))).length < n := by
            rw [← hn, List.length_cons]
            exact Nat.lt_succ_of_le (List.length_filter_le _ xs)
          have hsame : xs.filter (fun y => decide (y ≠ x)) = xs.filter (fun y => !y == x) :=
            List.filter_congr (fun y _ => decide_not)
          rw [distinct, ← distinct_filter, ih _ hlt _ rfl, hsame, List.eraseDups_cons]

/-- Taking other elements out of a list does not change which of two comes first. -/
theorem idxOf_filter_lt_iff {p : α → Bool} {a b : α} (ha : p a = true) (hb : p b = true)
    (xs : List α) : (xs.filter p).idxOf a < (xs.filter p).idxOf b ↔ xs.idxOf a < xs.idxOf b := by
  induction xs with
  | nil => rfl
  | cons x xs ih =>
      by_cases hx : p x = true
      · rw [List.filter_cons_of_pos hx]
        simp only [List.idxOf_cons]
        cases x == a <;> cases x == b <;> simp [ih]
      · have hne : ∀ y, p y = true → (x == y) = false := fun y hy =>
          beq_eq_false_iff_ne.2 (fun hxy => hx (hxy ▸ hy))
        rw [List.filter_cons_of_neg hx, ih, List.idxOf_cons, List.idxOf_cons, hne a ha, hne b hb]
        simp

theorem idxOf_distinct_lt_iff {a b : α} (xs : List α) :
    (distinct xs).idxOf a < (distinct xs).idxOf b ↔ xs.idxOf a < xs.idxOf b := by
  induction xs with
  | nil => rfl
  | cons x xs ih =>
      rw [distinct, List.idxOf_cons, List.idxOf_cons, List.idxOf_cons, List.idxOf_cons]
      cases ha : x == a with
      | true => cases x == b <;> simp
      | false =>
          cases hb : x == b with
          | true => simp
          | false =>
              -- Neither is the first element, and the rest has lost copies of that one only.
              have hkeep (y : α) (hy : (x == y) = false) : decide (y ≠ x) = true :=
                decide_eq_true (fun hyx => beq_eq_false_iff_ne.1 hy hyx.symm)
              have hrest := idxOf_filter_lt_iff (p := fun y => decide (y ≠ x)) (hkeep a ha)
                (hkeep b hb) (distinct xs)
              simp only [cond_false, Nat.add_lt_add_iff_right, hrest, ih]

end Distinct

namespace HostName

/-! ## Lists -/

theorem compared_of_mem_normalize {names : List String} {host : String}
    (h : host ∈ normalize names) : Compared host := by
  obtain ⟨name, -, hname⟩ := mem_normalize.1 h
  exact compared_of_canonical? hname

/-- Hosts that are forms of each other are forms of themselves. -/
theorem canonical?_self_of_forms {hosts : List String}
    (forms : ∀ host ∈ hosts, ∃ name ∈ hosts, canonical? name = some host) :
    ∀ host ∈ hosts, canonical? host = some host := by
  have hcompared : ∀ host ∈ hosts, Compared host := fun host hhost => by
    obtain ⟨name, -, hform⟩ := forms host hhost
    exact compared_of_canonical? hform
  intro host hhost
  rw [(hcompared host hhost).canonical?_self_iff, ← Bool.not_eq_true]
  intro hblank
  -- The longest host that ends in white space is nobody's compared form.
  obtain ⟨longest, hlongest, hmax⟩ := Finset.exists_max_image
    (hosts.toFinset.filter (fun host => endsInBlank host = true)) String.length
    ⟨host, Finset.mem_filter.2 ⟨List.mem_toFinset.2 hhost, hblank⟩⟩
  obtain ⟨hmem, hend⟩ := Finset.mem_filter.1 hlongest
  obtain ⟨name, hname, hform⟩ := forms longest (List.mem_toFinset.1 hmem)
  cases hother : endsInBlank name with
  | true =>
      have hle := hmax name (Finset.mem_filter.2 ⟨List.mem_toFinset.2 hname, hother⟩)
      exact Nat.lt_irrefl _ (Nat.lt_of_lt_of_le (length_lt_of_endsInBlank hother hform) hle)
  | false =>
      have hself := (hcompared name hname).canonical?_self_iff.2 hother
      rw [hself, Option.some.injEq] at hform
      rw [hform, hend] at hother
      cases hother

theorem normalize_of_canonical {hosts : List String}
    (canonical : ∀ host ∈ hosts, canonical? host = some host) : normalize hosts = distinct hosts := by
  rw [normalize, List.filterMap_congr (g := some) canonical, List.filterMap_some]

/-- Normalizing does no more than drop repeats exactly from hosts in their compared form. -/
theorem normalize_eq_eraseDups_iff {hosts : List String} :
    normalize hosts = hosts.eraseDups ↔ ∀ host ∈ hosts, canonical? host = some host := by
  constructor
  · intro hsame
    refine canonical?_self_of_forms (fun host hhost => ?_)
    rw [← List.mem_eraseDups, ← hsame] at hhost
    exact mem_normalize.1 hhost
  · intro canonical
    rw [normalize_of_canonical canonical, distinct_eq_eraseDups]

/-- A second pass changes nothing exactly when no form ends in white space. -/
theorem normalize_normalize_iff {names : List String} :
    normalize (normalize names) = normalize names ↔
      ∀ host ∈ normalize names, endsInBlank host = false := by
  have hself (host : String) (hhost : host ∈ normalize names) :
      canonical? host = some host ↔ endsInBlank host = false :=
    (compared_of_mem_normalize hhost).canonical?_self_iff
  constructor
  · intro hsame host hhost
    refine (hself host hhost).1 (canonical?_self_of_forms (fun host hhost => ?_) host hhost)
    rw [← hsame] at hhost
    exact mem_normalize.1 hhost
  · intro hends
    rw [normalize_of_canonical (fun host hhost => (hself host hhost).2 (hends host hhost)),
      distinct_of_nodup (nodup_normalize names)]

end HostName

/-! ## Settings -/

namespace Settings

open HostName (canonical? endsInBlank normalize)

/-- What the resolver and the discovery host must be, and what is checked behind that. -/
def checkHosts (s : Settings) (last : Except Failure Unit) : Except Failure Unit :=
  if s.cloudResolver.hostText?.isNone then .error (.argument .cloudResolver .withoutHost)
  else if s.cloudResolver.pathText.toList.getLast? ≠ some '/' then
    .error (.argument .cloudResolver .openPath)
  else if (canonical? s.discoveryHost).isNone then .error (.argument .discoveryHost .notHostName)
  else last

/-- All checks in front of the last one. -/
def checkBefore (s : Settings) (last : Except Failure Unit) : Except Failure Unit :=
  if s.requestTimeout < minRequestTimeout then .error (.argument .requestTimeout .tooShort)
  else if s.maxResponseBytes = 0 then .error (.argument .maxResponseBytes .zero)
  else if s.requireHttps then s.cloudResolver.enforceHttps.bind (fun _ => s.checkHosts last)
  else s.checkHosts last

/-- The trusted hosts are looked at last. -/
theorem validate_eq_checkBefore (s : Settings) :
    s.validate = s.checkBefore
      (if s.trustedHosts.any (fun host => canonical? host != some host) then
        .error (.argument .trustedHosts .notCanonical)
      else .ok ()) :=
  rfl

theorem checkHosts_bind (s : Settings) (last : Except Failure Unit) :
    s.checkHosts last = (s.checkHosts (.ok ())).bind (fun _ => last) := by
  unfold checkHosts
  split_ifs <;> rfl

theorem checkBefore_bind (s : Settings) (last : Except Failure Unit) :
    s.checkBefore last = (s.checkBefore (.ok ())).bind (fun _ => last) := by
  unfold checkBefore
  split_ifs
  · rfl
  · rfl
  · cases s.cloudResolver.enforceHttps with
    | error failure => rfl
    | ok _ => exact s.checkHosts_bind last
  · exact s.checkHosts_bind last

/-- What the check of the hosts asks of the resolver and of the host that is asked about others. -/
structure HostsAllowed (s : Settings) : Prop where
  resolver_host : s.cloudResolver.hostText?.isSome
  resolver_path : s.cloudResolver.pathText.toList.getLast? = some '/'
  discovery_host : ∃ host, canonical? s.discoveryHost = some host

theorem hostsAllowed_of_checkHosts {s : Settings} {last : Except Failure Unit}
    (h : s.checkHosts last = .ok ()) : s.HostsAllowed := by
  unfold checkHosts at h
  split_ifs at h with hhost hpath hdiscovery
  rw [Option.isNone_iff_eq_none, ← ne_eq, Option.ne_none_iff_isSome] at hhost
  rw [Option.isNone_iff_eq_none, ← ne_eq, Option.ne_none_iff_exists'] at hdiscovery
  exact ⟨hhost, Classical.not_not.1 hpath, hdiscovery⟩

theorem hostsAllowed_of_validate {s : Settings} (h : s.validate = .ok ()) : s.HostsAllowed := by
  rw [validate_eq_checkBefore, checkBefore] at h
  split at h
  · cases h
  split at h
  · cases h
  split at h
  case isTrue =>
    cases henforce : s.cloudResolver.enforceHttps with
    | error failure =>
        rw [henforce] at h
        cases h
    | ok _ =>
        rw [henforce] at h
        exact hostsAllowed_of_checkHosts h
  case isFalse => exact hostsAllowed_of_checkHosts h

/-- Settings are checked as if they trusted no hosts, and then for these. -/
theorem validate_eq (s : Settings) :
    s.validate = (s.withTrustedHosts []).validate.bind (fun _ =>
      if s.trustedHosts.any (fun host => canonical? host != some host) then
        .error (.argument .trustedHosts .notCanonical)
      else .ok ()) := by
  have hothers : (s.withTrustedHosts []).validate = s.checkBefore (.ok ()) := rfl
  rw [validate_eq_checkBefore, hothers]
  exact s.checkBefore_bind _

theorem validate_eq_ok_iff {s : Settings} :
    s.validate = .ok () ↔
      (s.withTrustedHosts []).validate = .ok () ∧
        ∀ host ∈ s.trustedHosts, canonical? host = some host := by
  rw [validate_eq]
  cases (s.withTrustedHosts []).validate with
  | error failure => exact iff_of_false (fun h => nomatch h) (fun h => nomatch h.1)
  | ok _ =>
      cases hany : s.trustedHosts.any (fun host => canonical? host != some host) with
      | true =>
          obtain ⟨host, hhost, hother⟩ := List.any_eq_true.1 hany
          exact iff_of_false (fun h => nomatch h) (fun h => bne_iff_ne.1 hother (h.2 host hhost))
      | false =>
          refine iff_of_true rfl ⟨rfl, fun host hhost => ?_⟩
          exact bne_eq_false_iff_eq.1 (Bool.eq_false_iff.2 (List.any_eq_false.1 hany host hhost))

theorem normalize_defaultTrustedHosts : normalize defaultTrustedHosts = defaultTrustedHosts := by
  decide +kernel

/-- Hosts that are read from a document are normalized, and so are those of a document that names
none. -/
theorem exists_normalize_of_ofString? {document : String} {s : Settings}
    (h : ofString? document = .ok s) : ∃ names, s.trustedHosts = normalize names := by
  unfold ofString? at h
  split at h
  case h_2 => cases h
  case h_1 decoded hdecoded =>
    obtain rfl := Except.ok.inj h
    obtain ⟨json, -, hjson⟩ := Option.bind_eq_some_iff.1 hdecoded
    simp only [ofJson?, Option.bind_eq_bind, Option.bind_eq_some_iff] at hjson
    obtain ⟨r, -, _, -, _, -, _, -, _, -, _, -, _, -, hosts, hhosts, hsettings⟩ := hjson
    obtain rfl := Option.some.inj hsettings
    unfold Json.Record.optional at hhosts
    split at hhosts
    case h_1 =>
      obtain rfl := Option.some.inj hhosts
      exact ⟨defaultTrustedHosts, normalize_defaultTrustedHosts.symm⟩
    case h_2 =>
      obtain ⟨names, -, rfl⟩ := Option.map_eq_some_iff.1 hhosts
      exact ⟨names, rfl⟩

/-- Normalized hosts are refused when one of them ends in white space, and not looked at otherwise. -/
theorem validate_of_normalized {s : Settings} {names : List String}
    (h : s.trustedHosts = normalize names) :
    ((∀ host ∈ s.trustedHosts, endsInBlank host = false) →
        s.validate = (s.withTrustedHosts []).validate) ∧
      ((∃ host ∈ s.trustedHosts, endsInBlank host = true) →
        (s.withTrustedHosts []).validate = .ok () →
          s.validate = .error (.argument .trustedHosts .notCanonical)) := by
  have hself : ∀ host ∈ s.trustedHosts,
      (canonical? host != some host) = endsInBlank host := by
    intro host hhost
    rw [h] at hhost
    have hiff := (HostName.compared_of_mem_normalize hhost).canonical?_self_iff
    rw [← bne_eq_false_iff_eq] at hiff
    cases hend : endsInBlank host <;> simp_all
  constructor
  · intro hends
    have hany : s.trustedHosts.any (fun host => canonical? host != some host) = false := by
      rw [List.any_eq_false]
      intro host hhost
      rw [hself host hhost, hends host hhost]
      exact Bool.false_ne_true
    rw [validate_eq, hany]
    cases (s.withTrustedHosts []).validate <;> rfl
  · rintro ⟨host, hhost, hend⟩ hothers
    have hany : s.trustedHosts.any (fun host => canonical? host != some host) = true :=
      List.any_eq_true.2 ⟨host, hhost, (hself host hhost).trans hend⟩
    rw [validate_eq, hothers, hany]
    rfl

end Settings

/-! ## Main statement -/

namespace HostName

/-- A list is normalized to the compared forms of its names, each once and in the order in which they
come first.  A form is its own compared form exactly when it does not end in white space, which is when
its name has none in front of the dots at its end.  A second pass changes nothing exactly when this is
so of all of them, and exactly then the check of trusted hosts has no objection to settings that were
made or read with them. -/
theorem normalize_stable_iff (names : List String) :
    (∀ host, host ∈ normalize names ↔ ∃ name ∈ names, canonical? name = some host) ∧
      (normalize names).Nodup ∧
      (∀ a ∈ normalize names, ∀ b ∈ normalize names,
        ((normalize names).idxOf a < (normalize names).idxOf b ↔
          (names.filterMap canonical?).idxOf a < (names.filterMap canonical?).idxOf b)) ∧
      (∀ name ∈ names, ∀ host, canonical? name = some host →
        (canonical? host = some host ↔ endsInBlank host = false) ∧
        (endsInBlank host = true ↔ BlankBeforeDots name)) ∧
      (normalize (normalize names) = normalize names ↔
        ∀ host ∈ normalize names, endsInBlank host = false) ∧
      ∀ s : Settings, (∃ t : Settings, s = t.withTrustedHosts names) ∨
          (∃ document, Settings.ofString? document = .ok s) →
        ((∀ host ∈ s.trustedHosts, endsInBlank host = false) →
          s.validate = (s.withTrustedHosts []).validate) ∧
        ((∃ host ∈ s.trustedHosts, endsInBlank host = true) →
          (s.withTrustedHosts []).validate = .ok () →
            s.validate = .error (.argument .trustedHosts .notCanonical)) := by
  refine ⟨fun host => mem_normalize, nodup_normalize names, fun a _ b _ => idxOf_distinct_lt_iff _,
    fun name _ host hform => ?_, normalize_normalize_iff, fun s hmade => ?_⟩
  · exact ⟨(compared_of_canonical? hform).canonical?_self_iff, endsInBlank_iff hform⟩
  · rcases hmade with ⟨t, rfl⟩ | ⟨document, hread⟩
    · exact Settings.validate_of_normalized rfl
    · obtain ⟨given, hgiven⟩ := Settings.exists_normalize_of_ofString? hread
      exact Settings.validate_of_normalized hgiven

/-- A list with a repeated host, a name of dots only and one with a space in front of its dot, in
settings that are refused for the last. -/
theorem normalize_stable_iff_of_space_before_dot :
    let names := ["B.", " . ", "a .", "b"]
    let s := Settings.standard.withTrustedHosts names
    normalize names = ["b", "a "] ∧ (s.withTrustedHosts []).validate = .ok () ∧
      normalize (normalize names) ≠ normalize names ∧
      s.validate = .error (.argument .trustedHosts .notCanonical) := by
  intro names s
  have hhosts : normalize names = ["b", "a "] := by decide +kernel
  have hothers : (s.withTrustedHosts []).validate = .ok () := by decide +kernel
  have hend : endsInBlank "a " = true := by decide +kernel
  have hmem : "a " ∈ normalize names := by
    rw [hhosts]
    decide
  obtain ⟨-, -, -, -, hagain, hsettings⟩ := normalize_stable_iff names
  refine ⟨hhosts, hothers, fun hsame => ?_, ?_⟩
  · exact Bool.false_ne_true ((hagain.1 hsame "a " hmem).symm.trans hend)
  · exact (hsettings s (Or.inl ⟨Settings.standard, rfl⟩)).2 ⟨"a ", hmem, hend⟩ hothers

/-- White space in front of the dots at the end of a name stays, and goes in a second pass, in which a
form can even be lost.  Settings that trust such a host are refused. -/
theorem not_normalize_stable :
    normalize ["a ."] = ["a "] ∧ canonical? "a " = some "a" ∧
      normalize (normalize ["a .", "a"]) ≠ normalize ["a .", "a"] ∧
      normalize (normalize [". ."]) = [] ∧ normalize [". ."] ≠ [] ∧
      (Settings.standard.withTrustedHosts ["a ."]).validate =
        .error (.argument .trustedHosts .notCanonical) ∧
      (Settings.ofString? "\x7b\"trusted_authority_hosts\": [\"a .\"]\x7d").bind Settings.validate =
        .error (.argument .trustedHosts .notCanonical) := by
  decide +kernel

end HostName
end RealmTokens
