/-
Where an organisation's registration is asked for.

The domain stands in the host of one URL and in the path of the other.  Main statement: with settings that
pass their check, whatever domain is accepted, the organisation itself is asked at the host that the domain
names and nowhere else, if it is asked at all; the public resolver can always be asked, at its own place
and below its own path; and neither question has another query than the version.
-/
import RealmTokens.Proofs.Domain.HostLists
import RealmTokens.Proofs.Realm.Domains
import RealmTokens.Proofs.Url.Forms
import RealmTokens.Proofs.Url.Paths

namespace RealmTokens

namespace Url

/-! ## Hosts that are plain text -/

/-- A text with a part that is no number is no address. -/
theorem Ipv4.ofChars?_eq_none {cs part : List Char} (hpart : part ∈ parts cs)
    (hnone : part? part = none) : ofChars? cs = none := by
  unfold ofChars?
  dsimp only
  split
  case isTrue => rfl
  case isFalse =>
    cases hnumbers : (parts cs).mapM part? with
    | none => rfl
    | some numbers =>
        have hsome := isSome_of_mem_of_mapM hnumbers hpart
        rw [hnone] at hsome
        cases hsome

/-- Plain text with a part that is no number is no other host than it says. -/
theorem Host.eq_name_of_plain {cs part : List Char} {host : Host}
    (plain : ∀ c ∈ cs, Domain.IsPlain c) (hpart : part ∈ Ipv4.parts cs) (hnone : Ipv4.part? part = none)
    (h : Host.ofMeaning? cs = .ok host) : host = .name (String.ofList cs) := by
  have hpercent : '%' ∉ cs := fun hin => absurd (plain '%' hin).2.1 (by decide)
  have hhead : cs.head? ≠ some '[' :=
    fun heq => absurd (plain '[' (List.mem_of_mem_head? heq)).2.1 (by decide)
  rw [ofMeaning?, if_neg hhead, domain?_of_not_mem hpercent] at h
  cases hdomain : Domain.toAscii? cs with
  | none =>
      rw [hdomain] at h
      cases h
  | some domain =>
      have hself : domain = cs :=
        Domain.eq_of_toAscii?_of_lower (fun c hc => (plain c hc).1) (fun c hc => (plain c hc).2.2)
          hdomain
      rw [hdomain, hself] at h
      dsimp only at h
      split at h
      case isTrue => cases h
      case isFalse =>
        rw [Ipv4.ofChars?_eq_none hpart hnone] at h
        split at h
        case isTrue => cases h
        case isFalse => exact (Except.ok.inj h).symm

/-- The part in front of the first dot is one of the parts. -/
theorem Ipv4.mem_parts_of_dot {first rest : List Char} (h : '.' ∉ first) :
    first ∈ parts (first ++ '.' :: rest) := by
  have hne : ∀ c ∈ first, (c == '.') = false :=
    fun c hc => beq_eq_false_iff_ne.2 (fun heq => h (heq ▸ hc))
  have hsplit : (first ++ '.' :: rest).splitOn '.' = first :: rest.splitOn '.' :=
    List.splitOnP_append_cons_of_forall_mem hne '.' rfl rest
  unfold parts
  rw [hsplit]
  dsimp only
  split
  case isTrue =>
    rw [List.dropLast_cons_of_ne_nil (List.splitOn_ne_nil '.' rest)]
    exact List.mem_cons_self
  case isFalse => exact List.mem_cons_self

end Url

namespace Resolution

open Registrar (isDomainChar)

section Domain

variable {name domain : String}

/-! ## The organisation itself -/

theorem isHostText_host (accepted : Registrar.domain? name = .ok domain) :
    Url.IsHostText (hostMark.toList ++ domain.toList) := by
  have hchars : ∀ c ∈ hostMark.toList ++ domain.toList, isDomainChar c = true :=
    List.forall_mem_append.2
      ⟨Text.forall_mem_of_all (by decide), (Registrar.domain?_eq_ok_iff.1 accepted).2⟩
  have hplain (c : Char) (hc : c ∈ hostMark.toList ++ domain.toList) :
      0x20 < c.toNat ∧ Url.isMark c = false ∧ c ≠ ':' ∧ c ≠ '[' :=
    Registrar.forall_isDomainChar
      (p := fun c => 0x20 < c.toNat ∧ Url.isMark c = false ∧ c ≠ ':' ∧ c ≠ '[') (by decide)
      (hchars c hc)
  exact ⟨List.append_ne_nil_of_left_ne_nil (by decide) _, fun c hc => (hplain c hc).1,
    Or.inl ⟨fun hin => (hplain _ hin).2.2.1 rfl, fun hin => (hplain _ hin).2.2.2 rfl⟩,
    fun c hc => (hplain c hc).2.1⟩

theorem eq_name_of_host {host : Url.Host} (accepted : Registrar.domain? name = .ok domain)
    (h : Url.Host.ofMeaning? (hostMark.toList ++ domain.toList) = .ok host) :
    host = .name (hostMark ++ domain) := by
  have hplain : ∀ c ∈ hostMark.toList ++ domain.toList, Domain.IsPlain c :=
    List.forall_mem_append.2
      ⟨Text.forall_mem_of_all (by decide), Registrar.plain_of_domain? accepted⟩
  have hparts : "enterpriseregistration".toList ∈ Url.Ipv4.parts (hostMark.toList ++ domain.toList) := by
    have hmark : hostMark.toList = "enterpriseregistration".toList ++ ['.'] := by decide
    rw [hmark, List.append_assoc]
    exact Url.Ipv4.mem_parts_of_dot (by decide)
  rw [Url.Host.eq_name_of_plain hplain hparts (by decide) h, ← String.toList_append,
    String.ofList_toList]

theorem isPathText_contract : Url.IsPathText ("/" ++ contractPath).toList where
  visible := Text.forall_mem_of_all (by decide)
  front := by decide
  closed := by decide

theorem pathBehindAuthority_contract :
    Url.pathBehindAuthority true ("/" ++ contractPath).toList =
        .segments ["enrollmentserver", "contract"] ∧
      (Url.Path.segments ["enrollmentserver", "contract"]).render = "/" ++ contractPath := by
  decide

theorem encodeForm_version :
    Url.encodeForm "api-version" ++ "=" ++ Url.encodeForm "1.0" = "api-version=1.0" := by
  decide

/-- What the organisation itself is asked, if its host is one. -/
theorem onPremises_url?_eq_ok {resolver u : Url} (accepted : Registrar.domain? name = .ok domain)
    (h : onPremises.url? domain resolver = .ok u) :
    u = ⟨"https", some ⟨"", "", some (.name (hostMark ++ domain)), none⟩,
      .segments ["enrollmentserver", "contract"], some "api-version=1.0", none⟩ := by
  have htext : ("https://" ++ hostMark ++ domain ++ "/" ++ contractPath).toList =
      "https://".toList ++ (hostMark.toList ++ domain.toList ++ ("/" ++ contractPath).toList) := by
    simp only [String.toList_append, List.append_assoc]
  have hparse := Url.parse_of_secure (isHostText_host accepted) isPathText_contract htext
  unfold url? at h
  rw [hparse] at h
  cases hhost : Url.Host.ofMeaning? (hostMark.toList ++ domain.toList) with
  | error fault =>
      rw [hhost] at h
      cases h
  | ok host =>
      rw [hhost, eq_name_of_host accepted hhost, pathBehindAuthority_contract.1] at h
      have hbase : Url.appendPair ⟨"https", some ⟨"", "", some (.name (hostMark ++ domain)), none⟩,
          .segments ["enrollmentserver", "contract"], none, none⟩ "api-version" "1.0" = u :=
        Except.ok.inj h
      rw [← hbase, Url.appendPair_of_query_eq_none rfl, encodeForm_version]

/-! ## The public resolver -/

theorem isPlainReference_domain (accepted : Registrar.domain? name = .ok domain) :
    Url.IsPlainReference [domain.toList, "enrollmentserver".toList, "contract".toList]
      (domain ++ "/" ++ contractPath) := by
  have hsegment (c : Char) (hc : isDomainChar c = true) : Url.isSegmentChar c = true :=
    Registrar.forall_isDomainChar (p := fun c => Url.isSegmentChar c = true) (by decide) hc
  have hdomain : Url.IsPlainSegment domain.toList :=
    ⟨Registrar.toList_ne_nil_of_domain? accepted,
      fun c hc => hsegment c ((Registrar.domain?_eq_ok_iff.1 accepted).2 c hc),
      Registrar.getLast?_of_domain? accepted⟩
  have hfixed (text : String) (hne : text.toList ≠ [])
      (hplain : ∀ c ∈ text.toList, Url.isSegmentChar c = true)
      (hback : text.toList.getLast? ≠ some '.') : Url.IsPlainSegment text.toList := ⟨hne, hplain, hback⟩
  refine ⟨List.cons_ne_nil _ _, ?_, ?_⟩
  · simp only [List.forall_mem_cons, List.not_mem_nil, false_implies, implies_true, and_true]
    exact ⟨hdomain,
      hfixed "enrollmentserver" (by decide) (Text.forall_mem_of_all (by decide)) (by decide),
      hfixed "contract" (by decide) (Text.forall_mem_of_all (by decide)) (by decide)⟩
  · simp [contractPath]

/-- What the public resolver is asked. -/
theorem cloud_url?_eq_ok {resolver : Url} {text : String} (read : Url.parse text = .ok resolver)
    (host : resolver.hostText?.isSome) (slash : resolver.pathText.toList.getLast? = some '/')
    (accepted : Registrar.domain? name = .ok domain) :
    ∃ u, cloud.url? domain resolver = .ok u ∧ u.scheme = resolver.scheme ∧
      u.authority = resolver.authority ∧
      u.pathText = resolver.pathText ++ domain ++ "/" ++ contractPath ∧
      u.query = some "api-version=1.0" ∧ u.fragment = none := by
  have hauthority : resolver.authority.isSome := by
    cases ha : resolver.authority with
    | none => simp [Url.hostText?, Url.host?, ha] at host
    | some a => rfl
  obtain ⟨parts, hparts⟩ := Url.readPath_of_parse read hauthority
  obtain ⟨base, hjoin, hscheme, hauthority, hpath, hquery, hfragment⟩ :=
    Url.join_of_plain hparts slash (isPlainReference_domain accepted)
  refine ⟨base.appendPair "api-version" "1.0", ?_, hscheme, hauthority, ?_, ?_, hfragment⟩
  · rw [url?, hjoin]
    rfl
  · rw [String.append_assoc, String.append_assoc]
    rw [String.append_assoc] at hpath
    exact hpath
  · rw [Url.appendPair_of_query_eq_none hquery, encodeForm_version]

end Domain

/-! ## Main statement -/

/-- With settings that pass their check, no domain leads a question about a registration to another place.
The organisation itself is asked, where it can be, at the host that the domain names below the mark of
registrations, and the public resolver at its own place, below its whole path. -/
theorem asked_at_own_place {s : Settings} {text name domain : String} (valid : s.validate = .ok ())
    (read : Url.parse text = .ok s.cloudResolver) (accepted : Registrar.domain? name = .ok domain) :
    (∀ u, onPremises.url? domain s.cloudResolver = .ok u →
      u.scheme = "https" ∧ u.userText = "" ∧ u.hostText? = some ("enterpriseregistration." ++ domain) ∧
        u.port? = none ∧ u.pathText = "/enrollmentserver/contract" ∧
        u.query = some "api-version=1.0" ∧ u.fragment = none) ∧
    ∃ u, cloud.url? domain s.cloudResolver = .ok u ∧ u.scheme = s.cloudResolver.scheme ∧
      u.userText = s.cloudResolver.userText ∧ u.hostText? = s.cloudResolver.hostText? ∧
      u.port? = s.cloudResolver.port? ∧
      u.pathText = s.cloudResolver.pathText ++ domain ++ "/enrollmentserver/contract" ∧
      u.query = some "api-version=1.0" ∧ u.fragment = none := by
  have allowed := Settings.hostsAllowed_of_validate valid
  constructor
  · intro u hu
    rw [onPremises_url?_eq_ok accepted hu]
    refine ⟨rfl, rfl, ?_, rfl, pathBehindAuthority_contract.2, rfl, rfl⟩
    exact congrArg some String.ofList_toList
  · obtain ⟨u, hu, hscheme, hauthority, hpath, hquery, hfragment⟩ :=
      cloud_url?_eq_ok read allowed.resolver_host allowed.resolver_path accepted
    refine ⟨u, hu, hscheme, ?_, ?_, ?_, ?_, hquery, hfragment⟩
    · rw [Url.userText, Url.userText, Url.parts, Url.parts, hauthority]
    · rw [Url.hostText?, Url.hostText?, Url.host?, Url.host?, hauthority]
    · rw [Url.port?, Url.port?, hauthority]
    · rw [hpath, String.append_assoc]
      rfl

/-- A resolver of files with a path of its own. -/
theorem asked_at_own_place_of_file :
    let resolver : Url :=
      ⟨"file", some ⟨"", "", some (.name "r"), none⟩, .segments ["a", ""], none, none⟩
    let s := { Settings.standard.withRequireHttps false with cloudResolver := resolver }
    s.validate = .ok () ∧ Registrar.domain? " Contoso.COM. " = .ok "contoso.com" ∧
      (∃ u, onPremises.url? "contoso.com" resolver = .ok u ∧
        u.hostText? = some "enterpriseregistration.contoso.com") ∧
      ∃ u, cloud.url? "contoso.com" resolver = .ok u ∧ u.scheme = "file" ∧
        u.pathText = "/a/contoso.com/enrollmentserver/contract" := by
  intro resolver s
  have valid : s.validate = .ok () := by decide
  have read : Url.parse "file://r/a/" = .ok s.cloudResolver := by decide
  have accepted : Registrar.domain? " Contoso.COM. " = .ok "contoso.com" := by decide
  obtain ⟨honPremises, u, hu, hscheme, -, -, -, hpath, -⟩ := asked_at_own_place valid read accepted
  have hasked : (onPremises.url? "contoso.com" resolver).toOption.isSome := by decide
  obtain ⟨asked, hasked⟩ := Option.isSome_iff_exists.1 hasked
  have hok : onPremises.url? "contoso.com" resolver = .ok asked := by
    cases hresult : onPremises.url? "contoso.com" resolver with
    | error failure =>
        rw [hresult] at hasked
        cases hasked
    | ok found =>
        rw [hresult] at hasked
        exact congrArg Except.ok (Option.some.inj hasked)
  exact ⟨valid, accepted, ⟨asked, hok, (honPremises asked hok).2.2.1⟩, u, hu, hscheme, hpath⟩

end Resolution

end RealmTokens
