/-
Where the question about a host goes.

The URL of a question is put together from the text of the host that is asked, and read again.  Main
statement: with settings that pass their check, the question about a host without an entry goes to the
trusted host and to no other place exactly if the text of that host is the text of a host.  The check
of the settings does not see to this: it asks for a compared form, which any text with a visible
character has.
-/
import RealmTokens.Proofs.Cluster.Validations
import RealmTokens.Proofs.Domain.HostLists
import RealmTokens.Proofs.Realm.Domains
import RealmTokens.Proofs.Url.Assembled
import RealmTokens.Proofs.Url.Forms

namespace RealmTokens

open HostName (canonical?)

namespace DiscoveryQuery

/-! ## One question -/

/-- Whether a URL puts the question to the trusted host and to nobody else: at the usual place and port,
for no user, and with nothing but the version and the authority in its query. -/
structure IsPutBy (q : DiscoveryQuery) (url : Url) : Prop where
  scheme_eq : url.scheme = "https"
  userText_eq : url.userText = ""
  hostText?_eq : url.hostText? = some q.trusted
  port?_eq : url.port? = none
  pathText_eq : url.pathText = path
  queryPairs_eq : url.queryPairs =
    [(Text.utf8 "api-version", Text.utf8 "1.1"),
      (Text.utf8 "authorization_endpoint", Text.utf8 ("https://" ++ q.subject ++ authorizePath))]
  fragment_eq : url.fragment = none

theorem isPathText_path : Url.IsPathText path.toList where
  visible := Text.forall_mem_of_all (by decide)
  front := by decide
  closed := by decide

theorem pathBehindAuthority_path :
    Url.pathBehindAuthority true path.toList = .segments ["common", "discovery", "instance"] ∧
      (Url.Path.segments ["common", "discovery", "instance"]).render = path := by
  decide

variable {q : DiscoveryQuery}

/-- What is asked is a matter of the host that is read from the text of the trusted one. -/
theorem parse_of_isHostText (h : Url.IsHostText q.trusted.toList) :
    Url.parse ("https://" ++ q.trusted ++ path) = (Url.Host.ofMeaning? q.trusted.toList).map (fun host =>
      ⟨"https", some (Url.Authority.ofHost (some host) none),
        .segments ["common", "discovery", "instance"], none, none⟩) := by
  have htext : ("https://" ++ q.trusted ++ path).toList =
      "https://".toList ++ (q.trusted.toList ++ path.toList) := by
    rw [String.toList_append, String.toList_append, List.append_assoc]
  rw [Url.parse_of_secure h isPathText_path htext, pathBehindAuthority_path.1]

theorem url?_of_parse {base : Url} (h : Url.parse ("https://" ++ q.trusted ++ path) = .ok base) :
    q.url? = .ok ((base.appendPair "api-version" "1.1").appendPair "authorization_endpoint"
      ("https://" ++ q.subject ++ authorizePath)) := by
  rw [url?, h]
  rfl

theorem exists_parse_of_url? {url : Url} (h : q.url? = .ok url) :
    ∃ base, Url.parse ("https://" ++ q.trusted ++ path) = .ok base ∧
      url = (base.appendPair "api-version" "1.1").appendPair "authorization_endpoint"
        ("https://" ++ q.subject ++ authorizePath) := by
  cases hparse : Url.parse ("https://" ++ q.trusted ++ path) with
  | error fault =>
      rw [url?, hparse] at h
      cases h
  | ok base => exact ⟨base, rfl, (Except.ok.inj ((url?_of_parse hparse).symm.trans h)).symm⟩

theorem exists_isPutBy (h : Url.Host.IsWritten q.trusted) : ∃ url, q.url? = .ok url ∧ q.IsPutBy url := by
  have hparse := parse_of_isHostText h.isHostText
  obtain ⟨host, hread, hrender⟩ := h
  rw [hread] at hparse
  refine ⟨_, url?_of_parse hparse, rfl, rfl, congrArg some hrender, rfl, pathBehindAuthority_path.2, ?_,
    rfl⟩
  rw [Url.queryPairs_appendPair, Url.queryPairs_appendPair, Url.queryPairs_of_query_eq_none rfl]
  rfl

/-- A URL has its host from a text, so the host that the question goes to is written as itself. -/
theorem isWritten_of_isPutBy {url : Url} (h : q.url? = .ok url) (put : q.IsPutBy url) :
    Url.Host.IsWritten q.trusted := by
  obtain ⟨base, hparse, rfl⟩ := exists_parse_of_url? h
  obtain ⟨host, hhost, hrender⟩ := Option.map_eq_some_iff.1 put.hostText?_eq
  have hbase : base.host? = some host := hhost
  obtain ⟨cs, hcs⟩ := Url.hostFromText_of_parse hparse host hbase
  have hscheme : base.scheme = "https" := put.scheme_eq
  have hmeaning : Url.Host.ofMeaning? cs = .ok host := by
    rwa [Url.hostOf?, hscheme, if_pos (by decide)] at hcs
  have hchars : q.trusted.toList = host.chars := by rw [← hrender, Url.Host.toList_render]
  have htext : Url.IsHostText q.trusted.toList := hchars ▸ Url.Host.isHostText_chars hmeaning
  rw [parse_of_isHostText htext] at hparse
  cases hfound : Url.Host.ofMeaning? q.trusted.toList with
  | error fault =>
      rw [hfound] at hparse
      cases hparse
  | ok found =>
      rw [hfound] at hparse
      cases hparse
      obtain rfl := Option.some.inj hbase
      exact ⟨found, hfound, hrender⟩

end DiscoveryQuery

/-! ## Hosts that are trusted -/

namespace Url

/-- Text of plain characters that begins no label with the mark of encoded ones and does not end in a
number is the text of a host. -/
theorem Host.isWritten_of_plain {text : String} (hne : text.toList ≠ [])
    (plain : ∀ c ∈ text.toList, Domain.IsPlain c)
    (unmarked : ∀ part ∈ text.toList.splitOn '.', Domain.encodedMark.isPrefixOf part = false)
    (named : Ipv4.endsInNumber text.toList = false) : Host.IsWritten text := by
  have hself := Domain.toAscii?_of_plain plain unmarked
  exact ⟨.name (String.ofList text.toList), (Host.ofMeaning?_of_toAscii? hself hne).1 named,
    (String.ofList_toList).trans (String.ofList_toList)⟩

/-- The compared form of a host is its text without the dots at its end. -/
theorem Host.exists_dots {cs : List Char} {found : Host} {host : String}
    (h : Host.ofMeaning? cs = .ok found) (canonical : canonical? found.render = some host) :
    host.toList ≠ [] ∧
      ∃ dots, found.chars = host.toList ++ dots ∧ ∀ d ∈ dots, (d == '.') = true := by
  have plain (c : Option Char) (hc : ∀ d ∈ c, d ∈ found.chars) : c.any Text.isBlank = false := by
    cases c with
    | none => rfl
    | some c => exact Host.isBlank_of_ofMeaning? h (hc c rfl)
  have htrim : Text.trim found.chars = found.chars := by
    rw [Text.trim, Text.dropWhile_eq_self (plain _ (fun _ hd => List.mem_of_mem_head? hd)),
      Text.dropEndWhile_eq_self (plain _ (fun _ hd => List.mem_of_getLast? hd))]
  have hbare : HostName.bare found.render = Text.dropEndWhile (· == '.') found.chars := by
    rw [HostName.bare, Host.toList_render, htrim]
  obtain ⟨dots, hsplit, hdots⟩ := Text.exists_dropEndWhile (· == '.') found.chars
  obtain ⟨hne, rfl⟩ := HostName.canonical?_eq_some_iff.1 canonical
  rw [hbare] at hne ⊢
  have hlower : Text.asciiLowercase (Text.dropEndWhile (· == '.') found.chars) =
      Text.dropEndWhile (· == '.') found.chars := by
    refine (List.map_congr_left (fun c hc => ?_)).trans (List.map_id _)
    exact Host.toLower_of_mem_chars h ((Text.dropEndWhile_prefix_self _ _).subset hc)
  rw [String.toList_ofList, hlower]
  exact ⟨hne, dots, hsplit, hdots⟩

/-- What is left of a name when the dots at its end are gone is a host, unless it is a number or too long
for the decoder. -/
theorem Host.isWritten_of_dots {name domain : List Char} {host : String} {dots : List Char}
    (h : Domain.toAscii? name = some domain) (hsplit : domain = host.toList ++ dots)
    (hdots : ∀ d ∈ dots, (d == '.') = true) (hne : host.toList ≠ [])
    (readable : Domain.Readable host.toList) (named : Ipv4.endsInNumber host.toList = false) :
    Host.IsWritten host := by
  subst hsplit
  obtain ⟨labels, hlabels⟩ := Domain.divides_of_toAscii? h
  obtain ⟨-, -, -, -, -, plain⟩ := Domain.labels_of_toAscii? h
  obtain ⟨front, hfront⟩ := hlabels.of_dots hdots
  have hself := hfront.toAscii?_of_readable (fun c hc => (plain c (List.mem_append_left _ hc)).1)
    (fun c hc => Domain.lower_of_toAscii? h c (List.mem_append_left _ hc)) readable
  exact ⟨.name (String.ofList host.toList), (Host.ofMeaning?_of_toAscii? hself hne).1 named,
    (String.ofList_toList).trans (String.ofList_toList)⟩

/-- The host of an authority in its compared form is the text of a host, unless the decoder does not read
its labels, or it ends in a number only because the dots behind that are gone. -/
theorem isWritten_of_authorityHost? {authority : Url} {text host : String}
    (read : parse text = .ok authority) (shape : authority.authorityHost? = .ok host)
    (readable : Domain.Readable host.toList)
    (named : Ipv4.endsInNumber host.toList = true → authority.hostText? = some host) :
    Host.IsWritten host := by
  obtain ⟨hscheme, hname⟩ := of_authorityHost?_eq_ok shape
  obtain ⟨spelled, hspelled, canonical⟩ := Option.bind_eq_some_iff.1 hname
  obtain ⟨found, hfound, rfl⟩ := Option.map_eq_some_iff.1 hspelled
  obtain ⟨cs, hcs⟩ := hostFromText_of_parse read found hfound
  have hmeaning : Host.ofMeaning? cs = .ok found := by
    rwa [hostOf?, hscheme, if_pos (by decide)] at hcs
  by_cases hsame : found.render = host
  · subst hsame
    rw [Host.toList_render] at readable
    refine ⟨found, ?_, rfl⟩
    rw [Host.toList_render]
    exact Host.ofMeaning?_chars_of_readable hmeaning readable
  · -- The host had dots behind it, so it was a name and is none the less one without them.
    have hnumber : Ipv4.endsInNumber host.toList = false := Bool.eq_false_iff.2 (fun hends =>
      hsame (Option.some.inj (hspelled.symm.trans (named hends))))
    obtain ⟨hne, dots, hsplit, hdots⟩ := Host.exists_dots hmeaning canonical
    rcases Host.ofMeaning?_eq_ok hmeaning with ⟨address, rfl⟩ | ⟨address, rfl⟩ |
      ⟨name, domain, rfl, hname, -, -⟩
    · rcases List.eq_nil_or_concat' dots with rfl | ⟨front, d, rfl⟩
      · rw [List.append_nil, ← Host.toList_render] at hsplit
        exact absurd (String.toList_inj.1 hsplit) hsame
      · have hlast : (Host.ipv6 address).chars.getLast? = some ']' := by
          simp [Host.chars, List.getLast?_cons]
        rw [hsplit, ← List.append_assoc, List.getLast?_concat] at hlast
        obtain rfl := Option.some.inj hlast
        exact absurd (hdots ']' (List.mem_append_right _ List.mem_cons_self)) (by decide)
    · exact Host.isWritten_of_dots (Host.toAscii?_ipv4 address) hsplit hdots hne readable hnumber
    · rw [Host.chars_name] at hsplit
      exact Host.isWritten_of_dots hname hsplit hdots hne readable hnumber

end Url

/-! ## Main statement -/

namespace Validator

open Exchange (Transport Session)

theorem canonical?_of_trustedHost {s : Settings} {host : String} (valid : s.validate = .ok ())
    (h : s.trusts host = false) : canonical? s.discoveryHost = some (trustedHost s host) := by
  obtain ⟨name, hname⟩ := (Settings.hostsAllowed_of_validate valid).discovery_host
  rw [trustedHost, h, if_neg Bool.false_ne_true, hname]
  rfl

theorem trusted_query (v : Validator) (host : String) :
    (v.query host).trusted = trustedHost v.settings host := by
  rw [query]

theorem exists_url_of_request? {v : Validator} {host : String} {request : Exchange.Request}
    (h : v.request? host = .ok request) :
    ∃ url, (v.query host).url? = .ok url ∧ request = v.client.request url := by
  cases hurl : (v.query host).url? with
  | error failure =>
      rw [request?, hurl] at h
      cases h
  | ok url =>
      by_cases permits : v.client.Permits url
      · exact ⟨url, rfl, (Except.ok.inj ((request?_of_permits hurl permits).symm.trans h)).symm⟩
      · cases (request?_of_not_permits hurl permits).symm.trans h

/-- With settings that pass their check, the question about a host without an entry is put to that host
where it is trusted, and to the compared form of the discovery host otherwise.  It is one request and goes
there and nowhere else exactly if that form is the text of a host.  The host of an authority is, unless
the decoder does not read its labels or it ends in a number only without its dots; and so is a discovery
host that holds what a registered domain may hold, with no encoded label and no number at its end. -/
theorem question_put_iff {v : Validator} {transport : Transport} {d : Directory} {authority : Url}
    {text host : String} {session : Session} (valid : v.settings.validate = .ok ())
    (read : Url.parse text = .ok authority) (shape : authority.authorityHost? = .ok host)
    (unknown : d.get? host = none) :
    (if v.settings.trusts host = true then trustedHost v.settings host = host
      else canonical? v.settings.discoveryHost = some (trustedHost v.settings host)) ∧
    ((∃ request, (v.validate transport d authority session).2 = request :: session ∧
        (v.query host).IsPutBy request.url) ↔
      Url.Host.IsWritten (trustedHost v.settings host)) ∧
    (v.settings.trusts host = true → Domain.Readable host.toList →
      (Url.Ipv4.endsInNumber host.toList = true → authority.hostText? = some host) →
      Url.Host.IsWritten (trustedHost v.settings host)) ∧
    (∀ asked, v.settings.trusts host = false →
      Registrar.domain? v.settings.discoveryHost = .ok asked →
      (∀ part ∈ asked.toList.splitOn '.', Domain.encodedMark.isPrefixOf part = false) →
      Url.Ipv4.endsInNumber asked.toList = false →
      Url.Host.IsWritten (trustedHost v.settings host)) := by
  have hown (trusts : v.settings.trusts host = true) : trustedHost v.settings host = host := by
    rw [trustedHost, if_pos trusts]
  have hother (trusts : v.settings.trusts host = false) :
      canonical? v.settings.discoveryHost = some (trustedHost v.settings host) :=
    canonical?_of_trustedHost valid trusts
  refine ⟨?_, ⟨?_, fun written => ?_⟩, fun trusts readable named => ?_,
    fun asked trusts hasked unmarked named => ?_⟩
  · split
    case isTrue trusts => exact hown trusts
    case isFalse trusts => exact hother (Bool.eq_false_iff.2 trusts)
  · rintro ⟨request, hsession, put⟩
    cases hasked : v.request? host with
    | error failure =>
        rw [validate_of_unasked shape unknown hasked] at hsession
        exact absurd hsession.symm (List.cons_ne_self request session)
    | ok sent =>
        rw [validate_of_asked shape unknown hasked] at hsession
        obtain ⟨rfl, -⟩ := List.cons.inj hsession
        obtain ⟨url, hurl, rfl⟩ := exists_url_of_request? hasked
        rw [← trusted_query]
        exact DiscoveryQuery.isWritten_of_isPutBy hurl put
  · rw [← trusted_query] at written
    obtain ⟨url, hurl, put⟩ := DiscoveryQuery.exists_isPutBy written
    have hasked := request?_of_permits hurl (fun _ => put.scheme_eq)
    have hsession : (v.validate transport d authority session).2 = v.client.request url :: session := by
      rw [validate_of_asked shape unknown hasked]
    exact ⟨v.client.request url, hsession, put⟩
  · rw [hown trusts]
    exact Url.isWritten_of_authorityHost? read shape readable named
  · have hform := (Registrar.domain?_eq_ok_iff.1 hasked).1
    obtain rfl := Option.some.inj (hform.symm.trans (hother trusts))
    exact Url.Host.isWritten_of_plain (Registrar.toList_ne_nil_of_domain? hasked)
      (Registrar.plain_of_domain? hasked) unmarked named

/-- The authority of a tenant at a host that nobody trusts, with the settings that hold without others. -/
theorem question_put_of_standard :
    let v : Validator := ⟨⟨none, Time.Span.ofSeconds 30, true⟩, Settings.standard⟩
    let transport : Transport := fun _ => .error .undecodable
    let authority := tenantAt "fs.contoso.com"
    Settings.standard.validate = .ok () ∧ v.settings.trusts "fs.contoso.com" = false ∧
      ∃ request, (v.validate transport Directory.empty authority []).2 = [request] ∧
        DiscoveryQuery.IsPutBy ⟨"login.microsoftonline.com", "fs.contoso.com"⟩ request.url := by
  intro v transport authority
  have valid : v.settings.validate = .ok () := by decide
  have read : Url.parse "https://fs.contoso.com/t" = .ok authority := by decide
  have shape : authority.authorityHost? = .ok "fs.contoso.com" := by decide
  have unknown : Directory.empty.get? "fs.contoso.com" = none := by decide
  have untrusted : v.settings.trusts "fs.contoso.com" = false := by decide
  obtain ⟨-, hput, -, hplain⟩ :=
    @question_put_iff v transport Directory.empty authority _ _ [] valid read shape unknown
  have written := hplain "login.microsoftonline.com" untrusted (by decide) (by decide)
    (by decide)
  obtain ⟨request, hsession, put⟩ := hput.2 written
  have hquery : v.query "fs.contoso.com" = ⟨"login.microsoftonline.com", "fs.contoso.com"⟩ := by
    decide
  rw [hquery] at put
  exact ⟨valid, untrusted, request, hsession, put⟩

/-- A discovery host with a question mark at its end passes the check, and the question loses its place;
one with an at sign passes as well, and the question goes to another host. -/
theorem not_question_put :
    let asking (discoveryHost : String) : Validator :=
      ⟨⟨none, Time.Span.ofSeconds 30, true⟩, Settings.standard.withDiscoveryHost discoveryHost⟩
    let requests (discoveryHost : String) : Session :=
      ((asking discoveryHost).validate (fun _ => .error .undecodable) Directory.empty
        (tenantAt "fs.contoso.com") []).2
    Url.parse "https://fs.contoso.com/t" = .ok (tenantAt "fs.contoso.com") ∧
      (tenantAt "fs.contoso.com").authorityHost? = .ok "fs.contoso.com" ∧
      (asking "login.microsoftonline.com?").settings.validate = .ok () ∧
      (requests "login.microsoftonline.com?").map (fun r => r.url.pathText) = ["/"] ∧
      (asking "login.microsoftonline.com@evil.example").settings.validate = .ok () ∧
      (requests "login.microsoftonline.com@evil.example").map
          (fun r => (r.url.userText, r.url.hostText?)) =
        [("login.microsoftonline.com@", some "evil.example")] := by
  decide

end Validator

end RealmTokens
