/-
Where an organisation is asked about an authority.

The question goes to the host of the endpoint where the users of the organisation sign in.  Its URL is put
together from the text of that host, read, and completed by the place of the question and the authority.
Main statement: whatever the authority and the endpoint are, the question goes to the host of the endpoint,
for nobody, with the authority and nothing else in its query, exactly if the decoder reads the labels of
the host; otherwise there is no question.
-/
import RealmTokens.Proofs.Domain.Ideographs
import RealmTokens.Proofs.Url.Assembled
import RealmTokens.Proofs.Url.Forms
import RealmTokens.Realm.WebFinger

namespace RealmTokens

namespace Url

/-! ## Endpoints of the web -/

section Web

variable {u : Url} {s : String}

theorem le_of_portOfDigits? {kind : SchemeKind} {digits : List Char} {port : Nat}
    (h : portOfDigits? kind digits = .ok (some port)) : port ≤ 65535 := by
  unfold portOfDigits? at h
  dsimp only at h
  split at h
  case isTrue => cases h
  case isFalse hle =>
    split at h
    · cases h
    · cases h
      exact Nat.le_of_not_lt hle

/-- The text that a host of a special scheme is read from has a meaning. -/
theorem ofMeaning?_of_hostOfText? {kind : SchemeKind} {cs : List Char} {found : Option Host}
    (special : kind.isSpecial = true) (h : hostOfText? kind cs = .ok found) :
    ∃ host, found = some host ∧ Host.ofMeaning? cs = .ok host := by
  have hne : cs ≠ [] := by
    rintro rfl
    simp [hostOfText?, special] at h
  rw [hostOfText?_of_special special hne] at h
  cases hhost : Host.ofMeaning? cs with
  | error fault =>
      rw [hhost] at h
      cases h
  | ok host =>
      rw [hhost] at h
      exact ⟨host, (Except.ok.inj h).symm, rfl⟩

/-- A URL of the web that was read has a host with a meaning, and a port that can be written. -/
theorem exists_authority_of_web (h : parse s = .ok u) (web : u.scheme = "http" ∨ u.scheme = "https") :
    ∃ a host cs, u.authority = some a ∧ a.host = some host ∧ Host.ofMeaning? cs = .ok host ∧
      (kindOfScheme u.scheme).Writes a.port := by
  obtain ⟨scheme, rest, -, hread⟩ := ofScheme_of_parse h
  have hscheme : u.scheme = scheme := by
    rcases (source_of_ofScheme hread).1 with heq | hfile
    · exact heq
    · rw [hfile] at web
      exact absurd web (by decide)
  obtain ⟨-, -, special, n, hkind⟩ := scheme?_of_web web []
  rw [← hscheme, ofScheme, hkind] at hread
  simp only [withAuthority, bind, Except.bind, pure, Except.pure] at hread
  split at hread
  case h_1 => cases hread
  case h_2 parsed hparsed =>
    obtain ⟨-, -, text, digits, htext, hport, -, -, -⟩ := authority?_eq_ok hparsed
    obtain ⟨host, hhost, hmeaning⟩ := ofMeaning?_of_hostOfText? special htext
    have hauthority : u.authority = some parsed.authority := by
      rw [← Except.ok.inj hread]
      rfl
    refine ⟨parsed.authority, host, text, hauthority, hhost, hmeaning, fun port hsome => ?_⟩
    rw [hsome] at hport
    exact ⟨le_of_portOfDigits? hport, defaultPort?_ne_of_portOfDigits? hport⟩

end Web

/-! ## Hosts of ideographs -/

section Ideographs

variable {label : List Char}

theorem isHostText_of_isIdeograph (hne : label ≠ []) (h : ∀ c ∈ label, Text.IsIdeograph c) :
    IsHostText label := by
  have hplain (mark : Char) (hmark : mark.toNat < Text.firstIdeograph) : mark ∉ label :=
    fun hin => (h mark hin).ne_of_lt hmark rfl
  refine ⟨hne, fun c hc => Nat.lt_of_lt_of_le (by decide) (h c hc).first,
    Or.inl ⟨hplain ':' (by decide), hplain '[' (by decide)⟩, fun c hc => ?_⟩
  have hmarks (mark : Char) (hmark : mark.toNat < Text.firstIdeograph) : (c == mark) = false :=
    beq_eq_false_iff_ne.2 ((h c hc).ne_of_lt hmark)
  rw [isMark, hmarks '/' (by decide), hmarks '\\' (by decide), hmarks '?' (by decide),
    hmarks '#' (by decide), hmarks '@' (by decide)]
  rfl

/-- A label of ideographs that is not too long is a host, by the name of its encoding. -/
theorem Host.ofMeaning?_of_isIdeograph (hne : label ≠ []) (h : ∀ c ∈ label, Text.IsIdeograph c)
    (hlength : label.length ≤ Domain.maxEncoded) :
    ofMeaning? label =
      .ok (.name (String.ofList (Domain.encodedMark ++ Domain.Punycode.encode label))) := by
  have hplain (mark : Char) (hmark : mark.toNat < Text.firstIdeograph) : mark ∉ label :=
    fun hin => (h mark hin).ne_of_lt hmark rfl
  have hhead : label.head? ≠ some '[' :=
    fun heq => hplain '[' (by decide) (List.mem_of_mem_head? heq)
  have hnumber : Ipv4.endsInNumber (Domain.encodedMark ++ Domain.Punycode.encode label) = false := by
    have hsplit := Domain.splitOn_encode_of_isIdeograph h hlength
    rw [Ipv4.endsInNumber, Ipv4.parts, hsplit]
    rfl
  rw [ofMeaning?, if_neg hhead, domain?_of_not_mem (hplain '%' (by decide)),
    Domain.toAscii?_of_isIdeograph hne h hlength]
  simp only [hnumber, Bool.false_eq_true, if_false]
  rfl

end Ideographs

end Url

namespace WebFinger

/-! ## The origin -/

/-- The scheme of the question: that of the endpoint unless it has to be secure. -/
def originScheme (endpoint : Url) (requireHttps : Bool) : String :=
  if requireHttps then "https" else endpoint.scheme

/-- The port of the question: that of the endpoint unless the question has to be secure. -/
def originPort? (endpoint : Url) (requireHttps : Bool) : Option Nat :=
  if requireHttps then none else endpoint.port?

section Origin

variable {endpoint : Url} {requireHttps : Bool}

theorem originScheme_web (web : endpoint.scheme = "http" ∨ endpoint.scheme = "https") :
    originScheme endpoint requireHttps = "http" ∨ originScheme endpoint requireHttps = "https" := by
  cases requireHttps
  · exact web
  · exact Or.inr rfl

theorem originPort?_writes (writes : (Url.kindOfScheme endpoint.scheme).Writes endpoint.port?) :
    (Url.kindOfScheme (originScheme endpoint requireHttps)).Writes
      (originPort? endpoint requireHttps) := by
  cases requireHttps
  · exact writes
  · exact fun _ hnone => nomatch hnone

theorem toList_originText (host : String) :
    (originText endpoint host requireHttps).toList =
      (originScheme endpoint requireHttps).toList ++ ':' :: '/' :: '/' ::
        (host.toList ++ (Url.Authority.ofHost none (originPort? endpoint requireHttps)).portText.toList ++
          []) := by
  cases requireHttps with
  | true => simp [originText, originScheme, originPort?, Url.Authority.portText, Url.Authority.ofHost]
  | false =>
      cases hport : endpoint.port? <;>
        simp [originText, originScheme, originPort?, hport, Url.Authority.portText,
          Url.Authority.ofHost]

/-- What the text of an origin stands for is a matter of the host in it. -/
theorem parse_originText {host : String} (web : endpoint.scheme = "http" ∨ endpoint.scheme = "https")
    (writes : (Url.kindOfScheme endpoint.scheme).Writes endpoint.port?)
    (h : Url.IsHostText host.toList) (requireHttps : Bool) :
    Url.parse (originText endpoint host requireHttps) =
      (Url.Host.ofMeaning? host.toList).map (fun found =>
        ⟨originScheme endpoint requireHttps,
          some (Url.Authority.ofHost (some found) (originPort? endpoint requireHttps)),
          .segments [""], none, none⟩) := by
  have hpath : Url.IsPathText [] := ⟨fun _ hc => absurd hc List.not_mem_nil, rfl, by decide⟩
  exact Url.parse_of_parts (originScheme_web web) h (originPort?_writes writes) hpath
    (toList_originText host)

/-- The place of the question at an origin of the web. -/
theorem join_path {scheme : String} (web : scheme = "http" ∨ scheme = "https") (a : Url.Authority) :
    Url.join ⟨scheme, some a, .segments [""], none, none⟩ path =
      .ok ⟨scheme, some a, .segments [".well-known", "webfinger"], none, none⟩ := by
  rcases web with rfl | rfl
  · rfl
  · rfl

theorem render_path : (Url.Path.segments [".well-known", "webfinger"]).render = path := by
  decide

end Origin

/-! ## The question -/

/-- Whether a URL asks the host of an endpoint about an authority, for nobody and with nothing else in its
query: over the usual port of the secure scheme if it has to be secure, and as the endpoint says if not. -/
structure Asks (u : Url) (endpoint authority : Url) (requireHttps : Bool) : Prop where
  scheme_eq : u.scheme = if requireHttps then "https" else endpoint.scheme
  userText_eq : u.userText = ""
  host?_eq : u.host? = endpoint.host?
  port?_eq : u.port? = if requireHttps then none else endpoint.port?
  pathText_eq : u.pathText = "/.well-known/webfinger"
  queryPairs_eq : u.queryPairs = [(Text.utf8 "resource", Text.utf8 authority.render)]
  fragment_eq : u.fragment = none

/-- The question at an origin that was read. -/
theorem url?_of_parse {authority : Url} {registration : Registration} {requireHttps : Bool}
    {scheme host : String} {a : Url.Authority} (web : scheme = "http" ∨ scheme = "https")
    (hhost : registration.passiveEndpoint.hostText? = some host)
    (h : Url.parse (originText registration.passiveEndpoint host requireHttps) =
      .ok ⟨scheme, some a, .segments [""], none, none⟩) :
    url? authority registration requireHttps =
      .ok (Url.appendPair ⟨scheme, some a, .segments [".well-known", "webfinger"], none, none⟩
        "resource" authority.render) := by
  unfold url?
  simp only [hhost, h, Failure.ofUrl, bind, Except.bind, join_path web, pure, Except.pure]

theorem url?_of_fault {authority : Url} {registration : Registration} {requireHttps : Bool}
    {host : String} {fault : Url.Fault} (hhost : registration.passiveEndpoint.hostText? = some host)
    (h : Url.parse (originText registration.passiveEndpoint host requireHttps) = .error fault) :
    url? authority registration requireHttps = .error (.url fault) := by
  unfold url?
  simp only [hhost, h, Failure.ofUrl, bind, Except.bind]

section Endpoint

variable {authority : Url} {registration : Registration} {text : String} {host : Url.Host}

/-- Whether the endpoint of a registration is a URL of the web that was read from a text. -/
structure OnWeb (registration : Registration) (text : String) : Prop where
  read : Url.parse text = .ok registration.passiveEndpoint
  web : registration.passiveEndpoint.scheme = "http" ∨ registration.passiveEndpoint.scheme = "https"

/-- What the text of the origin stands for is a matter of the host of the endpoint. -/
theorem OnWeb.exists_host (h : OnWeb registration text) (requireHttps : Bool) :
    ∃ host cs, registration.passiveEndpoint.host? = some host ∧ Url.Host.ofMeaning? cs = .ok host ∧
      Url.parse (originText registration.passiveEndpoint host.render requireHttps) =
        (Url.Host.ofMeaning? host.chars).map (fun found =>
          ⟨originScheme registration.passiveEndpoint requireHttps,
            some (Url.Authority.ofHost (some found)
              (originPort? registration.passiveEndpoint requireHttps)),
            .segments [""], none, none⟩) := by
  obtain ⟨a, host, cs, ha, hhost, hmeaning, hwrites⟩ := Url.exists_authority_of_web h.read h.web
  have hfound : registration.passiveEndpoint.host? = some host := by
    rw [Url.host?, ha]
    exact hhost
  have writes : (Url.kindOfScheme registration.passiveEndpoint.scheme).Writes
      registration.passiveEndpoint.port? := by
    rw [Url.port?, ha]
    exact hwrites
  have htext : Url.IsHostText host.render.toList := by
    rw [Url.Host.toList_render]
    exact Url.Host.isHostText_chars hmeaning
  have hparse := parse_originText h.web writes htext requireHttps
  rw [Url.Host.toList_render] at hparse
  exact ⟨host, cs, hfound, hmeaning, hparse⟩

theorem hostText?_of_host? (h : registration.passiveEndpoint.host? = some host) :
    registration.passiveEndpoint.hostText? = some host.render := by
  rw [Url.hostText?, h]
  rfl

/-- A host whose labels the decoder reads is asked. -/
theorem OnWeb.exists_asks (h : OnWeb registration text)
    (hhost : registration.passiveEndpoint.host? = some host) (readable : Domain.Readable host.chars)
    (authority : Url) (requireHttps : Bool) :
    ∃ u, url? authority registration requireHttps = .ok u ∧
      Asks u registration.passiveEndpoint authority requireHttps := by
  obtain ⟨found, cs, hfound, hmeaning, hparse⟩ := h.exists_host requireHttps
  obtain rfl := Option.some.inj (hhost.symm.trans hfound)
  rw [Url.Host.ofMeaning?_chars_of_readable hmeaning readable] at hparse
  refine ⟨_, url?_of_parse (originScheme_web h.web) (hostText?_of_host? hhost) hparse, ?_⟩
  exact {
    scheme_eq := rfl
    userText_eq := rfl
    host?_eq := hhost.symm
    port?_eq := rfl
    pathText_eq := render_path
    queryPairs_eq := by
      rw [Url.queryPairs_appendPair, Url.queryPairs_of_query_eq_none rfl]
      rfl
    fragment_eq := rfl }

/-- A host with a label that is too long for the decoder is not asked. -/
theorem OnWeb.url?_of_not_readable (h : OnWeb registration text)
    (hhost : registration.passiveEndpoint.host? = some host)
    (unreadable : ¬Domain.Readable host.chars) (authority : Url) (requireHttps : Bool) :
    url? authority registration requireHttps = .error (.url .invalidDomain) := by
  obtain ⟨found, cs, hfound, hmeaning, hparse⟩ := h.exists_host requireHttps
  obtain rfl := Option.some.inj (hhost.symm.trans hfound)
  rw [Url.Host.ofMeaning?_chars_of_not_readable hmeaning unreadable] at hparse
  exact url?_of_fault (hostText?_of_host? hhost) hparse

end Endpoint

/-- Whatever the authority is, the host of an endpoint of the web is asked about it, and about nothing else,
exactly if the decoder reads the labels of that host.  An endpoint with a longer label is not asked. -/
theorem asked_iff_readable {registration : Registration} {text : String}
    (onWeb : OnWeb registration text) (authority : Url) (requireHttps : Bool) :
    ∃ host, registration.passiveEndpoint.host? = some host ∧
      (Domain.Readable host.chars → ∃ u, url? authority registration requireHttps = .ok u ∧
        Asks u registration.passiveEndpoint authority requireHttps) ∧
      (¬Domain.Readable host.chars →
        url? authority registration requireHttps = .error (.url .invalidDomain)) := by
  obtain ⟨host, -, hhost, -⟩ := onWeb.exists_host requireHttps
  exact ⟨host, hhost, fun readable => onWeb.exists_asks hhost readable authority requireHttps,
    fun unreadable => onWeb.url?_of_not_readable hhost unreadable authority requireHttps⟩

/-- An endpoint at an address, with a user and a port, and an authority with all the marks of a query. -/
theorem asked_of_address :
    let registration : Registration :=
      ⟨⟨"http", some ⟨"u", "p", some (.ipv6 ⟨[0, 0, 0, 0, 0, 0, 0, 1], rfl⟩), some 8080⟩,
        .segments ["adfs", "ls"], none, none⟩⟩
    let authority : Url :=
      ⟨"https", some ⟨"", "", some (.name "fs.contoso.com"), none⟩, .segments ["a+b"],
        some "x=1&y=%2B", some "z"⟩
    Url.parse "http://u:p@[::1]:8080/adfs/ls" = .ok registration.passiveEndpoint ∧
      ∃ u, url? authority registration false = .ok u ∧
        Asks u registration.passiveEndpoint authority false := by
  intro registration authority
  have read : Url.parse "http://u:p@[::1]:8080/adfs/ls" = .ok registration.passiveEndpoint := by
    decide
  obtain ⟨host, hhost, hasked, -⟩ := asked_iff_readable ⟨read, Or.inl rfl⟩ authority false
  obtain rfl := Option.some.inj hhost
  exact ⟨read, hasked (Url.Host.readable_of_address (Or.inl ⟨_, rfl⟩))⟩

/-- A host of ideographs that are far from each other is read, but its encoding is too long for the decoder,
so that nobody is asked. -/
theorem not_asked :
    ∃ endpoint, Url.parse ("https://" ++ String.ofList Domain.farIdeographs ++ "/adfs") = .ok endpoint ∧
      endpoint.scheme = "https" ∧ ∀ authority requireHttps,
        url? authority ⟨endpoint⟩ requireHttps = .error (.url .invalidDomain) := by
  have hideographs := fun c => Domain.isIdeograph_of_mem_farIdeographs (c := c)
  have hhost := Url.Host.ofMeaning?_of_isIdeograph Domain.farIdeographs_ne_nil hideographs
    (Nat.le_of_eq Domain.length_farIdeographs)
  have htext : ("https://" ++ String.ofList Domain.farIdeographs ++ "/adfs").toList =
      "https://".toList ++ (Domain.farIdeographs ++ "/adfs".toList) := by
    simp only [String.toList_append, String.toList_ofList, List.append_assoc]
  have hpath : Url.IsPathText "/adfs".toList :=
    ⟨Text.forall_mem_of_all (by decide), by decide, by decide⟩
  have hread := Url.parse_of_secure
    (Url.isHostText_of_isIdeograph Domain.farIdeographs_ne_nil hideographs) hpath htext
  rw [hhost] at hread
  refine ⟨_, hread, rfl, fun authority requireHttps => ?_⟩
  have onWeb : OnWeb ⟨_⟩ _ := ⟨hread, Or.inr rfl⟩
  refine onWeb.url?_of_not_readable rfl ?_ authority requireHttps
  rw [Url.Host.chars_name]
  exact Domain.not_readable_farIdeographs

end WebFinger

end RealmTokens
