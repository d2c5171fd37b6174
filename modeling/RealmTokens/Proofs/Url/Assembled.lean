/-
URLs that are put together from a host and a path.

Several requests go to a URL whose text is made of a scheme of the web, a host, perhaps a port, and a
path.  Main statement: such a text is read as these parts and nothing else, provided that the host text
has no mark in it that belongs to another part.  What host that is, if any, is then a matter of the host
text alone.
-/
import RealmTokens.Proofs.Domain.Capitals
import RealmTokens.Proofs.Domain.ComparedForms
import RealmTokens.Proofs.Domain.Reread
import RealmTokens.Proofs.Url.Authorities

namespace RealmTokens
namespace Url

/-! ## Visible text -/

/-- Whether a text has no blank and no control character of ASCII. -/
def IsVisible (cs : List Char) : Prop := ∀ c ∈ cs, 0x20 < c.toNat

theorem IsVisible.append {xs ys : List Char} (hx : IsVisible xs) (hy : IsVisible ys) :
    IsVisible (xs ++ ys) :=
  List.forall_mem_append.2 ⟨hx, hy⟩

/-- Nothing of a visible text is trimmed away. -/
theorem IsVisible.trim_eq {s : String} (h : IsVisible s.toList) : trim s = s.toList := by
  have hall (cs : List Char) (hcs : ∀ c ∈ cs, c ∈ s.toList) (c : Option Char) (hc : ∀ d ∈ c, d ∈ cs) :
      c.any (fun c => decide (c.toNat ≤ 0x20)) = false := by
    cases c with
    | none => rfl
    | some c => exact decide_eq_false (Nat.not_le.2 (h c (hcs c (hc c rfl))))
  show Text.dropEndWhile _ (s.toList.dropWhile _) = s.toList
  rw [Text.dropWhile_eq_self (hall s.toList (fun _ hc => hc) _ (fun _ hd => List.mem_of_mem_head? hd)),
    Text.dropEndWhile_eq_self
      (hall s.toList (fun _ hc => hc) _ (fun _ hd => List.mem_of_getLast? hd))]

theorem not_isBreak_of_lt {c : Char} (h : 0x20 < c.toNat) : isBreak c = false := by
  have hne (d : Char) (hd : d.toNat ≤ 0x20) : (c == d) = false :=
    beq_eq_false_iff_ne.2 (fun heq => by rw [heq] at h; omega)
  simp only [isBreak, hne '\t' (by decide), hne '\n' (by decide), hne '\r' (by decide), Bool.or_self]

theorem IsVisible.dropBreaks_eq {cs : List Char} (h : IsVisible cs) : dropBreaks cs = cs :=
  List.filter_eq_self.2 (fun c hc => by rw [not_isBreak_of_lt (h c hc)]; rfl)

/-! ## Marks -/

/-- Whether a character ends the host of a URL, or puts a user in front of it. -/
def isMark (c : Char) : Bool :=
  c == '/' || c == '\\' || c == '?' || c == '#' || c == '@'

/-- Whether a text can stand as the host of a URL: it is visible, it is not empty, it has colons between
brackets only, and it has no mark. -/
structure IsHostText (cs : List Char) : Prop where
  ne_nil : cs ≠ []
  visible : IsVisible cs
  closed : IsClosed cs
  unmarked : ∀ c ∈ cs, isMark c = false

/-- Whether a text can stand behind the host: it is empty or begins with a slash, and has neither a query
nor a fragment. -/
structure IsPathText (cs : List Char) : Prop where
  visible : IsVisible cs
  front : cs.head?.all (· == '/') = true
  closed : '?' ∉ cs ∧ '#' ∉ cs

theorem ne_of_not_isMark {c mark : Char} (h : isMark c = false) (hmark : isMark mark = true) :
    c ≠ mark := by
  rintro rfl
  exact Bool.false_ne_true (h.symm.trans hmark)

theorem not_isSlash_of_not_isMark {c : Char} (h : isMark c = false) : isSlash true c = false := by
  have hslash : c ≠ '/' := ne_of_not_isMark h rfl
  have hback : c ≠ '\\' := ne_of_not_isMark h rfl
  simp [isSlash, hslash, hback]

/-- The characters of a port text are digits behind a colon. -/
theorem mem_portText {a : Authority} {c : Char} (h : c ∈ a.portText.toList) :
    c = ':' ∨ c.isDigit = true := by
  rw [Authority.toList_portText] at h
  split at h
  case h_1 => exact absurd h List.not_mem_nil
  case h_2 => exact (List.mem_cons.1 h).imp_right Text.isDigit_of_mem_toDigits

theorem plain_of_mem_portText {a : Authority} {c : Char} (h : c ∈ a.portText.toList) :
    0x20 < c.toNat ∧ isMark c = false := by
  rcases mem_portText h with rfl | hdigit
  · decide
  · exact Text.forall_char_lt (p := fun c => c.isDigit = true → 0x20 < c.toNat ∧ isMark c = false)
      (by decide) (Text.toNat_lt_of_isDigit hdigit) hdigit

/-! ## Hosts that were read -/

namespace Ipv6

theorem toLower_of_mem_toDigits {n : Nat} {c : Char} (h : c ∈ Nat.toDigits 16 n) : c.toLower = c := by
  have hall : ∀ n < 16, (Nat.digitChar n).toLower = Nat.digitChar n := by decide
  induction n using Nat.strongRecOn with
  | _ n ih =>
      rw [Nat.toDigits_eq_if (by decide)] at h
      split at h
      case isTrue hlt =>
        rw [List.mem_singleton.1 h]
        exact hall n hlt
      case isFalse =>
        rcases List.mem_append.1 h with hin | hin
        · exact ih (n / 16) (by omega) hin
        · rw [List.mem_singleton.1 hin]
          exact hall (n % 16) (Nat.mod_lt n (by decide))

theorem toLower_of_mem_chars {address : Ipv6} {c : Char} (h : c ∈ chars address) : c.toLower = c := by
  have hjoined (groups : List UInt16) (hin : c ∈ joined groups) : c.toLower = c := by
    rcases mem_intercalate hin with rfl | ⟨part, hpart, hc⟩
    · decide
    · obtain ⟨group, -, rfl⟩ := List.mem_map.1 hpart
      exact toLower_of_mem_toDigits hc
  simp only [chars] at h
  split at h
  case isTrue => exact hjoined _ h
  case isFalse =>
    simp only [List.mem_append, List.mem_cons] at h
    rcases h with h | rfl | rfl | h
    · exact hjoined _ h
    · decide
    · decide
    · exact hjoined _ h

end Ipv6

namespace Host

variable {cs : List Char} {host : Host}

theorem plain_of_plain {c : Char} (hascii : Text.isAscii c = true) (h : Domain.isForbidden c = false) :
    0x20 < c.toNat ∧ isMark c = false :=
  Text.forall_char_lt
    (p := fun c => Domain.isForbidden c = false → 0x20 < c.toNat ∧ isMark c = false)
    (by decide) (of_decide_eq_true hascii) h

theorem plain_of_hexValue? {c : Char} (h : (Text.hexValue? c).isSome = true) :
    0x20 < c.toNat ∧ isMark c = false := by
  have hall : ∀ c : Char, c.toNat < 0x80 →
      (Text.hexValue? c).isSome = true → 0x20 < c.toNat ∧ isMark c = false :=
    fun c hc => Text.forall_char_lt
      (p := fun c => (Text.hexValue? c).isSome = true → 0x20 < c.toNat ∧ isMark c = false)
      (by decide) hc
  exact hall c (Text.toNat_lt_of_hexValue? h) h

/-- The characters of a host that has a meaning belong to no other part of a URL. -/
theorem plain_of_mem_chars (h : ofMeaning? cs = .ok host) {c : Char} (hc : c ∈ host.chars) :
    0x20 < c.toNat ∧ isMark c = false := by
  rcases ofMeaning?_eq_ok h with ⟨address, rfl⟩ | ⟨address, rfl⟩ | ⟨name, domain, rfl, hname, -, -⟩
  · simp only [chars, List.mem_cons, List.mem_append, List.not_mem_nil, or_false] at hc
    rcases hc with rfl | hc | rfl
    · decide
    · rcases Ipv6.mem_chars hc with rfl | hdigit
      · decide
      · exact plain_of_hexValue? hdigit
    · decide
  · rcases Ipv4.mem_chars hc with rfl | hdigit
    · decide
    · obtain ⟨hascii, hforbidden, -⟩ := plain_of_isDigit hdigit
      exact plain_of_plain hascii hforbidden
  · obtain ⟨-, -, -, -, -, hplain⟩ := Domain.labels_of_toAscii? hname
    rw [chars_name] at hc
    exact plain_of_plain (hplain c hc).1 (hplain c hc).2

theorem isHostText_chars (h : ofMeaning? cs = .ok host) : IsHostText host.chars := by
  have hhost : hostOf? "https" cs = .ok host := h
  have hne : host.chars ≠ [] := by
    rcases ofMeaning?_eq_ok h with ⟨address, rfl⟩ | ⟨address, rfl⟩ | ⟨name, domain, rfl, -, hdomain, -⟩
    · exact List.cons_ne_nil _ _
    · exact Ipv4.chars_ne_nil address
    · rw [chars_name]
      exact hdomain
  exact ⟨hne, fun c hc => (plain_of_mem_chars h hc).1, (isClosed_of_hostOf? hhost).2,
    fun c hc => (plain_of_mem_chars h hc).2⟩

/-- A host that has a meaning is in lowercase. -/
theorem toLower_of_mem_chars (h : ofMeaning? cs = .ok host) {c : Char} (hc : c ∈ host.chars) :
    c.toLower = c := by
  rcases ofMeaning?_eq_ok h with ⟨address, rfl⟩ | ⟨address, rfl⟩ | ⟨name, domain, rfl, hname, -, -⟩
  · simp only [chars, List.mem_cons, List.mem_append, List.not_mem_nil, or_false] at hc
    rcases hc with rfl | hc | rfl
    · decide
    · exact Ipv6.toLower_of_mem_chars hc
    · decide
  · rcases Ipv4.mem_chars hc with rfl | hdigit
    · decide
    · exact (plain_of_isDigit hdigit).2.2
  · rw [chars_name] at hc
    exact Domain.lower_of_toAscii? hname c hc

/-- Addresses have no encoded labels. -/
theorem readable_of_address (h : (∃ address, host = .ipv6 address) ∨ ∃ address, host = .ipv4 address) :
    Domain.Readable host.chars := by
  have hfirst {part : List Char} (hmark : Domain.encodedMark <+: part) : part.head? = some 'x' := by
    obtain ⟨rest, rfl⟩ := hmark
    rfl
  rcases h with ⟨address, rfl⟩ | ⟨address, rfl⟩
  · have hdot : '.' ∉ (Host.ipv6 address).chars := by
      intro hin
      simp only [chars, List.mem_cons, List.mem_append, List.not_mem_nil, or_false] at hin
      rcases hin with heq | hin | heq
      · exact absurd heq (by decide)
      · rcases Ipv6.mem_chars hin with heq | hdigit
        · exact absurd heq (by decide)
        · exact absurd hdigit (by decide)
      · exact absurd heq (by decide)
    intro part hpart hmark
    rw [List.splitOn_eq_singleton hdot, List.mem_singleton] at hpart
    subst hpart
    cases hfirst hmark
  · intro part hpart hmark
    rw [chars, Ipv4.splitOn_chars] at hpart
    obtain ⟨n, -, rfl⟩ := List.mem_map.1 hpart
    have hdigit := Text.isDigit_of_mem_toDigits (List.mem_of_mem_head? (hfirst hmark))
    exact absurd hdigit (by decide)

/-- A host is read from its own text if the decoder reads its labels. -/
theorem ofMeaning?_chars_of_readable (h : ofMeaning? cs = .ok host)
    (readable : Domain.Readable host.chars) : ofMeaning? host.chars = .ok host := by
  rcases ofMeaning?_eq_ok h with ⟨address, rfl⟩ | ⟨address, rfl⟩ |
    ⟨name, domain, rfl, hname, hne, hnumber⟩
  · exact bracketed?_chars address
  · exact ofMeaning?_ipv4 address
  · rw [chars_name] at readable ⊢
    obtain ⟨labels, hlabels⟩ := Domain.divides_of_toAscii? hname
    obtain ⟨-, -, -, -, -, hplain⟩ := Domain.labels_of_toAscii? hname
    have hself := hlabels.toAscii?_of_readable (fun c hc => (hplain c hc).1)
      (Domain.lower_of_toAscii? hname) readable
    exact (ofMeaning?_of_toAscii? hself hne).1 hnumber

/-- A host with a label that is too long for the decoder is not read from its own text. -/
theorem ofMeaning?_chars_of_not_readable (h : ofMeaning? cs = .ok host)
    (unreadable : ¬Domain.Readable host.chars) : ofMeaning? host.chars = .error .invalidDomain := by
  rcases ofMeaning?_eq_ok h with hv6 | hv4 | ⟨name, domain, rfl, hname, -, -⟩
  · exact absurd (readable_of_address (Or.inl hv6)) unreadable
  · exact absurd (readable_of_address (Or.inr hv4)) unreadable
  · rw [chars_name] at unreadable ⊢
    obtain ⟨-, -, -, -, -, hplain⟩ := Domain.labels_of_toAscii? hname
    have hforbidden : ∀ c ∈ domain, Domain.isForbidden c = false := fun c hc => (hplain c hc).2
    have hpercent : '%' ∉ domain := fun hin => absurd (hforbidden '%' hin) (by decide)
    have hhead : domain.head? ≠ some '[' :=
      fun heq => absurd (hforbidden '[' (List.mem_of_mem_head? heq)) (by decide)
    have hnone : domain? domain = none := (domain?_of_not_mem hpercent).trans
      (Domain.toAscii?_eq_none_of_not_readable (fun c hc => (hplain c hc).1)
        (Domain.lower_of_toAscii? hname) unreadable)
    rw [ofMeaning?, if_neg hhead, hnone]

/-- Whether a text is that of the host for which it stands. -/
def IsWritten (text : String) : Prop :=
  ∃ host, ofMeaning? text.toList = .ok host ∧ host.render = text

theorem IsWritten.isHostText {text : String} (h : IsWritten text) : IsHostText text.toList := by
  obtain ⟨host, hread, rfl⟩ := h
  rw [toList_render]
  exact isHostText_chars hread

end Host

/-! ## Reading the authority -/

/-- A host and a port, and nobody who asks. -/
def Authority.ofHost (host : Option Host) (port : Option Nat) : Authority := ⟨"", "", host, port⟩

/-- Whether a port can be written in a URL of this kind: it is in range and not the default. -/
def SchemeKind.Writes (kind : SchemeKind) (port : Option Nat) : Prop :=
  ∀ n, port = some n → n ≤ 65535 ∧ kind.defaultPort? ≠ some n

theorem SchemeKind.writes_none (kind : SchemeKind) : kind.Writes none := fun _ hnone => nomatch hnone

theorem portOfDigits?_toDigits {kind : SchemeKind} {port : Option Nat} (h : kind.Writes port) :
    portOfDigits? kind ((port.map (Nat.toDigits 10)).getD []) = .ok port := by
  cases port with
  | none => rfl
  | some n =>
      obtain ⟨hle, hdefault⟩ := h n rfl
      have hne : (Nat.toDigits 10 n).isEmpty = false :=
        List.isEmpty_eq_false_iff.2 Nat.toDigits_ne_nil
      have hkept : (kind.defaultPort? == some n) = false := beq_eq_false_iff_ne.2 hdefault
      rw [Option.map_some, Option.getD_some, portOfDigits?, Text.ofDecimal_toDigits,
        if_neg (Nat.not_lt.2 hle), hne, hkept]
      rfl

section Reading

variable {scheme s : String} {host path : List Char} {port : Option Nat}

theorem hostOfText?_of_special {kind : SchemeKind} (special : kind.isSpecial = true)
    (hne : host ≠ []) : hostOfText? kind host = (Host.ofMeaning? host).map some := by
  have hsome : host.isEmpty = false := List.isEmpty_eq_false_iff.2 hne
  rw [hostOfText?, hsome, special]
  rfl

/-- A host and a port are read as such. -/
theorem authority?_of_isHostText {kind : SchemeKind} (special : kind.isSpecial = true)
    (h : IsHostText host) (writes : kind.Writes port) (more : Bool) :
    authority? kind more (host ++ (Authority.ofHost none port).portText.toList) =
      (Host.ofMeaning? host).map (fun found => ⟨Authority.ofHost (some found) port, []⟩) := by
  have hat : '@' ∉ host ++ (Authority.ofHost none port).portText.toList := by
    intro hin
    rcases List.mem_append.1 hin with hin | hin
    · exact ne_of_not_isMark (h.unmarked '@' hin) rfl rfl
    · exact Authority.at_not_mem_portText _ hin
  have huser : cutUserinfo (host ++ (Authority.ofHost none port).portText.toList) =
      (none, host ++ (Authority.ofHost none port).portText.toList) := by
    rw [cutUserinfo, if_neg (by simpa using hat)]
  have hport : cutPort false (host ++ (Authority.ofHost none port).portText.toList) =
      (host, port.map (Nat.toDigits 10)) := by
    rw [cutPort_append h.closed, Authority.cutPort_portText, List.append_nil]
    rfl
  have hdigits : ∀ c ∈ (port.map (Nat.toDigits 10)).getD [], c.isDigit = true := by
    cases port with
    | none => exact fun c hc => absurd hc List.not_mem_nil
    | some n => exact fun c hc => Text.isDigit_of_mem_toDigits hc
  have htake := List.takeWhile_eq_self_iff.2 hdigits
  have hdrop := List.dropWhile_eq_nil_iff.2 hdigits
  simp only [authority?, huser, hport, hostOfText?_of_special special h.ne_nil, bind, Except.bind,
    throw, throwThe, MonadExceptOf.throw, pure, Except.pure, htake, hdrop,
    portOfDigits?_toDigits writes]
  cases Host.ofMeaning? host with
  | error fault => rfl
  | ok found => rfl

/-! ## Reading the whole -/

/-- The text of a scheme of the web is read as that scheme. -/
theorem scheme?_of_web (web : scheme = "http" ∨ scheme = "https") (rest : List Char) :
    scheme? (scheme.toList ++ ':' :: rest) = some (scheme, rest) ∧ IsVisible scheme.toList ∧
      (kindOfScheme scheme).isSpecial = true ∧ ∃ n, kindOfScheme scheme = .web n := by
  rcases web with rfl | rfl
  · refine ⟨?_, by simp [IsVisible], rfl, 80, rfl⟩
    rw [scheme?, cutAt_append (by decide)]
    rfl
  · refine ⟨?_, by simp [IsVisible], rfl, 443, rfl⟩
    rw [scheme?, cutAt_append (by decide)]
    rfl

theorem Reference.ofChars_of_not_mem {cs : List Char} (hquery : '?' ∉ cs) (hfragment : '#' ∉ cs) :
    Reference.ofChars cs = ⟨cs, none, none⟩ := by
  rw [Reference.ofChars, cutAt_of_not_mem hfragment]
  simp only [cutAt_of_not_mem hquery, Option.map_none]

/-- The slash at the front of a path divides it from a host without slashes. -/
theorem span_isSlash (hhost : ∀ c ∈ host, isSlash true c = false)
    (hpath : path.head?.all (· == '/') = true) :
    (host ++ path).takeWhile (fun c => !isSlash true c) = host ∧
      (host ++ path).dropWhile (fun c => !isSlash true c) = path := by
  have hall : ∀ c ∈ host, (!isSlash true c) = true := fun c hc => by rw [hhost c hc]; rfl
  rw [List.takeWhile_append_of_pos hall, List.dropWhile_append_of_pos hall]
  cases path with
  | nil => exact ⟨List.append_nil host, rfl⟩
  | cons c path =>
      obtain rfl : c = '/' := by simpa using hpath
      exact ⟨List.append_nil host, rfl⟩

theorem withAuthority_of_isHostText (special : (kindOfScheme scheme).isSpecial = true)
    (h : IsHostText host) (writes : (kindOfScheme scheme).Writes port) (hpath : IsPathText path) :
    withAuthority scheme (host ++ (Authority.ofHost none port).portText.toList ++ path)
        ⟨path, none, none⟩ =
      (Host.ofMeaning? host).map (fun found =>
        ⟨scheme, some (Authority.ofHost (some found) port), pathBehindAuthority true path, none,
          none⟩) := by
  have hslash : ∀ c ∈ host ++ (Authority.ofHost none port).portText.toList,
      isSlash true c = false := by
    intro c hc
    rcases List.mem_append.1 hc with hc | hc
    · exact not_isSlash_of_not_isMark (h.unmarked c hc)
    · exact not_isSlash_of_not_isMark (plain_of_mem_portText hc).2
  obtain ⟨hfront, hbehind⟩ := span_isSlash hslash hpath.front
  simp only [withAuthority, special, hfront, hbehind, authority?_of_isHostText special h writes, bind,
    Except.bind, pure, Except.pure]
  cases Host.ofMeaning? host with
  | error fault => rfl
  | ok found => rfl

/-- A text of these parts is a URL of these parts if its host text is a host, and none otherwise. -/
theorem parse_of_parts (web : scheme = "http" ∨ scheme = "https") (h : IsHostText host)
    (writes : (kindOfScheme scheme).Writes port) (hpath : IsPathText path)
    (htext : s.toList = scheme.toList ++ ':' :: '/' :: '/' ::
      (host ++ (Authority.ofHost none port).portText.toList ++ path)) :
    parse s = (Host.ofMeaning? host).map (fun found =>
      ⟨scheme, some (Authority.ofHost (some found) port), pathBehindAuthority true path, none,
        none⟩) := by
  let behind := host ++ (Authority.ofHost none port).portText.toList ++ path
  obtain ⟨hscheme, hvisible, special, n, hkind⟩ := scheme?_of_web web ('/' :: '/' :: behind)
  have hport : ∀ c ∈ (Authority.ofHost none port).portText.toList, 0x20 < c.toNat ∧ isMark c = false :=
    fun c hc => plain_of_mem_portText hc
  have hbehind : IsVisible behind :=
    (h.visible.append (fun c hc => (hport c hc).1)).append hpath.visible
  have hrest : IsVisible ('/' :: '/' :: behind) :=
    List.forall_mem_cons.2 ⟨by decide, List.forall_mem_cons.2 ⟨by decide, hbehind⟩⟩
  have hmark (mark : Char) (hmark : isMark mark = true) (hslash : mark ≠ '/') (hin : mark ∉ path) :
      mark ∉ '/' :: '/' :: behind := by
    intro hmem
    rcases List.mem_cons.1 hmem with heq | hmem
    · exact hslash heq
    rcases List.mem_cons.1 hmem with heq | hmem
    · exact hslash heq
    rcases List.mem_append.1 hmem with hmem | hmem
    · rcases List.mem_append.1 hmem with hmem | hmem
      · exact ne_of_not_isMark (h.unmarked mark hmem) hmark rfl
      · exact ne_of_not_isMark (hport mark hmem).2 hmark rfl
    · exact hin hmem
  have hreference : Reference.ofChars ('/' :: '/' :: behind) = ⟨'/' :: '/' :: behind, none, none⟩ :=
    Reference.ofChars_of_not_mem (hmark '?' rfl (by decide) hpath.closed.1)
      (hmark '#' rfl (by decide) hpath.closed.2)
  -- The host begins with no slash, so there are exactly two in front of it.
  have hslashes : ('/' :: '/' :: behind).takeWhile (isSlash true) = ['/', '/'] := by
    obtain ⟨c, cs, hcs⟩ := List.exists_cons_of_ne_nil h.ne_nil
    have hc := not_isSlash_of_not_isMark (h.unmarked c (hcs ▸ List.mem_cons_self))
    show ('/' :: '/' :: (host ++ _ ++ path)).takeWhile (isSlash true) = ['/', '/']
    rw [hcs]
    simp [isSlash] at hc ⊢
    simp [hc]
  have htrim : trim s = scheme.toList ++ ':' :: '/' :: '/' :: behind := by
    have hall : IsVisible s.toList := by
      rw [htext]
      exact hvisible.append (List.forall_mem_cons.2 ⟨by decide, hrest⟩)
    rw [hall.trim_eq, htext]
  rw [parse, resolve, htrim, hscheme]
  show ofScheme none scheme (.ofChars ('/' :: '/' :: behind)) = _
  rw [hreference, ofScheme, hkind]
  simp only [Reference.front, hrest.dropBreaks_eq, hslashes]
  exact withAuthority_of_isHostText special h writes hpath

/-- The parts of a text under the secure scheme and its usual port. -/
theorem parse_of_secure (h : IsHostText host) (hpath : IsPathText path)
    (htext : s.toList = "https://".toList ++ (host ++ path)) :
    parse s = (Host.ofMeaning? host).map (fun found =>
      ⟨"https", some (Authority.ofHost (some found) none), pathBehindAuthority true path, none, none⟩) := by
  refine parse_of_parts (Or.inr rfl) h (SchemeKind.writes_none _) hpath (htext.trans ?_)
  rw [Authority.toList_portText, Authority.ofHost, List.append_nil]
  rfl

end Reading

end Url
end RealmTokens
