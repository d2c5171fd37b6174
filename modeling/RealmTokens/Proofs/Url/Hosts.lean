/-
Hosts and their texts.

A URL is given another host as a text, which is read again.  The text of a host that was read before is
read as that host, as long as a name is legible, whatever the host is: a name, an address, or a text
that has no meaning under the scheme of the URL.  `AuthoritySource` says where the host of a URL that was
read comes from.
-/
import Mathlib.Data.List.TakeWhile
import RealmTokens.Proofs.Domain.Names
import RealmTokens.Proofs.Text.Characters
import RealmTokens.Proofs.Url.Addresses
import RealmTokens.Url.Edit

namespace RealmTokens
namespace Url

/-! ## Percent signs -/

namespace Percent

theorem decode_of_not_mem {cs : List Char} (h : '%' ∉ cs) :
    decode cs = cs.flatMap String.utf8EncodeChar := by
  induction cs with
  | nil => rfl
  | cons c cs ih =>
      have hc : c ≠ '%' := fun heq => h (heq ▸ List.mem_cons_self)
      have hcs := ih (fun hin => h (List.mem_cons_of_mem c hin))
      rw [List.flatMap_cons, ← hcs, decode]
      exact fun _ _ _ heq _ => hc heq

theorem mem_encode {escaped : Char → Bool} {cs : List Char} {c : Char} (h : c ∈ encode escaped cs) :
    (c ∈ cs ∧ escaped c = false) ∨ c = '%' ∨ ∃ n < 16, c = Text.upperHexDigit n := by
  obtain ⟨d, hd, hc⟩ := List.mem_flatMap.1 h
  split at hc
  case isTrue =>
    obtain ⟨b, -, hb⟩ := List.mem_flatMap.1 hc
    have hlt : b.toNat < 256 := b.toNat_lt
    simp only [encodeByte, List.mem_cons, List.not_mem_nil, or_false] at hb
    rcases hb with rfl | rfl | rfl
    · exact Or.inr (Or.inl rfl)
    · exact Or.inr (Or.inr ⟨_, by omega, rfl⟩)
    · exact Or.inr (Or.inr ⟨_, by omega, rfl⟩)
  case isFalse hescaped =>
    obtain rfl := List.mem_singleton.1 hc
    exact Or.inl ⟨hd, Bool.eq_false_iff.2 hescaped⟩

end Percent

/-! ## Hosts -/

namespace Host

theorem domain?_of_not_mem {cs : List Char} (h : '%' ∉ cs) : domain? cs = Domain.toAscii? cs := by
  rw [domain?, Percent.decode_of_not_mem h, ← Text.utf8_ofList, Text.ofUtf8?_utf8,
    String.toList_ofList, Option.bind_some]

theorem bracketed?_eq_ok {cs : List Char} {host : Host} (h : bracketed? cs = .ok host) :
    ∃ address, host = .ipv6 address := by
  unfold bracketed? at h
  split at h
  case h_1 =>
    split at h
    case isTrue =>
      split at h
      case h_1 address _ => exact ⟨address, (Except.ok.inj h).symm⟩
      case h_2 => cases h
    case isFalse => cases h
  case h_2 => cases h

theorem bracketed?_chars (address : Ipv6) :
    bracketed? (Host.ipv6 address).chars = .ok (.ipv6 address) := by
  have hlast : (Ipv6.chars address ++ [']']).getLast? = some ']' := by simp
  have hfront : (Ipv6.chars address ++ [']']).dropLast = Ipv6.chars address := by simp
  show bracketed? ('[' :: (Ipv6.chars address ++ [']'])) = _
  simp only [bracketed?, hlast, hfront, Ipv6.ofChars?_chars, if_true]

/-! ### Under a scheme that gives hosts a meaning -/

theorem ofMeaning?_eq_ok {cs : List Char} {host : Host} (h : ofMeaning? cs = .ok host) :
    (∃ address, host = .ipv6 address) ∨ (∃ address, host = .ipv4 address) ∨
      ∃ name domain, host = .name (String.ofList domain) ∧ Domain.toAscii? name = some domain ∧
        domain ≠ [] ∧ Ipv4.endsInNumber domain = false := by
  unfold ofMeaning? at h
  split at h
  case isTrue => exact Or.inl (bracketed?_eq_ok h)
  case isFalse =>
    cases hdomain : domain? cs with
    | none => simp [hdomain] at h
    | some domain =>
        simp only [hdomain] at h
        split at h
        case isTrue => cases h
        case isFalse hne =>
          split at h
          case isTrue =>
            split at h
            case h_1 address _ => exact Or.inr (Or.inl ⟨address, (Except.ok.inj h).symm⟩)
            case h_2 => cases h
          case isFalse hnumber =>
            obtain ⟨name, -, hname⟩ := Option.bind_eq_some_iff.1 hdomain
            exact Or.inr (Or.inr ⟨name, domain, (Except.ok.inj h).symm, hname,
              fun heq => hne (List.isEmpty_iff.2 heq), Bool.eq_false_iff.2 hnumber⟩)

/-- A name that is its own text in ASCII is not changed on its way to a host. -/
theorem ofMeaning?_of_toAscii? {domain : List Char} (h : Domain.toAscii? domain = some domain)
    (hne : domain ≠ []) :
    (Ipv4.endsInNumber domain = false → ofMeaning? domain = .ok (.name (String.ofList domain))) ∧
      ∀ address, Ipv4.endsInNumber domain = true → Ipv4.ofChars? domain = some address →
        ofMeaning? domain = .ok (.ipv4 address) := by
  obtain ⟨-, -, -, -, -, hplain⟩ := Domain.labels_of_toAscii? h
  have hforbidden : ∀ c ∈ domain, Domain.isForbidden c = false := fun c hc => (hplain c hc).2
  have hpercent : '%' ∉ domain := fun hin => absurd (hforbidden '%' hin) (by decide)
  have hhead : domain.head? ≠ some '[' :=
    fun heq => absurd (hforbidden '[' (List.mem_of_mem_head? heq)) (by decide)
  have hdomain : domain? domain = some domain := (domain?_of_not_mem hpercent).trans h
  have hsome : domain.isEmpty = false := List.isEmpty_eq_false_iff.2 hne
  constructor
  · intro hnumber
    simp only [ofMeaning?, hhead, hdomain, hsome, hnumber, if_false, Bool.false_eq_true]
  · intro address hnumber haddress
    simp only [ofMeaning?, hhead, hdomain, hsome, hnumber, haddress, if_false, if_true,
      Bool.false_eq_true]

theorem plain_of_isDigit {c : Char} (h : c.isDigit = true) : Domain.IsPlain c :=
  Text.forall_char_lt
    (p := fun c => c.isDigit = true → Domain.IsPlain c) (by decide +kernel)
    (Text.toNat_lt_of_isDigit h) h

theorem toAscii?_ipv4 (address : UInt32) :
    Domain.toAscii? (Ipv4.chars address) = some (Ipv4.chars address) := by
  refine Domain.toAscii?_of_plain (fun c hc => ?_) (fun part hpart => ?_)
  · rcases Ipv4.mem_chars hc with rfl | hdigit
    · exact ⟨by decide, by decide, by decide⟩
    · exact plain_of_isDigit hdigit
  · rw [Ipv4.splitOn_chars] at hpart
    obtain ⟨n, -, rfl⟩ := List.mem_map.1 hpart
    refine Bool.eq_false_iff.2 (fun hprefix => ?_)
    obtain ⟨rest, hrest⟩ := List.isPrefixOf_iff_prefix.1 hprefix
    have hx : 'x' ∈ Nat.toDigits 10 n := by
      rw [← hrest]
      exact List.mem_cons_self
    exact absurd (Text.isDigit_of_mem_toDigits hx) (by decide)

theorem ofMeaning?_ipv4 (address : UInt32) :
    ofMeaning? (Host.ipv4 address).chars = .ok (.ipv4 address) := by
  have hne : Ipv4.chars address ≠ [] := by
    intro hnil
    have h := Ipv4.splitOn_chars address
    rw [hnil] at h
    exact absurd (congrArg List.length h) (by simp [Ipv4.numbers])
  show ofMeaning? (Ipv4.chars address) = _
  exact (ofMeaning?_of_toAscii? (toAscii?_ipv4 address) hne).2 address
    (Ipv4.endsInNumber_chars address) (Ipv4.ofChars?_chars address)

@[simp] theorem chars_name (domain : List Char) : (Host.name (String.ofList domain)).chars = domain :=
  String.toList_ofList

theorem toList_render (host : Host) : host.render.toList = host.chars := String.toList_ofList

/-- The text of a host is read as that host. -/
theorem ofMeaning?_chars {cs : List Char} {host : Host} (h : ofMeaning? cs = .ok host)
    (legible : Domain.Legible host.chars) : ofMeaning? host.chars = .ok host := by
  rcases ofMeaning?_eq_ok h with ⟨address, rfl⟩ | ⟨address, rfl⟩ |
    ⟨name, domain, rfl, hname, hne, hnumber⟩
  · exact bracketed?_chars address
  · exact ofMeaning?_ipv4 address
  · rw [chars_name] at legible ⊢
    exact (ofMeaning?_of_toAscii? (Domain.toAscii?_of_toAscii? hname legible) hne).1 hnumber

/-! ### Under any other scheme -/

/-- What is written in percent signs is not written so once more. -/
theorem encode_encode (cs : List Char) :
    Percent.encode Percent.controlSet (Percent.encode Percent.controlSet cs) =
      Percent.encode Percent.controlSet cs := by
  refine Percent.encode_eq_self (fun c hc => ?_)
  rcases Percent.mem_encode hc with ⟨-, h⟩ | rfl | ⟨n, hn, rfl⟩
  · exact h
  · decide
  · have hall : ∀ n < 16, Percent.controlSet (Text.upperHexDigit n) = false := by decide
    exact hall n hn

theorem ofText?_eq_ok {cs : List Char} {host : Host} (h : ofText? cs = .ok host) :
    (∃ address, host = .ipv6 address) ∨
      host.chars = Percent.encode Percent.controlSet cs ∧
        host = .name (String.ofList host.chars) ∧ ∀ c ∈ host.chars, isForbidden c = false := by
  unfold ofText? at h
  split at h
  case isTrue => exact Or.inl (bracketed?_eq_ok h)
  case isFalse =>
    split at h
    case isTrue => cases h
    case isFalse hany =>
      obtain rfl := Except.ok.inj h
      rw [chars_name]
      refine Or.inr ⟨rfl, rfl, fun c hc => ?_⟩
      rcases Percent.mem_encode hc with ⟨hin, -⟩ | rfl | ⟨n, hn, rfl⟩
      · exact Bool.eq_false_iff.2 (fun hc' => hany (List.any_eq_true.2 ⟨c, hin, hc'⟩))
      · decide
      · have hall : ∀ n < 16, isForbidden (Text.upperHexDigit n) = false := by decide
        exact hall n hn

theorem ofText?_chars {cs : List Char} {host : Host} (h : ofText? cs = .ok host) :
    ofText? host.chars = .ok host := by
  rcases ofText?_eq_ok h with ⟨address, rfl⟩ | ⟨hchars, hname, hforbidden⟩
  · exact bracketed?_chars address
  · have hhead : host.chars.head? ≠ some '[' :=
      fun heq => absurd (hforbidden '[' (List.mem_of_mem_head? heq)) (by decide)
    have hnone : host.chars.any isForbidden = false :=
      List.any_eq_false.2 (fun c hc => by simp [hforbidden c hc])
    have hencode : Percent.encode Percent.controlSet host.chars = host.chars := by
      rw [hchars, encode_encode]
    rw [ofText?, if_neg hhead, hnone, hencode, ← hname]
    rfl

end Host

/-! ## Hosts of URLs -/

/-- The host of a text in a URL of this scheme. -/
def hostOf? (scheme : String) (cs : List Char) : Except Fault Host :=
  if (kindOfScheme scheme).isSpecial then Host.ofMeaning? cs else Host.ofText? cs

/-- The host that a text stands for when it replaces the host of a URL of this scheme. -/
def newHost? (scheme text : String) : Except Fault Host :=
  (withoutPort text.toList).bind (hostOf? scheme)

theorem hostOf?_chars {scheme : String} {cs : List Char} {host : Host}
    (h : hostOf? scheme cs = .ok host) (legible : Domain.Legible host.chars) :
    hostOf? scheme host.chars = .ok host := by
  unfold hostOf? at h ⊢
  split
  case isTrue special =>
    rw [if_pos special] at h
    exact Host.ofMeaning?_chars h legible
  case isFalse special =>
    rw [if_neg special] at h
    exact Host.ofText?_chars h

theorem isForbidden_of_plain {c : Char} (hascii : Text.isAscii c = true)
    (h : Domain.isForbidden c = false) : Host.isForbidden c = false :=
  Text.forall_char_lt
    (p := fun c => Domain.isForbidden c = false → Host.isForbidden c = false)
    (by decide +kernel) (of_decide_eq_true hascii) h

/-- A host is an address between brackets, or has only characters that are allowed in all hosts. -/
theorem isForbidden_of_mem_chars {scheme : String} {cs : List Char} {host : Host}
    (h : hostOf? scheme cs = .ok host) :
    (∃ address, host = .ipv6 address) ∨ ∀ c ∈ host.chars, Host.isForbidden c = false := by
  unfold hostOf? at h
  split at h
  case isTrue =>
    rcases Host.ofMeaning?_eq_ok h with hv6 | ⟨address, rfl⟩ | ⟨name, domain, rfl, hname, -, -⟩
    · exact Or.inl hv6
    · refine Or.inr (fun c hc => ?_)
      rcases Ipv4.mem_chars hc with rfl | hdigit
      · decide
      · obtain ⟨hascii, hplain, -⟩ := Host.plain_of_isDigit hdigit
        exact isForbidden_of_plain hascii hplain
    · obtain ⟨-, -, -, -, -, hplain⟩ := Domain.labels_of_toAscii? hname
      rw [Host.chars_name]
      exact Or.inr (fun c hc => isForbidden_of_plain (hplain c hc).1 (hplain c hc).2)
  case isFalse =>
    rcases Host.ofText?_eq_ok h with hv6 | ⟨-, -, hforbidden⟩
    · exact Or.inl hv6
    · exact Or.inr hforbidden

/-- A colon stands in no host but an address between brackets. -/
theorem colon_not_mem_chars {scheme : String} {cs : List Char} {host : Host}
    (h : hostOf? scheme cs = .ok host) : (∃ address, host = .ipv6 address) ∨ ':' ∉ host.chars := by
  refine (isForbidden_of_mem_chars h).imp_right (fun hallowed hin => ?_)
  exact absurd (hallowed ':' hin) (by decide)

theorem cutAt_of_not_mem {mark : Char} {cs : List Char} (h : mark ∉ cs) :
    cutAt mark cs = (cs, none) := by
  have hnil : cs.dropWhile (· != mark) = [] :=
    List.dropWhile_eq_nil_iff.2 (fun c hc => bne_iff_ne.2 (fun heq => h (heq ▸ hc)))
  rw [cutAt, hnil]

/-- A text is cut at the first mark in it. -/
theorem cutAt_append {mark : Char} {cs : List Char} (h : mark ∉ cs) (behind : List Char) :
    cutAt mark (cs ++ mark :: behind) = (cs, some behind) := by
  have hall : ∀ c ∈ cs, (c != mark) = true := fun c hc => bne_iff_ne.2 (fun heq => h (heq ▸ hc))
  rw [cutAt, List.dropWhile_append_of_pos hall, List.takeWhile_append_of_pos hall]
  simp

theorem withoutPort_chars {scheme : String} {cs : List Char} {host : Host}
    (h : hostOf? scheme cs = .ok host) : withoutPort host.chars = .ok host.chars := by
  unfold withoutPort
  rcases colon_not_mem_chars h with ⟨address, rfl⟩ | hcolon
  · have hlast : (Host.ipv6 address).chars.getLast? = some ']' := by
      simp [Host.chars, List.getLast?_cons]
    exact if_pos ⟨rfl, hlast⟩
  · rw [cutAt_of_not_mem hcolon]
    split
    case isTrue => rfl
    case isFalse =>
      split
      case h_1 heq => simp at heq
      case h_2 heq =>
        obtain ⟨rfl, -⟩ := Prod.mk.inj heq
        rfl

/-- The text of a host stands for that host. -/
theorem newHost?_render {scheme : String} {cs : List Char} {host : Host}
    (h : hostOf? scheme cs = .ok host) (legible : Domain.Legible host.chars) :
    newHost? scheme host.render = .ok host := by
  rw [newHost?, Host.toList_render, withoutPort_chars h]
  exact hostOf?_chars h legible

/-! ### Reading -/

section Reading

variable {u : Url} {scheme s : String} {r : Reference}

/-- The host of this URL, if it has one, was read from a text. -/
def HostFromText (u : Url) : Prop :=
  ∀ host, u.host? = some host → ∃ cs, hostOf? u.scheme cs = .ok host

theorem hostOf?_of_hostOfText? {cs : List Char} {host : Host}
    (h : hostOfText? (kindOfScheme scheme) cs = .ok (some host)) : hostOf? scheme cs = .ok host := by
  unfold hostOfText? at h
  unfold hostOf?
  split at h
  case isTrue => split at h <;> cases h
  case isFalse =>
    split at h
    case isTrue special =>
      rw [if_pos special]
      cases hhost : Host.ofMeaning? cs with
      | error fault => simp [hhost, Except.map] at h
      | ok other => simpa [hhost, Except.map] using h
    case isFalse special =>
      rw [if_neg special]
      cases hhost : Host.ofText? cs with
      | error fault => simp [hhost, Except.map] at h
      | ok other => simpa [hhost, Except.map] using h

/-- The parts of an authority come from the texts that it is divided into.  Where there is no host,
there is nothing else. -/
theorem authority?_eq_ok {kind : SchemeKind} {more : Bool} {cs : List Char}
    {parsed : ParsedAuthority} (h : authority? kind more cs = .ok parsed) :
    ∃ username password hostText portText,
      hostOfText? kind hostText = .ok parsed.authority.host ∧
      portOfDigits? kind ((Option.getD portText []).takeWhile Char.isDigit) =
        .ok parsed.authority.port ∧
      parsed.authority.username = encodeUserinfo username ∧
      parsed.authority.password = encodeUserinfo password ∧
      (parsed.authority.host = none → portText = none ∧ username = [] ∧ password = []) := by
  unfold authority? at h
  simp only [bind, Except.bind, throw, throwThe, MonadExceptOf.throw, pure, Except.pure] at h
  split at h
  · cases h
  split at h
  case h_1 => cases h
  case h_2 host hhost =>
    split at h
    · cases h
    case isFalse hport =>
      split at h
      case h_1 => cases h
      case h_2 port hdigits =>
        split at h
        · cases h
        split at h
        · cases h
        case isFalse hnamed =>
          cases h
          refine ⟨_, _, _, _, hhost, hdigits, rfl, rfl, fun hnone => ?_⟩
          have hempty : host.isNone = true := Option.isNone_iff_eq_none.2 hnone
          simp only [hempty, true_and, Bool.and_true, Bool.or_eq_true, Bool.not_eq_true',
            not_or, Bool.not_eq_false, List.isEmpty_iff] at hport hnamed
          exact ⟨Option.not_isSome_iff_eq_none.1 hport, hnamed⟩

theorem hostOf?_of_fileHost? {cs : List Char} {host : Host} (h : fileHost? cs = .ok (some host)) :
    hostOf? "file" cs = .ok host := by
  have special : (kindOfScheme "file").isSpecial = true := by decide
  rw [hostOf?, if_pos special]
  unfold fileHost? at h
  split at h
  case isTrue => cases h
  case isFalse =>
    cases hother : Host.ofMeaning? cs with
    | error fault => simp [hother, Except.map] at h
    | ok other =>
        simp only [hother, Except.map, Except.ok.injEq] at h
        split at h
        case isTrue => cases h
        case isFalse => rw [Option.some.inj h]

/-! ### Where the authority of a URL comes from -/

/-- What may stand between the slashes of a URL that was read: nothing, an authority that was read, or
the host of a file, which may be none. -/
inductive AuthoritySource (scheme : String) : Option Authority → Prop where
  | nothing : AuthoritySource scheme none
  | text {more : Bool} {cs : List Char} {parsed : ParsedAuthority}
      (read : authority? (kindOfScheme scheme) more cs = .ok parsed) :
      AuthoritySource scheme (some parsed.authority)
  | localFile (file : scheme = "file") : AuthoritySource scheme (fileAuthority none)
  | fileOnHost (file : scheme = "file") {cs : List Char} {host : Host}
      (read : fileHost? cs = .ok (some host)) : AuthoritySource scheme (fileAuthority (some host))

theorem source_of_withAuthority {cs : List Char} (h : withAuthority scheme cs r = .ok u) :
    u.scheme = scheme ∧ AuthoritySource u.scheme u.authority := by
  unfold withAuthority at h
  simp only [bind, Except.bind, pure, Except.pure] at h
  split at h
  case h_1 => cases h
  case h_2 parsed hparsed =>
    cases h
    exact ⟨rfl, .text hparsed⟩

theorem source_of_fileWithHost {cs : List Char} (h : fileWithHost cs r = .ok u) :
    u.scheme = "file" ∧ AuthoritySource u.scheme u.authority := by
  unfold fileWithHost at h
  simp only [bind, Except.bind, pure, Except.pure] at h
  split at h
  case isTrue =>
    cases h
    exact ⟨rfl, .localFile rfl⟩
  case isFalse =>
    split at h
    case h_1 => cases h
    case h_2 found hfound =>
      cases found with
      | none =>
          cases h
          exact ⟨rfl, .localFile rfl⟩
      | some host =>
          cases h
          -- A drive letter at the front of the path takes the host away.
          refine ⟨rfl, ?_⟩
          show AuthoritySource "file" (fileAuthority (if _ then none else some host))
          split
          case isTrue => exact .localFile rfl
          case isFalse => exact .fileOnHost rfl hfound

theorem source_of_fileAtRoot (rest : List Char) (r : Reference) :
    (fileAtRoot none rest r).scheme = "file" ∧
      AuthoritySource (fileAtRoot none rest r).scheme (fileAtRoot none rest r).authority := by
  simp only [fileAtRoot, Option.bind_none, Option.filter_none, ite_self]
  exact ⟨rfl, .localFile rfl⟩

theorem source_of_file (h : file none r = .ok u) :
    u.scheme = "file" ∧ AuthoritySource u.scheme u.authority := by
  unfold file at h
  split at h
  case h_1 heq => cases heq
  case h_2 =>
    cases h
    exact ⟨rfl, .localFile rfl⟩
  case h_3 =>
    split at h
    case isTrue =>
      cases h
      exact ⟨rfl, .localFile rfl⟩
    case isFalse =>
      split at h
      case h_1 =>
        split at h
        case isTrue => exact source_of_fileWithHost h
        case isFalse =>
          cases h
          exact source_of_fileAtRoot _ r
      case h_2 =>
        cases h
        exact source_of_fileAtRoot _ r

theorem source_of_ofOther (h : ofOther scheme r = .ok u) :
    u.scheme = scheme ∧ AuthoritySource u.scheme u.authority := by
  unfold ofOther at h
  split at h
  case h_1 => exact source_of_withAuthority h
  case h_2 =>
    cases h
    exact ⟨rfl, .nothing⟩
  case h_3 =>
    cases h
    exact ⟨rfl, .nothing⟩

theorem source_of_ofScheme (h : ofScheme none scheme r = .ok u) :
    (u.scheme = scheme ∨ u.scheme = "file") ∧ AuthoritySource u.scheme u.authority := by
  unfold ofScheme at h
  split at h
  case h_1 => exact (source_of_file h).imp_left Or.inr
  case h_2 => exact (source_of_ofOther h).imp_left Or.inl
  case h_3 => exact (source_of_withAuthority h).imp_left Or.inl

theorem ofScheme_of_parse (h : parse s = .ok u) :
    ∃ scheme rest, scheme? (trim s) = some (scheme, rest) ∧
      ofScheme none scheme (.ofChars rest) = .ok u := by
  unfold parse resolve at h
  split at h
  case h_1 scheme rest hscheme => exact ⟨scheme, rest, hscheme, h⟩
  case h_2 => cases h

theorem source_of_parse (h : parse s = .ok u) : AuthoritySource u.scheme u.authority := by
  obtain ⟨scheme, rest, -, hread⟩ := ofScheme_of_parse h
  exact (source_of_ofScheme hread).2

/-- A URL has its host from the text from which it was read. -/
theorem hostFromText_of_parse (h : parse s = .ok u) : u.HostFromText := by
  intro host hhost
  obtain ⟨a, hauthority, hin⟩ := Option.bind_eq_some_iff.1 hhost
  have hsource := source_of_parse h
  rw [hauthority] at hsource
  cases hsource with
  | text read =>
      obtain ⟨-, -, text, -, htext, -⟩ := authority?_eq_ok read
      exact ⟨text, hostOf?_of_hostOfText? (hin ▸ htext)⟩
  | localFile file => cases hin
  | fileOnHost file read =>
      cases hin
      rw [file]
      exact ⟨_, hostOf?_of_fileHost? read⟩

end Reading

end Url
end RealmTokens
