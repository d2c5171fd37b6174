/-
What the text of an authority tells.

The user ends at the only at sign, and the port begins at the only colon outside of brackets, so the
reader that divides a text finds the parts again from which it was written, whatever the case of its
letters.  Main statement: two authorities that were read have the same text up to case exactly when
their users, hosts and ports are the same.
-/
import RealmTokens.Proofs.Text.Decimal
import RealmTokens.Proofs.Text.Lowercase
import RealmTokens.Proofs.Url.Hosts

namespace RealmTokens
namespace Url

open Text (asciiLowercase asciiLowercase_append)

/-! ## Marks -/

/-- Whether an authority is divided at a character. -/
def divides (c : Char) : Bool :=
  c == '@' || c == ':' || c == '[' || c == ']'

/-- Such a character has no case, and is not what another one becomes in lowercase. -/
theorem toLower_eq_iff {mark : Char} (h : divides mark = true) (c : Char) :
    c.toLower = mark ↔ c = mark := by
  have hfixed : ∀ d : Char, divides d = true ∨ divides d.toLower = true → d.toLower = d := by
    intro d hd
    by_cases hascii : d.toNat < 0x80
    · exact Text.forall_char_lt
        (p := fun d => divides d = true ∨ divides d.toLower = true → d.toLower = d)
        (by decide +kernel) hascii hd
    · exact Text.toLower_eq_self hascii
  constructor
  · rintro rfl
    exact (hfixed c (Or.inr h)).symm
  · rintro rfl
    exact hfixed c (Or.inl h)

theorem mem_asciiLowercase_iff {mark : Char} (h : divides mark = true) {cs : List Char} :
    mark ∈ asciiLowercase cs ↔ mark ∈ cs := by
  rw [asciiLowercase, List.mem_map]
  constructor
  · rintro ⟨c, hc, hlower⟩
    rw [← (toLower_eq_iff h c).1 hlower]
    exact hc
  · intro hin
    exact ⟨mark, hin, (toLower_eq_iff h mark).2 rfl⟩

/-! ## Users -/

/-- Whether a text is empty or ends at an at sign, as what stands in front of a host does. -/
def IsUser (cs : List Char) : Prop :=
  cs = [] ∨ ∃ front, cs = front ++ ['@']

theorem IsUser.asciiLowercase {cs : List Char} (h : IsUser cs) : IsUser (asciiLowercase cs) := by
  rcases h with rfl | ⟨front, rfl⟩
  · exact Or.inl rfl
  · exact Or.inr ⟨Text.asciiLowercase front, asciiLowercase_append front ['@']⟩

/-- What stands behind the last at sign is found again. -/
theorem cutUserinfo_append {user rest : List Char} (huser : IsUser user) (h : '@' ∉ rest) :
    (cutUserinfo (user ++ rest)).2 = rest := by
  unfold cutUserinfo
  rcases huser with rfl | ⟨front, rfl⟩
  · have hnone : ([] ++ rest).contains '@' = false := by simpa using h
    rw [hnone]
    rfl
  · have hsome : (front ++ ['@'] ++ rest).contains '@' = true := by simp
    have hreverse : (front ++ ['@'] ++ rest).reverse = rest.reverse ++ '@' :: front.reverse := by
      simp
    have htake : (rest.reverse ++ '@' :: front.reverse).takeWhile (· != '@') = rest.reverse := by
      rw [List.takeWhile_append_of_pos, List.takeWhile_cons_of_neg, List.append_nil]
      · simp
      · intro c hc
        exact bne_iff_ne.2 (fun heq => h (heq ▸ List.mem_reverse.1 hc))
    rw [if_pos hsome]
    dsimp only
    rw [hreverse, htake, List.reverse_reverse]

/-! ## Hosts and ports -/

/-- Whether a text holds colons between brackets only, as the text of a host does. -/
def IsClosed (cs : List Char) : Prop :=
  (':' ∉ cs ∧ '[' ∉ cs) ∨ ∃ inner, cs = '[' :: (inner ++ [']']) ∧ ']' ∉ inner

theorem IsClosed.asciiLowercase {cs : List Char} (h : IsClosed cs) :
    IsClosed (asciiLowercase cs) := by
  rcases h with ⟨hcolon, hbracket⟩ | ⟨inner, rfl, hinner⟩
  · refine Or.inl ⟨?_, ?_⟩
    · rw [mem_asciiLowercase_iff (by decide)]
      exact hcolon
    · rw [mem_asciiLowercase_iff (by decide)]
      exact hbracket
  · refine Or.inr ⟨Text.asciiLowercase inner, ?_, ?_⟩
    · show _ :: Text.asciiLowercase (inner ++ [']']) = _
      rw [asciiLowercase_append]
      rfl
    · rw [mem_asciiLowercase_iff (by decide)]
      exact hinner

theorem cutPort_append_of_plain {cs : List Char} (hcolon : ':' ∉ cs) (hbracket : '[' ∉ cs)
    (rest : List Char) :
    cutPort false (cs ++ rest) = (cs ++ (cutPort false rest).1, (cutPort false rest).2) := by
  induction cs with
  | nil => rfl
  | cons c cs ih =>
      have hc : c ≠ ':' := fun heq => hcolon (heq ▸ List.mem_cons_self)
      have hb : c ≠ '[' := fun heq => hbracket (heq ▸ List.mem_cons_self)
      have hrest := ih (fun hin => hcolon (List.mem_cons_of_mem c hin))
        (fun hin => hbracket (List.mem_cons_of_mem c hin))
      rw [List.cons_append, cutPort]
      simp [hc, hb, hrest]

theorem cutPort_append_of_inside {inner : List Char} (h : ']' ∉ inner) (rest : List Char) :
    cutPort true (inner ++ ']' :: rest) =
      (inner ++ ']' :: (cutPort false rest).1, (cutPort false rest).2) := by
  induction inner with
  | nil =>
      rw [List.nil_append, cutPort]
      simp
  | cons c inner ih =>
      have hc : c ≠ ']' := fun heq => h (heq ▸ List.mem_cons_self)
      have hrest := ih (fun hin => h (List.mem_cons_of_mem c hin))
      rw [List.cons_append, cutPort]
      simp [hc, hrest]

/-- What stands in front of the port is found again. -/
theorem cutPort_append {host : List Char} (h : IsClosed host) (rest : List Char) :
    cutPort false (host ++ rest) = (host ++ (cutPort false rest).1, (cutPort false rest).2) := by
  rcases h with ⟨hcolon, hbracket⟩ | ⟨inner, rfl, hinner⟩
  · exact cutPort_append_of_plain hcolon hbracket rest
  · have hinside := cutPort_append_of_inside hinner rest
    rw [List.cons_append, List.append_assoc, cutPort]
    simp [hinside]

namespace Authority

variable {a b : Authority} {kind : SchemeKind}

theorem toList_portText (a : Authority) :
    a.portText.toList =
      match a.port with
      | none => []
      | some port => ':' :: Nat.toDigits 10 port := by
  unfold portText
  cases a.port with
  | none => rfl
  | some port =>
      have hdigits : (toString port).toList = Nat.toDigits 10 port := String.toList_ofList
      rw [String.toList_append, hdigits]
      rfl

/-- A port has no letters. -/
theorem asciiLowercase_portText (a : Authority) :
    asciiLowercase a.portText.toList = a.portText.toList := by
  rw [toList_portText, asciiLowercase]
  cases a.port with
  | none => rfl
  | some port =>
      refine (List.map_congr_left (fun c hc => ?_)).trans (List.map_id _)
      rcases List.mem_cons.1 hc with rfl | hdigit
      · decide
      · exact (Host.plain_of_isDigit (Text.isDigit_of_mem_toDigits hdigit)).2.2

theorem cutPort_portText (a : Authority) :
    cutPort false a.portText.toList = ([], a.port.map (Nat.toDigits 10)) := by
  rw [toList_portText]
  cases a.port with
  | none => rfl
  | some port => rfl

theorem at_not_mem_portText (a : Authority) : '@' ∉ a.portText.toList := by
  rw [toList_portText]
  cases a.port with
  | none => exact List.not_mem_nil
  | some port =>
      intro hin
      rcases List.mem_cons.1 hin with heq | hdigit
      · exact absurd heq (by decide)
      · exact absurd (Text.isDigit_of_mem_toDigits hdigit) (by decide)

/-! ## Authorities that were read -/

/-- Whether the parts of an authority are such as a reader under a scheme of this kind finds. -/
structure Legible (kind : SchemeKind) (a : Authority) : Prop where
  host : ∀ host, a.host = some host →
    host.chars ≠ [] ∧ '@' ∉ host.chars ∧ IsClosed host.chars
  nobody : a.host = none → a.username = "" ∧ a.password = "" ∧ a.port = none
  port : ∀ port, a.port = some port → kind.defaultPort? ≠ some port

theorem isUser_userinfo (a : Authority) : IsUser a.userinfo.toList := by
  unfold userinfo
  split
  case isTrue => exact Or.inl rfl
  case isFalse =>
    rw [String.toList_append]
    exact Or.inr ⟨_, rfl⟩

theorem toList_hostText (a : Authority) :
    a.hostText.toList = (a.host.map Host.chars).getD [] := by
  unfold hostText
  cases a.host with
  | none => rfl
  | some host => exact String.toList_ofList

namespace Legible

theorem at_not_mem_hostText (h : a.Legible kind) : '@' ∉ a.hostText.toList := by
  rw [toList_hostText]
  cases hhost : a.host with
  | none => exact List.not_mem_nil
  | some host => exact (h.host host hhost).2.1

theorem isClosed_hostText (h : a.Legible kind) : IsClosed a.hostText.toList := by
  rw [toList_hostText]
  cases hhost : a.host with
  | none => exact Or.inl ⟨List.not_mem_nil, List.not_mem_nil⟩
  | some host => exact (h.host host hhost).2.2

end Legible

theorem asciiLowercase_render (a : Authority) :
    asciiLowercase a.render.toList =
      asciiLowercase a.userinfo.toList ++
        (asciiLowercase a.hostText.toList ++ a.portText.toList) := by
  rw [render, String.toList_append, String.toList_append, asciiLowercase_append,
    asciiLowercase_append, asciiLowercase_portText, List.append_assoc]

/-- The reader finds the host and the port of an authority in its text, whatever the case. -/
theorem Legible.cut_render (h : a.Legible kind) :
    (cutUserinfo (asciiLowercase a.render.toList)).2 =
        asciiLowercase a.hostText.toList ++ a.portText.toList ∧
      cutPort false (asciiLowercase a.hostText.toList ++ a.portText.toList) =
        (asciiLowercase a.hostText.toList, a.port.map (Nat.toDigits 10)) := by
  constructor
  · rw [asciiLowercase_render]
    refine cutUserinfo_append a.isUser_userinfo.asciiLowercase (fun hin => ?_)
    rcases List.mem_append.1 hin with hin | hin
    · exact h.at_not_mem_hostText ((mem_asciiLowercase_iff (by decide)).1 hin)
    · exact a.at_not_mem_portText hin
  · rw [cutPort_append h.isClosed_hostText.asciiLowercase, cutPort_portText, List.append_nil]

theorem port_eq_of_toDigits {x y : Option Nat}
    (h : x.map (Nat.toDigits 10) = y.map (Nat.toDigits 10)) : x = y := by
  have hvalues := congrArg (Option.map Text.ofDecimal) h
  rw [Option.map_map, Option.map_map] at hvalues
  have hid : Text.ofDecimal ∘ Nat.toDigits 10 = id := funext Text.ofDecimal_toDigits
  rw [hid, Option.map_id, id, id] at hvalues
  exact hvalues

/-- The text of an authority tells its user, its host and its port. -/
theorem Legible.render_eq_iff {kind' : SchemeKind} (ha : a.Legible kind) (hb : b.Legible kind') :
    asciiLowercase a.render.toList = asciiLowercase b.render.toList ↔
      asciiLowercase a.userinfo.toList = asciiLowercase b.userinfo.toList ∧
        asciiLowercase a.hostText.toList = asciiLowercase b.hostText.toList ∧ a.port = b.port := by
  constructor
  · intro h
    obtain ⟨hauser, haport⟩ := ha.cut_render
    obtain ⟨hbuser, hbport⟩ := hb.cut_render
    have hrest : asciiLowercase a.hostText.toList ++ a.portText.toList =
        asciiLowercase b.hostText.toList ++ b.portText.toList := by
      rw [← hauser, ← hbuser, h]
    rw [asciiLowercase_render, asciiLowercase_render, hrest] at h
    rw [hrest, hbport] at haport
    obtain ⟨hhost, hdigits⟩ := Prod.mk.inj haport
    exact ⟨List.append_cancel_right h, hhost.symm, (port_eq_of_toDigits hdigits).symm⟩
  · rintro ⟨huser, hhost, hport⟩
    rw [asciiLowercase_render, asciiLowercase_render, huser, hhost, portText, portText, hport]

end Authority

/-! ## Reading authorities -/

theorem Ipv4.chars_ne_nil (address : UInt32) : Ipv4.chars address ≠ [] := by
  intro hnil
  have hnumber := Ipv4.endsInNumber_chars address
  rw [hnil] at hnumber
  exact absurd hnumber (by decide)

theorem Percent.encode_ne_nil {escaped : Char → Bool} {cs : List Char} (h : cs ≠ []) :
    Percent.encode escaped cs ≠ [] := by
  obtain ⟨c, rest, rfl⟩ := List.exists_cons_of_ne_nil h
  rw [Percent.encode, List.flatMap_cons]
  refine List.append_ne_nil_of_left_ne_nil ?_ _
  split
  · intro hnil
    obtain ⟨b, bytes, hbytes⟩ := List.exists_cons_of_ne_nil (@String.utf8EncodeChar_ne_nil c)
    rw [hbytes, List.flatMap_cons] at hnil
    cases (List.append_eq_nil_iff.1 hnil).1
  · exact List.cons_ne_nil c []

/-- A host that was read from a text has a text itself. -/
theorem chars_ne_nil_of_hostOf? {scheme : String} {cs : List Char} {host : Host} (hne : cs ≠ [])
    (h : hostOf? scheme cs = .ok host) : host.chars ≠ [] := by
  unfold hostOf? at h
  split at h
  case isTrue =>
    rcases Host.ofMeaning?_eq_ok h with ⟨address, rfl⟩ | ⟨address, rfl⟩ |
      ⟨name, domain, rfl, -, hdomain, -⟩
    · exact List.cons_ne_nil _ _
    · exact Ipv4.chars_ne_nil address
    · rw [Host.chars, String.toList_ofList]
      exact hdomain
  case isFalse =>
    rcases Host.ofText?_eq_ok h with ⟨address, rfl⟩ | ⟨hchars, -, -⟩
    · exact List.cons_ne_nil _ _
    · rw [hchars]
      exact Percent.encode_ne_nil hne

/-- The text of a host holds no at sign, and colons between brackets only. -/
theorem isClosed_of_hostOf? {scheme : String} {cs : List Char} {host : Host}
    (h : hostOf? scheme cs = .ok host) : '@' ∉ host.chars ∧ IsClosed host.chars := by
  rcases isForbidden_of_mem_chars h with ⟨address, rfl⟩ | hallowed
  · have hinner : ∀ mark, mark ≠ ':' → Text.hexValue? mark = none →
        mark ∉ Ipv6.chars address := by
      intro mark hcolon hvalue hin
      rcases Ipv6.mem_chars hin with heq | hsome
      · exact hcolon heq
      · rw [hvalue] at hsome
        cases hsome
    refine ⟨fun hin => ?_,
      Or.inr ⟨Ipv6.chars address, rfl, hinner ']' (by decide) (by decide)⟩⟩
    simp only [Host.chars, List.mem_cons, List.mem_append, List.not_mem_nil, or_false] at hin
    rcases hin with heq | hin | heq
    · exact absurd heq (by decide)
    · exact hinner '@' (by decide) (by decide) hin
    · exact absurd heq (by decide)
  · have hmark : ∀ mark, Host.isForbidden mark = true → mark ∉ host.chars :=
      fun mark hforbidden hin =>
        Bool.false_ne_true ((hallowed mark hin).symm.trans hforbidden)
    exact ⟨hmark '@' (by decide), Or.inl ⟨hmark ':' (by decide), hmark '[' (by decide)⟩⟩

theorem defaultPort?_ne_of_portOfDigits? {kind : SchemeKind} {digits : List Char} {port : Nat}
    (h : portOfDigits? kind digits = .ok (some port)) : kind.defaultPort? ≠ some port := by
  unfold portOfDigits? at h
  dsimp only at h
  split at h
  · cases h
  split at h
  · cases h
  case isFalse hkept =>
    cases h
    rw [Bool.or_eq_true, not_or, beq_iff_eq] at hkept
    exact hkept.2

theorem legible_of_authority? {scheme : String} {more : Bool} {cs : List Char}
    {parsed : ParsedAuthority} (h : authority? (kindOfScheme scheme) more cs = .ok parsed) :
    parsed.authority.Legible (kindOfScheme scheme) := by
  obtain ⟨username, password, hostText, portText, hhost, hport, husername, hpassword, hnobody⟩ :=
    authority?_eq_ok h
  refine ⟨fun host hsome => ?_, fun hnone => ?_, fun port hsome => ?_⟩
  · rw [hsome] at hhost
    have hne : hostText ≠ [] := by
      rintro rfl
      unfold hostOfText? at hhost
      split at hhost
      · split at hhost <;> cases hhost
      · rename_i hempty
        exact hempty rfl
    have hread := hostOf?_of_hostOfText? hhost
    exact ⟨chars_ne_nil_of_hostOf? hne hread, isClosed_of_hostOf? hread⟩
  · obtain ⟨rfl, rfl, rfl⟩ := hnobody hnone
    have hdigits : portOfDigits? (kindOfScheme scheme) [] = .ok none := rfl
    refine ⟨husername, hpassword, ?_⟩
    exact (Except.ok.inj (hport.symm.trans hdigits))
  · rw [hsome] at hport
    exact defaultPort?_ne_of_portOfDigits? hport

theorem legible_fileAuthority (host : Option Host) (kind : SchemeKind)
    (h : ∀ found, host = some found →
      found.chars ≠ [] ∧ '@' ∉ found.chars ∧ IsClosed found.chars) :
    Authority.Legible kind ⟨"", "", host, none⟩ :=
  ⟨h, fun _ => ⟨rfl, rfl, rfl⟩, fun _ hnone => nomatch hnone⟩

/-- The parts of a URL that was read are legible. -/
theorem legible_of_parse {s : String} {u : Url} (h : parse s = .ok u) {a : Authority}
    (ha : u.authority = some a) : a.Legible (kindOfScheme u.scheme) := by
  have hsource := source_of_parse h
  rw [ha] at hsource
  cases hsource with
  | text read => exact legible_of_authority? read
  | localFile file => exact legible_fileAuthority none _ (fun _ hnone => nomatch hnone)
  | @fileOnHost file cs host read =>
      refine legible_fileAuthority (some host) _ (fun found hfound => ?_)
      cases hfound
      have hne : cs ≠ [] := by
        rintro rfl
        cases read
      have hhost := hostOf?_of_fileHost? read
      exact ⟨chars_ne_nil_of_hostOf? hne hhost, isClosed_of_hostOf? hhost⟩

/-- A scheme is read in lowercase. -/
theorem asciiLowercase_scheme {s : String} {u : Url} (h : parse s = .ok u) :
    asciiLowercase u.scheme.toList = u.scheme.toList := by
  obtain ⟨scheme, rest, hscheme, hread⟩ := ofScheme_of_parse h
  rcases (source_of_ofScheme hread).1 with heq | heq
  · rw [heq]
    unfold scheme? at hscheme
    split at hscheme
    case h_2 => cases hscheme
    case h_1 =>
      dsimp only at hscheme
      split at hscheme
      case isFalse => cases hscheme
      case isTrue =>
        obtain ⟨rfl, -⟩ := Prod.mk.inj (Option.some.inj hscheme)
        rw [String.toList_ofList, Text.asciiLowercase_asciiLowercase]
  · rw [heq]
    decide

/-! ## The same place of the web -/

/-- What stands between the slashes of a URL, all of it empty where there are none. -/
def parts (u : Url) : Authority :=
  u.authority.getD ⟨"", "", none, none⟩

def userText (u : Url) : String :=
  u.parts.userinfo

/-- The port that is asked, which is the default of the scheme where none is written. -/
def effectivePort? (u : Url) : Option Nat :=
  u.port?.or (kindOfScheme u.scheme).defaultPort?

/-- Whether two URLs have the same scheme, host and port, whatever the case of their letters. -/
structure SameOrigin (u v : Url) : Prop where
  scheme_eq : asciiLowercase u.scheme.toList = asciiLowercase v.scheme.toList
  host_eq : u.hostText?.map (fun host => asciiLowercase host.toList) =
    v.hostText?.map (fun host => asciiLowercase host.toList)
  port_eq : u.effectivePort? = v.effectivePort?

theorem authorityText_eq (u : Url) : u.authorityText = u.parts.render := by
  unfold authorityText parts
  cases u.authority <;> rfl

theorem port?_eq (u : Url) : u.port? = u.parts.port := by
  unfold port? parts
  cases u.authority <;> rfl

theorem hostText?_eq (u : Url) : u.hostText? = u.parts.host.map Host.render := by
  unfold hostText? host? parts
  cases u.authority <;> rfl

theorem legible_parts {s : String} {u : Url} (h : parse s = .ok u) :
    u.parts.Legible (kindOfScheme u.scheme) := by
  unfold parts
  cases ha : u.authority with
  | none => exact legible_fileAuthority none _ (fun _ hnone => nomatch hnone)
  | some a => exact legible_of_parse h ha

/-- A host that is not there differs from all others. -/
theorem Authority.Legible.hostText_eq_iff {a b : Authority} {kind kind' : SchemeKind}
    (ha : a.Legible kind) (hb : b.Legible kind') :
    asciiLowercase a.hostText.toList = asciiLowercase b.hostText.toList ↔
      a.host.map (fun host => asciiLowercase host.chars) =
        b.host.map (fun host => asciiLowercase host.chars) := by
  rw [Authority.toList_hostText, Authority.toList_hostText]
  have hne : ∀ host : Host, host.chars ≠ [] → asciiLowercase host.chars ≠ [] :=
    fun host hchars hnil => hchars (List.map_eq_nil_iff.1 hnil)
  cases hhost : a.host with
  | none =>
      cases hother : b.host with
      | none => exact iff_of_true rfl rfl
      | some host =>
          refine iff_of_false (fun heq => ?_) (fun heq => nomatch heq)
          exact hne host (hb.host host hother).1 heq.symm
  | some host =>
      cases hother : b.host with
      | none =>
          refine iff_of_false (fun heq => ?_) (fun heq => nomatch heq)
          exact hne host (ha.host host hhost).1 heq
      | some host' => exact Option.some_inj.symm

theorem effectivePort?_eq_iff {u v : Url} (hu : u.parts.Legible (kindOfScheme u.scheme))
    (hv : v.parts.Legible (kindOfScheme v.scheme)) (hscheme : u.scheme = v.scheme) :
    u.effectivePort? = v.effectivePort? ↔ u.parts.port = v.parts.port := by
  rw [effectivePort?, effectivePort?, port?_eq, port?_eq, hscheme]
  rw [hscheme] at hu
  cases hport : u.parts.port with
  | none =>
      cases hother : v.parts.port with
      | none => exact iff_of_true rfl rfl
      | some port =>
          exact iff_of_false (hv.port port hother) (fun heq => nomatch heq)
  | some port =>
      cases hother : v.parts.port with
      | none =>
          exact iff_of_false (fun heq => hu.port port hport heq.symm) (fun heq => nomatch heq)
      | some port' => exact Iff.rfl

/-- URLs have the same scheme and the same text between the slashes, up to case, exactly when they have
the same scheme, host and port, and the same user. -/
theorem sameText_iff {s t : String} {u v : Url} (hu : parse s = .ok u) (hv : parse t = .ok v) :
    asciiLowercase u.scheme.toList = asciiLowercase v.scheme.toList ∧
        asciiLowercase u.authorityText.toList = asciiLowercase v.authorityText.toList ↔
      u.SameOrigin v ∧ asciiLowercase u.userText.toList = asciiLowercase v.userText.toList := by
  have hlegible := legible_parts hu
  have hlegible' := legible_parts hv
  have hhost : u.hostText?.map (fun host => asciiLowercase host.toList) =
        v.hostText?.map (fun host => asciiLowercase host.toList) ↔
      u.parts.host.map (fun host => asciiLowercase host.chars) =
        v.parts.host.map (fun host => asciiLowercase host.chars) := by
    have hchars : ∀ host : Host, host.render.toList = host.chars := fun _ => String.toList_ofList
    rw [hostText?_eq, hostText?_eq, Option.map_map, Option.map_map]
    simp only [Function.comp_def, hchars]
  have hscheme : asciiLowercase u.scheme.toList = asciiLowercase v.scheme.toList →
      u.scheme = v.scheme := by
    intro heq
    rw [asciiLowercase_scheme hu, asciiLowercase_scheme hv] at heq
    exact String.toList_inj.1 heq
  rw [authorityText_eq, authorityText_eq, hlegible.render_eq_iff hlegible',
    hlegible.hostText_eq_iff hlegible']
  constructor
  · rintro ⟨hsame, huser, hchars, hport⟩
    have heffective := (effectivePort?_eq_iff hlegible hlegible' (hscheme hsame)).2 hport
    exact ⟨⟨hsame, hhost.2 hchars, heffective⟩, huser⟩
  · rintro ⟨⟨hsame, hchars, hport⟩, huser⟩
    exact ⟨hsame, huser, hhost.1 hchars,
      (effectivePort?_eq_iff hlegible hlegible' (hscheme hsame)).1 hport⟩

end Url
end RealmTokens
