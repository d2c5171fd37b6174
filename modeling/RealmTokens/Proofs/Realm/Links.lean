/-
What a link has to lead to.

A link of the right relation establishes trust when it leads to a URL with the scheme, the host, the port
and the user of the authority.  Main statement: these parts alone decide, whatever the rest of either URL
is and whatever the other links are.
-/
import RealmTokens.Proofs.Url.Authorities
import RealmTokens.Realm.Trust

namespace RealmTokens

open Text (asciiLowercase)

/-- Whether a link says that the realm of a URL is trusted. -/
def Link.Sanctions (link : Link) (target : Url) : Prop :=
  link.rel = some Trust.realmRelation ∧
    ∃ href, link.href = some href ∧ Url.parse href = .ok target

namespace Trust

theorem sameIgnoringCase_iff (a b : String) :
    sameIgnoringCase a b = true ↔ asciiLowercase a.toList = asciiLowercase b.toList :=
  beq_iff_eq

/-- A link without a relation, without a reference, or with one that cannot be read, counts for
nothing. -/
theorem linkTrusts_iff (authority : Url) (link : Link) :
    linkTrusts authority link = true ↔
      ∃ target, link.Sanctions target ∧
        asciiLowercase target.scheme.toList = asciiLowercase authority.scheme.toList ∧
        asciiLowercase target.authorityText.toList =
          asciiLowercase authority.authorityText.toList := by
  unfold linkTrusts Link.Sanctions
  rcases link with ⟨_ | rel, _ | href⟩
  · simp
  · simp
  · simp
  · dsimp only
    cases hparse : Url.parse href with
    | error fault => simp [hparse]
    | ok target =>
        simp only [Bool.and_eq_true, sameIgnoringCase_iff, beq_iff_eq, Option.some.injEq]
        constructor
        · rintro ⟨⟨hscheme, htext⟩, hrel⟩
          exact ⟨target, ⟨hrel, href, rfl, hparse⟩, hscheme, htext⟩
        · rintro ⟨other, ⟨hrel, _, rfl, hother⟩, hscheme, htext⟩
          rw [hparse] at hother
          cases hother
          exact ⟨⟨hscheme, htext⟩, hrel⟩

theorem linkTrusts_iff_sameOrigin {text : String} {authority : Url}
    (h : Url.parse text = .ok authority) (link : Link) :
    linkTrusts authority link = true ↔
      ∃ target, link.Sanctions target ∧ target.SameOrigin authority ∧
        asciiLowercase target.userText.toList = asciiLowercase authority.userText.toList := by
  rw [linkTrusts_iff]
  constructor
  · rintro ⟨target, ⟨hrel, href, hhref, hparse⟩, hsame⟩
    exact ⟨target, ⟨hrel, href, hhref, hparse⟩, (Url.sameText_iff hparse h).1 hsame⟩
  · rintro ⟨target, ⟨hrel, href, hhref, hparse⟩, hsame⟩
    exact ⟨target, ⟨hrel, href, hhref, hparse⟩, (Url.sameText_iff hparse h).2 hsame⟩

/-- Realm trust is the scheme, the host and the port of some link of the relation, and the user.  Where
the authority has a host, and neither it nor such a link has a user, it is the scheme, the host and the
port alone. -/
theorem realmIsTrusted_iff_sameOrigin {text : String} {authority : Url}
    (h : Url.parse text = .ok authority) (w : WebFinger) :
    (realmIsTrusted authority w = true ↔
      ∃ link ∈ w.allLinks, ∃ target, link.Sanctions target ∧ target.SameOrigin authority ∧
        asciiLowercase target.userText.toList = asciiLowercase authority.userText.toList) ∧
    (authority.hostText?.isSome = true → authority.userText = "" →
      (∀ link ∈ w.allLinks, ∀ target, link.Sanctions target → target.userText = "") →
      (realmIsTrusted authority w = true ↔
        ∃ link ∈ w.allLinks, ∃ target, link.Sanctions target ∧
          target.hostText?.isSome = true ∧ target.SameOrigin authority)) := by
  have hall : realmIsTrusted authority w = true ↔
      ∃ link ∈ w.allLinks, ∃ target, link.Sanctions target ∧ target.SameOrigin authority ∧
        asciiLowercase target.userText.toList = asciiLowercase authority.userText.toList := by
    simp only [realmIsTrusted, List.any_eq_true, linkTrusts_iff_sameOrigin h]
  refine ⟨hall, fun hhost huser husers => ?_⟩
  rw [hall]
  constructor
  · rintro ⟨link, hlink, target, hsanctions, hsame, -⟩
    refine ⟨link, hlink, target, hsanctions, ?_, hsame⟩
    rw [← Option.isSome_map (f := fun host : String => asciiLowercase host.toList), hsame.host_eq,
      Option.isSome_map, hhost]
  · rintro ⟨link, hlink, target, hsanctions, -, hsame⟩
    refine ⟨link, hlink, target, hsanctions, hsame, ?_⟩
    rw [huser, husers link hlink target hsanctions]

/-- A link in capitals, with the default port written out, behind one that cannot be read. -/
theorem realmIsTrusted_iff_sameOrigin_of_capitals :
    let authority : Url :=
      ⟨"https", some ⟨"", "", some (.name "sts.net"), none⟩, .segments ["adfs"], none, none⟩
    let broken : Link := ⟨some realmRelation, some "sts.net"⟩
    let loud : Link := ⟨some realmRelation, some "HTTPS://STS.net:443/x?y#z"⟩
    Url.parse "https://sts.net/adfs" = .ok authority ∧
      realmIsTrusted authority ⟨none, some [broken, loud]⟩ = true := by
  intro authority broken loud
  have hread : Url.parse "https://sts.net/adfs" = .ok authority := by decide +kernel
  let target : Url :=
    ⟨"https", some ⟨"", "", some (.name "sts.net"), none⟩, .segments ["x"], some "y", some "z"⟩
  have hloud : Url.parse "HTTPS://STS.net:443/x?y#z" = .ok target := by decide +kernel
  have hbroken : Url.parse "sts.net" = .error .relativeWithoutBase := by decide +kernel
  have husers : ∀ link ∈ (⟨none, some [broken, loud]⟩ : WebFinger).allLinks, ∀ found,
      link.Sanctions found → found.userText = "" := by
    rintro link hlink found ⟨-, href, hhref, hparse⟩
    rcases List.mem_cons.1 hlink with rfl | hlink
    · cases hhref
      rw [hbroken] at hparse
      cases hparse
    · obtain rfl := List.mem_singleton.1 hlink
      cases hhref
      rw [hloud] at hparse
      cases hparse
      decide
  refine ⟨hread, ((realmIsTrusted_iff_sameOrigin hread _).2 (by decide) (by decide) husers).2 ?_⟩
  exact ⟨loud, by decide, target, ⟨rfl, _, rfl, hloud⟩, by decide, by decide, by decide, by decide⟩

/-- An authority with a user is not trusted through a link that leads to its scheme, host and port, and
one without a host is trusted through a link that leads to no host either. -/
theorem not_realmIsTrusted_iff_sameOrigin :
    let authority : Url :=
      ⟨"https", some ⟨"user", "", some (.name "sts.net"), none⟩, .segments ["adfs"], none, none⟩
    let target : Url :=
      ⟨"https", some ⟨"", "", some (.name "sts.net"), none⟩, .segments [""], none, none⟩
    let link : Link := ⟨some realmRelation, some "https://sts.net"⟩
    let nowhere : Url := ⟨"urn", none, .plain "a", none, none⟩
    let elsewhere : Link := ⟨some realmRelation, some "urn:b"⟩
    (Url.parse "https://user@sts.net/adfs" = .ok authority ∧ authority.hostText?.isSome = true ∧
        link.Sanctions target ∧ target.hostText?.isSome = true ∧ target.SameOrigin authority ∧
        realmIsTrusted authority ⟨none, some [link]⟩ = false) ∧
      Url.parse "urn:a" = .ok nowhere ∧ nowhere.hostText? = none ∧
        realmIsTrusted nowhere ⟨none, some [elsewhere]⟩ = true := by
  intro authority target link nowhere elsewhere
  have hread : Url.parse "https://user@sts.net/adfs" = .ok authority := by decide +kernel
  have hlink : Url.parse "https://sts.net" = .ok target := by decide +kernel
  have hnowhere : Url.parse "urn:a" = .ok nowhere := by decide +kernel
  have hsame : target.SameOrigin authority := ⟨by decide, by decide, by decide⟩
  exact ⟨⟨hread, by decide, ⟨rfl, _, rfl, hlink⟩, by decide, hsame, by decide +kernel⟩, hnowhere,
    by decide, by decide +kernel⟩

end Trust
end RealmTokens
