/-
Whether the hosts of a cluster share their tokens.

Tokens are filed by their authority at the preferred host of its cluster.  A URL whose host compares as
the preferred one is taken as it stands, and every other URL of the cluster gets the preferred host, so
two URLs that differ in nothing but their hosts may differ still if one of them spells the preferred
host in its own way.  Main statement: two such URLs have the same outcome exactly when each of them
either does not name the preferred host or spells it as it is written, and then all their keys agree.
For URLs that were read from texts, this asks no more than that the text of the host is the preferred
one.
-/
import RealmTokens.Cluster.Directory
import RealmTokens.Proofs.Domain.ComparedForms
import RealmTokens.Proofs.Url.Hosts
import RealmTokens.Token.Key

namespace RealmTokens

namespace Url

/-! ## Hosts in their places -/

/-- Two URLs with an authority that differ in nothing but the host. -/
structure SameButHost (u v : Url) : Prop where
  scheme : u.scheme = v.scheme
  authority : ∃ a b, u.authority = some a ∧ v.authority = some b ∧
    a.username = b.username ∧ a.password = b.password ∧ a.port = b.port
  path : u.path = v.path
  query : u.query = v.query
  fragment : u.fragment = v.fragment

variable {u v w : Url} {text : String}

theorem SameButHost.refl (h : u.authority.isSome) : u.SameButHost u := by
  obtain ⟨a, ha⟩ := Option.isSome_iff_exists.1 h
  exact ⟨rfl, ⟨a, a, ha, ha, rfl, rfl, rfl⟩, rfl, rfl, rfl⟩

theorem SameButHost.symm (h : u.SameButHost v) : v.SameButHost u := by
  obtain ⟨a, b, ha, hb, husername, hpassword, hport⟩ := h.authority
  exact ⟨h.scheme.symm, ⟨b, a, hb, ha, husername.symm, hpassword.symm, hport.symm⟩, h.path.symm,
    h.query.symm, h.fragment.symm⟩

theorem SameButHost.trans (h : u.SameButHost v) (h' : v.SameButHost w) : u.SameButHost w := by
  obtain ⟨a, b, ha, hb, husername, hpassword, hport⟩ := h.authority
  obtain ⟨b', c, hb', hc, husername', hpassword', hport'⟩ := h'.authority
  obtain rfl := Option.some.inj (hb.symm.trans hb')
  exact ⟨h.scheme.trans h'.scheme, ⟨a, c, ha, hc, husername.trans husername',
    hpassword.trans hpassword', hport.trans hport'⟩, h.path.trans h'.path, h.query.trans h'.query,
    h.fragment.trans h'.fragment⟩

theorem withHost_eq {a : Authority} (ha : u.authority = some a) (text : String) :
    u.withHost text = (newHost? u.scheme text).map (fun host =>
      ⟨u.scheme, some ⟨a.username, a.password, some host, a.port⟩, u.path, u.query, u.fragment⟩) := by
  unfold withHost newHost? hostOf?
  rw [ha]
  cases withoutPort text.toList with
  | error fault => rfl
  | ok cs =>
      by_cases special : (kindOfScheme u.scheme).isSpecial = true
      · simp only [bind, Except.bind, special, if_true]
        cases Host.ofMeaning? cs <;> rfl
      · simp only [bind, Except.bind, special]
        cases Host.ofText? cs <;> rfl

/-- What was the host before does not matter. -/
theorem SameButHost.withHost_eq (h : u.SameButHost v) (text : String) :
    u.withHost text = v.withHost text := by
  obtain ⟨a, b, ha, hb, husername, hpassword, hport⟩ := h.authority
  rw [Url.withHost_eq ha, Url.withHost_eq hb, h.scheme, h.path, h.query, h.fragment, husername,
    hpassword, hport]

theorem withHost_eq_ok_iff {a : Authority} (ha : u.authority = some a) :
    u.withHost text = .ok w ↔ ∃ host, newHost? u.scheme text = .ok host ∧
      w = ⟨u.scheme, some ⟨a.username, a.password, some host, a.port⟩, u.path, u.query, u.fragment⟩ := by
  rw [withHost_eq ha]
  cases newHost? u.scheme text with
  | error fault => simp [Except.map]
  | ok host => simp [Except.map, eq_comm]

theorem sameButHost_withHost (h : u.authority.isSome) (hw : u.withHost text = .ok w) :
    u.SameButHost w := by
  obtain ⟨a, ha⟩ := Option.isSome_iff_exists.1 h
  obtain ⟨host, -, rfl⟩ := (withHost_eq_ok_iff ha).1 hw
  exact ⟨rfl, ⟨a, _, ha, rfl, rfl, rfl, rfl⟩, rfl, rfl, rfl⟩

theorem authority_isSome_of_hostName? {name : String} (h : u.hostName? = some name) :
    u.authority.isSome := by
  cases ha : u.authority with
  | none => simp [hostName?, hostText?, host?, ha] at h
  | some a => rfl

theorem withHost_eq_self_iff {host : Host} (hhost : u.host? = some host) (text : String) :
    u.withHost text = .ok u ↔ newHost? u.scheme text = .ok host := by
  obtain ⟨scheme, authority, path, query, fragment⟩ := u
  obtain ⟨a, rfl, ha⟩ := Option.bind_eq_some_iff.1 hhost
  obtain ⟨username, password, _, port⟩ := a
  obtain rfl : _ = some host := ha
  rw [withHost_eq rfl]
  cases newHost? scheme text with
  | error fault => simp [Except.map]
  | ok other => simp [Except.map]

/-- Where the host compares as `preferred`, it is the host for which this text stands. -/
def Spells (u : Url) (preferred : String) : Prop :=
  ∀ host, u.host? = some host → HostName.canonical? host.render = some preferred →
    newHost? u.scheme preferred = .ok host

theorem hostName?_eq_some_iff {name : String} :
    u.hostName? = some name ↔
      ∃ host, u.host? = some host ∧ HostName.canonical? host.render = some name := by
  rw [hostName?, hostText?]
  cases u.host? <;> simp

theorem spells_iff {name preferred : String} (hu : u.hostName? = some name) :
    u.Spells preferred ↔ name ≠ preferred ∨ u.withHost preferred = .ok u := by
  obtain ⟨host, hhost, canonical⟩ := hostName?_eq_some_iff.1 hu
  rw [withHost_eq_self_iff hhost]
  constructor
  · intro spells
    by_cases hname : name = preferred
    · exact Or.inr (spells host hhost (hname ▸ canonical))
    · exact Or.inl hname
  · rintro h other hother canonical'
    obtain rfl := Option.some.inj (hhost.symm.trans hother)
    rcases h with hne | h
    · exact absurd (Option.some.inj (canonical.symm.trans canonical')) hne
    · exact h

/-- A URL that was read from a text spells the preferred host, if that text named it in no other way. -/
theorem spells_of_hostFromText {preferred : String} (h : u.HostFromText)
    (short : ∀ part ∈ preferred.toList.splitOn '.',
      part.length ≤ Domain.encodedMark.length + Domain.maxDecoded)
    (own : ∀ text, u.hostText? = some text → HostName.canonical? text = some preferred →
      text = preferred) : u.Spells preferred := by
  intro host hhost canonical
  have htext : u.hostText? = some host.render := by rw [hostText?, hhost, Option.map_some]
  have hrender : host.render = preferred := own host.render htext canonical
  have hchars : host.chars = preferred.toList := by rw [← hrender, Host.render, String.toList_ofList]
  obtain ⟨cs, hcs⟩ := h host hhost
  have legible : Domain.Legible host.chars := by
    rw [hchars]
    exact ⟨fun c hc => HostName.toLower_of_canonical? canonical hc, short⟩
  rw [← hrender]
  exact newHost?_render hcs legible

end Url

namespace Directory

open Url (SameButHost)

section Rewritten

variable {d : Directory} {u v w : Url} {host host' preferred : String} {shared : SharedCluster}

/-- What becomes of a URL whose host belongs to a cluster with a preferred host. -/
theorem preferredAuthority?_of_get? (hu : u.hostName? = some host)
    (filed : d.get? host = some shared) (validated : shared.cluster.validated = true)
    (hpreferred : shared.cluster.preferredCache = some preferred) :
    d.preferredAuthority? u =
      if preferred = host then .ok u else Failure.ofUrl (u.withHost preferred) := by
  have h : d.preferredCache? host = some preferred := by
    rw [preferredCache?, filed, Option.filter_some, if_pos validated]
    exact hpreferred
  simp only [preferredAuthority?, hu, h]

theorem ofUrl_eq_ok_iff {α : Type} {x : Except Url.Fault α} {value : α} :
    Failure.ofUrl x = .ok value ↔ x = .ok value := by
  cases x <;> simp [Failure.ofUrl]

theorem toOption_ofUrl_eq_some_iff {α : Type} {x : Except Url.Fault α} {value : α} :
    (Failure.ofUrl x).toOption = some value ↔ x = .ok value := by
  cases x <;> simp [Failure.ofUrl, Except.toOption]

/-- A URL of a cluster differs from what becomes of it in nothing but the host. -/
theorem sameButHost_of_preferredAuthority? (hu : u.hostName? = some host)
    (filed : d.get? host = some shared) (validated : shared.cluster.validated = true)
    (hpreferred : shared.cluster.preferredCache = some preferred)
    (hw : d.preferredAuthority? u = .ok w) : u.SameButHost w := by
  have hsome := Url.authority_isSome_of_hostName? hu
  rw [preferredAuthority?_of_get? hu filed validated hpreferred] at hw
  by_cases hp : preferred = host
  · rw [if_pos hp] at hw
    cases hw
    exact SameButHost.refl hsome
  · rw [if_neg hp] at hw
    exact Url.sameButHost_withHost hsome (ofUrl_eq_ok_iff.1 hw)

theorem preferredAuthority?_of_spells (hu : u.hostName? = some host)
    (filed : d.get? host = some shared) (validated : shared.cluster.validated = true)
    (hpreferred : shared.cluster.preferredCache = some preferred) (spells : u.Spells preferred) :
    d.preferredAuthority? u = Failure.ofUrl (u.withHost preferred) := by
  rw [preferredAuthority?_of_get? hu filed validated hpreferred]
  by_cases hp : preferred = host
  · rcases (Url.spells_iff hu).1 spells with hne | h
    · exact absurd hp.symm hne
    · rw [if_pos hp, h]
      rfl
  · rw [if_neg hp]

/-- The key under which a token of an authority is kept, whichever host of its cluster that names. -/
def key? (d : Directory) (authority : Url) (resource : Option String) (clientId : String)
    (multiResource : Bool) (userId : Option String) : Except Failure Token.Key :=
  (d.preferredAuthority? authority).bind (fun preferred =>
    Token.Key.ofParts? preferred.render resource clientId multiResource userId)

/-- Two URLs that differ in nothing but their hosts, which have the same entry and are spelled well. -/
theorem preferredAuthority?_of_sameButHost (same : u.SameButHost v) (hu : u.hostName? = some host)
    (hv : v.hostName? = some host') (filed : d.get? host = some shared)
    (filed' : d.get? host' = some shared) (validated : shared.cluster.validated = true)
    (hpreferred : shared.cluster.preferredCache = some preferred) (spells : u.Spells preferred)
    (spells' : v.Spells preferred) : d.preferredAuthority? u = d.preferredAuthority? v := by
  rw [preferredAuthority?_of_spells hu filed validated hpreferred spells,
    preferredAuthority?_of_spells hv filed' validated hpreferred spells', same.withHost_eq preferred]

/-- Two URLs that were read from texts share their keys, if neither text names the preferred host in
another way than it is written. -/
theorem key?_eq_of_parse {s t : String} (hs : Url.parse s = .ok u) (ht : Url.parse t = .ok v)
    (same : u.SameButHost v) (hu : u.hostName? = some host) (hv : v.hostName? = some host')
    (filed : d.get? host = some shared) (filed' : d.get? host' = some shared)
    (validated : shared.cluster.validated = true)
    (hpreferred : shared.cluster.preferredCache = some preferred)
    (short : ∀ part ∈ preferred.toList.splitOn '.',
      part.length ≤ Domain.encodedMark.length + Domain.maxDecoded)
    (own : ∀ w text, w = u ∨ w = v → w.hostText? = some text →
      HostName.canonical? text = some preferred → text = preferred) :
    d.preferredAuthority? u = d.preferredAuthority? v ∧ d.key? u = d.key? v := by
  have spells : u.Spells preferred :=
    Url.spells_of_hostFromText (Url.hostFromText_of_parse hs) short
      (fun text => own u text (Or.inl rfl))
  have spells' : v.Spells preferred :=
    Url.spells_of_hostFromText (Url.hostFromText_of_parse ht) short
      (fun text => own v text (Or.inr rfl))
  have h := preferredAuthority?_of_sameButHost same hu hv filed filed' validated hpreferred spells
    spells'
  refine ⟨h, ?_⟩
  funext resource clientId multiResource userId
  rw [key?, key?, h]

/-- Two URLs that differ in nothing but their hosts, which have the same entry. They have the same outcome
exactly if they are one URL or neither spells the preferred host in another way, and then they have the
same keys. What becomes of them differs from them in nothing but the host. -/
theorem preferredAuthority?_eq_iff (same : u.SameButHost v) (hu : u.hostName? = some host)
    (hv : v.hostName? = some host') (filed : d.get? host = some shared)
    (filed' : d.get? host' = some shared) (validated : shared.cluster.validated = true)
    (hpreferred : shared.cluster.preferredCache = some preferred) :
    ((d.preferredAuthority? u).toOption = (d.preferredAuthority? v).toOption ↔
      u = v ∨ (u.Spells preferred ∧ v.Spells preferred)) ∧
    (u = v ∨ (u.Spells preferred ∧ v.Spells preferred) → d.key? u = d.key? v) ∧
    ∀ w, d.preferredAuthority? u = .ok w → u.SameButHost w ∧ v.SameButHost w := by
  have agree : u = v ∨ (u.Spells preferred ∧ v.Spells preferred) →
      d.preferredAuthority? u = d.preferredAuthority? v := by
    rintro (rfl | ⟨spells, spells'⟩)
    · rfl
    · exact preferredAuthority?_of_sameButHost same hu hv filed filed' validated hpreferred spells
        spells'
  refine ⟨⟨fun h => ?_, fun h => congrArg Except.toOption (agree h)⟩, fun h => ?_, fun w hw => ?_⟩
  · rw [preferredAuthority?_of_get? hu filed validated hpreferred,
      preferredAuthority?_of_get? hv filed' validated hpreferred] at h
    rw [Url.spells_iff hu, Url.spells_iff hv]
    by_cases hp : preferred = host
    · by_cases hp' : preferred = host'
      · rw [if_pos hp, if_pos hp'] at h
        exact Or.inl (Option.some.inj h)
      · rw [if_pos hp, if_neg hp'] at h
        have hother := toOption_ofUrl_eq_some_iff.1 h.symm
        exact Or.inr ⟨Or.inr ((same.withHost_eq preferred).trans hother), Or.inl (Ne.symm hp')⟩
    · by_cases hp' : preferred = host'
      · rw [if_neg hp, if_pos hp'] at h
        have hother := toOption_ofUrl_eq_some_iff.1 h
        exact Or.inr ⟨Or.inl (Ne.symm hp), Or.inr ((same.withHost_eq preferred).symm.trans hother)⟩
      · exact Or.inr ⟨Or.inl (Ne.symm hp), Or.inl (Ne.symm hp')⟩
  · funext resource clientId multiResource userId
    rw [key?, key?, agree h]
  · have hsame := sameButHost_of_preferredAuthority? hu filed validated hpreferred hw
    exact ⟨hsame, same.symm.trans hsame⟩

end Rewritten

/-- A cluster of two hosts, the first of which is preferred. -/
def pair : Directory := empty.file ["a", "b"] (Cluster.ofHosts "a" "a" ["a", "b"])

/-- An authority at a named host. -/
def authorityAt (host : String) : Url :=
  ⟨"https", some ⟨"", "", some (.name host), none⟩, .segments ["common"], none, none⟩

theorem sameButHost_authorityAt (host host' : String) :
    (authorityAt host).SameButHost (authorityAt host') :=
  ⟨rfl, ⟨_, _, rfl, rfl, rfl, rfl, rfl⟩, rfl, rfl, rfl⟩

/-- Two hosts of a cluster that are spelled as they are compared. -/
theorem preferredAuthority?_eq_of_pair :
    (pair.preferredAuthority? (authorityAt "a")).toOption =
        (pair.preferredAuthority? (authorityAt "b")).toOption ∧
      pair.key? (authorityAt "a") = pair.key? (authorityAt "b") := by
  have hu : (authorityAt "a").hostName? = some "a" := by decide +kernel
  have hv : (authorityAt "b").hostName? = some "b" := by decide +kernel
  have hself : (authorityAt "a").withHost "a" = .ok (authorityAt "a") := rfl
  have spells : (authorityAt "a").Spells "a" ∧ (authorityAt "b").Spells "a" :=
    ⟨(Url.spells_iff hu).2 (Or.inr hself), (Url.spells_iff hv).2 (Or.inl (by decide))⟩
  let shared : SharedCluster := ⟨0, Cluster.ofHosts "a" "a" ["a", "b"]⟩
  have filed : pair.get? "a" = some shared := by decide +kernel
  have filed' : pair.get? "b" = some shared := by decide +kernel
  have hpreferred : shared.cluster.preferredCache = some "a" := by decide +kernel
  obtain ⟨hiff, hkey, -⟩ := preferredAuthority?_eq_iff (sameButHost_authorityAt "a" "b") hu hv filed
    filed' rfl hpreferred
  exact ⟨hiff.2 (Or.inr spells), hkey (Or.inr spells)⟩

/-- The preferred host with a dot behind it keeps the dot, and has keys of its own. -/
theorem preferredAuthority?_ne_of_final_dot :
    ∃ shared : SharedCluster,
      (Url.parse "https://a./common").toOption = some (authorityAt "a.") ∧
      (authorityAt "a.").SameButHost (authorityAt "b") ∧
      (authorityAt "a.").hostName?.bind pair.get? = some shared ∧
      (authorityAt "b").hostName?.bind pair.get? = some shared ∧
      shared.cluster.validated = true ∧ shared.cluster.preferredCache = some "a" ∧
      (pair.preferredAuthority? (authorityAt "a.")).toOption ≠
        (pair.preferredAuthority? (authorityAt "b")).toOption ∧
      (pair.key? (authorityAt "a.") (some "r") "c" false none).toOption ≠
        (pair.key? (authorityAt "b") (some "r") "c" false none).toOption := by
  exact ⟨⟨0, Cluster.ofHosts "a" "a" ["a", "b"]⟩, by decide +kernel,
    sameButHost_authorityAt "a." "b", by decide +kernel, by decide +kernel, rfl, by decide +kernel,
    by decide +kernel, by decide +kernel⟩

end Directory
end RealmTokens
