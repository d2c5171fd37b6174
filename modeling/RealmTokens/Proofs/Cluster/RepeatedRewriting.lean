/-
Authorities that are rewritten twice.

The preferred host of a cluster need not be one of its hosts.  It may be filed under another cluster,
which prefers yet another host, and then the rewritten authority is rewritten again.  Main statements:
this is the only case in which the second rewriting changes anything, and it does not occur, whatever
the order of the changes, if the clusters that were ever filed agree on their preferred hosts.
-/
import RealmTokens.Proofs.Cluster.PreferredHost
import RealmTokens.Proofs.Cluster.Symmetry

namespace RealmTokens

namespace Url

variable {u v : Url} {text : String}

/-- The host of a URL that was given another one. -/
theorem host?_of_withHost (h : u.authority.isSome) (hv : u.withHost text = .ok v) :
    v.scheme = u.scheme ∧ ∃ host, newHost? u.scheme text = .ok host ∧ v.host? = some host := by
  obtain ⟨a, ha⟩ := Option.isSome_iff_exists.1 h
  obtain ⟨host, hhost, rfl⟩ := (withHost_eq_ok_iff ha).1 hv
  exact ⟨rfl, host, hhost, rfl⟩

end Url

namespace Directory

open Url (newHost?)

/-! ## Once and twice -/

/-- The cluster of a URL prefers another host, to which the URL is moved. -/
def Moves (d : Directory) (u : Url) (preferred : String) : Prop :=
  ∃ host, u.hostName? = some host ∧ d.preferredCache? host = some preferred ∧ preferred ≠ host

/-- What a URL was moved to is moved on, to another host. -/
def MovesOn (d : Directory) (u v : Url) : Prop :=
  ∃ preferred next, d.Moves u preferred ∧ d.Moves v next ∧
    newHost? u.scheme next ≠ newHost? u.scheme preferred

section Rewritten

variable {d : Directory} {u v : Url} {preferred : String}

theorem preferredAuthority?_of_moves (h : d.Moves u preferred) :
    d.preferredAuthority? u = Failure.ofUrl (u.withHost preferred) := by
  obtain ⟨host, hhost, hpreferred, hne⟩ := h
  simp only [preferredAuthority?, hhost, hpreferred, if_neg hne]

theorem preferredAuthority?_of_not_moves (h : ∀ preferred, ¬d.Moves u preferred) :
    d.preferredAuthority? u = .ok u := by
  cases hhost : u.hostName? with
  | none => simp only [preferredAuthority?, hhost]
  | some host =>
      cases hpreferred : d.preferredCache? host with
      | none => simp only [preferredAuthority?, hhost, hpreferred]
      | some preferred =>
          have heq : preferred = host :=
            Decidable.byContradiction (fun hne => h preferred ⟨host, hhost, hpreferred, hne⟩)
          simp only [preferredAuthority?, hhost, hpreferred, if_pos heq]

theorem Moves.authority_isSome (h : d.Moves u preferred) : u.authority.isSome := by
  obtain ⟨host, hhost, -⟩ := h
  exact Url.authority_isSome_of_hostName? hhost

/-- A rewritten URL is the one it was, or was moved to the preferred host. -/
theorem eq_or_moves_of_preferredAuthority? (h : d.preferredAuthority? u = .ok v) :
    v = u ∨ ∃ preferred, d.Moves u preferred ∧ u.withHost preferred = .ok v := by
  by_cases hmoves : ∃ preferred, d.Moves u preferred
  · obtain ⟨preferred, hmoves⟩ := hmoves
    rw [preferredAuthority?_of_moves hmoves] at h
    exact Or.inr ⟨preferred, hmoves, ofUrl_eq_ok_iff.1 h⟩
  · rw [preferredAuthority?_of_not_moves (not_exists.1 hmoves)] at h
    exact Or.inl (Except.ok.inj h).symm

/-- A URL that was moved stays where it is if it is moved on to the same host. -/
theorem preferredAuthority?_of_moved (moves : d.Moves u preferred)
    (hv : u.withHost preferred = .ok v) {next : String} (on : d.Moves v next) :
    d.preferredAuthority? v = .ok v ↔ newHost? u.scheme next = newHost? u.scheme preferred := by
  obtain ⟨hscheme, host, hnew, hhost⟩ := Url.host?_of_withHost moves.authority_isSome hv
  rw [preferredAuthority?_of_moves on, ofUrl_eq_ok_iff, Url.withHost_eq_self_iff hhost, hscheme, hnew]

/-- The second rewriting leaves a URL as it is, unless the first one moved it to where it is moved on. -/
theorem preferredAuthority?_again_iff (h : d.preferredAuthority? u = .ok v) :
    d.preferredAuthority? v = .ok v ↔ ¬d.MovesOn u v := by
  constructor
  · rintro settled ⟨preferred, next, moves, on, hne⟩
    have hv := preferredAuthority?_of_moves moves
    rw [h] at hv
    exact hne ((preferredAuthority?_of_moved moves (ofUrl_eq_ok_iff.1 hv.symm) on).1 settled)
  · intro stays
    rcases eq_or_moves_of_preferredAuthority? h with rfl | ⟨preferred, moves, hv⟩
    · exact h
    · by_cases hon : ∃ next, d.Moves v next
      · obtain ⟨next, on⟩ := hon
        refine (preferredAuthority?_of_moved moves hv on).2 (Decidable.byContradiction (fun hne => ?_))
        exact stays ⟨preferred, next, moves, on, hne⟩
      · exact preferredAuthority?_of_not_moves (not_exists.1 hon)

end Rewritten

/-! ## Clusters that agree -/

/-- A change files under a name a cluster that prefers this host. -/
def Change.Prefers (c : Change) (name preferred : String) : Prop :=
  ∃ place cluster, c.Files name place cluster ∧ cluster.validated = true ∧
    cluster.preferredCache = some preferred

/-- The host for which a text stands in a URL is looked up under this name. -/
def ReadAs (text name : String) : Prop :=
  ∃ scheme host spelled, newHost? scheme text = .ok host ∧
    HostName.canonical? host.render = some spelled ∧ HostName.canonical? spelled = some name

/-- Where the preferred host of a cluster is filed itself, the cluster there prefers the same host. -/
def Unanimous (changes : List Change) : Prop :=
  ∀ c ∈ changes, ∀ c' ∈ changes, ∀ name preferred name' preferred',
    c.Prefers name preferred → ReadAs preferred name' → c'.Prefers name' preferred' →
      preferred' = preferred

/-- A preferred host comes from a change that has filed it. -/
theorem prefers_of_preferredCache? {changes : List Change} {host preferred : String}
    (h : (empty.afterAll changes).preferredCache? host = some preferred) :
    ∃ c ∈ changes, ∃ name, HostName.canonical? host = some name ∧ c.Prefers name preferred := by
  obtain ⟨shared, hshared, hpreferred⟩ := Option.bind_eq_some_iff.1 h
  obtain ⟨hget, validated⟩ := Option.filter_eq_some_iff.1 hshared
  obtain ⟨name, canonical, hentry⟩ := get?_eq_some_iff.1 hget
  obtain ⟨time, place, cluster, ⟨c, hlast, files⟩, rfl⟩ := (entry?_afterAll changes name shared).1 hentry
  exact ⟨c, hlast.mem, name, canonical, place, cluster, files, validated, hpreferred⟩

theorem not_movesOn_of_unanimous {changes : List Change} (unanimous : Unanimous changes) {u v : Url}
    (h : (empty.afterAll changes).preferredAuthority? u = .ok v) :
    ¬(empty.afterAll changes).MovesOn u v := by
  rintro ⟨preferred, next, moves, on, hne⟩
  have hv := preferredAuthority?_of_moves moves
  rw [h] at hv
  obtain ⟨-, new, hnew, hnewHost⟩ :=
    Url.host?_of_withHost moves.authority_isSome (ofUrl_eq_ok_iff.1 hv.symm)
  obtain ⟨host, -, hpreferred, -⟩ := moves
  obtain ⟨host', hhost', hnext, -⟩ := on
  obtain ⟨spelled, hspelled, canonical⟩ := Url.hostName?_eq_some_iff.1 hhost'
  obtain rfl := Option.some.inj (hnewHost.symm.trans hspelled)
  -- The second preferred host was filed under the name as which the first one is read.
  obtain ⟨c, hc, name, -, prefers⟩ := prefers_of_preferredCache? hpreferred
  obtain ⟨c', hc', name', hname', prefers'⟩ := prefers_of_preferredCache? hnext
  have read : ReadAs preferred name' := ⟨u.scheme, new, host', hnew, canonical, hname'⟩
  rw [unanimous c hc c' hc' name preferred name' next prefers read prefers'] at hne
  exact hne rfl

/-- Whatever changes a directory goes through, a rewritten URL differs from what it was in nothing but the
host.  It is rewritten to itself, and then has the keys that the first URL has, exactly if it is not
moved on, which no URL is where the clusters agree. -/
theorem preferredAuthority?_again (changes : List Change) :
    let d := empty.afterAll changes
    (∀ u v, d.preferredAuthority? u = .ok v →
      (v = u ∨ u.SameButHost v) ∧
      (d.preferredAuthority? v = .ok v ↔ ¬d.MovesOn u v) ∧
      (¬d.MovesOn u v → d.key? v = d.key? u)) ∧
    (Unanimous changes → ∀ u v, d.preferredAuthority? u = .ok v → d.preferredAuthority? v = .ok v) := by
  intro d
  refine ⟨fun u v h => ⟨?_, preferredAuthority?_again_iff h, fun stays => ?_⟩, fun unanimous u v h => ?_⟩
  · rcases eq_or_moves_of_preferredAuthority? h with heq | ⟨preferred, moves, hv⟩
    · exact Or.inl heq
    · exact Or.inr (Url.sameButHost_withHost moves.authority_isSome hv)
  · funext resource clientId multiResource userId
    rw [key?, key?, h, (preferredAuthority?_again_iff h).2 stays]
  · exact (preferredAuthority?_again_iff h).2 (not_movesOn_of_unanimous unanimous h)

/-- A cluster that is filed, cleared and filed again prefers one of its own hosts. -/
theorem preferredAuthority?_again_of_own_host :
    let listing : DiscoveryDocument := ⟨some "e", some [⟨"a", "a", ["a", "b"]⟩], none, none, none⟩
    let changes : List Change := [.ingest "a" listing, .clear, .ingest "b" listing]
    let d := empty.afterAll changes
    Unanimous changes ∧ d.preferredAuthority? (authorityAt "b") = .ok (authorityAt "a") ∧
      d.preferredAuthority? (authorityAt "a") = .ok (authorityAt "a") ∧
      d.key? (authorityAt "a") = d.key? (authorityAt "b") := by
  intro listing changes d
  let cluster : Cluster := Cluster.ofHosts "a" "a" ["a", "b"]
  have prefers : ∀ c ∈ changes, ∀ name preferred, c.Prefers name preferred → preferred = "a" := by
    have hplan : ∀ c ∈ changes, c = .clear ∨ c.plan? = .ok [(["a", "b"], cluster)] := by
      decide +kernel
    rintro c hc name preferred ⟨place, other, files, -, hpreferred⟩
    obtain ⟨plan, hosts, hfiled, last⟩ := Change.files_iff.1 files
    rcases hplan c hc with rfl | hlisted
    · cases hfiled
      exact absurd last not_lastAt_nil
    · obtain rfl := Except.ok.inj (hlisted.symm.trans hfiled)
      obtain ⟨-, hother⟩ := Prod.mk.inj (List.mem_singleton.1 last.mem)
      rw [hother] at hpreferred
      exact Option.some.inj (hpreferred.symm.trans (by decide +kernel))
  have unanimous : Unanimous changes := by
    intro c hc c' hc' name preferred name' preferred' h _ h'
    rw [prefers c hc name preferred h, prefers c' hc' name' preferred' h']
  have hb : d.preferredAuthority? (authorityAt "b") = .ok (authorityAt "a") := by decide +kernel
  obtain ⟨hexact, hagree⟩ := preferredAuthority?_again changes
  obtain ⟨-, hiff, hkey⟩ := hexact (authorityAt "b") (authorityAt "a") hb
  have ha := hagree unanimous (authorityAt "b") (authorityAt "a") hb
  exact ⟨unanimous, hb, ha, hkey (hiff.1 ha)⟩

/-- The preferred host of the first cluster is in the second one, which prefers another host. -/
theorem rewritten_again_of_two_clusters :
    let changes : List Change :=
      [.ingest "a" ⟨some "e", some [⟨"b", "b", ["a"]⟩, ⟨"c", "c", ["b"]⟩], none, none, none⟩]
    let d := empty.afterAll changes
    (∀ c ∈ changes, c.Discovers) ∧
      (Url.parse "https://a/common").toOption = some (authorityAt "a") ∧
      d.preferredAuthority? (authorityAt "a") = .ok (authorityAt "b") ∧
      d.preferredAuthority? (authorityAt "b") = .ok (authorityAt "c") ∧
      authorityAt "c" ≠ authorityAt "b" := by
  intro changes d
  refine ⟨by simp [changes, Change.Discovers], by decide +kernel, by decide +kernel, by decide +kernel,
    by decide +kernel⟩

end Directory
end RealmTokens
