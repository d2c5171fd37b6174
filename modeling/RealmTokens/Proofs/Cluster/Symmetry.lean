/-
Whether the hosts of a cluster stay together.

A directory is symmetric if whoever has a validated entry is one of the hosts of its cluster, and all
hosts of the cluster have this same entry.  Discovery does not keep directories symmetric, since an
answer files its clusters under their own hosts and leaves the other hosts of older clusters where
they are.  Main statements: a symmetric directory stays so exactly when the answer is symmetric in
itself and tears no cluster apart, and of a cluster that discovery has filed no host has an older entry.
-/
import RealmTokens.Proofs.Cluster.History

namespace RealmTokens

namespace HostName

/-- A name in its compared form, which the comparison leaves as it is. -/
def Settled (name : String) : Prop := canonical? name = some name

instance (name : String) : Decidable (Settled name) :=
  inferInstanceAs (Decidable (canonical? name = some name))

end HostName

namespace Directory

open HostName (Settled canonical?)

/-! ## Lookups -/

theorem get?_eq_some_iff {d : Directory} {host : String} {shared : SharedCluster} :
    d.get? host = some shared ↔
      ∃ name, HostName.canonical? host = some name ∧ d.entry? name = some shared :=
  Option.bind_eq_some_iff

/-- All numbers that are in use have been given out. -/
def Numbered (d : Directory) : Prop :=
  ∀ name shared, d.entry? name = some shared → shared.number < d.next

theorem numbered_afterAll (changes : List Change) : (empty.afterAll changes).Numbered := by
  induction changes using List.reverseRecOn with
  | nil => nofun
  | append_singleton changes c ih =>
      intro name shared h
      rw [afterAll_append] at h ⊢
      rcases (entry?_after _ c name shared).1 h with ⟨place, cluster, files, rfl⟩ | ⟨-, hold⟩
      · exact lt_next_after _ files
      · exact Nat.lt_of_lt_of_le (ih name shared hold) (next_le_after _ c)

section Step

variable {d : Directory} {c : Change} {name : String}

theorem entry?_after_new_iff (numbered : d.Numbered) {place : Nat} {cluster : Cluster} :
    entry? (d.after c) name = some ⟨d.next + place, cluster⟩ ↔ c.Files name place cluster := by
  rw [entry?_after]
  constructor
  · rintro (⟨other, _, files, h⟩ | ⟨-, hold⟩)
    · obtain ⟨hnumber, rfl⟩ := SharedCluster.mk.inj h
      obtain rfl : place = other := Nat.add_left_cancel hnumber
      exact files
    · have hlt : d.next + place < d.next := numbered name _ hold
      omega
  · exact fun files => Or.inl ⟨place, cluster, files, rfl⟩

theorem entry?_after_old_iff {shared : SharedCluster} (old : shared.number < d.next) :
    entry? (d.after c) name = some shared ↔
      ¬c.Concerns name ∧ d.entry? name = some shared := by
  rw [entry?_after]
  constructor
  · rintro (⟨place, cluster, -, rfl⟩ | h)
    · have hlt : d.next + place < d.next := old
      omega
    · exact h
  · exact Or.inr

end Step

/-! ## Symmetric directories -/

/-- Whoever has a validated entry is a host of its cluster, and all hosts of the cluster have this entry
and are found with it. -/
def Symmetric (d : Directory) : Prop :=
  ∀ name shared, d.entry? name = some shared → shared.cluster.validated = true →
    name ∈ shared.cluster.aliases ∧
      ∀ other ∈ shared.cluster.aliases, d.entry? other = some shared ∧ d.get? other = some shared

namespace Change

/-- Whoever a change files under a validated cluster is a host of it, and the change files all hosts of
the cluster under it. -/
def Symmetric (c : Change) : Prop :=
  ∀ name place cluster, c.Files name place cluster → cluster.validated = true →
    name ∈ cluster.aliases ∧
      ∀ other ∈ cluster.aliases, c.Files other place cluster ∧
        ∃ found, HostName.canonical? other = some found ∧ c.Files found place cluster

/-- A change concerns a host of a validated cluster, and not all who have its entry. -/
def Tears (c : Change) (d : Directory) : Prop :=
  ∃ name shared other, d.entry? name = some shared ∧ shared.cluster.validated = true ∧
    other ∈ shared.cluster.aliases ∧ c.Concerns other ∧ ¬c.Concerns name

end Change

theorem symmetric_empty : empty.Symmetric := nofun

/-- What one change does to the symmetry of a directory. -/
theorem symmetric_after_iff {d : Directory} (c : Change) (numbered : d.Numbered)
    (symmetric : d.Symmetric) :
    (d.after c).Symmetric ↔ c.Symmetric ∧ ¬c.Tears d := by
  constructor
  · intro h
    constructor
    · intro name place cluster files validated
      obtain ⟨hname, hothers⟩ := h name _ ((entry?_after_new_iff numbered).2 files) validated
      refine ⟨hname, fun other hother => ?_⟩
      obtain ⟨hentry, hget⟩ := hothers other hother
      obtain ⟨found, hfound, hentry'⟩ := get?_eq_some_iff.1 hget
      exact ⟨(entry?_after_new_iff numbered).1 hentry, found, hfound,
        (entry?_after_new_iff numbered).1 hentry'⟩
    · rintro ⟨name, shared, other, hentry, validated, hother, concerned, kept⟩
      have old := numbered name shared hentry
      obtain ⟨-, hothers⟩ := h name shared ((entry?_after_old_iff old).2 ⟨kept, hentry⟩) validated
      exact ((entry?_after_old_iff old).1 (hothers other hother).1).1 concerned
  · rintro ⟨whole, untorn⟩ name shared h validated
    rcases (entry?_after d c name shared).1 h with ⟨place, cluster, files, rfl⟩ | ⟨kept, hentry⟩
    · obtain ⟨hname, hothers⟩ := whole name place cluster files validated
      refine ⟨hname, fun other hother => ?_⟩
      obtain ⟨hfiles, found, hfound, hfiles'⟩ := hothers other hother
      exact ⟨(entry?_after_new_iff numbered).2 hfiles,
        get?_eq_some_iff.2 ⟨found, hfound, (entry?_after_new_iff numbered).2 hfiles'⟩⟩
    · have old := numbered name shared hentry
      have stays : ∀ other ∈ shared.cluster.aliases, d.entry? other = some shared →
          entry? (d.after c) other = some shared := by
        intro other hother hothers
        refine (entry?_after_old_iff old).2 ⟨fun concerned => ?_, hothers⟩
        exact untorn ⟨name, shared, other, hentry, validated, hother, concerned, kept⟩
      obtain ⟨hname, hothers⟩ := symmetric name shared hentry validated
      refine ⟨hname, fun other hother => ?_⟩
      obtain ⟨hentry', hget⟩ := hothers other hother
      -- The form in which a host is looked up has the entry, so it is a host of the cluster itself.
      obtain ⟨found, hfound, hentry''⟩ := get?_eq_some_iff.1 hget
      have hin : found ∈ shared.cluster.aliases := (symmetric found shared hentry'' validated).1
      exact ⟨stays other hother hentry',
        get?_eq_some_iff.2 ⟨found, hfound, stays found hin hentry''⟩⟩

theorem afterAll_take_succ {changes : List Change} {time : Nat} {c : Change}
    (h : changes[time]? = some c) :
    empty.afterAll (changes.take (time + 1)) = (empty.afterAll (changes.take time)).after c := by
  rw [List.take_add_one, h, afterAll_append]
  rfl

/-- All states of a run are symmetric exactly when every change is, and tears no cluster that it finds. -/
theorem symmetric_throughout_iff (changes : List Change) :
    (∀ time ≤ changes.length, (empty.afterAll (changes.take time)).Symmetric) ↔
      ∀ time (c : Change), changes[time]? = some c →
        c.Symmetric ∧ ¬c.Tears (empty.afterAll (changes.take time)) := by
  constructor
  · intro h time c hc
    have hlt : time < changes.length := (List.getElem?_eq_some_iff.1 hc).1
    have hnext := h (time + 1) hlt
    rw [afterAll_take_succ hc] at hnext
    exact (symmetric_after_iff c (numbered_afterAll _) (h time (Nat.le_of_lt hlt))).1 hnext
  · intro h time
    induction time with
    | zero => exact fun _ => symmetric_empty
    | succ time ih =>
        intro hlt
        have hc : changes[time]? = some changes[time] := List.getElem?_eq_getElem hlt
        rw [afterAll_take_succ hc]
        exact (symmetric_after_iff _ (numbered_afterAll _) (ih (Nat.le_of_lt hlt))).2
          (h time _ hc)

/-- Clusters that share a host list the same hosts: who is filed as a host of another cluster, is filed
under a cluster that contains whoever is filed under that other one. -/
def Agree (changes : List Change) : Prop :=
  ∀ c ∈ changes, ∀ c' ∈ changes, ∀ {name name' place place' cluster cluster'},
    c.Files name place cluster → cluster.validated = true → c'.Files name' place' cluster' →
      name' ∈ cluster.aliases → cluster'.validated = true ∧ name ∈ cluster'.aliases

/-- While all clusters that share a host list the same hosts, every host is found with the cluster of
which it is one. -/
theorem symmetric_afterAll_of_agree {changes : List Change} (agree : Agree changes)
    (each : ∀ c ∈ changes, c.Symmetric) : (empty.afterAll changes).Symmetric := by
  have throughout := (symmetric_throughout_iff changes).2 (fun time c hc => ?_)
  · have hall := throughout changes.length (Nat.le_refl _)
    rwa [List.take_length] at hall
  · have hmem : c ∈ changes := List.mem_of_getElem? hc
    refine ⟨each c hmem, ?_⟩
    rintro ⟨name, shared, other, hentry, validated, hother, hclear | ⟨place', cluster', files'⟩, kept⟩
    · exact kept (Or.inl hclear)
    · obtain ⟨_, place, cluster, ⟨earlier, hlast, files⟩, rfl⟩ :=
        (entry?_afterAll _ name shared).1 hentry
      have hearlier : earlier ∈ changes := List.mem_of_mem_take hlast.mem
      obtain ⟨validated', hname⟩ := agree earlier hearlier c hmem files validated files' hother
      obtain ⟨-, hothers⟩ := each c hmem other place' cluster' files' validated'
      exact kept (Or.inr ⟨place', cluster', (hothers name hname).1⟩)

/-! ## Discovery -/

namespace Change

/-- An answer is symmetric if it lists clusters without a common host, under settled names. -/
theorem symmetric_of_disjoint {host asked : String} {document : DiscoveryDocument}
    (canonical : canonical? host = some asked) (endpoint : document.recognises = true)
    (listed : document.clusters.getD [] ≠ [])
    (disjoint : (document.clusters.getD []).Pairwise
      (fun earlier later => earlier.told.aliases.Disjoint later.told.aliases))
    (settled : ∀ d ∈ document.clusters.getD [], ∀ other ∈ d.told.aliases, Settled other) :
    (ingest host document).Symmetric := by
  intro name place cluster files validated
  obtain ⟨complete, d, last, rfl⟩ :=
    (files_ingest_of_listed canonical endpoint listed name place cluster).1 files
  refine ⟨ClusterDescription.mem_aliases_told.2 last.holds, fun other hother => ?_⟩
  have hfiles : Files (ingest host document) other place d.told := by
    have hnamed := ClusterDescription.mem_aliases_told.1 hother
    refine .listed canonical endpoint complete ⟨last.getElem?_eq, hnamed, ?_⟩
    intro next later hlt hnext hin
    obtain ⟨hplace, rfl⟩ := List.getElem?_eq_some_iff.1 last.getElem?_eq
    obtain ⟨hbehind, rfl⟩ := List.getElem?_eq_some_iff.1 hnext
    exact List.pairwise_iff_getElem.1 disjoint place next hplace hbehind hlt hother
      (ClusterDescription.mem_aliases_told.2 hin)
  exact ⟨hfiles, other, settled d last.mem other hother, hfiles⟩

/-- A change that files what an answer says, or clears. -/
def Discovers : Change → Prop
  | .update .. => False
  | .ingest .. | .ingestBody .. | .clear => True

/-- An answer files a host under a cluster that lists it, unless the comparison changes the name that
was asked for once more. -/
theorem mem_aliases_of_files {c : Change} {name : String} {place : Nat} {cluster : Cluster}
    (discovers : c.Discovers) (h : c.Files name place cluster) (validated : cluster.validated = true)
    (settled : Settled name) : name ∈ cluster.aliases := by
  induction h with
  | unrecognised => cases validated
  | single => exact Option.mem_toList.2 settled
  | listed canonical endpoint complete last => exact ClusterDescription.mem_aliases_told.2 last.holds
  | body decoded files ih => exact ih trivial validated settled
  | update => exact discovers.elim

/-- An answer files every host of a cluster that it files, under this cluster or a later one. -/
theorem files_aliases {c : Change} {name other : String} {place : Nat} {cluster : Cluster}
    (discovers : c.Discovers) (h : c.Files name place cluster) (validated : cluster.validated = true)
    (hname : name ∈ cluster.aliases) (hother : other ∈ cluster.aliases) :
    c.Files other place cluster ∨ ∃ place' cluster', place < place' ∧ c.Files other place' cluster' := by
  induction h with
  | unrecognised => cases validated
  | single canonical endpoint unlisted =>
      obtain rfl := Option.some.inj
        ((Option.mem_toList.1 hname).symm.trans (Option.mem_toList.1 hother))
      exact Or.inl (.single canonical endpoint unlisted)
  | listed canonical endpoint complete last =>
      have hnamed := ClusterDescription.mem_aliases_told.1 hother
      obtain ⟨place', later, last'⟩ :=
        exists_lastAt (p := ClusterDescription.Names other) ⟨_, last.mem, hnamed⟩
      rcases Nat.lt_or_eq_of_le (last'.le last.getElem?_eq hnamed) with hlt | rfl
      · exact Or.inr ⟨place', later.told, hlt, .listed canonical endpoint complete last'⟩
      · obtain rfl := Option.some.inj (last.getElem?_eq.symm.trans last'.getElem?_eq)
        exact Or.inl (.listed canonical endpoint complete last')
  | body decoded files ih =>
      rcases ih trivial validated hname hother with h | ⟨place', cluster', hlt, h⟩
      · exact Or.inl (.body decoded h)
      · exact Or.inr ⟨place', cluster', hlt, .body decoded h⟩
  | update => exact discovers.elim

end Change

/-- Of a cluster that discovery has filed every host has the entry, or one filed later. -/
theorem latest_aliases {changes : List Change} (discovered : ∀ c ∈ changes, c.Discovers)
    {name other : String} {time place : Nat} {cluster : Cluster}
    (h : Latest changes name time place cluster) (validated : cluster.validated = true)
    (hname : name ∈ cluster.aliases) (hother : other ∈ cluster.aliases) :
    Latest changes other time place cluster ∨
      ∃ time' place' cluster', Latest changes other time' place' cluster' ∧
        numberOf changes time place < numberOf changes time' place' := by
  obtain ⟨c, hlast, files⟩ := h
  have hfiles := Change.files_aliases (discovered c hlast.mem) files validated hname hother
  have hconcerned : c.Concerns other := by
    rcases hfiles with h | ⟨place', cluster', -, h⟩
    · exact Or.inr ⟨place, cluster, h⟩
    · exact Or.inr ⟨place', cluster', h⟩
  obtain ⟨time', c', hlast'⟩ :=
    exists_lastAt (p := Change.Concerns other) ⟨c, hlast.mem, hconcerned⟩
  rcases Nat.lt_or_eq_of_le (hlast'.le hlast.getElem?_eq hconcerned) with hlt | rfl
  · rcases hlast'.holds with rfl | ⟨place', cluster', files'⟩
    · -- A later clearing would concern `name` as well.
      have hle := hlast.le hlast'.getElem?_eq (Or.inl rfl : Change.Concerns name .clear)
      omega
    · exact Or.inr ⟨time', place', cluster', ⟨c', hlast', files'⟩, numberOf_lt ⟨c, hlast, files⟩ hlt⟩
  · obtain rfl := Option.some.inj (hlast.getElem?_eq.symm.trans hlast'.getElem?_eq)
    rcases hfiles with h | ⟨place', cluster', hlt, h⟩
    · exact Or.inl ⟨c, hlast', h⟩
    · exact Or.inr ⟨time, place', cluster', ⟨c, hlast', h⟩, Nat.add_lt_add_left hlt _⟩

/-- Discovery may file some hosts of a cluster again, under another one. Each host has then the cluster's
entry or a newer one, and the cluster's entry is one of a host that the cluster does not list only where
the comparison would change the name again. All states are symmetric exactly when every answer is, and
tears no cluster that it finds. -/
theorem symmetry_afterAll {changes : List Change} (discovered : ∀ c ∈ changes, c.Discovers) :
    let d := empty.afterAll changes
    (∀ host name shared, HostName.canonical? host = some name → d.get? host = some shared →
      shared.cluster.validated = true →
        (Settled name → name ∈ shared.cluster.aliases) ∧
        (name ∈ shared.cluster.aliases → ∀ other ∈ shared.cluster.aliases,
          ∃ newer, d.entry? other = some newer ∧ (Settled other → d.get? other = some newer) ∧
            (newer = shared ∨ shared.number < newer.number))) ∧
    ((∀ time ≤ changes.length, (empty.afterAll (changes.take time)).Symmetric) ↔
      ∀ time (c : Change), changes[time]? = some c →
        c.Symmetric ∧ ¬c.Tears (empty.afterAll (changes.take time))) := by
  intro d
  refine ⟨fun host name shared canonical hget validated => ?_, symmetric_throughout_iff changes⟩
  obtain ⟨_, canonical', hentry⟩ := get?_eq_some_iff.1 hget
  obtain rfl := Option.some.inj (canonical.symm.trans canonical')
  obtain ⟨time, place, cluster, latest, rfl⟩ := (entry?_afterAll changes name shared).1 hentry
  constructor
  · intro settled
    obtain ⟨c, hlast, files⟩ := latest
    exact Change.mem_aliases_of_files (discovered c hlast.mem) files validated settled
  · intro hname other hother
    have filed : ∃ newer, d.entry? other = some newer ∧
        (newer = ⟨numberOf changes time place, cluster⟩ ∨
          numberOf changes time place < newer.number) := by
      rcases latest_aliases discovered latest validated hname hother with h |
        ⟨time', place', cluster', h, hlt⟩
      · exact ⟨_, (entry?_afterAll changes other _).2 ⟨time, place, cluster, h, rfl⟩, Or.inl rfl⟩
      · exact ⟨_, (entry?_afterAll changes other _).2 ⟨time', place', cluster', h, rfl⟩, Or.inr hlt⟩
    obtain ⟨newer, hnewer, horder⟩ := filed
    exact ⟨newer, hnewer, fun settled => get?_eq_some_iff.2 ⟨other, settled, hnewer⟩, horder⟩

/-- The first of two clusters with a common host, which the second one has taken. -/
theorem symmetry_afterAll_of_overlap :
    let listing (hosts : List String) : DiscoveryDocument :=
      ⟨some "e", some [⟨"a", "a", hosts⟩], none, none, none⟩
    let changes : List Change :=
      [.ingest "a" (listing ["a", "b"]), .ingest "b" (listing ["b", "c"])]
    let first : SharedCluster := ⟨0, Cluster.ofHosts "a" "a" ["a", "b"]⟩
    (empty.afterAll changes).get? "a" = some first ∧
      ∃ newer, (empty.afterAll changes).get? "b" = some newer ∧
        (newer = first ∨ first.number < newer.number) := by
  intro listing changes first
  have discovered : ∀ c ∈ changes, c.Discovers := by simp [changes, Change.Discovers]
  have ha : HostName.canonical? "a" = some "a" := by decide +kernel
  have hb : Settled "b" := by decide +kernel
  have hfirst : (empty.afterAll changes).get? "a" = some first := by decide +kernel
  have hmem : "a" ∈ first.cluster.aliases ∧ "b" ∈ first.cluster.aliases := by decide +kernel
  obtain ⟨hin, hothers⟩ := (symmetry_afterAll discovered).1 "a" "a" first ha hfirst rfl
  obtain ⟨newer, -, hget, horder⟩ := hothers hmem.1 "b" hmem.2
  exact ⟨hfirst, newer, hget hb, horder⟩

/-- The second of two clusters takes a host that they have in common, and the first one still lists it. -/
theorem not_symmetric_of_overlap :
    let listing (hosts : List String) : DiscoveryDocument :=
      ⟨some "e", some [⟨"a", "a", hosts⟩], none, none, none⟩
    let changes : List Change :=
      [.ingest "a" (listing ["a", "b"]), .ingest "b" (listing ["b", "c"])]
    (∀ c ∈ changes, c.Discovers) ∧ ¬(empty.afterAll changes).Symmetric := by
  intro listing changes
  refine ⟨by simp [changes, Change.Discovers], ?_⟩
  intro symmetric
  have ha : entry? (empty.afterAll changes) "a" =
      some ⟨0, Cluster.ofHosts "a" "a" ["a", "b"]⟩ := by decide +kernel
  have hb : entry? (empty.afterAll changes) "b" =
      some ⟨1, Cluster.ofHosts "a" "a" ["b", "c"]⟩ := by decide +kernel
  have hmem : "b" ∈ (Cluster.ofHosts "a" "a" ["a", "b"]).aliases := by decide +kernel
  have hshared := ((symmetric "a" _ ha rfl).2 "b" hmem).1
  rw [hb] at hshared
  cases hshared

end Directory
end RealmTokens
