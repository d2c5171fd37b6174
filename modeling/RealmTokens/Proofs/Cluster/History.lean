/-
A directory as the history of its changes.

`Change.Files` says what a change files: which cluster, with all that it holds, the how manieth of those
that the change brings, under which names.  A change either files something or fails, and it clears the
directory or does neither.  Main statement: whatever changes a directory goes through, a name has the
entry that the last change concerning it has filed, and two names share an entry exactly when the same
change filed the same one of its clusters under both.
-/
import RealmTokens.Cluster.Directory
import RealmTokens.Proofs.Lists

namespace RealmTokens

open HostName (canonical?)

/-! ## What descriptions say -/

namespace ClusterDescription

/-- A description that has names for both preferred hosts and for at least one alias. -/
structure Complete (d : ClusterDescription) : Prop where
  network : (canonical? d.preferredNetwork).isSome = true
  cache : (canonical? d.preferredCache).isSome = true
  named : ∃ name ∈ d.aliases, (canonical? name).isSome = true

/-- A host that is one of the aliases, however these are spelled. -/
def Names (host : String) (d : ClusterDescription) : Prop :=
  ∃ name ∈ d.aliases, canonical? name = some host

/-- The cluster that a description tells of, with all its names in their compared form. -/
def told (d : ClusterDescription) : Cluster :=
  ⟨canonical? d.preferredNetwork, canonical? d.preferredCache, HostName.normalize d.aliases, true⟩

theorem mem_aliases_told {d : ClusterDescription} {host : String} :
    host ∈ d.told.aliases ↔ d.Names host :=
  HostName.mem_normalize

theorem complete_iff {d : ClusterDescription} :
    d.Complete ↔ d.told.aliases ≠ [] ∧ d.told.preferredNetwork.isSome = true ∧
      d.told.preferredCache.isSome = true := by
  constructor
  · rintro ⟨network, cache, name, hname, named⟩
    obtain ⟨host, canonical⟩ := Option.isSome_iff_exists.1 named
    exact ⟨List.ne_nil_of_mem (mem_aliases_told.2 ⟨name, hname, canonical⟩), network, cache⟩
  · rintro ⟨listed, network, cache⟩
    obtain ⟨host, hhost⟩ := List.exists_mem_of_ne_nil _ listed
    obtain ⟨name, hname, canonical⟩ := mem_aliases_told.1 hhost
    exact ⟨network, cache, name, hname, Option.isSome_iff_exists.2 ⟨host, canonical⟩⟩

end ClusterDescription

namespace DiscoveryDocument

theorem recognises_iff {d : DiscoveryDocument} :
    d.recognises = true ↔ ∃ endpoint, d.tenantEndpoint = some endpoint ∧ Text.blank endpoint = false := by
  unfold recognises
  cases d.tenantEndpoint with
  | none => simp
  | some endpoint => simp

theorem not_recognises_of_blank {d : DiscoveryDocument}
    (h : ∀ endpoint, d.tenantEndpoint = some endpoint → Text.blank endpoint = true) :
    d.recognises = false := by
  rw [Bool.eq_false_iff, ne_eq, recognises_iff]
  rintro ⟨endpoint, hendpoint, hnot⟩
  cases (h endpoint hendpoint).symm.trans hnot

end DiscoveryDocument

namespace Cluster

theorem ofDescription?_eq_ok_iff {d : ClusterDescription} {cluster : Cluster} :
    ofDescription? d = .ok cluster ↔ d.Complete ∧ cluster = d.told := by
  rw [ClusterDescription.complete_iff, ofDescription?]
  show (if d.told.aliases.isEmpty || d.told.preferredNetwork.isNone || d.told.preferredCache.isNone
    then _ else Except.ok d.told) = _ ↔ _
  cases d.told.aliases <;> cases d.told.preferredNetwork <;> cases d.told.preferredCache <;>
    simp [eq_comm (a := cluster)]

theorem mapM_ofDescription?_eq_ok_iff {descriptions : List ClusterDescription}
    {clusters : List Cluster} :
    descriptions.mapM ofDescription? = .ok clusters ↔
      (∀ d ∈ descriptions, d.Complete) ∧ clusters = descriptions.map ClusterDescription.told :=
  mapM_eq_ok_iff (fun _ _ => ofDescription?_eq_ok_iff)

/-- A host that is a cluster by itself has the name that the comparison gives its name, if it gives
one. -/
theorem single_eq (host : String) :
    single host = ⟨canonical? host, canonical? host, (canonical? host).toList, true⟩ := by
  have haliases : HostName.normalize [host] = (canonical? host).toList := by
    cases h : canonical? host <;> simp [HostName.normalize, h, distinct]
  rw [single, ofHosts, haliases]

end Cluster

namespace Directory

/-! ## Filing -/

theorem lookup_put (entries : List (String × SharedCluster)) (host name : String)
    (shared : SharedCluster) :
    (put entries host shared).lookup name =
      if name = host then some shared else entries.lookup name := by
  rw [put, List.lookup_cons]
  by_cases h : name = host
  · rw [if_pos h, beq_iff_eq.2 h]
  · rw [if_neg h, beq_eq_false_iff_ne.2 h]
    exact (lookup_filter_ne host name entries).trans (if_neg h)

theorem lookup_foldl_put (hosts : List String) (entries : List (String × SharedCluster))
    (name : String) (shared : SharedCluster) :
    (hosts.foldl (fun entries host => put entries host shared) entries).lookup name =
      if name ∈ hosts then some shared else entries.lookup name := by
  induction hosts generalizing entries with
  | nil => simp
  | cons host hosts ih =>
      rw [List.foldl_cons, ih, lookup_put]
      by_cases hin : name ∈ hosts
      · rw [if_pos hin, if_pos (List.mem_cons_of_mem host hin)]
      · by_cases h : name = host
        · rw [if_neg hin, if_pos h, if_pos (h ▸ List.mem_cons_self)]
        · rw [if_neg hin, if_neg h, if_neg (fun hm => (List.mem_cons.1 hm).elim h hin)]

theorem entry?_file (d : Directory) (hosts : List String) (cluster : Cluster) (name : String) :
    entry? (d.file hosts cluster) name =
      if name ∈ hosts then some ⟨d.next, cluster⟩ else d.entry? name :=
  lookup_foldl_put hosts d.entries name ⟨d.next, cluster⟩

theorem apply_append_singleton (d : Directory) (plan : Plan) (step : List String × Cluster) :
    d.apply (plan ++ [step]) = (d.apply plan).file step.1 step.2 := by
  simp [apply, List.foldl_append]

theorem next_apply (d : Directory) (plan : Plan) : (d.apply plan).next = d.next + plan.length := by
  induction plan using List.reverseRecOn with
  | nil => rfl
  | append_singleton plan step ih =>
      rw [apply_append_singleton, List.length_append]
      show (d.apply plan).next + 1 = _
      rw [ih]
      rfl

/-- A plan files a name under the last of its clusters that has it, with a number of its own. -/
theorem entry?_apply (d : Directory) (plan : Plan) (name : String) (shared : SharedCluster) :
    entry? (d.apply plan) name = some shared ↔
      (∃ place step, LastAt (fun step => name ∈ step.1) plan place step ∧
        shared = ⟨d.next + place, step.2⟩) ∨
      ((∀ step ∈ plan, name ∉ step.1) ∧ d.entry? name = some shared) := by
  induction plan using List.reverseRecOn with
  | nil => simp [apply, not_lastAt_nil]
  | append_singleton plan step ih =>
      rw [apply_append_singleton, entry?_file, next_apply]
      simp only [lastAt_append_singleton_iff]
      by_cases h : name ∈ step.1
      · have hnot : ¬∀ other ∈ plan ++ [step], name ∉ other.1 := fun hall =>
          hall step (by simp) h
        rw [if_pos h, Option.some.injEq, eq_comm (b := shared)]
        constructor
        · rintro rfl
          exact Or.inl ⟨plan.length, step, Or.inl ⟨rfl, rfl, h⟩, rfl⟩
        · rintro (⟨place, other, ⟨rfl, rfl, -⟩ | ⟨hn, -⟩, rfl⟩ | ⟨hall, -⟩)
          · rfl
          · exact absurd h hn
          · exact absurd hall hnot
      · rw [if_neg h, ih]
        simp [h, or_imp, forall_and]

/-! ## Changes -/

/-- What can be done to a directory. -/
inductive Change where
  | ingest (host : String) (document : DiscoveryDocument)
  | ingestBody (host body : String)
  | update (host : String) (cluster : Cluster)
  | clear
  deriving DecidableEq, Repr

namespace Change

def run? (d : Directory) : Change → Except Failure Directory
  | .ingest host document => d.ingest? host document
  | .ingestBody host body => d.ingestBody? host body
  | .update host cluster => d.update? host cluster
  | .clear => .ok d.clear

/--
A change succeeds and files a cluster under a name. It is the cluster at `place` of those that the change
brings, and the last of them that has this name.
-/
inductive Files : Change → String → Nat → Cluster → Prop
  /-- An answer without an endpoint says of the host alone that it is not recognised. -/
  | unrecognised {host name : String} {document : DiscoveryDocument}
      (canonical : canonical? host = some name) (endpoint : document.recognises = false) :
      Files (.ingest host document) name 0 ⟨none, none, [], false⟩
  /-- An endpoint without clusters makes the host a cluster by itself. Its name is compared once more. -/
  | single {host name : String} {document : DiscoveryDocument}
      (canonical : canonical? host = some name) (endpoint : document.recognises = true)
      (unlisted : document.clusters.getD [] = []) :
      Files (.ingest host document) name 0
        ⟨canonical? name, canonical? name, (canonical? name).toList, true⟩
  /-- Listed clusters are filed under their aliases, if all of them are complete. -/
  | listed {host asked name : String} {document : DiscoveryDocument} {place : Nat}
      {description : ClusterDescription}
      (canonical : canonical? host = some asked) (endpoint : document.recognises = true)
      (complete : ∀ d ∈ document.clusters.getD [], d.Complete)
      (last : LastAt (ClusterDescription.Names name) (document.clusters.getD []) place description) :
      Files (.ingest host document) name place description.told
  | body {host body name : String} {document : DiscoveryDocument} {place : Nat} {cluster : Cluster}
      (decoded : DiscoveryDocument.ofString? body = .ok document)
      (files : Files (.ingest host document) name place cluster) :
      Files (.ingestBody host body) name place cluster
  | update {host name : String} {cluster : Cluster}
      (canonical : HostName.canonical? host = some name) :
      Files (.update host cluster) name 0 cluster

/-- A change files something under a name, or clears it with all others. -/
def Concerns (name : String) (c : Change) : Prop :=
  c = .clear ∨ ∃ place cluster, c.Files name place cluster

/-- The plan of an answer about a host that may be spelled in any way. -/
def answerPlan? (host : String) (document : DiscoveryDocument) : Except Failure Plan :=
  match HostName.canonical? host with
  | none => .error (.argument .authorityHost .blank)
  | some host => Directory.plan? host document

/-- The plan that a change carries out, unless it clears. -/
def plan? : Change → Except Failure Plan
  | .ingest host document => answerPlan? host document
  | .ingestBody host body => (DiscoveryDocument.ofString? body).bind (answerPlan? host)
  | .update host cluster =>
      match HostName.canonical? host with
      | none => .error (.argument .host .blank)
      | some host => .ok [([host], cluster)]
  | .clear => .ok []

theorem ingest?_eq (d : Directory) (host : String) (document : DiscoveryDocument) :
    d.ingest? host document = (answerPlan? host document).map d.apply := by
  unfold ingest? answerPlan?
  cases HostName.canonical? host with
  | none => rfl
  | some asked => cases Directory.plan? asked document <;> rfl

theorem run?_eq (d : Directory) {c : Change} (h : c ≠ .clear) :
    c.run? d = c.plan?.map d.apply := by
  cases c with
  | ingest host document => exact ingest?_eq d host document
  | ingestBody host body =>
      show d.ingestBody? host body = _
      simp only [ingestBody?, plan?]
      cases DiscoveryDocument.ofString? body with
      | error failure => rfl
      | ok document => exact ingest?_eq d host document
  | update host cluster =>
      show d.update? host cluster = _
      simp only [update?, plan?]
      cases HostName.canonical? host <;> rfl
  | clear => exact absurd rfl h

/-- The three plans that an answer can have. -/
theorem answerPlan?_eq_ok_iff {host : String} {document : DiscoveryDocument} {plan : Plan} :
    answerPlan? host document = .ok plan ↔
      ∃ asked, HostName.canonical? host = some asked ∧
        ((document.recognises = false ∧ plan = [([asked], Cluster.unrecognised)]) ∨
          (document.recognises = true ∧ document.clusters.getD [] = [] ∧
            plan = [([asked], Cluster.single asked)]) ∨
          document.recognises = true ∧ document.clusters.getD [] ≠ [] ∧
            (∀ d ∈ document.clusters.getD [], d.Complete) ∧
            plan = (document.clusters.getD []).map (fun d => (d.told.aliases, d.told))) := by
  unfold answerPlan?
  cases HostName.canonical? host with
  | none => simp
  | some asked =>
      simp only [Option.some.injEq, exists_eq_left', Directory.plan?]
      cases document.recognises with
      | false => simp [eq_comm (a := plan)]
      | true =>
          rcases document.clusters with _ | _ | ⟨d, ds⟩
          case none | some.nil =>
            refine ⟨fun h => Or.inr (Or.inl ⟨rfl, rfl, (Except.ok.inj h).symm⟩), ?_⟩
            rintro (⟨h, -⟩ | ⟨-, -, rfl⟩ | ⟨-, h, -⟩)
            · cases h
            · rfl
            · exact absurd rfl h
          case some.cons =>
            show ((d :: ds).mapM Cluster.ofDescription?).map (fun clusters =>
              clusters.map (fun cluster => (cluster.aliases, cluster))) = .ok plan ↔ _
            constructor
            · intro h
              cases hclusters : (d :: ds).mapM Cluster.ofDescription? with
              | error failure =>
                  rw [hclusters] at h
                  cases h
              | ok clusters =>
                  rw [hclusters] at h
                  obtain ⟨complete, rfl⟩ := Cluster.mapM_ofDescription?_eq_ok_iff.1 hclusters
                  cases h
                  exact Or.inr (Or.inr ⟨rfl, List.cons_ne_nil d ds, complete, List.map_map⟩)
            · rintro (⟨h, -⟩ | ⟨-, h, -⟩ | ⟨-, -, complete, rfl⟩)
              · cases h
              · cases h
              · rw [Option.getD_some] at complete
                rw [Cluster.mapM_ofDescription?_eq_ok_iff.2 ⟨complete, rfl⟩]
                exact congrArg Except.ok List.map_map

theorem files_ingest_iff {host name : String} {document : DiscoveryDocument} {place : Nat}
    {cluster : Cluster} :
    Files (.ingest host document) name place cluster ↔
      ∃ plan hosts, answerPlan? host document = .ok plan ∧
        LastAt (fun step => name ∈ step.1) plan place (hosts, cluster) := by
  constructor
  · intro h
    cases h with
    | unrecognised canonical endpoint =>
        have hplan := answerPlan?_eq_ok_iff.2 ⟨name, canonical, Or.inl ⟨endpoint, rfl⟩⟩
        exact ⟨_, [name], hplan, lastAt_singleton_iff.2 ⟨rfl, rfl, List.mem_singleton_self name⟩⟩
    | single canonical endpoint unlisted =>
        have hplan := answerPlan?_eq_ok_iff.2
          ⟨name, canonical, Or.inr (Or.inl ⟨endpoint, unlisted, rfl⟩)⟩
        rw [Cluster.single_eq] at hplan
        exact ⟨_, [name], hplan, lastAt_singleton_iff.2 ⟨rfl, rfl, List.mem_singleton_self name⟩⟩
    | @listed _ asked _ _ _ description canonical endpoint complete last =>
        have hplan := answerPlan?_eq_ok_iff.2 ⟨asked, canonical,
          Or.inr (Or.inr ⟨endpoint, List.ne_nil_of_mem last.mem, complete, rfl⟩)⟩
        refine ⟨_, description.told.aliases, hplan, lastAt_map_iff.2 ⟨description, rfl, ?_⟩⟩
        exact last.congr (fun d => ClusterDescription.mem_aliases_told.symm)
  · rintro ⟨plan, hosts, hplan, last⟩
    obtain ⟨asked, canonical, ⟨endpoint, rfl⟩ | ⟨endpoint, unlisted, rfl⟩ |
      ⟨endpoint, -, complete, rfl⟩⟩ := answerPlan?_eq_ok_iff.1 hplan
    · obtain ⟨rfl, hstep, hname⟩ := lastAt_singleton_iff.1 last
      cases hstep
      rw [List.mem_singleton.1 hname]
      exact .unrecognised canonical endpoint
    · obtain ⟨rfl, hstep, hname⟩ := lastAt_singleton_iff.1 last
      cases hstep
      rw [List.mem_singleton.1 hname, Cluster.single_eq]
      exact .single canonical endpoint unlisted
    · obtain ⟨description, hdescription, hlast⟩ := lastAt_map_iff.1 last
      cases hdescription
      exact .listed canonical endpoint complete
        (hlast.congr (fun d => ClusterDescription.mem_aliases_told))

/-- A change files what its plan holds. -/
theorem files_iff {c : Change} {name : String} {place : Nat} {cluster : Cluster} :
    c.Files name place cluster ↔
      ∃ plan hosts, c.plan? = .ok plan ∧
        LastAt (fun step => name ∈ step.1) plan place (hosts, cluster) := by
  cases c with
  | ingest host document => exact files_ingest_iff
  | ingestBody host body =>
      simp only [plan?]
      constructor
      · intro h
        cases h with
        | body decoded files =>
            rw [decoded]
            exact files_ingest_iff.1 files
      · intro h
        cases decoded : DiscoveryDocument.ofString? body with
        | error failure => simp [decoded, Except.bind] at h
        | ok document =>
            rw [decoded] at h
            exact .body decoded (files_ingest_iff.2 h)
  | update host cluster' =>
      simp only [plan?]
      constructor
      · intro h
        cases h with
        | update canonical =>
            rw [canonical]
            exact ⟨_, _, rfl, lastAt_singleton_iff.2 ⟨rfl, rfl, List.mem_singleton_self name⟩⟩
      · rintro ⟨plan, hosts, hplan, last⟩
        cases canonical : HostName.canonical? host with
        | none => simp [canonical] at hplan
        | some asked =>
            simp only [canonical, Except.ok.injEq] at hplan
            subst hplan
            obtain ⟨rfl, hstep, hname⟩ := lastAt_singleton_iff.1 last
            cases hstep
            rw [List.mem_singleton.1 hname]
            exact .update canonical
  | clear =>
      constructor
      · rintro ⟨⟩
      · rintro ⟨plan, hosts, hplan, last⟩
        cases hplan
        exact absurd last not_lastAt_nil

/-! ## What an answer files -/

section Answer

variable {host asked : String} {document : DiscoveryDocument}

theorem files_ingest_of_unrecognised (canonical : canonical? host = some asked)
    (endpoint : document.recognises = false) (name : String) (place : Nat) (cluster : Cluster) :
    Files (.ingest host document) name place cluster ↔
      name = asked ∧ place = 0 ∧ cluster = ⟨none, none, [], false⟩ := by
  constructor
  · intro h
    cases h with
    | unrecognised canonical' => exact ⟨Option.some.inj (canonical'.symm.trans canonical), rfl, rfl⟩
    | single _ recognised => cases endpoint.symm.trans recognised
    | listed _ recognised => cases endpoint.symm.trans recognised
  · rintro ⟨rfl, rfl, rfl⟩
    exact .unrecognised canonical endpoint

theorem files_ingest_of_unlisted (canonical : canonical? host = some asked)
    (endpoint : document.recognises = true) (unlisted : document.clusters.getD [] = [])
    (name : String) (place : Nat) (cluster : Cluster) :
    Files (.ingest host document) name place cluster ↔
      name = asked ∧ place = 0 ∧
        cluster = ⟨canonical? asked, canonical? asked, (canonical? asked).toList, true⟩ := by
  constructor
  · intro h
    cases h with
    | unrecognised _ none => cases endpoint.symm.trans none
    | single canonical' =>
        obtain rfl := Option.some.inj (canonical'.symm.trans canonical)
        exact ⟨rfl, rfl, rfl⟩
    | listed _ _ _ last =>
        rw [unlisted] at last
        exact absurd last not_lastAt_nil
  · rintro ⟨rfl, rfl, rfl⟩
    exact .single canonical endpoint unlisted

theorem files_ingest_of_listed (canonical : canonical? host = some asked)
    (endpoint : document.recognises = true) (listed : document.clusters.getD [] ≠ [])
    (name : String) (place : Nat) (cluster : Cluster) :
    Files (.ingest host document) name place cluster ↔
      (∀ d ∈ document.clusters.getD [], d.Complete) ∧
        ∃ d, LastAt (ClusterDescription.Names name) (document.clusters.getD []) place d ∧
          cluster = d.told := by
  constructor
  · intro h
    cases h with
    | unrecognised _ none => cases endpoint.symm.trans none
    | single _ _ unlisted => exact absurd unlisted listed
    | listed _ _ complete last => exact ⟨complete, _, last, rfl⟩
  · rintro ⟨complete, d, last, rfl⟩
    exact .listed canonical endpoint complete last

end Answer

/-! ## Failing changes -/

/-- An answer's plan files something, a complete cluster having an alias. -/
theorem exists_name_of_answerPlan? {host : String} {document : DiscoveryDocument} {plan : Plan}
    (h : answerPlan? host document = .ok plan) : ∃ step ∈ plan, ∃ name, name ∈ step.1 := by
  obtain ⟨asked, -, ⟨-, rfl⟩ | ⟨-, -, rfl⟩ | ⟨-, listed, complete, rfl⟩⟩ :=
    answerPlan?_eq_ok_iff.1 h
  · exact ⟨_, List.mem_singleton_self _, asked, List.mem_singleton_self asked⟩
  · exact ⟨_, List.mem_singleton_self _, asked, List.mem_singleton_self asked⟩
  · obtain ⟨d, hd⟩ := List.exists_mem_of_ne_nil _ listed
    obtain ⟨hnamed, -⟩ := ClusterDescription.complete_iff.1 (complete d hd)
    obtain ⟨name, hname⟩ := List.exists_mem_of_ne_nil _ hnamed
    exact ⟨_, List.mem_map_of_mem hd, name, hname⟩

theorem exists_name_of_plan? {c : Change} {plan : Plan} (hne : c ≠ .clear)
    (h : c.plan? = .ok plan) : ∃ step ∈ plan, ∃ name, name ∈ step.1 := by
  cases c with
  | ingest host document => exact exists_name_of_answerPlan? h
  | ingestBody host body =>
      simp only [plan?] at h
      cases hd : DiscoveryDocument.ofString? body with
      | error failure => simp [hd, Except.bind] at h
      | ok document =>
          rw [hd] at h
          exact exists_name_of_answerPlan? h
  | update host cluster =>
      simp only [plan?] at h
      cases hc : HostName.canonical? host with
      | none => simp [hc] at h
      | some asked =>
          simp only [hc, Except.ok.injEq] at h
          subst h
          exact ⟨_, List.mem_singleton_self _, asked, List.mem_singleton_self asked⟩
  | clear => exact absurd rfl hne

/-- A change fails exactly when it would file nothing, whatever the directory holds. -/
theorem run?_eq_error_iff (d : Directory) (c : Change) :
    (∃ failure, c.run? d = .error failure) ↔
      c ≠ .clear ∧ ¬∃ name place cluster, c.Files name place cluster := by
  by_cases hc : c = .clear
  · subst hc
    simp [run?]
  rw [run?_eq d hc]
  cases hp : c.plan? with
  | error failure =>
      refine iff_of_true ⟨failure, rfl⟩ ⟨hc, ?_⟩
      rintro ⟨name, place, cluster, files⟩
      obtain ⟨plan, hosts, hplan, -⟩ := files_iff.1 files
      rw [hp] at hplan
      cases hplan
  | ok plan =>
      refine iff_of_false (by simp [Except.map]) ?_
      rintro ⟨-, none⟩
      obtain ⟨step, hstep, name, hname⟩ := exists_name_of_plan? hc hp
      obtain ⟨place, last, hlast⟩ := exists_lastAt (p := fun step => name ∈ step.1)
        ⟨step, hstep, hname⟩
      exact none ⟨name, place, last.2, files_iff.2 ⟨plan, last.1, hp, hlast⟩⟩

end Change

/-! ## One change -/

/-- The directory behind a change, which is the same one where the change fails. -/
def after (d : Directory) (c : Change) : Directory :=
  match c.run? d with
  | .ok changed => changed
  | .error _ => d

theorem after_clear (d : Directory) : d.after .clear = d.clear := rfl

theorem after_of_plan? (d : Directory) {c : Change} {plan : Plan} (hc : c ≠ .clear)
    (h : c.plan? = .ok plan) : d.after c = d.apply plan := by
  rw [after, c.run?_eq d hc, h]
  rfl

theorem after_of_error (d : Directory) {c : Change} {failure : Failure} (hc : c ≠ .clear)
    (h : c.plan? = .error failure) : d.after c = d := by
  rw [after, c.run?_eq d hc, h]
  rfl

/-- A name has the entry that a change files under it, or the one it had if the change does not
concern it. -/
theorem entry?_after (d : Directory) (c : Change) (name : String) (shared : SharedCluster) :
    entry? (d.after c) name = some shared ↔
      (∃ place cluster, c.Files name place cluster ∧ shared = ⟨d.next + place, cluster⟩) ∨
        (¬c.Concerns name ∧ d.entry? name = some shared) := by
  by_cases hc : c = .clear
  · subst hc
    have hnone : ∀ place cluster, ¬Change.Files .clear name place cluster := nofun
    simp [after_clear, clear, entry?, hnone, Change.Concerns]
  cases hp : c.plan? with
  | error failure =>
      have hnone : ∀ place cluster, ¬c.Files name place cluster := by
        intro place cluster files
        obtain ⟨plan, hosts, hplan, -⟩ := Change.files_iff.1 files
        rw [hp] at hplan
        cases hplan
      rw [after_of_error d hc hp]
      simp [hnone, hc, Change.Concerns]
  | ok plan =>
      have hfiles : ∀ place cluster, c.Files name place cluster ↔
          ∃ hosts, LastAt (fun step => name ∈ step.1) plan place (hosts, cluster) := by
        intro place cluster
        rw [Change.files_iff, hp]
        simp
      have hconcerns : (∀ step ∈ plan, name ∉ step.1) ↔ ¬c.Concerns name := by
        constructor
        · rintro hall (h | ⟨place, cluster, files⟩)
          · exact hc h
          · obtain ⟨hosts, last⟩ := (hfiles place cluster).1 files
            exact hall _ last.mem last.holds
        · intro hnot step hstep hname
          obtain ⟨place, last, hlast⟩ := exists_lastAt (p := fun step => name ∈ step.1)
            ⟨step, hstep, hname⟩
          exact hnot (Or.inr ⟨place, last.2, (hfiles place last.2).2 ⟨last.1, hlast⟩⟩)
      rw [after_of_plan? d hc hp, entry?_apply, hconcerns]
      simp only [hfiles]
      refine or_congr_left ⟨?_, ?_⟩
      · rintro ⟨place, step, last, rfl⟩
        exact ⟨place, step.2, ⟨step.1, last⟩, rfl⟩
      · rintro ⟨place, cluster, ⟨hosts, last⟩, rfl⟩
        exact ⟨place, (hosts, cluster), last, rfl⟩

theorem next_le_after (d : Directory) (c : Change) : d.next ≤ (d.after c).next := by
  by_cases hc : c = .clear
  · subst hc
    exact Nat.le_refl d.next
  cases hp : c.plan? with
  | error failure => exact Nat.le_of_eq (by rw [after_of_error d hc hp])
  | ok plan =>
      rw [after_of_plan? d hc hp, next_apply]
      exact Nat.le_add_right d.next plan.length

/-- The numbers that a change gives out are taken behind it. -/
theorem lt_next_after (d : Directory) {c : Change} {name : String} {place : Nat}
    {cluster : Cluster} (h : c.Files name place cluster) :
    d.next + place < (d.after c).next := by
  have hc : c ≠ .clear := by
    rintro rfl
    cases h
  obtain ⟨plan, hosts, hp, last⟩ := Change.files_iff.1 h
  rw [after_of_plan? d hc hp, next_apply]
  exact Nat.add_lt_add_left last.lt_length d.next

/-! ## The history -/

/-- The directory behind all these changes. -/
def afterAll (d : Directory) (changes : List Change) : Directory :=
  changes.foldl after d

theorem afterAll_append (d : Directory) (changes later : List Change) :
    d.afterAll (changes ++ later) = (d.afterAll changes).afterAll later :=
  List.foldl_append

theorem next_le_afterAll (d : Directory) (changes : List Change) :
    d.next ≤ (d.afterAll changes).next := by
  induction changes generalizing d with
  | nil => exact Nat.le_refl d.next
  | cons c changes ih => exact Nat.le_trans (next_le_after d c) (ih (d.after c))

/-- The change at `time` is the last one that concerns a name, and files under it the cluster at `place`
of those that it brings. -/
def Latest (changes : List Change) (name : String) (time place : Nat) (cluster : Cluster) : Prop :=
  ∃ c, LastAt (Change.Concerns name) changes time c ∧ c.Files name place cluster

theorem Latest.lt_length {changes : List Change} {name : String} {time place : Nat}
    {cluster : Cluster} (h : Latest changes name time place cluster) : time < changes.length := by
  obtain ⟨c, hlast, -⟩ := h
  exact hlast.lt_length

/-- The number of the cluster at `place` of those that the change at `time` brings. -/
def numberOf (changes : List Change) (time place : Nat) : Nat :=
  (empty.afterAll (changes.take time)).next + place

theorem latest_append_singleton_iff {changes : List Change} {c : Change} {name : String}
    {time place : Nat} {cluster : Cluster} :
    Latest (changes ++ [c]) name time place cluster ↔
      (time = changes.length ∧ c.Files name place cluster) ∨
        (¬c.Concerns name ∧ Latest changes name time place cluster) := by
  unfold Latest
  simp only [lastAt_append_singleton_iff]
  constructor
  · rintro ⟨other, ⟨htime, rfl, -⟩ | ⟨hnot, hlast⟩, files⟩
    · exact Or.inl ⟨htime, files⟩
    · exact Or.inr ⟨hnot, other, hlast, files⟩
  · rintro (⟨htime, files⟩ | ⟨hnot, other, hlast, files⟩)
    · exact ⟨c, Or.inl ⟨htime, rfl, Or.inr ⟨place, cluster, files⟩⟩, files⟩
    · exact ⟨other, Or.inr ⟨hnot, hlast⟩, files⟩

theorem numberOf_append {changes : List Change} (later : List Change) {time : Nat}
    (h : time ≤ changes.length) (place : Nat) :
    numberOf (changes ++ later) time place = numberOf changes time place := by
  rw [numberOf, List.take_append_of_le_length h, numberOf]

/-- A name has the entry that the last change concerning it has filed. -/
theorem entry?_afterAll (changes : List Change) (name : String) (shared : SharedCluster) :
    entry? (empty.afterAll changes) name = some shared ↔
      ∃ time place cluster, Latest changes name time place cluster ∧
        shared = ⟨numberOf changes time place, cluster⟩ := by
  induction changes using List.reverseRecOn generalizing shared with
  | nil => simp [afterAll, empty, entry?, Latest, not_lastAt_nil]
  | append_singleton changes c ih =>
      have hnow : numberOf (changes ++ [c]) changes.length =
          fun place => (empty.afterAll changes).next + place := by
        funext place
        rw [numberOf_append [c] (Nat.le_refl _), numberOf, List.take_length]
      rw [afterAll_append]
      show entry? ((empty.afterAll changes).after c) name = some shared ↔ _
      rw [entry?_after, ih]
      simp only [latest_append_singleton_iff]
      constructor
      · rintro (⟨place, cluster, files, rfl⟩ | ⟨hnot, time, place, cluster, hlatest, rfl⟩)
        · refine ⟨changes.length, place, cluster, Or.inl ⟨rfl, files⟩, ?_⟩
          rw [hnow]
        · refine ⟨time, place, cluster, Or.inr ⟨hnot, hlatest⟩, ?_⟩
          rw [numberOf_append [c] (Nat.le_of_lt hlatest.lt_length)]
      · rintro ⟨time, place, cluster, ⟨rfl, files⟩ | ⟨hnot, hlatest⟩, rfl⟩
        · refine Or.inl ⟨place, cluster, files, ?_⟩
          rw [hnow]
        · refine Or.inr ⟨hnot, time, place, cluster, hlatest, ?_⟩
          rw [numberOf_append [c] (Nat.le_of_lt hlatest.lt_length)]

/-- Later changes give out greater numbers. -/
theorem numberOf_lt {changes : List Change} {name : String} {time place time' place' : Nat}
    {cluster : Cluster} (h : Latest changes name time place cluster) (hlt : time < time') :
    numberOf changes time place < numberOf changes time' place' := by
  obtain ⟨c, hlast, files⟩ := h
  have htake : changes.take (time + 1) = changes.take time ++ [c] := by
    rw [List.take_add_one, hlast.getElem?_eq]
    rfl
  have hsplit : changes.take time' =
      changes.take (time + 1) ++ (changes.take time').drop (time + 1) := by
    conv_lhs => rw [← List.take_append_drop (time + 1) (changes.take time'), List.take_take,
      Nat.min_eq_left hlt]
  calc numberOf changes time place
      < ((empty.afterAll (changes.take time)).after c).next := lt_next_after _ files
    _ = (empty.afterAll (changes.take (time + 1))).next := by rw [htake, afterAll_append]; rfl
    _ ≤ (empty.afterAll (changes.take time')).next := by
        rw [hsplit, afterAll_append]
        exact next_le_afterAll _ _
    _ ≤ numberOf changes time' place' := Nat.le_add_right _ place'

/-- Every cluster of every change has a number of its own. -/
theorem numberOf_inj {changes : List Change} {name name' : String}
    {time place time' place' : Nat} {cluster cluster' : Cluster}
    (h : Latest changes name time place cluster)
    (h' : Latest changes name' time' place' cluster') :
    numberOf changes time place = numberOf changes time' place' ↔
      time = time' ∧ place = place' := by
  constructor
  · intro e
    rcases Nat.lt_trichotomy time time' with hlt | rfl | hlt
    · exact absurd e (Nat.ne_of_lt (numberOf_lt h hlt))
    · exact ⟨rfl, Nat.add_left_cancel e⟩
    · exact absurd e.symm (Nat.ne_of_lt (numberOf_lt h' hlt))
  · rintro ⟨rfl, rfl⟩
    rfl

/-- Whatever changes a directory goes through, a host has the entry that the last change concerning its
name has filed, and none where that change cleared or there is no such change. Two entries are one
exactly when they are the same cluster of the same change. A change fails exactly when it files nothing
and does not clear. An answer files the host that was asked for as not recognised, or as a cluster by
itself, or each alias under the last of the listed clusters that has it, if all of these are complete. A
cluster by itself is not known by the name that it is filed under where the comparison would change this
name again. -/
theorem get?_afterAll (changes : List Change) :
    let d := empty.afterAll changes
    (∀ host shared, d.get? host = some shared ↔
      ∃ name time place cluster, canonical? host = some name ∧
        Latest changes name time place cluster ∧
        shared = ⟨numberOf changes time place, cluster⟩) ∧
    (∀ {name name' : String} {time place time' place' : Nat} {cluster cluster' : Cluster},
      Latest changes name time place cluster → Latest changes name' time' place' cluster' →
        (numberOf changes time place = numberOf changes time' place' ↔
          time = time' ∧ place = place')) ∧
    (∀ c : Change, (∃ failure, c.run? d = .error failure) ↔
      c ≠ .clear ∧ ¬∃ name place cluster, c.Files name place cluster) ∧
    ∀ (host asked : String) (document : DiscoveryDocument), canonical? host = some asked →
      ((∀ endpoint, document.tenantEndpoint = some endpoint → Text.blank endpoint = true) →
        ∀ name place cluster, Change.Files (.ingest host document) name place cluster ↔
          name = asked ∧ place = 0 ∧ cluster = ⟨none, none, [], false⟩) ∧
      ∀ endpoint, document.tenantEndpoint = some endpoint → Text.blank endpoint = false →
        (document.clusters.getD [] = [] →
          ∃ own : Cluster, (∀ name place cluster,
              Change.Files (.ingest host document) name place cluster ↔
                name = asked ∧ place = 0 ∧ cluster = own) ∧
            own = ⟨canonical? asked, canonical? asked, (canonical? asked).toList, true⟩ ∧
            (own = ⟨some asked, some asked, [asked], true⟩ ↔ canonical? asked = some asked)) ∧
        (document.clusters.getD [] ≠ [] →
          ∀ name place cluster, Change.Files (.ingest host document) name place cluster ↔
            (∀ d ∈ document.clusters.getD [], d.Complete) ∧
              ∃ d, LastAt (ClusterDescription.Names name) (document.clusters.getD []) place d ∧
                cluster = d.told) := by
  intro d
  refine ⟨fun host shared => ?_, numberOf_inj, Change.run?_eq_error_iff d,
    fun host asked document canonical => ⟨fun blank => Change.files_ingest_of_unrecognised canonical
      (DiscoveryDocument.not_recognises_of_blank blank), fun endpoint hendpoint hnamed => ?_⟩⟩
  · unfold get?
    cases canonical? host with
    | none => simp
    | some name =>
        simp only [Option.bind_some, Option.some.injEq, exists_and_left, exists_eq_left']
        exact entry?_afterAll changes name shared
  · have recognised := DiscoveryDocument.recognises_iff.2 ⟨endpoint, hendpoint, hnamed⟩
    refine ⟨fun unlisted => ⟨_, Change.files_ingest_of_unlisted canonical recognised unlisted, rfl, ?_⟩,
      Change.files_ingest_of_listed canonical recognised⟩
    constructor
    · exact fun h => congrArg Cluster.preferredNetwork h
    · intro settled
      rw [settled]
      rfl

/-- A host of a cluster that lost another host to a later one, and a host that became a cluster by
itself. -/
theorem get?_afterAll_of_overlap :
    let listing (hosts : List String) : DiscoveryDocument :=
      ⟨some "e", some [⟨"a", "a", hosts⟩], none, none, none⟩
    let changes : List Change :=
      [.ingest "a" (listing ["a", "b"]), .ingest "b" (listing ["b", "c"])]
    (∃ time place cluster time' place' cluster',
      Latest changes "a" time place cluster ∧ Latest changes "b" time' place' cluster' ∧
        ¬(time = time' ∧ place = place')) ∧
      Change.Files (.ingest "D." ⟨some "e", none, none, none, none⟩) "d" 0
        ⟨some "d", some "d", ["d"], true⟩ := by
  intro listing changes
  obtain ⟨history, shared_iff, -, answers⟩ := get?_afterAll changes
  have ha : (empty.afterAll changes).get? "a" =
      some ⟨0, Cluster.ofHosts "a" "a" ["a", "b"]⟩ := by decide +kernel
  have hb : (empty.afterAll changes).get? "b" =
      some ⟨1, Cluster.ofHosts "a" "a" ["b", "c"]⟩ := by decide +kernel
  obtain ⟨name, time, place, cluster, hname, hlast, hshared⟩ := (history "a" _).1 ha
  obtain ⟨name', time', place', cluster', hname', hlast', hshared'⟩ := (history "b" _).1 hb
  have hna : canonical? "a" = some "a" := by decide +kernel
  have hnb : canonical? "b" = some "b" := by decide +kernel
  obtain rfl : name = "a" := Option.some.inj (hname.symm.trans hna)
  obtain rfl : name' = "b" := Option.some.inj (hname'.symm.trans hnb)
  refine ⟨⟨time, place, cluster, time', place', cluster', hlast, hlast', fun same => ?_⟩, ?_⟩
  · have hnumber := (shared_iff hlast hlast').2 same
    have hzero : 0 = numberOf changes time place := congrArg SharedCluster.number hshared
    have hone : 1 = numberOf changes time' place' := congrArg SharedCluster.number hshared'
    omega
  · obtain ⟨-, named⟩ := answers "D." "d" ⟨some "e", none, none, none, none⟩ (by decide +kernel)
    obtain ⟨own, files, -, known_iff⟩ := (named "e" rfl (by decide)).1 rfl
    exact (files "d" 0 _).2 ⟨rfl, rfl, (known_iff.2 (by decide +kernel)).symm⟩

/-- A cluster by itself that has neither an alias nor preferred hosts. -/
theorem get?_after_of_spaced_dots :
    let document : DiscoveryDocument := ⟨some "e", none, none, none, none⟩
    canonical? ". ." = some ". " ∧ Text.blank "e" = false ∧ document.clusters.getD [] = [] ∧
      get? (empty.after (.ingest ". ." document)) ". ." = some ⟨0, ⟨none, none, [], true⟩⟩ := by
  decide +kernel

end Directory
end RealmTokens
