/-
What an answer about a host leaves in the directory.

Filing takes no name out of a directory, so whoever has an entry goes on having one.  Main statement: an
answer about a host without an entry is refused and leaves the directory as it is, or files this host
alone as not recognised, or ends with a validated entry of the host, every cluster it lists being
complete.
-/
import RealmTokens.Cluster.Validation
import RealmTokens.Proofs.Cluster.History

namespace RealmTokens

namespace Directory

open HostName (canonical?)

/-! ## Names keep having entries -/

/-- Every name that has an entry still has one later. -/
def Keeps (d later : Directory) : Prop :=
  ∀ name, (d.entry? name).isSome = true → (later.entry? name).isSome = true

theorem Keeps.refl (d : Directory) : d.Keeps d := fun _ h => h

theorem Keeps.trans {d middle later : Directory} (h : d.Keeps middle) (h' : middle.Keeps later) :
    d.Keeps later := fun name hname => h' name (h name hname)

theorem Keeps.contains {d later : Directory} (h : d.Keeps later) {host : String}
    (hd : d.contains host = true) : later.contains host = true := by
  unfold Directory.contains get? at *
  cases hname : canonical? host with
  | none => simp [hname] at hd
  | some name =>
      rw [hname] at hd
      exact h name hd

theorem keeps_file (d : Directory) (hosts : List String) (cluster : Cluster) :
    d.Keeps (d.file hosts cluster) := by
  intro name h
  rw [entry?_file]
  split
  · rfl
  · exact h

theorem keeps_apply (d : Directory) (plan : Plan) : d.Keeps (d.apply plan) := by
  induction plan using List.reverseRecOn with
  | nil => exact Keeps.refl d
  | append_singleton plan step ih =>
      rw [apply_append_singleton]
      exact ih.trans (keeps_file _ step.1 step.2)

theorem keeps_ingest? {d later : Directory} {host : String} {document : DiscoveryDocument}
    (h : d.ingest? host document = .ok later) : d.Keeps later := by
  rw [Change.ingest?_eq] at h
  cases hplan : Change.answerPlan? host document with
  | error failure =>
      rw [hplan] at h
      cases h
  | ok plan =>
      rw [hplan] at h
      cases h
      exact keeps_apply d plan

theorem update?_eq_ok_iff {d later : Directory} {host : String} {cluster : Cluster} :
    d.update? host cluster = .ok later ↔
      ∃ name, canonical? host = some name ∧ later = d.file [name] cluster := by
  unfold update?
  cases canonical? host <;> simp [eq_comm (a := later)]

theorem keeps_complete? {d later : Directory} {host : String}
    (h : Validator.complete? d host = .ok later) : d.Keeps later := by
  unfold Validator.complete? at h
  split at h
  · cases h
    exact Keeps.refl d
  · obtain ⟨name, -, rfl⟩ := update?_eq_ok_iff.1 h
    exact keeps_file d [name] _

/-! ## Lookups behind a filing -/

theorem get?_of_canonical? {host name : String} (canonical : canonical? host = some name)
    (d : Directory) : d.get? host = d.entry? name := by
  rw [get?, canonical, Option.bind_some]

theorem get?_file_self {host name : String} (canonical : canonical? host = some name)
    (d : Directory) (cluster : Cluster) :
    (d.file [name] cluster).get? host = some ⟨d.next, cluster⟩ := by
  rw [get?_of_canonical? canonical, entry?_file, if_pos (List.mem_singleton_self name)]

theorem contains_of_complete? {d later : Directory} {host : String}
    (h : Validator.complete? d host = .ok later) : later.contains host = true := by
  unfold Validator.complete? at h
  split at h
  case isTrue found =>
    cases h
    exact found
  case isFalse =>
    obtain ⟨name, canonical, rfl⟩ := update?_eq_ok_iff.1 h
    rw [Directory.contains, get?_file_self canonical]
    rfl

/-- A host without an entry gets one only from the plan that is applied. -/
theorem exists_step_of_get?_apply {d : Directory} {plan : Plan} {host : String}
    {shared : SharedCluster} (unknown : d.get? host = none)
    (h : (d.apply plan).get? host = some shared) : ∃ step ∈ plan, shared.cluster = step.2 := by
  obtain ⟨name, canonical, hentry⟩ := Option.bind_eq_some_iff.1 h
  rw [get?_of_canonical? canonical] at unknown
  rcases (entry?_apply d plan name shared).1 hentry with ⟨place, step, last, rfl⟩ | ⟨-, hold⟩
  · exact ⟨step, last.mem, rfl⟩
  · rw [unknown] at hold
    cases hold

end Directory

namespace Validator

open Directory (Change)
open HostName (canonical?)

/-! ## Plans of answers that recognise a host -/

section Plan

variable {host : String} {document : DiscoveryDocument} {plan : Directory.Plan}

theorem validated_of_answerPlan? (h : Change.answerPlan? host document = .ok plan)
    (endpoint : document.recognises = true) : ∀ step ∈ plan, step.2.validated = true := by
  obtain ⟨asked, -, ⟨none, -⟩ | ⟨-, -, rfl⟩ | ⟨-, -, -, rfl⟩⟩ := Change.answerPlan?_eq_ok_iff.1 h
  · rw [endpoint] at none
    cases none
  · intro step hstep
    obtain rfl := List.mem_singleton.1 hstep
    rfl
  · intro step hstep
    obtain ⟨description, -, rfl⟩ := List.mem_map.1 hstep
    rfl

theorem complete_of_answerPlan? (h : Change.answerPlan? host document = .ok plan)
    (endpoint : document.recognises = true) :
    ∀ description ∈ document.clusters.getD [], description.Complete := by
  obtain ⟨asked, -, ⟨none, -⟩ | ⟨-, unlisted, -⟩ | ⟨-, -, complete, -⟩⟩ :=
    Change.answerPlan?_eq_ok_iff.1 h
  · rw [endpoint] at none
    cases none
  · rw [unlisted]
    exact fun _ hmem => absurd hmem List.not_mem_nil
  · exact complete

end Plan

/-! ## Settling -/

/-- How an answer about a host is settled: the result, and the directory it leaves. -/
inductive Settles (authority : Url) (host : String) (d : Directory) (document : DiscoveryDocument) :
    Outcome → Prop
  | refused {failure : Failure} (refuses : d.ingest? host document = .error failure) :
      Settles authority host d document ⟨.error failure, d⟩
  | unrecognised {name : String} (canonical : canonical? host = some name)
      (endpoint : document.recognises = false) :
      Settles authority host d document
        ⟨.error (.authority authority.render .unrecognised), d.file [name] Cluster.unrecognised⟩
  | recognised {shared : SharedCluster} {later : Directory} (endpoint : document.recognises = true)
      (complete : ∀ description ∈ document.clusters.getD [], description.Complete)
      (validated : shared.cluster.validated = true) (filed : later.get? host = some shared) :
      Settles authority host d document ⟨.ok shared, later⟩

theorem conclude_of_validated {authority : Url} {host : String} {d : Directory}
    {shared : SharedCluster} (h : d.get? host = some shared)
    (validated : shared.cluster.validated = true) : conclude authority host d = .ok shared := by
  rw [conclude, h]
  exact if_pos validated

theorem settle_of_recognises {authority : Url} {host : String} {d : Directory}
    {document : DiscoveryDocument} {plan : Directory.Plan} (unknown : d.get? host = none)
    (h : Change.answerPlan? host document = .ok plan) (endpoint : document.recognises = true) :
    ∃ shared later, settle authority host d (.ok document) = ⟨.ok shared, later⟩ ∧
      shared.cluster.validated = true ∧ later.get? host = some shared := by
  have hingest : d.ingest? host document = .ok (d.apply plan) := by
    rw [Change.ingest?_eq, h]
    rfl
  obtain ⟨name, canonical, -⟩ := Change.answerPlan?_eq_ok_iff.1 h
  cases hget : (d.apply plan).get? host with
  | some shared =>
      obtain ⟨step, hstep, hshared⟩ := Directory.exists_step_of_get?_apply unknown hget
      have validated : shared.cluster.validated = true := by
        rw [hshared]
        exact validated_of_answerPlan? h endpoint step hstep
      have hcomplete : complete? (d.apply plan) host = .ok (d.apply plan) := by
        rw [complete?, Directory.contains, hget]
        rfl
      refine ⟨shared, d.apply plan, ?_, validated, hget⟩
      simp only [settle, hingest, hcomplete, conclude_of_validated hget validated]
  | none =>
      -- The answer lists clusters, and none of them has the host.
      have hcomplete : complete? (d.apply plan) host =
          .ok ((d.apply plan).file [name] (Cluster.single host)) := by
        rw [complete?, Directory.contains, hget, Directory.update?, canonical]
        rfl
      have hfiled := Directory.get?_file_self canonical (d.apply plan) (Cluster.single host)
      refine ⟨_, _, ?_, rfl, hfiled⟩
      simp only [settle, hingest, hcomplete]
      rw [conclude_of_validated hfiled rfl]

theorem settle_of_not_recognises {authority : Url} {host name : String} {d : Directory}
    {document : DiscoveryDocument} (canonical : canonical? host = some name)
    (endpoint : document.recognises = false) :
    settle authority host d (.ok document) =
      ⟨.error (.authority authority.render .unrecognised), d.file [name] Cluster.unrecognised⟩ := by
  have hplan := Change.answerPlan?_eq_ok_iff.2 ⟨name, canonical, Or.inl ⟨endpoint, rfl⟩⟩
  have hingest : d.ingest? host document = .ok (d.file [name] Cluster.unrecognised) := by
    rw [Change.ingest?_eq, hplan]
    rfl
  have hfiled := Directory.get?_file_self canonical d Cluster.unrecognised
  have hcomplete : complete? (d.file [name] Cluster.unrecognised) host =
      .ok (d.file [name] Cluster.unrecognised) := by
    rw [complete?, Directory.contains, hfiled]
    rfl
  simp only [settle, hingest, hcomplete, conclude, hfiled]
  rfl

/-- An answer about a host without an entry is settled in one of three ways. -/
theorem settles_settle {authority : Url} {host : String} {d : Directory} (unknown : d.get? host = none)
    (document : DiscoveryDocument) :
    Settles authority host d document (settle authority host d (.ok document)) := by
  cases hplan : Change.answerPlan? host document with
  | error failure =>
      have hingest : d.ingest? host document = .error failure := by
        rw [Change.ingest?_eq, hplan]
        rfl
      have hsettle : settle authority host d (.ok document) = ⟨.error failure, d⟩ := by
        simp only [settle, hingest]
      rw [hsettle]
      exact .refused hingest
  | ok plan =>
      cases endpoint : document.recognises with
      | false =>
          obtain ⟨name, canonical, -⟩ := Change.answerPlan?_eq_ok_iff.1 hplan
          rw [settle_of_not_recognises canonical endpoint]
          exact .unrecognised canonical endpoint
      | true =>
          obtain ⟨shared, later, hsettle, validated, filed⟩ :=
            settle_of_recognises unknown hplan endpoint
          rw [hsettle]
          exact .recognised endpoint (complete_of_answerPlan? hplan endpoint) validated filed

end Validator
end RealmTokens
