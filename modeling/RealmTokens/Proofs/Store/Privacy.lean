/-
Who may read a snapshot.

A snapshot takes over the permission bits of its staging file, which is created for its owner alone
unless it is there already.  The mask of a process takes bits from others only, who have none here.  Main
statements: a snapshot that is saved has the bits of the staging file that was in the way, and is private
if there was none.  A store leaves no staging file that others may read, so its snapshots are private
through uses, cuts and restarts, unless somebody else's staging file was there at first.
-/
import RealmTokens.Proofs.Disk.Bits
import RealmTokens.Proofs.Store.CrashAtomicity
import RealmTokens.Proofs.Store.Neighbours
import RealmTokens.Proofs.Store.Writable

namespace RealmTokens
namespace Snapshot

open Disk (Call Guarded Hazard Location performAll)

/-- The bits of a snapshot that is saved now: those of the staging file, if there is one. -/
def stagedMode (disk : Disk) (path : String) : Nat :=
  (disk.modeOf (stagingPath path)).toOption.getD privateMode

/-- Whether a path leads to no file but one for its owner alone. -/
def IsPrivate (disk : Disk) (path : String) : Prop :=
  disk.HasBits (disk.Leads path) privateMode

theorem isPrivate_of_none {disk : Disk} {path : String} (target : Disk.Target)
    (hfind : disk.find path = .ok target) (hnone : disk.node? target.place = none) :
    IsPrivate disk path := by
  intro place content mode hleads hnode
  rw [Disk.leads_unique hleads ⟨target, hfind, rfl⟩, hnone] at hnode
  cases hnode

/-! ## Bits of a snapshot that is saved -/

theorem stagedMode_of_none {disk : Disk} {path : String} {target : Disk.Target}
    (h : Disk.Free disk (stagingPath path) target) (hnone : disk.node? target.place = none) :
    stagedMode disk path = privateMode := by
  rw [stagedMode, h.modeOf_eq, hnone]
  rfl

theorem stagedMode_of_file {disk : Disk} {path : String} {target : Disk.Target}
    (h : Disk.Free disk (stagingPath path) target) {content : List UInt8} {mode : Nat}
    (hfile : disk.node? target.place = some (.file content mode)) :
    stagedMode disk path = mode := by
  rw [stagedMode, h.modeOf_eq, hfile]
  rfl

theorem guarded_of_create {disk created : Disk} {path : String}
    (h : disk.create (stagingPath path) privateMode = .ok created) :
    Guarded (disk.Leads (stagingPath path)) (stagedMode disk path) disk created := by
  obtain ⟨target, hfree, -⟩ := Disk.free_of_create h
  obtain ⟨target', kept, hfind, hnot, hkept, rfl⟩ := Disk.create_eq_ok h
  rw [hfree.find_eq] at hfind
  cases hfind
  have hmode : stagedMode disk path = kept := by
    rcases hkept with ⟨hnone, rfl⟩ | ⟨content, hfile⟩
    · exact stagedMode_of_none hfree hnone
    · exact stagedMode_of_file hfree hfile
  refine ⟨(Disk.sameBut_put hnot _ _).sameFolders, ?_⟩
  intro place content mode hleads hnode
  rw [Disk.leads_unique hleads ⟨target, hfree.find_eq, rfl⟩, Disk.node?_put_self hnot] at hnode
  cases hnode
  exact hmode.symm

/-- The staging file is written and put to the disk with the bits that it has from the start. -/
theorem guarded_of_staged {hazard : Hazard} {disk staged : Disk} {path : String} {entries : Entries}
    (h : performAll hazard disk (staging path entries) = (.ok (), staged)) :
    Guarded (disk.Leads (stagingPath path)) (stagedMode disk path) disk staged := by
  obtain ⟨created, hcreate, hlater⟩ := performAll_cons_ok h
  have hcreated : disk.create (stagingPath path) privateMode = .ok created := hcreate
  have hfits : ∀ call ∈ [Call.append (stagingPath path) (bytes entries), .sync (stagingPath path)],
      call.Fits disk (disk.Leads (stagingPath path)) (stagedMode disk path) := by
    simp only [List.forall_mem_cons, Call.Fits]
    exact ⟨trivial, trivial, fun _ h => nomatch h⟩
  have hstaged := (guarded_of_create hcreated).of_performAll hfits hazard
  rw [hlater] at hstaged
  exact hstaged

theorem modeOf_of_save_ok {path : String} (hpath : (Disk.fileName? path).isSome = true)
    {hazard : Hazard} {disk after : Disk} {entries : Entries}
    (h : save hazard disk path entries = (.ok (), after)) :
    after.modeOf path = .ok (stagedMode disk path) := by
  obtain ⟨staged, hstaged, hrename⟩ := rename_of_save_ok h
  have hguarded := guarded_of_staged hstaged
  obtain ⟨target, found, hfind, hfile, hmode⟩ := Disk.read_eq_ok (read_of_save_ok hpath h)
  obtain ⟨old, new, content, mode, hold, hnew, hnode, -, -, -, hafter⟩ :=
    Disk.rename_eq_ok hrename
  have hbits : mode = stagedMode disk path :=
    hguarded.has_bits old.place content mode
      ((hguarded.folders.leads_iff _ _).1 ⟨old, hold, rfl⟩) hnode
  -- The path leads to the place that the staging file was brought to.
  have hfolders : Disk.SameFolders staged after := by
    have hsaved := within_save hazard disk path entries
    rw [h] at hsaved
    exact hguarded.folders.symm.trans hsaved.folders
  have hplace : target.place = new.place :=
    Disk.leads_unique ⟨target, hfind, rfl⟩ ((hfolders.leads_iff _ _).2 ⟨new, hnew, rfl⟩)
  rw [hplace, hafter, Disk.node?_put, if_pos rfl] at hfile
  split at hfile
  · cases hfile
  · cases hfile
    rw [hmode, hbits]

/-- They are the private ones exactly when no other file is in the way. -/
theorem stagedMode_eq_iff {hazard : Hazard} {disk after : Disk} {path : String} {entries : Entries}
    (h : save hazard disk path entries = (.ok (), after)) :
    stagedMode disk path = privateMode ↔ IsPrivate disk (stagingPath path) := by
  obtain ⟨target, -, hfree, -⟩ := writable_of_save_ok h
  have hiff : IsPrivate disk (stagingPath path) ↔
      ∀ content mode, disk.node? target.place = some (.file content mode) → mode = privateMode := by
    constructor
    · exact fun hprivate content mode => hprivate _ content mode ⟨target, hfree.find_eq, rfl⟩
    · intro hfile place content mode hleads hnode
      rw [Disk.leads_unique hleads ⟨target, hfree.find_eq, rfl⟩] at hnode
      exact hfile content mode hnode
  rw [hiff]
  rcases hfree.node?_cases with hnone | ⟨content, mode, hfile⟩
  · rw [stagedMode_of_none hfree hnone, hnone]
    simp
  · rw [stagedMode_of_file hfree hfile, hfile]
    simp

theorem isPrivate_of_save_ok {path : String} (hpath : (Disk.fileName? path).isSome = true)
    {hazard : Hazard} {disk after : Disk} {entries : Entries}
    (h : save hazard disk path entries = (.ok (), after)) : IsPrivate after (stagingPath path) := by
  intro place content mode hleads hnode
  have hsaved := within_save hazard disk path entries
  rw [h] at hsaved
  rw [node?_staging_of_save_ok hpath h ((hsaved.folders.leads_iff _ _).1 hleads)] at hnode
  cases hnode

/-! ## Bits that a process leaves behind -/

variable {reach : Location → Prop} {start disk last : Disk} {path : String}

theorem fits_of_mem_calls (hreach : ∀ place, start.Leads (stagingPath path) place → reach place)
    (entries : Entries) : ∀ call ∈ calls path entries, call.Fits start reach privateMode := by
  intro call hcall
  simp only [calls, List.mem_cons, List.not_mem_nil, or_false] at hcall
  rcases hcall with rfl | rfl | rfl | rfl
  · rfl
  · trivial
  · trivial
  · exact hreach

theorem guarded_of_cutOff_calls {bits : Nat} {hazard : Hazard} {calls : List Call}
    (h : Disk.CutOff hazard disk calls last) (hguarded : Guarded reach bits start disk)
    (hfits : ∀ call ∈ calls, call.Fits start reach bits) : Guarded reach bits start last := by
  induction h with
  | before => exact hguarded
  | inside disk call rest written => exact hguarded.of_remains written call
  | @later disk next last call rest hperform _ ih =>
      have hfirst := hguarded.of_perform (hfits call List.mem_cons_self) hazard
      rw [hperform] at hfirst
      exact ih hfirst (fun other hother => hfits other (List.mem_cons_of_mem call hother))
  | @failed disk last call fault hperform rest =>
      have hfirst := hguarded.of_perform (hfits call List.mem_cons_self) hazard
      rw [hperform] at hfirst
      exact hfirst

/-- Wherever a save is cut off, the files in reach are private as they were. -/
theorem guarded_of_cutOff {hazard : Hazard} {entries : Entries}
    (h : CutOff hazard disk path entries last) (hguarded : Guarded reach privateMode start disk)
    (hreach : ∀ place, start.Leads (stagingPath path) place → reach place) :
    Guarded reach privateMode start last := by
  have hfits := fits_of_mem_calls hreach entries
  rcases h with h | ⟨fault, stopped, hstopped, h⟩
  · exact guarded_of_cutOff_calls h hguarded hfits
  · have hmid := hguarded.of_performAll hfits hazard
    rw [hstopped] at hmid
    refine guarded_of_cutOff_calls h hmid (fun call hcall => ?_)
    rw [List.mem_singleton.1 hcall]
    trivial

end Snapshot

namespace Store

open Disk (Guarded Location)
open Snapshot (IsPrivate privateMode stagedMode stagingPath)
open Token (Entry)

section

variable {reach : Location → Prop} {start disk : Disk} {path : String}

theorem guarded_run (h : Guarded reach privateMode start disk)
    (hreach : ∀ place, start.Leads (stagingPath path) place → reach place) (operation : Operation)
    (hazard : Hazard) (entries : Entries) :
    Guarded reach privateMode start (operation.run hazard (.file path entries) disk).disk := by
  cases operation with
  | mutate m => exact Snapshot.guarded_of_cutOff (m.cutOff_run hazard path entries disk) h hreach
  | clearTokensForUser userId =>
      refine disk_eraseAll (fun shown now key hazard hnow => ?_) entries h hazard _
      exact Snapshot.guarded_of_cutOff ((Mutation.erase key).cutOff_run hazard path shown now) hnow
        hreach

theorem Lifetime.guarded {first : Store} {found : Except Failure Store}
    (hopen : openFile start path = .ok first) (h : Lifetime alone path start found disk)
    (hbits : start.HasBits reach privateMode)
    (hreach : ∀ place, start.Leads (stagingPath path) place → reach place) :
    Guarded reach privateMode start disk := by
  induction h with
  | opened => exact ⟨.refl start, hbits⟩
  | @used s disk hlife operation hazard ih =>
      obtain ⟨t, entries, ht, hlive⟩ := hlife.live_alone hopen
      cases ht
      rw [hlive.store_eq]
      exact guarded_run ih hreach operation hazard s.entries
  | @cut s disk last hlife m hazard hcut ih => exact Snapshot.guarded_of_cutOff hcut ih hreach
  | meanwhile _ hnext => cases hnext

theorem Lifetime.isPrivate {first : Store} {found : Except Failure Store}
    (hopen : openFile start path = .ok first) (h : Lifetime alone path start found disk)
    (hstaging : IsPrivate start (stagingPath path)) : IsPrivate disk (stagingPath path) := by
  have hguarded := h.guarded hopen hstaging (fun _ hleads => hleads)
  intro place content mode hleads hnode
  exact hguarded.has_bits place content mode ((hguarded.folders.leads_iff _ _).1 hleads) hnode

/-- A snapshot that was private stays so all the time. -/
theorem Lifetime.isPrivate_path {first : Store} {found : Except Failure Store}
    (hopen : openFile start path = .ok first) (h : Lifetime alone path start found disk)
    (hstaging : IsPrivate start (stagingPath path)) (hpath : IsPrivate start path) :
    IsPrivate disk path := by
  have hbits : start.HasBits (Snapshot.Reaches start path) privateMode := by
    rintro place content mode (hleads | hleads)
    · exact hpath place content mode hleads
    · exact hstaging place content mode hleads
  have hguarded := h.guarded hopen hbits (fun _ hleads => Or.inr hleads)
  intro place content mode hleads hnode
  exact hguarded.has_bits place content mode
    (Or.inl ((hguarded.folders.leads_iff _ _).1 hleads)) hnode

end

/-! ## Main statement -/

theorem modeOf_of_run_ok {path : String} {entries : Entries} {disk : Disk} {m : Mutation}
    {hazard : Hazard} (hpath : (Disk.fileName? path).isSome = true)
    (hok : (m.run hazard (.file path entries) disk).result = .ok ()) :
    let after := (m.run hazard (.file path entries) disk).disk
    after.modeOf path = .ok (stagedMode disk path) ∧
      (after.modeOf path = .ok privateMode ↔ IsPrivate disk (stagingPath path)) ∧
      IsPrivate after (stagingPath path) := by
  have hsave := save_eq_of_run m hazard path entries disk
  rw [hok] at hsave
  have hmode := Snapshot.modeOf_of_save_ok hpath hsave
  refine ⟨hmode, ?_, Snapshot.isPrivate_of_save_ok hpath hsave⟩
  rw [← Snapshot.stagedMode_eq_iff hsave, hmode, Except.ok.injEq]

/-- Behind a change that succeeds the snapshot has the bits of the staging file that was in the way, so it
is private exactly when no other one was, and none is in the way of the next.  A store that began without
one meets only its own: whatever it was cut off in, its snapshots are private, and one that was private
at first is so at any time. -/
theorem snapshot_private_iff (path : String) (disk : Disk) :
    (∀ (entries : Entries) (m : Mutation) (hazard : Hazard),
      (Disk.fileName? path).isSome = true →
        let outcome := m.run hazard (.file path entries) disk
        outcome.result = .ok () →
          outcome.disk.modeOf path = .ok (stagedMode disk path) ∧
          (outcome.disk.modeOf path = .ok privateMode ↔ IsPrivate disk (stagingPath path)) ∧
          IsPrivate outcome.disk (stagingPath path)) ∧
    ∀ (start : Disk) (first : Store) (found : Except Failure Store),
      openFile start path = .ok first → Lifetime alone path start found disk →
        IsPrivate start (stagingPath path) →
          (IsPrivate start path → IsPrivate disk path) ∧
          ∃ s, found = .ok s ∧ ∀ (m : Mutation) (hazard : Hazard),
            let outcome := m.run hazard s disk
            outcome.result = .ok () → outcome.disk.modeOf path = .ok privateMode := by
  refine ⟨fun entries m hazard hpath => modeOf_of_run_ok hpath,
    fun start first found hopen hlife hstaging => ?_⟩
  obtain ⟨s, entries, hs, hlive⟩ := hlife.live_alone hopen
  refine ⟨hlife.isPrivate_path hopen hstaging, s, hs, fun m hazard => ?_⟩
  rw [hlive.store_eq]
  intro outcome hok
  exact (modeOf_of_run_ok hlive.named hok).2.1.2 (hlife.isPrivate hopen hstaging)

/-- A private snapshot takes the place of one that everybody could read.  Another one follows on a change
that failed behind its first byte and could not remove its staging file. -/
theorem snapshot_private_iff_of_first_byte :
    let stuck : Disk.Hazard := fun _ call =>
      match call with
      | .append _ _ => some ⟨.noSpace, 1⟩
      | .remove _ => some ⟨.noSpace, 0⟩
      | _ => none
    let opened : Store := .file "tokens" Entries.empty
    let readable : Disk := ⟨[(["tokens"], .file (Snapshot.bytes Entries.empty) 0o644)]⟩
    let replaced := Mutation.clear.run Disk.calm opened readable
    let torn := (Mutation.clear.run stuck opened Disk.empty).disk
    let second := Mutation.clear.run Disk.calm opened torn
    replaced.result = .ok () ∧ IsPrivate readable "tokens.tmp" ∧
      replaced.disk.modeOf "tokens" = .ok privateMode ∧
      torn.read "tokens.tmp" = .ok [0x7b] ∧ second.result = .ok () ∧
      second.disk.modeOf "tokens" = .ok privateMode := by
  intro stuck opened readable replaced torn second
  have hopen : openFile Disk.empty "tokens" = .ok opened := rfl
  have hfirst : Lifetime alone "tokens" Disk.empty (.ok opened) Disk.empty := by
    rw [← hopen]
    exact .opened
  have hlife : Lifetime alone "tokens" Disk.empty (.ok opened) torn :=
    hfirst.used (.mutate .clear) stuck
  have hreplaced : replaced.result = .ok () := by decide +kernel
  have hsecond : second.result = .ok () := by decide +kernel
  have hreadable : IsPrivate readable "tokens.tmp" :=
    Snapshot.isPrivate_of_none ⟨["tokens.tmp"], "tokens.tmp", false⟩ rfl rfl
  have hempty : IsPrivate Disk.empty "tokens.tmp" :=
    Snapshot.isPrivate_of_none ⟨["tokens.tmp"], "tokens.tmp", false⟩ rfl rfl
  have hchanged := ((snapshot_private_iff "tokens" readable).1 Entries.empty .clear Disk.calm rfl
    hreplaced).2.1
  obtain ⟨-, s, hs, hprivate⟩ := (snapshot_private_iff "tokens" torn).2 _ _ _ hopen hlife hempty
  cases hs
  exact ⟨hreplaced, hreadable, hchanged.2 hreadable, by decide +kernel, hsecond,
    hprivate .clear Disk.calm hsecond⟩

/-- A staging file that everybody can read is taken for the snapshot, even where that was private. -/
theorem not_snapshot_private :
    let foreign : Disk := ⟨[(["tokens.tmp"], .file [0x78] 0o644),
      (["tokens"], .file (Snapshot.bytes Entries.empty) privateMode)]⟩
    let cleared := Mutation.clear.run Disk.calm (.file "tokens" Entries.empty) foreign
    foreign.modeOf "tokens" = .ok privateMode ∧ cleared.result = .ok () ∧
      cleared.disk.modeOf "tokens" = .ok 0o644 ∧ 0o644 ≠ privateMode := by
  decide +kernel

end Store
end RealmTokens
