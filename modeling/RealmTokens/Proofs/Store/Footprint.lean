/-
The footprint of a save.

A save writes to the place of the snapshot and to that of the staging file beside it.  Main statements:
every other place stays as it is, only the staging file is touched when the save fails, and no staging
file is left unless its removal is prevented.
-/
import RealmTokens.Proofs.Disk.Free
import RealmTokens.Proofs.Store.Saving
import RealmTokens.Store.Basic

namespace RealmTokens
namespace Snapshot

open Disk (Hazard Location SameFolders Within perform performAll)

/-- The places that a save may write to: the snapshot's and that of its staging file. -/
def Reaches (disk : Disk) (path : String) (place : Location) : Prop :=
  disk.Leads path place ∨ disk.Leads (stagingPath path) place

theorem reaches_iff {a b : Disk} (h : SameFolders a b) (path : String) (place : Location) :
    Reaches b path place ↔ Reaches a path place := by
  rw [Reaches, Reaches, h.leads_iff, h.leads_iff]

/-! ## Saving -/

theorem within_staging (hazard : Hazard) (disk : Disk) (path : String) (entries : Entries) :
    Within (disk.Leads (stagingPath path)) disk
      (performAll hazard disk (staging path entries)).2 := by
  refine Disk.within_performAll (fun call hcall other hother place hleads => ?_) hazard
  rw [Disk.Call.paths_of_isOn (isOn_of_mem_staging path entries call hcall),
    List.mem_singleton] at hother
  exact hother ▸ hleads

theorem within_cleanup (hazard : Hazard) (disk : Disk) (path : String) :
    Within (disk.Leads (stagingPath path)) disk
      (perform hazard disk (.remove (stagingPath path))).2 :=
  (touches_cleanup hazard disk path).within

theorem within_calls (hazard : Hazard) (disk : Disk) (path : String) (entries : Entries) :
    Within (Reaches disk path) disk (performAll hazard disk (calls path entries)).2 := by
  refine Disk.within_performAll (fun call hcall other hother place hleads => ?_) hazard
  rw [calls_eq, List.mem_append, List.mem_singleton] at hcall
  rcases hcall with hcall | rfl
  · rw [Disk.Call.paths_of_isOn (isOn_of_mem_staging path entries call hcall),
      List.mem_singleton] at hother
    exact Or.inr (hother ▸ hleads)
  · rcases List.mem_cons.1 hother with rfl | hother
    · exact Or.inr hleads
    · exact Or.inl (List.mem_singleton.1 hother ▸ hleads)

theorem within_save (hazard : Hazard) (disk : Disk) (path : String) (entries : Entries) :
    Within (Reaches disk path) disk (save hazard disk path entries).2 := by
  have hall := within_calls hazard disk path entries
  unfold save
  split
  case h_1 mid hcalls =>
    rw [hcalls] at hall
    exact hall
  case h_2 fault mid hcalls =>
    rw [hcalls] at hall
    refine hall.trans ((within_cleanup hazard mid path).mono (fun place hleads => Or.inr ?_))
    exact (hall.folders.leads_iff _ place).1 hleads

/-- A save that fails has changed the staging file at most. -/
theorem within_of_save_error {hazard : Hazard} {disk after : Disk} {path : String}
    {entries : Entries} {failure : Failure}
    (h : save hazard disk path entries = (.error failure, after)) :
    Within (disk.Leads (stagingPath path)) disk after := by
  have hstaging := within_staging hazard disk path entries
  have hmid : ∀ fault mid, performAll hazard disk (calls path entries) = (.error fault, mid) →
      Within (disk.Leads (stagingPath path)) disk mid := by
    intro fault mid hcalls
    rw [calls_eq, Disk.performAll_append] at hcalls
    rcases hfront : performAll hazard disk (staging path entries) with ⟨early | ⟨⟩, staged⟩
    · rw [hfront] at hcalls hstaging
      cases hcalls
      exact hstaging
    · rw [hfront] at hcalls hstaging
      dsimp only at hcalls
      rw [Disk.performAll_singleton] at hcalls
      rw [Disk.perform_rename_error hcalls]
      exact hstaging
  unfold save at h
  split at h
  case h_1 => cases h
  case h_2 fault mid hcalls =>
    cases h
    have hfirst := hmid fault mid hcalls
    refine hfirst.trans ((within_cleanup hazard mid path).mono (fun place hleads => ?_))
    exact (hfirst.folders.leads_iff _ place).1 hleads

/-- A save that succeeds has staged the snapshot, and then given it its name. -/
theorem rename_of_save_ok {hazard : Hazard} {disk after : Disk} {path : String} {entries : Entries}
    (h : save hazard disk path entries = (.ok (), after)) :
    ∃ staged, performAll hazard disk (staging path entries) = (.ok (), staged) ∧
      staged.rename (stagingPath path) path = .ok after := by
  unfold save at h
  split at h
  case h_2 => cases h
  case h_1 hcalls =>
    cases h
    rw [calls_eq, Disk.performAll_append] at hcalls
    rcases hfront : performAll hazard disk (staging path entries) with ⟨early | ⟨⟩, staged⟩
    · rw [hfront] at hcalls
      cases hcalls
    · rw [hfront] at hcalls
      dsimp only at hcalls
      rw [Disk.performAll_singleton] at hcalls
      have hrename : Disk.effect staged (.rename (stagingPath path) path) = .ok after :=
        Disk.effect_of_perform hcalls
      exact ⟨staged, rfl, hrename⟩

/-! ## The staging file -/

/-- Behind a save that succeeds there is no staging file. -/
theorem node?_staging_of_save_ok {path : String} (hpath : (Disk.fileName? path).isSome = true)
    {hazard : Hazard} {disk after : Disk} {entries : Entries}
    (h : save hazard disk path entries = (.ok (), after)) {place : Location}
    (hleads : disk.Leads (stagingPath path) place) : after.node? place = none := by
  obtain ⟨name, middle, trailing, hnamed⟩ := exists_named_of_isSome hpath
  obtain ⟨staged, hstaged, hrename⟩ := rename_of_save_ok h
  have hfirst := within_staging hazard disk path entries
  rw [hstaged] at hfirst
  obtain ⟨old, new, content, mode, hold, hnew, hnode, -, -, -, rfl⟩ := Disk.rename_eq_ok hrename
  have hplace : place = old.place :=
    Disk.leads_unique hleads ((hfirst.folders.leads_iff _ _).1 ⟨old, hold, rfl⟩)
  -- Both names are looked for in one folder, so they are names of two places.
  obtain ⟨here, hfolder, hnewplace⟩ := hnamed.place_of_find hnew
  obtain ⟨here', hfolder', holdplace⟩ := hnamed.place_of_find_beside lengthens_stagingEnding hold
  rw [hfolder] at hfolder'
  obtain rfl := Except.ok.inj hfolder'
  have hne : old.place ≠ new.place := by
    rw [holdplace, hnewplace]
    exact Disk.append_singleton_ne (Disk.Named.longer_ne_self lengthens_stagingEnding).symm here
  have hfile : staged.node? old.place ≠ some .directory := by simp [hnode]
  rw [hplace, Disk.node?_put, Disk.isAbove_of_not_directory hfile, if_neg Bool.false_ne_true,
    if_neg hne, Disk.node?_erase, Disk.isAbove_of_not_directory hfile, if_neg Bool.false_ne_true,
    if_pos rfl]

/-- A staging file that can be removed is, if there is one. -/
theorem node?_of_remove {disk : Disk} {path : String} {target : Disk.Target}
    (hfree : Disk.Free disk (stagingPath path) target) {hazard : Hazard}
    (hcalm : hazard 0 (.remove (stagingPath path)) = none) :
    (perform hazard disk (.remove (stagingPath path))).2.node? target.place = none := by
  rw [perform, hcalm]
  dsimp only [Disk.effect]
  rw [hfree.remove_eq]
  rcases hfree.node?_cases with hnode | ⟨content, mode, hnode⟩
  · rw [hnode]
    exact hnode
  · rw [hnode]
    show (disk.erase target.place).node? target.place = none
    rw [Disk.node?_erase, Disk.isAbove_of_not_directory hfree.not_directory,
      if_neg Bool.false_ne_true, if_pos rfl]

/-- A save under a name that is too long for its staging file does nothing. -/
theorem save_of_long {disk : Disk} {path : String} {target : Disk.Target}
    (hfind : disk.find (stagingPath path) = .ok target)
    (hlong : Disk.maxName < target.last.utf8ByteSize) (hazard : Hazard) (entries : Entries) :
    (save hazard disk path entries).2 = disk := by
  obtain ⟨fault, hcreate⟩ := Disk.perform_of_effect_ne_ok hazard disk
    (.create (stagingPath path) privateMode) (fun _ => rfl)
    (Disk.create_ne_ok_of_long hfind hlong privateMode)
  obtain ⟨fault', hremove⟩ := Disk.perform_of_effect_ne_ok hazard disk
    (.remove (stagingPath path)) (fun _ => rfl) (Disk.remove_ne_ok_of_long hfind hlong)
  have hcalls : performAll hazard disk (calls path entries) = (.error fault, disk) := by
    rw [calls, performAll, hcreate]
  rw [save, hcalls]
  exact congrArg Prod.snd hremove

/-- Behind a save that fails there is no staging file, unless it was there or its removal was
prevented. -/
theorem node?_staging_of_save_error {path : String} (hpath : (Disk.fileName? path).isSome = true)
    {hazard : Hazard} {disk after : Disk} {entries : Entries} {failure : Failure}
    (h : save hazard disk path entries = (.error failure, after))
    (hcalm : hazard 0 (.remove (stagingPath path)) = none) {place : Location}
    (hleads : disk.Leads (stagingPath path) place) :
    after.node? place = none ∨ after.node? place = disk.node? place := by
  obtain ⟨target, hfind, rfl⟩ := hleads
  by_cases hlong : Disk.maxName < target.last.utf8ByteSize
  · have hsame := save_of_long hfind hlong hazard entries
    rw [h] at hsame
    exact Or.inr (congrArg (fun disk => disk.node? target.place) hsame)
  have hall := within_of_save_error h
  by_cases hdir : disk.node? target.place = some .directory
  · right
    rw [hdir, hall.folders]
    exact hdir
  · left
    unfold save at h
    split at h
    case h_1 => cases h
    case h_2 fault mid hcalls =>
      have hfirst := within_calls hazard disk path entries
      rw [hcalls] at hfirst
      cases h
      obtain ⟨name, middle, trailing, hnamed⟩ := exists_named_of_isSome hpath
      have hslash := hnamed.slash_of_find_beside lengthens_stagingEnding hfind
      have hfree : Disk.Free disk (stagingPath path) target := ⟨hfind, hslash, hlong, hdir⟩
      exact node?_of_remove (hfree.congr hfirst.folders) hcalm

end Snapshot

/-! ## Changes of a store -/

namespace Store

theorem Hazard.arrange_same (hazard : Hazard) (entries : Entries) :
    (hazard.arrange entries).Same entries :=
  (hazard.order 0).same entries

theorem Hazard.arrange_empty (hazard : Hazard) : hazard.arrange Entries.empty = Entries.empty :=
  Entries.same_empty_iff.1 (hazard.arrange_same Entries.empty)

/-- A change of a store is made when the snapshot is saved, and not made when that fails. -/
theorem change_file_cases (hazard : Hazard) (f : Entries → Entries) (path : String)
    (entries : Entries) (disk : Disk) :
    let changed := hazard.arrange (f entries)
    (∃ after, Snapshot.save hazard.calls disk path changed = (.ok (), after) ∧
      (Store.file path entries).change hazard f disk = ⟨.ok (), .file path changed, after⟩) ∨
    ∃ failure after, Snapshot.save hazard.calls disk path changed = (.error failure, after) ∧
      (Store.file path entries).change hazard f disk =
        ⟨.error failure, .file path entries, after⟩ := by
  rw [change]
  dsimp only
  rcases Snapshot.save hazard.calls disk path (hazard.arrange (f entries)) with
    ⟨failure | ⟨⟩, after⟩
  · exact Or.inr ⟨failure, after, rfl, rfl⟩
  · exact Or.inl ⟨after, rfl, rfl⟩

theorem within_change (hazard : Hazard) (f : Entries → Entries) (path : String)
    (entries : Entries) (disk : Disk) :
    Disk.Within (Snapshot.Reaches disk path) disk
      ((Store.file path entries).change hazard f disk).disk := by
  have hsave := Snapshot.within_save hazard.calls disk path (hazard.arrange (f entries))
  rcases change_file_cases hazard f path entries disk with
    ⟨after, hsaved, hchange⟩ | ⟨failure, after, hsaved, hchange⟩
  all_goals
    rw [hchange]
    rw [hsaved] at hsave
    exact hsave

end Store
end RealmTokens
