/-
What it takes to write a snapshot.

`Writable` says that a path and its staging file lead to places where a file can be.  Main statements: a
path is writable as soon as one save of it has succeeded, it stays so as long as no directory comes or
goes, and a save of a writable path fails only where a call of it is interrupted.
-/
import RealmTokens.Proofs.Store.Footprint

namespace RealmTokens
namespace Snapshot

open Disk (Free Hazard SameFolders Succeeds)

/-! ## Saving on a writable path -/

def Writable (disk : Disk) (path : String) : Prop :=
  ∃ old new, Free disk (stagingPath path) old ∧ old.named = true ∧ Free disk path new

theorem Writable.congr {a b : Disk} {path : String} (h : Writable a path)
    (hsame : SameFolders a b) : Writable b path := by
  obtain ⟨old, new, hold, hnamed, hnew⟩ := h
  exact ⟨old, new, hold.congr hsame, hnamed, hnew.congr hsame⟩

theorem Writable.succeeds {disk : Disk} {path : String} (h : Writable disk path)
    (entries : Entries) : Succeeds disk (calls path entries) := by
  obtain ⟨old, new, hold, hnamed, hnew⟩ := h
  obtain ⟨created, kept, hcreate, hfirst, hempty⟩ := hold.exists_create hnamed privateMode
  obtain ⟨written, happend, hsecond, hfull⟩ :=
    (hold.congr hfirst).exists_append hempty (bytes entries)
  have hboth := hfirst.trans hsecond
  obtain ⟨renamed, hrename⟩ := (hold.congr hboth).exists_rename (hnew.congr hboth) hfull
  exact .cons hcreate (.cons happend (.cons rfl (.cons hrename (.nil renamed))))

/-- What is on the disk does not matter any more: a save fails where it is interrupted. -/
theorem Writable.save_fst {disk : Disk} {path : String} (h : Writable disk path)
    (hazard : Hazard) (entries : Entries) :
    (save hazard disk path entries).1 =
      match (calls path entries).findSome? (hazard 0) with
      | none => .ok ()
      | some interruption => .error (.disk interruption.fault) := by
  have hcalls := (h.succeeds entries).performAll_fst hazard
  unfold save
  split
  case h_1 after hok =>
    rw [hok] at hcalls
    cases hfound : (calls path entries).findSome? (hazard 0) with
    | none => rfl
    | some interruption =>
        rw [hfound] at hcalls
        cases hcalls
  case h_2 fault after herror =>
    rw [herror] at hcalls
    cases hfound : (calls path entries).findSome? (hazard 0) with
    | none =>
        rw [hfound] at hcalls
        cases hcalls
    | some interruption =>
        rw [hfound] at hcalls
        cases hcalls
        rfl

/-- A path that was saved once is writable. -/
theorem writable_of_save_ok {hazard : Hazard} {disk after : Disk} {path : String}
    {entries : Entries} (h : save hazard disk path entries = (.ok (), after)) :
    Writable disk path := by
  obtain ⟨staged, hstaged, hrename⟩ := rename_of_save_ok h
  have hfolders := (within_staging hazard disk path entries).folders
  rw [hstaged] at hfolders
  obtain ⟨created, hcreate, -⟩ := performAll_cons_ok hstaged
  obtain ⟨old, hold, hnamed⟩ := Disk.free_of_create hcreate
  obtain ⟨new, hnew⟩ := Disk.free_of_rename hrename
  exact ⟨old, new, hold, hnamed, hnew.congr hfolders.symm⟩

end Snapshot
end RealmTokens
