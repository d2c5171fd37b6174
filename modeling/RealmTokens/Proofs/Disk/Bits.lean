/-
Permission bits.

A file gets its bits when it is created, and takes them along when it gets another name.  Main statement:
if all files in some places have the same bits, and calls create files with these and bring files from
these places only, then all files there have them behind any calls, however these are interrupted.
-/
import RealmTokens.Proofs.Disk.Ways

namespace RealmTokens
namespace Disk

/-! ## Files with the same bits -/

/-- Whether every file in reach has these bits. -/
def HasBits (disk : Disk) (reach : Location → Prop) (bits : Nat) : Prop :=
  ∀ place content mode, reach place → disk.node? place = some (.file content mode) → mode = bits

namespace HasBits

variable {disk after : Disk} {reach : Location → Prop} {bits : Nat}

theorem put (h : disk.HasBits reach bits) {place : Location} {mode : Nat}
    (hmode : reach place → mode = bits) (content : List UInt8) :
    (disk.put place (.file content mode)).HasBits reach bits := by
  intro other content' mode' hreach hnode
  rw [node?_put] at hnode
  split at hnode
  · cases hnode
  · split at hnode
    case isTrue hother =>
      cases hnode
      exact hmode (hother ▸ hreach)
    case isFalse => exact h other content' mode' hreach hnode

theorem erase (h : disk.HasBits reach bits) (place : Location) :
    (disk.erase place).HasBits reach bits := by
  intro other content mode hreach hnode
  rw [node?_erase] at hnode
  split at hnode
  · cases hnode
  · split at hnode
    · cases hnode
    · exact h other content mode hreach hnode

theorem of_append (h : disk.HasBits reach bits) {path : String} {bytes : List UInt8}
    (happend : disk.append path bytes = .ok after) : after.HasBits reach bits := by
  obtain ⟨target, content, mode, -, hnode, rfl⟩ := append_eq_ok happend
  exact h.put (fun hreach => h _ _ _ hreach hnode) _

end HasBits

/-- Whether a call brings no file with other bits into reach. -/
def Call.Fits (disk : Disk) (reach : Location → Prop) (bits : Nat) : Call → Prop
  | .create _ mode => mode = bits
  | .rename source _ => ∀ place, disk.Leads source place → reach place
  | _ => True

theorem Call.Fits.congr {a b : Disk} {reach : Location → Prop} {bits : Nat} {call : Call}
    (h : call.Fits a reach bits) (hsame : SameFolders a b) : call.Fits b reach bits := by
  cases call with
  | rename source path => exact fun place hleads => h place ((hsame.leads_iff source place).1 hleads)
  | _ => exact h

theorem HasBits.of_effect {disk after : Disk} {reach : Location → Prop} {bits : Nat} {call : Call}
    (h : disk.HasBits reach bits) (hfits : call.Fits disk reach bits)
    (heffect : effect disk call = .ok after) : after.HasBits reach bits := by
  cases call with
  | create path mode =>
      obtain ⟨target, kept, -, -, hkept, rfl⟩ := create_eq_ok heffect
      refine h.put (fun hreach => ?_) []
      rcases hkept with ⟨-, rfl⟩ | ⟨content, hnode⟩
      · exact hfits
      · exact h _ _ _ hreach hnode
  | append path bytes => exact h.of_append heffect
  | sync path =>
      cases heffect
      exact h
  | rename source path =>
      obtain ⟨old, new, content, mode, hold, -, hnode, -, -, -, rfl⟩ := rename_eq_ok heffect
      exact (h.erase old.place).put
        (fun _ => h _ _ _ (hfits old.place ⟨old, hold, rfl⟩) hnode) content
  | remove path =>
      obtain ⟨target, -, -, -, -, rfl⟩ := remove_eq_ok heffect
      exact h.erase target.place

theorem HasBits.of_remains {disk : Disk} {reach : Location → Prop} {bits : Nat}
    (h : disk.HasBits reach bits) (written : Nat) (call : Call) :
    (remains disk written call).HasBits reach bits := by
  cases call with
  | append path bytes =>
      unfold remains
      dsimp only
      split
      case h_1 happend => exact h.of_append happend
      case h_2 => exact h
  | _ => exact h

/-! ## Behind any calls -/

theorem sameFolders_perform (hazard : Hazard) (disk : Disk) (call : Call) :
    SameFolders disk (perform hazard disk call).2 := by
  have hwithin : Within (fun _ => True) disk (perform hazard disk call).2 :=
    within_perform (fun _ _ _ _ => trivial) hazard
  exact hwithin.folders

/-- A disk with the directories of an earlier one, on which every file in reach has these bits. -/
structure Guarded (reach : Location → Prop) (bits : Nat) (start disk : Disk) : Prop where
  folders : SameFolders start disk
  has_bits : disk.HasBits reach bits

namespace Guarded

variable {reach : Location → Prop} {bits : Nat} {start disk : Disk}

theorem of_perform (h : Guarded reach bits start disk) {call : Call}
    (hfits : call.Fits start reach bits) (hazard : Hazard) :
    Guarded reach bits start (perform hazard disk call).2 := by
  refine ⟨h.folders.trans (sameFolders_perform hazard disk call), ?_⟩
  unfold perform
  split
  · exact h.has_bits.of_remains _ call
  · split
    case h_1 heffect => exact h.has_bits.of_effect (hfits.congr h.folders) heffect
    case h_2 => exact h.has_bits

theorem of_remains (h : Guarded reach bits start disk) (written : Nat) (call : Call) :
    Guarded reach bits start (remains disk written call) := by
  refine ⟨h.folders.trans ?_, h.has_bits.of_remains written call⟩
  rcases call.isOn_or_rename with ⟨path, hon⟩ | ⟨source, path, rfl⟩
  · exact (touches_remains disk hon written).within.folders
  · exact .refl disk

theorem of_performAll (h : Guarded reach bits start disk) {calls : List Call}
    (hfits : ∀ call ∈ calls, call.Fits start reach bits) (hazard : Hazard) :
    Guarded reach bits start (performAll hazard disk calls).2 := by
  induction calls generalizing disk with
  | nil => exact h
  | cons call calls ih =>
      have hfirst := h.of_perform (hfits call List.mem_cons_self) hazard
      rw [performAll]
      rcases hperform : perform hazard disk call with ⟨fault | ⟨⟩, after⟩
      · rw [hperform] at hfirst
        exact hfirst
      · rw [hperform] at hfirst
        exact ih hfirst (fun other hother => hfits other (List.mem_cons_of_mem call hother))

end Guarded

end Disk
end RealmTokens
