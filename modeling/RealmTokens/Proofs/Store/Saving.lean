/-
Saving a snapshot.

Up to the last call nothing happens but to the staging file, and the last call puts a whole snapshot in
place.  Main statements: a path reads as the new snapshot after a save that succeeds, and as before
after one that fails.
-/
import RealmTokens.Proofs.Disk.Calls
import RealmTokens.Proofs.Store.Snapshot

namespace RealmTokens
namespace Snapshot

open Disk (Call Hazard Touches beside effect perform performAll)

/-! ## The staging file -/

/-- The calls in front of the last one. -/
def staging (path : String) (entries : Entries) : List Call :=
  [.create (stagingPath path) privateMode, .append (stagingPath path) (bytes entries),
    .sync (stagingPath path)]

theorem calls_eq (path : String) (entries : Entries) :
    calls path entries = staging path entries ++ [.rename (stagingPath path) path] := rfl

theorem isOn_of_mem_staging (path : String) (entries : Entries) :
    ∀ call ∈ staging path entries, call.IsOn (stagingPath path) := by
  intro call h
  simp only [staging, List.mem_cons, List.not_mem_nil, or_false] at h
  rcases h with rfl | rfl | rfl <;> rfl

theorem lengthens_stagingEnding : Disk.Lengthens stagingEnding :=
  ⟨by decide, by decide⟩

theorem exists_named_of_isSome {path : String} (h : (Disk.fileName? path).isSome = true) :
    ∃ name middle trailing, Disk.Named path name middle trailing := by
  obtain ⟨name, hname⟩ := Option.isSome_iff_exists.1 h
  exact ⟨name, Disk.exists_named hname⟩

theorem read_of_touches {path : String} (hpath : (Disk.fileName? path).isSome = true)
    {disk after : Disk} (h : Touches (stagingPath path) disk after) :
    after.read path = disk.read path := by
  obtain ⟨name, middle, trailing, hnamed⟩ := exists_named_of_isSome hpath
  exact hnamed.read_of_touches lengthens_stagingEnding h

theorem read_performAll {path : String} (hpath : (Disk.fileName? path).isSome = true)
    (hazard : Hazard) {calls : List Call} (hon : ∀ call ∈ calls, call.IsOn (stagingPath path))
    (disk : Disk) : (performAll hazard disk calls).2.read path = disk.read path := by
  induction calls generalizing disk with
  | nil => rfl
  | cons call calls ih =>
      have hcall := read_of_touches hpath
        (Disk.touches_perform hazard disk (hon call List.mem_cons_self))
      rw [performAll]
      rcases hperform : perform hazard disk call with ⟨fault | ⟨⟩, after⟩
      · rw [hperform] at hcall
        exact hcall
      · rw [hperform] at hcall
        exact (ih (fun other hother => hon other (List.mem_cons_of_mem call hother)) after).trans
          hcall

/-! ## A save that fails -/

theorem read_of_calls_error {path : String} (hpath : (Disk.fileName? path).isSome = true)
    {hazard : Hazard} {disk after : Disk} {entries : Entries} {fault : Disk.Fault}
    (h : performAll hazard disk (calls path entries) = (.error fault, after)) :
    after.read path = disk.read path := by
  have hstaging := read_performAll hpath hazard (isOn_of_mem_staging path entries) disk
  rw [calls_eq, Disk.performAll_append] at h
  rcases hfront : performAll hazard disk (staging path entries) with ⟨early | ⟨⟩, mid⟩
  · rw [hfront] at h hstaging
    cases h
    exact hstaging
  · rw [hfront] at h hstaging
    rw [← hstaging]
    dsimp only [performAll] at h
    rcases hlast : perform hazard mid (.rename (stagingPath path) path) with ⟨late | ⟨⟩, last⟩
    · rw [hlast] at h
      cases h
      rw [Disk.perform_rename_error hlast]
    · rw [hlast] at h
      cases h

theorem touches_cleanup (hazard : Hazard) (disk : Disk) (path : String) :
    Touches (stagingPath path) disk (perform hazard disk (.remove (stagingPath path))).2 :=
  Disk.touches_perform hazard disk rfl

theorem read_of_save_error {path : String} (hpath : (Disk.fileName? path).isSome = true)
    {hazard : Hazard} {disk after : Disk} {entries : Entries} {failure : Failure}
    (h : save hazard disk path entries = (.error failure, after)) :
    after.read path = disk.read path := by
  unfold save at h
  split at h
  · cases h
  case h_2 fault mid hcalls =>
    cases h
    rw [read_of_touches hpath (touches_cleanup hazard mid path)]
    exact read_of_calls_error hpath hcalls

/-! ## A save that succeeds -/

theorem performAll_cons_ok {hazard : Hazard} {disk after : Disk} {call : Call} {rest : List Call}
    (h : performAll hazard disk (call :: rest) = (.ok (), after)) :
    ∃ mid, effect disk call = .ok mid ∧ performAll hazard mid rest = (.ok (), after) := by
  rw [performAll] at h
  rcases hperform : perform hazard disk call with ⟨fault | ⟨⟩, mid⟩
  · rw [hperform] at h
    cases h
  · rw [hperform] at h
    exact ⟨mid, Disk.effect_of_perform hperform, h⟩

theorem read_of_calls_ok {path : String} (hpath : (Disk.fileName? path).isSome = true)
    {hazard : Hazard} {disk after : Disk} {entries : Entries}
    (h : performAll hazard disk (calls path entries) = (.ok (), after)) :
    after.read path = .ok (bytes entries) := by
  obtain ⟨name, middle, trailing, hnamed⟩ := exists_named_of_isSome hpath
  obtain ⟨created, hcreate, hcalls⟩ := performAll_cons_ok h
  obtain ⟨written, happend, hlater⟩ := performAll_cons_ok hcalls
  obtain ⟨synced, hsync, hlast⟩ := performAll_cons_ok hlater
  cases hsync
  obtain ⟨renamed, hrename, hdone⟩ := performAll_cons_ok hlast
  cases hdone
  have hempty := hnamed.holds_of_create lengthens_stagingEnding hcreate
  have hfull := hnamed.holds_of_append lengthens_stagingEnding hempty happend
  exact hnamed.read_of_rename lengthens_stagingEnding hfull hrename

theorem read_of_save_ok {path : String} (hpath : (Disk.fileName? path).isSome = true)
    {hazard : Hazard} {disk after : Disk} {entries : Entries}
    (h : save hazard disk path entries = (.ok (), after)) :
    after.read path = .ok (bytes entries) := by
  unfold save at h
  split at h
  case h_1 hcalls =>
    cases h
    exact read_of_calls_ok hpath hcalls
  case h_2 => cases h

/-! ## Loading after a save -/

theorem load_congr {disk after : Disk} {path : String} (h : after.read path = disk.read path) :
    load after path = load disk path := by
  rw [load, h]
  rfl

theorem load_of_read {disk : Disk} {path : String} {entries : Entries}
    (h : disk.read path = .ok (bytes entries)) : load disk path = .ok entries.reread := by
  rw [load, h]
  dsimp only
  rw [decode?_bytes]

theorem load_of_save_ok {path : String} (hpath : (Disk.fileName? path).isSome = true)
    {hazard : Hazard} {disk after : Disk} {entries : Entries}
    (h : save hazard disk path entries = (.ok (), after)) :
    load after path = .ok entries.reread :=
  load_of_read (read_of_save_ok hpath h)

end Snapshot
end RealmTokens
