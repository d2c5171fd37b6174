/-
Snapshots that are cut short.

A snapshot is one object, closed by its very last byte.  Main statement: a file that holds a proper front
part of a snapshot is never opened, whatever the entries, the order of their rows and the place of the
cut, and nothing happens to the file.
-/
import RealmTokens.Proofs.Disk.Ways
import RealmTokens.Proofs.Json.Fronts
import RealmTokens.Proofs.Store.CrashAtomicity

namespace RealmTokens
namespace Snapshot

theorem decode?_of_cut {entries : Entries} {front : List UInt8} (hfront : front <+: bytes entries)
    (hcut : front ≠ bytes entries) : decode? front = .error .unreadable := by
  have hnone : Json.ofBytes? front = none :=
    Json.ofBytes?_of_cut (written_toJson entries) trivial hfront hcut
  rw [decode?, hnone]
  rfl

theorem load_of_cut {disk : Disk} {path : String} {entries : Entries} {front : List UInt8}
    (hfront : front <+: bytes entries) (hcut : front ≠ bytes entries)
    (hread : disk.read path = .ok front) :
    load disk path = .error (.corruptSnapshot path .unreadable) := by
  rw [load, hread]
  dsimp only
  rw [decode?_of_cut hfront hcut]

end Snapshot

namespace Store

/-- A process that cannot open its file does nothing to the disk. -/
theorem Lifetime.eq_of_openFile_error {path : String} {start disk : Disk} {failure : Failure}
    {found : Except Failure Store} (herror : openFile start path = .error failure)
    (h : Lifetime alone path start found disk) : found = .error failure ∧ disk = start := by
  induction h with
  | opened => exact ⟨herror, rfl⟩
  | used _ _ _ ih => cases ih.1
  | cut _ _ _ _ ih => cases ih.1
  | meanwhile _ hnext => cases hnext

/-- Where a snapshot is cut short, opening its file says that it is corrupt, and there is no store that
could write to it. -/
theorem openFile_of_torn {disk : Disk} {path : String} {entries : Entries} {front : List UInt8}
    (hfront : front <+: Snapshot.bytes entries) (hcut : front ≠ Snapshot.bytes entries)
    (hread : disk.read path = .ok front) :
    openFile disk path = .error (.corruptSnapshot path .unreadable) ∧
      ∀ found later, Lifetime alone path disk found later →
        found = .error (.corruptSnapshot path .unreadable) ∧ later = disk := by
  have hopen : openFile disk path = .error (.corruptSnapshot path .unreadable) := by
    have hname : (Disk.fileName? path).isNone = false := by
      rw [Option.isNone_eq_false_iff]
      exact Disk.isSome_fileName?_of_read hread
    rw [openFile, hname, if_neg Bool.false_ne_true, Snapshot.load_of_cut hfront hcut hread]
    rfl
  exact ⟨hopen, fun _ _ h => h.eq_of_openFile_error hopen⟩

/-- A snapshot of one entry that is cut inside the letter of its key, which takes two bytes. -/
theorem openFile_of_torn_in_letter :
    let entry : Token.Entry :=
      ⟨"a", none, none, none, none, none, none, false, none, none, none⟩
    let entries : Entries := ⟨[(⟨"é"⟩, entry)], by decide⟩
    let front := (Snapshot.bytes entries).take 24
    let disk : Disk := ⟨[(["tokens"], .file front Snapshot.privateMode)]⟩
    front.getLast? = some 0xc3 ∧ front ≠ Snapshot.bytes entries ∧
      disk.read "tokens" = .ok front ∧
      openFile disk "tokens" = .error (.corruptSnapshot "tokens" .unreadable) := by
  intro entry entries front disk
  have hcut : front ≠ Snapshot.bytes entries := by decide +kernel
  have hread : disk.read "tokens" = .ok front := rfl
  exact ⟨by decide +kernel, hcut, hread, (openFile_of_torn (List.take_prefix 24 _) hcut hread).1⟩

end Store
end RealmTokens
