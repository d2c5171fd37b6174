/-
Snapshots: all entries of a store in one file. A snapshot is written to a staging file that then takes
the name of the snapshot, so that the name always leads to a whole one.
-/
import RealmTokens.Disk.Protocol
import RealmTokens.Json.Printer
import RealmTokens.Store.Entries

namespace RealmTokens
namespace Snapshot

def version : Nat := 1

/-- Permission bits of a file that its owner alone may read and write. -/
def privateMode : Nat := 0o600

def stagingEnding : String := ".tmp"

/-- The file beside a snapshot in which the next one is prepared. -/
def stagingPath (path : String) : String :=
  Disk.beside path stagingEnding

def toJson (entries : Entries) : Json :=
  .ofFields [("version", .ofNat version), ("items", entries.toJson)]

def bytes (entries : Entries) : List UInt8 :=
  (toJson entries).bytes

def form : Json.RecordForm := ⟨["version", "items"], true⟩

def ofJson? : Json.Decoder (Nat × Entries) := fun json => do
  let r ← json.record? form
  return (← r.required "version" (Json.nat? Json.maxNat32), ← r.required "items" Entries.ofJson?)

def decode? (bytes : List UInt8) : Except SnapshotDefect Entries :=
  match (Json.ofBytes? bytes).bind ofJson? with
  | none => .error .unreadable
  | some (found, entries) =>
      if found = version then .ok entries else .error (.version found version)

/-- The entries of the snapshot at a path, none if there is no file. -/
def load (disk : Disk) (path : String) : Except Failure Entries :=
  match disk.read path with
  | .error .notFound => .ok Entries.empty
  | .error _ => .error (.corruptSnapshot path .unreadable)
  | .ok bytes =>
      match decode? bytes with
      | .ok entries => .ok entries
      | .error defect => .error (.corruptSnapshot path defect)

def calls (path : String) (entries : Entries) : List Disk.Call :=
  [.create (stagingPath path) privateMode, .append (stagingPath path) (bytes entries),
    .sync (stagingPath path), .rename (stagingPath path) path]

/-- Writes a snapshot. When a call fails, the staging file is removed, if that is possible. -/
def save (hazard : Disk.Hazard) (disk : Disk) (path : String) (entries : Entries) :
    Except Failure Unit × Disk :=
  match Disk.performAll hazard disk (calls path entries) with
  | (.ok (), after) => (.ok (), after)
  | (.error fault, after) =>
      (.error (.disk fault), (Disk.perform hazard after (.remove (stagingPath path))).2)

end Snapshot
end RealmTokens
