/-
Stores of entries: in memory, in memory with a snapshot on disk, or a pair of stores of which the second
follows when the first is emptied. Reading never touches the disk.
-/
import RealmTokens.Store.Snapshot

namespace RealmTokens

open Token (Entry Key)

inductive Store where
  | memory (entries : Entries)
  | file (path : String) (entries : Entries)
  | delegating (primary replica : Store)

namespace Store

/-- A store over a snapshot file. What is there already must be readable. -/
def openFile (disk : Disk) (path : String) : Except Failure Store :=
  if (Disk.fileName? path).isNone then .error (.argument .path .noFileName)
  else (Snapshot.load disk path).map (.file path)

/-! ## Reading -/

/-- The entries that a store shows: those of its leftmost part. -/
def entries : Store → Entries
  | .memory entries => entries
  | .file _ entries => entries
  | .delegating primary _ => primary.entries

def get? (s : Store) (key : Key) : Option Entry := s.entries.get? key

def contains (s : Store) (key : Key) : Bool := s.entries.contains key

def toList (s : Store) : List Entry := s.entries.toList

/-! ## Changes -/

/-- What befalls the changes of a store: which calls of each are interrupted, and in which order a changed
map has its rows from then on. -/
structure Hazard where
  calls : Disk.Hazard
  order : Nat → Entries.Order

namespace Hazard

/-- What befalls the changes behind the first. -/
def later (hazard : Hazard) : Hazard := ⟨hazard.calls.later, fun n => hazard.order (n + 1)⟩

/-- What befalls the changes behind the first `count`. -/
def behind (hazard : Hazard) (count : Nat) : Hazard :=
  ⟨hazard.calls.behind count, fun n => hazard.order (n + count)⟩

/-- The rows of a map that was changed first. -/
def arrange (hazard : Hazard) (entries : Entries) : Entries := (hazard.order 0).arrange entries

/-- Where only calls are at risk, rows keep the order in which they were filed. -/
instance : Coe Disk.Hazard Hazard := ⟨fun calls => ⟨calls, fun _ => .asFiled⟩⟩

end Hazard

structure Outcome where
  result : Except Failure Unit
  store : Store
  disk : Disk

/-- Changes the entries that a store shows. Memory changes only once the disk has. -/
def change (hazard : Hazard) (f : Entries → Entries) : Store → Disk → Outcome
  | .memory entries, disk => ⟨.ok (), .memory (hazard.arrange (f entries)), disk⟩
  | .file path entries, disk =>
      let changed := hazard.arrange (f entries)
      match Snapshot.save hazard.calls disk path changed with
      | (.ok (), after) => ⟨.ok (), .file path changed, after⟩
      | (.error failure, after) => ⟨.error failure, .file path entries, after⟩
  | .delegating primary replica, disk =>
      let outcome := primary.change hazard f disk
      ⟨outcome.result, .delegating outcome.store replica, outcome.disk⟩

def insert (hazard : Hazard) (s : Store) (disk : Disk) (key : Key) (entry : Entry) : Outcome :=
  s.change hazard (fun entries => entries.insert key entry) disk

/-- Removes the entry under a key, if there is one. -/
def erase (hazard : Hazard) (s : Store) (disk : Disk) (key : Key) : Outcome :=
  s.change hazard (fun entries => entries.erase key) disk

/-- The stores that have no parts, in the order in which they are emptied. Each writes at most one
sequence of calls. -/
def leaves : Store → List Store
  | .delegating primary replica => primary.leaves ++ replica.leaves
  | store => [store]

/-- Removes all entries, also those of replicas, up to the first part that fails. -/
def clear (hazard : Hazard) : Store → Disk → Outcome
  | .delegating primary replica, disk =>
      let first := primary.clear hazard disk
      match first.result with
      | .error failure => ⟨.error failure, .delegating first.store replica, first.disk⟩
      | .ok () =>
          let second := replica.clear (hazard.behind primary.leaves.length) first.disk
          ⟨second.result, .delegating first.store second.store, second.disk⟩
  | store, disk => store.change hazard (fun _ => Entries.empty) disk

end Store
end RealmTokens
