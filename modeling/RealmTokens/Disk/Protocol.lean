/-
Sequences of calls, each of which may be interrupted. Main statement: running one sequence after
another is running both together.
-/
import RealmTokens.Disk.Basic

namespace RealmTokens
namespace Disk

inductive Call where
  | create (path : String) (mode : Nat)
  | append (path : String) (bytes : List UInt8)
  | sync (path : String)
  | rename (source path : String)
  | remove (path : String)
  deriving DecidableEq, Repr

/-- A call that fails for a reason outside the tree, with the number of bytes it had written. -/
structure Interruption where
  fault : Fault
  written : Nat
  deriving DecidableEq, Repr

/-- Which calls are interrupted, in the first of several sequences, in the second, and so on. -/
def Hazard := Nat → Call → Option Interruption

/-- What befalls the sequences behind the first. -/
def Hazard.later (hazard : Hazard) : Hazard := fun n => hazard (n + 1)

/-- What befalls the sequences behind the first `count`. -/
def Hazard.behind (hazard : Hazard) (count : Nat) : Hazard := fun n => hazard (n + count)

def calm : Hazard := fun _ _ => none

/-- What a call does when nothing interrupts it. -/
def effect (disk : Disk) : Call → Except Fault Disk
  | .create path mode => disk.create path mode
  | .append path bytes => disk.append path bytes
  | .sync _ => .ok disk
  | .rename source path => disk.rename source path
  | .remove path => disk.remove path

/-- What an interrupted call leaves behind. Only appending does a part of its work. -/
def remains (disk : Disk) (written : Nat) : Call → Disk
  | .append path bytes =>
      match disk.append path (bytes.take written) with
      | .ok after => after
      | .error _ => disk
  | _ => disk

def perform (hazard : Hazard) (disk : Disk) (call : Call) : Except Fault Unit × Disk :=
  match hazard 0 call with
  | some interruption => (.error interruption.fault, remains disk interruption.written call)
  | none =>
      match effect disk call with
      | .ok after => (.ok (), after)
      | .error fault => (.error fault, disk)

/-- Calls in order, up to the first that fails. -/
def performAll (hazard : Hazard) (disk : Disk) : List Call → Except Fault Unit × Disk
  | [] => (.ok (), disk)
  | call :: rest =>
      match perform hazard disk call with
      | (.ok (), after) => performAll hazard after rest
      | (.error fault, after) => (.error fault, after)

theorem performAll_append (hazard : Hazard) (disk : Disk) (xs ys : List Call) :
    performAll hazard disk (xs ++ ys) =
      match performAll hazard disk xs with
      | (.ok (), after) => performAll hazard after ys
      | (.error fault, after) => (.error fault, after) := by
  induction xs generalizing disk with
  | nil => rfl
  | cons call rest ih =>
      simp only [List.cons_append, performAll]
      rcases perform hazard disk call with ⟨_ | _, after⟩
      · rfl
      · exact ih after

end Disk
end RealmTokens
