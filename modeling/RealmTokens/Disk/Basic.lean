/-
A file system as its callers see it: a tree of directories and files with permission bits, and one
working directory in it. Nothing is known of what lies outside the working directory, apart from the
directories above it. A call either fails and changes nothing, or has its whole effect.

Every file has one name and every name is that of one node: there are neither hard nor symbolic links. A
new file has the permission bits that it is created with, as if no umask took any of them away, and
reading asks for no permission.
-/
import RealmTokens.Disk.Fault
import RealmTokens.Disk.Path

namespace RealmTokens
namespace Disk

inductive Node where
  | directory
  | file (content : List UInt8) (mode : Nat)
  deriving DecidableEq, Repr

/-- The names that lead from the working directory to a node. Steps upward stand in front. -/
abbrev Location := List String

namespace Location

/-- The root of all files. No name holds a slash. -/
def root : Location := ["/"]

/-- The working directory, the directories above it, and the root. -/
def isAbove (place : Location) : Bool :=
  place == root || place.all (· == "..")

/-- The directory that holds a node. -/
def up (place : Location) : Location :=
  if place = root then root
  else if place.all (· == "..") then place ++ [".."]
  else place.dropLast

/-- Whether the first step leads into the working directory. -/
def isInside (place : Location) : Bool :=
  place.head?.all (fun name => name != ".." && name != "/")

end Location

end Disk

structure Disk where
  nodes : List (Disk.Location × Disk.Node)
  deriving DecidableEq, Repr

namespace Disk

def empty : Disk := ⟨[]⟩

/-- The node at a location. The working directory and those above it are always there. -/
def node? (disk : Disk) (place : Location) : Option Node :=
  if place.isAbove then some .directory else disk.nodes.lookup place

def erase (disk : Disk) (place : Location) : Disk :=
  ⟨disk.nodes.filter (fun entry => entry.1 ≠ place)⟩

def put (disk : Disk) (place : Location) (node : Node) : Disk :=
  ⟨(place, node) :: (disk.erase place).nodes⟩

/-! ## Finding a path -/

/-- Where a path leads, its last name, and whether a slash stands behind that. -/
structure Target where
  place : Location
  last : String
  slash : Bool
  deriving DecidableEq, Repr

/-- Whether the last name is that of a file or directory, and no step of dots. -/
def Target.named (target : Target) : Bool :=
  target.last != "." && target.last != ".."

/-- The directory that a name in a directory leads to. -/
def descend (disk : Disk) (place : Location) (name : String) : Except Fault Location :=
  if name = ".." then .ok place.up
  else if name = "." then .ok place
  else if maxName < name.utf8ByteSize then .error .nameTooLong
  else
    match disk.node? (place ++ [name]) with
    | none => .error .notFound
    | some .directory => .ok (place ++ [name])
    | some (.file _ _) => .error .notADirectory

/-- Where a path leads to. All names but the last must be directories. -/
def find (disk : Disk) (path : String) : Except Fault Target :=
  if path.toList.contains '\x00' then .error .invalidInput
  else if path = "" then .error .notFound
  else if maxPath < path.utf8ByteSize then .error .nameTooLong
  else
    let start : Location := if isAbsolute path then Location.root else []
    let names := (parts path).filter (· != "")
    match names.getLast? with
    | none => .ok ⟨start, ".", true⟩
    | some last => do
        let place ← names.dropLast.foldlM (descend disk) start
        let slash := path.toList.getLast? == some '/'
        if last = ".." then return ⟨place.up, last, slash⟩
        else if last = "." then return ⟨place, last, slash⟩
        else return ⟨place ++ [last], last, slash⟩

def look (disk : Disk) (target : Target) : Except Fault (Option Node) :=
  if maxName < target.last.utf8ByteSize then .error .nameTooLong
  else .ok (disk.node? target.place)

/-! ## Reading -/

def read (disk : Disk) (path : String) : Except Fault (List UInt8) := do
  let target ← disk.find path
  match ← disk.look target with
  | none => throw .notFound
  | some .directory => throw .isADirectory
  | some (.file content _) => if target.slash then throw .notADirectory else return content

def modeOf (disk : Disk) (path : String) : Except Fault Nat := do
  let target ← disk.find path
  match ← disk.look target with
  | none => throw .notFound
  | some .directory => return 0o755
  | some (.file _ mode) => if target.slash then throw .notADirectory else return mode

/-- The paths of all files and directories in the working directory, in order, a slash behind those of
directories. -/
def listing (disk : Disk) : List String :=
  ((disk.nodes.filter (fun entry => entry.1.isInside)).map (fun entry =>
    "/".intercalate entry.1 ++ (if entry.2 = .directory then "/" else ""))).mergeSort (· ≤ ·)

/-! ## Changes -/

/-- Creates or empties a file. Only a new file gets the permission bits. -/
def create (disk : Disk) (path : String) (mode : Nat) : Except Fault Disk := do
  let target ← disk.find path
  if !target.named || target.slash then throw .isADirectory
  match ← disk.look target with
  | none => return disk.put target.place (.file [] mode)
  | some .directory => throw .isADirectory
  | some (.file _ old) => return disk.put target.place (.file [] old)

def append (disk : Disk) (path : String) (bytes : List UInt8) : Except Fault Disk := do
  let target ← disk.find path
  match ← disk.look target with
  | none => throw .notFound
  | some .directory => throw .isADirectory
  | some (.file content mode) => return disk.put target.place (.file (content ++ bytes) mode)

/-- Gives a file another name. A file that has the name already is replaced. -/
def rename (disk : Disk) (source path : String) : Except Fault Disk := do
  let old ← disk.find source
  let new ← disk.find path
  match ← disk.look old with
  | none => throw .notFound
  | some .directory => throw .isADirectory
  | some (.file content mode) =>
      let replaced ← disk.look new
      if old.slash || new.slash then throw .notADirectory
      match replaced with
      | some .directory => throw .isADirectory
      | _ => return (disk.erase old.place).put new.place (.file content mode)

def remove (disk : Disk) (path : String) : Except Fault Disk := do
  let target ← disk.find path
  match ← disk.look target with
  | none => throw .notFound
  | some .directory => throw .isADirectory
  | some (.file _ _) => if target.slash then throw .notADirectory else return disk.erase target.place

def setMode (disk : Disk) (path : String) (mode : Nat) : Except Fault Disk := do
  let target ← disk.find path
  match ← disk.look target with
  | none => throw .notFound
  | some .directory => return disk
  | some (.file content _) => return disk.put target.place (.file content mode)

def makeDirectory (disk : Disk) (path : String) : Except Fault Disk := do
  let target ← disk.find path
  match ← disk.look target with
  | some _ => throw .alreadyExists
  | none => return disk.put target.place .directory

def removeDirectory (disk : Disk) (path : String) : Except Fault Disk := do
  let target ← disk.find path
  match ← disk.look target with
  | none => throw .notFound
  | some (.file _ _) => throw .notADirectory
  | some .directory =>
      if target.last = "." then throw .invalidInput
      else if target.last = ".." || disk.nodes.any (fun entry => entry.1.dropLast = target.place) then
        throw .directoryNotEmpty
      else return disk.erase target.place

end Disk
end RealmTokens
