/-
Paths of files as texts: their components, the name that a path ends in, and the path of a file beside
another one.
-/
namespace RealmTokens
namespace Disk

/-- The longest path, in bytes. -/
def maxPath : Nat := 4095

/-- The longest name of a file or directory, in bytes. -/
def maxName : Nat := 255

/-- The texts between slashes. -/
def parts (path : String) : List String :=
  (path.toList.splitOn '/').map String.ofList

/-- A part that stays in place. -/
def isIdle (part : String) : Bool :=
  part == "" || part == "."

/-- The names between slashes, without those that stay in place. -/
def components (path : String) : List String :=
  (parts path).filter (fun part => !isIdle part)

/-- The name of the file that a path leads to, unless it ends in a step upward. -/
def fileName? (path : String) : Option String :=
  match (components path).getLast? with
  | none => none
  | some name => if name = ".." then none else some name

def isAbsolute (path : String) : Bool :=
  path.toList.head? == some '/'

/-- The parts in front of the last component, as they are written. -/
def front (path : String) : List String :=
  (((parts path).reverse.dropWhile isIdle).drop 1 |>.dropWhile isIdle).reverse

/-- The path of the file beside another one whose name has `ending` behind it. -/
def beside (path ending : String) : String :=
  let name := ((components path).getLast?.getD "") ++ ending
  if (front path).isEmpty && isAbsolute path then "/" ++ name
  else "/".intercalate (front path ++ [name])

end Disk
end RealmTokens
