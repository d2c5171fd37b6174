/-
Why a call to the file system fails.
-/
namespace RealmTokens
namespace Disk

inductive Fault where
  | notFound
  | notADirectory
  | isADirectory
  | alreadyExists
  | directoryNotEmpty
  | invalidInput
  | nameTooLong
  | noSpace
  deriving DecidableEq, Repr

def Fault.message : Fault → String
  | .notFound => "No such file or directory"
  | .notADirectory => "Not a directory"
  | .isADirectory => "Is a directory"
  | .alreadyExists => "File exists"
  | .directoryNotEmpty => "Directory not empty"
  | .invalidInput => "Invalid path"
  | .nameTooLong => "File name too long"
  | .noSpace => "No space left on device"

end Disk
end RealmTokens
