/-
Names of hosts as they are compared: without white space around them, without dots at the end, and
with ASCII letters in lowercase.
-/
import RealmTokens.Distinct
import RealmTokens.Text.Blank
import RealmTokens.Text.Lowercase

namespace RealmTokens
namespace HostName

/-- The compared form of a name. A name of white space and dots alone has none. -/
def canonical? (name : String) : Option String :=
  let bare := Text.dropEndWhile (· == '.') (Text.trim name.toList)
  if bare.isEmpty then none else some (String.ofList (Text.asciiLowercase bare))

/-- The compared forms of a list of names, each once. -/
def normalize (names : List String) : List String :=
  distinct (names.filterMap canonical?)

theorem mem_normalize {host : String} {names : List String} :
    host ∈ normalize names ↔ ∃ name ∈ names, canonical? name = some host := by
  simp [normalize]

theorem nodup_normalize (names : List String) : (normalize names).Nodup :=
  nodup_distinct _

end HostName
end RealmTokens
