/-
Questions about the entries of a store, and the removal of all that a user has.
-/
import RealmTokens.Distinct
import RealmTokens.Store.Basic
import RealmTokens.Text.Lowercase

namespace RealmTokens
namespace Store

open Token (Entry Key)

def users (s : Store) : List String :=
  distinct (s.toList.filterMap Entry.userId)

def tokensForResource (s : Store) (resource : String) : List Entry :=
  s.toList.filter (fun e => e.resource == some resource)

/-- Whether an entry is a user's, whatever the case of the id. -/
def belongsTo (userId : String) (e : Entry) : Bool :=
  match e.userId with
  | none => false
  | some id => Text.lowercase id == Text.lowercase userId

def tokensForUser (s : Store) (userId : String) : List Entry :=
  s.toList.filter (belongsTo userId)

/-- The entries that expire within `buffer` of `now`. -/
def tokensAboutToExpire (s : Store) (now : Time.Instant) (buffer : Time.Span) : List Entry :=
  s.toList.filter (fun e => e.expiresOn.isSome && e.expiredAt now buffer)

/-- Removes entries under the keys they have by their parts. One without a key is passed over. -/
def eraseAll (hazard : Hazard) (s : Store) (disk : Disk) : List Entry → Outcome
  | [] => ⟨.ok (), s, disk⟩
  | e :: rest =>
      match Key.ofEntry? e with
      | .error _ => eraseAll hazard s disk rest
      | .ok key =>
          let outcome := s.erase hazard disk key
          match outcome.result with
          | .error failure => ⟨.error failure, outcome.store, outcome.disk⟩
          | .ok () => eraseAll hazard.later outcome.store outcome.disk rest

def clearTokensForUser (hazard : Hazard) (s : Store) (disk : Disk) (userId : String) :
    Outcome :=
  s.eraseAll hazard disk (s.tokensForUser userId)

end Store
end RealmTokens
