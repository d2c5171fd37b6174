/-
Keys under which entries are filed: `authority$resource$client$flag$user`, and one more segment for the
tokens of a family. Stored snapshots depend on this form.
-/
import RealmTokens.Text.Lowercase
import RealmTokens.Token.Entry

namespace RealmTokens
namespace Token

@[ext]
structure Key where
  text : String
  deriving DecidableEq, Repr

namespace Key

def delimiter : Char := '$'

def familyMark : String := "foci-"

def dropFinalSlash (s : String) : String :=
  if s.toList.getLast? = some '/' then String.ofList s.toList.dropLast else s

def normalAuthority? (authority : String) : Except Failure String :=
  if Text.blank authority then .error (.argument .authority .blank)
  else .ok (dropFinalSlash (Text.lowercase authority))

/-- The compared form of a user, which is empty where no user is known. -/
def normalUser (userId : Option String) : String :=
  match userId with
  | none => ""
  | some id => if Text.blank id then "" else Text.lowercase id

def flag (multiResource : Bool) : String := if multiResource then "y" else "n"

def join (segments : List String) : String :=
  "$".intercalate segments

/-- The key of these parts. An entry for all resources has none of its own. -/
def ofParts? (authority : String) (resource : Option String) (clientId : String)
    (multiResource : Bool) (userId : Option String) : Except Failure Key := do
  let authority ← normalAuthority? authority
  if Text.blank clientId then throw (.argument .clientId .blank)
  let resource ←
    if multiResource then pure ""
    else if blankPart resource then throw (.argument .resource .blank)
    else pure (resource.getD "")
  return ⟨join [authority, resource, Text.lowercase clientId, flag multiResource, normalUser userId]⟩

def ofRequest? (authority resource clientId : String) (userId : Option String) :
    Except Failure Key :=
  ofParts? authority (some resource) clientId false userId

def ofMultiResource? (authority clientId : String) (userId : Option String) : Except Failure Key :=
  ofParts? authority none clientId true userId

def ofFamily? (authority familyClientId : String) (userId : Option String) : Except Failure Key := do
  let authority ← normalAuthority? authority
  if Text.blank familyClientId then throw (.argument .familyClientId .blank)
  return ⟨join [authority, "", "", flag true, normalUser userId,
    familyMark ++ Text.lowercase familyClientId]⟩

/-- The key that an entry has by its own parts. -/
def ofEntry? (e : Entry) : Except Failure Key :=
  match e.kind with
  | .regular => ofParts? e.authority e.resource (e.clientId.getD "") false e.userId
  | .multiResource => ofMultiResource? e.authority (e.clientId.getD "") e.userId
  | .family => ofFamily? e.authority (e.familyClientId.getD "") e.userId

/-- Whether the fourth segment says that the key is for all resources. -/
def isMultiResource (key : Key) : Bool :=
  (key.text.toList.splitOn delimiter)[3]? == some ['y']

end Key
end Token
end RealmTokens
