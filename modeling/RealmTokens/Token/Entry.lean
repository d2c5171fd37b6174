/-
Issued tokens as they are kept. Which of its parts an entry has decides what kind of token it is.
-/
import RealmTokens.Failure
import RealmTokens.Text.Blank
import RealmTokens.Time.Instant

namespace RealmTokens
namespace Token

structure User where
  userId : Option String
  displayableId : Option String
  givenName : Option String
  familyName : Option String
  identityProvider : Option String
  deriving DecidableEq, Repr

def User.ofId (id : String) : User := ⟨some id, none, none, none, none⟩

structure Response where
  accessToken : Option String
  refreshToken : Option String
  idToken : Option String
  expiresOn : Option Time.Instant
  isMultiResource : Bool
  tenantId : Option String
  familyClientId : Option String
  user : Option User
  deriving DecidableEq, Repr

def Response.userId (r : Response) : Option String := r.user.bind User.userId

structure Entry where
  authority : String
  resource : Option String
  clientId : Option String
  accessToken : Option String
  refreshToken : Option String
  rawIdToken : Option String
  expiresOn : Option Time.Instant
  isMultiResource : Bool
  tenantId : Option String
  familyClientId : Option String
  user : Option User
  deriving DecidableEq, Repr

/-- What an entry can be used for: one resource, all resources of a client, or a family of clients. -/
inductive Kind where
  | regular
  | multiResource
  | family
  deriving DecidableEq, Repr

def blankPart : Option String → Bool
  | none => true
  | some text => Text.blank text

namespace Entry

/-- What all entries take from a response. -/
def ofResponse? (authority : String) (r : Response) : Except Failure Entry :=
  if Text.blank authority then .error (.argument .authority .blank)
  else
    .ok ⟨authority, none, none, none, r.refreshToken, r.idToken, r.expiresOn, r.isMultiResource,
      r.tenantId, r.familyClientId, r.user⟩

/-- The entry of an access token for one resource. -/
def regular? (authority resource clientId : String) (r : Response) : Except Failure Entry :=
  (ofResponse? authority r).map (fun e =>
    { e with resource := some resource, clientId := some clientId, accessToken := r.accessToken })

/-- The entry of a refresh token for all resources of a client. -/
def multiResource? (authority clientId : String) (r : Response) : Except Failure Entry :=
  (ofResponse? authority r).map (fun e => { e with clientId := some clientId })

/-- The entry of a refresh token that a family of clients shares. -/
def family? (authority : String) (r : Response) : Except Failure Entry :=
  ofResponse? authority r

def kind (e : Entry) : Kind :=
  if !blankPart e.resource then .regular
  else if blankPart e.clientId then .family
  else .multiResource

def userId (e : Entry) : Option String := e.user.bind User.userId

def isFamilyToken (e : Entry) : Bool := !blankPart e.familyClientId

/--
Whether an entry expires within `buffer` of `now`. An entry without an expiry never does. A moment that
cannot be represented lies behind every expiry.
-/
def expiredAt (e : Entry) (now : Time.Instant) (buffer : Time.Span) : Bool :=
  match e.expiresOn with
  | none => false
  | some expiry =>
      match now.add? buffer with
      | none => true
      | some limit => decide (expiry < limit)

end Entry
end Token
end RealmTokens
