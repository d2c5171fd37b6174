/-
Trust between an organisation and an authority. It needs a registration of the organisation's domain,
and a link on the registered host that leads to the authority. Whatever fails on the way, fails to
establish trust.
-/
import RealmTokens.Realm.WebFinger

namespace RealmTokens

inductive Trust where
  | trusted
  | notTrusted
  deriving DecidableEq, Repr

namespace Trust

def isTrusted : Trust → Bool
  | .trusted => true
  | .notTrusted => false

def realmRelation : String := "http://schemas.microsoft.com/rel/trusted-realm"

def sameIgnoringCase (a b : String) : Bool :=
  Text.asciiLowercase a.toList == Text.asciiLowercase b.toList

/-- Whether a link says that the realm of the authority is trusted. -/
def linkTrusts (authority : Url) (link : Link) : Bool :=
  match link.rel, link.href with
  | some rel, some href =>
      match Url.parse href with
      | .error _ => false
      | .ok target =>
          sameIgnoringCase target.scheme authority.scheme &&
            sameIgnoringCase target.authorityText authority.authorityText && rel == realmRelation
  | _, _ => false

def realmIsTrusted (authority : Url) (w : WebFinger) : Bool :=
  w.allLinks.any (linkTrusts authority)

def ofDocument (authority : Url) (w : WebFinger) : Trust :=
  if realmIsTrusted authority w then .trusted else .notTrusted

/-- Finds the registration of a domain, asks its host about the authority, and decides. -/
def validate (r : Registrar) (transport : Exchange.Transport) (authority : Url) (domain : String) :
    Exchange Trust := do
  let registration ← r.discover transport domain
  let document ← WebFinger.request r.client transport authority registration
  return ofDocument authority document

/-- Whether trust is established. A failure counts as no. -/
def isEstablished : Except Failure Trust → Bool
  | .ok decision => decision.isTrusted
  | .error _ => false

end Trust
end RealmTokens
