/-
Hosts of URLs. A scheme that the web knows gives its hosts a meaning: domain names are brought into
ASCII, and numbers are addresses. The host of any other scheme is kept as it is written.
-/
import RealmTokens.Domain.Ascii
import RealmTokens.Text.Utf8
import RealmTokens.Url.Address

namespace RealmTokens
namespace Url

inductive Fault where
  | relativeWithoutBase
  | relativeToPlainPath
  | emptyHost
  | invalidPort
  | invalidIpv4
  | invalidIpv6
  | forbiddenHostCharacter
  | invalidDomain
  deriving DecidableEq, Repr

def Fault.message : Fault → String
  | .relativeWithoutBase => "relative URL without a base"
  | .relativeToPlainPath => "relative URL with a cannot-be-a-base base"
  | .emptyHost => "empty host"
  | .invalidPort => "invalid port number"
  | .invalidIpv4 => "invalid IPv4 address"
  | .invalidIpv6 => "invalid IPv6 address"
  | .forbiddenHostCharacter => "invalid domain character"
  | .invalidDomain => "invalid international domain name"

inductive Host where
  | name (text : String)
  | ipv4 (address : UInt32)
  | ipv6 (address : Ipv6)
  deriving DecidableEq, Repr

namespace Host

def chars : Host → List Char
  | .name text => text.toList
  | .ipv4 address => Ipv4.chars address
  | .ipv6 address => '[' :: (Ipv6.chars address ++ [']'])

def render (host : Host) : String := String.ofList host.chars

def bracketed? (cs : List Char) : Except Fault Host :=
  match cs with
  | '[' :: rest =>
      if rest.getLast? = some ']' then
        match Ipv6.ofChars? rest.dropLast with
        | some address => .ok (.ipv6 address)
        | none => .error .invalidIpv6
      else .error .invalidIpv6
  | _ => .error .invalidIpv6

/-- The domain name that a host text stands for, in ASCII. -/
def domain? (cs : List Char) : Option (List Char) :=
  (Text.ofUtf8? (Percent.decode cs)).bind Domain.toAscii?

/-- A host of a scheme that gives hosts a meaning. -/
def ofMeaning? (cs : List Char) : Except Fault Host :=
  if cs.head? = some '[' then bracketed? cs
  else
    match domain? cs with
    | none => .error .invalidDomain
    | some domain =>
        if domain.isEmpty then .error .emptyHost
        else if Ipv4.endsInNumber domain then
          match Ipv4.ofChars? domain with
          | some address => .ok (.ipv4 address)
          | none => .error .invalidIpv4
        else .ok (.name (String.ofList domain))

def isForbidden (c : Char) : Bool :=
  c == '\x00' || c == '\t' || c == '\n' || c == '\r' || " #/:<>?@[\\]^|".toList.contains c

def ofText? (cs : List Char) : Except Fault Host :=
  if cs.head? = some '[' then bracketed? cs
  else if cs.any isForbidden then .error .forbiddenHostCharacter
  else .ok (.name (String.ofList (Percent.encode Percent.controlSet cs)))

end Host
end Url
end RealmTokens
