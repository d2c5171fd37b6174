/-
Requests, responses, and the transport between them. A transport may answer each request as it likes,
and its answer may depend on all earlier requests.
-/
import RealmTokens.Failure
import RealmTokens.Json.Decode
import RealmTokens.Time.Span

namespace RealmTokens

/-- The number of correlation ids, which have 128 bits. -/
def correlationLimit : Nat := 340282366920938463463374607431768211456

/-- A number that marks the requests that belong together. -/
structure CorrelationId where
  value : Nat
  lt : value < correlationLimit
  deriving DecidableEq, Repr

namespace CorrelationId

/-- The last `count` hexadecimal digits of a number. -/
def hexDigits : Nat → Nat → List Char
  | 0, _ => []
  | count + 1, n => hexDigits count (n / 16) ++ [Text.hexDigit (n % 16)]

/-- Digits in lowercase, in groups of 8, 4, 4, 4 and 12. -/
def chars (id : CorrelationId) : List Char :=
  let ds := hexDigits 32 id.value
  ds.take 8 ++ '-' :: (ds.drop 8).take 4 ++ '-' :: (ds.drop 12).take 4 ++
    '-' :: (ds.drop 16).take 4 ++ '-' :: ds.drop 20

def render (id : CorrelationId) : String := String.ofList id.chars

def ofDigits? (ds : List Char) : Option CorrelationId := do
  let n := Text.ofHexValues (← ds.mapM Text.hexValue?)
  if h : n < correlationLimit then if ds.length = 32 then some ⟨n, h⟩ else none else none

def ofGroups? (cs : List Char) : Option CorrelationId :=
  let groups := cs.splitOn '-'
  if groups.map List.length = [8, 4, 4, 4, 12] then ofDigits? groups.flatten else none

/-- The mark in front of groups of digits, which may be in capitals. -/
def nameMark : List Char := "urn:uuid:".toList

/-- Digits alone or in groups, and groups between braces or behind a mark. -/
def ofString? (s : String) : Option CorrelationId :=
  let cs := s.toList
  if cs.length = 32 then ofDigits? cs
  else if cs.head? = some '\x7b' ∧ cs.getLast? = some '\x7d' then ofGroups? (cs.drop 1).dropLast
  else if (cs.take nameMark.length).map Char.toLower = nameMark then ofGroups? (cs.drop nameMark.length)
  else ofGroups? cs

end CorrelationId

namespace Exchange

abbrev Headers := List (String × String)

def acceptHeader : String × String := ("accept", "application/json")

/-- The headers of every request. A correlation id is sent, and asked back for. -/
def headers (correlation : Option CorrelationId) : Headers :=
  match correlation with
  | none => [acceptHeader]
  | some id =>
      [acceptHeader, ("client-request-id", id.render), ("return-client-request-id", "true")]

structure Request where
  url : Url
  headers : Headers
  timeout : Time.Span
  deriving DecidableEq, Repr

structure Response where
  url : Url
  status : Status
  body : String
  deriving DecidableEq, Repr

/-- The answer to the newest request of a session. -/
abbrev Transport := List Request → Except Failure Response

/-- All requests so far, the newest first. -/
abbrev Session := List Request

end Exchange

open Exchange in
/-- What may send requests on its way to a value. Requests stay sent when it fails. -/
abbrev Exchange (α : Type) := ExceptT Failure (StateM Session) α

namespace Exchange

def send (transport : Transport) (request : Request) : Exchange Response :=
  ExceptT.mk (fun session => (transport (request :: session), request :: session))

/-- The failure that a response with another status than the expected one is. -/
def Response.failure (r : Response) : Failure :=
  .status r.status r.url (if r.body = "" then none else some r.body)

/-- Refuses all responses but those with the status 200. -/
def Response.ensureOk (r : Response) : Except Failure Unit :=
  if r.status = Status.ok then .ok () else .error r.failure

def decodeBody {α : Type} (kind : Document) (decode : Json.Decoder α) (body : String) :
    Except Failure α :=
  match Json.decode? decode body with
  | some value => .ok value
  | none => .error (.document kind .undecodable)

end Exchange
end RealmTokens
