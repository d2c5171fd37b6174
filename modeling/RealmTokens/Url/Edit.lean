/-
Changes of a URL: another host, and one more pair in the query. Pairs are written as in the body of a
form, and `queryPairs` reads them back.
-/
import RealmTokens.Url.Parse

namespace RealmTokens
namespace Url

/-! ## Host -/

def withoutPort (cs : List Char) : Except Fault (List Char) :=
  if cs.head? = some '[' ∧ cs.getLast? = some ']' then .ok cs
  else
    match cutAt ':' cs with
    | ([], some _) => .error .forbiddenHostCharacter
    | (host, _) => .ok host

/-- The same URL at another host. User, port and all behind them stay. -/
def withHost (u : Url) (text : String) : Except Fault Url := do
  let cs ← withoutPort text.toList
  let host ←
    if (kindOfScheme u.scheme).isSpecial then Host.ofMeaning? cs else Host.ofText? cs
  match u.authority with
  | none => return ⟨u.scheme, some ⟨"", "", some host, none⟩, u.path, u.query, u.fragment⟩
  | some a =>
      return ⟨u.scheme, some ⟨a.username, a.password, some host, a.port⟩, u.path, u.query, u.fragment⟩

/-! ## Query -/

def isFormPlain (c : Char) : Bool :=
  c.isAlphanum || c == '*' || c == '-' || c == '.' || c == '_'

/-- A text in a form. A blank is a plus sign. -/
def encodeForm (s : String) : String :=
  String.ofList (s.toList.flatMap (fun c =>
    if c == ' ' then ['+']
    else if isFormPlain c then [c]
    else (String.utf8EncodeChar c).flatMap Percent.encodeByte))

/-- The same URL with one more pair behind its query. -/
def appendPair (u : Url) (name value : String) : Url :=
  let pair := encodeForm name ++ "=" ++ encodeForm value
  let query :=
    match u.query with
    | none => pair
    | some query => if query = "" then pair else query ++ "&" ++ pair
  ⟨u.scheme, u.authority, u.path, some query, u.fragment⟩

/-- The bytes that a text in a form stands for. -/
def decodeForm (cs : List Char) : List UInt8 :=
  Percent.decode (cs.map (fun c => if c == '+' then ' ' else c))

/-- The pairs of a query, as bytes. A pair without an equals sign has an empty value. -/
def queryPairs (u : Url) : List (List UInt8 × List UInt8) :=
  (((u.query.getD "").toList.splitOn '&').filter (fun p => !p.isEmpty)).map (fun p =>
    let (name, value) := cutAt '=' p
    (decodeForm name, decodeForm (value.getD [])))

def withoutFragment (u : Url) : Url :=
  ⟨u.scheme, u.authority, u.path, u.query, none⟩

end Url
end RealmTokens
