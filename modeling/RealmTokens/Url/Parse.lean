/-
Reading URLs. A text without a scheme is a reference, which only another URL can complete.
-/
import RealmTokens.Url.Path

namespace RealmTokens
namespace Url

def trim (s : String) : List Char :=
  let invisible := fun (c : Char) => c.toNat ≤ 0x20
  Text.dropEndWhile invisible (s.toList.dropWhile invisible)

/-- A text cut in front of its query and its fragment. Only in front of them are breaks kept. -/
structure Reference where
  text : List Char
  query : Option (List Char)
  fragment : Option (List Char)

def Reference.front (r : Reference) : List Char :=
  dropBreaks r.text

/-- The text up to a mark, and the text behind it if the mark is there. -/
def cutAt (mark : Char) (cs : List Char) : List Char × Option (List Char) :=
  match cs.dropWhile (· != mark) with
  | [] => (cs, none)
  | _ :: rest => (cs.takeWhile (· != mark), some rest)

def Reference.ofChars (cs : List Char) : Reference :=
  let (body, fragment) := cutAt '#' cs
  let (text, query) := cutAt '?' body
  ⟨text, query.map dropBreaks, fragment.map dropBreaks⟩

def encodeQuery (special : Bool) (cs : List Char) : String :=
  String.ofList (Percent.encode (Percent.querySet special) cs)

def encodeFragment (cs : List Char) : String :=
  String.ofList (Percent.encode Percent.fragmentSet cs)

/-- The URL of these parts, with the query and the fragment of a reference. -/
def Reference.complete (r : Reference) (scheme : String) (authority : Option Authority)
    (path : Path) : Url :=
  ⟨scheme, authority, path, r.query.map (encodeQuery (kindOfScheme scheme).isSpecial),
    r.fragment.map encodeFragment⟩

def isSchemeChar (c : Char) : Bool :=
  c.isAlphanum || c == '+' || c == '-' || c == '.'

def scheme? (cs : List Char) : Option (String × List Char) :=
  match cutAt ':' cs with
  | (name, some rest) =>
      let name := dropBreaks name
      if name.head?.any Char.isAlpha && name.all isSchemeChar then
        some (String.ofList (Text.asciiLowercase name), rest)
      else none
  | (_, none) => none

/-! ## Authority -/

/-- The text in front of the last at sign and the text behind it. -/
def cutUserinfo (cs : List Char) : Option (List Char) × List Char :=
  if cs.contains '@' then
    let host := (cs.reverse.takeWhile (· != '@')).reverse
    (some (cs.take (cs.length - host.length - 1)), host)
  else (none, cs)

def encodeUserinfo (cs : List Char) : String :=
  String.ofList (Percent.encode Percent.userinfoSet cs)

/-- Host text and port text. Colons between brackets belong to the host. -/
def cutPort (inside : Bool) : List Char → List Char × Option (List Char)
  | [] => ([], none)
  | c :: rest =>
      if c == ':' && !inside then ([], some rest)
      else
        let (host, port) := cutPort (if c == '[' then true else if c == ']' then false else inside) rest
        (c :: host, port)

/-- The port of decimal digits, which is none when there are none or when it is the default. -/
def portOfDigits? (kind : SchemeKind) (digits : List Char) : Except Fault (Option Nat) :=
  let port := Text.ofDecimal digits
  if 65535 < port then .error .invalidPort
  else if digits.isEmpty || kind.defaultPort? == some port then .ok none
  else .ok (some port)

/-- The host of a text, which is none when the text is empty. -/
def hostOfText? (kind : SchemeKind) (cs : List Char) : Except Fault (Option Host) :=
  if cs.isEmpty then (if kind.isSpecial then .error .emptyHost else .ok none)
  else if kind.isSpecial then (Host.ofMeaning? cs).map some
  else (Host.ofText? cs).map some

/-- An authority, and the text that does not belong to its port. -/
structure ParsedAuthority where
  authority : Authority
  rest : List Char

/--
Reads user, password, host and port. `more` says that text follows the authority. A backslash ends the
port, and what follows it belongs to the path.
-/
def authority? (kind : SchemeKind) (more : Bool) (cs : List Char) : Except Fault ParsedAuthority := do
  let (userinfo, hostPort) := cutUserinfo cs
  if userinfo = some [] ∧ hostPort = [] ∧ more then throw .emptyHost
  let (username, password) := cutAt ':' (userinfo.getD [])
  let (hostText, portText) := cutPort false hostPort
  let host ← hostOfText? kind hostText
  if host.isNone ∧ portText.isSome then throw .emptyHost
  let digits := (portText.getD []).takeWhile Char.isDigit
  let rest := (portText.getD []).dropWhile Char.isDigit
  let port ← portOfDigits? kind digits
  if !(rest.isEmpty || rest.head? == some '\\') then throw .invalidPort
  let named := !username.isEmpty || !(password.getD []).isEmpty
  if named && host.isNone then throw .emptyHost
  return ⟨⟨encodeUserinfo username, encodeUserinfo (password.getD []), host, port⟩, rest⟩

def pathBehindAuthority (special : Bool) (cs : List Char) : Path :=
  if special then extendPath true [] (dropSlash true cs)
  else if cs.isEmpty then .segments []
  else extendPath false [] (dropSlash false cs)

/-- A URL with an authority, read from the text behind the two slashes. -/
def withAuthority (scheme : String) (cs : List Char) (r : Reference) : Except Fault Url := do
  let kind := kindOfScheme scheme
  let ends := isSlash kind.isSpecial
  let front := cs.takeWhile (fun c => !ends c)
  let behind := cs.dropWhile (fun c => !ends c)
  let more := !behind.isEmpty || r.query.isSome || r.fragment.isSome
  let parsed ← authority? kind more front
  return r.complete scheme (some parsed.authority)
    (pathBehindAuthority kind.isSpecial (parsed.rest ++ behind))

/-! ## References -/

def Path.parts : Path → List String
  | .plain _ => []
  | .segments parts => parts

def samePlace (base : Url) (r : Reference) : Url :=
  let special := (kindOfScheme base.scheme).isSpecial
  ⟨base.scheme, base.authority, base.path,
    (match r.query with | some q => some (encodeQuery special q) | none => base.query),
    r.fragment.map encodeFragment⟩

def relative (base : Url) (r : Reference) : Except Fault Url :=
  let special := (kindOfScheme base.scheme).isSpecial
  let slashes := r.front.takeWhile (isSlash true)
  match r.front with
  | [] => .ok (samePlace base r)
  | c :: rest =>
      if 2 ≤ slashes.length then
        let behind :=
          if ['/', '/'].isPrefixOf r.front then r.front.drop 2 else r.front.drop slashes.length
        withAuthority base.scheme behind r
      else if isSlash true c then
        .ok (r.complete base.scheme base.authority (extendPath special [] rest))
      else
        .ok (r.complete base.scheme base.authority
          (extendPath special base.path.parts.dropLast r.front))

/-! ## Files -/

/-- The path of a file, from segments that lead to it and the texts behind them. -/
def filePath (parts : List String) (texts : List (List Char)) : Walk :=
  let w := Walk.all true ⟨parts, false⟩ texts
  ⟨collapse w.parts, w.drive⟩

def fileAuthority (host : Option Host) : Option Authority :=
  some ⟨"", "", host, none⟩

/-- The host of a file. The local host is none. -/
def fileHost? (cs : List Char) : Except Fault (Option Host) :=
  if cs.isEmpty then .ok none
  else (Host.ofMeaning? cs).map (fun h => if h = .name "localhost" then none else some h)

/-- A file with the text behind two slashes. A path that starts with a drive letter has no host. -/
def fileWithHost (cs : List Char) (r : Reference) : Except Fault Url := do
  let hostText := dropBreaks (cs.takeWhile (fun c => !isSlash true c))
  let behind := cs.dropWhile (fun c => !isSlash true c)
  let host ← if isLooseDrive hostText then .ok none else fileHost? hostText
  match host with
  | none =>
      let text := if isLooseDrive hostText then cs else behind
      return r.complete "file" (fileAuthority none) (.segments (filePath [] (pieces true text)).parts)
  | some host =>
      let w := filePath [] (pieces true (dropSlash true behind))
      return r.complete "file" (fileAuthority (if w.drive then none else some host))
        (.segments w.parts)

/-- A file whose path starts at the root of the drive or the host of the base. -/
def fileAtRoot (base : Option Url) (rest : List Char) (r : Reference) : Url :=
  let drive := (base.bind (fun b => b.path.parts.head?)).filter (fun s => isDrive s.toList)
  let host := base.bind Url.host?
  let (host, parts) :=
    if startsWithDrive (dropBreaks rest) then (none, [])
    else match drive with
      | some drive => (none, [drive])
      | none => (host, [])
  r.complete "file" (fileAuthority host) (.segments (filePath parts (pieces true rest)).parts)

/--
The path beside the path of a file. When that ends in a drive letter, the drive letter stays, and unless
it is the whole path the text goes on where it ends.
-/
def pathBeside (parts : List String) (cs : List Char) : List String :=
  match parts.getLast?, pieces true cs with
  | some last, text :: later =>
      if !isDrive last.toList then (filePath parts.dropLast (text :: later)).parts
      else if parts.length = 1 || isDot (segment text) then (filePath parts (text :: later)).parts
      else if isDoubleDot (segment text) then
        if later.isEmpty then parts else (filePath parts later).parts
      else (filePath parts.dropLast ((last.toList ++ text) :: later)).parts
  | _, texts => (filePath [] texts).parts

/-- A file beside the base, or at the root when there is none. -/
def fileBeside (base : Option Url) (cs : List Char) (r : Reference) : Url :=
  match base.filter (fun _ => !startsWithDrive (dropBreaks cs)) with
  | some base => r.complete "file" base.authority (.segments (pathBeside base.path.parts cs))
  | none =>
      r.complete "file" (fileAuthority none) (.segments (filePath [] (pieces true cs)).parts)

def file (base : Option Url) (r : Reference) : Except Fault Url :=
  match r.text.dropWhile isBreak, base with
  | [], some base => .ok (samePlace base r)
  | [], none => .ok (fileBeside none [] r)
  | c :: rest, base =>
      if !isSlash true c then .ok (fileBeside base (c :: rest) r)
      else
        match rest.dropWhile isBreak with
        | d :: more =>
            if isSlash true d then fileWithHost more r else .ok (fileAtRoot base rest r)
        | [] => .ok (fileAtRoot base [] r)

/-! ## All URLs -/

def ofOther (scheme : String) (r : Reference) : Except Fault Url :=
  match r.front with
  | '/' :: '/' :: rest => withAuthority scheme rest r
  | '/' :: rest => .ok (r.complete scheme none (extendPath false [] rest))
  | front =>
      .ok (r.complete scheme none
        (.plain (String.ofList (Percent.encode Percent.controlSet front))))

def ofScheme (base : Option Url) (scheme : String) (r : Reference) : Except Fault Url :=
  match kindOfScheme scheme with
  | .file => file (base.filter (fun b => b.scheme == "file")) r
  | .other => ofOther scheme r
  | .web _ =>
      let slashes := r.front.takeWhile (isSlash true)
      let absolute := withAuthority scheme (r.front.drop slashes.length) r
      match base with
      | some base =>
          if base.scheme = scheme ∧ slashes.length < 2 then relative base r else absolute
      | none => absolute

def ofReference (base : Option Url) (r : Reference) : Except Fault Url :=
  match base with
  | none => .error .relativeWithoutBase
  | some base =>
      if r.front.isEmpty && r.query.isNone && r.fragment.isSome then
        .ok ⟨base.scheme, base.authority, base.path, base.query, r.fragment.map encodeFragment⟩
      else
        match base.path with
        | .plain _ => .error .relativeToPlainPath
        | .segments _ => if base.scheme = "file" then file (some base) r else relative base r

def resolve (base : Option Url) (s : String) : Except Fault Url :=
  match scheme? (trim s) with
  | some (scheme, rest) => ofScheme base scheme (Reference.ofChars rest)
  | none => ofReference base (Reference.ofChars (trim s))

def parse (s : String) : Except Fault Url := resolve none s

/-- The URL that a reference stands for on this page. -/
def join (base : Url) (reference : String) : Except Fault Url := resolve (some base) reference

end Url
end RealmTokens
