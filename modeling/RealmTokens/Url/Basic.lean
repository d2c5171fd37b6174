/-
URLs by their parts. Every part holds the text with which it is written. Main definition: `Url.render`.
-/
import RealmTokens.Url.Host

namespace RealmTokens
namespace Url

/-- What stands between the slashes: who asks, and which host at which port. -/
structure Authority where
  username : String
  password : String
  host : Option Host
  port : Option Nat
  deriving DecidableEq, Repr

/-- A plain path is text that no dot segment and no relative reference can change. -/
inductive Path where
  | plain (text : String)
  | segments (parts : List String)
  deriving DecidableEq, Repr

end Url

structure Url where
  scheme : String
  authority : Option Url.Authority
  path : Url.Path
  query : Option String
  fragment : Option String
  deriving DecidableEq, Repr

namespace Url

/-! ## Schemes -/

inductive SchemeKind where
  | file
  | web (port : Nat)
  | other
  deriving DecidableEq, Repr

def kindOfScheme (scheme : String) : SchemeKind :=
  if scheme = "http" then .web 80
  else if scheme = "https" then .web 443
  else if scheme = "ws" then .web 80
  else if scheme = "wss" then .web 443
  else if scheme = "ftp" then .web 21
  else if scheme = "file" then .file
  else .other

namespace SchemeKind

/-- Whether the scheme gives hosts a meaning and reads a backslash as a slash. -/
def isSpecial : SchemeKind → Bool
  | .other => false
  | _ => true

def defaultPort? : SchemeKind → Option Nat
  | .web port => some port
  | _ => none

end SchemeKind

/-! ## Text -/

def Authority.userinfo (a : Authority) : String :=
  if a.username = "" ∧ a.password = "" then ""
  else a.username ++ (if a.password = "" then "" else ":" ++ a.password) ++ "@"

/-- The text of the host, which is empty where there is none. -/
def Authority.hostText (a : Authority) : String :=
  (a.host.map Host.render).getD ""

def Authority.portText (a : Authority) : String :=
  match a.port with
  | none => ""
  | some port => ":" ++ toString port

def Authority.render (a : Authority) : String :=
  a.userinfo ++ a.hostText ++ a.portText

/-- Segments in order, each behind a slash. -/
def joinSegments : List String → String
  | [] => ""
  | segment :: rest => "/" ++ segment ++ joinSegments rest

def Path.render : Path → String
  | .plain text => text
  | .segments parts => joinSegments parts

/-- What a path without authority starts with, so that it does not look like one with authority. -/
def Path.shield : Path → String
  | .segments ("" :: _ :: _) => "/."
  | _ => ""

/-- The text between slashes, empty where there is none. -/
def authorityText (u : Url) : String :=
  (u.authority.map Authority.render).getD ""

def pathText (u : Url) : String :=
  u.path.render

def host? (u : Url) : Option Host :=
  u.authority.bind Authority.host

def hostText? (u : Url) : Option String :=
  u.host?.map Host.render

def port? (u : Url) : Option Nat :=
  u.authority.bind Authority.port

def frontText (u : Url) : String :=
  u.scheme ++ ":" ++
    (match u.authority with
      | some a => "//" ++ a.render
      | none => u.path.shield) ++
    u.pathText

def render (u : Url) : String :=
  u.frontText ++ (match u.query with | some q => "?" ++ q | none => "") ++
    (match u.fragment with | some f => "#" ++ f | none => "")

end Url
end RealmTokens
