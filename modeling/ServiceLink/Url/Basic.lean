import ServiceLink.Url.Host

/-! URLs and their text. -/

namespace ServiceLink

inductive UrlPath
  /-- A path without a root stands after the scheme as it is, and nothing can be relative to it. -/
  | rootless (text : String)
  /-- Every segment has a slash before it. -/
  | segments (parts : List String)
deriving DecidableEq, Repr

def UrlPath.text : UrlPath → String
  | .rootless text => text
  | .segments parts => String.join (parts.map ("/" ++ ·))

structure Url where
  scheme : String
  username : String := ""
  password : String := ""
  host : Option Url.Host := none
  port : Option Nat := none
  path : UrlPath
  query : Option String := none
  fragment : Option String := none
deriving DecidableEq, Repr

namespace Url

/-- The name and the password before the host; an empty one is not marked. -/
def credentials (u : Url) : String :=
  if u.username = "" ∧ u.password = "" then ""
  else u.username ++ (if u.password = "" then "" else ":" ++ u.password) ++ "@"

def authority (u : Url) : String :=
  match u.host with
  | none => ""
  | some host =>
    "//" ++ u.credentials ++ host.text ++
      (match u.port with | none => "" | some p => ":" ++ toString p)

/-- Whether percent-encoded text stands for text. -/
def isReadable (s : String) : Bool := (String.fromUTF8? ⟨(percentDecode s.toList).toArray⟩).isSome

/-- The address a request is made for: credentials that can be read travel beside it. -/
def withoutCredentials (u : Url) : Url :=
  if isReadable u.username ∧ (u.username ≠ "" ∨ isReadable u.password) then
    { u with username := "", password := "" }
  else u

/-- Keeps a path that starts with two slashes from being read as a host. -/
def guardMark (u : Url) : String :=
  match u.host, u.path with
  | none, .segments ("" :: _ :: _) => "/."
  | _, _ => ""

def queryText (u : Url) : String :=
  match u.query with | none => "" | some q => "?" ++ q

def fragmentText (u : Url) : String :=
  match u.fragment with | none => "" | some f => "#" ++ f

def text (u : Url) : String :=
  u.scheme ++ ":" ++ u.authority ++ u.guardMark ++ u.path.text ++ u.queryText ++ u.fragmentText

end Url
end ServiceLink
