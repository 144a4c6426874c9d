import ServiceLink.Url.Basic

/-! Reading a URL by the rules for web addresses, absolute or relative to a base. Blanks and controls at
the ends do not count, nor do tabs and line ends anywhere. In the special schemes a backslash is a
slash. -/

namespace ServiceLink.Url

open Text

def specialSchemes : List String := ["http", "https", "ws", "wss", "ftp", "file"]

def isSpecial (scheme : String) : Bool := scheme ∈ specialSchemes

def defaultPort? (scheme : String) : Option Nat :=
  if scheme = "http" ∨ scheme = "ws" then some 80
  else if scheme = "https" ∨ scheme = "wss" then some 443
  else if scheme = "ftp" then some 21
  else none

def isTrimmed (c : Char) : Bool := c.toNat ≤ 0x20

/-- The characters that count. -/
def clean (text : String) : List Char :=
  let cs := ((text.toList.dropWhile isTrimmed).reverse.dropWhile isTrimmed).reverse
  cs.filter fun c => ¬ (c = '\t' ∨ c = '\n' ∨ c = '\r')

def isSchemeChar (c : Char) : Bool := c.isAlphanum ∨ c ∈ ['+', '-', '.']

/-- The scheme before the first colon, in small letters, and what follows. -/
def scheme? (cs : List Char) : Option (String × List Char) :=
  match cs.takeWhile isSchemeChar, cs.dropWhile isSchemeChar with
  | c :: name, ':' :: rest =>
    if c.isAlpha then some (String.ofList ((c :: name).map Char.toLower), rest) else none
  | _, _ => none

def isSlash (c : Char) : Bool := c = '/' ∨ c = '\\'

/-- A slash ends a segment, in a special scheme a backslash too. -/
def isSeparator (special : Bool) (c : Char) : Bool := c = '/' ∨ (special ∧ c = '\\')

def isPathEnd (c : Char) : Bool := c = '?' ∨ c = '#'

def isAuthorityEnd (special : Bool) (c : Char) : Bool := isSeparator special c ∨ isPathEnd c

/-! ### Query and fragment -/

/-- Read the query and the fragment that follow a path. -/
def withTail (u : Url) (cs : List Char) : Url :=
  let (query, rest) := match cs with
    | '?' :: r => (some (r.takeWhile (· ≠ '#')), r.dropWhile (· ≠ '#'))
    | r => (none, r)
  let set := if isSpecial u.scheme then specialQuerySet else querySet
  { u with
    query := query.map fun q => String.ofList (percentEncode set q)
    fragment := match rest with
      | '#' :: r => some (String.ofList (percentEncode fragmentSet r))
      | _ => none }

/-! ### Paths -/

def dotForms : List String := [".", "%2e"]

def isSingleDot (segment : String) : Bool := segment.toLower ∈ dotForms

def isDoubleDot (segment : String) : Bool :=
  segment.toLower ∈ dotForms.flatMap fun a => dotForms.map (a ++ ·)

/-- A letter that names a drive. -/
def isDrive (segment : List Char) : Bool :=
  match segment with
  | [letter, mark] => letter.isAlpha ∧ (mark = ':' ∨ mark = '|')
  | _ => false

/-- One step back from the segments walked so far, but never out of a drive. A backslash ends its name. -/
def stepBack : List String → List String
  | [] => []
  | last :: done => if isDrive (last.toList.takeWhile (· ≠ '\\')) then last :: done else done

/-- A drive at the start of a file path is marked by a colon. -/
def asDrive (segment : List Char) : List Char :=
  if isDrive segment then segment.take 1 ++ [':'] else segment

/-- Walk through raw segments from those walked so far, last first. A double dot goes one back, a single
dot stays, and at the end each leaves an empty segment. -/
def walk (file : Bool) (done : List String) : List (List Char) → List String
  | [] => done
  | raw :: rest =>
    let segment := String.ofList (percentEncode pathSet (if file ∧ done = [] then asDrive raw else raw))
    let behind := if rest = [] then [""] else []
    if isDoubleDot segment then walk file (behind ++ stepBack done) rest
    else if isSingleDot segment then walk file (behind ++ done) rest
    else walk file (segment :: done) rest

/-- Segments from a start on, up to a query or fragment. -/
def segmentsFrom (scheme : String) (start : List String) (cs : List Char) : List String :=
  (walk (scheme = "file") start.reverse
    (pieces (isSeparator (isSpecial scheme)) (cs.takeWhile (¬ isPathEnd ·)))).reverse

/-- Read a path and what follows it. -/
def withPath (u : Url) (start : List String) (cs : List Char) : Url :=
  withTail { u with path := .segments (segmentsFrom u.scheme start cs) }
    (cs.dropWhile (¬ isPathEnd ·))

/-- The path behind a host: in a special scheme there always is one. -/
def withPathAfterHost (u : Url) (cs : List Char) : Url :=
  let special := isSpecial u.scheme
  match cs with
  | [] => if special then withPath u [] [] else u
  | c :: rest =>
    if isSeparator special c then withPath u [] rest
    else if ¬ special ∧ isPathEnd c then withTail u cs
    else withPath u [] cs

/-! ### Authority -/

/-- The parts around the last `@`. -/
def splitLastAt (cs : List Char) : Option (List Char × List Char) :=
  let back := cs.reverse
  match back.dropWhile (· ≠ '@') with
  | [] => none
  | _ :: front => some (front.reverse, (back.takeWhile (· ≠ '@')).reverse)

/-- The length of a host: up to a colon outside brackets. -/
def hostLength (inside : Bool) : List Char → Nat
  | [] => 0
  | c :: rest =>
    if c = ':' ∧ ¬ inside then 0
    else hostLength (if c = '[' then true else if c = ']' then false else inside) rest + 1

/-- The port a run of digits gives; the default port of the scheme is not kept. -/
def port? (scheme : String) (digits : List Char) : Except UrlError (Option Nat) :=
  match digits, digits.foldlM (fun n c => (digitOf? 10 c).map (n * 10 + ·)) 0 with
  | [], _ => .ok none
  | _, none => .error .port
  | _, some p =>
    if 65535 < p then .error .port
    else .ok (if defaultPort? scheme = some p then none else some p)

/-- Read what follows two slashes: credentials, host, port, path. -/
def readAuthority (scheme : String) (cs : List Char) : Except UrlError Url := do
  let special := isSpecial scheme
  let authority := cs.takeWhile (¬ isAuthorityEnd special ·)
  let rest := cs.dropWhile (¬ isAuthorityEnd special ·)
  let (userinfo, place) := (splitLastAt authority).getD ([], authority)
  if '@' ∈ authority ∧ userinfo = [] ∧ place = [] ∧ rest ≠ [] then throw .emptyHost
  let encode := fun cs => String.ofList (percentEncode userinfoSet cs)
  let username := encode (userinfo.takeWhile (· ≠ ':'))
  let password := encode (userinfo.dropWhile (· ≠ ':')).tail
  let n := hostLength false place
  let name := place.take n
  let behind := place.drop n
  if special ∧ name = [] then throw .emptyHost
  let host ← if special then Host.special name else Host.plain name
  if name = [] ∧ (behind ≠ [] ∨ username ≠ "" ∨ password ≠ "") then throw .emptyHost
  let port ← port? scheme (behind.tail.takeWhile (· ≠ '\\'))
  return withPathAfterHost
    { scheme, username, password, host := some host, port, path := .segments [] }
    (behind.tail.dropWhile (· ≠ '\\') ++ rest)

/-! ### Files -/

/-- Empty segments at the start of a file path do not count. -/
def dropEmpty : List String → List String
  | first :: next :: rest => if first = "" then dropEmpty (next :: rest) else first :: next :: rest
  | parts => parts

/-- A path that starts with a drive has no host before it. -/
def withFilePath (u : Url) : Url :=
  match u.path with
  | .rootless _ => u
  | .segments parts =>
    { u with
      host := if parts.head?.any (isDrive ·.toList) then some (.name "") else u.host
      path := .segments (dropEmpty parts) }

/-- Read what follows two slashes in a file URL. A drive is no host. The local host is not named, and the
slash behind it opens an empty segment. -/
def readFileHost (bare : Url) (cs : List Char) : Except UrlError Url := do
  let name := cs.takeWhile (¬ isAuthorityEnd true ·)
  let rest := cs.dropWhile (¬ isAuthorityEnd true ·)
  if isDrive name then return withPath bare [] cs
  if name = [] then return withPath bare [] rest
  let host ← Host.special name
  if host = .name "localhost" then return withPath bare [] rest
  return withPathAfterHost { bare with host := some host } rest

def readFile (cs : List Char) : Except UrlError Url := do
  let bare : Url := { scheme := "file", host := some (.name ""), path := .segments [] }
  let u ← match cs with
    | a :: b :: rest =>
      if isSlash a ∧ isSlash b then readFileHost bare rest else pure (withPathAfterHost bare cs)
    | _ => pure (withPathAfterHost bare cs)
  return withFilePath u

/-! ### Absolute and relative URLs -/

/-- Read what follows a scheme that is not special. -/
def readPlain (scheme : String) (cs : List Char) : Except UrlError Url :=
  match cs with
  | '/' :: '/' :: r => readAuthority scheme r
  | '/' :: r => .ok (withPath { scheme, path := .segments [] } [] r)
  | r =>
    let text := String.ofList (percentEncode controlSet (r.takeWhile (¬ isPathEnd ·)))
    .ok (withTail { scheme, path := .rootless text } (r.dropWhile (¬ isPathEnd ·)))

/-- Read a reference without a scheme against a base whose path has segments. -/
def readRelative (base : Url) (parts : List String) (cs : List Char) : Except UrlError Url :=
  let bare := { base with query := none, fragment := none }
  match cs with
  | [] => .ok { base with fragment := none }
  | c :: rest =>
    if c = '?' then .ok (withTail bare cs)
    else if c = '#' then .ok { withTail bare cs with query := base.query }
    else if isSlash c then
      if rest.head?.any isSlash then
        readAuthority base.scheme
          (if c = '/' ∧ rest.head? = some '/' then rest.tail else cs.dropWhile isSlash)
      else .ok (withPath bare [] rest)
    else .ok (withPath bare parts.dropLast cs)

/-- Read a URL, against a base if there is one. With the base's own special scheme a reference may stay
relative. -/
def read (base : Option Url) (text : String) : Except UrlError Url :=
  let cs := clean text
  let relative := fun (b : Url) (cs : List Char) =>
    match b.path with
    | .segments parts => readRelative b parts cs
    | .rootless _ => .error .relativeToRootless
  match scheme? cs, base with
  | some (scheme, rest), base =>
    if scheme = "file" then readFile rest
    else if ¬ isSpecial scheme then readPlain scheme rest
    else
      match base with
      | some b =>
        if b.scheme = scheme ∧ (rest.takeWhile isSlash).length < 2 then relative b rest
        else readAuthority scheme (rest.dropWhile isSlash)
      | none => readAuthority scheme (rest.dropWhile isSlash)
  | none, some b => relative b cs
  | none, none => .error .relativeWithoutBase

end ServiceLink.Url
