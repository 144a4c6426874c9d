import ServiceLink.Json.Basic

/-! The compact text of a JSON value: no blanks, members in the order of the list. -/

namespace ServiceLink.Json

def hexDigit (n : Nat) : Char := Nat.digitChar n

/-- A quote, a backslash and the controls below the blank are escaped, by their letter if they have one;
every other character stands for itself. -/
def escape (c : Char) : List Char :=
  if c = '"' then ['\\', '"']
  else if c = '\\' then ['\\', '\\']
  else if c = '\x08' then ['\\', 'b']
  else if c = '\x09' then ['\\', 't']
  else if c = '\x0a' then ['\\', 'n']
  else if c = '\x0c' then ['\\', 'f']
  else if c = '\x0d' then ['\\', 'r']
  else if c.toNat < 0x20 then
    ['\\', 'u', '0', '0', hexDigit (c.toNat / 16), hexDigit (c.toNat % 16)]
  else [c]

def quote (s : String) : String :=
  String.ofList ('"' :: s.toList.flatMap escape ++ ['"'])

mutual

def render : Json → String
  | .null => "null"
  | .bool b => if b then "true" else "false"
  | .number n => n.render
  | .text s => quote s
  | .array elements => "[" ++ renderElements elements ++ "]"
  | .object members => "\x7b" ++ renderMembers members ++ "\x7d"

def renderElements : List Json → String
  | [] => ""
  | [j] => render j
  | j :: rest => render j ++ "," ++ renderElements rest

def renderMembers : List (String × Json) → String
  | [] => ""
  | [(key, j)] => quote key ++ ":" ++ render j
  | (key, j) :: rest => quote key ++ ":" ++ render j ++ "," ++ renderMembers rest

end

end ServiceLink.Json
