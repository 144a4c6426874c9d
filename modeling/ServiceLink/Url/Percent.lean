import ServiceLink.Text.Hex

/-! Percent-encoding of URLs and the encoding of form data. Both work on the bytes of UTF-8. -/

namespace ServiceLink.Url

open Text

def hexUpper (n : Nat) : Char := (Nat.digitChar n).toUpper

def percentByte (b : UInt8) : List Char :=
  ['%', hexUpper (b.toNat / 16), hexUpper (b.toNat % 16)]

/-- Encode the bytes of a character. -/
def percentChar (c : Char) : List Char := (String.utf8EncodeChar c).flatMap percentByte

/-- Encode the characters of a set. -/
def percentEncode (inSet : Char → Bool) (cs : List Char) : List Char :=
  cs.flatMap fun c => if inSet c then percentChar c else [c]

/-- Controls and everything beyond ASCII are in every set. -/
def controlSet (c : Char) : Bool := c.toNat < 0x20 ∨ 0x7e < c.toNat

def fragmentSet (c : Char) : Bool := controlSet c ∨ c ∈ [' ', '"', '<', '>', '\x60']

def pathSet (c : Char) : Bool := fragmentSet c ∨ c ∈ ['#', '?', '\x7b', '\x7d']

def userinfoSet (c : Char) : Bool :=
  pathSet c ∨ c ∈ ['/', ':', ';', '=', '@', '[', '\\', ']', '^', '|']

def querySet (c : Char) : Bool := controlSet c ∨ c ∈ [' ', '"', '#', '<', '>']

def specialQuerySet (c : Char) : Bool := querySet c ∨ c = '\''

/-- The bytes a text stands for; a percent sign without two hexadecimal digits stands for itself. -/
def percentDecode : List Char → List UInt8
  | [] => []
  | '%' :: a :: b :: rest =>
    match hexValue? a, hexValue? b with
    | some x, some y => UInt8.ofNat (x * 16 + y) :: percentDecode rest
    | _, _ => '%'.toUInt8 :: percentDecode (a :: b :: rest)
  | c :: rest => String.utf8EncodeChar c ++ percentDecode rest

/-- Letters, digits and four marks stand for themselves in form data, and a plus sign for a blank. -/
def formByte (b : UInt8) : List Char :=
  let c := Char.ofNat b.toNat
  if c.isAlphanum ∨ c ∈ ['*', '-', '.', '_'] then [c]
  else if c = ' ' then ['+']
  else percentByte b

def formEncode (s : String) : List Char :=
  s.toList.flatMap fun c => (String.utf8EncodeChar c).flatMap formByte

/-- One name and value of form data. -/
def formPair (name value : String) : List Char := formEncode name ++ '=' :: formEncode value

end ServiceLink.Url
