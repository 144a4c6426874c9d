import ServiceLink.Text.Pieces
import ServiceLink.Url.Percent

/-! Numeric addresses as hosts of URLs. -/

namespace ServiceLink.Url

open Text

def digitOf? (base : Nat) (c : Char) : Option Nat := (hexValue? c).filter (· < base)

def numberOf? (base : Nat) (cs : List Char) : Option Nat :=
  cs.foldlM (fun n c => (digitOf? base c).map (n * base + ·)) 0

/-- A part of an IPv4 address: decimal, octal after a zero, hexadecimal after `0x`. The sign alone
counts as zero. -/
def ipv4Number? : List Char → Option Nat
  | [] => none
  | '0' :: 'x' :: r | '0' :: 'X' :: r => numberOf? 16 r
  | '0' :: d :: r => numberOf? 8 (d :: r)
  | r => numberOf? 10 r

/-- A host whose last part is a number is an IPv4 address or nothing. A point at the end does not
count. -/
def endsInNumber (host : List Char) : Bool :=
  let parts := (pieces (· = '.') host).reverse
  let last := match parts with
    | [] :: rest => rest.head?
    | part :: _ => some part
    | [] => none
  match last with
  | none => false
  | some part => (part ≠ [] ∧ part.all (·.isDigit)) ∨ (ipv4Number? part).isSome

/-- The last part fills the bytes that the parts before it leave. -/
def ipv4OfParts? (parts : List Nat) : Option Nat :=
  match parts.reverse with
  | [] => none
  | last :: front =>
    if 3 < front.length ∨ front.any (255 < ·) ∨ Nat.pow 256 (4 - front.length) ≤ last then none
    else some (front.reverse.foldl (· * 256 + ·) 0 * Nat.pow 256 (4 - front.length) + last)

def ipv4? (host : List Char) : Option Nat :=
  let parts := pieces (· = '.') host
  let parts := if parts.getLast? = some [] then parts.dropLast else parts
  if 4 < parts.length then none
  else (parts.mapM ipv4Number?).bind ipv4OfParts?

def ipv4Text (address : Nat) : String :=
  String.intercalate "." ([3, 2, 1, 0].map fun i => toString (address / Nat.pow 256 i % 256))

/-- An IPv6 piece: one to four hexadecimal digits. -/
def ipv6Piece? (cs : List Char) : Option Nat :=
  if cs = [] ∨ 4 < cs.length then none else numberOf? 16 cs

/-- A byte of an IPv4 address inside an IPv6 address: decimal without leading zeros. -/
def ipv4Byte? (cs : List Char) : Option Nat :=
  if cs = [] ∨ (1 < cs.length ∧ cs.head? = some '0') then none
  else (numberOf? 10 cs).filter (· < 256)

/-- The two pieces an IPv4 address makes. -/
def embedded? (cs : List Char) : Option (List Nat) := do
  match ← (pieces (· = '.') cs).mapM ipv4Byte? with
  | [a, b, c, d] => some [a * 256 + b, c * 256 + d]
  | _ => none

/-- Pieces between colons; the last may be an IPv4 address. -/
def ipv6Run? : List (List Char) → Option (List Nat)
  | [] => some []
  | [last] => if '.' ∈ last then embedded? last else (ipv6Piece? last).map ([·])
  | cs :: rest => do return (← ipv6Piece? cs) :: (← ipv6Run? rest)

/-- The parts before and after the double colon, if there is one. -/
def splitDouble : List Char → Option (List Char × List Char)
  | [] => none
  | ':' :: ':' :: r => some ([], r)
  | c :: r => (splitDouble r).map fun p => (c :: p.1, p.2)

def ipv6Side? (cs : List Char) : Option (List Nat) :=
  if cs = [] then some [] else ipv6Run? (pieces (· = ':') cs)

/-- A double colon stands for at least one zero piece. -/
def ipv6? (cs : List Char) : Option (List Nat) := do
  match splitDouble cs with
  | none => (← ipv6Side? cs) |> fun ps => if ps.length = 8 then some ps else none
  | some (left, right) =>
    if '.' ∈ left then none
    else
      let front ← ipv6Side? left
      let back ← ipv6Side? right
      if front.length + back.length < 8 then
        some (front ++ List.replicate (8 - front.length - back.length) 0 ++ back)
      else none

/-- The longest run of two or more zero pieces, the first of several: where it starts and its length. -/
def zeroRun (ps : List Nat) : Option (Nat × Nat) :=
  (List.range ps.length).foldl (fun best i =>
    let length := ((ps.drop i).takeWhile (· = 0)).length
    if 2 ≤ length ∧ (best.map (·.2)).getD 0 < length then some (i, length) else best) none

def ipv6PieceText (n : Nat) : String := String.ofList (Nat.toDigits 16 n)

def colonText (ps : List Nat) : String := String.intercalate ":" (ps.map ipv6PieceText)

def ipv6Text (ps : List Nat) : String :=
  match zeroRun ps with
  | none => colonText ps
  | some (start, length) => colonText (ps.take start) ++ "::" ++ colonText (ps.drop (start + length))

example : (ipv6? "1::8:0:0:9".toList).map ipv6Text = some "1::8:0:0:9" := by decide +kernel

end ServiceLink.Url
