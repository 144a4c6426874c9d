import ServiceLink.Text.Blank
import ServiceLink.Text.Hex
import ServiceLink.Text.Pieces

/-! Tables of characters, for the properties of Unicode 17.0. A table is written as rows with blanks
between them. A row names a code or a range of codes in hexadecimal; behind an equals sign stands what
the table gives for them. -/

namespace ServiceLink.Text

/-- What a table says of the codes from `first` to `last`. -/
structure Row where
  first : Nat
  last : Nat
  images : List (List Nat) := []
deriving Repr

def hexNumber (digits : List Char) : Nat :=
  digits.foldl (fun n c => n * 16 + (hexValue? c).getD 0) 0

namespace Row

/-- Read a row. Commas stand between the images, plus signs between the codes of one image. -/
def ofChars (cs : List Char) : Row :=
  let codes := (pieces (· = '-') (cs.takeWhile (· ≠ '='))).map hexNumber
  let images := match cs.dropWhile (· ≠ '=') with
    | [] => []
    | _ :: r => (pieces (· = ',') r).map fun image => (pieces (· = '+') image).map hexNumber
  let first := codes.headD 0
  { first, last := max (codes.getLastD 0) (first + images.length - 1), images }

/-- Either every code of the row has an image of its own, or one code is given and the whole range is
moved with its first code. -/
def image (row : Row) (code : Nat) : List Nat :=
  match row.images with
  | [[n]] => [n + (code - row.first)]
  | images => images.getD (code - row.first) []

end Row

structure Table where
  rows : Array Row

namespace Table

/-- The rows are written in the order of their codes. -/
def ofText (text : String) : Table :=
  ⟨(((pieces isBlank text.toList).filter (· ≠ [])).map Row.ofChars).toArray⟩

/-- Look for the row of a code among those from `low` on and before `high`. -/
def search (t : Table) (code low high : Nat) : Option Row :=
  if low < high then
    let middle := (low + high) / 2
    match t.rows[middle]? with
    | none => none
    | some row =>
      if code < row.first then search t code low middle
      else if row.last < code then search t code (middle + 1) high
      else some row
  else none
termination_by high - low

def row? (t : Table) (code : Nat) : Option Row := t.search code 0 t.rows.size

def contains (t : Table) (c : Char) : Bool := (t.row? c.toNat).isSome

def image? (t : Table) (code : Nat) : Option (List Nat) := (t.row? code).map (·.image code)

/-- All codes with an image. -/
def entries (t : Table) : List (Nat × List Nat) :=
  t.rows.toList.flatMap fun row =>
    (List.range' row.first (row.last + 1 - row.first)).map fun code => (code, row.image code)

end Table

example : ((Table.ofText "41-5a=61 c0=41+300,41+301").entries.map (·.2)).getLast? = some [0x41, 0x301] := by
  decide +kernel

end ServiceLink.Text
