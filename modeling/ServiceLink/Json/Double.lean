/-! Binary floating-point numbers of 64 bits by their bit patterns, and their decimal text: the fewest
digits that read back, of several such the nearest, of two nearest the one with an even last digit. -/

namespace ServiceLink

/-- A finite double by its bits, so that the two zeros differ. -/
structure Double where
  bits : UInt64
deriving DecidableEq, Repr, Inhabited

namespace Double

def ofFloat (x : Float) : Double := ⟨x.toBits⟩

def toFloat (x : Double) : Float := Float.ofBits x.bits

def isNegative (x : Double) : Bool := x.bits >>> 63 = 1

/-- The biased exponent. -/
def scale (x : Double) : Nat := ((x.bits >>> 52) &&& 0x7ff).toNat

/-- The stored part of the significand. -/
def fraction (x : Double) : Nat := (x.bits &&& 0xfffffffffffff).toNat

def isZero (x : Double) : Bool := x.scale = 0 ∧ x.fraction = 0

/-- The magnitude is `significand * 2 ^ exponent`. -/
def significand (x : Double) : Nat :=
  if x.scale = 0 then x.fraction else Nat.pow 2 52 + x.fraction

def exponent (x : Double) : Int :=
  (if x.scale = 0 then 1 else x.scale : Nat) - 1075

/-- The reals that round to a magnitude: from `low` to `high` around `middle`, all over `unit`, the ends
included where `closed`. -/
structure Rounding where
  low : Nat
  middle : Nat
  high : Nat
  unit : Nat
  closed : Bool

/-- The neighbours are one unit in the last place away, below a power of two half as far. -/
def rounding (x : Double) : Rounding :=
  let below := if x.fraction = 0 ∧ 1 < x.scale then 1 else 2
  let up := Nat.pow 2 (x.exponent - 2).toNat
  { low := (4 * x.significand - below) * up
    middle := 4 * x.significand * up
    high := (4 * x.significand + 2) * up
    unit := Nat.pow 2 (2 - x.exponent).toNat
    closed := x.significand % 2 = 0 }

namespace Rounding

/-- The same interval measured in units of `10 ^ grid`. -/
def onGrid (r : Rounding) (grid : Int) : Rounding :=
  let down := Nat.pow 10 (-grid).toNat
  { r with
    low := r.low * down
    middle := r.middle * down
    high := r.high * down
    unit := r.unit * Nat.pow 10 grid.toNat }

def holds (r : Rounding) (n : Nat) : Bool :=
  let point := n * r.unit
  if r.closed then r.low ≤ point ∧ point ≤ r.high else r.low < point ∧ point < r.high

/-- The nearest whole number that rounds to the magnitude. -/
def nearest? (r : Rounding) : Option Nat :=
  let floor := r.middle / r.unit
  match r.holds floor, r.holds (floor + 1) with
  | false, false => none
  | true, false => some floor
  | false, true => some (floor + 1)
  | true, true =>
    let past := 2 * (r.middle % r.unit)
    if past < r.unit then some floor
    else if past > r.unit then some (floor + 1)
    else if floor % 2 = 0 then some floor else some (floor + 1)

/-- Try the grids from the coarse to the fine. -/
def search (r : Rounding) : Nat → Int → Nat × Int
  | 0, grid => ((r.onGrid grid).middle / (r.onGrid grid).unit, grid)
  | fuel + 1, grid =>
    match (r.onGrid grid).nearest? with
    | some n => (n, grid)
    | none => search r fuel (grid - 1)

end Rounding

def digits (n : Nat) : List Char := Nat.toDigits 10 n

/-- The shortest decimal `n * 10 ^ grid` of a magnitude. Seventeen digits always suffice, and the first
grid lies at most two above the leading digit. -/
def shortest (x : Double) : Nat × Int :=
  let r := x.rounding
  r.search 20 ((digits (r.middle / r.unit)).length - (digits (r.unit / r.middle)).length + 1)

/-- How a decimal is written: plain for leading digits from 10⁻⁵ up to below 10¹⁶, with at least one
digit after the point; else in scientific form with a signed exponent. -/
def format (n : Nat) (grid : Int) : List Char :=
  let ds := digits n
  let lead := grid + ds.length - 1
  if -5 ≤ lead ∧ lead < 16 then
    if 0 ≤ grid then ds ++ List.replicate grid.toNat '0' ++ ['.', '0']
    else if 0 ≤ lead then ds.take (lead + 1).toNat ++ '.' :: ds.drop (lead + 1).toNat
    else '0' :: '.' :: List.replicate (-lead - 1).toNat '0' ++ ds
  else
    let tail := if ds.length ≤ 1 then [] else '.' :: ds.drop 1
    let sign := if lead < 0 then '-' else '+'
    ds.take 1 ++ tail ++ 'e' :: sign :: digits lead.natAbs

def text (x : Double) : String :=
  let magnitude :=
    if x.isZero then ['0', '.', '0'] else format x.shortest.1 x.shortest.2
  String.ofList (if x.isNegative then '-' :: magnitude else magnitude)

end Double
end ServiceLink
