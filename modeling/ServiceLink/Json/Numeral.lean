import ServiceLink.Json.Basic

/-! Number literals and the numbers they stand for. -/

namespace ServiceLink

/-- The parts of a number literal: sign, digits before the point, digits after it, and exponent. -/
structure Numeral where
  negative : Bool
  whole : List Nat
  fraction : Option (List Nat)
  exponent : Option (Bool × List Nat)
deriving Repr

namespace Numeral

/-- Take in digits as long as the value stays below 2⁶⁴; the count of those left over goes with it. -/
def absorb (value : Nat) : List Nat → Nat × Nat
  | [] => (value, 0)
  | d :: rest =>
    if value * 10 + d < Word.unsignedEnd then absorb (value * 10 + d) rest
    else (value, rest.length + 1)

def significand (n : Numeral) : Nat :=
  (absorb (absorb 0 n.whole).1 (n.fraction.getD [])).1

/-- A whole digit left over counts one up, a digit taken from the fraction one down. -/
def position (n : Numeral) : Int :=
  let (value, rest) := absorb 0 n.whole
  let fraction := n.fraction.getD []
  (rest : Int) - (fraction.length - (absorb value fraction).2 : Nat)

/-- The magnitude of an exponent, if it stays below 2³¹. -/
def bounded : List Nat → Nat → Option Nat
  | [], e => some e
  | d :: rest, e => if e * 10 + d < 2147483648 then bounded rest (e * 10 + d) else none

def powerOfTen (e : Nat) : Float := Float.ofScientific 1 false e

/-- Scale by a power of ten: one product up to 10³⁰⁸, one quotient down to 10⁻³⁰⁸, and below that a
quotient by 10³⁰⁸ at a time. A product that leaves the range of doubles has no value. -/
def scaled (x : Float) (e : Int) : Option Float :=
  if 0 ≤ e then
    if e ≤ 308 then
      let y := x * powerOfTen e.toNat
      if y.isInf then none else some y
    else if x == 0.0 then some x else none
  else if -308 ≤ e then some (x / powerOfTen (-e).toNat)
  else if x == 0.0 then some x
  else scaled (x / powerOfTen 308) (e + 308)
termination_by (-e).toNat

/-- The double of a literal with a point, an exponent or more digits than an integer can have. -/
def double? (n : Numeral) : Option Float :=
  let significand := n.significand
  let x := significand.toUInt64.toFloat
  match n.exponent with
  | none => scaled x n.position
  | some (down, digits) =>
    match bounded digits 0 with
    | some e => scaled x (n.position + if down then -(e : Int) else e)
    | none => if significand ≠ 0 ∧ ¬ down then none else some 0.0

def signed (n : Numeral) (x : Float) : Number :=
  .double (.ofFloat (if n.negative then -x else x))

/-- An integer literal in range is an integer, except that minus zero is a double. -/
def value? (n : Numeral) : Option Number :=
  match absorb 0 n.whole, n.fraction, n.exponent with
  | (value, 0), none, none =>
    if ¬ n.negative then some (.integer value)
    else if value = 0 ∨ Word.signedEnd < value then some (n.signed value.toUInt64.toFloat)
    else some (.integer (-value))
  | _, _, _ => n.double?.map n.signed

end Numeral
end ServiceLink
