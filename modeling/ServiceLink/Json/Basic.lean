import ServiceLink.Dict
import ServiceLink.Json.Double
import ServiceLink.Word

/-! JSON values. Integers and doubles are told apart, and the members of an object are a list: a value
that was read has them in key order without repetition, a record about to be written has them in its
own order. -/

namespace ServiceLink

/-- Integers reach from -2⁶³ to 2⁶⁴ - 1; every other number is a double. -/
inductive Number
  | integer (z : Int)
  | double (x : Double)
deriving DecidableEq, Repr, Inhabited

inductive Json
  | null
  | bool (b : Bool)
  | number (n : Number)
  | text (s : String)
  | array (elements : List Json)
  | object (members : List (String × Json))
deriving Repr, Inhabited

namespace Number

/-- The value as an unsigned 64-bit integer. -/
def unsigned? : Number → Option Nat
  | .integer z => if 0 ≤ z ∧ z < Word.unsignedEnd then some z.toNat else none
  | .double _ => none

/-- The value as a signed 64-bit integer. -/
def signed? : Number → Option Int
  | .integer z => if -Word.signedEnd ≤ z ∧ z < Word.signedEnd then some z else none
  | .double _ => none

/-- The text of a number, also where a number stands for a version. -/
def render : Number → String
  | .integer z => if z < 0 then "-" ++ toString z.natAbs else toString z.toNat
  | .double x => x.text

end Number

namespace Json

def integer (z : Int) : Json := .number (.integer z)

/-- The value of a member. -/
def get? (key : String) : Json → Option Json
  | .object members => Entries.find? key members
  | _ => none

def text? : Json → Option String
  | .text s => some s
  | _ => none

def elements? : Json → Option (List Json)
  | .array elements => some elements
  | _ => none

def members? : Json → Option (List (String × Json))
  | .object members => some members
  | _ => none

/-- Arrays and objects are structured. -/
def isStructured : Json → Bool
  | .array _ | .object _ => true
  | _ => false

/-- The absent members of a record are left out. -/
def record (members : List (String × Option Json)) : Json :=
  .object (members.filterMap fun m => m.2.map (m.1, ·))

end Json
end ServiceLink
