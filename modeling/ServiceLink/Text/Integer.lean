import ServiceLink.Text.Blank
import ServiceLink.Word

/-! Decimal integers written as text: an optional sign and at least one digit, the value within 64 bits. -/

namespace ServiceLink.Text

def digitValue? (c : Char) : Option Nat :=
  if c.isDigit then some (c.toNat - '0'.toNat) else none

/-- The value of a run of digits, if there is one digit at least. -/
def natural? : List Char → Option Nat
  | [] => none
  | cs => cs.foldlM (fun n c => (digitValue? c).map (n * 10 + ·)) 0

/-- An unsigned 64-bit integer; a plus sign may stand before it. -/
def unsigned? (cs : List Char) : Option Nat :=
  let digits := match cs with | '+' :: r => r | r => r
  (natural? digits).filter (· < Word.unsignedEnd)

/-- A signed 64-bit integer; a plus or a minus sign may stand before it. -/
def signed? (cs : List Char) : Option Int :=
  match cs with
  | '-' :: r => ((natural? r).filter (· ≤ Word.signedEnd)).map (-·)
  | '+' :: r => ((natural? r).filter (· < Word.signedEnd)).map (·)
  | r => ((natural? r).filter (· < Word.signedEnd)).map (·)

example : unsigned? (trim " +7 ".toList) = some 7 := by decide +kernel

example : signed? "-9223372036854775808".toList = some (-9223372036854775808) := by decide +kernel

end ServiceLink.Text
