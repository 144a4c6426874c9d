/-! Punycode: text beyond ASCII in the letters, digits and hyphen of a host label. -/

namespace ServiceLink.Url.Punycode

def digit (d : Nat) : Char :=
  if d < 26 then Char.ofNat ('a'.toNat + d) else Char.ofNat ('0'.toNat + d - 26)

def digitValue? (c : Char) : Option Nat :=
  if c.isLower then some (c.toNat - 'a'.toNat)
  else if c.isUpper then some (c.toNat - 'A'.toNat)
  else if c.isDigit then some (c.toNat - '0'.toNat + 26)
  else none

/-- Below its threshold a digit is the last of its number. -/
def threshold (place bias : Nat) : Nat :=
  if place ≤ bias then 1 else if bias + 26 ≤ place then 26 else place - bias

theorem threshold_pos (place bias : Nat) : 1 ≤ threshold place bias := by
  unfold threshold
  split
  · omega
  · split <;> omega

def settle (delta shift : Nat) : Nat :=
  if 455 < delta then settle (delta / 35) (shift + 36) else shift + 36 * delta / (delta + 38)
termination_by delta

/-- The bias for the number after a difference of `delta`, with `count` characters placed. -/
def adapt (delta count : Nat) (isFirst : Bool) : Nat :=
  let scaled := if isFirst then delta / 700 else delta / 2
  settle (scaled + scaled / count) 0

/-- The digits of a number, the least significant first. -/
def number (bias place n : Nat) : List Char :=
  let t := threshold place bias
  if n < t then [digit n]
  else digit (t + (n - t) % (36 - t)) :: number bias (place + 36) ((n - t) / (36 - t))
termination_by n
decreasing_by
  have := threshold_pos place bias
  exact Nat.lt_of_le_of_lt (Nat.div_le_self _ _) (by omega)

structure Encoder where
  out : List Char := []
  delta : Nat := 0
  bias : Nat := 72
  placed : Nat

namespace Encoder

/-- Pass one character of the label while those with the code `code` are placed. -/
def pass (basic code : Nat) (e : Encoder) (c : Char) : Encoder :=
  if c.toNat < code then { e with delta := e.delta + 1 }
  else if c.toNat = code then
    { out := e.out ++ number e.bias 36 e.delta
      delta := 0
      bias := adapt e.delta (e.placed + 1) (e.placed = basic)
      placed := e.placed + 1 }
  else e

/-- Place all characters with a code. -/
def place (label : List Char) (basic : Nat) (e : Encoder × Nat) (code : Nat) : Encoder × Nat :=
  let start := { e.1 with delta := e.1.delta + (code - e.2) * (e.1.placed + 1) }
  let done := label.foldl (pass basic code) start
  ({ done with delta := done.delta + 1 }, code + 1)

end Encoder

def insertCode (n : Nat) : List Nat → List Nat
  | [] => [n]
  | m :: rest => if n < m then n :: m :: rest else if n = m then m :: rest else m :: insertCode n rest

def encode (label : List Char) : List Char :=
  let basic := label.filter (·.toNat < 0x80)
  let codes := ((label.filter (0x80 ≤ ·.toNat)).map Char.toNat).foldr insertCode []
  let encoded := (codes.foldl (Encoder.place label basic.length) ({ placed := basic.length }, 0x80)).1
  basic ++ (if basic = [] then [] else ['-']) ++ encoded.out

structure Decoder where
  out : List Char
  code : Nat := 0x80
  index : Nat := 0
  bias : Nat := 72
  /-- Inside a number: its value so far, the weight of the next digit and its place. -/
  begun : Option (Nat × Nat × Nat) := none

namespace Decoder

/-- Take one digit; the last digit of a number places a character. -/
def step (d : Decoder) (c : Char) : Option Decoder := do
  let v ← digitValue? c
  let (value, weight, place) := d.begun.getD (0, 1, 36)
  let t := threshold place d.bias
  let value := value + v * weight
  if v < t then
    let size := d.out.length + 1
    let code := d.code + (d.index + value) / size
    let index := (d.index + value) % size
    if 0x10ffff < code ∨ (0xd800 ≤ code ∧ code < 0xe000) then none
    else
      some { out := d.out.take index ++ Char.ofNat code :: d.out.drop index
             code, index := index + 1
             bias := adapt value size (d.index = 0) }
  else some { d with begun := some (value, weight * (36 - t), place + 36) }

end Decoder

/-- The part before the last hyphen stands as it is. -/
def decode? (label : List Char) : Option (List Char) := do
  let tail := (label.reverse.takeWhile (· ≠ '-')).reverse
  let basic := (label.take (label.length - tail.length)).dropLast
  let d ← tail.foldlM Decoder.step { out := basic }
  if d.begun.isNone ∧ basic.all (·.toNat < 0x80) then some d.out else none

end ServiceLink.Url.Punycode
