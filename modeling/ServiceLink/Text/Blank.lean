/-! White space by the Unicode property `White_Space`, and its removal at both ends of a text. -/

namespace ServiceLink.Text

def isBlank (c : Char) : Bool :=
  let n := c.toNat
  (0x9 ≤ n ∧ n ≤ 0xd) ∨ n = 0x20 ∨ n = 0x85 ∨ n = 0xa0 ∨ n = 0x1680 ∨ (0x2000 ≤ n ∧ n ≤ 0x200a)
    ∨ n = 0x2028 ∨ n = 0x2029 ∨ n = 0x202f ∨ n = 0x205f ∨ n = 0x3000

def dropBlanksEnd (cs : List Char) : List Char := (cs.reverse.dropWhile isBlank).reverse

def trim (cs : List Char) : List Char := dropBlanksEnd (cs.dropWhile isBlank)

example : trim " \u00a0-12\u2003".toList = "-12".toList := by decide +kernel

end ServiceLink.Text
