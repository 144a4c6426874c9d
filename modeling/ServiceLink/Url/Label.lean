import ServiceLink.Text.Bidi
import ServiceLink.Text.CombiningClass
import ServiceLink.Text.Joining
import ServiceLink.Url.Folding
import ServiceLink.Url.Punycode

/-! The labels of a folded host name. A label beyond ASCII is written in Punycode behind the letters
`xn--`; it may be given so or as it is, and the same rules hold for both. -/

namespace ServiceLink.Url.Label

open Text

def isAscii (label : List Char) : Bool := label.all (·.toNat < 0x80)

/-! ### Written form -/

/-- The longest Punycode that is read. -/
def maxCode : Nat := 2000

/-- The most characters of a label beyond ASCII. -/
def maxLength : Nat := 1000

/-- The label that a part of a folded name stands for. What Punycode stands for must be folded already. -/
def read? (part : List Char) : Option (List Char) :=
  match part with
  | 'x' :: 'n' :: '-' :: '-' :: code =>
    if code = [] ∨ code.getLast? = some '-' ∨ maxCode < code.length then none
    else (Punycode.decode? code).filter fun label => fold? label = some label
  | _ => some part

def text (label : List Char) : List Char :=
  if isAscii label then label else 'x' :: 'n' :: '-' :: '-' :: Punycode.encode label

/-! ### Joiners -/

def joiner : Char := '\u200d'

def nonJoiner : Char := '\u200c'

/-- Whether the first letter that is not passed over joins in one of the ways. -/
def joins (ways : List Joining) (cs : List Char) : Bool :=
  (cs.dropWhile (joining · = .transparent)).head?.any (joining · ∈ ways)

/-- Every joiner stands behind a virama. One that parts letters may also stand between letters that
would join. The letters before the rest are given the last first. -/
def joinersStand (before : List Char) : List Char → Bool
  | [] => true
  | c :: rest =>
    let stands :=
      if before.head?.any isVirama then true
      else if c = nonJoiner then joins [.dual, .forward] before && joins [.dual, .backward] rest
      else c ≠ joiner
    stands && joinersStand (c :: before) rest

/-- The rules that a label keeps by itself. -/
def isSound (label : List Char) : Bool :=
  isAscii label ∨
    (label.length ≤ maxLength ∧ ¬ label.head?.any isMark ∧ joinersStand [] label)

/-! ### Direction -/

/-- No character before U+0590 is written from right to left. -/
def isRightToLeft (c : Char) : Bool :=
  0x590 ≤ c.toNat ∧ BidiClass.ofChar c ∈ [.rightToLeft, .arabicLetter, .arabicNumber]

/-- What may stand in a label of either direction. -/
def shared : List BidiClass :=
  [.europeanNumber, .europeanSeparator, .europeanTerminator, .commonSeparator, .nonspacingMark, .boundary,
    .neutral]

/-- A label keeps to the direction of its first letter to the end, where nonspacing marks do not count.
From right to left the digits are of one kind. -/
def keepsDirection (label : List Char) : Bool :=
  match label.map BidiClass.ofChar with
  | [] => true
  | first :: rest =>
    let back := rest.reverse.dropWhile (· = .nonspacingMark)
    match first with
    | .leftToRight =>
      back.all (· ∈ .leftToRight :: shared) && back.head?.all (· ∈ [.leftToRight, .europeanNumber])
    | .rightToLeft | .arabicLetter =>
      back.all (· ∈ .rightToLeft :: .arabicLetter :: .arabicNumber :: shared)
        && back.head?.all (· ∈ [.rightToLeft, .arabicLetter, .arabicNumber, .europeanNumber])
        && ¬ (.europeanNumber ∈ back ∧ .arabicNumber ∈ back)
    | _ => false

/-- Directions count in a name that holds a character written from right to left. -/
def allKeepDirection (labels : List (List Char)) : Bool :=
  if labels.any (·.any isRightToLeft) then labels.all keepsDirection else true

end ServiceLink.Url.Label
