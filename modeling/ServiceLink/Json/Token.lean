import ServiceLink.Json.Numeral
import ServiceLink.Text.Hex

/-! The tokens of a JSON text. The scanner is a machine that takes one character at a time. A literal may
be well formed and yet stand for no value: a string with half a surrogate pair, a number beyond the
range of doubles. Such a token is kept without a value, so that text nobody reads can hold it. -/

namespace ServiceLink.Json

inductive Token
  | beginObject
  | endObject
  | beginArray
  | endArray
  | colon
  | comma
  | null
  | bool (b : Bool)
  | text (s : Option String)
  | number (n : Option Number)
deriving Repr

/-- The part of a string literal that was scanned, last character first, and the first half of a
surrogate pair whose second half must follow. -/
structure Quoted where
  chars : List Char := []
  half : Option Nat := none
  sound : Bool := true
deriving Repr

namespace Quoted

def push (q : Quoted) (c : Char) : Quoted :=
  { chars := c :: q.chars, half := none, sound := q.sound && q.half.isNone }

/-- Add the unit of a `\u` escape. -/
def pushUnit (q : Quoted) (u : Nat) : Quoted :=
  if 0xd800 ≤ u ∧ u < 0xdc00 then { q with half := some u, sound := q.sound && q.half.isNone }
  else if 0xdc00 ≤ u ∧ u < 0xe000 then
    match q.half with
    | some h =>
      { q with chars := Char.ofNat (0x10000 + (h - 0xd800) * 0x400 + (u - 0xdc00)) :: q.chars
               half := none }
    | none => { q with sound := false }
  else q.push (Char.ofNat u)

def token (q : Quoted) : Token :=
  .text (if q.sound ∧ q.half.isNone then some (String.ofList q.chars.reverse) else none)

end Quoted

/-- Where in a number literal the scanner stands. -/
inductive NumeralPlace
  | minus
  | zero
  | whole
  | point
  | fraction
  | mark
  | markSign
  | exponent
deriving DecidableEq, Repr

/-- The place after one more character, if the literal goes on with it. -/
def NumeralPlace.next (p : NumeralPlace) (c : Char) : Option NumeralPlace :=
  match p with
  | .minus => if c = '0' then some .zero else if c.isDigit then some .whole else none
  | .zero =>
    if c = '.' then some .point else if c = 'e' ∨ c = 'E' then some .mark else none
  | .whole =>
    if c.isDigit then some .whole else if c = '.' then some .point
    else if c = 'e' ∨ c = 'E' then some .mark else none
  | .point => if c.isDigit then some .fraction else none
  | .fraction =>
    if c.isDigit then some .fraction else if c = 'e' ∨ c = 'E' then some .mark else none
  | .mark =>
    if c = '+' ∨ c = '-' then some .markSign else if c.isDigit then some .exponent else none
  | .markSign => if c.isDigit then some .exponent else none
  | .exponent => if c.isDigit then some .exponent else none

/-- A literal may end here. A zero with a digit behind it is no literal. -/
def NumeralPlace.isEnd : NumeralPlace → Bool
  | .zero | .whole | .fraction | .exponent => true
  | _ => false

def digitsOf (cs : List Char) : List Nat := cs.map fun c => c.toNat - '0'.toNat

/-- The parts of a literal whose form the scanner has checked. -/
def numeralOf (cs : List Char) : Numeral :=
  let isDigit := fun c : Char => c.isDigit
  let (negative, cs) := match cs with | '-' :: r => (true, r) | r => (false, r)
  let whole := cs.takeWhile isDigit
  let (fraction, cs) := match cs.dropWhile isDigit with
    | '.' :: r => (some (digitsOf (r.takeWhile isDigit)), r.dropWhile isDigit)
    | r => (none, r)
  let exponent := match cs with
    | _ :: '-' :: r => some (true, digitsOf r)
    | _ :: '+' :: r => some (false, digitsOf r)
    | _ :: r => some (false, digitsOf r)
    | [] => none
  { negative, whole := digitsOf whole, fraction, exponent }

inductive ScanMode
  | gap
  /-- Inside a literal name: the characters to come. -/
  | word (rest : List Char) (token : Token)
  | text (q : Quoted)
  | escape (q : Quoted)
  /-- Inside a `\u` escape: the value of the digits so far, and how many follow. -/
  | unit (q : Quoted) (value : Nat) (left : Nat)
  | numeral (chars : List Char) (place : NumeralPlace)
deriving Repr

/-- The tokens are held last first. -/
structure Scanner where
  mode : ScanMode := .gap
  tokens : List Token := []
deriving Repr

namespace Scanner

def emit (s : Scanner) (t : Token) : Scanner := { mode := .gap, tokens := t :: s.tokens }

def enter (s : Scanner) (m : ScanMode) : Scanner := { s with mode := m }

def isBlank (c : Char) : Bool := c = ' ' ∨ c = '\t' ∨ c = '\n' ∨ c = '\r'

/-- A character between tokens. -/
def start (s : Scanner) (c : Char) : Option Scanner :=
  if isBlank c then some s
  else if c = '\x7b' then some (s.emit .beginObject)
  else if c = '\x7d' then some (s.emit .endObject)
  else if c = '[' then some (s.emit .beginArray)
  else if c = ']' then some (s.emit .endArray)
  else if c = ':' then some (s.emit .colon)
  else if c = ',' then some (s.emit .comma)
  else if c = '"' then some (s.enter (.text {}))
  else if c = 'n' then some (s.enter (.word ['u', 'l', 'l'] .null))
  else if c = 't' then some (s.enter (.word ['r', 'u', 'e'] (.bool true)))
  else if c = 'f' then some (s.enter (.word ['a', 'l', 's', 'e'] (.bool false)))
  else if c = '-' then some (s.enter (.numeral [c] .minus))
  else if c = '0' then some (s.enter (.numeral [c] .zero))
  else if c.isDigit then some (s.enter (.numeral [c] .whole))
  else none

def escaped? (c : Char) : Option Char :=
  if c = '"' ∨ c = '\\' ∨ c = '/' then some c
  else if c = 'b' then some '\x08'
  else if c = 'f' then some '\x0c'
  else if c = 'n' then some '\n'
  else if c = 'r' then some '\r'
  else if c = 't' then some '\t'
  else none

def numeralToken (chars : List Char) : Token := .number (numeralOf chars.reverse).value?

/-- A control character may stand in no string. A numeral ends before the first character that cannot
go on with it, and a digit behind a leading zero is refused there. -/
def step (s : Scanner) (c : Char) : Option Scanner :=
  match s.mode with
  | .gap => s.start c
  | .word [] _ => none
  | .word [x] t => if c = x then some (s.emit t) else none
  | .word (x :: rest) t => if c = x then some (s.enter (.word rest t)) else none
  | .text q =>
    if c = '"' then some (s.emit q.token)
    else if c = '\\' then some (s.enter (.escape q))
    else if c.toNat < 0x20 then none
    else some (s.enter (.text (q.push c)))
  | .escape q =>
    if c = 'u' then some (s.enter (.unit q 0 3))
    else (escaped? c).map fun x => s.enter (.text (q.push x))
  | .unit q value left =>
    (Text.hexValue? c).map fun d =>
      match left with
      | 0 => s.enter (.text (q.pushUnit (value * 16 + d)))
      | left + 1 => s.enter (.unit q (value * 16 + d) left)
  | .numeral chars place =>
    match place.next c with
    | some p => some (s.enter (.numeral (c :: chars) p))
    | none =>
      if place.isEnd ∧ ¬ (place = .zero ∧ c.isDigit) then (s.emit (numeralToken chars)).start c
      else none

/-- A text may end between tokens or with a numeral. -/
def finish (s : Scanner) : Option (List Token) :=
  match s.mode with
  | .gap => some s.tokens.reverse
  | .numeral chars place =>
    if place.isEnd then some (numeralToken chars :: s.tokens).reverse else none
  | _ => none

end Scanner

def tokens? (text : String) : Option (List Token) :=
  (text.toList.foldlM Scanner.step {}).bind Scanner.finish

end ServiceLink.Json
