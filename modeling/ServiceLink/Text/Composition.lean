import ServiceLink.Text.CombiningClass
import ServiceLink.Text.Decomposition

/-! The composed form of a text: two texts that are canonically equal have the same. Every character is
decomposed, the marks behind a letter are put into the order of their classes, and what composes is
composed. -/

namespace ServiceLink.Text

/-- A code with its combining class. -/
structure Ranked where
  code : Nat
  rank : Nat
deriving DecidableEq, Repr

def Ranked.ofCode (code : Nat) : Ranked := ⟨code, combiningClass code⟩

/-- Put a code behind those placed so far, the last of which comes first. A mark goes before marks of a
higher class. -/
def place (placed : List Ranked) (r : Ranked) : List Ranked :=
  match placed with
  | [] => [r]
  | p :: rest => if 0 < r.rank ∧ r.rank < p.rank then p :: place rest r else r :: p :: rest

/-- Canonical decomposition with the marks in order. -/
def decomposed (codes : List Nat) : List Ranked :=
  (((codes.flatMap decompose).map Ranked.ofCode).foldl place []).reverse

/-- Compose what follows a starter. `between` holds the marks behind it that found nothing to compose
with, the last first; a code composes with the starter unless one of these is in its way. -/
def composeFrom (starter : Nat) (between : List Ranked) : List Ranked → List Nat
  | [] => starter :: (between.reverse.map (·.code))
  | r :: rest =>
    match (if between.all (·.rank < r.rank) then compose? starter r.code else none) with
    | some code => composeFrom code between rest
    | none =>
      if r.rank = 0 then starter :: (between.reverse.map (·.code)) ++ composeFrom r.code [] rest
      else composeFrom starter (r :: between) rest

/-- Marks without a starter stay as they are. -/
def compose (rs : List Ranked) : List Nat :=
  (rs.takeWhile (0 < ·.rank)).map (·.code) ++
    match rs.dropWhile (0 < ·.rank) with
    | [] => []
    | r :: rest => composeFrom r.code [] rest

def composed (codes : List Nat) : List Nat := compose (decomposed codes)

end ServiceLink.Text
