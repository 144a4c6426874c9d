/-! Time. A state has a clock, and at some times something is due in it: a timer, a poll. What is due happens
at its time and takes none. -/

namespace ServiceLink

class Timed (σ : Type) where
  now : σ → Nat
  /-- When something is due next. -/
  due? : σ → Option Nat
  /-- What is due at a time happens. -/
  ring : σ → Nat → σ
  /-- Nothing happens until a time. -/
  wait : σ → Nat → σ
  now_ring : ∀ s t, now (ring s t) = t

namespace Timed

/-- The earlier of two times, of which either may be missing. -/
def earliest? : Option Nat → Option Nat → Option Nat
  | some a, some b => some (min a b)
  | a, b => a.or b

variable {σ : Type} [Timed σ]

/-- Let time go on to an end, stopping at every timer on the way and at the end itself. -/
def runTo (finish : Nat) (s : σ) : σ :=
  match due? s with
  | some t => if _h : now s < t ∧ t ≤ finish then runTo finish (ring s t) else wait s finish
  | none => wait s finish
termination_by finish - now s
decreasing_by
  rw [now_ring]
  exact Nat.sub_lt_sub_left (Nat.lt_of_lt_of_le _h.1 _h.2) _h.1

def advance (s : σ) (ms : Nat) : σ := runTo (now s + ms) s

end Timed
end ServiceLink
