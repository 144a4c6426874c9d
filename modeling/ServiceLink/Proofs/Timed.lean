import ServiceLink.Timed

/-! What holds of a wait, from what holds of each timer on the way. -/

namespace ServiceLink.Timed

variable {σ ε : Type} [Timed σ] {finish t : Nat} {s : σ}

theorem le_earliest?_iff {a b : Option Nat} : (∀ u, earliest? a b = some u → t ≤ u) ↔
    (∀ u, a = some u → t ≤ u) ∧ ∀ u, b = some u → t ≤ u := by
  cases a with
  | none => cases b <;> simp [earliest?]
  | some x =>
    cases b with
    | none => simp [earliest?]
    | some y =>
      simp only [earliest?, Option.some.injEq, forall_eq']
      exact Nat.le_min

/-- What is noted of the timers on the way to a time. -/
def notesTo (note : σ → Nat → List ε) (finish : Nat) (s : σ) : List ε :=
  match due? s with
  | some t => if _h : now s < t ∧ t ≤ finish then note s t ++ notesTo note finish (ring s t) else []
  | none => []
termination_by finish - now s
decreasing_by
  rw [now_ring]
  exact Nat.sub_lt_sub_left (Nat.lt_of_lt_of_le _h.1 _h.2) _h.1

/-- Nothing is due until a time. -/
def IsQuietTo (finish : Nat) (s : σ) : Prop := ∀ t, due? s = some t → ¬ (now s < t ∧ t ≤ finish)

theorem runTo_of_quiet (h : IsQuietTo finish s) : runTo finish s = wait s finish := by
  rw [runTo]
  split
  · rename_i hdue
    exact dif_neg (h _ hdue)
  · rfl

theorem runTo_of_due (hdue : due? s = some t) (h : now s < t ∧ t ≤ finish) :
    runTo finish s = runTo finish (ring s t) := by
  rw [runTo, hdue]
  simp [h]

theorem notesTo_of_quiet (note : σ → Nat → List ε) (h : IsQuietTo finish s) : notesTo note finish s = [] := by
  rw [notesTo]
  split
  · rename_i hdue
    exact dif_neg (h _ hdue)
  · rfl

theorem notesTo_of_due (note : σ → Nat → List ε) (hdue : due? s = some t) (h : now s < t ∧ t ≤ finish) :
    notesTo note finish s = note s t ++ notesTo note finish (ring s t) := by
  rw [notesTo, hdue]
  simp [h]

/-- A wait is its first timer and the wait after it, or nothing happens in it. -/
theorem runTo_induction {motive : σ → List ε → σ → Prop} (note : σ → Nat → List ε) (finish : Nat)
    (quiet : ∀ s, IsQuietTo finish s → motive s [] (wait s finish))
    (due : ∀ s t notes s', due? s = some t → now s < t → t ≤ finish → motive (ring s t) notes s' →
      motive s (note s t ++ notes) s') (s : σ) :
    motive s (notesTo note finish s) (runTo finish s) := by
  fun_induction runTo finish s with
  | case1 s t hdue h ih =>
    rw [notesTo_of_due note hdue h]
    exact due s t _ _ hdue h.1 h.2 ih
  | case2 s t hdue h =>
    have hquiet : IsQuietTo finish s := by
      intro u hu
      rwa [← Option.some.inj (hdue.symm.trans hu)]
    rw [notesTo_of_quiet note hquiet]
    exact quiet s hquiet
  | case3 s hdue =>
    have hquiet : IsQuietTo finish s := fun u hu => nomatch hdue.symm.trans hu
    rw [notesTo_of_quiet note hquiet]
    exact quiet s hquiet

/-- What every timer keeps, and waiting without one, holds at the end. -/
theorem runTo_keeps {P : σ → Prop} (h : P s)
    (ring : ∀ s t, P s → due? s = some t → now s < t → t ≤ finish → P (ring s t))
    (wait : ∀ s, P s → IsQuietTo finish s → P (wait s finish)) : P (runTo finish s) := by
  refine runTo_induction (ε := Empty) (motive := fun s _ s' => P s → P s') (fun _ _ => []) finish
    (fun s hquiet h => wait s h hquiet) (fun s t _ _ hdue hlater hfinish ih h => ?_) s h
  exact ih (ring s t h hdue hlater hfinish)

end ServiceLink.Timed
