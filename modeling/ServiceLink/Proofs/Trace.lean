import Mathlib.Data.List.Induction

/-! Labelled steps, one after the other. -/

namespace ServiceLink

/-- The steps with these labels lead from one state to another. -/
inductive Trace {α ε : Type} (Step : α → ε → α → Prop) (a : α) : List ε → α → Prop
  | start : Trace Step a [] a
  | step {es : List ε} {b c : α} {e : ε} :
      Trace Step a es b → Step b e c → Trace Step a (es ++ [e]) c

namespace Trace

variable {α ε : Type} {Step : α → ε → α → Prop} {a b c : α} {es fs : List ε} {e : ε}

theorem one (h : Step a e b) : Trace Step a [e] b := .step .start h

theorem eq_of_nil (h : Trace Step a [] b) : b = a := by
  generalize hes : ([] : List ε) = es at h
  cases h with
  | start => rfl
  | step => exact absurd hes.symm (List.append_ne_nil_of_right_ne_nil _ (List.cons_ne_nil _ _))

theorem last (h : Trace Step a (es ++ [e]) b) : ∃ m, Trace Step a es m ∧ Step m e b := by
  generalize hall : es ++ [e] = all at h
  cases h with
  | start => exact absurd hall (List.append_ne_nil_of_right_ne_nil _ (List.cons_ne_nil _ _))
  | step h hstep =>
    obtain ⟨rfl, hlast⟩ := List.append_inj' hall rfl
    cases hlast
    exact ⟨_, h, hstep⟩

theorem append (h : Trace Step a es b) (h' : Trace Step b fs c) : Trace Step a (es ++ fs) c := by
  induction h' with
  | start => rwa [List.append_nil]
  | step _ hstep ih =>
    rw [← List.append_assoc]
    exact .step ih hstep

theorem split (h : Trace Step a (es ++ fs) c) : ∃ b, Trace Step a es b ∧ Trace Step b fs c := by
  induction fs using List.reverseRecOn generalizing c with
  | nil => exact ⟨c, by rwa [List.append_nil] at h, .start⟩
  | append_singleton fs e ih =>
    rw [← List.append_assoc] at h
    obtain ⟨m, hinit, hstep⟩ := h.last
    obtain ⟨b, hes, hfs⟩ := ih hinit
    exact ⟨b, hes, .step hfs hstep⟩

theorem first (h : Trace Step a (e :: es) c) : ∃ b, Step a e b ∧ Trace Step b es c := by
  obtain ⟨b, hone, hrest⟩ : ∃ b, Trace Step a ([] ++ [e]) b ∧ Trace Step b es c := split h
  obtain ⟨m, hm, hstep⟩ := hone.last
  cases hm.eq_of_nil
  exact ⟨b, hstep, hrest⟩

/-- The step with a label in the middle of a trace. -/
theorem at_middle (h : Trace Step a (es ++ e :: fs) c) :
    ∃ b b', Trace Step a es b ∧ Step b e b' ∧ Trace Step b' fs c := by
  obtain ⟨b, hes, hrest⟩ := h.split
  obtain ⟨b', hstep, hfs⟩ := hrest.first
  exact ⟨b, b', hes, hstep, hfs⟩

/-- What every step keeps holds at the end. -/
theorem keeps {P : α → Prop} (h : Trace Step a es b) (hkeep : ∀ x e y, P x → Step x e y → P y)
    (ha : P a) : P b := by
  induction h with
  | start => exact ha
  | step _ hstep ih => exact hkeep _ _ _ ih hstep

end Trace
end ServiceLink
