import ServiceLink.Proofs.Json.Numbers
import ServiceLink.Text.Integer

/-! Integers as text. Blanks around a literal do not matter, and the decimal digits of a number, with a minus sign
where it is negative, are read as that number. -/

namespace ServiceLink.Text

variable {c : Char} {cs ds : List Char}

/-! ### Blanks -/

theorem not_isBlank_of_isDigit (h : c.isDigit) : ¬ isBlank c := by
  have hrange : 48 ≤ c.toNat ∧ c.toNat ≤ 57 := by simpa [Char.isDigit, UInt32.le_iff_toNat_le] using h
  simp only [isBlank, decide_eq_true_eq]
  omega

theorem trim_append {before after : List Char} (hbefore : ∀ c ∈ before, isBlank c) (hafter : ∀ c ∈ after, isBlank c)
    (h : ∀ c ∈ cs, ¬ isBlank c) : trim (before ++ cs ++ after) = cs := by
  have hend : dropBlanksEnd (cs ++ after) = cs := by
    have hnone : cs.reverse.dropWhile isBlank = cs.reverse :=
      List.dropWhile_eq_self_iff.2 fun hlt => h _ (List.mem_reverse.1 (List.getElem_mem hlt))
    have hall : ∀ c ∈ after.reverse, isBlank c := fun c hc => hafter c (List.mem_reverse.1 hc)
    rw [dropBlanksEnd, List.reverse_append, List.dropWhile_append_of_pos hall, hnone, List.reverse_reverse]
  rw [trim, List.append_assoc, List.dropWhile_append_of_pos hbefore]
  cases cs with
  | nil =>
    -- Nothing stands between the blanks: those behind are dropped with those before.
    rw [List.nil_append, List.dropWhile_eq_nil_iff.2 hafter]
    rfl
  | cons c cs => rw [List.cons_append, List.dropWhile_cons_of_neg (h c List.mem_cons_self), ← List.cons_append, hend]

/-! ### Digits -/

theorem foldlM_digitValue? (h : ∀ c ∈ ds, c.isDigit) (start : Nat) :
    ds.foldlM (fun n c => (digitValue? c).map (n * 10 + ·)) start = some (Nat.ofDigitChars 10 ds start) := by
  induction ds generalizing start with
  | nil => rfl
  | cons d ds ih =>
    obtain ⟨hd, hds⟩ := List.forall_mem_cons.1 h
    rw [List.foldlM_cons, digitValue?, if_pos hd, Nat.ofDigitChars_cons, Nat.mul_comm 10]
    exact ih hds _

theorem natural?_toDigits (n : Nat) : natural? (Nat.toDigits 10 n) = some n := by
  have hvalue : Nat.ofDigitChars 10 (Nat.toDigits 10 n) 0 = n := Nat.ofDigitChars_ten_toDigits
  have hfold := foldlM_digitValue? (fun c hc => Json.isDigit_of_mem_toDigits (n := n) hc) 0
  rw [hvalue] at hfold
  unfold natural?
  split
  · rename_i hnil
    exact absurd hnil Nat.toDigits_ne_nil
  · exact hfold

theorem signed?_of_natural? (h : ∀ c ∈ ds, c.isDigit) {n : Nat} (hn : natural? ds = some n) (hlt : n < Word.signedEnd) :
    signed? ds = some (n : Int) := by
  unfold signed?
  split
  · exact absurd (h '-' List.mem_cons_self) (by decide)
  · exact absurd (h '+' List.mem_cons_self) (by decide)
  · simp [hn, Option.filter, hlt]

theorem signed?_render {z : Int} (h : -Word.signedEnd ≤ z ∧ z < Word.signedEnd) :
    signed? (Number.integer z).render.toList = some z := by
  rw [Json.toList_render_integer]
  split
  · rename_i hneg
    have hle : z.natAbs ≤ Word.signedEnd := by omega
    simp [signed?, natural?_toDigits, Option.filter, hle, abs_of_neg hneg]
  · have hz : (z.toNat : Int) = z := by omega
    rw [signed?_of_natural? (fun c => Json.isDigit_of_mem_toDigits) (natural?_toDigits z.toNat) (by omega), hz]

theorem not_isBlank_of_mem_render {z : Int} (h : c ∈ (Number.integer z).render.toList) : ¬ isBlank c := by
  rw [Json.toList_render_integer] at h
  split at h
  · rcases List.mem_cons.1 h with rfl | hmem
    · decide
    · exact not_isBlank_of_isDigit (Json.isDigit_of_mem_toDigits hmem)
  · exact not_isBlank_of_isDigit (Json.isDigit_of_mem_toDigits h)

theorem signed?_trim_render {z : Int} (h : -Word.signedEnd ≤ z ∧ z < Word.signedEnd) {before after : String}
    (hbefore : ∀ c ∈ before.toList, isBlank c) (hafter : ∀ c ∈ after.toList, isBlank c) :
    signed? (trim (before ++ (Number.integer z).render ++ after).toList) = some z := by
  rw [String.toList_append, String.toList_append,
    trim_append hbefore hafter fun c => not_isBlank_of_mem_render, signed?_render h]

end ServiceLink.Text
