import ServiceLink.Proofs.Json.Numbers

/-! The text of a double is a literal. Its shortest decimal is zero only if the double is, so that its digits
do not begin with a zero wherever the point or the exponent is put. -/

namespace ServiceLink

namespace Double

/-! ### The shortest decimal -/

theorem lt_pow_length (n : Nat) : n < 10 ^ (digits n).length :=
  (Nat.length_toDigits_le_iff (by omega) Nat.length_toDigits_pos).1 (Nat.le_refl _)

theorem pow_le_of_lt_length {n k : Nat} (hn : 0 < n) (hk : k < (digits n).length) : 10 ^ k ≤ n := by
  rcases Nat.eq_zero_or_pos k with rfl | hpos
  · exact hn
  · by_contra hlt
    have hle := (Nat.length_toDigits_le_iff (b := 10) (by omega) hpos).2 (Nat.not_le.1 hlt)
    exact absurd hk (Nat.not_lt.2 hle)

namespace Rounding

/-- The search interval lies above zero. -/
structure Positive (r : Rounding) : Prop where
  low : 0 < r.low
  middle : 0 < r.middle
  unit : 0 < r.unit

theorem Positive.onGrid {r : Rounding} (h : r.Positive) (grid : Int) : (r.onGrid grid).Positive :=
  ⟨Nat.mul_pos h.low (Nat.pow_pos (by omega)), Nat.mul_pos h.middle (Nat.pow_pos (by omega)),
    Nat.mul_pos h.unit (Nat.pow_pos (by omega))⟩

theorem Positive.holds_pos {r : Rounding} (h : r.Positive) {n : Nat} (hn : r.holds n) : 0 < n := by
  have hzero : r.holds 0 = false := by simp [holds, Nat.ne_of_gt h.low]
  rcases Nat.eq_zero_or_pos n with rfl | hpos
  · exact absurd (hn.symm.trans hzero) nofun
  · exact hpos

theorem holds_of_nearest? {r : Rounding} {n : Nat} (h : r.nearest? = some n) : r.holds n := by
  unfold nearest? at h
  dsimp only at h
  split at h
  · cases h
  · rename_i hfloor _
    cases h
    exact hfloor
  · rename_i _ hnext
    cases h
    exact hnext
  · rename_i hfloor hnext
    split at h
    · cases h
      exact hfloor
    split at h
    · cases h
      exact hnext
    split at h <;> cases h
    · exact hfloor
    · exact hnext

theorem Positive.search_pos {r : Rounding} (h : r.Positive) {fuel : Nat} {grid : Int}
    (hlast : (r.onGrid (grid - fuel)).unit ≤ (r.onGrid (grid - fuel)).middle) :
    0 < (r.search fuel grid).1 := by
  induction fuel generalizing grid with
  | zero =>
    rw [Int.natCast_zero, Int.sub_zero] at hlast
    exact Nat.div_pos hlast (h.onGrid grid).unit
  | succ fuel ih =>
    unfold search
    split
    · rename_i n hnearest
      exact (h.onGrid grid).holds_pos (holds_of_nearest? hnearest)
    · exact ih (by rwa [show grid - 1 - fuel = grid - (fuel + 1 : Nat) by omega])

theorem Positive.unit_le_middle {r : Rounding} (h : r.Positive) {grid : Int}
    (hgrid : grid + 19 ≤ (digits (r.middle / r.unit)).length - (digits (r.unit / r.middle)).length) :
    (r.onGrid grid).unit ≤ (r.onGrid grid).middle := by
  have hwhole : 0 < (digits (r.middle / r.unit)).length := Nat.length_toDigits_pos
  have hpart : 0 < (digits (r.unit / r.middle)).length := Nat.length_toDigits_pos
  show r.unit * 10 ^ grid.toNat ≤ r.middle * 10 ^ (-grid).toNat
  by_cases hle : r.unit ≤ r.middle
  · have hdigits : 10 ^ grid.toNat ≤ r.middle / r.unit :=
      pow_le_of_lt_length (Nat.div_pos hle h.unit) (by omega)
    calc r.unit * 10 ^ grid.toNat ≤ r.unit * (r.middle / r.unit) := Nat.mul_le_mul_left _ hdigits
      _ ≤ r.middle := Nat.mul_div_le _ _
      _ ≤ r.middle * 10 ^ (-grid).toNat := Nat.le_mul_of_pos_right _ (Nat.pow_pos (by omega))
  · have hnone : digits (r.middle / r.unit) = ['0'] := by
      rw [Nat.div_eq_of_lt (Nat.not_le.1 hle)]
      rfl
    have hzero : grid.toNat = 0 := by
      rw [hnone, List.length_singleton] at hgrid
      omega
    have hdown : (digits (r.unit / r.middle)).length ≤ (-grid).toNat := by
      rw [hnone, List.length_singleton] at hgrid
      omega
    have hlt := Nat.lt_mul_of_div_lt (lt_pow_length (r.unit / r.middle)) h.middle
    calc r.unit * 10 ^ grid.toNat = r.unit := by rw [hzero, Nat.pow_zero, Nat.mul_one]
      _ ≤ r.middle * 10 ^ (digits (r.unit / r.middle)).length := by rw [Nat.mul_comm]; omega
      _ ≤ r.middle * 10 ^ (-grid).toNat :=
        Nat.mul_le_mul_left _ (Nat.pow_le_pow_right (by omega) hdown)

end Rounding

theorem significand_pos {x : Double} (h : ¬ x.isZero) : 0 < x.significand := by
  have hparts : ¬ (x.scale = 0 ∧ x.fraction = 0) := by simpa [isZero] using h
  unfold significand
  split
  · omega
  · exact Nat.add_pos_left (Nat.pow_pos (by omega)) _

theorem positive_rounding {x : Double} (h : ¬ x.isZero) : x.rounding.Positive := by
  have hsignificand := significand_pos h
  have hbelow : (if x.fraction = 0 ∧ 1 < x.scale then 1 else 2) ≤ 2 := by split <;> omega
  exact ⟨Nat.mul_pos (by omega) (Nat.pow_pos (by omega)), Nat.mul_pos (by omega) (Nat.pow_pos (by omega)),
    Nat.pow_pos (by omega)⟩

theorem shortest_pos {x : Double} (h : ¬ x.isZero) : 0 < x.shortest.1 := by
  have hpositive := positive_rounding h
  exact hpositive.search_pos (hpositive.unit_le_middle (by omega))

/-! ### The format -/

open Json

theorem placeOf?_append {cs : List Char} {p : NumeralPlace} (h : placeOf? cs = some p) (more : List Char) :
    placeOf? (cs ++ more) = more.foldlM NumeralPlace.next p := by
  rw [placeOf?, List.foldlM_append, ← placeOf?, h]
  rfl

theorem foldlM_run {p q : NumeralPlace} (hq : q.IsRun) (hfirst : ∀ c : Char, c.isDigit → p.next c = some q)
    {ds : List Char} (hne : ds ≠ []) (h : ∀ c ∈ ds, c.isDigit) : ds.foldlM NumeralPlace.next p = some q := by
  cases ds with
  | nil => exact absurd rfl hne
  | cons c ds =>
    rw [List.foldlM_cons, hfirst c (h c List.mem_cons_self)]
    exact NumeralPlace.foldlM_next hq fun x hx => h x (List.mem_cons_of_mem _ hx)

theorem placeOf?_fraction {cs ds : List Char} (h : placeOf? cs = some .whole ∨ placeOf? cs = some .zero)
    (hne : ds ≠ []) (hds : ∀ c ∈ ds, c.isDigit) : placeOf? (cs ++ '.' :: ds) = some .fraction := by
  have hrun : ds.foldlM NumeralPlace.next .point = some .fraction :=
    foldlM_run (.inr (.inl rfl)) (fun c hc => by simp [NumeralPlace.next, hc]) hne hds
  rcases h with h | h
  · exact (placeOf?_append h _).trans hrun
  · exact (placeOf?_append h _).trans hrun

theorem isLiteral_exponent {cs ds : List Char} {sign : Char}
    (h : placeOf? cs = some .whole ∨ placeOf? cs = some .fraction) (hsign : sign = '+' ∨ sign = '-')
    (hne : ds ≠ []) (hds : ∀ c ∈ ds, c.isDigit) : IsLiteral (cs ++ 'e' :: sign :: ds) := by
  have hrun : ds.foldlM NumeralPlace.next .markSign = some .exponent :=
    foldlM_run (.inr (.inr rfl)) (fun c hc => by simp [NumeralPlace.next, hc]) hne hds
  have hmark : (sign :: ds).foldlM NumeralPlace.next .mark = some .exponent := by
    rcases hsign with rfl | rfl
    · exact hrun
    · exact hrun
  refine ⟨.exponent, ?_, rfl⟩
  rcases h with h | h
  · exact (placeOf?_append h _).trans hmark
  · exact (placeOf?_append h _).trans hmark

theorem take_digits {n k : Nat} (hn : 0 < n) (hk : 0 < k) : placeOf? ((digits n).take k) = some .whole := by
  obtain ⟨d, ds, hdigits, hne⟩ := toDigits_pos hn
  obtain ⟨k, rfl⟩ := Nat.exists_eq_add_of_lt hk
  have hall : ∀ c ∈ (d :: ds).take (0 + k + 1), c.isDigit := fun c hc =>
    isDigit_of_mem_toDigits (hdigits ▸ List.mem_of_mem_take hc)
  rw [digits, hdigits]
  exact placeOf?_cons hne hall

theorem isDigit_of_mem_drop {n k : Nat} {c : Char} (h : c ∈ (digits n).drop k) : c.isDigit :=
  isDigit_of_mem_toDigits (List.mem_of_mem_drop h)

theorem drop_digits_ne_nil {n k : Nat} (h : k < (digits n).length) : (digits n).drop k ≠ [] := by
  rwa [Ne, List.drop_eq_nil_iff, Nat.not_le]

theorem isDigit_of_mem_replicate {k : Nat} {c : Char} (h : c ∈ List.replicate k '0') : c.isDigit := by
  rw [List.eq_of_mem_replicate h]
  rfl

theorem isLiteral_plain {n : Nat} (hn : 0 < n) (k : Nat) :
    IsLiteral (digits n ++ List.replicate k '0' ++ ['.', '0']) := by
  have hwhole : placeOf? (digits n ++ List.replicate k '0') = some .whole :=
    (placeOf?_append (placeOf?_toDigits hn) _).trans
      (NumeralPlace.foldlM_next (.inl rfl) fun _ => isDigit_of_mem_replicate)
  exact ⟨.fraction, placeOf?_fraction (.inl hwhole) (by simp) (by simp), rfl⟩

theorem isLiteral_small (n k : Nat) : IsLiteral ('0' :: '.' :: List.replicate k '0' ++ digits n) := by
  have hzero : placeOf? ['0'] = some .zero := rfl
  have hdigits : ∀ c ∈ List.replicate k '0' ++ digits n, c.isDigit := by
    intro c hc
    rcases List.mem_append.1 hc with hc | hc
    · exact isDigit_of_mem_replicate hc
    · exact isDigit_of_mem_toDigits hc
  have hplace := placeOf?_fraction (.inr hzero) (by simp [digits]) hdigits
  exact ⟨.fraction, hplace, rfl⟩

theorem isLiteral_scientific {n : Nat} (hn : 0 < n) (lead : Int) :
    IsLiteral ((digits n).take 1 ++ (if (digits n).length ≤ 1 then [] else '.' :: (digits n).drop 1) ++
      'e' :: (if lead < 0 then '-' else '+') :: digits lead.natAbs) := by
  have hfirst := take_digits hn Nat.one_pos
  refine isLiteral_exponent ?_ ?_ Nat.toDigits_ne_nil fun c => isDigit_of_mem_toDigits
  · split
    · rw [List.append_nil]
      exact .inl hfirst
    · rename_i hlong
      exact .inr (placeOf?_fraction (.inl hfirst) (drop_digits_ne_nil (by omega)) fun c => isDigit_of_mem_drop)
  · split
    · exact .inr rfl
    · exact .inl rfl

theorem isLiteral_format {n : Nat} (hn : 0 < n) (grid : Int) : IsLiteral (format n grid) := by
  unfold format
  dsimp only
  split
  · split
    · exact isLiteral_plain hn _
    split
    · exact ⟨.fraction, placeOf?_fraction (.inl (take_digits hn (by omega))) (drop_digits_ne_nil (by omega))
        fun c => isDigit_of_mem_drop, rfl⟩
    · exact isLiteral_small n _
  · simpa using isLiteral_scientific hn (grid + (digits n).length - 1)

/-- Every double is written as one literal. -/
theorem scan_text (x : Double) : scan x.text.toList = some [.number (numeralOf x.text.toList).value?] := by
  have hmagnitude : IsLiteral (if x.isZero then ['0', '.', '0'] else format x.shortest.1 x.shortest.2) := by
    split
    · exact ⟨.fraction, rfl, rfl⟩
    · rename_i hzero
      exact isLiteral_format (shortest_pos hzero) _
  rw [text, String.toList_ofList]
  split
  · exact scan_signed hmagnitude
  · exact scan_literal hmagnitude

theorem exists_mark_format (n : Nat) (grid : Int) : ∃ c ∈ format n grid, c.isDigit = false ∧ c ≠ '-' := by
  unfold format
  dsimp only
  split
  · refine ⟨'.', ?_, rfl, by decide⟩
    split
    · simp
    · split <;> simp
  · exact ⟨'e', by simp, rfl, by decide⟩

theorem exists_mark (x : Double) : ∃ c ∈ x.text.toList, c.isDigit = false ∧ c ≠ '-' := by
  have hmagnitude : ∃ c ∈ if x.isZero then ['0', '.', '0'] else format x.shortest.1 x.shortest.2,
      c.isDigit = false ∧ c ≠ '-' := by
    split
    · exact ⟨'.', by simp, rfl, by decide⟩
    · exact exists_mark_format _ _
  obtain ⟨c, hc, hmark⟩ := hmagnitude
  refine ⟨c, ?_, hmark⟩
  rw [text, String.toList_ofList]
  split
  · exact List.mem_cons_of_mem _ hc
  · exact hc

end Double

theorem Number.scan_render (n : Number) :
    Json.scan n.render.toList = some [.number (Json.numeralOf n.render.toList).value?] := by
  cases n with
  | integer z => exact Json.scan_integer z
  | double x => exact x.scan_text

theorem Number.unsigned?_of_value? {n m : Number} (h : (Json.numeralOf n.render.toList).value? = some m) :
    m.unsigned? = n.unsigned? := by
  cases n with
  | integer z => exact Json.unsigned?_integer h
  | double x =>
    refine Option.eq_none_iff_forall_ne_some.2 fun k hk => ?_
    obtain ⟨-, hfraction, hexponent, -⟩ := Json.digits_of_unsigned? h hk
    obtain ⟨c, hc, hdigit, hsign⟩ := x.exists_mark
    have hpart := Json.numeralOf_part hc hdigit hsign
    exact hpart.elim (· hfraction) (· hexponent)

end ServiceLink
