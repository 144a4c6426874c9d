import Mathlib.Data.List.TakeWhile
import Mathlib.Data.Nat.Digits.Defs
import ServiceLink.Proofs.Json.Scanning

/-! The literals of integers. An integer in range is written as one literal, and read back from it; one out of
range comes back as no integer that an id can be. -/

namespace ServiceLink.Json

namespace NumeralPlace

theorem ne_of_isDigit {c x : Char} (h : c.isDigit) (hx : x.isDigit = false) : c ≠ x := by
  rintro rfl
  exact absurd (h.symm.trans hx) nofun

/-- The places of a literal at which it may end or go on with a digit. -/
def IsRun (p : NumeralPlace) : Prop := p = .whole ∨ p = .fraction ∨ p = .exponent

theorem next_of_isRun {p : NumeralPlace} (hp : p.IsRun) {c : Char} (h : c.isDigit) : p.next c = some p := by
  obtain rfl | rfl | rfl := hp <;> simp [next, h]

theorem foldlM_next {p : NumeralPlace} (hp : p.IsRun) {ds : List Char} (h : ∀ c ∈ ds, c.isDigit) :
    ds.foldlM next p = some p := by
  induction ds with
  | nil => rfl
  | cons c ds ih =>
    rw [List.foldlM_cons, next_of_isRun hp (h c List.mem_cons_self)]
    exact ih fun x hx => h x (List.mem_cons_of_mem _ hx)

end NumeralPlace

open NumeralPlace (foldlM_next ne_of_isDigit)

/-- The place behind the characters of a literal. The sign of a literal stands before them. -/
def placeOf? (cs : List Char) : Option NumeralPlace := cs.foldlM NumeralPlace.next .minus

def IsLiteral (cs : List Char) : Prop := ∃ p, placeOf? cs = some p ∧ p.isEnd

namespace Scanner

theorem start_next {c : Char} {p : NumeralPlace} (h : NumeralPlace.minus.next c = some p) (s : Scanner) :
    s.start c = some (s.enter (.numeral [c] p)) := by
  unfold NumeralPlace.next at h
  dsimp only at h
  split at h
  · subst c
    cases h
    rfl
  split at h
  · rename_i hzero hdigit
    cases h
    have hne : ∀ x : Char, x.isDigit = false → c ≠ x := fun x => ne_of_isDigit hdigit
    simp [start, isBlank, hzero, hdigit, hne ' ' rfl, hne '\t' rfl, hne '\n' rfl, hne '\r' rfl,
      hne '\x7b' rfl, hne '\x7d' rfl, hne '[' rfl, hne ']' rfl, hne ':' rfl, hne ',' rfl, hne '"' rfl,
      hne 'n' rfl, hne 't' rfl, hne 'f' rfl, hne '-' rfl]
  · cases h

theorem foldlM_numeral {cs : List Char} {p q : NumeralPlace} (h : cs.foldlM NumeralPlace.next p = some q)
    (seen : List Char) (tokens : List Token) :
    cs.foldlM step ⟨.numeral seen p, tokens⟩ = some ⟨.numeral (cs.reverse ++ seen) q, tokens⟩ := by
  induction cs generalizing p seen with
  | nil =>
    cases h
    rfl
  | cons c cs ih =>
    obtain ⟨p', hp', hrest⟩ := Option.bind_eq_some_iff.1 h
    have hstep : step ⟨.numeral seen p, tokens⟩ c = some ⟨.numeral (c :: seen) p', tokens⟩ := by
      dsimp only [step]
      rw [hp']
      rfl
    rw [List.foldlM_cons, hstep, Option.bind_eq_bind, Option.bind_some, ih hrest]
    simp

theorem finish_numeral {p : NumeralPlace} (h : p.isEnd) (chars : List Char) :
    finish ⟨.numeral chars p, []⟩ = some [.number (numeralOf chars.reverse).value?] := by
  simp [finish, h, numeralToken]

end Scanner

theorem scan_literal {cs : List Char} (h : IsLiteral cs) : scan cs = some [.number (numeralOf cs).value?] := by
  obtain ⟨p, hp, hend⟩ := h
  cases cs with
  | nil =>
    cases hp
    cases hend
  | cons c cs =>
    obtain ⟨q, hq, hcs⟩ := Option.bind_eq_some_iff.1 hp
    have hstart : Scanner.step {} c = some ⟨.numeral [c] q, []⟩ := Scanner.start_next hq {}
    rw [scan, List.foldlM_cons, hstart, Option.bind_eq_bind, Option.bind_some, Scanner.foldlM_numeral hcs,
      Option.bind_some, Scanner.finish_numeral hend]
    simp

theorem scan_signed {cs : List Char} (h : IsLiteral cs) :
    scan ('-' :: cs) = some [.number (numeralOf ('-' :: cs)).value?] := by
  obtain ⟨p, hp, hend⟩ := h
  have hstart : Scanner.step {} '-' = some ⟨.numeral ['-'] .minus, []⟩ := rfl
  rw [scan, List.foldlM_cons, hstart, Option.bind_eq_bind, Option.bind_some, Scanner.foldlM_numeral hp,
    Option.bind_some, Scanner.finish_numeral hend]
  simp

/-! ### Digits -/

theorem isDigit_of_mem_toDigits {n : Nat} {c : Char} (h : c ∈ Nat.toDigits 10 n) : c.isDigit :=
  Nat.isDigit_of_mem_toDigits (by omega) (by omega) h

theorem toDigits_pos {n : Nat} (h : 0 < n) : ∃ d ds, Nat.toDigits 10 n = d :: ds ∧ d ≠ '0' := by
  induction n using Nat.strongRecOn with
  | ind n ih =>
    by_cases hlt : n < 10
    · have hall : ∀ m : Fin 10, 0 < m.val → Nat.digitChar m ≠ '0' := by decide
      exact ⟨n.digitChar, [], Nat.toDigits_of_lt_base hlt, hall ⟨n, hlt⟩ h⟩
    · obtain ⟨d, ds, hdigits, hd⟩ := ih (n / 10) (by omega) (by omega)
      refine ⟨d, ds ++ [(n % 10).digitChar], ?_, hd⟩
      rw [Nat.toDigits_of_base_le (by omega) (by omega), hdigits]
      rfl

theorem placeOf?_cons {d : Char} (hne : d ≠ '0') {ds : List Char} (h : ∀ c ∈ d :: ds, c.isDigit) :
    placeOf? (d :: ds) = some .whole := by
  have hfirst : NumeralPlace.minus.next d = some .whole := by simp [NumeralPlace.next, hne, h d]
  rw [placeOf?, List.foldlM_cons, hfirst]
  exact foldlM_next (.inl rfl) fun c hc => h c (List.mem_cons_of_mem _ hc)

theorem placeOf?_toDigits {n : Nat} (h : 0 < n) : placeOf? (Nat.toDigits 10 n) = some .whole := by
  obtain ⟨d, ds, hdigits, hne⟩ := toDigits_pos h
  rw [hdigits]
  exact placeOf?_cons hne fun c hc => isDigit_of_mem_toDigits (hdigits ▸ hc)

theorem isLiteral_toDigits (n : Nat) : IsLiteral (Nat.toDigits 10 n) := by
  rcases Nat.eq_zero_or_pos n with rfl | hpos
  · exact ⟨.zero, rfl, rfl⟩
  · exact ⟨.whole, placeOf?_toDigits hpos, rfl⟩

/-! ### Integers -/

theorem le_ofDigitChars (ds : List Char) (start : Nat) : start ≤ Nat.ofDigitChars 10 ds start := by
  induction ds generalizing start with
  | nil => exact Nat.le_refl start
  | cons d ds ih =>
    have htail := ih (10 * start + (d.toNat - '0'.toNat))
    rw [Nat.ofDigitChars_cons]
    omega

theorem absorb_digitsOf {ds : List Char} {start : Nat} (h : Nat.ofDigitChars 10 ds start < Word.unsignedEnd) :
    Numeral.absorb start (digitsOf ds) = (Nat.ofDigitChars 10 ds start, 0) := by
  induction ds generalizing start with
  | nil => rfl
  | cons d ds ih =>
    rw [Nat.ofDigitChars_cons, Nat.mul_comm] at h ⊢
    have hnext := Nat.lt_of_le_of_lt (le_ofDigitChars ds _) h
    have hstep : Numeral.absorb start (digitsOf (d :: ds)) =
        Numeral.absorb (start * 10 + (d.toNat - '0'.toNat)) (digitsOf ds) := if_pos hnext
    rw [hstep]
    exact ih h

theorem absorb_toDigits {n : Nat} (h : n < Word.unsignedEnd) :
    Numeral.absorb 0 (digitsOf (Nat.toDigits 10 n)) = (n, 0) := by
  have hvalue : Nat.ofDigitChars 10 (Nat.toDigits 10 n) 0 = n := Nat.ofDigitChars_ten_toDigits
  rw [absorb_digitsOf (hvalue.symm ▸ h), hvalue]

theorem numeralOf_digits {ds : List Char} (h : ∀ c ∈ ds, c.isDigit) :
    numeralOf ds = ⟨false, digitsOf ds, none, none⟩ ∧
      numeralOf ('-' :: ds) = ⟨true, digitsOf ds, none, none⟩ := by
  have hdigits := List.takeWhile_eq_self_iff.2 h
  have hrest := List.dropWhile_eq_nil_iff.2 h
  constructor
  · cases ds with
    | nil => rfl
    | cons d ds =>
      have hd := ne_of_isDigit (h d List.mem_cons_self) (x := '-') rfl
      simp [numeralOf, hd, hdigits, hrest]
  · simp [numeralOf, hdigits, hrest]

/-- The integers that a number can be. -/
def InRange (z : Int) : Prop := -Word.signedEnd ≤ z ∧ z < Word.unsignedEnd

instance (z : Int) : Decidable (InRange z) := inferInstanceAs (Decidable (_ ∧ _))

theorem toList_render_integer (z : Int) : (Number.integer z).render.toList =
    if z < 0 then '-' :: Nat.toDigits 10 z.natAbs else Nat.toDigits 10 z.toNat := by
  simp only [Number.render, Nat.toString_eq_ofList_toDigits]
  split
  · simp
  · exact String.toList_ofList

theorem scan_integer (z : Int) : scan (Number.integer z).render.toList =
    some [.number (numeralOf (Number.integer z).render.toList).value?] := by
  rw [toList_render_integer]
  split
  · exact scan_signed (isLiteral_toDigits z.natAbs)
  · exact scan_literal (isLiteral_toDigits z.toNat)

theorem value?_integer {z : Int} (h : InRange z) :
    (numeralOf (Number.integer z).render.toList).value? = some (.integer z) := by
  obtain ⟨hlow, hhigh⟩ := h
  have hdigits (n : Nat) : ∀ c ∈ Nat.toDigits 10 n, c.isDigit := fun c => isDigit_of_mem_toDigits
  rw [toList_render_integer]
  split
  · have hvalue : Numeral.absorb 0 (digitsOf (Nat.toDigits 10 z.natAbs)) = (z.natAbs, 0) :=
      absorb_toDigits (by dsimp only [Word.signedEnd, Word.unsignedEnd] at hlow ⊢; omega)
    have hsmall : ¬ (z.natAbs = 0 ∨ Word.signedEnd < z.natAbs) := by
      dsimp only [Word.signedEnd] at hlow ⊢
      omega
    have hz : -(z.natAbs : Int) = z := by omega
    rw [(numeralOf_digits (hdigits z.natAbs)).2]
    simp only [Numeral.value?, hvalue, hsmall, hz]
    simp
  · have hvalue : Numeral.absorb 0 (digitsOf (Nat.toDigits 10 z.toNat)) = (z.toNat, 0) :=
      absorb_toDigits (by omega)
    have hz : (z.toNat : Int) = z := by omega
    rw [(numeralOf_digits (hdigits z.toNat)).1]
    simp only [Numeral.value?, hvalue, hz]
    simp

/-! ### Unsigned integers -/

theorem absorb_lt {start : Nat} (h : start < Word.unsignedEnd) (ds : List Nat) :
    (Numeral.absorb start ds).1 < Word.unsignedEnd := by
  induction ds generalizing start with
  | nil => exact h
  | cons d ds ih =>
    unfold Numeral.absorb
    split
    · rename_i hlt
      exact ih hlt
    · exact h

theorem absorb_whole {start value : Nat} {ds : List Char}
    (h : Numeral.absorb start (digitsOf ds) = (value, 0)) : Nat.ofDigitChars 10 ds start = value := by
  induction ds generalizing start with
  | nil =>
    cases h
    rfl
  | cons d ds ih =>
    have hcons : Numeral.absorb start (digitsOf (d :: ds)) =
        if start * 10 + (d.toNat - '0'.toNat) < Word.unsignedEnd then
          Numeral.absorb (start * 10 + (d.toNat - '0'.toNat)) (digitsOf ds)
        else (start, (digitsOf ds).length + 1) := rfl
    rw [hcons] at h
    split at h
    · rw [Nat.ofDigitChars_cons, Nat.mul_comm]
      exact ih h
    · cases h

theorem digits_of_unsigned? {n : Numeral} {m : Number} {k : Nat} (h : n.value? = some m)
    (hk : m.unsigned? = some k) :
    n.negative = false ∧ n.fraction = none ∧ n.exponent = none ∧ Numeral.absorb 0 n.whole = (k, 0) := by
  unfold Numeral.value? at h
  split at h
  · rename_i value hvalue hfraction hexponent
    split at h
    · rename_i hneg
      cases h
      have heq : value = k := by
        rw [Number.unsigned?, Option.ite_none_right_eq_some] at hk
        exact Option.some.inj hk.2
      exact ⟨by simpa using hneg, hfraction, hexponent, heq ▸ hvalue⟩
    split at h
    · cases h
      cases hk
    · rename_i hlarge
      cases h
      rw [Number.unsigned?, Option.ite_none_right_eq_some] at hk
      omega
  · obtain ⟨x, -, rfl⟩ := Option.map_eq_some_iff.1 h
    cases hk

theorem numeralOf_part {cs : List Char} {c : Char} (hc : c ∈ cs) (hdigit : c.isDigit = false) (hsign : c ≠ '-') :
    (numeralOf cs).fraction ≠ none ∨ (numeralOf cs).exponent ≠ none := by
  have hrest {ds : List Char} (hd : c ∈ ds) : ds.dropWhile (fun c => c.isDigit) ≠ [] := by
    intro hnil
    have hall := List.dropWhile_eq_nil_iff.1 hnil c hd
    simp [hdigit] at hall
  unfold numeralOf
  split
  rename_i negative ds hbehind
  have hmem : c ∈ ds := by
    split at hbehind
    · cases hbehind
      exact (List.mem_cons.1 hc).resolve_left hsign
    · cases hbehind
      exact hc
  have hleft := hrest hmem
  dsimp only
  cases hds : ds.dropWhile (fun c => c.isDigit) with
  | nil => exact absurd hds hleft
  | cons d rest =>
    by_cases hpoint : d = '.'
    · subst hpoint
      exact .inl (Option.some_ne_none _)
    · right
      split <;> simp_all

theorem unsigned?_integer {z : Int} {m : Number}
    (h : (numeralOf (Number.integer z).render.toList).value? = some m) :
    m.unsigned? = (Number.integer z).unsigned? := by
  by_cases hz : InRange z
  · cases (value?_integer hz).symm.trans h
    rfl
  have hnone : (Number.integer z).unsigned? = none := if_neg fun ⟨hle, hlt⟩ =>
    hz ⟨by dsimp only [Word.signedEnd]; omega, hlt⟩
  rw [hnone, Option.eq_none_iff_forall_ne_some]
  intro k hk
  obtain ⟨hneg, -, -, hwhole⟩ := digits_of_unsigned? h hk
  have hdigits (n : Nat) : ∀ c ∈ Nat.toDigits 10 n, c.isDigit := fun c => isDigit_of_mem_toDigits
  rw [toList_render_integer] at hneg hwhole
  split at hneg
  · rw [(numeralOf_digits (hdigits _)).2] at hneg
    cases hneg
  · rename_i hpos
    rw [if_neg hpos, (numeralOf_digits (hdigits _)).1] at hwhole
    have hvalue : z.toNat = k := Nat.ofDigitChars_ten_toDigits.symm.trans (absorb_whole hwhole)
    have hlt : (Numeral.absorb 0 (digitsOf (Nat.toDigits 10 z.toNat))).1 < Word.unsignedEnd :=
      absorb_lt (by decide) _
    rw [hwhole] at hlt
    exact hz ⟨by dsimp only [Word.signedEnd]; omega, by omega⟩

end ServiceLink.Json
