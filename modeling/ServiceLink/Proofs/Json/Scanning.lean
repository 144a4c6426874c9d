import ServiceLink.Json.Token
import ServiceLink.Json.Writer

/-! The tokens of a text that is put together from smaller ones. What has tokens of its own keeps them
wherever it stands between marks, and a text that was quoted is one token. -/

namespace ServiceLink.Json

def scan (cs : List Char) : Option (List Token) := (cs.foldlM Scanner.step {}).bind Scanner.finish

/-- The characters that are tokens by themselves. -/
inductive Mark : Char → Token → Prop
  | beginObject : Mark '\x7b' .beginObject
  | endObject : Mark '\x7d' .endObject
  | beginArray : Mark '[' .beginArray
  | endArray : Mark ']' .endArray
  | colon : Mark ':' .colon
  | comma : Mark ',' .comma

theorem Mark.next {c : Char} {m : Token} (h : Mark c m) (p : NumeralPlace) : p.next c = none := by
  cases h <;> cases p <;> rfl

theorem Mark.not_isDigit {c : Char} {m : Token} (h : Mark c m) : c.isDigit = false := by
  cases h <;> rfl

namespace Scanner

theorem start_mark {c : Char} {m : Token} (h : Mark c m) (s : Scanner) : s.start c = some (s.emit m) := by
  cases h <;> rfl

/-! ### What was scanned before -/

/-- The scanner with the tokens of what came before. -/
def behind (earlier : List Token) (s : Scanner) : Scanner := { s with tokens := s.tokens ++ earlier }

theorem start_behind (earlier : List Token) (s : Scanner) (c : Char) :
    (s.behind earlier).start c = (s.start c).map (·.behind earlier) := by
  simp only [start, apply_ite (Option.map _), Option.map_some, Option.map_none]
  rfl

theorem step_behind (earlier : List Token) (s : Scanner) (c : Char) :
    (s.behind earlier).step c = (s.step c).map (·.behind earlier) := by
  obtain ⟨mode, tokens⟩ := s
  cases mode with
  | gap => exact start_behind earlier _ c
  | word rest t =>
    match rest with
    | [] => rfl
    | [x] =>
      dsimp only [step, behind]
      split <;> rfl
    | x :: y :: rest =>
      dsimp only [step, behind]
      split <;> rfl
  | text q =>
    simp only [step, behind, apply_ite (Option.map _), Option.map_some, Option.map_none]
    rfl
  | escape q =>
    dsimp only [step, behind]
    split
    · rfl
    · cases escaped? c <;> rfl
  | unit q value left =>
    dsimp only [step, behind]
    cases Text.hexValue? c with
    | none => rfl
    | some d => cases left <;> rfl
  | numeral chars place =>
    dsimp only [step, behind]
    cases place.next c with
    | some p => rfl
    | none =>
      dsimp only
      split
      · exact start_behind earlier (emit ⟨_, tokens⟩ _) c
      · rfl

theorem foldlM_behind (earlier : List Token) (cs : List Char) (s : Scanner) :
    cs.foldlM step (s.behind earlier) = (cs.foldlM step s).map (·.behind earlier) := by
  induction cs generalizing s with
  | nil => rfl
  | cons c cs ih =>
    rw [List.foldlM_cons, List.foldlM_cons, step_behind]
    cases s.step c with
    | none => rfl
    | some s' => exact ih s'

theorem finish_behind (earlier : List Token) (s : Scanner) :
    (s.behind earlier).finish = s.finish.map (earlier.reverse ++ ·) := by
  obtain ⟨mode, tokens⟩ := s
  cases mode with
  | gap => simp [finish, behind]
  | numeral chars place => by_cases h : place.isEnd <;> simp [finish, behind, h]
  | _ => rfl

theorem step_mark {s : Scanner} {ts : List Token} (hs : s.finish = some ts) {c : Char} {m : Token}
    (hm : Mark c m) : s.step c = some ⟨.gap, m :: ts.reverse⟩ := by
  obtain ⟨mode, tokens⟩ := s
  cases mode with
  | gap =>
    cases hs
    rw [List.reverse_reverse]
    exact start_mark hm _
  | numeral chars place =>
    dsimp only [finish] at hs
    split at hs
    · rename_i hend
      cases hs
      dsimp only [step]
      rw [hm.next place, List.reverse_reverse]
      exact (if_pos ⟨hend, by simp [hm.not_isDigit]⟩).trans (start_mark hm _)
    · cases hs
  | _ => cases hs

end Scanner

@[simp] theorem scan_nil : scan [] = some [] := rfl

/-- A text keeps its tokens in front of a mark, and so does what comes behind. -/
theorem scan_append_mark {cs : List Char} {ts : List Token} (h : scan cs = some ts) {c : Char} {m : Token}
    (hm : Mark c m) (rest : List Char) :
    scan (cs ++ c :: rest) = (scan rest).map (ts ++ m :: ·) := by
  obtain ⟨s, hs, hts⟩ := Option.bind_eq_some_iff.1 h
  have hthen : (⟨.gap, m :: ts.reverse⟩ : Scanner) = Scanner.behind (m :: ts.reverse) {} := rfl
  unfold scan
  rw [List.foldlM_append, hs, Option.bind_eq_bind, Option.bind_some, List.foldlM_cons,
    Scanner.step_mark hts hm, Option.bind_eq_bind, Option.bind_some, hthen, Scanner.foldlM_behind]
  cases rest.foldlM Scanner.step {} with
  | none => rfl
  | some s' =>
    show (Scanner.behind _ s').finish = s'.finish.map _
    rw [Scanner.finish_behind, List.reverse_cons, List.reverse_reverse]
    simp

theorem scan_mark {c : Char} {m : Token} (hm : Mark c m) (rest : List Char) :
    scan (c :: rest) = (scan rest).map (m :: ·) :=
  scan_append_mark scan_nil hm rest

theorem scan_append_end {cs : List Char} {ts : List Token} (h : scan cs = some ts) {c : Char} {m : Token}
    (hm : Mark c m) : scan (cs ++ [c]) = some (ts ++ [m]) :=
  scan_append_mark h hm []

/-! ### Quoted texts -/

theorem hexValue?_hexDigit {n : Nat} (h : n < 16) : Text.hexValue? (hexDigit n) = some n := by
  have hall : ∀ m : Fin 16, Text.hexValue? (hexDigit m) = some m.val := by decide
  exact hall ⟨n, h⟩

namespace Quoted

@[simp] theorem half_push (q : Quoted) (c : Char) : (q.push c).half = none := rfl

@[simp] theorem sound_push (q : Quoted) (c : Char) : (q.push c).sound = (q.sound && q.half.isNone) := rfl

theorem pushUnit_control (q : Quoted) {c : Char} (h : c.toNat < 0x20) :
    q.pushUnit (c.toNat / 16 * 16 + c.toNat % 16) = q.push c := by
  have hsum : c.toNat / 16 * 16 + c.toNat % 16 = c.toNat := by omega
  unfold pushUnit
  rw [hsum, if_neg (by omega), if_neg (by omega), Char.ofNat_toNat]

end Quoted

namespace Scanner

theorem foldlM_escape (q : Quoted) (tokens : List Token) (c : Char) :
    (escape c).foldlM step ⟨.text q, tokens⟩ = some ⟨.text (q.push c), tokens⟩ := by
  unfold escape
  split
  · subst c
    rfl
  split
  · subst c
    rfl
  split
  · subst c
    rfl
  split
  · subst c
    rfl
  split
  · subst c
    rfl
  split
  · subst c
    rfl
  split
  · subst c
    rfl
  split
  · rename_i hcontrol
    have hhigh := hexValue?_hexDigit (n := c.toNat / 16) (by omega)
    have hlow := hexValue?_hexDigit (n := c.toNat % 16) (Nat.mod_lt _ (by omega))
    have hzero : Text.hexValue? '0' = some 0 := by decide
    simp [step, enter, hzero, hhigh, hlow, Quoted.pushUnit_control q hcontrol]
  · rename_i hquote hbackslash _ _ _ _ _ hplain
    simp [step, enter, hquote, hbackslash, hplain]

theorem foldlM_escapes (tokens : List Token) (cs : List Char) (q : Quoted) :
    (cs.flatMap escape).foldlM step ⟨.text q, tokens⟩ = some ⟨.text (cs.foldl Quoted.push q), tokens⟩ := by
  induction cs generalizing q with
  | nil => rfl
  | cons c cs ih =>
    rw [List.flatMap_cons, List.foldlM_append, foldlM_escape]
    exact ih (q.push c)

end Scanner

theorem Quoted.foldl_push (cs : List Char) (q : Quoted) (hsound : q.sound) (hhalf : q.half = none) :
    cs.foldl Quoted.push q = { chars := cs.reverse ++ q.chars } := by
  induction cs generalizing q with
  | nil =>
    obtain ⟨chars, half, sound⟩ := q
    simp_all
  | cons c cs ih =>
    rw [List.foldl_cons, ih (q.push c) (by simp [hsound, hhalf]) rfl]
    simp [Quoted.push]

theorem scan_quote (s : String) : scan (quote s).toList = some [.text (some s)] := by
  have hall : (quote s).toList = '"' :: (s.toList.flatMap escape ++ ['"']) := by simp [quote]
  have hopen : Scanner.step {} '"' = some ⟨.text {}, []⟩ := rfl
  have hclose : ∀ q : Quoted, Scanner.step ⟨.text q, []⟩ '"' = some ⟨.gap, [q.token]⟩ := fun _ => rfl
  unfold scan
  rw [hall, List.foldlM_cons, hopen, Option.bind_eq_bind, Option.bind_some, List.foldlM_append,
    Scanner.foldlM_escapes, Option.bind_eq_bind, Option.bind_some, List.foldlM_cons, hclose,
    Quoted.foldl_push s.toList {} rfl rfl]
  simp [Quoted.token, Scanner.finish]

end ServiceLink.Json
