import ServiceLink.Proofs.Text.Cutting
import ServiceLink.Url.Reader

/-! No host holds a mark that ends a path, however the host was given. What is read of a URL up to its query is
written without such a mark. -/

namespace ServiceLink.Url

open Text

/-- Neither a query nor a fragment begins in it. -/
def Unmarked (cs : List Char) : Prop := ∀ c ∈ cs, ¬ isPathEnd c

instance (cs : List Char) : Decidable (Unmarked cs) := List.decidableBAll _ cs

namespace Unmarked

@[simp] theorem nil : Unmarked [] := fun _ h => absurd h List.not_mem_nil

@[simp] theorem cons_iff {c : Char} {cs : List Char} : Unmarked (c :: cs) ↔ ¬ isPathEnd c ∧ Unmarked cs :=
  List.forall_mem_cons

@[simp] theorem append_iff {cs ds : List Char} : Unmarked (cs ++ ds) ↔ Unmarked cs ∧ Unmarked ds :=
  List.forall_mem_append

theorem mono {cs ds : List Char} (hd : Unmarked ds) (h : ∀ c ∈ cs, c ∈ ds) : Unmarked cs :=
  fun c hc => hd c (h c hc)

theorem flatMap {α : Type} {f : α → List Char} {l : List α} (h : ∀ a ∈ l, Unmarked (f a)) :
    Unmarked (l.flatMap f) := by
  intro c hc
  obtain ⟨a, ha, hc⟩ := List.mem_flatMap.1 hc
  exact h a ha c hc

theorem intercalate {separator : List Char} (hs : Unmarked separator) {parts : List (List Char)}
    (h : ∀ part ∈ parts, Unmarked part) : Unmarked (separator.intercalate parts) := by
  match parts with
  | [] => exact nil
  | [part] => simpa using h
  | part :: next :: rest =>
    rw [List.intercalate_cons_cons, append_iff, append_iff]
    exact ⟨⟨h part List.mem_cons_self, hs⟩, intercalate hs fun p hp => h p (List.mem_cons_of_mem _ hp)⟩

end Unmarked

theorem isPathEnd_iff {c : Char} : isPathEnd c ↔ c = '?' ∨ c = '#' := by simp [isPathEnd]

theorem not_isPathEnd_of_le {c : Char} (h : 0x80 ≤ c.toNat) : ¬ isPathEnd c := by
  rw [isPathEnd_iff]
  rintro (rfl | rfl) <;> exact absurd h (by decide)

theorem not_isPathEnd_ofNat {n : Nat} (h : 0x80 ≤ n) : ¬ isPathEnd (Char.ofNat n) := by
  by_cases hn : n.isValidChar
  · refine not_isPathEnd_of_le ?_
    rwa [Char.ofNat, dif_pos hn]
  · rw [Char.ofNat, dif_neg hn]
    decide

/-! ### Percent-encoding -/

theorem hexUpper_unmarked : ∀ n < 16, ¬ isPathEnd (hexUpper n) := by decide

theorem percentChar_unmarked (c : Char) : Unmarked (percentChar c) := by
  refine .flatMap fun b _ => ?_
  have hb := b.toNat_lt
  have hhigh := hexUpper_unmarked (b.toNat / 16) (by omega)
  have hlow := hexUpper_unmarked (b.toNat % 16) (by omega)
  simpa [percentByte, hhigh, hlow] using show ¬ isPathEnd '%' by decide

theorem percentEncode_unmarked {inSet : Char → Bool} (h : ∀ c, isPathEnd c → inSet c) (cs : List Char) :
    Unmarked (percentEncode inSet cs) := by
  refine .flatMap fun c _ => ?_
  split
  · exact percentChar_unmarked c
  · rename_i hc
    exact Unmarked.cons_iff.2 ⟨fun hm => hc (h c hm), .nil⟩

theorem pathSet_of_isPathEnd {c : Char} (h : isPathEnd c) : pathSet c := by
  rcases isPathEnd_iff.1 h with rfl | rfl <;> decide

theorem userinfoSet_of_isPathEnd {c : Char} (h : isPathEnd c) : userinfoSet c := by
  simp [userinfoSet, pathSet_of_isPathEnd h]

/-! ### Punycode -/

namespace Punycode

theorem digit_unmarked : ∀ d < 36, ¬ isPathEnd (digit d) := by decide

theorem threshold_le (place bias : Nat) : threshold place bias ≤ 26 := by
  unfold threshold
  split
  · omega
  · split <;> omega

theorem number_unmarked (bias place n : Nat) : Unmarked (number bias place n) := by
  induction n using Nat.strongRecOn generalizing place with
  | ind n ih =>
    have hpos := threshold_pos place bias
    have hle := threshold_le place bias
    rw [number]
    split
    · exact Unmarked.cons_iff.2 ⟨digit_unmarked n (by omega), .nil⟩
    · have hlast := Nat.mod_lt (n - threshold place bias) (show 0 < 36 - threshold place bias by omega)
      have hrest := Nat.div_le_self (n - threshold place bias) (36 - threshold place bias)
      exact Unmarked.cons_iff.2 ⟨digit_unmarked _ (by omega), ih _ (by omega) _⟩

namespace Encoder

theorem pass_unmarked {e : Encoder} (h : Unmarked e.out) (basic code : Nat) (c : Char) :
    Unmarked (pass basic code e c).out := by
  unfold pass
  split
  · exact h
  · split
    · exact Unmarked.append_iff.2 ⟨h, number_unmarked _ _ _⟩
    · exact h

theorem foldl_pass_unmarked (label : List Char) {e : Encoder} (h : Unmarked e.out) (basic code : Nat) :
    Unmarked (label.foldl (pass basic code) e).out := by
  induction label generalizing e with
  | nil => exact h
  | cons c label ih => exact ih (pass_unmarked h basic code c)

theorem foldl_place_unmarked (label : List Char) (basic : Nat) (codes : List Nat) {e : Encoder × Nat}
    (h : Unmarked e.1.out) : Unmarked (codes.foldl (place label basic) e).1.out := by
  induction codes generalizing e with
  | nil => exact h
  | cons code codes ih =>
    refine ih ?_
    refine foldl_pass_unmarked label ?_ basic code
    exact h

end Encoder

theorem encode_unmarked {label : List Char} (h : Unmarked label) : Unmarked (encode label) := by
  unfold encode
  refine Unmarked.append_iff.2 ⟨Unmarked.append_iff.2 ⟨h.mono fun c hc => (List.mem_filter.1 hc).1, ?_⟩, ?_⟩
  · split <;> decide
  · exact Encoder.foldl_place_unmarked _ _ _ .nil

namespace Decoder

theorem step_unmarked {d d' : Decoder} {c : Char} (h : step d c = some d')
    (hd : Unmarked d.out ∧ 0x80 ≤ d.code) : Unmarked d'.out ∧ 0x80 ≤ d'.code := by
  obtain ⟨hout, hcode⟩ := hd
  obtain ⟨v, -, h⟩ := Option.bind_eq_some_iff.1 h
  dsimp only at h
  split at h
  · split at h
    · cases h
    · cases h
      have hnext (k : Nat) : 0x80 ≤ d.code + k := Nat.le_trans hcode (Nat.le_add_right _ _)
      have hbefore (i : Nat) : Unmarked (d.out.take i) := hout.mono fun c hc => List.mem_of_mem_take hc
      have hbehind (i : Nat) : Unmarked (d.out.drop i) := hout.mono fun c hc => List.mem_of_mem_drop hc
      exact ⟨Unmarked.append_iff.2 ⟨hbefore _, Unmarked.cons_iff.2 ⟨not_isPathEnd_ofNat (hnext _), hbehind _⟩⟩,
        hnext _⟩
  · cases h
    exact ⟨hout, hcode⟩

theorem foldlM_step_unmarked {cs : List Char} {d d' : Decoder} (h : cs.foldlM step d = some d')
    (hd : Unmarked d.out ∧ 0x80 ≤ d.code) : Unmarked d'.out ∧ 0x80 ≤ d'.code := by
  induction cs generalizing d with
  | nil =>
    cases h
    exact hd
  | cons c cs ih =>
    rw [List.foldlM_cons] at h
    obtain ⟨next, hnext, h⟩ := Option.bind_eq_some_iff.1 h
    exact ih h (step_unmarked hnext hd)

end Decoder

theorem decode?_unmarked {code label : List Char} (h : decode? code = some label) (hc : Unmarked code) :
    Unmarked label := by
  obtain ⟨d, hd, h⟩ := Option.bind_eq_some_iff.1 h
  split at h
  · cases h
    refine (Decoder.foldlM_step_unmarked hd ⟨hc.mono fun c h => ?_, Nat.le_refl _⟩).1
    exact List.mem_of_mem_take ((List.dropLast_sublist _).subset h)
  · cases h

end Punycode

/-! ### Domain names -/

theorem Label.read?_unmarked {part label : List Char} (h : Label.read? part = some label) (hp : Unmarked part) :
    Unmarked label := by
  unfold Label.read? at h
  split at h
  · rename_i code
    split at h
    · cases h
    · have hcode : Unmarked code := by simp_all
      exact Punycode.decode?_unmarked (Option.filter_eq_some_iff.1 h).1 hcode
  · cases h
    exact hp

theorem Label.text_unmarked {label : List Char} (h : Unmarked label) : Unmarked (Label.text label) := by
  unfold Label.text
  split
  · exact h
  · have hmark : Unmarked ['x', 'n', '-', '-'] := by decide
    exact Unmarked.append_iff.2 ⟨hmark, Punycode.encode_unmarked h⟩

theorem Label.mapM_read?_unmarked {parts labels : List (List Char)} (h : parts.mapM Label.read? = some labels)
    (hp : ∀ part ∈ parts, Unmarked part) : ∀ label ∈ labels, Unmarked label := by
  induction parts generalizing labels with
  | nil =>
    cases h
    exact fun _ hl => absurd hl List.not_mem_nil
  | cons part parts ih =>
    rw [List.mapM_cons] at h
    obtain ⟨label, hlabel, h⟩ := Option.bind_eq_some_iff.1 h
    obtain ⟨labels, hlabels, h⟩ := Option.bind_eq_some_iff.1 h
    cases h
    refine List.forall_mem_cons.2 ⟨Label.read?_unmarked hlabel (hp part List.mem_cons_self), ?_⟩
    exact ih hlabels fun p h => hp p (List.mem_cons_of_mem _ h)

theorem deniedInDomain_of_isPathEnd {c : Char} (h : isPathEnd c) : Host.deniedInDomain c := by
  rcases isPathEnd_iff.1 h with rfl | rfl <;> decide

theorem Host.domain?_unmarked {bytes : List UInt8} {domain : List Char} (h : Host.domain? bytes = some domain) :
    Unmarked domain := by
  obtain ⟨text, -, h⟩ := Option.bind_eq_some_iff.1 h
  obtain ⟨folded, -, h⟩ := Option.bind_eq_some_iff.1 h
  split at h
  · cases h
  · rename_i hallowed
    obtain ⟨labels, hlabels, h⟩ := Option.bind_eq_some_iff.1 h
    split at h
    · cases h
      have hfolded : Unmarked folded := fun c hc hm =>
        hallowed (List.any_eq_true.2 ⟨c, hc, deniedInDomain_of_isPathEnd hm⟩)
      have hparts : ∀ part ∈ pieces (· = '.') folded, Unmarked part := fun part hp =>
        hfolded.mono fun c hc => mem_of_mem_pieces hp hc
      refine .intercalate (by decide) fun text ht => ?_
      obtain ⟨label, hl, rfl⟩ := List.mem_map.1 ht
      exact Label.text_unmarked (Label.mapM_read?_unmarked hlabels hparts label hl)
    · cases h

/-! ### Addresses -/

theorem digitChar_unmarked : ∀ n < 16, ¬ isPathEnd n.digitChar := by decide

theorem toDigits_unmarked {base : Nat} (hb : 1 < base) (hle : base ≤ 16) (n : Nat) :
    Unmarked (Nat.toDigits base n) := by
  induction n using Nat.strongRecOn with
  | ind n ih =>
    rw [Nat.toDigits_eq_if hb]
    split
    · exact Unmarked.cons_iff.2 ⟨digitChar_unmarked n (by omega), .nil⟩
    · have hsmaller : n / base < n := Nat.div_lt_self (by omega) hb
      have hdigit : n % base < base := Nat.mod_lt n (by omega)
      exact Unmarked.append_iff.2
        ⟨ih _ hsmaller, Unmarked.cons_iff.2 ⟨digitChar_unmarked _ (by omega), .nil⟩⟩

theorem toString_unmarked (n : Nat) : Unmarked (toString n).toList := by
  rw [Nat.toString_eq_ofList_toDigits, String.toList_ofList]
  exact toDigits_unmarked (by decide) (by decide) n

theorem ipv4Text_unmarked (address : Nat) : Unmarked (ipv4Text address).toList := by
  rw [ipv4Text, String.toList_intercalate]
  refine .intercalate (by decide) fun part hp => ?_
  obtain ⟨text, ht, rfl⟩ := List.mem_map.1 hp
  obtain ⟨i, -, rfl⟩ := List.mem_map.1 ht
  exact toString_unmarked _

theorem colonText_unmarked (ps : List Nat) : Unmarked (colonText ps).toList := by
  rw [colonText, String.toList_intercalate]
  refine .intercalate (by decide) fun part hp => ?_
  obtain ⟨text, ht, rfl⟩ := List.mem_map.1 hp
  obtain ⟨n, -, rfl⟩ := List.mem_map.1 ht
  rw [ipv6PieceText, String.toList_ofList]
  exact toDigits_unmarked (by decide) (by decide) n

theorem ipv6Text_unmarked (ps : List Nat) : Unmarked (ipv6Text ps).toList := by
  have hcolons : Unmarked "::".toList := by decide
  unfold ipv6Text
  split
  · exact colonText_unmarked ps
  · simp only [String.toList_append, Unmarked.append_iff]
    exact ⟨⟨colonText_unmarked _, hcolons⟩, colonText_unmarked _⟩

/-! ### Hosts -/

theorem Host.special_unmarked {cs : List Char} {host : Host} (h : Host.special cs = .ok host) :
    Unmarked host.text.toList := by
  unfold Host.special at h
  split at h
  · unfold bracketed at h
    split at h
    · split at h
      · cases h
        have hopen : Unmarked "[".toList := by decide
        have hclose : Unmarked "]".toList := by decide
        simp only [Host.text, String.toList_append, Unmarked.append_iff]
        exact ⟨⟨hopen, ipv6Text_unmarked _⟩, hclose⟩
      · cases h
    · cases h
  · split at h
    · cases h
    · cases h
    · rename_i domain _ hdomain
      split at h
      · split at h
        · cases h
          exact ipv4Text_unmarked _
        · cases h
      · cases h
        rw [Host.text, String.toList_ofList]
        exact Host.domain?_unmarked hdomain

end ServiceLink.Url
