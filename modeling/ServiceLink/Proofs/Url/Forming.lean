import ServiceLink.Proofs.Text.Cutting
import ServiceLink.Url.Percent

/-! Form data read back. A pair that was written is read as the pair that it was, whatever its texts hold, and
nothing in it marks the end of a query or of a name. -/

namespace ServiceLink.Url

open Text

/-- In form data a plus sign stands for a blank. -/
def blankForPlus (c : Char) : Char := if c = '+' then ' ' else c

/-- The text that form data stands for, unless its bytes are none. -/
def formText? (cs : List Char) : Option String :=
  String.fromUTF8? ⟨(percentDecode (cs.map blankForPlus)).toArray⟩

def formField? (cs : List Char) : Option (String × String) := do
  return (← formText? (cs.takeWhile (· ≠ '=')), ← formText? (cs.dropWhile (· ≠ '=')).tail)

/-- The fields between ampersands; where nothing stands there is none. -/
def formRead? (cs : List Char) : Option (List (String × String)) :=
  ((pieces (· = '&') cs).filter (· ≠ [])).mapM formField?

/-! ### Bytes -/

theorem percentDecode_of_ne {c : Char} (h : c ≠ '%') (rest : List Char) :
    percentDecode (c :: rest) = String.utf8EncodeChar c ++ percentDecode rest := by
  rw [percentDecode]
  intro a b rest' hc
  exact absurd hc h

theorem hexValue?_hexUpper : ∀ n < 16, hexValue? (hexUpper n) = some n ∧ blankForPlus (hexUpper n) = hexUpper n := by
  decide +kernel

theorem formByte_self : ∀ n < 256, (Char.ofNat n).isAlphanum ∨ Char.ofNat n ∈ ['*', '-', '.', '_'] →
    Char.ofNat n ≠ '%' ∧ blankForPlus (Char.ofNat n) = Char.ofNat n ∧
      String.utf8EncodeChar (Char.ofNat n) = [UInt8.ofNat n] := by
  decide +kernel

theorem eq_of_blank : ∀ n < 256, Char.ofNat n = ' ' → n = 0x20 := by decide +kernel

theorem percentDecode_formByte (b : UInt8) (rest : List Char) :
    percentDecode ((formByte b).map blankForPlus ++ rest) = b :: percentDecode rest := by
  have hb : b.toNat < 256 := b.toNat_lt
  unfold formByte
  dsimp only
  split
  · obtain ⟨hne, hblank, hutf8⟩ := formByte_self b.toNat hb ‹_›
    rw [List.map_singleton, hblank, List.singleton_append, percentDecode_of_ne hne, hutf8, UInt8.ofNat_toNat]
    rfl
  · split
    · rename_i hspace
      obtain rfl : b = 0x20 := UInt8.toNat_inj.1 (eq_of_blank b.toNat hb hspace)
      exact percentDecode_of_ne (by decide) rest
    · obtain ⟨hhigh, hhighSelf⟩ := hexValue?_hexUpper (b.toNat / 16) (by omega)
      obtain ⟨hlow, hlowSelf⟩ := hexValue?_hexUpper (b.toNat % 16) (by omega)
      have hpercent : blankForPlus '%' = '%' := by decide
      simp only [percentByte, List.map_cons, List.map_nil, hpercent, hhighSelf, hlowSelf, List.cons_append,
        List.nil_append, percentDecode, hhigh, hlow]
      rw [Nat.div_add_mod' b.toNat 16, UInt8.ofNat_toNat]

/-! ### Texts -/

theorem percentDecode_formBytes (bytes : List UInt8) (rest : List Char) :
    percentDecode ((bytes.flatMap formByte).map blankForPlus ++ rest) = bytes ++ percentDecode rest := by
  induction bytes with
  | nil => rfl
  | cons b bytes ih =>
    rw [List.flatMap_cons, List.map_append, List.append_assoc, percentDecode_formByte, ih]
    rfl

theorem formEncode_eq (s : String) :
    formEncode s = (s.toList.flatMap String.utf8EncodeChar).flatMap formByte := List.flatMap_assoc.symm

theorem formText?_formEncode (s : String) : formText? (formEncode s) = some s := by
  have hbytes : percentDecode ((formEncode s).map blankForPlus) = s.toList.flatMap String.utf8EncodeChar := by
    have h := percentDecode_formBytes (s.toList.flatMap String.utf8EncodeChar) []
    rwa [List.append_nil, ← formEncode_eq, percentDecode, List.append_nil] at h
  have hself : (⟨(s.toList.flatMap String.utf8EncodeChar).toArray⟩ : ByteArray) = s.toByteArray := by
    rw [← String.utf8Encode_toList]
    exact ByteArray.ext List.data_toByteArray.symm
  rw [formText?, hbytes, hself, String.fromUTF8?, dif_pos s.isValidUTF8]
  rfl

def formMarks : List Char := ['&', '=', '?', '#']

theorem formByte_marks : ∀ n < 256, (formByte (UInt8.ofNat n)).all (· ∉ formMarks) := by decide +kernel

theorem not_mem_formEncode {s : String} {c : Char} (h : c ∈ formEncode s) : c ∉ formMarks := by
  rw [formEncode_eq] at h
  obtain ⟨b, -, hc⟩ := List.mem_flatMap.1 h
  have hmarks := formByte_marks b.toNat b.toNat_lt
  rw [UInt8.ofNat_toNat, List.all_eq_true] at hmarks
  simpa using hmarks c hc

/-! ### Pairs -/

theorem mem_formPair {name value : String} {c : Char} (h : c ∈ formPair name value) :
    c = '=' ∨ c ∉ formMarks := by
  rcases List.mem_append.1 h with h | h
  · exact .inr (not_mem_formEncode h)
  · rcases List.mem_cons.1 h with h | h
    · exact .inl h
    · exact .inr (not_mem_formEncode h)

theorem formField?_formPair (name value : String) : formField? (formPair name value) = some (name, value) := by
  have hname : ∀ c ∈ formEncode name, decide (c ≠ '=') = true := by
    intro c hc
    have := not_mem_formEncode hc
    simp_all [formMarks]
  have htake : (formPair name value).takeWhile (· ≠ '=') = formEncode name := by
    rw [formPair, List.takeWhile_append_of_pos hname, List.takeWhile_cons_of_neg (by decide), List.append_nil]
  have hdrop : ((formPair name value).dropWhile (· ≠ '=')).tail = formEncode value := by
    rw [formPair, List.dropWhile_append_of_pos hname, List.dropWhile_cons_of_neg (by decide), List.tail_cons]
  unfold formField?
  rw [htake, hdrop, formText?_formEncode, formText?_formEncode]
  rfl

theorem formRead?_formPair (name value : String) : formRead? (formPair name value) = some [(name, value)] := by
  have hpieces : pieces (· = '&') (formPair name value) = [formPair name value] := by
    refine pieces_of_none fun c hc => ?_
    rcases mem_formPair hc with rfl | hc
    · decide
    · simp_all [formMarks]
  have hkept : [formPair name value].filter (· ≠ []) = [formPair name value] := by simp [formPair]
  rw [formRead?, hpieces, hkept, List.mapM_cons, formField?_formPair]
  rfl

example : formRead? "a+b=%26&&c".toList = some [("a b", "&"), ("c", "")] := by decide +kernel

end ServiceLink.Url
