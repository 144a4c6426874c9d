import ServiceLink.Proofs.Json.Records
import ServiceLink.Proofs.Text.Trimming
import ServiceLink.Rpc.ErrorObject

/-! Errors whose code is a text. They are read as the errors with a number for a code are, except that the strict
reading takes null data for none and the lenient one keeps it. -/

namespace ServiceLink

theorem Json.range_of_signed? {j : Json} {z : Int} (h : j.signed? = some z) :
    -Word.signedEnd ≤ z ∧ z < Word.signedEnd := by
  cases j with
  | number n =>
    cases n with
    | integer y =>
      obtain ⟨hrange, hy⟩ := Option.ite_none_right_eq_some.1 h
      exact Option.some.inj hy ▸ hrange
    | double => cases h
  | null | bool | text | array | object => cases h

namespace Rpc.ErrorObject

open Json (Offer)

variable {j : Json} {e : ErrorObject}

theorem ofJson?_members (h : j.members?.isSome) : ofJson? j = do
    let code ← (j.get? "code").bind Json.signed?
    let message ← (j.get? "message").bind Json.text?
    let data ← (Offer.ofMember (j.get? "data")).optional some
    return { code, message, data } := by
  rw [ofJson?, Json.offers_eq h]
  simp [fields]

theorem of_ofJson? (hobject : j.members?.isSome) (h : ofJson? j = some e) :
    (j.get? "code").bind Json.signed? = some e.code ∧ (j.get? "message").bind Json.text? = some e.message ∧
      (Offer.ofMember (j.get? "data")).optional some = some e.data := by
  rw [ofJson?_members hobject] at h
  obtain ⟨code, hcode, h⟩ := Option.bind_eq_some_iff.1 h
  obtain ⟨message, hmessage, h⟩ := Option.bind_eq_some_iff.1 h
  obtain ⟨data, hdata, h⟩ := Option.bind_eq_some_iff.1 h
  cases h
  exact ⟨hcode, hmessage, hdata⟩

theorem data_of_ofJson? (hobject : j.members?.isSome) (h : ofJson? j = some e) :
    j.get? "data" = e.data ↔ j.get? "data" ≠ some .null := by
  obtain ⟨-, -, hdata⟩ := of_ofJson? hobject h
  constructor
  · intro heq hnull
    rw [hnull] at hdata heq
    rw [← heq] at hdata
    cases hdata
  · intro hnull
    rw [Offer.optional_ofMember_some hnull] at hdata
    exact Option.some.inj hdata

/-- An error with its code written as text is read leniently, and as the same error unless its data is null. -/
theorem read_textCode_iff (hobject : j.members?.isSome) (h : ofJson? j = some e) {before after : String}
    (hbefore : ∀ c ∈ before.toList, Text.isBlank c) (hafter : ∀ c ∈ after.toList, Text.isBlank c) :
    let text := j.withMember "code" (.text (before ++ (Number.integer e.code).render ++ after))
    ofJson? text = none ∧ read text = { read j with data := j.get? "data" } ∧
      (read text = read j ↔ j.get? "data" ≠ some .null) := by
  intro text
  obtain ⟨hcode, hmessage, -⟩ := of_ofJson? hobject h
  have hrange : -Word.signedEnd ≤ e.code ∧ e.code < Word.signedEnd := by
    obtain ⟨k, -, hk⟩ := Option.bind_eq_some_iff.1 hcode
    exact Json.range_of_signed? hk
  have htrim := Text.signed?_trim_render hrange hbefore hafter
  have hget (name : String) : text.get? name = if "code" = name then _ else j.get? name := Json.get?_withMember hobject
  have hnone : ofJson? text = none := by
    rw [ofJson?_members (Json.members?_withMember.trans hobject), hget "code", if_pos rfl]
    rfl
  have hstrict : read j = e := by rw [read, h, Option.getD_some]
  have hread : read text = { e with data := j.get? "data" } := by
    simp only [read, hnone, hget, htrim, hmessage, Option.getD_none, Option.getD_some, String.reduceEq, reduceIte]
  refine ⟨hnone, hstrict.symm ▸ hread, ?_⟩
  rw [hread, hstrict, ← data_of_ofJson? hobject h]
  exact ⟨congrArg data, fun hdata => by rw [hdata]⟩

theorem read_textCode_iff_least :
    let j := Json.object [("code", .integer (-9223372036854775808)), ("data", .array [.null]), ("extra", .null),
      ("message", .text "m")]
    let text := Json.object [("code", .text "\u2003-9223372036854775808\n"), ("data", .array [.null]),
      ("extra", .null), ("message", .text "m")]
    ofJson? j = some { code := -9223372036854775808, message := "m", data := some (.array [.null]) } ∧
      ofJson? text = none ∧ read text = read j := by
  intro j text
  have hread : ofJson? j = some { code := -9223372036854775808, message := "m", data := some (.array [.null]) } := rfl
  have hblank : ∀ c ∈ "\u2003".toList, Text.isBlank c := by simp [Text.isBlank]
  have hblank' : ∀ c ∈ "\n".toList, Text.isBlank c := by simp [Text.isBlank]
  obtain ⟨hnone, -, hsame⟩ := read_textCode_iff rfl hread hblank hblank'
  have htext : j.withMember "code" (.text ("\u2003" ++ (Number.integer (-9223372036854775808)).render ++ "\n")) =
      text := rfl
  rw [htext] at hnone hsame
  have hdata : j.get? "data" ≠ some .null := by
    intro hnull
    cases hnull
  exact ⟨hread, hnone, hsame.2 hdata⟩

/-- Null data is none behind a number, and null behind a text. -/
theorem read_textCode_null :
    let j := Json.object [("code", .integer (-32601)), ("data", .null), ("message", .text "m")]
    let text := Json.object [("code", .text "-32601"), ("data", .null), ("message", .text "m")]
    ofJson? j = some { code := -32601, message := "m" } ∧
      text = j.withMember "code" (.text (Number.integer (-32601)).render) ∧ read text ≠ read j := by
  intro j text
  have hread : ofJson? j = some { code := -32601, message := "m" } := rfl
  have hdata : (read text).data = some .null := rfl
  refine ⟨hread, rfl, fun heq => ?_⟩
  rw [heq, read, hread] at hdata
  cases hdata

end Rpc.ErrorObject
end ServiceLink
