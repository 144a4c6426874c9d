import ServiceLink.Proofs.Json.Records
import ServiceLink.Proofs.Rpc.Conveying

/-! Messages are recovered from what is like their writing: requests, error objects, and the replies around
error objects. -/

namespace ServiceLink

namespace Json

theorem signed?_integer {z : Int} (h : -Word.signedEnd ≤ z ∧ z < Word.signedEnd) : (integer z).signed? = some z :=
  if_pos h

theorem unsigned?_natural {n : Nat} (h : n < Word.unsignedEnd) : (integer n).unsigned? = some n := by
  have hrange : (0 : Int) ≤ n ∧ (n : Int) < Word.unsignedEnd := by omega
  simp only [unsigned?, integer, Number.unsigned?, if_pos hrange, Int.toNat_natCast]

end Json

namespace Rpc

open Json (Alike Offer Recovers)

namespace Request

theorem recovers {r : Request} (hparams : r.params ≠ some .null) (hid : ∀ n, r.id = some n → n < Word.unsignedEnd) :
    Recovers (.ofFields fields) toJson ofJson? r := by
  intro j hj
  have hoffers := hj.offers_record (toJson_eq r) rfl (by decide)
  have hp := Offer.optional_ofMember_some hparams
  have hi := Offer.optional_ofMember Json.unsigned? (fun n : Nat => .integer n) fun n hn =>
    ⟨nofun, Json.unsigned?_natural (hid n hn)⟩
  simp [ofJson?, hoffers, members, hp, hi, Json.text?]

end Request

namespace ErrorObject

/-- A code of 64 bits, and no null in the place of data. -/
structure IsPlain (e : ErrorObject) : Prop where
  code : -Word.signedEnd ≤ e.code ∧ e.code < Word.signedEnd
  data : e.data ≠ some .null

theorem IsPlain.recovers {e : ErrorObject} (h : e.IsPlain) : Recovers (.ofFields fields) toJson ofJson? e := by
  intro j hj
  have hoffers := hj.offers_record rfl rfl (by decide)
  have hdata := Offer.optional_ofMember_some h.data
  have hcode := Json.signed?_integer h.code
  simp [ofJson?, hoffers, hdata, hcode, Json.text?]

end ErrorObject

namespace ErrorReply

theorem recovers {r : ErrorReply} (h : r.error.IsPlain) : Recovers shape toJson ofJson? r := by
  intro j hj
  obtain ⟨hobject, -, hget⟩ := Json.alike_record.1 hj
  have hversion : j.get? "jsonrpc" = some (.text r.version) :=
    Json.rel_alike_whole.1 (hget "jsonrpc" .whole (by simp))
  have hid : j.get? "id" = some r.id := Json.rel_alike_whole.1 (hget "id" .whole (by simp))
  have herror : Option.Rel (Alike (.ofFields ErrorObject.fields)) (j.get? "error") (some r.error.toJson) :=
    hget "error" (.ofFields ErrorObject.fields) (by simp [Json.Shape.ofFields])
  cases he : j.get? "error" with
  | none =>
    rw [he] at herror
    cases herror
  | some e =>
    rw [he, Option.rel_some_some] at herror
    have hread := h.recovers e herror
    rw [ofJson?, Json.offers_eq hobject]
    simp [fields, hversion, he, hid, hread, Json.text?]

end ErrorReply

end Rpc
end ServiceLink
