import ServiceLink.Proofs.Rpc.Recovering
import ServiceLink.Service.Schema

/-! What a service tells about itself is recovered from what is like its writing, record by record, and so are the
lists and tables of such records. -/

namespace ServiceLink

open Json (Alike ArraysAlike Offer Recovers TablesAlike)

namespace Json

theorem texts?_texts (names : List String) : (array (names.map text)).texts? = some names := by
  simp only [texts?, elements?, Option.bind_some]
  induction names with
  | nil => rfl
  | cons name rest ih => simp [text?, ih]

theorem Offer.optional_text (s? : Option String) : (ofMember (s?.map text)).optional text? = some s? :=
  optional_ofMember text? text fun _ _ => ⟨nofun, rfl⟩

end Json

theorem ServiceDescriptor.recovers (d : ServiceDescriptor) : Recovers (.ofFields fields) toJson ofJson? d := by
  intro j hj
  have hoffers := hj.offers_record rfl rfl (by decide)
  simp [ofJson?, hoffers, Json.text?]

theorem ReturnFormat.recovers (f : ReturnFormat) : Recovers (.ofFields fields) toJson ofJson? f := by
  intro j hj
  have hoffers := hj.offers_record rfl rfl (by decide)
  simp [ofJson?, hoffers, Json.text?]

theorem SocketProtocol.recovers (p : SocketProtocol) : Recovers (.ofFields fields) toJson ofJson? p := by
  intro j hj
  have hoffers := hj.offers_record rfl rfl (by decide)
  simp [ofJson?, hoffers, Json.text?]

theorem MethodSignature.recovers (m : MethodSignature) : Recovers (.ofFields fields) toJson ofJson? m := by
  intro j hj
  have hoffers := hj.offers_record rfl rfl (by decide)
  simp [ofJson?, hoffers, Json.texts?_texts, Offer.optional_text]

theorem PropertyDescriptor.recovers (p : PropertyDescriptor) : Recovers (.ofFields fields) toJson ofJson? p := by
  intro j hj
  have hoffers := hj.offers_record rfl rfl (by decide)
  simp [ofJson?, hoffers, Offer.optional_text]

/-! ### Lists -/

theorem ReturnFormat.readList_of_alike {fs : List ReturnFormat} {j : Json}
    (h : ArraysAlike (.ofFields fields) j (listToJson fs)) : readList j = fs := h.filterMap_eq recovers

theorem SocketProtocol.readList_of_alike {ps : List SocketProtocol} {j : Json}
    (h : ArraysAlike (.ofFields fields) j (listToJson ps)) : readList j = ps := h.filterMap_eq recovers

theorem ServiceDescriptor.recovers_named (id : String) (d : ServiceDescriptor) :
    Recovers (.ofFields fields) toJson (read? id) d := by
  intro j hj
  obtain ⟨-, -, hget⟩ := Json.alike_ofFields.1 hj
  have hname : j.get? "name" = some (.text d.name) := hget "name" (by simp [fields])
  have hpath : j.get? "path" = some (.text d.path) := hget "path" (by simp [fields])
  simp [read?, hname, hpath, Json.text?]

theorem ServiceList.read_of_alike {l : ServiceList} {j : Json}
    (h : TablesAlike (.ofFields ServiceDescriptor.fields) j l.toJson) : read j = l :=
  h.ofList_eq _ ServiceDescriptor.recovers_named

/-- All that can be written is recovered: requests, errors and replies to what was not accepted, and what services
tell about themselves, singly and in lists. -/
theorem vocabulary_recovers :
    (∀ method params, Recovers (.ofFields Rpc.Request.fields) Rpc.Request.toJson Rpc.Request.ofJson?
      (.notification method params)) ∧
    (∀ method params id, id < Word.unsignedEnd →
      Recovers (.ofFields Rpc.Request.fields) Rpc.Request.toJson Rpc.Request.ofJson? (.call method params id)) ∧
    (∀ e : Rpc.ErrorObject, e.IsPlain →
      Recovers (.ofFields Rpc.ErrorObject.fields) Rpc.ErrorObject.toJson Rpc.ErrorObject.ofJson? e) ∧
    (∀ r : Rpc.ErrorReply, r.error.IsPlain →
      Recovers Rpc.ErrorReply.shape Rpc.ErrorReply.toJson Rpc.ErrorReply.ofJson? r) ∧
    (∀ d, Recovers (.ofFields ServiceDescriptor.fields) ServiceDescriptor.toJson ServiceDescriptor.ofJson? d) ∧
    (∀ f, Recovers (.ofFields ReturnFormat.fields) ReturnFormat.toJson ReturnFormat.ofJson? f) ∧
    (∀ p, Recovers (.ofFields SocketProtocol.fields) SocketProtocol.toJson SocketProtocol.ofJson? p) ∧
    (∀ m, Recovers (.ofFields MethodSignature.fields) MethodSignature.toJson MethodSignature.ofJson? m) ∧
    (∀ p, Recovers (.ofFields PropertyDescriptor.fields) PropertyDescriptor.toJson PropertyDescriptor.ofJson? p) ∧
    (∀ (l : ServiceList) j, TablesAlike (.ofFields ServiceDescriptor.fields) j l.toJson → ServiceList.read j = l) ∧
    (∀ fs j, ArraysAlike (.ofFields ReturnFormat.fields) j (ReturnFormat.listToJson fs) →
      ReturnFormat.readList j = fs) ∧
    (∀ ps j, ArraysAlike (.ofFields SocketProtocol.fields) j (SocketProtocol.listToJson ps) →
      SocketProtocol.readList j = ps) := by
  have hparams : ∀ params : Option Json, params.filter Json.isStructured ≠ some .null := by
    intro params hnull
    exact absurd (Option.filter_eq_some_iff.1 hnull).2 nofun
  refine ⟨fun method params => Rpc.Request.recovers (hparams params) nofun, fun method params id hid => ?_,
    fun e he => he.recovers, fun r hr => Rpc.ErrorReply.recovers hr, ServiceDescriptor.recovers,
    ReturnFormat.recovers, SocketProtocol.recovers, MethodSignature.recovers, PropertyDescriptor.recovers,
    fun l j => ServiceList.read_of_alike, fun fs j => ReturnFormat.readList_of_alike,
    fun ps j => SocketProtocol.readList_of_alike⟩
  refine Rpc.Request.recovers (hparams params) ?_
  rintro n ⟨⟩
  exact hid

theorem vocabulary_recovers_reply :
    let error : Rpc.ErrorObject := { code := -32601, message := "Method not found", data := some (.array [.null]) }
    let members := [("code", .integer (-32601)), ("message", .text "Method not found"), ("data", .array [.null])]
    let written := Json.object [("error", .object (Entries.ofList (members ++ [("hint", .bool true)]))),
      ("id", .text "a"), ("jsonrpc", .text "2.0"), ("time", .null)]
    error.IsPlain ∧ Alike Rpc.ErrorReply.shape written (Rpc.ErrorReply.toJson { error, id := .text "a" }) ∧
      Rpc.ErrorReply.ofJson? written = some { error, id := .text "a" } := by
  intro error members written
  have hplain : error.IsPlain := ⟨by decide, nofun⟩
  have herror : Alike (.ofFields Rpc.ErrorObject.fields)
      (.object (Entries.ofList (members ++ [("hint", .bool true)]))) error.toJson :=
    Json.alike_ofList (by decide) (by decide)
  have halike : Alike Rpc.ErrorReply.shape written (Rpc.ErrorReply.toJson { error, id := .text "a" }) := by
    rw [Rpc.ErrorReply.shape, Json.alike_record]
    refine ⟨rfl, rfl, ?_⟩
    simp only [List.mem_cons, Prod.mk.injEq, List.not_mem_nil, or_false]
    rintro name shape (⟨rfl, rfl⟩ | ⟨rfl, rfl⟩ | ⟨rfl, rfl⟩)
    · exact Json.rel_alike_whole.2 rfl
    · exact .some herror
    · exact Json.rel_alike_whole.2 rfl
  obtain ⟨-, -, -, hreply, -⟩ := vocabulary_recovers
  exact ⟨hplain, halike, hreply _ hplain written halike⟩

end ServiceLink
