import ServiceLink.Proofs.Json.Rendering
import ServiceLink.Rpc.Message

/-! What the other side makes of a request or of a reply. A text conveys a message whether it is a frame by
itself or an element of an array, so that either side of an exchange can be looked at alone. -/

namespace ServiceLink.Rpc

open Json (Reads Returns)

/-- A value whose text is taken for a message, with a level to spare for an array around it. -/
def Conveys (j : Json) (m : Message) : Prop :=
  ∃ members, Reads 126 j (.object members) ∧ Message.classify (.object members) = m

theorem Conveys.read {j : Json} {m : Message} (h : Conveys j m) : Frame.read j.render = .single m := by
  obtain ⟨members, hreads, hm⟩ := h
  have hmore : Reads Json.maxLevels j (.object members) := hreads.of_le (by decide)
  have hparse := hmore.parse?_eq
  simp only [Frame.read, hparse, hm]

theorem read_array {α : Type} {parts : List α} {j : α → Json} {m : α → Message}
    (h : ∀ a ∈ parts, Conveys (j a) (m a)) :
    Frame.read (Json.array (parts.map j)).render = .batch (parts.map m) := by
  choose! members hreads hm using h
  have hparse := (Reads.array hreads).parse?_eq
  simp only [Frame.read, hparse, List.map_map]
  exact congrArg Frame.batch (List.map_congr_left hm)

/-! ### What a server sends -/

theorem conveys_response {id : Nat} {result : Json} (hid : id < Word.unsignedEnd) (h : Reads 125 result result) :
    Conveys (.object [("jsonrpc", .text version), ("id", .integer id), ("result", result)])
      (.response (some id) result) := by
  refine ⟨_, Reads.object (List.forall_mem_cons.2 ⟨.text _, List.forall_mem_cons.2 ⟨?_, ?_⟩⟩), ?_⟩
  · exact .integer ⟨by omega, by omega⟩
  · exact List.forall_mem_singleton.2 h
  · have hsome : Number.unsigned? (.integer id) = some id := by
      rw [Number.unsigned?, if_pos (by omega), Int.toNat_natCast]
    simpa [Message.classify, Json.get?, Json.members?, Json.text?, Entries.ofList, Entries.find?_insert,
      Entries.find?, Rpc.version, Message.callId?, Json.integer] using hsome

theorem conveys_notification {method : String} {params : Json} (h : Reads 125 params params) :
    Conveys (.object [("jsonrpc", .text version), ("method", .text method), ("params", params)])
      (.notification ⟨method, some params⟩) := by
  refine ⟨_, Reads.object (List.forall_mem_cons.2 ⟨.text _, List.forall_mem_cons.2 ⟨.text _, ?_⟩⟩), ?_⟩
  · exact List.forall_mem_singleton.2 h
  · simp [Message.classify, Json.get?, Json.members?, Json.text?, Entries.ofList, Entries.find?_insert, Entries.find?,
      Rpc.version]

/-! ### Requests -/

/-- Parameters that are read back from their text and leave levels for a batch around them. -/
def Readable (params : Json) : Prop := Json.parse? params.render = some params ∧ params.depth ≤ 125

namespace Request

def message (r : Request) : Message :=
  match r.id with
  | some id => .call (.integer id) r.method
  | none => .notification { method := r.method, params := r.params }

/-- A request that can be read once it was sent. -/
structure Sendable (r : Request) : Prop where
  version : r.version = Rpc.version
  params : ∀ p, r.params = some p → Readable p
  id : ∀ n, r.id = some n → n < Word.unsignedEnd

def members (r : Request) : List (String × Option Json) :=
  [("jsonrpc", some (.text r.version)), ("method", some (.text r.method)), ("params", r.params),
    ("id", r.id.map fun n : Nat => .integer n)]

theorem toJson_eq (r : Request) : r.toJson = .record r.members := by
  unfold toJson members
  cases r.id <;> rfl

theorem Sendable.reads {r : Request} (h : r.Sendable) :
    ∀ m ∈ r.members, ∀ j, m.2 = some j → Reads 125 j j := by
  simp only [members, List.forall_mem_cons, Option.some.injEq, Option.map_eq_some_iff]
  refine ⟨?_, ?_, fun p hp => ?_, ?_, nofun⟩
  · rintro _ rfl
    exact .text _
  · rintro _ rfl
    exact .text _
  · obtain ⟨hparse, hdepth⟩ := h.params p hp
    exact (Reads.of_parse? hparse).of_depth hdepth
  · rintro _ ⟨n, hn, rfl⟩
    have hlt := h.id n hn
    exact .integer ⟨by omega, by omega⟩

theorem Sendable.conveys {r : Request} (h : r.Sendable) : Conveys r.toJson r.message := by
  refine ⟨_, toJson_eq r ▸ Reads.record h.reads, ?_⟩
  obtain ⟨version, method, params, id⟩ := r
  cases h.version
  cases params <;> cases id <;>
    simp [Message.classify, message, members, Json.get?, Json.members?, Json.text?, Entries.ofList,
      Entries.find?_insert, Entries.find?, Rpc.version]

end Request

/-! ### Replies -/

theorem Message.callId?_of_reads {levels : Nat} {id value : Json} (h : Reads levels id value) :
    callId? value = callId? id := by
  cases id with
  | null | bool | text =>
    cases h
    rfl
  | number n =>
    obtain ⟨m, hm, rfl⟩ := Option.map_eq_some_iff.1 h
    exact Number.unsigned?_of_value? hm
  | array elements =>
    obtain ⟨vs, rfl, -⟩ := h.elements
    rfl
  | object members =>
    cases levels with
    | zero => cases h
    | succ levels =>
      obtain ⟨vs, -, rfl⟩ := Option.map_eq_some_iff.1 h
      rfl

def ErrorObject.own : List ErrorObject := [.parseError, .invalidRequest, .methodNotFound]

theorem ErrorObject.reads_own {e : ErrorObject} (h : e ∈ own) (levels : Nat) :
    Reads (levels + 1) e.toJson e.toJson := by
  have hown : ∀ e ∈ own, Json.InRange e.code ∧ e.data = none := by decide
  obtain ⟨hrange, hdata⟩ := hown e h
  have hcode : Reads levels (.integer e.code) (.integer e.code) := .integer hrange
  let members : List (String × Json) := [("code", .integer e.code), ("message", .text e.message)]
  have hordered : Entries.Ordered members := List.pairwise_pair.2 (show "code" < "message" by decide)
  have hreads : Reads (levels + 1) (.object members) (.object members) :=
    .ordered (by simpa [members, Reads.text] using hcode) hordered
  have hmembers : e.toJson = .object members := by simp [toJson, Json.record, hdata, members]
  rwa [← hmembers] at hreads

theorem ErrorObject.read_own {e : ErrorObject} (h : e ∈ own) : read e.toJson = e := by
  revert e
  simp only [own, List.forall_mem_cons]
  exact ⟨rfl, rfl, rfl, nofun⟩

namespace ErrorReply

def message (r : ErrorReply) : Message := .error (Message.callId? r.id) r.error

/-- A reply to what was not accepted. Its id may be any value that is read back from its text. -/
structure IsOwed (levels : Nat) (r : ErrorReply) : Prop where
  version : r.version = Rpc.version
  error : r.error ∈ ErrorObject.own
  id : Returns levels r.id

theorem IsOwed.reads {levels : Nat} {r : ErrorReply} (h : r.IsOwed (levels + 1)) :
    ∃ members, Reads (levels + 2) r.toJson (.object members) ∧ Message.classify (.object members) = r.message := by
  obtain ⟨id, hid⟩ := h.id
  have hread := ErrorObject.read_own h.error
  let parts : List (String × Json × Json) :=
    [("jsonrpc", .text r.version, .text r.version), ("error", r.error.toJson, r.error.toJson), ("id", r.id, id)]
  have hparts : ∀ p ∈ parts, Reads (levels + 1) p.2.1 p.2.2 := by
    simp only [parts, List.forall_mem_cons]
    exact ⟨.text _, ErrorObject.reads_own h.error levels, hid, nofun⟩
  refine ⟨_, Reads.members (fun p : String × Json × Json => p.1) hparts, ?_⟩
  simp [parts, Message.classify, message, h.version, Json.get?, Json.members?, Json.text?, Entries.ofList,
    Entries.find?_insert, Entries.find?, hread, Message.callId?_of_reads hid]

end ErrorReply

def refusal (id : Nat) : ErrorReply := { error := .methodNotFound, id := .integer id }

theorem conveys_refusal {id : Nat} (h : id < Word.unsignedEnd) :
    Conveys (refusal id).toJson (.error (some id) .methodNotFound) := by
  have hid? : Message.callId? (.integer id) = some id := by
    simp [Message.callId?, Json.integer, Number.unsigned?, h]
  have howed : (refusal id).IsOwed 125 :=
    ⟨rfl, by simp [refusal, ErrorObject.own], _, .integer ⟨by omega, by omega⟩⟩
  have hreads := howed.reads
  rwa [ErrorReply.message, refusal, hid?] at hreads

end ServiceLink.Rpc
