import ServiceLink.Proofs.Calls.Table
import ServiceLink.Proofs.Link.Unpacking
import ServiceLink.Proofs.Rpc.Conveying

/-! Replies are not answered. Whatever a text was, the reply to it is an error, or an array of errors, to any
link that takes it in, and an error ends calls and does nothing else. -/

namespace ServiceLink

/-! ### What is owed -/

theorem Entries.mem_of_find? {α : Type} {entries : List (String × α)} {key : String} {a : α}
    (h : find? key entries = some a) : (key, a) ∈ entries := by
  induction entries with
  | nil => cases h
  | cons e rest ih =>
    unfold find? at h
    split at h
    · rename_i hkey
      cases h
      exact hkey ▸ List.mem_cons_self
    · exact List.mem_cons_of_mem _ (ih h)

namespace Rpc

open Json (Returns)

theorem Message.reply_classify {j : Json} {r : ErrorReply} (h : (classify j).reply? = some r) :
    r.version = Rpc.version ∧ r.error ∈ ErrorObject.own ∧ (r.id = .null ∨ j.get? "id" = some r.id) := by
  have hinvalid {id : Json} (hid : id = .null ∨ j.get? "id" = some id)
      (heq : some r = (Message.invalid id).reply?) :
      r.version = Rpc.version ∧ r.error ∈ ErrorObject.own ∧ (r.id = .null ∨ j.get? "id" = some r.id) := by
    cases heq
    exact ⟨rfl, by simp [ErrorObject.own], hid⟩
  unfold classify at h
  split at h
  · exact hinvalid (.inl rfl) h.symm
  split at h
  · refine hinvalid ?_ h.symm
    cases hget : j.get? "id" with
    | none => exact .inl rfl
    | some id => exact .inr rfl
  split at h
  · cases h
  · rename_i id method _ hget _ _
    cases h
    exact ⟨rfl, by simp [ErrorObject.own], .inr hget⟩
  all_goals cases h

theorem Message.isOwed_of_classify {levels : Nat} {j : Json} (hj : Returns (levels + 1) j) {r : ErrorReply}
    (h : (classify j).reply? = some r) : r.IsOwed levels := by
  obtain ⟨hversion, herror, hid⟩ := reply_classify h
  refine ⟨hversion, herror, ?_⟩
  rcases hid with hnull | hget
  · exact hnull ▸ ⟨.null, .null⟩
  · cases j with
    | object members => exact hj.member (Entries.mem_of_find? hget)
    | null | bool | number | text | array => cases hget

/-- The replies that a frame is owed, in order. -/
def Frame.replies : Frame → List ErrorReply
  | .single message => message.reply?.toList
  | .batch messages => messages.filterMap Message.reply?
  | .unreadable => [{ error := .parseError, id := .null }]

/-- The reply to a text, as it is sent and as it is read. -/
structure Answers (text reply : String) : Prop where
  /-- An array is answered with an array. -/
  array : ∀ elements, Json.parse? text = some (.array elements) →
    reply = (Json.array ((Frame.read text).replies.map ErrorReply.toJson)).render ∧
      ∃ values, Json.parse? reply = some (.array values)
  /-- Everything else is answered with one object. -/
  object : (∀ elements, Json.parse? text ≠ some (.array elements)) →
    (∃ r, (Frame.read text).replies = [r] ∧ reply = r.toJson.render) ∧
      ∃ members, Json.parse? reply = some (.object members)
  /-- Each reply is read as the error that was sent. -/
  messages : (Frame.read reply).messages = (Frame.read text).replies.map ErrorReply.message
  errors : ∀ r ∈ (Frame.read text).replies, r.error ∈ ErrorObject.own
  unanswered : (Frame.read reply).reply? = none

theorem answers_object {text : String} (hother : ∀ elements, Json.parse? text ≠ some (.array elements))
    {r : ErrorReply} (hreplies : (Frame.read text).replies = [r]) (h : r.IsOwed 126) :
    Answers text r.toJson.render := by
  obtain ⟨members, hreads, hmessage⟩ := h.reads
  have hparse := hreads.parse?_eq
  have hread : Frame.read r.toJson.render = .single r.message := by simp only [Frame.read, hparse, hmessage]
  exact {
    array := fun elements harray => absurd harray (hother elements)
    object := fun _ => ⟨⟨r, hreplies, rfl⟩, members, hparse⟩
    messages := by rw [hread, hreplies]; rfl
    errors := by
      rw [hreplies]
      exact List.forall_mem_singleton.2 h.error
    unanswered := by rw [hread]; rfl }

theorem answers_array {text : String} {elements : List Json} (hparse : Json.parse? text = some (.array elements))
    (h : ∀ r ∈ (Frame.read text).replies, r.IsOwed 125) :
    Answers text (Json.array ((Frame.read text).replies.map ErrorReply.toJson)).render := by
  have hconveys : ∀ r ∈ (Frame.read text).replies, Conveys r.toJson r.message := fun r hr => (h r hr).reads
  have hread := read_array hconveys
  choose! members hreads _ using hconveys
  have harray := (Json.Reads.array hreads).parse?_eq
  have hnone : ((Frame.read text).replies.map ErrorReply.message).filterMap Message.reply? = [] := by
    rw [List.filterMap_map]
    exact List.filterMap_eq_nil_iff.2 fun r _ => rfl
  exact {
    array := fun _ _ => ⟨rfl, _, harray⟩
    object := fun hother => absurd hparse (hother elements)
    messages := by rw [hread]; rfl
    errors := fun r hr => (h r hr).error
    unanswered := by rw [hread, Frame.reply?, hnone]; rfl }

theorem answers_unreadable {text reply : String} (hread : Frame.read text = .unreadable)
    (h : (Frame.read text).reply? = some reply) : Answers text reply := by
  have hother : ∀ elements, Json.parse? text ≠ some (.array elements) := by
    intro elements hparse
    simp only [Frame.read, hparse] at hread
    cases hread
  have hreplies : (Frame.read text).replies = [{ error := .parseError, id := .null }] := by rw [hread]; rfl
  rw [hread] at h
  cases h
  exact answers_object hother hreplies ⟨rfl, by simp [ErrorObject.own], .null, .null⟩

theorem answers_of_reply? {text reply : String}
    (hprinted : ∀ j, Json.parse? text = some j → (Json.parse? j.render).isSome)
    (h : (Frame.read text).reply? = some reply) : Answers text reply := by
  cases hparse : Json.parse? text with
  | none => exact answers_unreadable (by simp only [Frame.read, hparse]) h
  | some j =>
    have hreturns := Returns.of_parse? (hprinted j hparse)
    cases j with
    | array elements =>
      have hread : Frame.read text = .batch (elements.map .classify) := by simp only [Frame.read, hparse]
      have howed : ∀ r ∈ (Frame.read text).replies, r.IsOwed 125 := by
        rw [hread]
        intro r hr
        obtain ⟨m, hm, hreply⟩ := List.mem_filterMap.1 hr
        obtain ⟨j, hj, rfl⟩ := List.mem_map.1 hm
        exact Message.isOwed_of_classify (hreturns.element hj) hreply
      have hsent : (Json.array ((Frame.read text).replies.map ErrorReply.toJson)).render = reply := by
        rw [hread] at h ⊢
        exact Option.some.inj (Option.ite_none_left_eq_some.1 h).2
      exact hsent ▸ answers_array hparse howed
    | object members =>
      have hread : Frame.read text = .single (.classify (.object members)) := by simp only [Frame.read, hparse]
      rw [hread] at h
      obtain ⟨r, hr, rfl⟩ := Option.map_eq_some_iff.1 h
      have hreplies : (Frame.read text).replies = [r] := by
        rw [hread, Frame.replies, hr]
        rfl
      exact answers_object (by simp [hparse]) hreplies (Message.isOwed_of_classify hreturns hr)
    | null | bool | number | text => exact answers_unreadable (by simp only [Frame.read, hparse]) h

end Rpc

namespace Link

variable {κ κ' : Type} {l l' : Link κ}

/-! ### What is told -/

def names (replies : List Rpc.ErrorReply) (call : InFlight) : Bool :=
  replies.any fun r => Rpc.Message.callId? r.id = some call.id

/-- A link took in replies: the calls in flight that are named are over, each with the error of a reply that
names it, and nothing else happened. -/
structure Ended (replies : List Rpc.ErrorReply) (l l' : Link κ) : Prop where
  inFlight : l'.calls.inFlight = l.calls.inFlight.filter (¬ names replies ·)
  responses : ∀ t, l'.calls.response t = l.calls.response t ∨
    ∃ call ∈ l.calls.inFlight, call.ticket = t ∧ ∃ r ∈ replies, Rpc.Message.callId? r.id = some call.id ∧
      l'.calls.response t = (l.calls.response t).resolve (.error (.remote r.error))
  others : l' = { l with
    calls := { l.calls with inFlight := l'.calls.inFlight, responses := l'.calls.responses } }

theorem ended_nil (l : Link κ) : l.Ended [] l where
  inFlight := by simp [names]
  responses _ := .inl rfl
  others := rfl

theorem ended_receive (l : Link κ) (r : Rpc.ErrorReply) : l.Ended [r] (l.receive r.message) := by
  unfold Rpc.ErrorReply.message
  cases hid : Rpc.Message.callId? r.id with
  | none =>
    exact {
      inFlight := by simp [receive, names, hid]
      responses := fun _ => .inl rfl
      others := rfl }
  | some id =>
    refine {
      inFlight := ?_
      responses := fun t => ?_
      others := rfl }
    · refine (Calls.inFlight_finish _ _ _).trans (List.filter_congr fun call _ => ?_)
      simp [names, hid, eq_comm]
    · have hresponse : (l.calls.complete id (.error (.remote r.error))).response t = _ :=
        Calls.response_finish _ _ _ t
      dsimp only [receive]
      rw [hresponse]
      split
      · rename_i hany
        obtain ⟨call, hmem, hcall⟩ := List.any_eq_true.1 hany
        simp only [Bool.and_eq_true, decide_eq_true_eq] at hcall
        exact .inr ⟨call, hmem, hcall.2, r, List.mem_singleton_self r, hcall.1 ▸ hid, rfl⟩
      · exact .inl rfl

theorem Ended.append {l'' : Link κ} {replies more : List Rpc.ErrorReply} (h : l.Ended replies l')
    (h' : l'.Ended more l'') : l.Ended (replies ++ more) l'' where
  inFlight := by
    rw [h'.inFlight, h.inFlight, List.filter_filter]
    refine List.filter_congr fun call _ => ?_
    simp [names, Bool.and_comm]
  responses t := by
    rcases h.responses t with hsame | ⟨call, hmem, ht, r, hr, hid, hready⟩
    · rcases h'.responses t with hsame' | ⟨call, hmem, ht, r, hr, hid, hready⟩
      · exact .inl (hsame'.trans hsame)
      · rw [h.inFlight] at hmem
        rw [hsame] at hready
        exact .inr ⟨call, List.mem_of_mem_filter hmem, ht, r, List.mem_append_right _ hr, hid, hready⟩
    · refine .inr ⟨call, hmem, ht, r, List.mem_append_left _ hr, hid, ?_⟩
      rcases h'.responses t with hsame' | ⟨_, _, _, _, _, _, hagain⟩
      · exact hsame'.trans hready
      · rw [hagain, hready, Response.resolve_resolve]
  others := by rw [h'.others, h.others]

theorem ended_foldl_receive (l : Link κ) (replies : List Rpc.ErrorReply) :
    l.Ended replies ((replies.map Rpc.ErrorReply.message).foldl receive l) := by
  induction replies generalizing l with
  | nil => exact ended_nil l
  | cons r replies ih => exact (ended_receive l r).append (ih _)

theorem ended_handleFrame {text reply : String} (h : Rpc.Answers text reply) (l : Link κ) :
    l.Ended (Rpc.Frame.read text).replies (l.handleFrame reply) := by
  rw [handleFrame_eq, h.messages, h.unanswered, Option.toList_none, queue_nil]
  exact ended_foldl_receive l _

/-- A link in any state takes in any text. What it queues is the reply, if there is one; and no link, whatever
its state, does more with that reply than to end the calls it names. The value of the text, if it has one, must
be read back from its own text. -/
theorem replies_end_exchange (l : Link κ) (text : String)
    (hprinted : ∀ j, Json.parse? text = some j → (Json.parse? j.render).isSome) :
    ∃ replies : List String, replies.length ≤ 1 ∧
      (l.handleFrame text).outbound = l.outbound ++ replies.map .text ∧
      ∀ reply ∈ replies, Rpc.Answers text reply ∧
        ∀ other : Link κ', other.Ended (Rpc.Frame.read text).replies (other.handleFrame reply) := by
  have hsent : (l.handleFrame text).outbound = l.queued (Rpc.Frame.read text).reply?.toList := by
    rw [handleFrame_eq]
    exact queued_foldl_receive l _ _
  rw [hsent, queued]
  split
  · refine ⟨_, ?_, rfl, fun reply hreply => ?_⟩
    · cases (Rpc.Frame.read text).reply? <;> simp
    · have hanswers := Rpc.answers_of_reply? hprinted (by simpa using hreply)
      exact ⟨hanswers, ended_handleFrame hanswers⟩
  · exact ⟨[], Nat.zero_le 1, by simp, by simp⟩

theorem replies_end_exchange_named :
    let call : Json := .object [("id", .text " 1 "), ("jsonrpc", .text "2.0"), ("method", .text "m")]
    let text := (Json.array [call, .integer 7]).render
    let reply := (Json.array ([{ error := .methodNotFound, id := .text " 1 " },
      { error := .invalidRequest, id := .null }].map Rpc.ErrorReply.toJson)).render
    let l : Link Nat := (new {} 5).attach
    let other : Link Nat := (l.call 0 "m" none).2
    (∀ j, Json.parse? text = some j → (Json.parse? j.render).isSome) ∧
      (l.handleFrame text).outbound = [.text reply] ∧ Rpc.Answers text reply ∧
      (other.handleFrame reply).outbound = other.outbound ∧
      other.calls.response 0 = .waiting ∧
      (other.handleFrame reply).calls.response 0 = .ready (.error (.remote .methodNotFound)) := by
  intro call text reply l other
  have hcall : Json.Reads 126 call call := .object (by simp [Json.Reads.text])
  have hseven : Json.Reads 126 (.integer 7) (.integer 7) := .integer (by decide)
  have harray : Json.Reads 127 (.array ([call, .integer 7].map id)) (.array ([call, .integer 7].map id)) :=
    .array (by simpa [hcall] using hseven)
  have hparse : Json.parse? text = some (.array [call, .integer 7]) := harray.parse?_eq
  have hprinted : ∀ j, Json.parse? text = some j → (Json.parse? j.render).isSome := by
    intro j hj
    cases hparse.symm.trans hj
    exact Option.isSome_of_eq_some hparse
  have hread : Rpc.Frame.read text = .batch ([call, .integer 7].map .classify) := by
    simp only [Rpc.Frame.read, hparse]
  have hsent : (l.handleFrame text).outbound = [.text reply] := by
    rw [handleFrame_eq, hread]
    rfl
  obtain ⟨replies, -, hqueued, hall⟩ := @replies_end_exchange Nat Nat l text hprinted
  have hreplies : reply ∈ replies := by
    have heq : replies.map OutboundFrame.text = [.text reply] := hqueued.symm.trans hsent
    obtain ⟨s, rest, rfl, hs, -⟩ := List.map_eq_cons_iff.1 heq
    cases hs
    exact List.mem_cons_self
  obtain ⟨hanswers, hended⟩ := hall reply hreplies
  refine ⟨hprinted, hsent, hanswers, ?_, rfl, ?_⟩
  · rw [(hended other).others]
  · rw [handleFrame_eq, hanswers.messages, hanswers.unanswered, hread]
    rfl

end Link
end ServiceLink
