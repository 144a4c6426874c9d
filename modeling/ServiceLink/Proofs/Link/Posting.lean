import ServiceLink.Proofs.Link.Unpacking
import ServiceLink.Proofs.Rpc.Conveying
import ServiceLink.Proofs.Subscription.Binding

/-! The notifications that a link sends. Its queue for the socket only grows, and what comes there without a
caller who sends a notification himself holds none: calls, replies, and the wish to close. -/

namespace ServiceLink

namespace Rpc

open Json (Reads)

theorem Message.push?_classify {j : Json} (h : j.get? "id" ≠ none) : (classify j).push? = none := by
  obtain ⟨id, hid⟩ := Option.ne_none_iff_exists'.1 h
  unfold classify
  rw [hid]
  split
  · rfl
  · split
    · rfl
    · split <;> simp_all [Message.push?]

def pushesIn (text : String) : List Notification := (Frame.read text).messages.filterMap Message.push?

theorem pushesIn_object {members : List (String × Json)} (h : "id" ∈ members.map (·.1)) :
    pushesIn (Json.object members).render = [] := by
  unfold pushesIn Frame.read
  split
  · rename_i elements hparse
    have hid := (Reads.of_parse? hparse).member h
    exact absurd rfl hid
  · rename_i value hparse
    have hid := (Reads.of_parse? hparse).member h
    simp [Frame.messages, Message.push?_classify hid]
  · rfl

theorem pushesIn_array {objects : List (List (String × Json))} (h : ∀ o ∈ objects, "id" ∈ o.map (·.1)) :
    pushesIn (Json.array (objects.map .object)).render = [] := by
  unfold pushesIn Frame.read
  split
  · rename_i elements hparse
    obtain ⟨values, heq, hvalues⟩ := (Reads.of_parse? hparse).elements
    cases heq
    refine List.filterMap_eq_nil_iff.2 fun m hm => ?_
    obtain ⟨v, hv, rfl⟩ := List.mem_map.1 hm
    obtain ⟨j, hj, levels, hreads⟩ := hvalues v hv
    obtain ⟨o, ho, rfl⟩ := List.mem_map.1 hj
    exact Message.push?_classify (hreads.member (h o ho))
  · rename_i value hparse
    obtain ⟨values, heq, -⟩ := (Reads.of_parse? hparse).elements
    cases heq
  · rfl

theorem pushesIn_notification (method : String) :
    pushesIn (Request.notification method none).toJson.render = [{ method, params := none }] := by
  have hsendable : (Request.notification method none).Sendable := ⟨rfl, nofun, nofun⟩
  unfold pushesIn
  rw [hsendable.conveys.read]
  rfl

theorem pushesIn_call (method : String) (params : Option Json) (id : Nat) :
    pushesIn (Request.call method params id).toJson.render = [] := by
  rw [Request.toJson_eq]
  exact pushesIn_object (by simp [Request.members, Request.call])

theorem pushesIn_reply {frame : Frame} {text : String} (h : frame.reply? = some text) : pushesIn text = [] := by
  let members (r : ErrorReply) : List (String × Json) :=
    [("jsonrpc", .text r.version), ("error", r.error.toJson), ("id", r.id)]
  have hone (r : ErrorReply) : r.toJson = .object (members r) := rfl
  have hid (r : ErrorReply) : "id" ∈ (members r).map (·.1) := by simp [members]
  cases frame with
  | single m =>
    obtain ⟨r, -, rfl⟩ := Option.map_eq_some_iff.1 h
    exact hone r ▸ pushesIn_object (hid r)
  | batch messages =>
    unfold Frame.reply? at h
    dsimp only at h
    split at h
    · cases h
    · cases h
      have hall : (messages.filterMap Message.reply?).map ErrorReply.toJson =
          ((messages.filterMap Message.reply?).map members).map .object := by simp [hone]
      rw [hall]
      refine pushesIn_array fun o ho => ?_
      obtain ⟨r, -, rfl⟩ := List.mem_map.1 ho
      exact hid r
  | unreadable =>
    cases h
    exact pushesIn_object (hid _)

end Rpc

def OutboundFrame.pushes : OutboundFrame → List Rpc.Notification
  | .text s => Rpc.pushesIn s
  | .close => []

namespace Link

variable {κ : Type} {l l' l'' : Link κ} {sent more : List Rpc.Notification}

/-- The socket stays, and what is queued for it holds these notifications. -/
structure Posts (l : Link κ) (sent : List Rpc.Notification) (l' : Link κ) : Prop where
  writer : l'.writer = l.writer
  outbound : ∃ frames, l'.outbound = l.outbound ++ frames ∧ frames.flatMap OutboundFrame.pushes = sent

theorem Posts.of_same (hwriter : l'.writer = l.writer) (houtbound : l'.outbound = l.outbound) :
    l.Posts [] l' :=
  ⟨hwriter, [], by simp [houtbound], rfl⟩

theorem Posts.refl (l : Link κ) : l.Posts [] l := .of_same rfl rfl

theorem Posts.trans (h : l.Posts sent l') (h' : l'.Posts more l'') : l.Posts (sent ++ more) l'' := by
  obtain ⟨hwriter, frames, houtbound, rfl⟩ := h
  obtain ⟨hwriter', frames', houtbound', rfl⟩ := h'
  exact ⟨hwriter'.trans hwriter, frames ++ frames', by rw [houtbound', houtbound, List.append_assoc],
    List.flatMap_append⟩

theorem Posts.then (h : l.Posts [] l') (h' : l'.Posts sent l'') : l.Posts sent l'' := h.trans h'

theorem Posts.sent_eq (h : l.Posts sent l') (h' : l.Posts more l') : sent = more := by
  obtain ⟨-, frames, houtbound, rfl⟩ := h
  obtain ⟨-, frames', houtbound', rfl⟩ := h'
  rw [List.append_cancel_left (houtbound.symm.trans houtbound')]

theorem posts_rewired (h : l.Rewired l') : l.Posts [] l' := .of_same (by rw [h.others]) (by rw [h.others])

theorem posts_moveTo (l : Link κ) (s : Status) : l.Posts [] (l.moveTo s) := by
  unfold moveTo
  split <;> exact .of_same rfl rfl

theorem posts_markReady (l : Link κ) : l.Posts [] l.markReady := by
  unfold markReady
  split
  · exact posts_moveTo l .ready
  · exact .refl l

theorem posts_send? {f : OutboundFrame} (h : l.send? f = some l') : l.Posts f.pushes l' := by
  unfold send? at h
  split at h
  · cases h
    exact ⟨rfl, [f], rfl, List.flatMap_singleton ..⟩
  · cases h

theorem posts_start (l : Link κ) : l.Posts [] l.start.2 := by
  have hopening := posts_moveTo l .connecting
  unfold start
  split
  · exact .refl l
  · dsimp only
    split
    · exact hopening
    · exact hopening.trans (.of_same rfl rfl)
    · exact hopening.trans (posts_moveTo _ _)

theorem posts_stop (l : Link κ) : l.Posts [] l.stop := by
  have hclosing := posts_moveTo l .disconnecting
  unfold stop
  split
  · dsimp only
    cases hsend : (l.moveTo .disconnecting).send? .close with
    | none => exact hclosing.trans (posts_moveTo _ _)
    | some sent => exact hclosing.trans (posts_send? hsend)
  · exact .refl l

theorem Monitor.posts_act (m : Monitor) (now : Nat) (linkIsGone : Bool) (l : Link κ) :
    l.Posts [] (m.act now linkIsGone l).2 := by
  dsimp only [Monitor.act, Monitor.poll]
  split
  · split
    · exact posts_stop l
    · split
      · exact posts_start l
      · exact .refl l
  · exact .refl l

theorem posts_call (l : Link κ) (now : Nat) (method : String) (params : Option Json) :
    l.Posts [] (l.call now method params).2 := by
  have hsettles := call_settles l now method params
  generalize l.call now method params = called at hsettles ⊢
  obtain ⟨cause | r, l'⟩ := called
  · exact .of_same (by rw [hsettles.1.others]) (by rw [hsettles.1.others])
  · refine ⟨by rw [Sent.others hsettles], _, Sent.outbound hsettles, ?_⟩
    exact (List.flatMap_singleton ..).trans (Rpc.pushesIn_call method params r.id)

theorem posts_settles {now : Nat} {entries : List BatchEntry}
    {frames : List (Option Receipt) → List OutboundFrame}
    {result : Except LinkError (List (Option Receipt))} (h : l.Settles now entries frames result l') :
    ∃ sent, l.Posts sent l' := by
  cases result with
  | error cause => exact ⟨[], .of_same (by rw [h.1.others]) (by rw [h.1.others])⟩
  | ok receipts => exact ⟨_, by rw [Sent.others h], _, Sent.outbound h, rfl⟩

theorem posts_notify (h : l.writer = .live) (method : String) :
    l.Posts [{ method, params := none }] (l.notify method none).2 := by
  have hsend : l.sendJson? (Rpc.Request.notification method none).toJson =
      some { l with outbound := l.outbound ++ [.text (Rpc.Request.notification method none).toJson.render] } :=
    if_pos h
  have hposts := posts_send? hsend
  unfold notify
  rw [hsend]
  rwa [OutboundFrame.pushes, Rpc.pushesIn_notification] at hposts

theorem posts_receive (l : Link κ) (m : Rpc.Message) : l.Posts [] (l.receive m) := by
  unfold receive
  split <;> exact .of_same rfl rfl

theorem posts_foldl_receive (l : Link κ) (messages : List Rpc.Message) :
    l.Posts [] (messages.foldl receive l) := by
  induction messages generalizing l with
  | nil => exact .refl l
  | cons m messages ih => exact (posts_receive l m).then (ih _)

theorem posts_queue (l : Link κ) {texts : List String} (h : ∀ t ∈ texts, Rpc.pushesIn t = []) :
    l.Posts [] (l.queue texts) := by
  unfold queue queued
  split
  · refine ⟨rfl, texts.map .text, rfl, ?_⟩
    rw [List.flatMap_map]
    exact List.flatMap_eq_nil_iff.2 h
  · exact .of_same rfl rfl

theorem posts_handleFrame (l : Link κ) (text : String) : l.Posts [] (l.handleFrame text) := by
  rw [handleFrame_eq]
  refine (posts_foldl_receive l _).then (posts_queue _ fun reply hreply => ?_)
  exact Rpc.pushesIn_reply (Option.mem_toList.1 hreply)

theorem posts_sweepIfDue (l : Link κ) (now : Nat) : l.Posts [] (l.sweepIfDue now) := by
  unfold sweepIfDue
  split
  · split <;> exact .of_same rfl rfl
  · exact .refl l

end Link
end ServiceLink
