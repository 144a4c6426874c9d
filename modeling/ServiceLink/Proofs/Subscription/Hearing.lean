import ServiceLink.Proofs.Link.Runs
import ServiceLink.Subscription.Hub

/-! A hub hears a frame message by message: what the feeds and the streams make of the pushes of a frame
is what they make of the pushes of each message in turn. -/

namespace ServiceLink

namespace Link

variable {κ : Type}

def echoes (l : Link κ) : Rpc.Message → List (κ × Rpc.Notification)
  | .notification n => (l.handlersFor n.method).map (·, n)
  | _ => []

theorem receive_eq (l : Link κ) (m : Rpc.Message) :
    l.receive m =
      { l with calls := l.calls.hear m, deliveries := l.deliveries ++ l.echoes m } := by
  cases m with
  | response id result => cases id <;> simp [receive, Calls.hear, Rpc.Message.answer?, echoes]
  | error id object => cases id <;> simp [receive, Calls.hear, Rpc.Message.answer?, echoes]
  | notification n => rfl
  | call id method => simp [receive, Calls.hear, Rpc.Message.answer?, echoes]
  | invalid id => simp [receive, Calls.hear, Rpc.Message.answer?, echoes]
  | unknown => simp [receive, Calls.hear, Rpc.Message.answer?, echoes]

/-- The pushes among what a message delivers. -/
def pushesOf (l : Link Handler) (m : Rpc.Message) : List Push :=
  (l.echoes m).filterMap fun d => d.1.tap?.map (·, d.2)

theorem pushes_receive (l : Link Handler) (m : Rpc.Message) :
    (l.receive m).pushes = l.pushes ++ l.pushesOf m := by
  rw [receive_eq]
  exact List.filterMap_append

theorem pushes_withoutPushes (l : Link Handler) : l.withoutPushes.pushes = [] := by
  refine List.filterMap_eq_nil_iff.2 fun d hd => ?_
  have hcaller := (List.mem_filter.1 hd).2
  cases hh : d.1 with
  | tap t => simp [hh, Handler.isCaller] at hcaller
  | caller => rfl

theorem withoutPushes_receive (l : Link Handler) (m : Rpc.Message) :
    (l.withoutPushes.receive m).withoutPushes = (l.receive m).withoutPushes := by
  have hsame : l.withoutPushes.echoes m = l.echoes m := by cases m <;> rfl
  rw [receive_eq, receive_eq, hsame]
  simp [withoutPushes, List.filter_append, List.filter_filter]

end Link

namespace Feed

theorem hear_append (f : Feed) (p q : List Push) : f.hear (p ++ q) = (f.hear p).hear q :=
  List.foldl_append

end Feed

namespace Stream

theorem hear_append (s : Stream) (p q : List Push) : s.hear (p ++ q) = (s.hear p).hear q :=
  List.foldl_append

end Stream

namespace Entry

theorem hear_append (e : Entry) (p q : List Push) : e.hear (p ++ q) = (e.hear p).hear q := by
  simp [hear, Feed.hear_append, Function.comp_def]

@[simp] theorem hear_nil (e : Entry) : e.hear [] = e := by
  obtain ⟨generation, path, requested, live⟩ := e
  cases live <;> rfl

end Entry

theorem Dict.map_map {α β γ : Type} (d : Dict α) (f : α → β) (g : β → γ) :
    (d.map f).map g = d.map (g ∘ f) := by
  ext1
  simp [Dict.map, Function.comp_def]

namespace Registry

theorem hear_append (r : Registry) (p q : List Push) : r.hear (p ++ q) = (r.hear p).hear q := by
  have hentries : r.entries.map (·.hear (p ++ q)) = (r.entries.map (·.hear p)).map (·.hear q) := by
    rw [Dict.map_map]
    congr 1
    funext e
    exact e.hear_append p q
  simp [hear, hentries]

@[simp] theorem hear_nil (r : Registry) : r.hear [] = r := by
  have hentries : r.entries.map (·.hear []) = r.entries := by
    ext1
    simp [Dict.map]
  rw [hear, hentries]

end Registry

namespace Hub

def hearMessage (h : Hub) (m : Rpc.Message) : Hub := { h with link := h.link.receive m }.hear

theorem hear_receive (h : Hub) (m : Rpc.Message) :
    { h with link := h.link.receive m }.hear = h.hear.hearMessage m := by
  have hpushes : (h.link.withoutPushes.receive m).pushes = h.link.pushesOf m := by
    have hsame : h.link.withoutPushes.pushesOf m = h.link.pushesOf m := by cases m <;> rfl
    rw [Link.pushes_receive, Link.pushes_withoutPushes, List.nil_append, hsame]
  simp only [hearMessage, hear, Link.pushes_receive, hpushes, Link.withoutPushes_receive,
    Registry.hear_append, Stream.hear_append, List.map_map, Function.comp_def]

theorem hear_foldl_receive (h : Hub) (messages : List Rpc.Message) :
    { h with link := messages.foldl Link.receive h.link }.hear =
      messages.foldl hearMessage h.hear := by
  induction messages generalizing h with
  | nil => rfl
  | cons m messages ih =>
    rw [List.foldl_cons, List.foldl_cons, ← hear_receive h m]
    exact ih { h with link := h.link.receive m }

theorem withoutPushes_eq_self {l : Link Handler} (hq : l.pushes = []) : l.withoutPushes = l := by
  have hcallers : l.deliveries.filter (·.1.isCaller) = l.deliveries := by
    refine List.filter_eq_self.2 fun d hd => ?_
    have hnone := List.filterMap_eq_nil_iff.1 hq d hd
    cases hh : d.1 with
    | tap t => simp [hh, Handler.tap?] at hnone
    | caller => rfl
  rw [Link.withoutPushes, hcallers]

theorem hear_eq_self {h : Hub} (hq : h.link.pushes = []) : h.hear = h := by
  have hstreams : h.streams.map (·.hear []) = h.streams := List.map_id _
  rw [hear, hq, withoutPushes_eq_self hq, Registry.hear_nil, hstreams]

/-- After a frame the hub is as after its messages one by one, but for the reply to the server. -/
theorem handleFrame_eq {h : Hub} (hq : h.link.pushes = []) (text : String) :
    ∃ link, Link.SocketOnly ((Rpc.Frame.read text).messages.foldl hearMessage h).link link ∧
      h.handleFrame text = { (Rpc.Frame.read text).messages.foldl hearMessage h with link } := by
  have hheard := hear_foldl_receive h (Rpc.Frame.read text).messages
  rw [hear_eq_self hq] at hheard
  rw [← hheard]
  -- the reply only queues a frame, which hearing does not look at
  obtain ⟨sent, hsent, hframe⟩ : ∃ sent,
      Link.SocketOnly ((Rpc.Frame.read text).messages.foldl Link.receive h.link) sent ∧
        h.link.handleFrame text = sent := by
    refine ⟨_, ?_, rfl⟩
    dsimp only [Link.handleFrame]
    split
    · exact .refl _
    · exact (Link.statusOnly_send?_getD _ (.refl _)).toSocketOnly
  have hpushes : sent.pushes = ((Rpc.Frame.read text).messages.foldl Link.receive h.link).pushes := by
    rw [Link.pushes, hsent.deliveries, Link.pushes]
  refine ⟨sent.withoutPushes, ⟨hsent.settings, hsent.calls, hsent.listeners, hsent.nextListener, ?_⟩, ?_⟩
  · simp only [hear, Link.withoutPushes, hsent.deliveries]
  · rw [handleFrame, hframe]
    simp only [hear, hpushes]

end Hub
end ServiceLink
