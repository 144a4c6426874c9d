import ServiceLink.Proofs.Client.Streaming
import ServiceLink.Proofs.Client.Subscribing

/-! The course of an event stream. It is empty until its subscription is live, then it brings the changes of
the properties that were asked for and are advertised. A disconnection ends it with one last event, an
unsubscription without; after either nothing comes. -/

namespace ServiceLink

namespace Move

/-- A move by which the subscription to a service goes. -/
def Parts (service : String) (mv : Move) : Prop := mv = .unsubscribed service ∨ mv = .disconnected

/-- The events that the messages of moves hold for a subscription. -/
def tidings (news : Rpc.Message → List Event) (moves : List Move) : List Event :=
  (moves.filterMap message?).flatMap news

end Move

/-- What was told on the stream of a subscription in these moves, the first after it became live, and
whether the stream is open then. -/
inductive Course (service : String) (news : Rpc.Message → List Event) (moves : List Move) :
    List Event → Bool → Prop
  | standing : (∀ mv ∈ moves, ¬ mv.Parts service) → Course service news moves (Move.tidings news moves) true
  | unsubscribed {during later : List Move} : moves = during ++ .unsubscribed service :: later →
      (∀ mv ∈ during, ¬ mv.Parts service) → Course service news moves (Move.tidings news during) false
  | disconnected {during later : List Move} : moves = during ++ .disconnected :: later →
      (∀ mv ∈ during, ¬ mv.Parts service) →
      Course service news moves (Move.tidings news during ++ [.ended]) false

theorem Course.append {service : String} {news : Rpc.Message → List Event} {moves : List Move}
    {told : List Event} (h : Course service news moves told false) (more : List Move) :
    Course service news (moves ++ more) told false := by
  cases h with
  | @unsubscribed during later hmoves hduring =>
    have hmore : moves ++ more = during ++ .unsubscribed service :: (later ++ more) := by simp [hmoves]
    exact .unsubscribed hmore hduring
  | @disconnected during later hmoves hduring =>
    have hmore : moves ++ more = during ++ .disconnected :: (later ++ more) := by simp [hmoves]
    exact .disconnected hmore hduring

/-- An event is the end, or the change of a property that was asked for and is advertised. -/
def Event.Concerns (requested : List String) (schema : Schema) : Event → Prop
  | .changed property _ => property ∈ requested ∧ schema.hasProperty property
  | .ended => True

namespace Scene

variable {timeout : Nat} {s s' : Scene} {mv : Move} {moves : List Move} {stream : Nat}
  {taken told : List Event}

/-! ### From the acknowledgement on -/

theorem Step.gone_of_unsubscribed {service : String} (h : Step timeout s (.unsubscribed service) s')
    (hn : s.Numbered) {e : Entry} (he : s.subscription? service = some e) (hg : e.generation = stream) :
    s'.Gone stream := by
  cases h with
  | unsubscribed =>
    intro k f hf hgf
    have hbefore := (Registry.entry?_erase s.hub.registry service k).symm.trans hf
    split at hbefore
    · cases hbefore
    · rename_i hk
      exact hk (hn.unique service k e f he hbefore (hg.trans hgf.symm))

end Scene

namespace Client

variable {timeout : Nat} {c : Client} {s : Scene} {stream : Nat}

/-- How a live subscription of a client is torn down: an unsubscription closes its stream as it is, and a
disconnection or a shutdown with one last event. The discovery lets go of a stream of its own. -/
structure TornDown (c : Client) (service : String) (e : Entry) : Prop where
  unsubscribed : (c.unsubscribe service).streamNews e.generation =
    (Stream.eventsOf c.hub.streams e.generation, true)
  disconnected : c.hub.isHeld e.generation →
    c.discovery.bind Discovery.stream? ≠ some e.generation →
    c.handleDisconnected.streamNews e.generation =
      (Stream.eventsOf c.hub.streams e.generation ++ [.ended], true)
  shutdown : c.hub.isHeld e.generation →
    c.discovery.bind Discovery.stream? ≠ some e.generation →
    c.shutdown.streamNews e.generation =
      (Stream.eventsOf c.hub.streams e.generation ++ [.ended], true)

theorem streamNews_unsubscribe (hs : s.hub = c.hub) (hk : s.Kept) (ho : s.Owned) {service : String}
    {e : Entry} (he : c.registry.entry? service = some e) :
    (c.unsubscribe service).streamNews e.generation =
      (Stream.eventsOf c.hub.streams e.generation, true) := by
  have he' : s.subscription? service = some e := (congrArg (·.registry.entry? service) hs).trans he
  have hstep := @step_unsubscribe 0 c s hs service e he
  have hgone := hstep.gone_of_unsubscribed hk.numbered he' rfl
  have hclosed := hgone.isClosed (hstep.owned hk.numbered hk.wired ho)
  have hstreams : (c.unsubscribe service).hub.streams = c.hub.streams := by
    refine (hstep.streams_becomes.trans ?_).trans (congrArg (·.streams) hs)
    exact (List.append_nil _).trans (List.map_id _)
  exact Prod.ext (congrArg (Stream.eventsOf · e.generation) hstreams) hclosed

theorem registry_abortDiscovery (c : Client) : c.abortDiscovery.registry = c.registry := by
  unfold abortDiscovery
  split <;> rfl

theorem streams_abortDiscovery (c : Client) (h : c.discovery.bind Discovery.stream? ≠ some stream) :
    c.abortDiscovery.hub.streams.filter (·.id = stream) = c.hub.streams.filter (·.id = stream) := by
  unfold abortDiscovery
  split
  · rfl
  · rename_i own hd
    have hne : own ≠ stream := fun heq => h (by simp [hd, Discovery.stream?, heq])
    show (Stream.update c.hub.streams own Stream.release).filter (·.id = stream) = _
    unfold Stream.update
    induction c.hub.streams with
    | nil => rfl
    | cons st rest ih =>
      by_cases hid : st.id = own
      · simpa [hid, hne, Stream.release] using ih
      · by_cases hst : st.id = stream <;> simpa [hid, hst, Stream.release, Ne.symm hne] using ih
  · rfl

theorem streamNews_handleDisconnected {rest : List (String × Job)} (hs : Tracks timeout c rest s)
    (hk : s.Kept) (ho : s.Owned) {service : String} {e : Entry}
    (he : c.registry.entry? service = some e) (hlive : e.live ≠ none)
    (hheld : c.hub.isHeld e.generation)
    (hreads : c.discovery.bind Discovery.stream? ≠ some e.generation) :
    c.handleDisconnected.streamNews e.generation =
      (Stream.eventsOf c.hub.streams e.generation ++ [.ended], true) := by
  obtain ⟨moves, s₁, htrace, hs₁, -, -⟩ := @moves_abortDiscovery timeout c rest s hs
  have hk₁ := Scene.kept_of_trace htrace hk
  have ho₁ := Scene.owned_of_trace htrace hk ho
  have he₁ : s₁.subscription? service = some e := by
    rw [hs₁.subscription_eq, registry_abortDiscovery]
    exact he
  obtain ⟨st, hst, -⟩ := hk.streamed.entry service e ((hs.subscription_eq service).trans he)
  rw [hs.hub] at hst
  have hst₁ : s₁.hub.streams.filter (·.id = e.generation) = [st] := by
    rw [hs₁.hub, streams_abortDiscovery c hreads, hst]
  have hstep := @step_handleDisconnected timeout c s₁ hs₁.hub
  have hthen := hstep.stream_becomes (hk₁.numbered.entry service e he₁) hst₁
  have hended : s₁.becomes .disconnected st = { st with events := st.events ++ [.ended] } := by
    have hid := Scene.id_of_filter hst
    show st.sendAll (s₁.sends st.id .disconnected) = _
    rw [hk₁.sends_disconnected he₁ hid.symm hlive, Stream.sendAll_eq,
      if_pos (Hub.isHeld_of_filter hst hheld)]
  have hgone : Scene.Gone { s₁ with hub := c.handleDisconnected.hub } e.generation := by
    intro k f hf
    rw [hstep.subscription?_of_disconnected] at hf
    cases hf
  refine Prod.ext ?_ (hgone.isClosed (hstep.owned hk₁.numbered hk₁.wired ho₁))
  rw [hended] at hthen
  exact (Stream.eventsOf_eq hthen).trans (congrArg (· ++ _) (Stream.eventsOf_eq hst).symm)

theorem tornDown (hs : Tracks timeout c [] s) (hk : s.Kept)
    (ho : s.Owned) {service : String} {e : Entry} (he : c.registry.entry? service = some e)
    (hlive : e.live ≠ none) : c.TornDown service e where
  unsubscribed := streamNews_unsubscribe hs.hub hk ho he
  disconnected := streamNews_handleDisconnected hs hk ho he hlive
  shutdown hheld hreads := by
    obtain ⟨moves, s₁, htrace, hs₁, -, -⟩ := @moves_unhosted timeout c s hs
    exact streamNews_handleDisconnected hs₁ (Scene.kept_of_trace htrace hk)
      (Scene.owned_of_trace htrace hk ho) he hlive hheld hreads

end Client
end ServiceLink
