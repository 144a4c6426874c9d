import ServiceLink.Proofs.Client.Settling
import ServiceLink.Proofs.Rpc.Conveying

/-! Pushes and the acknowledgement. A subscription binds its listeners when the client settles, so that
the pushes that come between the acknowledgement and then find no listener. All later ones are told. -/

namespace ServiceLink.Client

open Scene (Step)

variable {timeout : Nat} {c c' : Client}

/-- A frame with the acknowledgement of a subscription that a caller waits for. -/
structure Acknowledgement (c : Client) (text : String) where
  tag : String
  service : String
  entry : Entry
  ticket : Ticket
  ack : Json
  version : String
  earlier : List Rpc.Message
  answer : Rpc.Message
  /-- The messages behind the acknowledgement. -/
  rest : List Rpc.Message
  messages : (Rpc.Frame.read text).messages = earlier ++ answer :: rest
  entered : c.registry.entry? service = some entry
  waits : (tag, .acknowledgement service entry.generation ticket) ∈ c.jobs
  ready : ((earlier ++ [answer]).foldl Link.receive c.link).calls.response ticket = .ready (.ok ack)
  versioned : (Schema.read ack).version = some version

namespace Acknowledgement

variable {text : String}

def schema (a : c.Acknowledgement text) : Schema := .read a.ack

/-- The events that messages hold for the subscriber. -/
def news (a : c.Acknowledgement text) (messages : List Rpc.Message) : List Event :=
  messages.flatMap (a.schema.news a.entry.path a.entry.requested)

/-- The subscription still stands, and its subscriber holds the stream. -/
structure Stands (a : c.Acknowledgement text) (c' : Client) : Prop where
  entry : (c'.registry.entry? a.service).map (·.generation) = some a.entry.generation
  held : ∀ st ∈ c'.hub.streams, st.id = a.entry.generation → st.isHeld

/-- The subscriber was told exactly these events, and the properties are current with them. -/
structure Told (a : c.Acknowledgement text) (c' : Client) (told : List Event) : Prop where
  events : Stream.eventsOf c'.hub.streams a.entry.generation = told
  properties : (c'.registry.entry? a.service).bind Entry.properties? =
    some (told.foldl Event.enter a.schema.properties)

theorem stands_of_stream (a : c.Acknowledgement text) {st : Stream}
    (hentry : (c'.registry.entry? a.service).map (·.generation) = some a.entry.generation)
    (hstreams : c'.hub.streams = [st]) (hheld : st.isHeld) : a.Stands c' := by
  refine ⟨hentry, fun st' hst' _ => ?_⟩
  rw [hstreams] at hst'
  rwa [List.mem_singleton.1 hst']

theorem decided (a : c.Acknowledgement text) :
    Calls.Decided a.ticket (.ok a.ack) (c.handleFrame text).link.calls := by
  let answered := (a.earlier ++ [a.answer]).foldl Link.receive c.link
  have hready : Calls.Decided a.ticket (.ok a.ack) answered.calls := by
    refine ⟨?_, .inl a.ready⟩
    by_contra hout
    have hclosed : answered.calls.response a.ticket = .closed := by
      simp [Calls.response, List.getElem?_eq_none (Nat.not_lt.1 hout)]
    cases a.ready.symm.trans hclosed
  have hrest := (Link.callHistory_foldl_receive answered a.rest).history.decided hready
  have hmessages : a.rest.foldl Link.receive answered =
      (Rpc.Frame.read text).messages.foldl Link.receive c.link := by
    rw [a.messages, ← List.foldl_append, List.append_assoc, List.singleton_append]
  rw [hmessages] at hrest
  rwa [← (c.link.statusOnly_handleFrame text).calls] at hrest

theorem news_append (a : c.Acknowledgement text) (messages messages' : List Rpc.Message) :
    a.news (messages ++ messages') = a.news messages ++ a.news messages' := List.flatMap_append

theorem told_of_informed {s : Scene} {f : Entry} {live : Live} {told : List Event}
    (a : c.Acknowledgement text) (hhub : s.hub = c'.hub) (hf : f.generation = a.entry.generation)
    (hlive : f.live = some live) (hschema : live.schema = a.schema)
    (hproperties : live.feed.properties = live.schema.properties)
    (hinformed : s.Informed a.service f told) (hstands : a.Stands c') : a.Told c' told := by
  obtain ⟨st, hst, hevents⟩ := hinformed.stream
  rw [hhub, hf] at hst
  have hmem : st ∈ c'.hub.streams.filter (·.id = a.entry.generation) := hst ▸ List.mem_singleton_self st
  obtain ⟨hmem, hid⟩ := List.mem_filter.1 hmem
  constructor
  · unfold Stream.eventsOf
    rw [hst, List.flatMap_singleton]
    exact hevents (hstands.held st hmem (of_decide_eq_true hid))
  · have hentry : c'.registry.entry? a.service = some (f.after told) := by
      rw [registry, ← hhub]
      exact hinformed.entry
    rw [hentry, ← hschema, ← hproperties]
    simp [Entry.properties?, Entry.after, hlive]

theorem informed (a : c.Acknowledgement text) {meanwhile : List Action}
    (hmeanwhile : ∀ x ∈ meanwhile, x.Leaves a.tag) {s : Scene} (hs : Tracks timeout c [] s)
    (hk : s.Kept) :
    ∃ moves s', Trace (Step timeout) s moves s' ∧
      Tracks timeout (c.burst (.frame text :: meanwhile)).settle [] s' ∧
      Client.Told c moves (c.burst (.frame text :: meanwhile)).settle ∧
      ∀ f, s'.subscription? a.service = some f → f.generation = a.entry.generation → ∃ live,
        f.live = some live ∧ live.schema = a.schema ∧ live.feed.properties = live.schema.properties ∧
          f.news = a.schema.news a.entry.path a.entry.requested ∧ s'.Informed a.service f [] := by
  let waiting := (c.handleFrame text).burst meanwhile
  obtain ⟨moves₁, s₁, htrace₁, hs₁, -, htold₁⟩ := moves_handleFrame c text s hs
  obtain ⟨moves₂, s₂, htrace₂, hs₂, -, htold₂⟩ := moves_burst (c.handleFrame text) meanwhile s₁ hs₁
  have hwaiting : Trace (Step timeout) s (moves₁ ++ moves₂) s₂ := htrace₁.append htrace₂
  -- the outcome waits for the job, and the job for the client
  have hdecided : Calls.Decided a.ticket (.ok a.ack) waiting.link.calls := by
    have hthen := (Scene.history_of_trace htrace₂).decided (by rw [hs₁.hub]; exact a.decided)
    rwa [hs₂.hub] at hthen
  have hjob : (a.tag, .acknowledgement a.service a.entry.generation a.ticket) ∈ waiting.jobs :=
    mem_jobs_burst (c := c.handleFrame text) a.waits hmeanwhile
  obtain ⟨moves₃, s₃, htrace₃, hs₃, htold₃, hinformed⟩ := informed_settle hs₂
    (Scene.kept_of_trace hwaiting hk) hjob hdecided (a.versioned ▸ Option.some_ne_none _)
  have htrace := hwaiting.append htrace₃
  refine ⟨_, s₃, htrace, hs₃, (htold₁.trans htold₂).trans htold₃, fun f hf hg => ?_⟩
  obtain ⟨live, hlive, hschema, hproperties, hinformed⟩ := hinformed f hf hg
  refine ⟨live, hlive, hschema, hproperties, ?_, hinformed⟩
  have hentry : s.subscription? a.service = some a.entry := (hs.subscription_eq _).trans a.entered
  obtain ⟨e, he, hsame⟩ := Scene.entriesEndure_of_trace htrace hf (hg ▸ hk.numbered.entry _ _ hentry)
  cases hentry.symm.trans he
  funext m
  rw [hsame, Entry.news, hlive]
  exact congrArg (·.news a.entry.path a.entry.requested m) hschema

theorem told (a : c.Acknowledgement text) {meanwhile : List Action}
    (hmeanwhile : ∀ x ∈ meanwhile, x.Leaves a.tag) {s : Scene} (hs : Tracks timeout c [] s)
    (hk : s.Kept) (after : List (List Action))
    (hstands : a.Stands ((c.burst (.frame text :: meanwhile)).settle.bursts after)) :
    a.Told ((c.burst (.frame text :: meanwhile)).settle.bursts after)
      (a.news (after.flatten.flatMap Action.messages)) := by
  obtain ⟨moves, s₁, htrace, hs₁, htold, hinformed⟩ := a.informed hmeanwhile hs hk
  obtain ⟨moves', s₂, htrace', hs₂, hmessages, htold'⟩ := moves_bursts _ after s₁ hs₁
  have hk₁ := Scene.kept_of_trace htrace hk
  have hle : a.entry.generation ≤ s₁.hub.registry.generation := by
    have hentry : s.subscription? a.service = some a.entry := (hs.subscription_eq _).trans a.entered
    exact Nat.le_trans (hk.numbered.entry _ _ hentry) (Scene.generation_le_of_trace htrace)
  have hendure : s₂.Stands a.service a.entry.generation := by
    obtain ⟨f, hf, hg⟩ := Option.map_eq_some_iff.1 hstands.entry
    exact ⟨f, (hs₂.subscription_eq _).trans hf, hg⟩
  obtain ⟨f, hf, hg⟩ := Scene.stands_of_trace htrace' hendure hle
  obtain ⟨live, hlive, hschema, hproperties, hnews, hinformed⟩ := hinformed f hf hg
  -- the stream is the caller's own, so that the discovery reads none of it
  have hdrained : .drained f.generation ∉ moves' := fun hmem =>
    hs.not_mayFollow (List.mem_append_left _ a.waits)
      (htold.follows _ (htold'.drained _ (hg ▸ hmem)))
  have hthen := Scene.informed_of_trace htrace' hk₁ hinformed
    (by rw [hlive]; exact Option.some_ne_none _) (hg ▸ hendure) hdrained
  rw [hmessages, hnews, List.nil_append] at hthen
  exact a.told_of_informed hs₂.hub hg hlive hschema hproperties hthen hstands

end Acknowledgement

/-! ### A push behind the acknowledgement -/

theorem handleFrame_of_read {text : String} {frame : Rpc.Frame} (hread : Rpc.Frame.read text = frame)
    (hreply : frame.reply? = none) (c : Client) :
    c.handleFrame text =
      { c with hub := { c.hub with link := frame.messages.foldl Link.receive c.hub.link }.hear } := by
  subst hread
  unfold handleFrame Hub.handleFrame Link.handleFrame
  dsimp only
  rw [hreply]

namespace AtOnce

def start : Client where
  hub := { link := .new (Options.linkSettings {} "ws://h/") }
  endpoint := "ws://h/"
  options := {}
  visible := Options.visible {}

def asking : Client :=
  ((start.started false).bursts
    [[.openSocket], [.subscribe "tag" ServiceList.discoveryName ["level"]]]).burst []

def ack : Json :=
  .object [("properties", .object [("level", .object [("value", .integer 1)])]), ("version", .integer 1)]

def answer : Rpc.Message := .response (some 1) ack

def push (level : Int) : Rpc.Message := .notification ⟨"/services/level", some (.integer level)⟩

def pushJson (level : Int) : Json :=
  .object [("jsonrpc", .text "2.0"), ("method", .text "/services/level"), ("params", .integer level)]

def text : String :=
  Json.render <| .array [
    .object [("jsonrpc", .text "2.0"), ("id", .integer 1), ("result", ack)],
    pushJson 2]

theorem reads_acknowledgement {levels : Nat} {property : String} {value : Json} (h : Json.Reads levels value value) :
    let ack : Json :=
      .object [("properties", .object [(property, .object [("value", value)])]), ("version", .integer 1)]
    Json.Reads (levels + 3) ack ack := by
  have hproperty : Json.Reads (levels + 1) (.object [("value", value)]) (.object [("value", value)]) :=
    .ordered (List.forall_mem_singleton.2 h) (List.pairwise_singleton _ _)
  have hproperties : Json.Reads (levels + 2) (.object [(property, .object [("value", value)])])
      (.object [(property, .object [("value", value)])]) :=
    .ordered (List.forall_mem_singleton.2 hproperty) (List.pairwise_singleton _ _)
  have hversion : Json.Reads (levels + 2) (.integer 1) (.integer 1) := .integer (by decide)
  refine .ordered (List.forall_mem_cons.2 ⟨hproperties, List.forall_mem_singleton.2 hversion⟩) ?_
  exact List.pairwise_pair.2 (show "properties" < "version" by decide)

theorem conveys_push {level : Int} (h : Json.InRange level) : Rpc.Conveys (pushJson level) (push level) :=
  Rpc.conveys_notification (.integer h)

theorem read_text : Rpc.Frame.read text = .batch [answer, push 2] := by
  have hanswer : Rpc.Conveys _ answer :=
    Rpc.conveys_response (by decide) (reads_acknowledgement (.integer (by decide)))
  have hparts : ∀ part ∈ [(_, answer), (pushJson 2, push 2)], Rpc.Conveys part.1 part.2 :=
    List.forall_mem_cons.2 ⟨hanswer, List.forall_mem_singleton.2 (conveys_push (by decide))⟩
  have hread := Rpc.read_array hparts
  exact hread

theorem read_push : Rpc.Frame.read (pushJson 3).render = .single (push 3) := (conveys_push (by decide)).read

def level : asking.Acknowledgement text where
  tag := "tag"
  service := ServiceList.discoveryName
  entry := { generation := 1, path := ServiceList.discoveryPath, requested := ["level"] }
  ticket := 0
  ack := ack
  version := "1"
  earlier := []
  answer := answer
  rest := [push 2]
  messages := congrArg Rpc.Frame.messages read_text
  entered := rfl
  waits := List.mem_cons_self
  ready := rfl
  versioned := rfl

theorem handleFrame_text : asking.handleFrame text =
    { asking with
      hub := { asking.hub with link := [answer, push 2].foldl Link.receive asking.hub.link }.hear } :=
  handleFrame_of_read read_text rfl asking

end AtOnce

/-- The pushes that come once the client has settled after the acknowledgement are told. Those that come between the
acknowledgement and then are not, so that all are told only if there were none. -/
theorem pushes_told_iff {endpoint : String} {options : Options} {c₀ : Client}
    (hnew : Client.new endpoint options = .ok c₀) (inBackground : Bool) (before : List (List Action))
    (sooner : List Action) {text : String}
    (a : (((c₀.started inBackground).bursts before).burst sooner).Acknowledgement text)
    (meanwhile : List Action) (hmeanwhile : ∀ x ∈ meanwhile, x.Leaves a.tag)
    (after : List (List Action)) :
    let c := ((c₀.started inBackground).bursts before).burst sooner
    let c' := (c.burst (.frame text :: meanwhile)).settle.bursts after
    let late := a.rest ++ meanwhile.flatMap Action.messages
    let later := after.flatten.flatMap Action.messages
    a.Stands c' →
      a.Told c' (a.news later) ∧ (a.Told c' (a.news (late ++ later)) ↔ a.news late = []) := by
  intro c c' late later hstands
  obtain ⟨moves, s, htrace, hs, -, -⟩ :=
    ((moves_bursts _ before).trans (moves_burst _ sooner)) _ (tracks_of_new hnew inBackground)
  have hk : s.Kept := Scene.kept_of_trace htrace (Scene.kept_start _)
  have htold : a.Told c' (a.news later) := a.told hmeanwhile hs hk after hstands
  refine ⟨htold, fun hall => ?_, fun hnone => ?_⟩
  · have hevents := hall.events.symm.trans htold.events
    rw [a.news_append] at hevents
    exact List.append_left_eq_self.1 hevents
  · rwa [a.news_append, hnone]

open AtOnce in
theorem pushes_told_iff_atOnce :
    let c' := (asking.burst [.frame text]).settle.bursts [[.frame (pushJson 3).render]]
    level.Stands c' ∧ level.Told c' [.changed "level" (.integer 3)] ∧
      ¬ level.Told c' [.changed "level" (.integer 2), .changed "level" (.integer 3)] := by
  intro c'
  have hstands : level.Stands c' := by
    have hc : c' = _ := bursts_frame _ _
    rw [hc, burst_frame, handleFrame_text, handleFrame_of_read read_push rfl]
    exact level.stands_of_stream rfl rfl rfl
  have hnew : Client.new "ws://h/" {} = .ok start := rfl
  have htold := pushes_told_iff hnew false _ [] level [] (by simp) [[.frame (pushJson 3).render]] hstands
  have hlater : [[Action.frame (pushJson 3).render]].flatten.flatMap Action.messages = [push 3] := by
    simp [Action.messages, read_push, Rpc.Frame.messages]
  rw [hlater] at htold
  exact ⟨hstands, htold.1, fun hall => List.cons_ne_nil _ _ (htold.2.1 hall)⟩

open AtOnce in
/-- The push in the frame of the acknowledgement is owed, and is not told. -/
theorem push_with_acknowledgement_untold :
    let c' := asking.bursts [[.frame text]]
    level.Stands c' ∧ level.news level.rest = [.changed "level" (.integer 2)] ∧
      Stream.eventsOf c'.hub.streams level.entry.generation = [] ∧
      ¬ level.Told c' (level.news level.rest) := by
  intro c'
  have hc : c' = Client.settle { asking with
      hub := { asking.hub with link := [answer, push 2].foldl Link.receive asking.hub.link }.hear } :=
    (bursts_frame _ _).trans (congrArg Client.settle handleFrame_text)
  have hevents : Stream.eventsOf c'.hub.streams level.entry.generation = [] := by
    rw [hc]
    rfl
  refine ⟨?_, rfl, hevents, fun htold => ?_⟩
  · rw [hc]
    exact level.stands_of_stream rfl rfl rfl
  · have hnone := htold.events.symm.trans hevents
    exact List.cons_ne_nil _ _ hnone

end ServiceLink.Client
