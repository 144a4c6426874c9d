import ServiceLink.Proofs.Client.Awaiting
import ServiceLink.Proofs.Client.Pushing

/-! The discovery of a connection completes, whatever callers do meanwhile, if it was admitted: the services
are then those of the acknowledgement, and the connection is ready. A discovery that is not admitted empties
the service list, and the connection never becomes ready. -/

namespace ServiceLink.Client

open Calls (Event)

variable {timeout : Nat} {c : Client} {rest : List (String × Job)}

/-! ### The beginning -/

/-- The client when the discovery has its turn: its monitor and its watcher had theirs. -/
def watched (c : Client) : Client := c.runMonitor.runWatcher

/-- The discovery of a connection is about to subscribe. -/
structure Begins (c : Client) : Prop where
  discovery : c.discovery = some .subscribe
  status : c.link.status = .connected
  writer : c.link.writer = .live
  quiet : c.IsQuiet

/-- The subscription of a discovery can be sent: `services` is listed, nobody has subscribed to it, and there is an id
for the request. -/
structure Admits (c : Client) : Prop where
  known : c.registry.services.find? ServiceList.discoveryName ≠ none
  free : c.registry.entry? ServiceList.discoveryName = none
  id : c.link.calls.freeId? ≠ none

theorem call_of_register {κ : Type} {l : Link κ} {now : Nat} {r : Receipt} {calls : Calls}
    (hwriter : l.writer = .live) (hregister : l.calls.register now = some (r, calls)) (method : String)
    (params : Option Json) : ∃ l', l.call now method params = (.ok r, l') := by
  unfold Link.call
  simp [hwriter, hregister, Link.sendJson?, Link.send?]

theorem call_of_full {κ : Type} {l : Link κ} (hfull : l.calls.freeId? = none) (now : Nat)
    (method : String) (params : Option Json) : ∃ cause, (l.call now method params).1 = .error cause := by
  have hregister : l.calls.register now = none := by rw [Calls.register, hfull]; rfl
  unfold Link.call
  split
  · exact ⟨_, rfl⟩
  · rw [hregister]
    exact ⟨_, rfl⟩

theorem onLink_eq {α : Type} {f : Link Handler → α × Link Handler} {a : α} {link : Link Handler}
    (h : f c.link = (a, link)) : c.onLink f = (a, c.mapLink fun _ => link) := by
  unfold onLink
  rw [h]

theorem beginSubscription_eq {service : String} {d : ServiceDescriptor} (requested : List String)
    (hknown : c.registry.services.find? service = some d) (hfree : c.registry.entry? service = none)
    {result : Except LinkError Receipt} {link : Link Handler}
    (hcall : (c.hub.insert service d.path requested).link.call c.now (d.path ++ subscribeMethod) none =
      (result, link)) :
    let entered := { c with hub := { c.hub.insert service d.path requested with link } }
    c.beginSubscription service requested =
      match result with
      | .ok r => (.ok (c.registry.generation + 1, r.ticket), entered)
      | .error cause => (.error (.link service cause),
          entered.mapRegistry (·.discard service (c.registry.generation + 1))) := by
  intro entered
  have hlink : ({ c with hub := c.hub.insert service d.path requested } : Client).onLink
      (·.call c.now (d.path ++ subscribeMethod) none) = (result, entered) := onLink_eq hcall
  unfold beginSubscription
  rw [hknown]
  dsimp only
  rw [hfree, if_neg (by simp), hlink]
  cases result <;> rfl

theorem beginSubscription_admitted (hwriter : c.link.writer = .live) (h : c.Admits)
    (requested : List String) :
    ∃ r c', c.beginSubscription ServiceList.discoveryName requested =
        (.ok (c.registry.generation + 1, r.ticket), c') ∧
      Calls.Entered c.now c.link.calls [r] c'.link.calls ∧
      Enters c'.registry (c.registry.generation + 1) := by
  obtain ⟨d, hd⟩ := Option.ne_none_iff_exists'.1 h.known
  obtain ⟨id, hid⟩ := Option.ne_none_iff_exists'.1 h.id
  let entered := c.hub.insert ServiceList.discoveryName d.path requested
  obtain ⟨r, calls, hregister⟩ : ∃ r calls, entered.link.calls.register c.now = some (r, calls) :=
    ⟨_, _, congrArg (Option.map _) hid⟩
  obtain ⟨link, hcall⟩ := call_of_register (l := entered.link) hwriter hregister
    (d.path ++ subscribeMethod) none
  have hbegin := beginSubscription_eq requested hd h.free hcall
  exact ⟨r, _, hbegin, Link.entered_of_call hcall,
    _, (Registry.entry?_insert _ _ _ _ _).trans (if_pos rfl), rfl⟩

theorem beginSubscription_refused (h : ¬ c.Admits) (requested : List String) :
    ∃ cause, (c.beginSubscription ServiceList.discoveryName requested).1 = .error cause ∧
      ∀ service, cause ≠ .closed service := by
  cases hknown : c.registry.services.find? ServiceList.discoveryName with
  | none =>
    refine ⟨.unknownService ServiceList.discoveryName, ?_, nofun⟩
    unfold beginSubscription
    rw [hknown]
  | some d =>
    cases hfree : c.registry.entry? ServiceList.discoveryName with
    | some e =>
      refine ⟨.alreadySubscribed ServiceList.discoveryName, ?_, nofun⟩
      unfold beginSubscription
      rw [hknown]
      dsimp only
      rw [hfree]
      rfl
    | none =>
      have hfull : c.link.calls.freeId? = none := by
        by_contra hid
        exact h ⟨by rw [hknown]; exact Option.some_ne_none d, hfree, hid⟩
      obtain ⟨cause, hcause⟩ := call_of_full
        (l := (c.hub.insert ServiceList.discoveryName d.path requested).link) hfull c.now
        (d.path ++ subscribeMethod) none
      refine ⟨.link ServiceList.discoveryName cause, ?_, nofun⟩
      rw [beginSubscription_eq requested hknown hfree (Prod.ext hcause rfl)]

theorem beside_none_beginSubscription (c : Client) (service : String) (requested : List String) :
    HubBeside none .waiting c.hub (c.beginSubscription service requested).2.hub :=
  beside_beginSubscription nofun

theorem Begins.awaitsInquiry_of_admits (h : c.Begins) (htracked : IsTracked timeout c []) (hadmits : c.Admits) :
    ∃ i : Inquiry, i.call ∈ c.runDiscovery.link.calls.inFlight ∧ i.call.sentAt = c.now ∧
      AwaitsInquiry timeout (some i) .waiting c.registry.services c.runDiscovery [] := by
  obtain ⟨r, c', hbegin, hentered, henters⟩ :=
    beginSubscription_admitted h.writer hadmits [listProperty]
  obtain ⟨hub, hclient⟩ := beginSubscription_client c ServiceList.discoveryName [listProperty]
  have hhub := beside_none_beginSubscription c ServiceList.discoveryName [listProperty]
  rw [hbegin] at hclient hhub
  cases hclient
  let i : Inquiry := ⟨c.registry.generation + 1, r.call c.now⟩
  have hrun : c.runDiscovery = { c with hub, discovery := some i.discovery } := by
    unfold runDiscovery
    rw [h.discovery]
    dsimp only
    rw [hbegin]
    rfl
  have htracked' := htracked.runDiscovery
  have hmem : i.call ∈ hub.link.calls.inFlight := by
    rw [show hub.link.calls.inFlight = _ from hentered.inFlight]
    exact List.mem_append_right _ List.mem_cons_self
  rw [hrun] at htracked' ⊢
  refine ⟨i, hmem, rfl, ?_⟩
  exact {
    status := hhub.status.trans h.status
    quiet := ⟨fun hw s hs => h.quiet.events hw s (hhub.events hs), h.quiet.visible⟩
    services := hhub.services
    discovery := rfl
    isTracked := htracked'
    enters := fun _ hi => Option.some.inj hi ▸ henters
    finds := fun _ hi => Option.some.inj hi ▸
      ⟨htracked'.sound, hentered.response List.mem_cons_self, fun _ => hmem, absurd rfl⟩
    apart := fun _ hi job hjob hticket => by
      cases hi
      have hknown := htracked.known job hjob _ hticket
      rw [show i.call.ticket = _ from hentered.ticket_eq.1] at hknown
      exact Nat.lt_irrefl _ hknown }

theorem Begins.awaitsInquiry_of_not_admits (h : c.Begins) (htracked : IsTracked timeout c []) (hadmits : ¬ c.Admits) :
    AwaitsInquiry timeout none .waiting .empty c.runDiscovery [] := by
  obtain ⟨cause, hcause, hopen⟩ := beginSubscription_refused hadmits [listProperty]
  obtain ⟨hub, hclient⟩ := beginSubscription_client c ServiceList.discoveryName [listProperty]
  have hhub := beside_none_beginSubscription c ServiceList.discoveryName [listProperty]
  rw [hclient] at hhub
  have hrun : c.runDiscovery = { { c with hub } with discovery := none }.setServices .empty := by
    unfold runDiscovery
    rw [h.discovery]
    dsimp only
    rw [show c.beginSubscription _ _ = (.error cause, { c with hub }) from Prod.ext hcause hclient]
    dsimp only [failDiscovery]
    split
    · exact absurd rfl (hopen _)
    · rfl
  have htracked' := htracked.runDiscovery
  rw [hrun] at htracked' ⊢
  exact {
    status := hhub.status.trans h.status
    quiet := ⟨fun hw s hs => h.quiet.events hw s (hhub.events hs), h.quiet.visible⟩
    services := rfl
    discovery := rfl
    isTracked := htracked'
    enters := nofun
    finds := nofun
    apart := nofun }

/-! ### The answer -/

/-- A frame with the acknowledgement of a request, with a version and a service list. -/
structure Answer (id : Nat) (text : String) where
  ack : Json
  version : String
  list : Json
  earlier : List Rpc.Message
  answer : Rpc.Message
  rest : List Rpc.Message
  messages : (Rpc.Frame.read text).messages = earlier ++ answer :: rest
  first : ∀ m ∈ earlier, ¬ Link.answers id m
  answers : answer.answer? = some (id, .ok ack)
  versioned : (Schema.read ack).version = some version
  listed : ((Schema.read ack).properties.find? listProperty).map (·.value) = some list

section

variable {i : Inquiry} {services : ServiceList} {text : String}

theorem finds_of_answer (a : Answer i.call.id text) (h : c.link.calls.Finds i.call .waiting) :
    (c.handleFrame text).link.calls.Finds i.call (.ready (.ok a.ack)) := by
  have hhistory := (Link.callHistory_handleFrame c.link text).history
  rw [a.messages, List.map_append, List.map_cons] at hhistory
  obtain ⟨before, after, hearlier, hanswer, hrest⟩ := hhistory.at_middle
  have hwaiting : before.Finds i.call .waiting := by
    refine h.history hearlier fun e he => ?_
    obtain ⟨m, hm, rfl⟩ := List.mem_map.1 he
    exact Calls.spares_message fun _ => a.first m hm
  have hready : after.Finds i.call (.ready (.ok a.ack)) :=
    hwaiting.decide hanswer (by simp [Event.verdict?, a.answers])
  refine Calls.Finds.history hready hrest fun e he => ?_
  obtain ⟨m, hm, rfl⟩ := List.mem_map.1 he
  exact Calls.spares_message fun hwaiting => Response.noConfusion hwaiting

theorem AwaitsInquiry.handleFrame (h : AwaitsInquiry timeout (some i) .waiting services c [])
    (a : Answer i.call.id text) :
    AwaitsInquiry timeout (some i) (.ready (.ok a.ack)) services (c.handleFrame text) [] := by
  have hbeside : Beside (some i) (.ready (.ok a.ack)) c (c.handleFrame text) :=
    beside_of_hub (hubBeside_handleFrame nofun) ⟨_, _, _, _, rfl⟩
  have htracked : IsTracked timeout (c.handleFrame text) [] :=
    h.isTracked.act (a := .frame text) fun _ => Action.noConfusion
  refine h.of_beside hbeside htracked (fun _ hi => ?_) fun _ hjob => .inl hjob
  cases hi
  exact finds_of_answer a (h.finds i rfl)

theorem AwaitsInquiry.silent {r : Response} (h : AwaitsInquiry timeout (some i) r services c rest) :
    Stream.eventsOf c.hub.streams i.generation = [] := by
  obtain ⟨s, hs, hk⟩ := h.isTracked.tracked
  obtain ⟨e, he, hg⟩ := h.enters i rfl
  have hentry : s.subscription? ServiceList.discoveryName = some e := (hs.subscription_eq _).trans he
  obtain ⟨st, hst, hempty⟩ := hk.streamed.entry _ e hentry
  rw [hs.hub, hg] at hst
  unfold Stream.eventsOf
  rw [hst, List.flatMap_singleton, hempty (hs.pending (h.mem_waiting rfl) hentry hg)]

theorem continueSubscription_ready {service version : String} {generation : Nat} {ticket : Ticket}
    {ack : Json} {e : Entry} (hresponse : c.link.calls.response ticket = .ready (.ok ack))
    (hversion : (Schema.read ack).version = some version)
    (hcurrent : c.registry.current? service generation = some e) :
    let taken := (c.takeOutcome ticket).2
    c.continueSubscription service generation ticket =
      (some (.ok { service, version, methods := (Schema.read ack).methods
                   properties := (Schema.read ack).properties, stream := generation }),
        { taken with hub := taken.hub.establish service e (Schema.read ack) }) := by
  intro taken
  have htake : c.takeOutcome ticket = (some (.ok ack), taken) := by
    refine Prod.ext ?_ rfl
    show (c.link.calls.response ticket).take.1 = some (.ok ack)
    rw [hresponse]
    rfl
  have hstill : taken.registry.current? service generation = some e := hcurrent
  unfold continueSubscription
  rw [htake]
  dsimp only
  rw [hversion]
  dsimp only [acknowledge]
  rw [hstill]

theorem learn_of_listed (c : Client) (info : SubscriptionInfo) {list : Json}
    (h : (info.properties.find? listProperty).map (·.value) = some list) :
    (c.learn info).registry.services = .read list ∧ (c.learn info).link = c.link.markReady ∧
      (c.learn info).hub.streams = c.hub.streams := by
  unfold learn
  dsimp only
  rw [h]
  exact ⟨rfl, rfl, rfl⟩

theorem follow_of_silent {stream : Nat} (h : Stream.eventsOf c.hub.streams stream = []) :
    (c.follow stream).hub = c.hub.updateStream stream Stream.drain := by
  unfold follow
  rw [h]
  exact (apply_ite Client.hub _ _ _).trans (ite_self _)

theorem status_markReady {κ : Type} {l : Link κ} (h : l.status = .connected) :
    l.markReady.status = .ready := by
  simp [Link.markReady, Link.canMarkReady, Link.moveTo, h]

theorem AwaitsInquiry.learns (a : Answer i.call.id text)
    (h : AwaitsInquiry timeout (some i) (.ready (.ok a.ack)) services c rest) :
    c.runDiscovery.registry.services = .read a.list ∧ c.runDiscovery.link.status = .ready := by
  obtain ⟨e, hcurrent⟩ := (h.enters i rfl).current?
  let schema := Schema.read a.ack
  let taken := (c.takeOutcome i.call.ticket).2
  let live : Client := { taken with hub := taken.hub.establish ServiceList.discoveryName e schema }
  let info : SubscriptionInfo :=
    { service := ServiceList.discoveryName, version := a.version, methods := schema.methods
      properties := schema.properties, stream := i.generation }
  let learnt : Client := { live.learn info with discovery := some (.following i.generation) }
  have hrun : c.runDiscovery = learnt.follow i.generation := by
    unfold Client.runDiscovery
    rw [h.discovery]
    dsimp only [Option.map_some, Inquiry.discovery]
    rw [continueSubscription_ready (h.finds i rfl).response a.versioned hcurrent]
  obtain ⟨hservices, hlink, hstreams⟩ := learn_of_listed live info a.listed
  have hsilent : Stream.eventsOf learnt.hub.streams i.generation = [] := by
    rw [show learnt.hub.streams = c.hub.streams from hstreams]
    exact h.silent
  have hfollowed := follow_of_silent hsilent
  have hestablished := taken.hub.rewired_establish ServiceList.discoveryName e schema
  have hstatus : live.link.status = .connected := by
    rw [show live.link = _ from hestablished.others]
    exact h.status
  refine ⟨?_, ?_⟩
  · rw [hrun, registry, hfollowed]
    exact hservices
  · rw [hrun, Client.link, hfollowed]
    show learnt.link.status = .ready
    rw [show learnt.link = _ from hlink]
    exact status_markReady hstatus

theorem beside_runJobs (c : Client) : HubBeside none .waiting c.hub c.runJobs.hub := by
  let P : Client → List (String × Job) → Prop := fun d _ => HubBeside none .waiting c.hub d.hub
  refine runJobs_keeps (P := P) (fun d tag job _ hd => ?_) (.refl _)
  have hjob : Beside none .waiting d (d.runJob tag job) :=
    beside_runJob tag fun _ hi => absurd hi (Option.not_mem_none _)
  exact HubBeside.trans hd hjob.hub

theorem AwaitsInquiry.settle (a : Answer i.call.id text)
    (h : AwaitsInquiry timeout (some i) (.ready (.ok a.ack)) services c []) :
    c.settle.registry.services = .read a.list ∧ c.settle.link.status = .ready := by
  obtain ⟨hservices, hstatus⟩ := h.runMonitor.runWatcher.learns a
  have hjobs := beside_runJobs c.runMonitor.runWatcher.runDiscovery
  exact ⟨hjobs.services.trans hservices, hjobs.status.trans hstatus⟩

end

/-! ### The whole of a discovery -/

/-- What callers and the server do beside an inquiry: the connection and the subscription to the services
stand, and no message answers the request. -/
def Action.IsBeside (i : Inquiry) (a : Action) : Prop :=
  a.Keeps ∧ a.Spares i.call.ticket ∧ ∀ m ∈ a.messages, ¬ Link.answers i.call.id m

/-- A client waits for the answer to the request of its discovery, and whatever happens beside it, the
answer completes the discovery. -/
structure Completes (c : Client) (services : ServiceList) (i : Inquiry) : Prop where
  discovery : c.discovery = some i.discovery
  sent : i.call ∈ c.link.calls.inFlight ∧ i.call.sentAt = c.now
  /-- Until the request expires the services stay known. -/
  waits : ∀ (during : List (List Action)) (sooner : List Action),
    (∀ a ∈ during.flatten ++ sooner, a.IsBeside i) →
    let c' := (c.bursts during).burst sooner
    c'.now - i.call.sentAt < c.link.settings.callTimeout →
      c'.registry.services = services ∧ c'.link.status = .connected
  /-- An answer until then brings the services that it lists. -/
  learns : ∀ (during : List (List Action)) (sooner : List Action),
    (∀ a ∈ during.flatten ++ sooner, a.IsBeside i) →
    let c' := (c.bursts during).burst sooner
    c'.now - i.call.sentAt < c.link.settings.callTimeout →
      ∀ (text : String) (a : Answer i.call.id text) (meanwhile : List Action),
        (∀ x ∈ meanwhile, x.Keeps ∧ x.Spares i.call.ticket ∧ ∀ ms, x ≠ .advance ms) →
        let answered := c'.burst (.frame text :: meanwhile)
        answered.registry.services = services ∧ answered.link.status = .connected ∧
          answered.settle.registry.services = .read a.list ∧ answered.settle.link.status = .ready

/-- The service list is empty and the link not ready, and so it stays while the connection stands. -/
def Empties (c : Client) : Prop :=
  ∀ (during : List (List Action)) (sooner : List Action),
    (∀ a ∈ during.flatten ++ sooner, a.Keeps) →
    let c' := (c.bursts during).burst sooner
    c'.registry.services = .empty ∧ c'.link.status = .connected

section

variable {q : Option Inquiry} {r : Response} {i : Inquiry} {services : ServiceList}

theorem AwaitsInquiry.burst {ack : Json} (h : AwaitsInquiry timeout (some i) (.ready (.ok ack)) services c [])
    {actions : List Action}
    (hactions : ∀ x ∈ actions, x.Keeps ∧ x.Spares i.call.ticket ∧ ∀ ms, x ≠ .advance ms) :
    AwaitsInquiry timeout (some i) (.ready (.ok ack)) services (c.burst actions) [] := by
  induction actions generalizing c with
  | nil => exact h
  | cons a actions ih =>
    rw [List.forall_mem_cons] at hactions
    obtain ⟨⟨hkeeps, hspares, hnow⟩, hrest⟩ := hactions
    refine ih (h.act hnow hkeeps (fun _ hi => ?_) nofun) hrest
    cases hi
    exact hspares

theorem completes_of_awaitsInquiry (h : AwaitsInquiry timeout (some i) .waiting services c [])
    (hsent : i.call ∈ c.link.calls.inFlight ∧ i.call.sentAt = c.now) : c.Completes services i := by
  have hwaits : ∀ (during : List (List Action)) (sooner : List Action),
      (∀ a ∈ during.flatten ++ sooner, a.IsBeside i) →
      ((c.bursts during).burst sooner).now - i.call.sentAt < c.link.settings.callTimeout →
      AwaitsInquiry timeout (some i) .waiting services ((c.bursts during).burst sooner) [] := by
    intro during sooner hactions htime
    rw [h.callTimeout] at htime
    refine h.run (fun a ha => ⟨(hactions a ha).1, fun _ hi => ?_⟩) fun _ hi => ?_
    · cases hi
      exact (hactions a ha).2
    · cases hi
      exact htime
  refine ⟨h.discovery, hsent, ?_, ?_⟩
  · intro during sooner hactions c' htime
    have hthen := hwaits during sooner hactions htime
    exact ⟨hthen.services, hthen.status⟩
  · intro during sooner hactions c' htime text a meanwhile hmeanwhile answered
    have hthen := hwaits during sooner hactions htime
    have hanswered : AwaitsInquiry timeout (some i) (.ready (.ok a.ack)) services answered [] :=
      (hthen.handleFrame a).burst hmeanwhile
    obtain ⟨hservices, hstatus⟩ := hanswered.settle a
    exact ⟨hanswered.services, hanswered.status, hservices, hstatus⟩

theorem empties_of_awaitsInquiry (h : AwaitsInquiry timeout none .waiting .empty c []) : c.Empties := by
  intro during sooner hactions c'
  have hthen : AwaitsInquiry timeout none .waiting .empty c' [] :=
    h.run (fun a ha => ⟨hactions a ha, nofun⟩) nofun
  exact ⟨hthen.services, hthen.status⟩

end

/-! ### A caller who asks for the services -/

namespace Asking

def opened : Client := (AtOnce.start.started false).bursts [[.openSocket]]

def asks : Action := .subscribe "tag" ServiceList.discoveryName [listProperty]

def list : Json := .object [("power", .object [("name", .text "Power"), ("path", .text "/p/")])]

def ack : Json :=
  .object [("properties", .object [(listProperty, .object [("value", list)])]), ("version", .integer 1)]

def text : String :=
  Json.render <| .object [("jsonrpc", .text "2.0"), ("id", .integer 1), ("result", ack)]

theorem reads_listing {levels : Nat} (service name path : String) :
    let list : Json := .object [(service, .object [("name", .text name), ("path", .text path)])]
    Json.Reads (levels + 2) list list := by
  have hdescriptor : Json.Reads (levels + 1) (.object [("name", .text name), ("path", .text path)])
      (.object [("name", .text name), ("path", .text path)]) := by
    refine .ordered (List.forall_mem_cons.2 ⟨.text _, List.forall_mem_singleton.2 (.text _)⟩) ?_
    exact List.pairwise_pair.2 (show "name" < "path" by decide)
  exact .ordered (List.forall_mem_singleton.2 hdescriptor) (List.pairwise_singleton _ _)

theorem read_text : Rpc.Frame.read text = .single (.response (some 1) ack) :=
  (Rpc.conveys_response (by decide) (AtOnce.reads_acknowledgement (reads_listing _ _ _))).read

def answer : Answer 1 text where
  ack := ack
  version := "1"
  list := list
  earlier := []
  answer := .response (some 1) ack
  rest := []
  messages := congrArg Rpc.Frame.messages read_text
  first := nofun
  answers := rfl
  versioned := rfl
  listed := rfl

end Asking

/-- A discovery that is admitted completes whatever callers do, with the services known at all times; one
that is not admitted empties the service list, and the connection never becomes ready. -/
theorem discovery_completes_or_empties {endpoint : String} {options : Options} {c₀ : Client}
    (hnew : Client.new endpoint options = .ok c₀) (inBackground : Bool) (before : List (List Action))
    (opening : List Action) :
    let c := ((c₀.started inBackground).bursts before).burst opening
    c.watched.Begins →
      (c.watched.Admits → ∃ i, c.settle.Completes c.watched.registry.services i) ∧
        (¬ c.watched.Admits → c.settle.Empties) := by
  intro c hbegins
  have htracked : IsTracked (options.linkSettings endpoint).callTimeout c.watched [] :=
    (((isTracked_of_new hnew inBackground).bursts before).burst opening).runMonitor.runWatcher
  refine ⟨fun hadmits => ?_, fun hadmits => ?_⟩
  · obtain ⟨i, hsent, htime, hawaits⟩ := hbegins.awaitsInquiry_of_admits htracked hadmits
    have hsettled := hawaits.runJobs
    refine ⟨i, completes_of_awaitsInquiry hsettled ⟨?_, ?_⟩⟩
    · exact (hsettled.finds i rfl).inFlight rfl
    · have hnow : c.watched.now = c.now := by
        obtain ⟨link, monitor, hclient⟩ := runMonitor_client c
        exact (hubOnly_runWatcher _).now.trans (congrArg (·.now) hclient)
      rw [htime, now_settle, hnow]
  · exact empties_of_awaitsInquiry (hbegins.awaitsInquiry_of_not_admits htracked hadmits).runJobs

open Asking in
theorem discovery_completes_or_empties_asked :
    let c := opened.burst [.connected]
    let asked := c.settle.bursts [[asks]]
    c.watched.Begins ∧ c.watched.Admits ∧ asked.registry.services = .bootstrap ∧
      (asked.handleFrame text).settle.registry.services = .read list ∧
        (asked.handleFrame text).settle.link.status = .ready := by
  intro c
  have hnew : Client.new "ws://h/" {} = .ok AtOnce.start := rfl
  have hbegins : c.watched.Begins := ⟨rfl, rfl, rfl, nofun, nofun⟩
  have hadmits : c.watched.Admits := ⟨nofun, rfl, nofun⟩
  have hknown : c.watched.registry.services = .bootstrap := rfl
  have hinFlight : c.settle.link.calls.inFlight = [⟨1, 0, 0⟩] := rfl
  have htimeout : c.settle.link.settings.callTimeout = 60000 := rfl
  have hnow : (c.settle.bursts [[asks]]).now = 0 := rfl
  obtain ⟨⟨generation, call⟩, hcompletes⟩ : ∃ i, c.settle.Completes c.watched.registry.services i :=
    (discovery_completes_or_empties hnew false [[.openSocket]] [.connected] hbegins).1 hadmits
  generalize c.settle = d at hcompletes hinFlight htimeout hnow ⊢
  intro asked
  have hsent := hcompletes.sent.1
  rw [hinFlight] at hsent
  cases List.mem_singleton.1 hsent
  have hbeside : ∀ a ∈ [[asks]].flatten ++ [], a.IsBeside ⟨generation, ⟨1, 0, 0⟩⟩ := by
    intro a ha
    cases List.mem_singleton.1 ha
    exact ⟨trivial, trivial, nofun⟩
  have htime : asked.now - 0 < d.link.settings.callTimeout := by
    rw [hnow, htimeout]
    decide
  obtain ⟨hservices, -⟩ := hcompletes.waits [[asks]] [] hbeside htime
  obtain ⟨-, -, hlist, hready⟩ := hcompletes.learns [[asks]] [] hbeside htime text answer [] nofun
  exact ⟨hbegins, hadmits, hservices.trans hknown, hlist, hready⟩

open Asking in
/-- A caller who asks before the connection is known breaks its discovery, though his request is the only
one and its answer lists the services. -/
theorem discovery_emptied_by_caller :
    let asked := opened.bursts [[asks]]
    let connected := asked.step .connected
    let answered := connected.bursts [[.frame text]]
    asked.link.status = .connected ∧ asked.link.writer = .live ∧ asked.registry.services = .bootstrap ∧
      connected.link.calls.inFlight = [⟨1, 0, 0⟩] ∧ connected.registry.services = .empty ∧
        answered.registry.services = .empty ∧ answered.registry.services ≠ .read answer.list ∧
          answered.link.status = .connected := by
  intro asked connected answered
  have hanswered : answered = _ :=
    (bursts_frame _ _).trans (congrArg Client.settle (handleFrame_of_read read_text rfl connected))
  have hempty : answered.registry.services = .empty := by
    rw [hanswered]
    rfl
  have hlisted : (ServiceList.read answer.list).find? "power" = some ⟨"Power", "/p/"⟩ := rfl
  refine ⟨rfl, rfl, rfl, rfl, rfl, hempty, fun hlist => ?_, ?_⟩
  · rw [← hlist, hempty] at hlisted
    cases hlisted
  · rw [hanswered]
    rfl

end ServiceLink.Client
