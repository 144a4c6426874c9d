import ServiceLink.Proofs.Client.Cataloguing
import ServiceLink.Proofs.Client.Granting
import ServiceLink.Proofs.Client.Recognizing

/-! The path under which the services are asked for. Until a discovery has told where they are, every request to
them goes where everyone looks for them; the path of the options is used for the token alone. -/

namespace ServiceLink.Client

variable {timeout : Nat} {c c' : Client} {d : Deed} {log : List Deed}

/-! ### Before a discovery has told where the services are -/

/-- No discovery has concluded since the client was started or a disconnection was handled. -/
def IsUntaught (log : List Deed) : Prop :=
  ∃ before after, log = before ++ after ∧
    (before = [] ∨ ∃ d ∈ before.getLast?, d.handled? = some .notConnected) ∧ ∀ x ∈ after, ¬ x.Concludes

theorem IsUntaught.append (h : IsUntaught log) (hopen : ¬ d.Concludes) : IsUntaught (log ++ [d]) := by
  obtain ⟨before, after, rfl, hbefore, hafter⟩ := h
  refine ⟨before, after ++ [d], List.append_assoc _ _ _, hbefore, ?_⟩
  rw [List.forall_mem_append]
  exact ⟨hafter, List.forall_mem_singleton.2 hopen⟩

theorem isUntaught_of_disconnected (hhandled : d.handled? = some .notConnected) : IsUntaught (log ++ [d]) :=
  ⟨log ++ [d], [], (List.append_nil _).symm, .inr ⟨d, List.getLast?_concat, hhandled⟩, nofun⟩

/-- The catalog is that of a new connection, and a subscription to `services` has the path of the bootstrap list. -/
structure Untaught (c : Client) : Prop where
  blank : c.Blank
  path : ∀ e, c.registry.entry? ServiceList.discoveryName = some e → e.path = ServiceList.discoveryPath

theorem Untaught.listed (h : c.Untaught) {d : ServiceDescriptor}
    (hd : c.registry.services.find? ServiceList.discoveryName = some d) : d.path = ServiceList.discoveryPath := by
  rw [show c.registry.services = .bootstrap from congrArg Prod.fst h.blank.catalog] at hd
  cases hd
  rfl

theorem Untaught.deed (h : c.Untaught) (htracked : IsTracked timeout c []) (hdoes : Does c d c')
    (hopen : ¬ d.Concludes) : c'.Untaught := by
  refine ⟨h.blank.deed htracked hdoes hopen, fun e he => ?_⟩
  rcases hdoes.entriesArise htracked _ e he with ⟨f, hf, hendures⟩ | ⟨-, d, hd, hpath⟩
  · exact hendures.path.trans (h.path f hf)
  · exact hpath.trans (h.listed hd)

theorem untaught_of_trace (htrace : Trace Does c log c') (htracked : IsTracked timeout c []) (h : c.Untaught)
    (hopen : ∀ d ∈ log, ¬ d.Concludes) : c'.Untaught := by
  have hthen : IsTracked timeout c' [] ∧ c'.Untaught := by
    induction htrace with
    | start => exact ⟨htracked, h⟩
    | step _ hdoes ih =>
      rw [List.forall_mem_append, List.forall_mem_singleton] at hopen
      obtain ⟨htracked, huntaught⟩ := ih hopen.1
      exact ⟨hdoes.isTracked htracked, huntaught.deed htracked hdoes hopen.2⟩
  exact hthen.2

theorem untaught_handleDisconnected (c : Client) : c.handleDisconnected.Untaught := by
  have hregistry := registry_handleDisconnected c
  refine ⟨.of_idle (congrArg (·.catalog) hregistry) (discovery_handleDisconnected c), fun e he => ?_⟩
  rw [hregistry] at he
  cases he

theorem Does.untaught (h : Does c d c') (hhandled : d.handled? = some .notConnected) : c'.Untaught := by
  cases h with
  | @acted a =>
    cases a with
    | disconnected => exact untaught_handleDisconnected c
    | shutdown => exact untaught_handleDisconnected c.unhosted
    | _ => cases hhandled
  | told s =>
    cases s with
    | notConnected => exact untaught_handleDisconnected c
    | _ => cases hhandled
  | _ => cases hhandled

theorem untaught_of_new {endpoint : String} {options : Options} (hnew : Client.new endpoint options = .ok c)
    (inBackground : Bool) : (c.started inBackground).Untaught := by
  obtain ⟨-, -, -, hdiscovery⟩ := started_of_new hnew inBackground
  have hregistry := registry_of_new hnew inBackground
  refine ⟨.of_idle ?_ hdiscovery, fun e he => ?_⟩
  · rw [hregistry]
    rfl
  · rw [hregistry] at he
    cases he

theorem untaught_of_isUntaught {start : Client} (hstart : start.Untaught) (htracked : IsTracked timeout start [])
    (htrace : Trace Does start log c) (h : IsUntaught log) : c.Untaught := by
  obtain ⟨before, after, rfl, hbefore, hopen⟩ := h
  obtain ⟨b, hfirst, hrest⟩ := htrace.split
  refine untaught_of_trace hrest (isTracked_of_trace hfirst htracked) ?_ hopen
  rcases hbefore with rfl | ⟨d, hd, hhandled⟩
  · exact hfirst.eq_of_nil ▸ hstart
  · obtain ⟨before, rfl⟩ := List.getLast?_eq_some_iff.1 hd
    obtain ⟨m, -, hdoes⟩ := hfirst.last
    exact hdoes.untaught hhandled

theorem isUntaught_of_trace {start : Client} (hstart : Charted timeout [] start)
    (htrace : Trace Does start log c) (hinOrder : InOrder log) :
    (last? log ≠ some .connected → IsUntaught log) ∧ (c.IsInquiring → IsUntaught log) := by
  have hbegun : IsUntaught [] := ⟨[], [], rfl, .inl rfl, nofun⟩
  induction htrace with
  | start => exact ⟨fun _ => hbegun, fun _ => hbegun⟩
  | @step log x y d htrace hdoes ih =>
    obtain ⟨hidle, hinquiring⟩ := ih hinOrder.left
    constructor
    · intro hlast
      cases hdoes.bears with
      | aside hd hhandled =>
        rw [last?_append_of_none hhandled] at hlast
        exact (hidle hlast).append fun ⟨result, heq, _⟩ => hd _ heq
      | connected hhandled => exact absurd (last?_append_of_some hhandled) hlast
      | disconnected hhandled => exact isUntaught_of_disconnected hhandled
      | discovered hturn =>
        rw [last?_append_of_none rfl] at hlast
        -- without a connection there is no discovery that could conclude
        have hnone := ((charted_of_trace hstart htrace hinOrder.left).idle hlast).1
        obtain ⟨rfl, -⟩ := hturn.of_none hnone
        exact (hidle hlast).append nofun
    · intro hi
      rcases hdoes.isInquiring hi with hhandled | ⟨hbefore, -, hopen⟩
      · refine (hidle (hinOrder.last?_ne_connected hhandled)).append ?_
        rintro ⟨result, rfl, -⟩
        cases hhandled
      · exact (hinquiring hbefore).append fun ⟨result, heq, _⟩ => hopen result heq

/-! ### Requests for the services -/

/-- All requests to `services` go out under a path. -/
structure AsksAt (c : Client) (path : String) : Prop where
  /-- A call, a notification and an entry of a batch are recognized under it, and under it alone. -/
  recognizes : ∀ method target,
    c.registry.Recognizes ServiceList.discoveryName method target ↔ target = path ++ method
  call : ∀ method params, c.Sends [{ method := path ++ method, params }] Link.separate
    ((c.call ServiceList.discoveryName method params).1.map fun receipt => [some receipt])
    (c.call ServiceList.discoveryName method params).2
  notify : ∀ method params,
    c.Sends [{ method := path ++ method, params, isNotification := true }] Link.separate
      ((c.notify ServiceList.discoveryName method params).1.map fun _ => [none])
      (c.notify ServiceList.discoveryName method params).2
  /-- A caller who subscribes to the services asks under it. -/
  subscribe : ∀ requested generation ticket c',
    c.beginSubscription ServiceList.discoveryName requested = (.ok (generation, ticket), c') →
    ∃ receipt, receipt.ticket = ticket ∧ c.link.Dispatched c.now
      [{ method := path ++ subscribeMethod, params := none }] Link.separate [some receipt] c'.link
  /-- The discovery of a connection asks under it, unless it fails at once. -/
  discover : ∀ c', c.discovery = some .subscribe → Does c (.discovered none) c' →
    ∃ receipt, c.link.Dispatched c.now
      [{ method := path ++ subscribeMethod, params := none }] Link.separate [some receipt] c'.link

theorem Untaught.recognizes (h : c.Untaught) (method target : String) :
    c.registry.Recognizes ServiceList.discoveryName method target ↔
      target = ServiceList.discoveryPath ++ method := by
  have hpath : ∀ path, c.registry.Advertises ServiceList.discoveryName method path →
      path = ServiceList.discoveryPath := by
    rintro path ⟨e, -, -, he, -, rfl, -⟩
    exact h.path e he
  constructor
  · rintro (hadvertised | ⟨-, hd⟩)
    · rw [hpath _ hadvertised]
    · rw [h.listed hd]
  · rintro rfl
    by_cases hadvertised : ∃ path, c.registry.Advertises ServiceList.discoveryName method path
    · obtain ⟨path, hadvertised⟩ := hadvertised
      exact hpath path hadvertised ▸ .advertised hadvertised
    · have hservices : c.registry.services = .bootstrap := congrArg Prod.fst h.blank.catalog
      obtain ⟨d, hd⟩ : ∃ d, c.registry.services.find? ServiceList.discoveryName = some d := by
        rw [hservices]
        exact ⟨_, rfl⟩
      exact h.listed hd ▸ .listed (not_exists.1 hadvertised) hd

theorem Opening.dispatched (hsound : c.link.calls.Sound) {service : String} {requested : List String}
    {generation : Nat} {ticket : Ticket}
    (h : Opening c service requested (.ok (generation, ticket)) c') :
    ∃ d receipt, c.registry.services.find? service = some d ∧ receipt.ticket = ticket ∧
      c.link.Dispatched c.now [{ method := d.path ++ subscribeMethod, params := none }] Link.separate
        [some receipt] c'.link := by
  cases h with
  | @asked d receipt link hd _ hcall =>
    have hsettles := (Link.call_settles c.link c.now (d.path ++ subscribeMethod) none).allOrNothing hsound
      (Link.singleFrame_eq _)
    rw [hcall] at hsettles
    exact ⟨d, receipt, hd, rfl, hsettles⟩

theorem Does.dispatched (h : Does c (.discovered none) c') (hsound : c.link.calls.Sound)
    (hd : c.discovery = some .subscribe) :
    ∃ d receipt, c.registry.services.find? ServiceList.discoveryName = some d ∧
      c.link.Dispatched c.now [{ method := d.path ++ subscribeMethod, params := none }] Link.separate
        [some receipt] c'.link := by
  cases h.turn with
  | asked _ hopening =>
    obtain ⟨d, receipt, hlisted, -, hdispatched⟩ := hopening.dispatched hsound
    exact ⟨d, receipt, hlisted, hdispatched⟩
  | idle hnone => cases hd.symm.trans hnone
  | waits hwaits => cases hd.symm.trans hwaits
  | followed hfollows => cases hd.symm.trans hfollows

theorem Untaught.asksAt (h : c.Untaught) (hsound : c.link.calls.Sound) : c.AsksAt ServiceList.discoveryPath where
  recognizes := h.recognizes
  call method params := (oneByOne hsound _ method params).call _ ((h.recognizes _ _).2 rfl)
  notify method params := (oneByOne hsound _ method params).notify _ ((h.recognizes _ _).2 rfl)
  subscribe requested generation ticket c' hbegin := by
    have hopening := beginSubscription_opening c ServiceList.discoveryName requested
    rw [hbegin] at hopening
    obtain ⟨d, receipt, hd, hticket, hdispatched⟩ := hopening.dispatched hsound
    exact ⟨receipt, hticket, h.listed hd ▸ hdispatched⟩
  discover c' hd hdoes := by
    obtain ⟨d, receipt, hlisted, hdispatched⟩ := hdoes.dispatched hsound hd
    exact ⟨receipt, h.listed hlisted ▸ hdispatched⟩

theorem AsksAt.unique {path path' : String} (h : c.AsksAt path) (h' : c.AsksAt path') : path = path' := by
  have hboth : path ++ "" = path' ++ "" := (h'.recognizes "" _).1 ((h.recognizes "" _).2 rfl)
  simpa using hboth

/-- The paths under which a client asks for its token and for the services. -/
structure Bootstraps (endpoint : String) (options : Options) (log : List Deed) (c : Client) : Prop where
  /-- The token of a connection is asked for under the `servicesPath` of the options. -/
  token : Endpoint.token c.link.settings.endpoint c.link.settings.servicesPath =
    Endpoint.token endpoint options.servicesPath
  /-- A connection that is handled begins a discovery. -/
  connected : ∀ d c', Does c d c' → d.handled? = some .connected → c'.discovery = some .subscribe
  /-- Before a discovery has concluded, requests to `services` go out under `discoveryPath`, which is not the path of
  the options unless they give the same. -/
  untaught : IsUntaught log → ∀ path, c.AsksAt path ↔ path = ServiceList.discoveryPath
  /-- A discovery asks under the path at which the services are listed. -/
  listed : ∀ c', c.discovery = some .subscribe → Does c (.discovered none) c' →
    ∃ d receipt, c.registry.services.find? ServiceList.discoveryName = some d ∧
      c.link.Dispatched c.now [{ method := d.path ++ subscribeMethod, params := none }] Link.separate
        [some receipt] c'.link
  /-- While the discovery of a connection asks or waits, that path is `discoveryPath`. -/
  inquiring : InOrder log → c.IsInquiring → ∀ path, c.AsksAt path ↔ path = ServiceList.discoveryPath

theorem settings_of_trace (htrace : Trace Does c log c') (htracked : IsTracked timeout c []) :
    c'.link.settings = c.link.settings := by
  obtain ⟨s, hs, -⟩ := htracked.tracked
  obtain ⟨moves, s', hmoves, hs', -⟩ := moves_of_trace htrace s hs
  have hsettings : s'.hub.link.settings = s.hub.link.settings :=
    hmoves.keeps (fun _ _ _ hx hstep => hstep.settings.trans hx) rfl
  rwa [hs'.hub, hs.hub] at hsettings

theorem bootstraps_of_trace {endpoint : String} {options : Options} {c₀ : Client}
    (hnew : Client.new endpoint options = .ok c₀) (inBackground : Bool)
    (htrace : Trace Does (c₀.started inBackground) log c) : Bootstraps endpoint options log c := by
  have hstart := charted_of_new hnew inBackground
  have htracked := isTracked_of_trace htrace hstart.reached.isTracked
  have hasks : IsUntaught log → ∀ path, c.AsksAt path ↔ path = ServiceList.discoveryPath := by
    intro h path
    have huntaught :=
      untaught_of_isUntaught (untaught_of_new hnew inBackground) hstart.reached.isTracked htrace h
    have hpath := huntaught.asksAt htracked.sound
    exact ⟨fun h => h.unique hpath, fun h => h ▸ hpath⟩
  refine ⟨?_, fun d c' hdoes hhandled => ?_, hasks,
    fun c' hd hdoes => hdoes.dispatched htracked.sound hd, fun hinOrder hi => ?_⟩
  · have hhub := (started_of_new hnew inBackground).1
    rw [settings_of_trace htrace hstart.reached.isTracked, link, hhub]
    rfl
  · cases hdoes.bears with
    | aside _ hnone => cases hnone.symm.trans hhandled
    | connected _ hdiscovery => exact hdiscovery
    | disconnected hgone => cases hgone.symm.trans hhandled
    | discovered => cases hhandled
  · exact hasks ((isUntaught_of_trace hstart htrace hinOrder).2 hi)

/-- Whatever `servicesPath` the options give, the requests to `services` before a discovery has concluded, that of the
discovery of every connection among them, go out under `discoveryPath`; under the path of the options only the token
is asked for. -/
theorem services_asked_at_discoveryPath {endpoint : String} {options : Options} {c₀ : Client}
    (hnew : Client.new endpoint options = .ok c₀) (inBackground : Bool) :
    let start := c₀.started inBackground
    (∀ actions, start.Performs actions.flatten (start.bursts actions)) ∧
      ∀ log c, Trace Does start log c → Bootstraps endpoint options log c := by
  intro start
  exact ⟨performs_bursts start, fun log c => bootstraps_of_trace hnew inBackground⟩

/-! ### A path of one's own -/

namespace Elsewhere

def chosen : Options := { servicesPath := "/api/" }

def start : Client where
  hub := { link := .new (chosen.linkSettings "ws://h/") }
  endpoint := "ws://h/"
  options := chosen
  visible := chosen.visible

def connected : Client := (start.started false).openSocket.handleConnected

def course : List Deed := [.acted .openSocket [], .acted .connected []]

theorem trace_course : Trace Does (start.started false) course connected := by
  have hopened : Does (start.started false) (.acted .openSocket []) (start.started false).openSocket :=
    .acted nofun
  have hconnected : Does (start.started false).openSocket (.acted .connected []) connected := .acted nofun
  exact (Trace.one hopened).step hconnected

end Elsewhere

open Elsewhere in
theorem services_asked_at_discoveryPath_elsewhere :
    Trace Does (start.started false) course connected ∧ IsUntaught course ∧
      connected.discovery = some .subscribe ∧ connected.AsksAt ServiceList.discoveryPath ∧
      ¬ connected.AsksAt chosen.servicesPath := by
  have hnew : Client.new "ws://h/" chosen = .ok start := rfl
  have huntaught : IsUntaught course := by
    refine ⟨[], course, rfl, .inl rfl, ?_⟩
    simp [course, Deed.Concludes]
  have hasks := ((services_asked_at_discoveryPath hnew false).2 course connected trace_course).untaught huntaught
  exact ⟨trace_course, huntaught, rfl, (hasks _).2 rfl, fun h => absurd ((hasks _).1 h) (by decide)⟩

open Elsewhere in
/-- The token is asked for under the path of the options, and the discovery of the connection asks under
`discoveryPath`. -/
theorem discovery_ignores_servicesPath :
    let c := (start.started false).bursts [[.openSocket], [.connected]]
    let request (path : String) : OutboundFrame :=
      .text (Rpc.Request.call (path ++ subscribeMethod) none 1).toJson.render
    Client.new "ws://h/" chosen = .ok start ∧
      (Endpoint.token c.link.settings.endpoint c.link.settings.servicesPath).map Url.text =
        .ok "http://h/api/GetWebSocketToken" ∧
      c.link.outbound = [request ServiceList.discoveryPath] ∧
      c.link.outbound ≠ [request chosen.servicesPath] := by
  intro c request
  refine ⟨rfl, ?_, rfl, ?_⟩
  · show (Endpoint.token "ws://h/" "/api/").map Url.text = .ok "http://h/api/GetWebSocketToken"
    with_unfolding_all rfl
  · decide

end ServiceLink.Client
