import ServiceLink.Proofs.Client.Disconnecting
import ServiceLink.Proofs.Link.Idling

/-! The end of a client. Once it was shut down it stays so, whatever its callers and its server do, until it is
given a socket, told to open one, or forced into another status. -/

namespace ServiceLink

namespace Client

variable {timeout : Nat} {c c' : Client} {d : Deed} {log : List Deed}

/-! ### What may still happen -/

/-- An action that opens a socket, starts the link or sets its status. -/
def Action.Revives : Action → Prop
  | .openSocket | .start | .moveTo _ => True
  | _ => False

namespace Deed

def Revives (d : Deed) : Prop := ∃ a ∈ d.action?, a.Revives

/-- What a deed may mean for calls that were sent before: its messages come, a sweep is made, or holders of
responses look for them or give them up. -/
def Brings (d : Deed) : Calls.Event → Prop
  | .message m => m ∈ d.messages
  | .sweep time => d = .swept time
  | .looked _ | .forgotten _ => True
  | _ => False

end Deed

/-! ### One deed -/

theorem idles_takeOutcome (h : c.link.IsCut) (ticket : Ticket) :
    c.link.Idles d.Brings (c.takeOutcome ticket).2.link :=
  h.idles_calls (e := .looked ticket) trivial (.looked ticket)

theorem idles_forget (h : c.link.IsCut) (ticket : Ticket) : c.link.Idles d.Brings (c.forget ticket).link :=
  h.idles_calls (e := .forgotten ticket) trivial (.forgotten ticket)

theorem idles_abortDiscovery (h : c.link.IsCut) : c.link.Idles d.Brings c.abortDiscovery.link := by
  unfold abortDiscovery
  split
  · exact idles_forget h _
  · exact h.refl
  · exact h.refl

theorem idles_handleDisconnected (h : c.link.IsCut) : c.link.Idles d.Brings c.handleDisconnected.link := by
  have haborted := idles_abortDiscovery (d := d) h
  exact haborted.trans (haborted.cut.idles_rewired (rewired_handleDisconnected c))

theorem idles_handleStatus (h : c.link.IsCut) (s : Status) : c.link.Idles d.Brings (c.handleStatus s).link := by
  cases s with
  | connected => exact idles_abortDiscovery h
  | notConnected => exact idles_handleDisconnected h
  | _ => exact h.refl

theorem idles_abandoned (h : c.link.IsCut) (tag : String) (jobs : List (String × Job)) :
    c.link.Idles d.Brings (jobs.foldl (fun c job => (c.abandon job.2).addResult tag .cancelled) c).link := by
  induction jobs generalizing c with
  | nil => exact h.refl
  | cons job jobs ih =>
    have habandoned : c.link.Idles d.Brings ((c.abandon job.2).addResult tag .cancelled).link := by
      cases job.2 with
      | subscribe => exact h.refl
      | describe => exact h.refl
      | acknowledgement service generation ticket => exact idles_forget h ticket
      | description ticket => exact idles_forget h ticket
    exact habandoned.trans (ih habandoned.cut)

theorem link_call (h : c.link.IsCut) (service method : String) (params : Option Json) :
    (c.call service method params).2.link = c.link := by
  unfold Client.call
  split
  · rfl
  · exact congrArg Prod.snd (h.call c.now _ params)

theorem idles_unsubscribe (h : c.link.IsCut) (service : String) :
    c.link.Idles d.Brings (c.unsubscribe service).link := by
  unfold unsubscribe
  split
  · exact h.refl
  · rename_i e _
    have hunbound : c.link.Idles d.Brings (e.unbind c.hub.link) := h.idles_rewired (e.rewired_unbind _)
    dsimp only
    split
    · show c.link.Idles _ ((e.unbind c.hub.link).notify (e.path ++ unsubscribeMethod) none).2
      rw [hunbound.cut.notify]
      exact hunbound
    · exact hunbound

theorem idles_linked {a : Action} {l : Link.Action Handler} (h : c.link.IsCut) (hlinks : a.Links c l)
    (hrevives : ¬ a.Revives) : c.link.Idles d.Brings (c.link.act c.now l).2 := by
  have hsame : ∀ {link}, link = c.link → c.link.Idles d.Brings link := by
    rintro _ rfl
    exact h.refl
  cases hlinks with
  | deafen => exact h.idles_deafen
  | stop => exact hsame h.stop
  | call service method params target => exact hsame (congrArg Prod.snd (h.call c.now target params))
  | notify service method params target => exact hsame (congrArg Prod.snd (h.notify target params))
  | batch calls entries => exact hsame (h.batch c.now entries)
  | listen method => exact h.idles_rewired (Link.rewired_listen _ _ _)
  | unlisten => exact h.idles_rewired (Link.rewired_unlisten _ _)
  | moveTo s => exact absurd trivial hrevives
  | start => exact absurd trivial hrevives

theorem Acts.idles {a : Action} {broken : List Waiting} (hacts : Acts c a c') (h : c.link.IsCut)
    (hrevives : ¬ a.Revives) : c.link.Idles (Deed.acted a broken).Brings c'.link := by
  cases hacts with
  | aside => exact h.refl
  | linked hlinks => exact idles_linked h hlinks hrevives
  | take ticket => exact idles_takeOutcome h ticket
  | forget ticket => exact idles_forget h ticket
  | cancel tag => exact idles_abandoned (c := { c with jobs := c.jobs.filter (·.1 ≠ tag) }) h tag _
  | letGo tag =>
    unfold dropHeld
    split <;> exact h.refl
  | unsubscribe service => exact idles_unsubscribe h service
  | openSocket => exact absurd trivial hrevives
  | frame text =>
    have hhandled : c.link.Idles (Deed.acted (.frame text) broken).Brings (c.link.handleFrame text) :=
      h.idles_handleFrame text fun m hm => hm
    exact hhandled.trans hhandled.cut.idles_delivered
  | connected => exact idles_abortDiscovery h
  | disconnected => exact idles_handleDisconnected h
  | shutdown =>
    have hunhosted : c.unhosted.link = c.link := by
      show c.link.stop.shutdown = c.link
      rw [h.stop, h.shutdown]
    exact hunhosted ▸ idles_handleDisconnected (hunhosted ▸ h)

theorem Opening.link_of_isCut {service : String} {requested : List String}
    {result : Except SubscriptionError (Nat × Ticket)} (h : Opening c service requested result c')
    (hcut : c.link.IsCut) : c'.link = c.link := by
  cases h with
  | unknown => rfl
  | already => rfl
  | @unsent d cause link _ _ hcall => exact congrArg Prod.snd (hcall.symm.trans (hcut.call _ _ _))
  | @asked d receipt link _ _ hcall => cases hcall.symm.trans (hcut.call _ _ _)

theorem Continuing.idles {service : String} {generation : Nat} {ticket : Ticket}
    {result : Option (Except SubscriptionError SubscriptionInfo)}
    (h : Continuing c service generation ticket result c') (hcut : c.link.IsCut) :
    c.link.Idles d.Brings c'.link := by
  have htaken := idles_takeOutcome (d := d) hcut ticket
  cases h with
  | closed => exact htaken.trans (idles_forget htaken.cut ticket)
  | established => exact htaken.trans (htaken.cut.idles_rewired (Hub.rewired_establish _ _ _ _))
  | _ => exact htaken

theorem link_failDiscovery (c : Client) (cause : SubscriptionError) :
    (c.failDiscovery cause).link = c.link := by
  obtain ⟨services, hclient⟩ := failDiscovery_client c cause
  rw [hclient]
  rfl

theorem link_follow (c : Client) (stream : Nat) : (c.follow stream).link = c.link := by
  obtain ⟨discovery, hclient, -⟩ := follow_client c stream
  rw [hclient]
  rfl

theorem link_learn (h : c.link.IsCut) (info : SubscriptionInfo) : (c.learn info).link = c.link := by
  obtain ⟨registry, link, hclient, -, -, hlink⟩ := learn_client c info
  rw [hclient]
  rcases hlink with rfl | ⟨rfl, -⟩
  · rfl
  · exact h.markReady

theorem Turn.idles {result : Option (Except SubscriptionError SubscriptionInfo)} (h : Turn c result c')
    (hcut : c.link.IsCut) : c.link.Idles d.Brings c'.link := by
  cases h with
  | idle => exact hcut.refl
  | asked _ hopening => exact (hopening.link_of_isCut hcut).symm ▸ hcut.refl
  | @refused cause c₁ _ hopening =>
    rw [link_failDiscovery, hopening.link_of_isCut hcut]
    exact hcut.refl
  | waits _ hcontinuing => exact hcontinuing.idles hcut
  | @failed _ _ cause c₁ _ hcontinuing =>
    rw [link_failDiscovery]
    exact hcontinuing.idles hcut
  | @learnt _ _ info c₁ _ hcontinuing =>
    have hcontinued := hcontinuing.idles (d := d) hcut
    rw [link_follow]
    exact (link_learn hcontinued.cut info).symm ▸ hcontinued
  | @followed stream =>
    rw [link_follow]
    exact hcut.refl

theorem idles_worked (h : c.link.IsCut) (job : Job) : c.link.Idles d.Brings (c.worked job).link := by
  cases job with
  | subscribe service requested =>
    exact ((beginSubscription_opening c service requested).link_of_isCut h).symm ▸ h.refl
  | acknowledgement service generation ticket =>
    exact (continueSubscription_continuing c service generation ticket).idles h
  | describe service => exact (link_call h ServiceList.discoveryName describeMethod _).symm ▸ h.refl
  | description ticket => exact idles_takeOutcome h ticket

/-- No monitor runs, and the link is cut off from its socket. -/
structure IsShut (c : Client) : Prop where
  monitor : c.monitor = none
  cut : c.link.IsCut

theorem Does.idles (h : Does c d c') (hshut : c.IsShut) (hrevives : ¬ d.Revives) :
    c'.IsShut ∧ c.link.Idles d.Brings c'.link := by
  have hcut := hshut.cut
  have hthen (hmonitor : c'.monitor = none) (hidles : c.link.Idles d.Brings c'.link) :
      c'.IsShut ∧ c.link.Idles d.Brings c'.link := ⟨⟨hmonitor, hidles.cut⟩, hidles⟩
  cases h with
  | @acted a ha =>
    refine hthen (Option.eq_none_iff_forall_not_mem.2 fun m hm => ?_)
      ((act_acts c ha).idles hcut fun hrevives' => hrevives ⟨a, rfl, hrevives'⟩)
    rcases monitor_act c ha hm with hbefore | ⟨before, hbefore, -⟩
    · cases hshut.monitor.symm.trans hbefore
    · cases hshut.monitor.symm.trans hbefore
  | advanced ms => exact hthen hshut.monitor hcut.refl
  | told s => exact hthen ((hubOnly_handleStatus c s).monitor.trans hshut.monitor) (idles_handleStatus hcut s)
  | emptied => exact hthen hshut.monitor hcut.idles_emptied
  | polled =>
    have hsame : c.runMonitor = c := by
      unfold runMonitor
      rw [hshut.monitor]
    rw [hsame]
    exact ⟨hshut, hcut.refl⟩
  | discovered =>
    exact hthen ((hubOnly_runDiscovery c).monitor.trans hshut.monitor) ((runDiscovery_turn c).idles hcut)
  | @worked before after tag job =>
    have hworked := runJob_worked (c.withJobs (before ++ after)) tag job
    have hidles := idles_worked (c := c.withJobs (before ++ after)) (d := .worked tag job) hcut job
    rw [← hworked.link] at hidles
    exact hthen (hworked.monitor.trans hshut.monitor) hidles
  | swept time => exact hthen hshut.monitor (hcut.idles_sweepIfDue rfl)
  | timed time => exact hthen hshut.monitor hcut.refl

/-! ### Any number of deeds -/

theorem idles_of_trace (htrace : Trace Does c log c') (hshut : c.IsShut) (hrevives : ∀ d ∈ log, ¬ d.Revives) :
    c'.IsShut ∧ c.link.Idles (fun e => ∃ d ∈ log, d.Brings e) c'.link := by
  induction htrace with
  | start => exact ⟨hshut, hshut.cut.refl⟩
  | @step log x y d _ hdoes ih =>
    rw [List.forall_mem_append, List.forall_mem_singleton] at hrevives
    obtain ⟨hbefore, hidles⟩ := ih hrevives.1
    obtain ⟨hafter, hone⟩ := hdoes.idles hbefore hrevives.2
    refine ⟨hafter, (hidles.mono ?_).trans (hone.mono ?_)⟩
    · exact fun e ⟨d, hd, hbrings⟩ => ⟨d, List.mem_append_left _ hd, hbrings⟩
    · exact fun e hbrings => ⟨d, List.mem_append_right _ (List.mem_singleton_self d), hbrings⟩

/-- How a call that was in flight comes to its outcome without a socket: the server answers it after all, or it
expires. -/
inductive Resolves (timeout : Nat) (call : InFlight) (log : List Deed) : Outcome → Prop
  | answered {m : Rpc.Message} {outcome : Outcome} :
      m ∈ log.flatMap Deed.messages → m.answer? = some (call.id, outcome) → Resolves timeout call log outcome
  | expired {time : Nat} :
      .swept time ∈ log → timeout ≤ time - call.sentAt → Resolves timeout call log (.error .expired)

theorem resolves_of_verdict {call : InFlight} {es : List Calls.Event} {outcome : Outcome}
    (hes : ∀ e ∈ es, ∃ d ∈ log, d.Brings e) (h : Calls.verdict? timeout call es = some outcome) :
    Resolves timeout call log outcome := by
  obtain ⟨e, he, hverdict⟩ := List.exists_of_findSome?_eq_some h
  obtain ⟨d, hd, hbrings⟩ := hes e he
  cases e with
  | message m =>
    obtain ⟨⟨id, answer⟩, hanswer, hid⟩ := Option.bind_eq_some_iff.1 hverdict
    split at hid
    · rename_i heq
      cases hid
      exact .answered (List.mem_flatMap.2 ⟨d, hd, hbrings⟩) (heq ▸ hanswer)
    · cases hid
  | sweep time =>
    simp only [Calls.Event.verdict?] at hverdict
    split at hverdict
    · rename_i hexpired
      cases hverdict
      exact .expired (hbrings ▸ hd) (of_decide_eq_true hexpired)
    · cases hverdict
  | dropped => exact absurd hbrings id
  | sent => cases hverdict
  | unsent => cases hverdict
  | looked => cases hverdict
  | forgotten => cases hverdict

/-- What these deeds make of a client that was shut down. -/
structure StaysShut (c : Client) (log : List Deed) (c' : Client) : Prop where
  /-- It is not connected, it has no socket, and nobody opens one. -/
  shut : c'.IsShut
  /-- No frame was queued. -/
  outbound : c'.link.outbound.Sublist c.link.outbound
  /-- No change of status was told, not even that a socket is being opened. -/
  events : c'.link.events.Sublist c.link.events
  /-- A call stays in flight until it is answered or expires. -/
  inFlight : ∀ call ∈ c.link.calls.inFlight,
    call ∈ c'.link.calls.inFlight ∨ ∃ outcome, Resolves c.link.settings.callTimeout call log outcome
  /-- Its caller finds no other outcome. -/
  outcome : ∀ call ∈ c.link.calls.inFlight, c.link.calls.response call.ticket = .waiting →
    ∀ outcome, c'.link.calls.response call.ticket = .ready outcome →
      Resolves c.link.settings.callTimeout call log outcome

theorem staysShut_of_trace (hsound : c.link.calls.Sound) (hshut : c.IsShut) (htrace : Trace Does c log c')
    (hrevives : ∀ d ∈ log, ¬ d.Revives) : StaysShut c log c' := by
  obtain ⟨hstill, hidles⟩ := idles_of_trace htrace hshut hrevives
  obtain ⟨es, hcallHistory, hes⟩ := hidles.callHistory
  refine ⟨hstill, hidles.outbound, hidles.events, fun call hcall => ?_, fun call hcall hwaiting outcome hready => ?_⟩
  · cases hverdict : Calls.verdict? c.link.settings.callTimeout call es with
    | none => exact .inl ((Calls.History.pursued hcallHistory.history hsound hcall).stays hverdict)
    | some outcome => exact .inr ⟨outcome, resolves_of_verdict hes hverdict⟩
  · rw [(Calls.History.pursued hcallHistory.history hsound hcall).response, hwaiting] at hready
    exact resolves_of_verdict hes (Calls.verdict_of_ready hready)

end Client

/-! ### The end of a stream -/

namespace Scene

variable {timeout : Nat} {s s' : Scene} {mv : Move} {moves : List Move}

def Unended (s : Scene) : Prop := ∀ st ∈ s.hub.streams, .ended ∈ st.events → s.Gone st.id

theorem ended_of_onStream {st : Stream} (h : .ended ∈ (s.onStream mv st).events) : .ended ∈ st.events := by
  unfold onStream at h
  split at h
  · rw [Stream.hear_eq] at h
    split at h
    · rcases List.mem_append.1 h with h | h
      · exact h
      · obtain ⟨push, -, heq⟩ := List.mem_map.1 h
        cases heq
    · exact h
  · split at h
    · cases h
    · exact h
  · split at h
    · cases h
    · exact h
  · exact h

theorem Step.unended (h : Step timeout s mv s') (hk : s.Kept) (hu : s.Unended) : s'.Unended := by
  intro st hst hended
  by_cases hmv : mv = .disconnected
  · subst hmv
    intro service e he
    rw [h.subscription?_of_disconnected] at he
    cases he
  · rw [h.streams hmv] at hst
    rcases List.mem_append.1 hst with hst | hst
    · obtain ⟨before, hbefore, rfl⟩ := List.mem_map.1 hst
      rw [id_onStream]
      exact h.gone (hk.streamed.le before hbefore) (hu before hbefore (ended_of_onStream hended))
    · cases mv with
      | entered =>
        cases List.mem_singleton.1 hst
        cases hended
      | _ => cases hst

theorem unended_of_trace (h : Trace (Step timeout) s moves s') (hk : s.Kept) (hu : s.Unended) :
    s'.Unended := by
  induction h with
  | start => exact hu
  | step htrace hstep ih => exact hstep.unended (kept_of_trace htrace hk) ih

theorem Unended.not_mem (hu : s.Unended) {service : String} {e : Entry} (he : s.subscription? service = some e) :
    .ended ∉ Stream.eventsOf s.hub.streams e.generation := by
  intro hmem
  obtain ⟨st, hst, hended⟩ := List.mem_flatMap.1 hmem
  obtain ⟨hst, hid⟩ := List.mem_filter.1 hst
  exact hu st hst hended service e he (of_decide_eq_true hid).symm

end Scene

namespace Client

variable {timeout : Nat} {c d : Client} {s : Scene}

/-! ### The shutdown -/

theorem statusOnly_unhosted (c : Client) : c.link.StatusOnly c.unhosted.link :=
  (Link.statusOnly_stop _).trans (Link.statusOnly_shutdown _)

theorem Reached.unhosted (h : Reached timeout c) : Reached timeout c.unhosted := by
  have hmoves : Moves timeout c [] [] c.unhosted [] := moves_unhosted c
  refine ⟨h.isTracked.of_jobs hmoves rfl, h.apart.of_sublist (h.isTracked.length_le hmoves) (.refl _), ?_⟩
  obtain ⟨s, hs, hk, ho⟩ := h.owned
  obtain ⟨moves, s', htrace, hs', -⟩ := hmoves s hs
  exact ⟨s', hs', Scene.kept_of_trace htrace hk, Scene.owned_of_trace htrace hk ho⟩

theorem IsSettled.unhosted (h : c.IsSettled) : c.unhosted.IsSettled := by
  have hlink := statusOnly_unhosted c
  have hidle : IsSettled { c with monitor := none, isWatching := false } := ⟨nofun, nofun, h.discovery, h.jobs⟩
  exact hidle.of_hub nofun (fun t _ => congrArg (·.response t) hlink.calls) rfl rfl hlink.listeners

/-- What a client at rest is when it has settled after its shutdown. -/
structure ShutDown (new c d : Client) : Prop where
  shut : d.IsShut
  isWatching : d.isWatching = false
  /-- As after any disconnection: nothing is subscribed to, the services are those of a new client, only callers
  listen, and whoever waited for an acknowledgement was told that its connection closed. -/
  restored : Restored new c d
  /-- Whoever holds the stream of a live subscription finds one end in it, as the last event. -/
  ended : ∀ service e, c.registry.entry? service = some e → e.live ≠ none → c.hub.isHeld e.generation →
    c.discovery.bind Discovery.stream? ≠ some e.generation →
    .ended ∉ Stream.eventsOf c.hub.streams e.generation ∧
      d.streamNews e.generation = (Stream.eventsOf c.hub.streams e.generation ++ [.ended], true)

theorem isShut_shutdown (c : Client) : c.shutdown.IsShut := by
  refine ⟨(hubOnly_handleDisconnected c.unhosted).monitor, ?_⟩
  have hcut : c.unhosted.link.IsCut := Link.isCut_shutdown c.link.stop
  exact (idles_handleDisconnected (d := .emptied) hcut).cut

theorem shutDown_of_reached {new : Client} (hregistry : new.registry = {}) (hdiscovery : new.discovery = none)
    (h : Reached timeout c) (hsettled : c.IsSettled) (hs : Tracks timeout c [] s) (hk : s.Kept) (ho : s.Owned)
    (hu : s.Unended) : ShutDown new c c.shutdown.settle := by
  have hlink := statusOnly_unhosted c
  have hrestored : Restored new c.unhosted c.shutdown.settle :=
    restored hregistry hdiscovery h.unhosted hsettled.unhosted
  obtain ⟨events, responses, hsettle, -⟩ := settle_of_disconnected h.unhosted hsettled.unhosted
  have hsettle : c.shutdown.settle = _ := hsettle
  have hcut := (isShut_shutdown c).cut
  refine ⟨?_, ?_, ?_, fun service e he hlive hheld hreads => ⟨?_, ?_⟩⟩
  · rw [hsettle]
    exact ⟨(isShut_shutdown c).monitor, hcut.status, hcut.writer⟩
  · rw [hsettle]
    exact (hubOnly_handleDisconnected c.unhosted).isWatching
  · refine { hrestored with
      listeners := ?_
      calls := ?_
      responses := fun t ht => ?_ }
    · rw [hrestored.listeners, hlink.listeners]
    · obtain ⟨responses, hcalls⟩ := hrestored.calls
      rw [hlink.calls] at hcalls
      exact ⟨responses, hcalls⟩
    · rw [hrestored.responses t ht, hlink.calls]
  · have hended := hu.not_mem ((hs.subscription_eq service).trans he)
    rwa [hs.hub] at hended
  · have hnews := (tornDown hs hk ho he hlive).shutdown hheld hreads
    rw [hsettle]
    exact hnews

/-- A shutdown is complete and final. It ends the subscriptions and whatever waits for one, and from then on
nothing goes out, no socket is opened and no status is told, whatever callers and the server do; the calls that
are left are answered late or expire. -/
theorem shutdown_final {endpoint : String} {options : Options} {c₀ : Client}
    (hnew : Client.new endpoint options = .ok c₀) (inBackground : Bool) :
    let start := c₀.started inBackground
    (∀ actions, start.Performs actions.flatten (start.bursts actions) ∧
      (actions ≠ [] → (start.bursts actions).IsSettled)) ∧
    ∀ actions c, start.Performs actions c → c.IsSettled →
      ShutDown start c c.shutdown.settle ∧
        ∀ d, d = c.shutdown ∨ d = c.shutdown.settle → ∀ log c', Trace Does d log c' →
          (∀ x ∈ log, ¬ x.Revives) → StaysShut d log c' := by
  intro start
  refine ⟨fun actions => ⟨performs_bursts start actions, isSettled_bursts hnew inBackground⟩, ?_⟩
  rintro actions c ⟨log, hrun, -⟩ hsettled
  obtain ⟨-, -, -, hdiscovery⟩ := started_of_new hnew inBackground
  have hregistry : start.registry = {} := registry_of_new hnew inBackground
  have hreached := (reached_of_new hnew inBackground).trace hrun
  obtain ⟨moves, s, htrace, hs, -⟩ := moves_of_trace hrun _ (tracks_of_new hnew inBackground)
  have hk := Scene.kept_of_trace htrace (Scene.kept_start _)
  have ho := Scene.owned_of_trace htrace (Scene.kept_start _) (Scene.owned_start _)
  have hu := Scene.unended_of_trace htrace (Scene.kept_start _) nofun
  have hshutDown : ShutDown start c c.shutdown.settle :=
    shutDown_of_reached hregistry hdiscovery hreached hsettled hs hk ho hu
  refine ⟨hshutDown, fun d hd log c' htrace hrevives => ?_⟩
  have hreached' : Reached _ c.shutdown := hreached.deed (.acted (a := .shutdown) nofun)
  rcases hd with rfl | rfl
  · exact staysShut_of_trace hreached'.isTracked.sound (isShut_shutdown c) htrace hrevives
  · have hsettled' : Reached _ c.shutdown.settle := hreached'.performs (performs_settle _)
    exact staysShut_of_trace hsettled'.isTracked.sound hshutDown.shut htrace hrevives

open AtOnce in
theorem shutdown_final_level :
    let sooner : List (List Action) :=
      [[.openSocket], [.subscribe "tag" ServiceList.discoveryName ["level"]]]
    let c := (start.started false).bursts (sooner ++ [[.frame text]])
    let d := c.shutdown.settle
    d.streamNews 1 = ([.ended], true) ∧ d.IsShut ∧
      (d.bursts [[.connected], [.advance 5000]]).IsShut ∧
      (d.bursts [[.connected], [.advance 5000]]).link.outbound.Sublist d.link.outbound := by
  intro sooner c d
  have hnew : Client.new "ws://h/" {} = .ok start := rfl
  obtain ⟨hbursts, hruns⟩ := shutdown_final hnew false
  obtain ⟨hrun, hsettled⟩ := hbursts (sooner ++ [[.frame text]])
  obtain ⟨hshutDown, hlater⟩ := hruns _ c hrun (hsettled (by simp))
  obtain ⟨log, htrace, hactions⟩ := performs_bursts d [[.connected], [.advance 5000]]
  have hrevives : ∀ x ∈ log, ¬ x.Revives := by
    rintro x hx ⟨a, ha, hrevived⟩
    have hmem : a ∈ log.filterMap Deed.action? := List.mem_filterMap.2 ⟨x, hx, ha⟩
    rw [hactions] at hmem
    obtain rfl | rfl : a = .connected ∨ a = .advance 5000 := by simpa using hmem
    · exact hrevived
    · exact hrevived
  have hstays := hlater d (.inr rfl) log _ htrace hrevives
  refine ⟨?_, hshutDown.shut, hstays.shut, hstays.outbound⟩
  have hasking : (start.started false).bursts sooner = asking := rfl
  have hc : c = Client.settle { asking with
      hub := { asking.hub with link := [answer, push 2].foldl Link.receive asking.hub.link }.hear } := by
    rw [← handleFrame_text, ← bursts_frame, ← hasking, ← bursts_append]
  obtain ⟨e, he, hlive, hg, hheld, hdiscovery, hevents⟩ : ∃ e,
      c.registry.entry? ServiceList.discoveryName = some e ∧ e.live ≠ none ∧ e.generation = 1 ∧
        c.hub.isHeld 1 ∧ c.discovery = none ∧ Stream.eventsOf c.hub.streams 1 = [] := by
    rw [hc]
    exact ⟨_, rfl, Option.some_ne_none _, rfl, rfl, rfl, rfl⟩
  rw [← hg] at hheld hevents ⊢
  obtain ⟨-, hnews⟩ := hshutDown.ended _ e he hlive hheld (by simp [hdiscovery])
  rw [hnews, hevents]
  rfl

end Client
end ServiceLink
