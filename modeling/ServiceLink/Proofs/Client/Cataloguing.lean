import Mathlib.Data.List.Chain
import ServiceLink.Proofs.Client.Discovering
import ServiceLink.Proofs.Client.Following

/-! What is known of the services in the course of a run. A disconnection leaves what every connection starts
from, the discovery of the next connection learns the services, and from then on each push of the list is
taken on. -/

namespace ServiceLink

/-! ### Pushes of the list -/

def Rpc.Message.pushed? (method : String) (m : Rpc.Message) : Option Json :=
  (m.push?.filter (·.method = method)).map Tap.pushedValue

/-- The service list after an acknowledgement and the messages since: the last that was pushed, or else that of the
acknowledgement. -/
def SubscriptionInfo.services (info : SubscriptionInfo) (messages : List Rpc.Message) : ServiceList :=
  match info.properties.find? Client.listProperty with
  | none => .empty
  | some d =>
    let method := ServiceList.discoveryPath ++ d.pushName Client.listProperty
    .read ((messages.filterMap (·.pushed? method)).getLast?.getD d.value)

/-- The change of the list property that a message brings to the discovery. -/
def SubscriptionInfo.changes (info : SubscriptionInfo) (m : Rpc.Message) : List Event :=
  info.schema.news ServiceList.discoveryPath [Client.listProperty] m

namespace Client

variable {timeout : Nat} {c c' : Client} {d : Deed} {log : List Deed}

theorem foldl_listed (services : ServiceList) (values : List Json) :
    (values.map (Event.changed listProperty)).foldl listed services =
      (values.getLast?.map ServiceList.read).getD services := by
  induction values using List.reverseRecOn with
  | nil => rfl
  | append_singleton values value _ =>
    rw [List.map_append, List.foldl_append, List.getLast?_append]
    simp [listed]

theorem changes_of_listed {info : SubscriptionInfo} {p : PropertyDescriptor}
    (h : info.properties.find? listProperty = some p) (m : Rpc.Message) :
    info.changes m = ((m.pushed? (ServiceList.discoveryPath ++ p.pushName listProperty)).toList).map
      (Event.changed listProperty) := by
  have hbound : info.schema.bound [listProperty] = [listProperty] := by
    have hhas : info.schema.hasProperty listProperty = true := Option.isSome_iff_exists.2 ⟨p, h⟩
    simp [Schema.bound, hhas, List.eraseDups_cons]
  have hmethod : info.schema.pushMethod ServiceList.discoveryPath listProperty =
      ServiceList.discoveryPath ++ p.pushName listProperty := by
    have hfind : info.schema.properties.find? listProperty = some p := h
    rw [Schema.pushMethod, hfind]
    rfl
  unfold SubscriptionInfo.changes Schema.news Schema.tidings Rpc.Message.pushed?
  cases hm : m.push? with
  | none => rfl
  | some n =>
    by_cases hn : n.method = ServiceList.discoveryPath ++ p.pushName listProperty
    · simp [hbound, hmethod, hn, Option.filter]
    · simp [hbound, hmethod, hn, Ne.symm hn, Option.filter]

theorem changes_of_unlisted {info : SubscriptionInfo} (h : info.properties.find? listProperty = none)
    (m : Rpc.Message) : info.changes m = [] := by
  have hbound : info.schema.bound [listProperty] = [] := by
    have hhas : info.schema.hasProperty listProperty = false := congrArg Option.isSome h
    simp [Schema.bound, hhas]
  unfold SubscriptionInfo.changes Schema.news Schema.tidings
  rw [hbound]
  simp

theorem foldl_changes (info : SubscriptionInfo) (messages : List Rpc.Message) :
    (messages.flatMap info.changes).foldl listed (info.services []) = info.services messages := by
  unfold SubscriptionInfo.services
  cases h : info.properties.find? listProperty with
  | none =>
    rw [List.flatMap_eq_nil_iff.2 fun m _ => changes_of_unlisted h m]
    rfl
  | some p =>
    have hpushed : messages.flatMap info.changes =
        (messages.filterMap (·.pushed? (ServiceList.discoveryPath ++ p.pushName listProperty))).map
          (Event.changed listProperty) := by
      induction messages with
      | nil => rfl
      | cons m messages ih =>
        rw [List.flatMap_cons, ih, changes_of_listed h, List.filterMap_cons]
        cases m.pushed? (ServiceList.discoveryPath ++ p.pushName listProperty) <;> rfl
    rw [hpushed, foldl_listed]
    dsimp only
    cases (messages.filterMap _).getLast? <;> rfl

/-! ### What a deed does to the catalog -/

/-- The catalog that every connection starts from. -/
def blank : ServiceList × Option (List ReturnFormat) × Option (List SocketProtocol) :=
  (.bootstrap, none, none)

/-- A caller sets the status to ready. -/
def Deed.Forces (d : Deed) : Prop := d.action? = some (.moveTo .ready)

/-- What a deed does to the discovery and the catalog. -/
inductive Bears (c : Client) : Deed → Client → Prop
  | aside {d : Deed} {c' : Client} : (∀ result, d ≠ .discovered result) → d.handled? = none →
      c'.discovery = c.discovery → c'.registry.catalog = c.registry.catalog →
      (¬ d.Forces → c'.link.status = .ready → c.link.status = .ready) → Bears c d c'
  | connected {d : Deed} {c' : Client} : d.handled? = some .connected → c'.discovery = some .subscribe →
      c'.registry.catalog = c.registry.catalog → c'.link.status = c.link.status → Bears c d c'
  | disconnected {d : Deed} {c' : Client} : d.handled? = some .notConnected → c'.discovery = none →
      c'.registry.catalog = blank → (c'.link.status = .ready → c.link.status = .ready) → Bears c d c'
  | discovered {result : Option (Except SubscriptionError SubscriptionInfo)} {c' : Client} :
      Turn c result c' → Bears c (.discovered result) c'

theorem status_abortDiscovery (c : Client) : c.abortDiscovery.link.status = c.link.status := by
  obtain ⟨calls, hlink⟩ := abortDiscovery_link c
  rw [hlink]

theorem status_handleDisconnected (c : Client) : c.handleDisconnected.link.status = c.link.status :=
  (congrArg (·.status) (rewired_handleDisconnected c).others).trans (status_abortDiscovery c)

theorem bears_handleConnected (hhandled : d.handled? = some .connected) : Bears c d c.handleConnected :=
  .connected hhandled rfl (congrArg (·.catalog) (registry_abortDiscovery c)) (status_abortDiscovery c)

theorem bears_handleDisconnected (hhandled : d.handled? = some .notConnected) :
    Bears c d c.handleDisconnected :=
  .disconnected hhandled (discovery_handleDisconnected c)
    (congrArg (·.catalog) (registry_handleDisconnected c)) (status_handleDisconnected c ▸ id)

theorem Does.bears (h : Does c d c') : Bears c d c' := by
  cases h with
  | @acted a ha =>
    have hacts := act_onConnection c ha
    generalize (c.act a).2 = c' at hacts ⊢
    cases hacts with
    | ordinary hordinary hkept hdiscovery =>
      refine .aside nofun ?_ hdiscovery hkept.catalog fun _ => hkept.ready
      cases a with
      | connected => exact absurd hordinary id
      | disconnected => exact absurd hordinary id
      | shutdown => exact absurd hordinary id
      | _ => rfl
    | forced => exact .aside nofun rfl rfl rfl fun hnot => absurd rfl hnot
    | heard text => exact .aside nofun rfl rfl rfl fun _ => (status_handleFrame c.hub text).symm.trans
    | connected => exact bears_handleConnected rfl
    | disconnected => exact bears_handleDisconnected rfl
    | shutdown =>
      refine .disconnected rfl (discovery_handleDisconnected c.unhosted)
        (congrArg (·.catalog) (registry_handleDisconnected c.unhosted)) fun hready => ?_
      have hstopped : c.link.stop.shutdown.status = .ready :=
        (status_handleDisconnected c.unhosted).symm.trans hready
      cases (Link.status_moveTo _ .notConnected).symm.trans hstopped
    | letGo tag =>
      rcases dropHeld_client c tag with hnone | ⟨_, _, held, hsome, -⟩
      · rw [hnone]
        exact .aside nofun rfl rfl rfl fun _ => id
      · rw [hsome]
        exact .aside nofun rfl rfl rfl fun _ => id
  | advanced => exact .aside nofun rfl rfl rfl fun _ => id
  | told s =>
    cases s with
    | connected => exact bears_handleConnected rfl
    | notConnected => exact bears_handleDisconnected rfl
    | _ => exact .aside nofun rfl rfl rfl fun _ => id
  | emptied => exact .aside nofun rfl rfl rfl fun _ => id
  | polled =>
    unfold runMonitor
    split
    · exact .aside nofun rfl rfl rfl fun _ => id
    · exact .aside nofun rfl rfl rfl fun _ => Link.Monitor.ready_of_act
  | discovered => exact .discovered (runDiscovery_turn c)
  | @worked before after tag job hjobs =>
    have hworked := runJob_worked (c.withJobs (before ++ after)) tag job
    have hyields := yields_worked (c.withJobs (before ++ after)) job
    refine .aside nofun rfl hworked.discovery ?_ fun _ hready => ?_
    · exact (congrArg (·.catalog) hworked.registry).trans hyields.catalog
    · exact hyields.status.symm.trans ((congrArg (·.status) hworked.link).symm.trans hready)
  | swept t =>
    have hsame : (c.link.sweepIfDue t).status = c.link.status := by
      unfold Link.sweepIfDue
      split
      · split <;> rfl
      · rfl
    exact .aside nofun rfl rfl rfl fun _ => hsame.symm.trans
  | timed => exact .aside nofun rfl rfl rfl fun _ => id

/-- The discovery asks, or waits for its answer. -/
def IsInquiring (c : Client) : Prop :=
  c.discovery ≠ none ∧ ∀ stream, c.discovery ≠ some (.following stream)

theorem isInquiring_congr (h : c'.discovery = c.discovery) : c'.IsInquiring ↔ c.IsInquiring := by
  unfold IsInquiring
  rw [h]

theorem not_isInquiring_follow {stream : Nat} (h : c.discovery = some (.following stream)) :
    ¬ (c.follow stream).IsInquiring := by
  rintro ⟨hsome, hfollowing⟩
  rcases (c.follow_aside stream).2 with hsame | hnone
  · exact hfollowing stream (hsame.trans h)
  · exact hsome hnone

theorem Turn.isInquiring {result : Option (Except SubscriptionError SubscriptionInfo)}
    (h : Turn c result c') (hi : c'.IsInquiring) : c.IsInquiring ∧ result = none := by
  cases h with
  | idle hd => exact absurd hd hi.1
  | asked hd => exact ⟨⟨hd ▸ nofun, hd ▸ nofun⟩, rfl⟩
  | @refused cause c₁ => exact absurd (c₁.failDiscovery_aside cause).2 hi.1
  | waits hd => exact ⟨⟨hd ▸ nofun, hd ▸ nofun⟩, rfl⟩
  | @failed _ _ cause c₁ => exact absurd (c₁.failDiscovery_aside cause).2 hi.1
  | learnt => exact absurd hi (not_isInquiring_follow rfl)
  | followed hd => exact absurd hi (not_isInquiring_follow hd)

theorem Does.isInquiring (h : Does c d c') (hi : c'.IsInquiring) :
    d.handled? = some .connected ∨
      c.IsInquiring ∧ d.handled? = none ∧ ∀ result, d ≠ .discovered (some result) := by
  cases h.bears with
  | aside hd hhandled hdiscovery =>
    exact .inr ⟨(isInquiring_congr hdiscovery).1 hi, hhandled, fun result => hd (some result)⟩
  | connected hhandled => exact .inl hhandled
  | disconnected _ hnone => exact absurd hnone hi.1
  | discovered hturn =>
    obtain ⟨hbefore, rfl⟩ := hturn.isInquiring hi
    exact .inr ⟨hbefore, rfl, nofun⟩

theorem Turn.inquired {info : SubscriptionInfo} (h : Turn c (some (.ok info)) c') : c.IsInquiring := by
  cases h with
  | learnt hd => exact ⟨hd ▸ nofun, hd ▸ nofun⟩

theorem Turn.ready {result : Option (Except SubscriptionError SubscriptionInfo)} (h : Turn c result c')
    (hready : c'.link.status = .ready) : c.link.status = .ready ∨ c.IsInquiring ∧
      ∃ info p, result = some (.ok info) ∧ info.properties.find? listProperty = some p := by
  obtain ⟨job, hub, hyields, hlearns⟩ := h.learns
  rcases hlearns.link with hsame | ⟨-, info, p, rfl, hlist⟩
  · have hbefore : hub.link.status = .ready := (congrArg (·.status) hsame).symm.trans hready
    exact .inl (hyields.status.symm.trans hbefore)
  · exact .inr ⟨h.inquired, info, p, rfl, hlist⟩

theorem Does.ready (h : Does c d c') (hforced : ¬ d.Forces) (hready : c'.link.status = .ready) :
    c.link.status = .ready ∨ c.IsInquiring ∧
      ∃ info p, d = .discovered (some (.ok info)) ∧ info.properties.find? listProperty = some p := by
  cases h.bears with
  | aside _ _ _ _ hkeeps => exact .inl (hkeeps hforced hready)
  | connected _ _ _ hstatus => exact .inl (hstatus.symm.trans hready)
  | disconnected _ _ _ hkeeps => exact .inl (hkeeps hready)
  | discovered hturn =>
    refine (hturn.ready hready).imp_right fun ⟨hinquiring, info, p, hresult, hlist⟩ => ?_
    exact ⟨hinquiring, info, p, congrArg Deed.discovered hresult, hlist⟩

/-! ### Before the services are known -/

/-- The discovery concludes, but not because its connection closed. -/
def Deed.Concludes (d : Deed) : Prop :=
  ∃ result, d = .discovered (some result) ∧ ∀ service, result ≠ .error (.closed service)

/-- The catalog is that of a new connection, and the subscription of the discovery has not been acknowledged. -/
structure Blank (c : Client) : Prop where
  catalog : c.registry.catalog = blank
  following : ∀ stream, c.discovery ≠ some (.following stream)
  entry : ∀ generation ticket, c.discovery = some (.acknowledgement generation ticket) →
    ∀ e, c.registry.entry? ServiceList.discoveryName = some e → e.generation = generation →
      e.path = ServiceList.discoveryPath ∧ e.requested = [listProperty]

theorem Blank.of_idle (hcatalog : c.registry.catalog = blank) (hnone : c.discovery = none) : c.Blank := by
  refine ⟨hcatalog, ?_, ?_⟩
  · rw [hnone]
    exact nofun
  · rw [hnone]
    exact nofun

theorem Opening.not_closed {service : String} {requested : List String} {cause : SubscriptionError}
    (h : Opening c service requested (.error cause) c') (k : String) : cause ≠ .closed k := by
  cases h <;> exact nofun

theorem Blank.turn {result : Option (Except SubscriptionError SubscriptionInfo)} (h : c.Blank)
    (hturn : Turn c result c') (hopen : ¬ (Deed.discovered result).Concludes) : c'.Blank := by
  let asking : Job := .subscribe ServiceList.discoveryName [listProperty]
  cases hturn with
  | idle => exact h
  | @asked generation ticket c₁ hd hopening =>
    refine ⟨(hopening.yields asking).catalog.trans h.catalog, nofun, ?_⟩
    rintro _ _ ⟨⟩ e he -
    cases hopening with
    | @asked d _ _ hknown =>
      have hpath : d.path = ServiceList.discoveryPath := by
        rw [show c.registry.services = .bootstrap from congrArg Prod.fst h.catalog] at hknown
        cases hknown
        rfl
      have hinserted := (Registry.entry?_insert c.registry ServiceList.discoveryName d.path
        ServiceList.discoveryName [listProperty]).symm.trans he
      rw [if_pos rfl] at hinserted
      cases hinserted
      exact ⟨hpath, rfl⟩
  | refused _ hopening =>
    exact absurd ⟨_, rfl, fun service heq => hopening.not_closed service (Except.error.inj heq)⟩ hopen
  | waits hd hcontinuing =>
    cases hcontinuing
    exact ⟨h.catalog, h.following, h.entry⟩
  | @failed _ _ cause c₁ hd hcontinuing =>
    have hcatalog : c₁.registry.catalog = blank := hcontinuing.yields.catalog.trans h.catalog
    cases cause with
    | closed service => exact .of_idle hcatalog rfl
    | _ => exact absurd ⟨_, rfl, nofun⟩ hopen
  | learnt => exact absurd ⟨_, rfl, nofun⟩ hopen
  | followed hd => exact absurd hd (h.following _)

theorem Blank.deed (h : c.Blank) (htracked : IsTracked timeout c []) (hdoes : Does c d c')
    (hopen : ¬ d.Concludes) : c'.Blank := by
  cases hdoes.bears with
  | aside _ _ hdiscovery hcatalog =>
    refine ⟨hcatalog.trans h.catalog, hdiscovery ▸ h.following, fun generation ticket hd e he hg => ?_⟩
    rw [hdiscovery] at hd
    -- the subscription of the discovery stood before
    obtain ⟨s, hs, -⟩ := htracked.tracked
    obtain ⟨moves, s', htrace, hs', -⟩ := @Does.moves timeout _ _ _ hdoes s hs
    obtain ⟨f, hf, hsame⟩ := Scene.entriesEndure_of_trace htrace ((hs'.subscription_eq _).trans he)
      (hg ▸ hs.generation_le (mem_waiting_of_discovery hd rfl))
    have hbefore := h.entry generation ticket hd f ((hs.subscription_eq _).symm.trans hf)
    rw [hsame] at hg ⊢
    exact hbefore hg
  | connected _ hdiscovery hcatalog =>
    refine ⟨hcatalog.trans h.catalog, ?_, ?_⟩
    · rw [hdiscovery]
      exact nofun
    · rw [hdiscovery]
      exact nofun
  | disconnected _ hnone hcatalog => exact .of_idle hcatalog hnone
  | discovered hturn => exact h.turn hturn hopen

/-! ### The services are learnt -/

theorem services_learn (c : Client) (info : SubscriptionInfo) :
    (c.learn info).registry.services = info.services [] := by
  unfold learn SubscriptionInfo.services
  dsimp only
  cases info.properties.find? listProperty <;> rfl

theorem Keeps.stream (h : c.Keeps) (htracked : IsTracked timeout c []) {generation : Nat} {ticket : Ticket}
    {e : Entry} (hd : c.discovery = some (.acknowledgement generation ticket))
    (hcurrent : c.registry.current? ServiceList.discoveryName generation = some e) :
    ∃ st, c.hub.streams.filter (·.id = e.generation) = [st] ∧ st.isHeld ∧ st.events = [] := by
  obtain ⟨hentry, hg⟩ := Registry.entry?_of_current? hcurrent
  obtain ⟨s, hs, hk⟩ := htracked.tracked
  have hentered : s.subscription? ServiceList.discoveryName = some e := (hs.subscription_eq _).trans hentry
  have hwaits : ⟨ServiceList.discoveryName, generation, ticket⟩ ∈ c.waiting [] :=
    mem_waiting_of_discovery hd rfl
  obtain ⟨st, hst, hempty⟩ := hk.streamed.entry _ e hentered
  rw [hs.hub] at hst
  refine ⟨st, hst, ?_, hempty (hs.pending hwaits hentered hg)⟩
  by_contra hreleased
  have hmem : st ∈ c.hub.streams.filter (·.id = e.generation) := hst ▸ List.mem_singleton_self st
  refine h.released st (List.mem_of_mem_filter hmem) hreleased (.inl ?_)
  rw [hd, Scene.id_of_filter hst, hg]
  rfl

theorem follows_of_learnt (h : c.Blank) (hkeeps : c.Keeps) (htracked : IsTracked timeout c [])
    {info : SubscriptionInfo} (hturn : Turn c (some (.ok info)) c') :
    c'.Follows info.stream info.changes (info.services []) := by
  cases hturn with
  | @learnt generation ticket _ c₁ hd hcontinuing =>
    have hfollows : Follows { c₁.learn info with discovery := some (.following info.stream) } info.stream
        info.changes (info.services []) := by
      obtain ⟨registry, link, hlearn, -⟩ := learn_client c₁ info
      have hstreams : (c₁.learn info).hub.streams = c₁.hub.streams := congrArg (·.hub.streams) hlearn
      have hsame : (c₁.learn info).registry.entry? ServiceList.discoveryName =
          c₁.registry.entry? ServiceList.discoveryName :=
        congrArg (Dict.find? · ServiceList.discoveryName) (sameEntries_learn c₁ info).entries
      refine ⟨rfl, [], Hub.Brings.of_same ?_ hsame hstreams, List.not_mem_nil, services_learn c₁ info⟩
      cases hcontinuing with
      | @established ack version e _ hversion hcurrent =>
        obtain ⟨hentry, rfl⟩ := Registry.entry?_of_current? hcurrent
        obtain ⟨hpath, hrequested⟩ := h.entry _ _ hd e hentry rfl
        obtain ⟨st, hst, hheld, hempty⟩ := hkeeps.stream htracked hd hcurrent
        have hbrings := Hub.brings_establish (h := (c.takeOutcome ticket).2.hub) ServiceList.discoveryName
          (Schema.read ack) hst hheld hempty
        rw [hpath, hrequested] at hbrings
        unfold SubscriptionInfo.changes SubscriptionInfo.schema
        rw [← hversion]
        exact hbrings
    exact hfollows.follow

theorem ended_not_mem_changes (info : SubscriptionInfo) (m : Rpc.Message) : .ended ∉ info.changes m := by
  cases h : info.properties.find? listProperty with
  | none =>
    rw [changes_of_unlisted h]
    exact List.not_mem_nil
  | some p =>
    rw [changes_of_listed h]
    intro hmem
    obtain ⟨value, -, heq⟩ := List.mem_map.1 hmem
    cases heq

theorem follows_of_trace {info : SubscriptionInfo} (htrace : Trace Does c log c')
    (hreached : Reached timeout c) (hkeeps : c.Keeps) (h : c.Follows info.stream info.changes (info.services []))
    (hhandled : ∀ d ∈ log, d.handled? = none) (hends : ∀ d ∈ log, ¬ d.Ends ServiceList.discoveryName) :
    c'.Follows info.stream info.changes (info.services (log.flatMap Deed.messages)) := by
  have hthen : Reached timeout c' ∧ c'.Keeps ∧ c'.Follows info.stream info.changes
      (((log.flatMap Deed.messages).flatMap info.changes).foldl listed (info.services [])) := by
    induction htrace with
    | start => exact ⟨hreached, hkeeps, h⟩
    | @step log x y d _ hdoes ih =>
      rw [List.forall_mem_append] at hhandled hends
      obtain ⟨hreached, hkeeps, hfollows⟩ := ih hhandled.1 hends.1
      refine ⟨hreached.deed hdoes, hkeeps.deed hreached.isTracked hdoes, ?_⟩
      have hnext := hfollows.deed (ended_not_mem_changes info) hreached.isTracked hkeeps hdoes
        (hhandled.2 d (List.mem_singleton_self d)) (hends.2 d (List.mem_singleton_self d))
      rwa [List.flatMap_append, List.flatMap_singleton, List.flatMap_append, List.foldl_append]
  rw [← foldl_changes]
  exact hthen.2.2

/-! ### Runs -/

/-- Two handled connections have a disconnection between them, and no caller sets the status to ready. -/
structure InOrder (log : List Deed) : Prop where
  handled : (log.filterMap Deed.handled?).IsChain fun s s' => s = .connected → s' = .notConnected
  unforced : ∀ d ∈ log, ¬ d.Forces

theorem InOrder.left {more : List Deed} (h : InOrder (log ++ more)) : InOrder log := by
  refine ⟨?_, fun d hd => h.unforced d (List.mem_append_left _ hd)⟩
  have hchain := h.handled
  rw [List.filterMap_append] at hchain
  exact hchain.left_of_append

/-- The change of connection that was handled last. -/
def last? (log : List Deed) : Option Status := (log.filterMap Deed.handled?).getLast?

theorem last?_append_of_none (h : d.handled? = none) : last? (log ++ [d]) = last? log := by
  simp [last?, h]

theorem last?_append_of_some {s : Status} (h : d.handled? = some s) : last? (log ++ [d]) = some s := by
  simp [last?, h]

theorem InOrder.handled_eq_none {more : List Deed} (h : InOrder (log ++ more))
    (hlast : last? log = some .connected) (hmore : ∀ d ∈ more, d.handled? ≠ some .notConnected) :
    ∀ d ∈ more, d.handled? = none := by
  have hchain := h.handled
  rw [List.filterMap_append, List.isChain_append] at hchain
  have hnone : more.filterMap Deed.handled? = [] := by
    cases hs : more.filterMap Deed.handled? with
    | nil => rfl
    | cons s rest =>
      have hgone : s = .notConnected := hchain.2.2 _ hlast s (by rw [hs]; rfl) rfl
      have hmem : s ∈ more.filterMap Deed.handled? := hs ▸ List.mem_cons_self
      obtain ⟨d, hd, hhandled⟩ := List.mem_filterMap.1 hmem
      exact absurd (hgone ▸ hhandled) (hmore d hd)
  exact List.filterMap_eq_nil_iff.1 hnone

theorem InOrder.last?_ne_connected (h : InOrder (log ++ [d])) (hhandled : d.handled? = some .connected) :
    last? log ≠ some .connected := by
  intro hlast
  have hmore : ∀ x ∈ [d], x.handled? ≠ some .notConnected := by
    rw [List.forall_mem_singleton, hhandled]
    exact nofun
  cases (h.handled_eq_none hlast hmore d (List.mem_singleton_self d)).symm.trans hhandled

/-- The discovery of the connection that was handled last has not concluded yet. -/
def Inquires (log : List Deed) : Prop :=
  ∃ before d between, log = before ++ d :: between ∧ d.handled? = some .connected ∧
    ∀ x ∈ between, x.handled? = none ∧ ∀ result, x ≠ .discovered (some result)

theorem Inquires.append (h : Inquires log) (hhandled : d.handled? = none)
    (hopen : ∀ result, d ≠ .discovered (some result)) : Inquires (log ++ [d]) := by
  obtain ⟨before, first, between, rfl, hfirst, hbetween⟩ := h
  refine ⟨before, first, between ++ [d], by simp, hfirst, ?_⟩
  rw [List.forall_mem_append]
  refine ⟨hbetween, fun x hx => ?_⟩
  cases List.mem_singleton.1 hx
  exact ⟨hhandled, hopen⟩

theorem Inquires.last? (h : Inquires log) : last? log = some .connected := by
  obtain ⟨before, first, between, rfl, hfirst, hbetween⟩ := h
  have hnone : between.filterMap Deed.handled? = [] :=
    List.filterMap_eq_nil_iff.2 fun x hx => (hbetween x hx).1
  simp [Client.last?, hfirst, hnone]

/-- What is known of the services in the course of a run. -/
structure Charted (timeout : Nat) (log : List Deed) (c : Client) : Prop where
  reached : Reached timeout c
  keeps : c.Keeps
  /-- Without a connection there is no discovery, and the catalog is that of a new one. -/
  idle : last? log ≠ some .connected → c.discovery = none ∧ c.Blank
  /-- Until the discovery has concluded the catalog stays so. -/
  inquiring : c.IsInquiring → Inquires log ∧ c.Blank

theorem Charted.deed (h : Charted timeout log c) (hinOrder : InOrder (log ++ [d])) (hdoes : Does c d c') :
    Charted timeout (log ++ [d]) c' := by
  have htracked := h.reached.isTracked
  refine ⟨h.reached.deed hdoes, h.keeps.deed htracked hdoes, fun hlast => ?_, fun hi => ?_⟩
  · cases hdoes.bears with
    | aside hd hhandled hdiscovery =>
      rw [last?_append_of_none hhandled] at hlast
      obtain ⟨hnone, hblank⟩ := h.idle hlast
      refine ⟨hdiscovery.trans hnone, hblank.deed htracked hdoes ?_⟩
      exact fun ⟨result, heq, _⟩ => hd _ heq
    | connected hhandled => exact absurd (last?_append_of_some hhandled) hlast
    | disconnected _ hnone hcatalog => exact ⟨hnone, .of_idle hcatalog hnone⟩
    | discovered hturn =>
      rw [last?_append_of_none rfl] at hlast
      obtain ⟨hnone, hblank⟩ := h.idle hlast
      obtain ⟨-, rfl⟩ := hturn.of_none hnone
      exact ⟨hnone, hblank⟩
  · rcases hdoes.isInquiring hi with hhandled | ⟨hbefore, hhandled, hopen⟩
    · refine ⟨⟨log, d, [], rfl, hhandled, nofun⟩, ?_⟩
      refine (h.idle (hinOrder.last?_ne_connected hhandled)).2.deed htracked hdoes ?_
      rintro ⟨result, rfl, -⟩
      cases hhandled
    · obtain ⟨hinquires, hblank⟩ := h.inquiring hbefore
      refine ⟨hinquires.append hhandled hopen, hblank.deed htracked hdoes ?_⟩
      exact fun ⟨result, heq, _⟩ => hopen result heq

theorem charted_of_trace {start : Client} (h : Charted timeout [] start) (htrace : Trace Does start log c)
    (hinOrder : InOrder log) : Charted timeout log c := by
  induction htrace with
  | start => exact h
  | step _ hdoes ih => exact (ih hinOrder.left).deed hinOrder hdoes

theorem charted_of_new {endpoint : String} {options : Options} (hnew : Client.new endpoint options = .ok c)
    (inBackground : Bool) :
    Charted (options.linkSettings endpoint).callTimeout [] (c.started inBackground) := by
  obtain ⟨-, -, -, hdiscovery⟩ := started_of_new hnew inBackground
  refine ⟨reached_of_new hnew inBackground, keeps_of_new hnew inBackground, fun _ => ⟨hdiscovery, ?_⟩,
    fun hi => absurd hdiscovery hi.1⟩
  refine .of_idle ?_ hdiscovery
  rw [registry_of_new hnew inBackground]
  rfl

theorem empty_of_failed {cause : SubscriptionError} (hturn : Turn c (some (.error cause)) c')
    (hopen : ∀ service, cause ≠ .closed service) :
    c'.registry.services = .empty ∧ c'.discovery = none := by
  have hfail : ∀ c : Client, (c.failDiscovery cause).registry.services = .empty ∧
      (c.failDiscovery cause).discovery = none := by
    intro c
    cases cause with
    | closed service => exact absurd rfl (hopen service)
    | _ => exact ⟨rfl, rfl⟩
  cases hturn with
  | refused => exact hfail _
  | failed => exact hfail _

theorem empty_of_trace (htrace : Trace Does c log c')
    (h : c.registry.services = .empty ∧ c.discovery = none) (hhandled : ∀ d ∈ log, d.handled? = none) :
    c'.registry.services = .empty ∧ c'.discovery = none := by
  induction htrace with
  | start => exact h
  | @step log x y d _ hdoes ih =>
    rw [List.forall_mem_append] at hhandled
    obtain ⟨hservices, hnone⟩ := ih hhandled.1
    have hunhandled := hhandled.2 d (List.mem_singleton_self d)
    cases hdoes.bears with
    | aside _ _ hdiscovery hcatalog =>
      exact ⟨(congrArg Prod.fst hcatalog).trans hservices, hdiscovery.trans hnone⟩
    | connected hsome => cases hunhandled.symm.trans hsome
    | disconnected hsome => cases hunhandled.symm.trans hsome
    | discovered hturn =>
      obtain ⟨-, rfl⟩ := hturn.of_none hnone
      exact ⟨hservices, hnone⟩

theorem not_isInquiring_of_trace (htrace : Trace Does c log c') (h : ¬ c.IsInquiring)
    (hhandled : ∀ d ∈ log, d.handled? = none) : ¬ c'.IsInquiring := by
  induction htrace with
  | start => exact h
  | @step log x y d _ hdoes ih =>
    rw [List.forall_mem_append] at hhandled
    intro hi
    rcases hdoes.isInquiring hi with hsome | ⟨hbefore, -⟩
    · cases (hhandled.2 d (List.mem_singleton_self d)).symm.trans hsome
    · exact ih hhandled.1 hbefore

theorem blank_of_trace (htrace : Trace Does c log c') (htracked : IsTracked timeout c []) (h : c.Blank)
    (hopen : ∀ d ∈ log, ¬ d.Concludes) : c'.Blank := by
  have hthen : IsTracked timeout c' [] ∧ c'.Blank := by
    induction htrace with
    | start => exact ⟨htracked, h⟩
    | @step log x y d _ hdoes ih =>
      rw [List.forall_mem_append] at hopen
      obtain ⟨htracked, hblank⟩ := ih hopen.1
      exact ⟨hdoes.isTracked htracked, hblank.deed htracked hdoes (hopen.2 d (List.mem_singleton_self d))⟩
  exact hthen.2

/-- The service list after a run, and when the link becomes ready. -/
structure Catalogued (log : List Deed) (c : Client) : Prop where
  /-- The link becomes ready only when the discovery of the current connection concludes with a list. -/
  ready : ∀ d c', Does c d c' → ¬ d.Forces → c.link.status ≠ .ready → c'.link.status = .ready →
    Inquires log ∧
      ∃ info p, d = .discovered (some (.ok info)) ∧ info.properties.find? listProperty = some p
  /-- From then on the list is the one that was pushed last, or else that of the acknowledgement. -/
  current : ∀ before info after, log = before ++ .discovered (some (.ok info)) :: after →
    (∀ d ∈ after, ¬ d.Ends ServiceList.discoveryName) → c.IsSettled →
      c.registry.services = info.services (after.flatMap Deed.messages)
  /-- A discovery that fails leaves the list empty. -/
  failed : ∀ before cause after, log = before ++ .discovered (some (.error cause)) :: after →
    (∀ service, cause ≠ .closed service) → (∀ d ∈ after, d.handled? = none) →
      c.registry.services = .empty
  /-- A discovery that has concluded does not make the link ready again. -/
  concluded : ∀ before result after, log = before ++ .discovered (some result) :: after →
    (∀ d ∈ after, d.handled? = none) → ∀ d c', Does c d c' → ¬ d.Forces → c'.link.status = .ready →
      c.link.status = .ready
  /-- After a disconnection the catalog is that of a new connection until a discovery has concluded. -/
  blank : ∀ before d after, log = before ++ d :: after → d.handled? = some .notConnected →
    (∀ x ∈ after, ¬ x.Concludes) → c.registry.catalog = blank

theorem catalogued_of_trace {start : Client} (hstart : Charted timeout [] start)
    (htrace : Trace Does start log c) (hinOrder : InOrder log) : Catalogued log c where
  ready d c' hdoes hforced hnot hready := by
    rcases hdoes.ready hforced hready with hbefore | ⟨hinquiring, hlisted⟩
    · exact absurd hbefore hnot
    · have hcharted := charted_of_trace hstart htrace hinOrder
      exact ⟨(hcharted.inquiring hinquiring).1, hlisted⟩
  current := by
    rintro before info after rfl hends hsettled
    obtain ⟨b, b', hbefore, hdoes, hafter⟩ := htrace.at_middle
    have hb := charted_of_trace hstart hbefore hinOrder.left
    obtain ⟨hinquires, hblank⟩ := hb.inquiring hdoes.turn.inquired
    have hlast : last? (before ++ [.discovered (some (.ok info))]) = some .connected :=
      (last?_append_of_none rfl).trans hinquires.last?
    rw [List.append_cons] at hinOrder
    have hhandled := hinOrder.handled_eq_none hlast fun d hd hsome => hends d hd (.inr hsome)
    have hfollows := follows_of_learnt hblank hb.keeps hb.reached.isTracked hdoes.turn
    have hthen := follows_of_trace hafter (hb.reached.deed hdoes) (hb.keeps.deed hb.reached.isTracked hdoes)
      hfollows hhandled hends
    exact hthen.services_eq hsettled
  failed := by
    rintro before cause after rfl hopen hhandled
    obtain ⟨b, b', -, hdoes, hafter⟩ := htrace.at_middle
    exact (empty_of_trace hafter (empty_of_failed hdoes.turn hopen) hhandled).1
  concluded := by
    rintro before result after rfl hhandled d c' hdoes hforced hready
    obtain ⟨b, b', -, hconcludes, hafter⟩ := htrace.at_middle
    have hover : ¬ b'.IsInquiring := by
      intro hi
      rcases hconcludes.isInquiring hi with hsome | ⟨-, -, hnot⟩
      · cases hsome
      · exact hnot result rfl
    rcases hdoes.ready hforced hready with hbefore | ⟨hinquiring, -⟩
    · exact hbefore
    · exact absurd hinquiring (not_isInquiring_of_trace hafter hover hhandled)
  blank := by
    rintro before d after rfl hhandled hopen
    obtain ⟨b, b', hbefore, hdoes, hafter⟩ := htrace.at_middle
    have hb := charted_of_trace hstart hbefore hinOrder.left
    cases hdoes.bears with
    | aside _ hnone => cases hnone.symm.trans hhandled
    | connected hconnected => cases hconnected.symm.trans hhandled
    | disconnected _ hnone hcatalog =>
      exact (blank_of_trace hafter (hdoes.isTracked hb.reached.isTracked) (.of_idle hcatalog hnone) hopen).catalog
    | discovered => cases hhandled

/-! ### A list that is pushed -/

namespace Asking

def asked : Client := (opened.act .connected).2.runDiscovery

def answered : Client :=
  { asked with
    hub := { asked.hub with link := asked.hub.link.receive (.response (some 1) ack) }.hear }

def info : SubscriptionInfo where
  service := ServiceList.discoveryName
  version := "1"
  methods := (Schema.read ack).methods
  properties := (Schema.read ack).properties
  stream := 1

def known : Client := answered.runDiscovery

def lights : Json := .object [("lights", .object [("name", .text "Lights"), ("path", .text "/l/")])]

def push : Rpc.Message := .notification ⟨"/services/serviceList", some lights⟩

def pushText : String :=
  Json.render <| .object [("jsonrpc", .text "2.0"), ("method", .text "/services/serviceList"),
    ("params", lights)]

theorem read_pushText : Rpc.Frame.read pushText = .single push :=
  (Rpc.conveys_notification (Asking.reads_listing _ _ _)).read

def pushed : Client :=
  { known with hub := { known.hub with link := known.hub.link.receive push }.hear }

def toAnswer : List Deed := [.acted .connected [], .discovered none, .acted (.frame text) []]

def toPush : List Deed := [.acted (.frame pushText) [], .discovered none]

/-- The answer and a push of another list, each followed by a turn of the discovery. -/
def course : List Deed :=
  .acted .openSocket [] :: toAnswer ++ .discovered (some (.ok info)) :: toPush

theorem trace_course : Trace Does (AtOnce.start.started false) course pushed.runDiscovery := by
  have hopened : Trace Does (AtOnce.start.started false) [.acted .openSocket []] opened :=
    .one (.acted nofun)
  have hasked : Trace Does opened [.acted .connected [], .discovered none] asked :=
    (Trace.one (.acted nofun)).step .discovered
  have hanswered : Trace Does opened toAnswer answered := by
    have hframe : (asked.act (.frame text)).2 = answered := handleFrame_of_read read_text rfl asked
    exact hframe ▸ hasked.step (.acted nofun)
  have hpushed : Trace Does known toPush pushed.runDiscovery := by
    have hframe : (known.act (.frame pushText)).2 = pushed := handleFrame_of_read read_pushText rfl known
    have htold : Does known (.acted (.frame pushText) []) pushed := hframe ▸ .acted nofun
    exact (Trace.one htold).step .discovered
  exact (hopened.append hanswered).append ((Trace.one .discovered).append hpushed)

end Asking

/-- The service list follows the server: before the discovery of a connection concludes it is that of a new
connection, the link becomes ready only when the discovery concludes with a list, and from then on every pushed list
replaces it. -/
theorem catalog_tracks_server {endpoint : String} {options : Options} {c₀ : Client}
    (hnew : Client.new endpoint options = .ok c₀) (inBackground : Bool) :
    let start := c₀.started inBackground
    (∀ actions, start.Performs actions.flatten (start.bursts actions) ∧
      (actions ≠ [] → (start.bursts actions).IsSettled)) ∧
    ∀ log c, Trace Does start log c → InOrder log → Catalogued log c := by
  intro start
  refine ⟨fun actions => ⟨performs_bursts start actions, isSettled_bursts hnew inBackground⟩, ?_⟩
  exact fun log c => catalogued_of_trace (charted_of_new hnew inBackground)

open Asking in
theorem catalog_tracks_server_pushed :
    let c := pushed.runDiscovery
    Trace Does (AtOnce.start.started false) course c ∧ InOrder course ∧ c.IsSettled ∧
      asked.registry.services = .bootstrap ∧ known.registry.services = .read list ∧
        known.link.status = .ready ∧ c.registry.services = .read lights := by
  intro c
  have hnew : Client.new "ws://h/" {} = .ok AtOnce.start := rfl
  have hinOrder : InOrder course := by
    refine ⟨List.IsChain.singleton Status.connected, ?_⟩
    simp [course, toAnswer, toPush, Deed.Forces, Deed.action?]
  have hsettled : c.IsSettled := by
    refine ⟨nofun, nofun, fun d hd => ?_, nofun⟩
    cases hd
    rfl
  have hends : ∀ d ∈ toPush, ¬ d.Ends ServiceList.discoveryName := by
    simp [toPush, Deed.Ends, Deed.action?, Deed.handled?, Action.handled?]
  have hcatalogued : Catalogued course c :=
    (catalog_tracks_server hnew false).2 course c trace_course hinOrder
  have hservices := hcatalogued.current (.acted .openSocket [] :: toAnswer) info toPush rfl hends hsettled
  have hmessages : toPush.flatMap Deed.messages = [push] := by
    simp [toPush, Deed.messages, Deed.action?, Action.messages, read_pushText, Rpc.Frame.messages]
  rw [hmessages] at hservices
  exact ⟨trace_course, hinOrder, hsettled, rfl, rfl, rfl, hservices⟩

end Client
end ServiceLink
