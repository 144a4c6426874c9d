import ServiceLink.Proofs.Client.Deeds
import ServiceLink.Proofs.Client.Inquiring
import ServiceLink.Proofs.Client.Streaming

/-! What jobs and callers leave as it is. The turn of a job leaves to the others what they wait for, and
nothing that callers or the server do changes the catalog or makes the link ready. -/

namespace ServiceLink

def Registry.catalog (r : Registry) :
    ServiceList × Option (List ReturnFormat) × Option (List SocketProtocol) :=
  (r.services, r.formats, r.protocols)

/-- A subscription with this number stands. -/
def Registry.Stands (r : Registry) (service : String) (generation : Nat) : Prop :=
  ∃ e, r.entry? service = some e ∧ e.generation = generation

theorem Registry.isSome_current? {r : Registry} {service : String} {generation : Nat} :
    (r.current? service generation).isSome ↔ r.Stands service generation := by
  unfold Registry.current? Stands
  cases r.entry? service <;> simp [Option.filter]

theorem Registry.holds_iff {r : Registry} {generation : Nat} :
    r.holds generation ↔ ∃ service, r.Stands service generation := by
  have hvalues : ∀ e, e ∈ r.entries.values ↔ ∃ service, r.entry? service = some e :=
    fun _ => Dict.mem_values
  simp only [holds, List.any_eq_true, hvalues, decide_eq_true_eq, Stands]
  tauto

theorem Registry.entry?_discard_of {r : Registry} {service k : String} {generation : Nat} {e : Entry}
    (he : r.entry? k = some e) (hother : k ≠ service ∨ e.generation ≠ generation) :
    Registry.entry? (r.discard service generation) k = some e := by
  unfold discard
  split
  · rename_i hcurrent
    obtain ⟨f, hf, hg⟩ := isSome_current?.1 hcurrent
    rw [entry?_erase, if_neg]
    · exact he
    · rintro rfl
      cases hf.symm.trans he
      exact hother.elim (absurd rfl) (absurd hg)
  · exact he

namespace Link

variable {κ : Type} {l l' : Link κ} {now : Nat}

/-! ### The status -/

theorem status_moveTo (l : Link κ) (s : Status) : (l.moveTo s).status = s := by
  unfold moveTo
  split
  · assumption
  · rfl

theorem ready_of_start (h : l.start.2.status = .ready) : l.status = .ready := by
  unfold start at h
  split at h
  · exact h
  · dsimp only at h
    split at h
    · cases (status_moveTo l .connecting).symm.trans h
    · cases h
    · cases (status_moveTo _ .notConnected).symm.trans h

theorem ready_of_stop (h : l.stop.status = .ready) : l.status = .ready := by
  unfold stop at h
  split at h
  · dsimp only at h
    cases hsend : (l.moveTo .disconnecting).send? .close with
    | none =>
      rw [hsend] at h
      cases (status_moveTo _ .notConnected).symm.trans h
    | some sent =>
      have hsent : sent.status = (l.moveTo .disconnecting).status := by
        unfold send? at hsend
        split at hsend
        · cases hsend
          rfl
        · cases hsend
      rw [hsend] at h
      cases (hsent.trans (status_moveTo l .disconnecting)).symm.trans h
  · exact h

theorem Monitor.ready_of_act {m : Monitor} {linkIsGone : Bool} (h : (m.act now linkIsGone l).2.status = .ready) :
    l.status = .ready := by
  dsimp only [Monitor.act, Monitor.poll] at h
  split at h
  · split at h
    · exact ready_of_stop h
    · split at h
      · exact ready_of_start h
      · exact h
  · exact h

/-! ### Sending -/

theorem Settles.link {entries : List BatchEntry} {frames : List (Option Receipt) → List OutboundFrame}
    {result : Except LinkError (List (Option Receipt))} (h : l.Settles now entries frames result l') :
    ∃ calls outbound sweep, l' = { l with calls, outbound, sweep } := by
  cases result with
  | ok receipts => exact ⟨_, _, _, h.others⟩
  | error cause => exact ⟨_, _, _, h.1.others⟩

theorem Settles.responses {entries : List BatchEntry}
    {frames : List (Option Receipt) → List OutboundFrame}
    {result : Except LinkError (List (Option Receipt))} (h : l.Settles now entries frames result l') :
    l.calls.responses <+: l'.calls.responses := by
  cases result with
  | ok receipts => exact h.calls.responses ▸ List.prefix_append _ _
  | error cause => exact h.1.calls.responses

end Link

namespace Client

def Job.generation? (job : Job) : Option Nat := job.waiting?.map (·.generation)

/-! ### The turn of a job -/

/-- What the turn of a job leaves as it is: the status, and the entries, responses and streams of others. -/
structure Yields (job : Job) (h h' : Hub) : Prop where
  catalog : h'.registry.catalog = h.registry.catalog
  status : h'.link.status = h.link.status
  events : h'.link.events = h.link.events
  listeners : h.link.listeners ⊆ h'.link.listeners
  response : ∀ t < h.link.calls.responses.length, job.ticket? ≠ some t →
    h'.link.calls.response t = h.link.calls.response t
  entry : ∀ k e, h.registry.entry? k = some e → job.generation? ≠ some e.generation →
    h'.registry.entry? k = some e
  streams : ∃ new, h'.streams = h.streams ++ new ∧
    ∀ st ∈ new, st.isHeld ∧ st.events = [] ∧ h.registry.generation < st.id

section

variable {now : Nat} {job : Job} {h : Hub}

theorem Yields.refl (job : Job) (h : Hub) : Yields job h h :=
  ⟨rfl, rfl, rfl, List.Subset.refl _, fun _ _ _ => rfl, fun _ _ he _ => he, [], by simp, nofun⟩

theorem yields_call (now : Nat) (method : String) (params : Option Json) :
    Yields job h { h with link := (h.link.call now method params).2 } := by
  have hsettles := Link.call_settles h.link now method params
  obtain ⟨calls, outbound, sweep, hlink⟩ := hsettles.link
  have hresponses := hsettles.responses
  refine ⟨rfl, congrArg (·.status) hlink, congrArg (·.events) hlink, ?_,
    fun t ht _ => Calls.response_of_extends hresponses ht, fun _ _ he _ => he, [], by simp, nofun⟩
  rw [hlink]
  exact List.Subset.refl _

theorem yields_take {ticket : Ticket} (hticket : job.ticket? = some ticket) :
    Yields job h { h with link := { h.link with calls := (h.link.calls.take ticket).2 } } := by
  refine ⟨rfl, rfl, rfl, List.Subset.refl _, fun t _ ht => ?_, fun _ _ he _ => he, [], by simp, nofun⟩
  rw [Calls.response_take, if_neg]
  rintro rfl
  exact ht hticket

end

variable {c c' : Client}

theorem catalog_discard (r : Registry) (service : String) (generation : Nat) :
    (r.discard service generation).catalog = r.catalog := by
  unfold Registry.discard
  split <;> rfl

theorem Opening.yields {service : String} {requested : List String}
    {result : Except SubscriptionError (Nat × Ticket)} (h : Opening c service requested result c')
    (job : Job) : Yields job c.hub c'.hub := by
  have hother : ∀ {k e}, c.registry.entry? service = none → c.registry.entry? k = some e →
      service ≠ k := by
    rintro k e hnone he rfl
    cases hnone.symm.trans he
  have hinsert : ∀ {d : ServiceDescriptor} {k e}, c.registry.entry? service = none →
      c.registry.entry? k = some e →
      Registry.entry? (c.registry.insert service d.path requested) k = some e := by
    intro d k e hnone he
    rw [Registry.entry?_insert, if_neg (hother hnone he)]
    exact he
  have hstream : ∀ st ∈ [({ id := c.registry.generation + 1 } : Stream)],
      st.isHeld ∧ st.events = [] ∧ c.registry.generation < st.id := by
    intro st hst
    cases List.mem_singleton.1 hst
    exact ⟨rfl, rfl, Nat.lt_succ_self _⟩
  cases h with
  | unknown => exact .refl _ _
  | already => exact .refl _ _
  | @asked d receipt link _ hnone hcall =>
    have hlink : link = (c.link.call c.now (d.path ++ subscribeMethod) none).2 := by rw [hcall]
    have hcalled : Yields job c.hub _ := yields_call c.now (d.path ++ subscribeMethod) none
    subst hlink
    exact ⟨rfl, hcalled.status, hcalled.events, hcalled.listeners, hcalled.response,
      fun _ _ he _ => hinsert hnone he, _, rfl, hstream⟩
  | @unsent d cause link _ hnone hcall =>
    have hlink : link = (c.link.call c.now (d.path ++ subscribeMethod) none).2 := by rw [hcall]
    have hcalled : Yields job c.hub _ := yields_call c.now (d.path ++ subscribeMethod) none
    subst hlink
    exact ⟨catalog_discard _ _ _, hcalled.status, hcalled.events, hcalled.listeners,
      hcalled.response, fun _ _ he _ =>
        Registry.entry?_discard_of (hinsert hnone he) (.inl (hother hnone he).symm), _, rfl, hstream⟩

theorem Continuing.yields {service : String} {generation : Nat} {ticket : Ticket}
    {result : Option (Except SubscriptionError SubscriptionInfo)}
    (h : Continuing c service generation ticket result c') :
    Yields (.acknowledgement service generation ticket) c.hub c'.hub := by
  have htaken : Yields (.acknowledgement service generation ticket) c.hub
      (c.takeOutcome ticket).2.hub := yields_take rfl
  have hdiscarded : Yields (.acknowledgement service generation ticket) c.hub
      ((c.takeOutcome ticket).2.mapRegistry (·.discard service generation)).hub := by
    refine { htaken with catalog := catalog_discard _ _ _, entry := fun k e he hother => ?_ }
    exact Registry.entry?_discard_of he (.inr fun hg => hother (congrArg some hg.symm))
  cases h with
  | waits => exact htaken
  | closed =>
    refine { htaken with response := fun t ht hother => ?_ }
    have hne : t ≠ ticket := fun heq => hother (congrArg some heq.symm)
    have hforgotten := Calls.response_forget (c.link.calls.take ticket).2 ticket t
    rw [if_neg hne] at hforgotten
    exact hforgotten.trans (htaken.response t ht hother)
  | rejected => exact hdiscarded
  | unversioned => exact hdiscarded
  | late => exact htaken
  | @established ack version e _ _ hcurrent =>
    let taken := (c.takeOutcome ticket).2.hub
    have hrewired := taken.rewired_establish service e (Schema.read ack)
    have hbinds := Feed.binds (Schema.read ack) e.path taken.registry.nextFeed e.generation e.requested
      taken.link
    obtain ⟨hentry, hg⟩ := Registry.entry?_of_current? hcurrent
    refine ⟨rfl, hrewired.others ▸ rfl, hrewired.others ▸ rfl, ?_, fun t ht hother => ?_,
      fun k f hf hother => ?_, [], by simp; rfl, nofun⟩
    · show taken.link.listeners ⊆ _
      rw [show (taken.establish service e (Schema.read ack)).link.listeners = _ from hbinds.listeners]
      exact List.subset_append_left _ _
    · refine Eq.trans ?_ (htaken.response t ht hother)
      exact congrArg (·.response t) hrewired.calls
    · have hthen := Registry.entry?_establish taken.registry taken.link service k e (Schema.read ack)
      rw [if_neg] at hthen
      · exact hthen.trans hf
      · rintro rfl
        cases hentry.symm.trans hf
        exact hother (congrArg some hg.symm)

theorem yields_worked (c : Client) (job : Job) : Yields job c.hub (c.worked job).hub := by
  cases job with
  | subscribe service requested => exact (beginSubscription_opening c service requested).yields _
  | acknowledgement service generation ticket =>
    exact (continueSubscription_continuing c service generation ticket).yields
  | describe service =>
    dsimp only [worked, beginDescription, Client.call]
    split
    · exact .refl _ _
    · exact yields_call c.now _ _
  | description ticket => exact yields_take rfl

/-! ### The turn of the discovery -/

/-- What the discovery does beside the turn of an attempt: it reads its stream, and makes the link ready if
it has learnt a list. -/
structure Learns (result : Option (Except SubscriptionError SubscriptionInfo)) (h h' : Hub) : Prop where
  link : h'.link = h.link ∨ h'.link = h.link.markReady ∧
    ∃ info p, result = some (.ok info) ∧ info.properties.find? listProperty = some p
  streams : h'.streams = h.streams ∨ ∃ stream, h'.streams = Stream.update h.streams stream Stream.drain

theorem Turn.learns {result : Option (Except SubscriptionError SubscriptionInfo)} (h : Turn c result c') :
    ∃ job hub, Yields job c.hub hub ∧ Learns result hub c'.hub := by
  let asking : Job := .subscribe ServiceList.discoveryName [listProperty]
  have hsame : ∀ hub, Learns result hub hub := fun hub => ⟨.inl rfl, .inl rfl⟩
  have hfails : ∀ (c₁ : Client) cause, Learns result c₁.hub (c₁.failDiscovery cause).hub := by
    intro c₁ cause
    obtain ⟨services, hclient⟩ := failDiscovery_client c₁ cause
    rw [hclient]
    exact ⟨.inl rfl, .inl rfl⟩
  cases h with
  | idle => exact ⟨asking, _, .refl _ _, hsame _⟩
  | asked _ hopening => exact ⟨asking, _, hopening.yields asking, hsame _⟩
  | refused _ hopening => exact ⟨asking, _, hopening.yields asking, hfails _ _⟩
  | waits _ hcontinuing => exact ⟨_, _, hcontinuing.yields, hsame _⟩
  | failed _ hcontinuing => exact ⟨_, _, hcontinuing.yields, hfails _ _⟩
  | @learnt _ _ info c₁ _ hcontinuing =>
    obtain ⟨registry, link, hlearn, -, -, hready⟩ := learn_client c₁ info
    obtain ⟨discovery, hfollow, -⟩ :=
      follow_client { c₁.learn info with discovery := some (.following info.stream) } info.stream
    refine ⟨_, _, hcontinuing.yields, ?_, .inr ⟨info.stream, ?_⟩⟩
    · rw [hfollow, hlearn]
      exact hready.imp_right fun ⟨hmarked, p, hlist⟩ => ⟨hmarked, info, p, rfl, hlist⟩
    · rw [hfollow, hlearn]
      rfl
  | @followed stream =>
    obtain ⟨discovery, hfollow, -⟩ := follow_client c stream
    rw [hfollow]
    exact ⟨asking, _, .refl _ _, .inl rfl, .inr ⟨stream, rfl⟩⟩

/-! ### Actions -/

/-- A change that leaves the connection as it is, and every entry but those that end. -/
structure KeepsConnection (ends : String → Prop) (h h' : Hub) : Prop where
  catalog : h'.registry.catalog = h.registry.catalog
  ready : h'.link.status = .ready → h.link.status = .ready
  generation : h'.registry.generation = h.registry.generation
  entry : ∀ k, h'.registry.entry? k = h.registry.entry? k ∨ ends k ∧ h'.registry.entry? k = none
  streams : h'.streams = h.streams

def Action.Ends (a : Action) (service : String) : Prop := a = .unsubscribe service

section

variable {ends : String → Prop} {h : Hub}

theorem KeepsConnection.refl (ends : String → Prop) (h : Hub) : KeepsConnection ends h h :=
  ⟨rfl, id, rfl, fun _ => .inl rfl, rfl⟩

theorem KeepsConnection.trans {h' h'' : Hub} (ha : KeepsConnection ends h h')
    (ha' : KeepsConnection ends h' h'') : KeepsConnection ends h h'' where
  catalog := ha'.catalog.trans ha.catalog
  ready hready := ha.ready (ha'.ready hready)
  generation := ha'.generation.trans ha.generation
  entry k := by
    rcases ha'.entry k with hsame | hgone
    · exact hsame ▸ ha.entry k
    · exact .inr hgone
  streams := ha'.streams.trans ha.streams

theorem KeepsConnection.entry_eq {h' : Hub} (ha : KeepsConnection ends h h') {k : String} (hk : ¬ ends k) :
    h'.registry.entry? k = h.registry.entry? k :=
  (ha.entry k).resolve_right fun hgone => hk hgone.1

theorem keepsConnection_link {link : Link Handler} (hready : link.status = .ready → h.link.status = .ready) :
    KeepsConnection ends h { h with link } :=
  ⟨rfl, hready, rfl, fun _ => .inl rfl, rfl⟩

theorem keepsConnection_calls (calls : Calls) : KeepsConnection ends h { h with link := { h.link with calls } } :=
  keepsConnection_link id

theorem keepsConnection_moveTo {s : Status} (hs : s ≠ .ready) :
    KeepsConnection ends h { h with link := h.link.moveTo s } :=
  keepsConnection_link fun hready => absurd ((Link.status_moveTo _ s).symm.trans hready) hs

theorem status_handleFrame (h : Hub) (text : String) : (h.handleFrame text).link.status = h.link.status := by
  obtain ⟨calls, deliveries, outbound, hlink⟩ := h.link.handleFrame_link text
  exact congrArg (·.status) hlink

end

theorem keepsConnection_unsubscribe (c : Client) (service : String) :
    KeepsConnection (Action.unsubscribe service).Ends c.hub (c.unsubscribe service).hub := by
  unfold unsubscribe
  split
  · exact .refl _ _
  · rename_i e _
    have hclose : KeepsConnection (Action.unsubscribe service).Ends c.hub
        (({ c.hub with registry := c.hub.registry.erase service } : Hub).close e false) := by
      have hl := e.rewired_unbind c.hub.link
      refine ⟨rfl, fun hready => (congrArg (·.status) hl.others).symm.trans hready, rfl, fun k => ?_, rfl⟩
      rw [Hub.close, Registry.entry?_erase]
      by_cases hk : service = k
      · exact .inr ⟨congrArg Action.unsubscribe hk, if_pos hk⟩
      · exact .inl (if_neg hk)
    dsimp only
    split
    · refine hclose.trans (keepsConnection_link fun hready => ?_)
      obtain ⟨calls, outbound, sweep, hlink⟩ :=
        (Link.notify_settles (e.unbind c.hub.link) c.now (e.path ++ unsubscribeMethod) none).link
      exact (congrArg (·.status) hlink).symm.trans hready
    · exact hclose

theorem keepsConnection_linked {a : Action} {l : Link.Action Handler} (h : a.Links c l) (ha : a.IsOrdinary) :
    KeepsConnection a.Ends c.hub { c.hub with link := (c.link.act c.now l).2 } := by
  refine keepsConnection_link fun hready => ?_
  have hsettled : ∀ {entries frames result link}, c.link.Settles c.now entries frames result link →
      link.status = .ready → c.link.status = .ready := by
    intro entries frames result link hsettles hready
    obtain ⟨calls, outbound, sweep, rfl⟩ := hsettles.link
    exact hready
  cases h with
  | deafen => exact hready
  | moveTo s => exact absurd ((Link.status_moveTo _ s).symm.trans hready) ha
  | start => exact Link.ready_of_start hready
  | stop => exact Link.ready_of_stop hready
  | call service method params target => exact hsettled (Link.call_settles _ c.now target params) hready
  | notify service method params target => exact hsettled (Link.notify_settles _ c.now target params) hready
  | batch calls entries => exact hsettled (Link.batch_settles _ c.now entries) hready
  | listen method => exact hready
  | unlisten => exact hready

/-- What an action means for the connection. -/
inductive OnConnection (c : Client) : Action → Client → Prop
  | ordinary {a : Action} {c' : Client} : a.IsOrdinary → KeepsConnection a.Ends c.hub c'.hub →
      c'.discovery = c.discovery → c'.held = c.held → OnConnection c a c'
  /-- A caller sets the status to ready. -/
  | forced : OnConnection c (.moveTo .ready) (c.mapLink (·.moveTo .ready))
  | heard (text : String) : OnConnection c (.frame text) (c.handleFrame text)
  | connected : OnConnection c .connected c.handleConnected
  | disconnected : OnConnection c .disconnected c.handleDisconnected
  | shutdown : OnConnection c .shutdown c.unhosted.handleDisconnected
  | letGo (tag : String) : OnConnection c (.letGo tag) (c.dropHeld tag)

theorem Acts.onConnection {a : Action} (h : Acts c a c') : OnConnection c a c' := by
  cases h with
  | aside _ ha => exact .ordinary ha (.refl _ _) rfl rfl
  | linked hlinks =>
    by_cases ha : a.IsOrdinary
    · exact .ordinary ha (keepsConnection_linked hlinks ha) rfl rfl
    · cases hlinks with
      | moveTo s =>
        cases of_not_not ha
        exact .forced
      | _ => exact absurd trivial ha
  | take ticket => exact .ordinary trivial (keepsConnection_calls _) rfl rfl
  | forget ticket => exact .ordinary trivial (keepsConnection_calls _) rfl rfl
  | cancel tag =>
    obtain ⟨calls, results, hclient⟩ := cancel_client c tag
    rw [hclient]
    exact .ordinary trivial (keepsConnection_calls calls) rfl rfl
  | unsubscribe service =>
    obtain ⟨hub, hclient⟩ := unsubscribe_client c service
    exact .ordinary trivial (keepsConnection_unsubscribe c service) (congrArg (·.discovery) hclient)
      (congrArg (·.held) hclient)
  | openSocket =>
    have hattach : KeepsConnection (Action.Ends .openSocket) c.hub { c.hub with link := c.hub.link.attach } :=
      keepsConnection_link id
    have hconnecting := hattach.trans (keepsConnection_moveTo (s := .connecting) nofun)
    exact .ordinary trivial (hconnecting.trans (keepsConnection_moveTo nofun)) rfl rfl
  | frame text => exact .heard text
  | connected => exact .connected
  | disconnected => exact .disconnected
  | shutdown => exact .shutdown
  | letGo tag => exact .letGo tag

theorem act_onConnection (c : Client) {a : Action} (ha : ∀ ms, a ≠ .advance ms) : OnConnection c a (c.act a).2 :=
  (act_acts c ha).onConnection

end Client
end ServiceLink
