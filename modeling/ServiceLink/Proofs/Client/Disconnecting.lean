import ServiceLink.Proofs.Client.Timing

/-! What a disconnection leaves. The client is as new but for its numbering, whoever waited is told that the
connection closed, and what the server still answers to requests from before comes to nothing. -/

namespace ServiceLink

theorem Calls.hear_of_answer (c : Calls) (m : Rpc.Message) :
    (c.hear m).inFlight ⊆ c.inFlight ∧
      ∀ t, (∀ call ∈ c.inFlight, Link.answers call.id m → call.ticket ≠ t) →
        (c.hear m).response t = c.response t := by
  unfold Calls.hear
  cases hm : m.answer? with
  | none => exact ⟨List.Subset.refl _, fun _ _ => rfl⟩
  | some answer =>
    refine ⟨List.filter_subset_self _, fun t ht => ?_⟩
    refine (Calls.response_finish c _ _ t).trans (if_neg fun hany => ?_)
    obtain ⟨call, hcall, hends⟩ := List.any_eq_true.1 hany
    rw [Bool.and_eq_true, decide_eq_true_eq, decide_eq_true_eq] at hends
    refine ht call hcall ?_ hends.2
    unfold Link.answers
    rw [hm]
    exact decide_eq_true hends.1.symm

namespace Hub

variable {h : Hub}

theorem hearMessage_of_answer (hq : h.link.pushes = []) {m : Rpc.Message} (hm : m.answer? ≠ none) :
    h.hearMessage m = { h with link := { h.link with calls := h.link.calls.hear m } } := by
  have hnone : h.link.echoes m = [] := by
    cases m with
    | notification n => exact absurd rfl hm
    | _ => rfl
  have hreceive := Link.receive_eq h.link m
  rw [hnone, List.append_nil] at hreceive
  unfold hearMessage
  rw [hreceive]
  exact hear_eq_self hq

theorem hearMessages_of_answers (hq : h.link.pushes = []) (messages : List Rpc.Message)
    (hmessages : ∀ m ∈ messages, m.answer? ≠ none) :
    ∃ calls, messages.foldl hearMessage h = { h with link := { h.link with calls } } ∧
      ∀ t, (∀ m ∈ messages, ∀ call ∈ h.link.calls.inFlight, Link.answers call.id m → call.ticket ≠ t) →
        calls.response t = h.link.calls.response t := by
  induction messages generalizing h with
  | nil => exact ⟨h.link.calls, rfl, fun _ _ => rfl⟩
  | cons m messages ih =>
    rw [List.forall_mem_cons] at hmessages
    obtain ⟨hfewer, hsame⟩ := h.link.calls.hear_of_answer m
    obtain ⟨calls, hfold, hcalls⟩ :=
      ih (h := { h with link := { h.link with calls := h.link.calls.hear m } }) hq hmessages.2
    refine ⟨calls, ?_, fun t ht => ?_⟩
    · rw [List.foldl_cons, hearMessage_of_answer hq hmessages.1, hfold]
    · rw [List.forall_mem_cons] at ht
      exact (hcalls t fun m' hm' call hcall => ht.2 m' hm' call (hfewer hcall)).trans (hsame t ht.1)

theorem handleFrame_of_answers (hq : h.link.pushes = []) (text : String)
    (hmessages : ∀ m ∈ (Rpc.Frame.read text).messages, m.answer? ≠ none) :
    ∃ calls outbound, h.handleFrame text = { h with link := { h.link with calls, outbound } } ∧
      ∀ t, (∀ m ∈ (Rpc.Frame.read text).messages, ∀ call ∈ h.link.calls.inFlight,
        Link.answers call.id m → call.ticket ≠ t) → calls.response t = h.link.calls.response t := by
  obtain ⟨calls, hfold, hcalls⟩ := hearMessages_of_answers hq _ hmessages
  obtain ⟨link, hlink, hframe⟩ := handleFrame_eq hq text
  rw [hfold] at hlink hframe
  obtain ⟨received, deliveries, outbound, hreceived⟩ := h.link.handleFrame_link text
  have hshape : ∃ deliveries,
      (h.handleFrame text).link = { h.link with calls := received, deliveries, outbound } := by
    rw [handleFrame, hreceived]
    exact ⟨_, rfl⟩
  rw [hframe] at hshape
  obtain ⟨deliveries, rfl⟩ := hshape
  have hreceived : received = calls := hlink.calls
  have hdeliveries : deliveries = h.link.deliveries := hlink.deliveries
  subst hreceived hdeliveries
  exact ⟨_, outbound, hframe, hcalls⟩

end Hub

namespace Scene

variable {timeout : Nat} {s s' : Scene}

theorem Step.callers_of_disconnected (h : Step timeout s .disconnected s') (hk : s.Kept) (ho : s.Owned) :
    s'.hub.link.listeners = s.hub.link.listeners.filter (·.handler.isCaller) := by
  rw [h.listeners_of_disconnected.1]
  refine List.filter_congr fun x hx => ?_
  cases hh : x.handler with
  | caller =>
    refine List.all_eq_true.2 fun e he => decide_eq_true fun hmem => ?_
    obtain ⟨y, hy, hid⟩ := List.mem_map.1 hmem
    obtain ⟨service, he⟩ := Dict.mem_values.1 he
    rw [← (hk.wired.entry service e he).taps] at hy
    obtain ⟨hy, t, ht, -⟩ := Link.mem_tapsFor.1 hy
    cases Link.eq_of_id hk.wired.ids hy hx hid
    cases hh.symm.trans ht
  | tap t =>
    obtain ⟨service, e, he, -, -, hmem⟩ := ho.live hk.wired hx hh
    refine List.all_eq_false.2 ⟨e, Dict.mem_values.2 ⟨service, he⟩, fun hall => ?_⟩
    exact of_decide_eq_true hall (List.mem_map_of_mem hmem)

end Scene

namespace Client

variable {timeout : Nat} {c c' d : Client}

/-! ### At once -/

theorem listeners_handleDisconnected (h : Reached timeout c) :
    c.handleDisconnected.link.listeners = c.link.listeners.filter (·.handler.isCaller) := by
  obtain ⟨s, hs, hk, ho⟩ := h.owned
  obtain ⟨moves, s₁, htrace, hs₁, -⟩ := @moves_abortDiscovery timeout c [] s hs
  have hstep := @step_handleDisconnected timeout c s₁ hs₁.hub
  have hcallers := hstep.callers_of_disconnected (Scene.kept_of_trace htrace hk)
    (Scene.owned_of_trace htrace hk ho)
  obtain ⟨calls, hlink⟩ := abortDiscovery_link c
  have haborted : s₁.hub.link.listeners = c.link.listeners := by
    rw [hs₁.hub]
    exact congrArg (·.listeners) hlink
  rw [haborted] at hcallers
  exact hcallers

theorem calls_handleDisconnected (c : Client) :
    ∃ responses, c.handleDisconnected.link.calls = { c.link.calls with responses } ∧
      ∀ t, c.discovery.bind Discovery.ticket? ≠ some t →
        c.handleDisconnected.link.calls.response t = c.link.calls.response t := by
  rw [(rewired_handleDisconnected c).calls]
  unfold abortDiscovery
  split
  · rename_i generation ticket hd
    refine ⟨_, rfl, fun t ht => ?_⟩
    refine (Calls.response_forget c.link.calls ticket t).trans (if_neg ?_)
    rintro rfl
    exact ht (by rw [hd]; rfl)
  · exact ⟨_, rfl, fun _ _ => rfl⟩
  · exact ⟨_, rfl, fun _ _ => rfl⟩

theorem handleDisconnected_of_reset (hdiscovery : c.discovery = none)
    (hregistry : c.registry.reset = c.registry) : c.handleDisconnected = c := by
  have habort : c.abortDiscovery = c := by
    unfold abortDiscovery
    rw [hdiscovery]
    dsimp only
    rw [← hdiscovery]
  have hempty : c.registry.entries.values = [] := by
    rw [← hregistry]
    rfl
  unfold handleDisconnected
  dsimp only
  rw [habort, hempty]
  show ({ c with hub := { c.hub with registry := c.registry.reset } } : Client) = c
  rw [hregistry]
  rfl

theorem handleDisconnected_twice (c : Client) :
    c.handleDisconnected.handleDisconnected = c.handleDisconnected := by
  refine handleDisconnected_of_reset (discovery_handleDisconnected c) ?_
  rw [registry_handleDisconnected]
  rfl

/-! ### Once the client has settled -/

/-- The results of those who wait for an acknowledgement when the connection closes. -/
def closings (jobs : List (String × Job)) : List (String × JobResult) :=
  jobs.filterMap fun job => job.2.waiting?.map fun w => (job.1, .refused (.closed w.service))

/-- A request was sent, and there is no answer. -/
def Job.IsUnanswered (c : Client) (job : Job) : Prop :=
  ∃ ticket, job.ticket? = some ticket ∧ c.link.calls.response ticket = .waiting

theorem runJob_of_gone {tag service : String} {generation : Nat} {ticket : Ticket}
    (hresponse : c.link.calls.response ticket = .waiting)
    (hgone : c.registry.current? service generation = none) :
    c.runJob tag (.acknowledgement service generation ticket) =
      (c.forget ticket).addResult tag (.refused (.closed service)) := by
  have hclosed : c.continueSubscription service generation ticket =
      (some (.error (.closed service)), (c.takeOutcome ticket).2.forget ticket) :=
    Continuing.eq (.closed (by rw [hresponse]; rfl) hgone)
  have htaken : (c.takeOutcome ticket).2 = c := by
    show c.mapLink (fun _ => { c.link with calls := (c.link.calls.take ticket).2 }) = c
    rw [Calls.take_of_waiting hresponse]
    rfl
  unfold runJob
  dsimp only
  rw [hclosed, htaken]
  rfl

def withResponses (c : Client) (responses : List Response) : Client :=
  c.mapLink fun l => { l with calls := { l.calls with responses } }

theorem Job.ticket?_of_waiting? {job : Job} {w : Waiting} (h : job.waiting? = some w) :
    job.ticket? = some w.ticket := by
  cases job with
  | acknowledgement =>
    cases h
    rfl
  | _ => cases h

/-- The attempts among these jobs have given up their responses, and all others have theirs. -/
structure Spares (c : Client) (jobs : List (String × Job)) (responses : List Response) : Prop where
  others : ∀ t, (∀ job ∈ jobs, ∀ w, job.2.waiting? = some w → w.ticket ≠ t) →
    (c.withResponses responses).link.calls.response t = c.link.calls.response t
  descriptions : ∀ job ∈ jobs, job.2.waiting? = none → job.2.IsUnanswered (c.withResponses responses)

theorem foldl_runJob_of_gone (jobs : List (String × Job)) (c : Client)
    (hgone : ∀ service generation, c.registry.current? service generation = none)
    (hjobs : ∀ job ∈ jobs, job.2.IsUnanswered c) (hdistinct : (jobs.filterMap (·.2.ticket?)).Nodup) :
    ∃ responses, jobs.foldl (fun c job => c.runJob job.1 job.2) c =
        { c.withResponses responses with
          jobs := c.jobs ++ jobs.filter (·.2.waiting?.isNone)
          results := c.results ++ closings jobs } ∧ c.Spares jobs responses := by
  induction jobs generalizing c with
  | nil =>
    refine ⟨c.link.calls.responses, ?_, fun _ _ => rfl, nofun⟩
    simp only [List.filter_nil, closings, List.filterMap_nil, List.append_nil]
    rfl
  | cons job jobs ih =>
    obtain ⟨tag, job⟩ := job
    rw [List.forall_mem_cons] at hjobs
    obtain ⟨⟨ticket, hticket, hresponse⟩, hjobs⟩ := hjobs
    rw [List.filterMap_cons, hticket, List.nodup_cons] at hdistinct
    have hother : ∀ job ∈ jobs, ∀ t, job.2.ticket? = some t → t ≠ ticket := by
      rintro job hjob t ht rfl
      exact hdistinct.1 (List.mem_filterMap.2 ⟨job, hjob, ht⟩)
    rw [List.foldl_cons]
    cases job with
    | subscribe => cases hticket
    | describe => cases hticket
    | acknowledgement service generation own =>
      cases hticket
      rw [runJob_of_gone hresponse (hgone service generation)]
      have hthen : ∀ t, t ≠ ticket → (c.forget ticket).link.calls.response t = c.link.calls.response t :=
        fun t ht => (Calls.response_forget c.link.calls ticket t).trans (if_neg ht)
      obtain ⟨responses, hclient, hspares⟩ := ih
        ((c.forget ticket).addResult tag (.refused (.closed service))) hgone
        (fun job hjob => by
          obtain ⟨t, ht, hwaits⟩ := hjobs job hjob
          exact ⟨t, ht, (hthen t (hother job hjob t ht)).trans hwaits⟩) hdistinct.2
      refine ⟨responses, ?_, fun t ht => ?_, List.forall_mem_cons.2 ⟨nofun, hspares.descriptions⟩⟩
      · rw [hclient]
        simp only [addResult, List.append_assoc]
        rfl
      · rw [List.forall_mem_cons] at ht
        exact (hspares.others t ht.2).trans (hthen t (Ne.symm (ht.1 _ rfl)))
    | description own =>
      cases hticket
      have hrests : (Job.description ticket).Rests c := hresponse
      rw [runJob_of_rests hrests]
      obtain ⟨responses, hclient, hspares⟩ := ih (c.addJob tag (.description ticket)) hgone
        (fun job hjob => hjobs job hjob) hdistinct.2
      refine ⟨responses, ?_, fun t ht => ?_, List.forall_mem_cons.2 ⟨fun _ => ?_, hspares.descriptions⟩⟩
      · rw [hclient]
        simp only [addJob, List.append_assoc]
        rfl
      · rw [List.forall_mem_cons] at ht
        exact hspares.others t ht.2
      · refine ⟨ticket, rfl, (hspares.others ticket fun job hjob w hw => ?_).trans hresponse⟩
        exact hother job hjob _ (Job.ticket?_of_waiting? hw)

/-- What a client that was at rest is when it has settled after a disconnection: as new but for its
numbering, with the callers' listeners and the calls in flight. Whoever waited for an acknowledgement was
refused. -/
structure Restored (new c d : Client) : Prop where
  registry : d.registry =
    { new.registry with generation := c.registry.generation, nextFeed := c.registry.nextFeed }
  discovery : d.discovery = new.discovery
  listeners : d.link.listeners = c.link.listeners.filter (·.handler.isCaller)
  calls : ∃ responses, d.link.calls = { c.link.calls with responses }
  results : d.results = c.results ++ closings c.jobs
  jobs : d.jobs = c.jobs.filter (·.2.waiting?.isNone)
  responses : ∀ t, (∀ w ∈ c.waiting [], w.ticket ≠ t) →
    d.link.calls.response t = c.link.calls.response t
  settled : d.IsSettled

theorem Job.Rests.isUnanswered {job : Job} (h : job.Rests c) : job.IsUnanswered c := by
  cases job with
  | subscribe => exact absurd h id
  | describe => exact absurd h id
  | acknowledgement service generation ticket => exact ⟨ticket, rfl, h.1⟩
  | description ticket => exact ⟨ticket, rfl, h⟩

theorem Job.IsUnanswered.rests {job : Job} (h : job.IsUnanswered c) (hnone : job.waiting? = none) :
    job.Rests c := by
  obtain ⟨ticket, hticket, hresponse⟩ := h
  cases job with
  | description own =>
    cases hticket
    exact hresponse
  | acknowledgement => cases hnone
  | subscribe => cases hticket
  | describe => cases hticket

theorem seen_client (c : Client) : ∃ events, c.seen = c.mapLink (fun l => { l with events }) ∧
    events ⊆ c.link.events := by
  unfold seen
  split
  · exact ⟨[], rfl, List.nil_subset _⟩
  · exact ⟨c.link.events, rfl, List.Subset.refl _⟩

theorem settle_of_gone (hmonitor : ∀ m ∈ c.monitor, ¬ m.isAwake c.now)
    (hevents : c.isWatching → ∀ s ∈ c.link.events, s ≠ .connected ∧ s ≠ .notConnected)
    (hdiscovery : c.discovery = none)
    (hgone : ∀ service generation, c.registry.current? service generation = none)
    (hjobs : ∀ job ∈ c.jobs, job.2.IsUnanswered c) (hdistinct : (c.jobs.filterMap (·.2.ticket?)).Nodup) :
    ∃ responses, c.settle =
        { c.seen.withResponses responses with
          jobs := c.jobs.filter (·.2.waiting?.isNone)
          results := c.results ++ closings c.jobs } ∧ c.Spares c.jobs responses := by
  obtain ⟨events, hseen, -⟩ := seen_client c
  have hsettle : c.settle = c.seen.runJobs := by
    have hnone : ∀ d ∈ c.seen.discovery, d.Rests c.seen := by
      rw [hseen]
      exact fun d hd => nomatch hdiscovery.symm.trans hd
    unfold Client.settle
    rw [runMonitor_of_asleep hmonitor, runWatcher_of_quiet hevents, runDiscovery_of_rests hnone]
  rw [hsettle, hseen]
  obtain ⟨responses, hfold, hspares⟩ := foldl_runJob_of_gone c.jobs
    { c.mapLink (fun l => { l with events }) with jobs := [] } hgone hjobs hdistinct
  exact ⟨responses, hfold, hspares.others, hspares.descriptions⟩

/-- After a disconnection settling ends all attempts of a client at rest. -/
theorem settle_of_disconnected (h : Reached timeout c) (hsettled : c.IsSettled) :
    ∃ events responses, c.handleDisconnected.settle =
        { (c.handleDisconnected.mapLink fun l => { l with events }).withResponses responses with
          jobs := c.jobs.filter (·.2.waiting?.isNone)
          results := c.results ++ closings c.jobs } ∧
      events ⊆ c.link.events ∧ c.handleDisconnected.Spares c.jobs responses := by
  obtain ⟨responses₁, -, hresponses₁⟩ := calls_handleDisconnected c
  have hclient := hubOnly_handleDisconnected c
  have hevents : c.handleDisconnected.link.events = c.link.events := events_handleStatus c .notConnected
  have hdistinct := h.apart.distinct
  unfold tickets at hdistinct
  rw [List.append_nil, List.nodup_append] at hdistinct
  have hunanswered : ∀ job ∈ c.jobs, job.2.IsUnanswered c.handleDisconnected := by
    intro job hjob
    obtain ⟨ticket, hticket, hresponse⟩ := (hsettled.jobs job hjob).isUnanswered
    refine ⟨ticket, hticket, (hresponses₁ ticket fun hown => ?_).trans hresponse⟩
    have hmem : ticket ∈ c.jobs.filterMap (·.2.ticket?) := List.mem_filterMap.2 ⟨job, hjob, hticket⟩
    exact hdistinct.2.2 _ hmem _ (Option.mem_toList.2 hown) rfl
  obtain ⟨events, hseen, hfewer⟩ := seen_client c.handleDisconnected
  obtain ⟨responses, hsettle, hspares⟩ := settle_of_gone (c := c.handleDisconnected)
    (by rw [hclient.monitor, hclient.now]; exact hsettled.monitor)
    (by rw [hclient.isWatching, hevents]; exact hsettled.events) (discovery_handleDisconnected c)
    (fun service generation => by rw [registry_handleDisconnected]; rfl)
    (hclient.jobs ▸ hunanswered) (hclient.jobs ▸ hdistinct.1)
  rw [hclient.jobs, hclient.results] at hsettle
  rw [hclient.jobs] at hspares
  exact ⟨events, responses, hseen ▸ hsettle, hevents ▸ hfewer, hspares⟩

theorem restored {new : Client} (hregistry₀ : new.registry = {}) (hdiscovery₀ : new.discovery = none)
    (h : Reached timeout c) (hsettled : c.IsSettled) : Restored new c c.handleDisconnected.settle := by
  obtain ⟨events, responses, hsettle, hfewer, hspares⟩ := settle_of_disconnected h hsettled
  obtain ⟨responses₁, hcalls, hresponses₁⟩ := calls_handleDisconnected c
  have hclient := hubOnly_handleDisconnected c
  rw [hsettle]
  refine {
    registry := by
      rw [hregistry₀]
      exact registry_handleDisconnected c
    discovery := (discovery_handleDisconnected c).trans hdiscovery₀.symm
    listeners := listeners_handleDisconnected h
    calls := ⟨responses, congrArg (fun calls : Calls => { calls with responses }) hcalls⟩
    results := rfl
    jobs := rfl
    responses := fun t ht => ?_
    settled := ⟨?_, fun hwatching s hs => ?_, fun d hd => ?_, fun job hjob => ?_⟩ }
  · refine (hspares.others t fun job hjob w hw => ht w ?_).trans (hresponses₁ t fun hown => ?_)
    · exact List.mem_append_left _ (List.mem_filterMap.2 ⟨job, List.mem_append_left _ hjob, hw⟩)
    · obtain ⟨d, hd, hticket⟩ := Option.bind_eq_some_iff.1 hown
      obtain ⟨w, hw, hticket⟩ := Option.map_eq_some_iff.1 hticket
      exact ht w (mem_waiting_of_discovery hd hw) hticket
  · show ∀ m ∈ c.handleDisconnected.monitor, ¬ m.isAwake c.handleDisconnected.now
    rw [hclient.monitor, hclient.now]
    exact hsettled.monitor
  · exact hsettled.events (hclient.isWatching.symm.trans hwatching) s (hfewer hs)
  · cases (discovery_handleDisconnected c).symm.trans hd
  · obtain ⟨hmem, hnone⟩ := List.mem_filter.1 hjob
    have hnone : job.2.waiting? = none := Option.isNone_iff_eq_none.1 hnone
    obtain ⟨ticket, hticket, hresponse⟩ := hspares.descriptions job hmem hnone
    exact Job.IsUnanswered.rests ⟨ticket, hticket, hresponse⟩ hnone

/-! ### What comes later -/

theorem waiting_of_trace {log : List Deed} (h : Reached timeout c) (htrace : Trace Does c log c')
    {w : Waiting} (hw : w ∈ c'.waiting []) : w ∈ c.waiting [] ∨
      c.registry.generation < w.generation ∧ c.link.calls.responses.length ≤ w.ticket := by
  have hkept := htrace.keeps
    (P := fun x => Reached timeout x ∧ c.registry.generation ≤ x.registry.generation ∧
      c.link.calls.responses.length ≤ x.link.calls.responses.length ∧
      ∀ w ∈ x.waiting [], w ∈ c.waiting [] ∨
        c.registry.generation < w.generation ∧ c.link.calls.responses.length ≤ w.ticket)
    (fun x d y hx hdoes => by
      obtain ⟨hreached, hgeneration, hlength, hwaiting⟩ := hx
      have hreserves := hdoes.reserves hreached.isTracked
      refine ⟨hreached.deed hdoes, Nat.le_trans hgeneration hreserves.generation,
        Nat.le_trans hlength (hreached.isTracked.length_le hdoes.moves), fun w hw => ?_⟩
      rcases hreserves.waiting w hw with ⟨hbefore, -⟩ | ⟨hnew, hticket⟩
      · exact hwaiting w hbefore
      · exact .inr ⟨Nat.lt_of_le_of_lt hgeneration hnew, Nat.le_trans hlength hticket⟩)
    ⟨h, Nat.le_refl _, Nat.le_refl _, fun _ => .inl⟩
  exact hkept.2.2.2 w hw

theorem stands_of_trace {log : List Deed} (h : Reached timeout c) (htrace : Trace Does c log c')
    {service : String} {generation : Nat} (hs : c'.registry.Stands service generation)
    (hle : generation ≤ c.registry.generation) : c.registry.Stands service generation := by
  obtain ⟨s, hs₁, -⟩ := h.isTracked.tracked
  obtain ⟨moves, s', hmoves, hs', -⟩ := @moves_of_trace timeout _ _ _ htrace s hs₁
  have hstands : s'.Stands service generation := by
    unfold Scene.Stands Scene.subscription?
    rw [hs'.hub]
    exact hs
  rw [registry, ← hs₁.hub] at hle ⊢
  exact Scene.stands_of_trace hmoves hstands hle

theorem continueSubscription_of_gone {service : String} {generation : Nat}
    (hgone : ¬ c.registry.Stands service generation) (ticket : Ticket) :
    ∃ cause calls, c.continueSubscription service generation ticket =
      (some (.error cause), c.mapLink fun l => { l with calls }) := by
  have hnone : c.registry.current? service generation = none :=
    Option.not_isSome_iff_eq_none.1 fun hsome => hgone (Registry.isSome_current?.1 hsome)
  have hcontinuing := continueSubscription_continuing c service generation ticket
  have hkept : (c.takeOutcome ticket).2.mapRegistry (·.discard service generation) =
      (c.takeOutcome ticket).2 :=
    congrArg (fun r => (c.takeOutcome ticket).2.mapRegistry fun _ => r) (Registry.discard_of_gone hnone)
  generalize c.continueSubscription service generation ticket = continued at hcontinuing ⊢
  obtain ⟨result, c'⟩ := continued
  cases hcontinuing with
  | waits _ hcurrent => cases hnone.symm.trans hcurrent
  | closed => exact ⟨_, _, rfl⟩
  | rejected => exact ⟨_, _, congrArg (Prod.mk _) hkept⟩
  | unversioned => exact ⟨_, _, congrArg (Prod.mk _) hkept⟩
  | late => exact ⟨_, _, rfl⟩
  | established _ _ hcurrent => cases hnone.symm.trans hcurrent

theorem IsSettled.stands_or_describes (h : c.IsSettled) {t : Ticket} (ht : t ∈ c.tickets []) :
    (∃ w ∈ c.waiting [], w.ticket = t ∧ c.registry.Stands w.service w.generation) ∨
      ∃ tag, (tag, .description t) ∈ c.jobs := by
  rcases mem_tickets.1 ht with ⟨⟨tag, job⟩, hmem, hticket⟩ | ⟨d, hd, hticket⟩
  · have hjob : (tag, job) ∈ c.jobs := by rwa [List.append_nil] at hmem
    have hrests := h.jobs _ hjob
    cases job with
    | acknowledgement service generation own =>
      cases hticket
      exact .inl ⟨_, mem_waiting hmem, rfl, hrests.2⟩
    | description own =>
      cases hticket
      exact .inr ⟨tag, hjob⟩
    | subscribe => cases hticket
    | describe => cases hticket
  · obtain ⟨w, hw, rfl⟩ := Option.map_eq_some_iff.1 hticket
    have hrests := h.discovery d hd
    refine .inl ⟨w, mem_waiting_of_discovery hd hw, rfl, ?_⟩
    cases d with
    | acknowledgement generation own =>
      cases hw
      exact hrests.2
    | subscribe => cases hw
    | following => cases hw

/-- A response that answers nothing but requests with lower tickets than this one. -/
def IsLate (c : Client) (sent : Ticket) (m : Rpc.Message) : Prop :=
  m.answer? ≠ none ∧ ∀ call ∈ c.link.calls.inFlight, Link.answers call.id m → call.ticket < sent

/-- A description that is waited for is in no response. -/
def DescribesNothing (c : Client) (m : Rpc.Message) : Prop :=
  ∀ tag ticket, (tag, .description ticket) ∈ c.jobs →
    ∀ call ∈ c.link.calls.inFlight, Link.answers call.id m → call.ticket ≠ ticket

/-- What the requests for subscriptions come to that were sent before a ticket. -/
structure Outlives (sent : Ticket) (c : Client) : Prop where
  /-- An attempt from before fails in its turn, whatever it is answered, and changes only the calls. -/
  attempts : ∀ w ∈ c.waiting [], w.ticket < sent → ∃ cause calls,
    c.continueSubscription w.service w.generation w.ticket =
      (some (.error cause), c.mapLink fun l => { l with calls })
  /-- A response to requests from before changes only the calls, and no later one of these. -/
  responses : ∀ m, c.IsLate sent m → ∃ calls,
    c.hub.hearMessage m = { c.hub with link := { c.hub.link with calls } } ∧
      ∀ t, sent ≤ t → calls.response t = c.link.calls.response t
  /-- When the client is at rest nothing follows from such responses. -/
  settled : c.IsSettled → ∀ text,
    (∀ m ∈ (Rpc.Frame.read text).messages, c.IsLate sent m ∧ c.DescribesNothing m) →
      ∃ calls outbound, (c.handleFrame text).settle = c.seen.mapLink fun l => { l with calls, outbound }

theorem outlives_of_trace {log : List Deed} {sent : Ticket} (h : Reached timeout c)
    (hsent : sent ≤ c.link.calls.responses.length) (hempty : ∀ k g, ¬ c.registry.Stands k g)
    (htrace : Trace Does c log c') : Outlives sent c' := by
  have h' := h.trace htrace
  have hquiet : c'.hub.link.pushes = [] := by
    obtain ⟨s, hs, hk⟩ := h'.isTracked.tracked
    rw [← hs.hub]
    exact hk.quiet
  have hgone : ∀ w ∈ c'.waiting [], w.ticket < sent → ¬ c'.registry.Stands w.service w.generation := by
    intro w hw hlt hstands
    rcases waiting_of_trace h htrace hw with hbefore | ⟨-, hnew⟩
    · exact hempty _ _ (stands_of_trace h htrace hstands (h.isTracked.generation_le hbefore))
    · exact Nat.not_lt.2 hnew (Nat.lt_of_lt_of_le hlt hsent)
  refine ⟨fun w hw hlt => continueSubscription_of_gone (hgone w hw hlt) _, fun m hm => ?_,
    fun hsettled text htext => ?_⟩
  · refine ⟨_, Hub.hearMessage_of_answer hquiet hm.1, fun t ht => ?_⟩
    refine (c'.link.calls.hear_of_answer m).2 t fun call hcall hanswers => ?_
    exact Nat.ne_of_lt (Nat.lt_of_lt_of_le (hm.2 call hcall hanswers) ht)
  · obtain ⟨calls, outbound, hframe, hcalls⟩ :=
      Hub.handleFrame_of_answers hquiet text fun m hm => (htext m hm).1.1
    have hresponse : ∀ t ∈ c'.tickets [], calls.response t = c'.link.calls.response t := by
      refine fun t ht => hcalls t fun m hm call hcall hanswers heq => ?_
      have hlate : t < sent := heq ▸ (htext m hm).1.2 call hcall hanswers
      rcases hsettled.stands_or_describes ht with ⟨w, hw, rfl, hstands⟩ | ⟨tag, hjob⟩
      · exact hgone w hw hlate hstands
      · exact (htext m hm).2 tag t hjob call hcall hanswers heq
    have hrests : IsSettled { c' with
        hub := { c'.hub with link := { c'.hub.link with calls, outbound } } } :=
      hsettled.of_hub (fun _ => List.Subset.refl _) hresponse rfl rfl rfl
    refine ⟨calls, outbound, ?_⟩
    rw [handleFrame, hframe, hrests.settle]
    unfold seen
    split <;> rfl

/-- A disconnection brings a client at rest back to where a new one starts. Those who waited for an
acknowledgement learn that the connection closed, and no answer to a request from before has an effect. -/
theorem disconnection_restores {endpoint : String} {options : Options} {c₀ : Client}
    (hnew : Client.new endpoint options = .ok c₀) (inBackground : Bool) :
    let start := c₀.started inBackground
    (∀ actions, start.Performs actions.flatten (start.bursts actions) ∧
      (actions ≠ [] → (start.bursts actions).IsSettled)) ∧
    ∀ actions c, start.Performs actions c → c.IsSettled →
      let d := c.handleDisconnected.settle
      Restored start c d ∧
        c.handleDisconnected.handleDisconnected = c.handleDisconnected ∧ d.handleDisconnected = d ∧
        ∀ later c', c.handleDisconnected.Performs later c' →
          Outlives c.link.calls.responses.length c' := by
  intro start
  refine ⟨fun actions => ⟨performs_bursts start actions, isSettled_bursts hnew inBackground⟩, ?_⟩
  intro actions c hrun hsettled d
  have hreached : Reached _ c := (reached_of_new hnew inBackground).performs hrun
  obtain ⟨hhub, -, -, hdiscovery⟩ := started_of_new hnew inBackground
  have hregistry : start.registry = {} := by rw [registry, hhub]; rfl
  have hrestored : Restored start c d := restored hregistry hdiscovery hreached hsettled
  refine ⟨hrestored, handleDisconnected_twice c, ?_, fun later c' hlater => ?_⟩
  · refine handleDisconnected_of_reset (hrestored.discovery.trans hdiscovery) ?_
    rw [hrestored.registry, hregistry]
    rfl
  · obtain ⟨log, htrace, -⟩ := hlater
    obtain ⟨responses, hcalls, -⟩ := calls_handleDisconnected c
    have hlength : c.link.calls.responses.length ≤
        c.handleDisconnected.link.calls.responses.length :=
      hreached.isTracked.length_le (moves_handleDisconnected c [])
    refine outlives_of_trace (hreached.deed (.acted (a := .disconnected) fun _ => Action.noConfusion)) hlength ?_ htrace
    rintro k g ⟨e, he, -⟩
    have he : c.handleDisconnected.registry.entry? k = some e := he
    rw [registry_handleDisconnected] at he
    cases he

open AtOnce in
theorem disconnection_restores_asking :
    let c := (start.started false).bursts
      [[.openSocket], [.subscribe "tag" ServiceList.discoveryName ["level"]]]
    c.handleDisconnected.settle.results = [("tag", .refused (.closed ServiceList.discoveryName))] ∧
      ∃ calls, c.handleDisconnected.hub.hearMessage answer =
        { c.handleDisconnected.hub with link := { c.handleDisconnected.hub.link with calls } } := by
  intro c
  have hnew : Client.new "ws://h/" {} = .ok start := rfl
  obtain ⟨hbursts, hruns⟩ := disconnection_restores hnew false
  obtain ⟨hrun, hsettled⟩ := hbursts
    [[.openSocket], [.subscribe "tag" ServiceList.discoveryName ["level"]]]
  obtain ⟨hrestored, -, -, hlater⟩ := hruns _ c hrun (hsettled (by simp))
  refine ⟨hrestored.results, ?_⟩
  have hlate : c.handleDisconnected.IsLate 1 answer := by
    refine ⟨nofun, fun call hcall _ => ?_⟩
    cases List.mem_singleton.1 hcall
    exact Nat.zero_lt_one
  obtain ⟨calls, hheard, -⟩ := (hlater [] _ (.refl _)).responses answer hlate
  exact ⟨calls, hheard⟩

end Client
end ServiceLink
