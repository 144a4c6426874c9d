import ServiceLink.Proofs.Client.Awaiting
import ServiceLink.Proofs.Client.Leaving
import ServiceLink.Proofs.Client.Reserving
import ServiceLink.Proofs.Link.Expiry

/-! A client at rest. Its attempts wait for the server, its discovery has read what was pushed, and its
monitor sleeps. Whoever acts wakes it, and when it has settled it is at rest again. -/

namespace ServiceLink

theorem Calls.take_of_waiting {c : Calls} {ticket : Ticket} (h : c.response ticket = .waiting) :
    (c.take ticket).2 = c := by
  have hget : c.responses[ticket]? = some .waiting := by
    unfold response at h
    cases hr : c.responses[ticket]? with
    | none => simp [hr] at h
    | some r => simpa [hr] using h
  obtain ⟨hlt, hr⟩ := List.getElem?_eq_some_iff.1 hget
  have hset : c.responses.set ticket .waiting = c.responses := by
    rw [← hr]
    exact List.set_getElem_self hlt
  unfold take
  rw [h]
  dsimp only [Response.take]
  rw [hset]

theorem Response.eq_waiting_of_take {r : Response} (h : r.take.1 = none) : r = .waiting := by
  cases r with
  | waiting => rfl
  | ready outcome => cases h
  | closed => cases h

namespace Client

variable {timeout : Nat} {c c' : Client} {rest rest' : List (String × Job)}

/-! ### Rest -/

/-- An attempt waits: its subscription stands, and the server has not answered. -/
def Waiting.Rests (c : Client) (w : Waiting) : Prop :=
  c.link.calls.response w.ticket = .waiting ∧ c.registry.Stands w.service w.generation

def Job.Rests (c : Client) : Job → Prop
  | .acknowledgement service generation ticket => Waiting.Rests c ⟨service, generation, ticket⟩
  | .description ticket => c.link.calls.response ticket = .waiting
  | _ => False

/-- A discovery waits for its answer, or has read all of its stream, in which more may come. -/
def Discovery.Rests (c : Client) : Discovery → Prop
  | .subscribe => False
  | .acknowledgement generation ticket => Waiting.Rests c ⟨ServiceList.discoveryName, generation, ticket⟩
  | .following stream => c.streamNews stream = ([], false)

/-- Nothing can happen before time goes on or somebody acts. -/
structure IsSettled (c : Client) : Prop where
  monitor : ∀ m ∈ c.monitor, ¬ m.isAwake c.now
  events : c.isWatching → ∀ s ∈ c.link.events, s ≠ .connected ∧ s ≠ .notConnected
  discovery : ∀ d ∈ c.discovery, d.Rests c
  jobs : ∀ job ∈ c.jobs, job.2.Rests c

theorem runMonitor_of_asleep (h : ∀ m ∈ c.monitor, ¬ m.isAwake c.now) : c.runMonitor = c := by
  unfold runMonitor
  split
  · rfl
  · rename_i m hm
    unfold onLink
    rw [Link.Monitor.act_of_asleep (h m hm)]
    dsimp only
    rw [← hm]
    rfl

theorem Waiting.Rests.continueSubscription {service : String} {generation : Nat} {ticket : Ticket}
    (h : Waiting.Rests c ⟨service, generation, ticket⟩) :
    c.continueSubscription service generation ticket = (none, c) := by
  obtain ⟨e, he⟩ := Option.isSome_iff_exists.1 (Registry.isSome_current?.2 h.2)
  have hsame : (c.takeOutcome ticket).2 = c := by
    show c.mapLink (fun _ => { c.link with calls := (c.link.calls.take ticket).2 }) = c
    rw [Calls.take_of_waiting h.1]
    rfl
  rw [continueSubscription_waiting h.1 he, hsame]

theorem drain_of_empty {streams : List Stream} {stream : Nat} (h : Stream.eventsOf streams stream = []) :
    Stream.update streams stream Stream.drain = streams := by
  refine (List.map_congr_left fun st hst => ?_).trans (List.map_id streams)
  split
  · rename_i hid
    have hempty : st.events = [] :=
      List.flatMap_eq_nil_iff.1 h st (List.mem_filter.2 ⟨hst, decide_eq_true hid⟩)
    rw [Stream.drain, ← hempty]
    rfl
  · rfl

theorem follow_of_rests {stream : Nat} (h : c.streamNews stream = ([], false)) : c.follow stream = c := by
  obtain ⟨hevents, hopen⟩ := Prod.mk.inj h
  have hsame : c.hub.updateStream stream Stream.drain = c.hub := by
    rw [Hub.updateStream, drain_of_empty hevents]
  unfold follow
  rw [hevents, hsame]
  exact if_neg (by simp [hopen])

theorem runDiscovery_of_rests (h : ∀ d ∈ c.discovery, d.Rests c) : c.runDiscovery = c := by
  unfold runDiscovery
  cases hd : c.discovery with
  | none => rfl
  | some d =>
    have hrests : d.Rests c := h d hd
    cases d with
    | subscribe => exact absurd hrests id
    | acknowledgement generation ticket =>
      dsimp only
      rw [Waiting.Rests.continueSubscription hrests]
    | following stream => exact follow_of_rests hrests

theorem runJob_of_rests {tag : String} {job : Job} (h : job.Rests c) :
    c.runJob tag job = c.addJob tag job := by
  unfold runJob
  cases job with
  | subscribe => exact absurd h id
  | describe => exact absurd h id
  | acknowledgement service generation ticket =>
    dsimp only
    rw [Waiting.Rests.continueSubscription h]
  | description ticket =>
    have htake : c.takeOutcome ticket = (none, c) := by
      refine Prod.ext ?_ ?_
      · show (c.link.calls.response ticket).take.1 = none
        rw [show c.link.calls.response ticket = .waiting from h]
        rfl
      · show c.mapLink (fun _ => { c.link with calls := (c.link.calls.take ticket).2 }) = c
        rw [Calls.take_of_waiting h]
        rfl
    dsimp only
    rw [htake]

theorem runJobs_of_rests (h : ∀ job ∈ c.jobs, job.2.Rests c) : c.runJobs = c := by
  have hfold : ∀ (jobs : List (String × Job)) (before : List (String × Job)),
      (∀ job ∈ jobs, job.2.Rests c) →
      jobs.foldl (fun c job => c.runJob job.1 job.2) (c.withJobs before) = c.withJobs (before ++ jobs) := by
    intro jobs
    induction jobs with
    | nil => exact fun before _ => by rw [List.append_nil]; rfl
    | cons job jobs ih =>
      intro before hjobs
      rw [List.forall_mem_cons] at hjobs
      have hrests : job.2.Rests (c.withJobs before) := by
        obtain ⟨tag, job⟩ := job
        cases job <;> exact hjobs.1
      rw [List.foldl_cons, runJob_of_rests hrests]
      refine (ih (before ++ [job]) hjobs.2).trans ?_
      rw [List.append_assoc]
      rfl
  exact hfold c.jobs [] h

def Discovery.ticket? (d : Discovery) : Option Ticket := d.waiting?.map (·.ticket)

/-- The tickets for which the jobs of a client wait, those that were set aside, and its discovery. -/
def tickets (c : Client) (rest : List (String × Job)) : List Ticket :=
  (c.jobs ++ rest).filterMap (·.2.ticket?) ++ (c.discovery.bind Discovery.ticket?).toList

theorem mem_tickets {t : Ticket} :
    t ∈ c.tickets rest ↔ (∃ job ∈ c.jobs ++ rest, job.2.ticket? = some t) ∨
      ∃ d ∈ c.discovery, d.ticket? = some t := by
  simp only [tickets, List.mem_append (s := List.filterMap _ _), List.mem_filterMap, Option.mem_toList,
    Option.mem_def, Option.bind_eq_some_iff]

theorem IsSettled.of_hub (h : c.IsSettled) {hub : Hub}
    (hevents : c.isWatching → hub.link.events ⊆ c.link.events)
    (hresponse : ∀ t ∈ c.tickets [], hub.link.calls.response t = c.link.calls.response t)
    (hregistry : hub.registry = c.registry) (hstreams : hub.streams = c.hub.streams)
    (hlisteners : hub.link.listeners = c.link.listeners) : IsSettled { c with hub } where
  monitor := h.monitor
  events hwatching s hs := h.events hwatching s (hevents hwatching hs)
  discovery d hd := by
    have hrests := h.discovery d hd
    cases d with
    | subscribe => exact hrests
    | acknowledgement generation ticket =>
      refine ⟨(hresponse ticket (mem_tickets.2 (.inr ⟨_, hd, rfl⟩))).trans hrests.1, ?_⟩
      rw [registry, hregistry]
      exact hrests.2
    | following stream =>
      have hnews : streamNews { c with hub } stream = c.streamNews stream := by
        unfold streamNews Hub.isClosed Link.feedsStream
        dsimp only
        rw [hstreams, hregistry, hlisteners]
        rfl
      exact hnews.trans hrests
  jobs job hjob := by
    have hrests := h.jobs job hjob
    have hticket : ∀ t, job.2.ticket? = some t → t ∈ c.tickets [] := fun t ht =>
      mem_tickets.2 (.inl ⟨job, List.mem_append_left _ hjob, ht⟩)
    obtain ⟨tag, job⟩ := job
    cases job with
    | subscribe => exact hrests
    | describe => exact hrests
    | acknowledgement service generation ticket =>
      refine ⟨(hresponse ticket (hticket ticket rfl)).trans hrests.1, ?_⟩
      rw [registry, hregistry]
      exact hrests.2
    | description ticket => exact (hresponse ticket (hticket ticket rfl)).trans hrests

theorem IsSettled.seen (h : c.IsSettled) : c.seen.IsSettled := by
  unfold Client.seen
  split
  · exact h.of_hub (fun _ => List.nil_subset _) (fun _ _ => rfl) rfl rfl rfl
  · exact h

theorem IsSettled.settle (h : c.IsSettled) : c.settle = c.seen := by
  unfold Client.settle
  rw [runMonitor_of_asleep h.monitor, runWatcher_of_quiet h.events, runDiscovery_of_rests h.seen.discovery,
    runJobs_of_rests h.seen.jobs]

/-! ### Whoever waits, waits for an answer of his own -/

/-- No two jobs wait for one ticket, and every ticket was handed out. -/
structure Apart (c : Client) (rest : List (String × Job)) : Prop where
  distinct : (c.tickets rest).Nodup
  known : ∀ t ∈ c.tickets rest, t < c.link.calls.responses.length

theorem Apart.of_sublist (h : Apart c rest)
    (hlength : c.link.calls.responses.length ≤ c'.link.calls.responses.length)
    (hsub : (c'.tickets rest').Sublist (c.tickets rest)) : Apart c' rest' :=
  ⟨h.distinct.sublist hsub, fun t ht => Nat.lt_of_lt_of_le (h.known t (hsub.subset ht)) hlength⟩

theorem Apart.of_perm (h : Apart c rest)
    (hlength : c.link.calls.responses.length ≤ c'.link.calls.responses.length)
    (hperm : (c'.tickets rest').Perm (c.tickets rest)) : Apart c' rest' :=
  ⟨hperm.nodup_iff.2 h.distinct, fun t ht => Nat.lt_of_lt_of_le (h.known t (hperm.subset ht)) hlength⟩

theorem Apart.of_asked (h : Apart c rest)
    (hlength : c.link.calls.responses.length < c'.link.calls.responses.length)
    (hperm : (c'.tickets rest').Perm (c.link.calls.responses.length :: c.tickets rest)) :
    Apart c' rest' where
  distinct := by
    refine hperm.nodup_iff.2 (List.nodup_cons.2 ⟨fun hmem => ?_, h.distinct⟩)
    exact Nat.lt_irrefl _ (h.known _ hmem)
  known t ht := by
    rcases List.mem_cons.1 (hperm.subset ht) with rfl | hmem
    · exact hlength
    · exact Nat.lt_trans (h.known t hmem) hlength

theorem IsTracked.length_le {messages : List Rpc.Message} (h : IsTracked timeout c rest)
    (hmoves : Moves timeout c rest messages c' rest') :
    c.link.calls.responses.length ≤ c'.link.calls.responses.length := by
  obtain ⟨s, hs, -⟩ := h.tracked
  obtain ⟨moves, s', htrace, hs', -⟩ := hmoves s hs
  have hhistory := Scene.history_of_trace htrace
  rw [hs.hub, hs'.hub] at hhistory
  exact hhistory.length_le

theorem tickets_congr (hjobs : c'.jobs = c.jobs) (hdiscovery : c'.discovery = c.discovery) :
    c'.tickets rest = c.tickets rest := by
  unfold tickets
  rw [hjobs, hdiscovery]

theorem filterMap_cons_perm {α : Type} (f : Job → Option α) (jobs rest : List (String × Job)) (tag : String)
    (job : Job) : ((jobs ++ (tag, job) :: rest).filterMap (f ·.2)).Perm
      ((f job).toList ++ (jobs ++ rest).filterMap (f ·.2)) := by
  refine (List.perm_middle.filterMap _).trans (.of_eq ?_)
  cases h : f job <;> simp [h]

theorem tickets_cons (c : Client) (rest : List (String × Job)) (tag : String) (job : Job) :
    (c.tickets ((tag, job) :: rest)).Perm (job.ticket?.toList ++ c.tickets rest) := by
  unfold tickets
  rw [← List.append_assoc]
  exact (filterMap_cons_perm Job.ticket? c.jobs rest tag job).append_right _

theorem tickets_addJob (tag : String) (job : Job) :
    ((c.addJob tag job).tickets rest).Perm (job.ticket?.toList ++ c.tickets rest) := by
  have hmoved : (c.addJob tag job).tickets rest = c.tickets ((tag, job) :: rest) := by
    simp [tickets, addJob]
  rw [hmoved]
  exact tickets_cons c rest tag job

theorem Opening.rests {service : String} {requested : List String} {generation : Nat} {ticket : Ticket}
    (h : Opening c service requested (.ok (generation, ticket)) c') :
    Waiting.Rests c' ⟨service, generation, ticket⟩ ∧ ticket = c.link.calls.responses.length ∧
      c.link.calls.responses.length < c'.link.calls.responses.length := by
  obtain ⟨r, hr, hentered⟩ := h.entered_of_ok
  have hstands : c'.registry.Stands service generation := by
    cases h with
    | @asked d =>
      have hinserted := Registry.entry?_insert c.registry service d.path service requested
      rw [if_pos rfl] at hinserted
      exact ⟨_, hinserted, rfl⟩
  subst hr
  exact ⟨⟨hentered.response List.mem_cons_self, hstands⟩, hentered.ticket_eq⟩

theorem Continuing.rests {service : String} {generation : Nat} {ticket : Ticket}
    (h : Continuing c service generation ticket none c') :
    Waiting.Rests c ⟨service, generation, ticket⟩ := by
  cases h with
  | waits htake hcurrent =>
    exact ⟨Response.eq_waiting_of_take htake,
      Registry.isSome_current?.1 (Option.isSome_iff_exists.2 ⟨_, hcurrent⟩)⟩

/-- A job leaves nothing, or a job that waits for the same ticket or for a new one. -/
structure Next (c : Client) (tag : String) (job : Job) (c' : Client) (next : Option Job) : Prop where
  jobs : c'.jobs = c.jobs ++ (next.map (tag, ·)).toList
  rests : ∀ j ∈ next, j.Rests c'
  ticket : ∀ j ∈ next, j = job ∨ job.ticket? = none ∧ j.ticket? = some c.link.calls.responses.length ∧
    c.link.calls.responses.length < c'.link.calls.responses.length

theorem next_of_rests {tag : String} {job : Job} (h : job.Rests c) :
    Next c tag job (c.runJob tag job) (some job) := by
  rw [runJob_of_rests h]
  refine ⟨rfl, fun j hj => ?_, fun j hj => ?_⟩
  · cases hj
    cases job <;> exact h
  · cases hj
    exact .inl rfl

theorem next_of_over {tag : String} {job : Job} (h : c'.jobs = c.jobs) : Next c tag job c' none :=
  ⟨by rw [h]; exact (List.append_nil _).symm, nofun, nofun⟩

theorem next_of_asked {tag : String} {job next : Job} (hjobs : c'.jobs = c.jobs)
    (hnone : job.ticket? = none) (hrests : next.Rests (c'.addJob tag next))
    (hticket : next.ticket? = some c.link.calls.responses.length)
    (hlength : c.link.calls.responses.length < c'.link.calls.responses.length) :
    Next c tag job (c'.addJob tag next) (some next) := by
  refine ⟨congrArg (· ++ _) hjobs, fun j hj => ?_, fun j hj => ?_⟩
  · cases hj
    exact hrests
  · cases hj
    exact .inr ⟨hnone, hticket, hlength⟩

theorem runJob_next (c : Client) (tag : String) (job : Job) :
    ∃ next, Next c tag job (c.runJob tag job) next := by
  by_cases hrests : job.Rests c
  · exact ⟨_, next_of_rests hrests⟩
  have hworks := runJob_works c tag job
  generalize c.runJob tag job = c' at hworks ⊢
  cases hworks with
  | asked hopening =>
    obtain ⟨hwaits, hticket, hlength⟩ := hopening.rests
    obtain ⟨hub, rfl⟩ := hopening.client
    exact ⟨_, next_of_asked rfl rfl hwaits (congrArg some hticket) hlength⟩
  | refused hopening =>
    obtain ⟨hub, rfl⟩ := hopening.client
    exact ⟨none, next_of_over rfl⟩
  | waits hcontinuing => exact absurd hcontinuing.rests hrests
  | @ended _ _ _ result c₁ hcontinuing =>
    obtain ⟨results, held, streams, hended⟩ := endSubscription_client c₁ tag result
    obtain ⟨hub, rfl⟩ := hcontinuing.client
    exact ⟨none, next_of_over (congrArg (·.jobs) hended)⟩
  | describes hbegin =>
    obtain ⟨r, rfl, hentered⟩ := beginDescription_entered hbegin
    obtain ⟨⟨hub, rfl⟩, -⟩ := beginDescription_client hbegin
    obtain ⟨hticket, hlength⟩ := hentered.ticket_eq
    exact ⟨_, next_of_asked rfl rfl (hentered.response List.mem_cons_self) (congrArg some hticket) hlength⟩
  | unsent hbegin =>
    obtain ⟨⟨hub, rfl⟩, -⟩ := beginDescription_client hbegin
    exact ⟨none, next_of_over rfl⟩
  | looked hnone => exact absurd (Response.eq_waiting_of_take hnone) hrests
  | described => exact ⟨none, next_of_over rfl⟩
  | rejected => exact ⟨none, next_of_over rfl⟩

theorem Apart.runJob {tag : String} {job : Job} (h : Apart c ((tag, job) :: rest))
    (htracked : IsTracked timeout c ((tag, job) :: rest)) : Apart (c.runJob tag job) rest := by
  have hlength := htracked.length_le (moves_runJob c rest tag job)
  have hdiscovery := (runJob_worked c tag job).discovery
  have hbefore := tickets_cons c rest tag job
  obtain ⟨next, hnext⟩ := runJob_next c tag job
  cases next with
  | none =>
    refine h.of_sublist hlength ?_
    rw [tickets_congr (c := c) (hnext.jobs.trans (List.append_nil _)) hdiscovery]
    exact (((List.sublist_cons_self _ _).append_left _).filterMap _).append_right _
  | some j =>
    have hafter : ((c.runJob tag job).tickets rest).Perm (j.ticket?.toList ++ c.tickets rest) := by
      rw [tickets_congr (c := c.addJob tag j) hnext.jobs hdiscovery]
      exact tickets_addJob tag j
    rcases hnext.ticket j rfl with rfl | ⟨hnone, hnew, hlt⟩
    · exact h.of_perm hlength (hafter.trans hbefore.symm)
    · refine h.of_asked hlt (hafter.trans ?_)
      rw [hnew]
      rw [hnone] at hbefore
      exact hbefore.symm.cons _

/-! ### The turn of the discovery -/

theorem Discovery.ticket?_of_stream? {d : Option Discovery} (h : d.bind Discovery.stream? = none) :
    d.bind Discovery.ticket? = none := by
  cases d with
  | none => rfl
  | some d =>
    cases d with
    | acknowledgement generation ticket => cases h
    | _ => rfl

/-- What becomes of the discovery in its turn: it waits on, or for what it has just asked for, it has read
all of its stream, or it is over. -/
structure Paused (c c' : Client) : Prop where
  jobs : c'.jobs = c.jobs
  rests : ∀ d ∈ c'.discovery, d.Rests c'
  ticket : c'.discovery.bind Discovery.ticket? = none ∨ c'.discovery = c.discovery ∨
    c.discovery.bind Discovery.ticket? = none ∧
      c'.discovery.bind Discovery.ticket? = some c.link.calls.responses.length ∧
      c.link.calls.responses.length < c'.link.calls.responses.length

theorem paused_of_over (hjobs : c'.jobs = c.jobs) (hnone : c'.discovery = none) : Paused c c' := by
  refine ⟨hjobs, ?_, .inl ?_⟩
  · rw [hnone]
    exact nofun
  · rw [hnone]
    rfl

theorem eventsOf_drain (streams : List Stream) (stream : Nat) :
    Stream.eventsOf (Stream.update streams stream Stream.drain) stream = [] := by
  refine List.flatMap_eq_nil_iff.2 fun st hst => ?_
  obtain ⟨hmem, hid⟩ := List.mem_filter.1 hst
  obtain ⟨before, -, rfl⟩ := List.mem_map.1 hmem
  split
  · rfl
  · rename_i hne
    rw [if_neg hne] at hid
    exact absurd (of_decide_eq_true hid) hne

theorem paused_follow {stream : Nat} (h : c.discovery = some (.following stream)) :
    Paused c (c.follow stream) := by
  obtain ⟨discovery, hclient, hretires, -⟩ := follow_client c stream
  rw [hclient]
  rcases hretires with rfl | ⟨rfl, hopen⟩
  · exact paused_of_over rfl rfl
  · refine ⟨rfl, fun d hd => ?_, .inr (.inl rfl)⟩
    cases h.symm.trans hd
    exact Prod.ext (eventsOf_drain _ _) hopen

theorem runDiscovery_paused (c : Client) : Paused c c.runDiscovery := by
  have hjobs := (hubOnly_runDiscovery c).jobs
  have hturn := runDiscovery_turn c
  generalize c.runDiscovery = c', c.conclusion? = result at hjobs hturn ⊢
  cases hturn with
  | idle hd => exact paused_of_over rfl hd
  | asked hd hopening =>
    obtain ⟨hwaits, rfl, hlength⟩ := hopening.rests
    refine ⟨hjobs, fun d hd => ?_, .inr (.inr ⟨by rw [hd]; rfl, rfl, hlength⟩)⟩
    cases hd
    exact hwaits
  | @refused cause c₁ => exact paused_of_over hjobs (c₁.failDiscovery_aside cause).2
  | waits hd hcontinuing =>
    have hsame : c' = c :=
      congrArg Prod.snd (hcontinuing.eq.symm.trans hcontinuing.rests.continueSubscription)
    subst hsame
    refine ⟨rfl, fun d hd' => ?_, .inr (.inl rfl)⟩
    cases hd.symm.trans hd'
    exact hcontinuing.rests
  | @failed _ _ cause c₁ => exact paused_of_over hjobs (c₁.failDiscovery_aside cause).2
  | @learnt _ _ info c₁ =>
    let learnt : Client := { c₁.learn info with discovery := some (.following info.stream) }
    have hfollowed : Paused learnt (learnt.follow info.stream) := paused_follow rfl
    refine ⟨hjobs, hfollowed.rests, .inl ?_⟩
    rcases (learnt.follow_aside info.stream).2 with hsame | hnone
    · exact congrArg (·.bind Discovery.ticket?) hsame
    · exact congrArg (·.bind Discovery.ticket?) hnone
  | followed hd => exact paused_follow hd

/-! ### All deeds -/

theorem retires_handleConnected (c : Client) : c.Retires c.handleConnected := .inr rfl

theorem retires_handleDisconnected (c : Client) : c.Retires c.handleDisconnected :=
  .inr (congrArg (·.bind Discovery.stream?) (discovery_handleDisconnected c))

theorem retires_act {a : Action} (ha : ∀ ms, a ≠ .advance ms) : c.Retires (c.act a).2 := by
  have hacts := act_onConnection c ha
  generalize (c.act a).2 = c' at hacts ⊢
  cases hacts with
  | ordinary _ _ hdiscovery => exact .inl hdiscovery
  | forced => exact .inl rfl
  | heard text => exact .inl rfl
  | connected => exact retires_handleConnected c
  | disconnected => exact retires_handleDisconnected c
  | shutdown => exact retires_handleDisconnected c.unhosted
  | letGo tag =>
    unfold dropHeld
    split <;> exact .inl rfl

theorem tickets_onJobs {a : Action} (jobs : List (String × Job)) :
    ((a.onJobs jobs).filterMap (·.2.ticket?)).Sublist (jobs.filterMap (·.2.ticket?)) := by
  cases a with
  | subscribe => simp [Action.onJobs, Job.ticket?]
  | describe => simp [Action.onJobs, Job.ticket?]
  | cancel tag => exact List.filter_sublist.filterMap _
  | _ => exact .refl _

theorem Apart.of_retires (h : Apart c [])
    (hlength : c.link.calls.responses.length ≤ c'.link.calls.responses.length)
    (hjobs : (c'.jobs.filterMap (·.2.ticket?)).Sublist (c.jobs.filterMap (·.2.ticket?)))
    (hretires : c.Retires c') : Apart c' [] := by
  refine h.of_sublist hlength ?_
  unfold tickets
  rw [List.append_nil, List.append_nil]
  refine hjobs.append ?_
  rcases hretires with hsame | hnone
  · rw [hsame]
  · rw [Discovery.ticket?_of_stream? hnone]
    exact List.nil_sublist _

theorem Apart.runDiscovery (h : Apart c []) (htracked : IsTracked timeout c []) : Apart c.runDiscovery [] := by
  have hlength := htracked.length_le (moves_runDiscovery c [])
  have hpaused := runDiscovery_paused c
  rcases hpaused.ticket with hnone | hsame | ⟨hnone, hnew, hlt⟩
  · refine h.of_sublist hlength ?_
    unfold tickets
    rw [hpaused.jobs, hnone]
    exact (List.nil_sublist _).append_left _
  · refine h.of_sublist hlength ?_
    rw [tickets_congr hpaused.jobs hsame]
  · refine h.of_asked hlt ?_
    unfold tickets
    rw [hpaused.jobs, hnone, hnew]
    exact List.perm_append_comm.trans (by simp)

theorem Apart.deed {d : Deed} (h : Apart c []) (htracked : IsTracked timeout c []) (hdoes : Does c d c') :
    Apart c' [] := by
  have hlength := htracked.length_le hdoes.moves
  cases hdoes with
  | @acted a ha =>
    refine h.of_retires hlength ?_ (retires_act ha)
    rw [jobs_act c ha]
    exact tickets_onJobs _
  | advanced ms => exact h
  | told s =>
    refine h.of_retires hlength ?_ ?_
    · rw [(hubOnly_handleStatus c s).jobs]
    · cases s with
      | connected => exact retires_handleConnected c
      | notConnected => exact retires_handleDisconnected c
      | _ => exact .inl rfl
  | emptied => exact h.of_sublist hlength (.refl _)
  | polled =>
    obtain ⟨link, monitor, hclient⟩ := runMonitor_client c
    refine h.of_sublist hlength ?_
    rw [tickets_congr (c := c) (congrArg (·.jobs) hclient) (congrArg (·.discovery) hclient)]
  | discovered => exact h.runDiscovery htracked
  | @worked before after tag job hjobs =>
    have hperm := perm_of_middle hjobs
    have haside : IsTracked timeout (c.withJobs (before ++ after)) [(tag, job)] :=
      htracked.of_perm rfl rfl rfl hperm
    have hapart : Apart (c.withJobs (before ++ after)) [(tag, job)] :=
      h.of_perm (Nat.le_refl _) ((hperm.filterMap _).append_right _)
    exact hapart.runJob haside
  | swept t => exact h.of_sublist hlength (.refl _)
  | timed t => exact h.of_sublist hlength (.refl _)

/-- What holds of every client that came from a new one. -/
structure Reached (timeout : Nat) (c : Client) : Prop where
  isTracked : IsTracked timeout c []
  apart : Apart c []
  owned : ∃ s, Tracks timeout c [] s ∧ s.Kept ∧ s.Owned

theorem Reached.deed {d : Deed} (h : Reached timeout c) (hdoes : Does c d c') : Reached timeout c' := by
  refine ⟨hdoes.isTracked h.isTracked, h.apart.deed h.isTracked hdoes, ?_⟩
  obtain ⟨s, hs, hk, ho⟩ := h.owned
  obtain ⟨moves, s', htrace, hs', -⟩ := hdoes.moves s hs
  exact ⟨s', hs', Scene.kept_of_trace htrace hk, Scene.owned_of_trace htrace hk ho⟩

theorem Reached.trace {log : List Deed} (h : Reached timeout c) (htrace : Trace Does c log c') :
    Reached timeout c' :=
  htrace.keeps (fun _ _ _ hx hdoes => hx.deed hdoes) h

theorem Reached.performs {actions : List Action} (h : Reached timeout c) (hrun : c.Performs actions c') :
    Reached timeout c' := by
  obtain ⟨log, htrace, -⟩ := hrun
  exact h.trace htrace

theorem reached_of_new {endpoint : String} {options : Options} (hnew : Client.new endpoint options = .ok c)
    (inBackground : Bool) :
    Reached (options.linkSettings endpoint).callTimeout (c.started inBackground) := by
  obtain ⟨-, hjobs, -, hdiscovery⟩ := started_of_new hnew inBackground
  have hnone : (c.started inBackground).tickets [] = [] := by
    unfold tickets
    rw [hjobs, hdiscovery]
    rfl
  refine ⟨isTracked_of_new hnew inBackground, ⟨?_, ?_⟩, _, tracks_of_new hnew inBackground,
    Scene.kept_start _, Scene.owned_start _⟩
  · rw [hnone]
    exact List.nodup_nil
  · rw [hnone]
    exact nofun

end Client
end ServiceLink
