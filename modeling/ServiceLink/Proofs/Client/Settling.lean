import ServiceLink.Proofs.Client.Runs
import ServiceLink.Proofs.Client.Telling

/-! The settling of a client. Jobs wait for it, whatever the client does before, and a job whose answer is
at hand is then done. -/

namespace ServiceLink

theorem Registry.current?_discard (r : Registry) (service : String) (generation : Nat) :
    (r.discard service generation).current? service generation = none := by
  unfold discard
  cases hc : r.current? service generation with
  | none => simpa using hc
  | some e =>
    rw [if_pos (by simp), current?, entry?_erase, if_pos rfl]
    rfl

namespace Client

open Scene (Step)

variable {timeout : Nat} {c c' : Client} {rest rest' : List (String × Job)}

/-! ### The background leaves the jobs and the clock -/

/-- A change of the hub and the discovery alone. -/
def HubOnly (c c' : Client) : Prop := ∃ hub discovery, c' = { c with hub, discovery }

namespace HubOnly

theorem refl (c : Client) : c.HubOnly c := ⟨_, _, rfl⟩

theorem trans {c'' : Client} (h : c.HubOnly c') (h' : c'.HubOnly c'') : c.HubOnly c'' := by
  obtain ⟨hub, discovery, rfl⟩ := h
  obtain ⟨hub', discovery', rfl⟩ := h'
  exact ⟨hub', discovery', rfl⟩

theorem foldl {α : Type} {f : Client → α → Client} (hf : ∀ c a, HubOnly c (f c a)) (as : List α)
    (c : Client) : c.HubOnly (as.foldl f c) := by
  induction as generalizing c with
  | nil => exact refl c
  | cons a as ih => exact (hf c a).trans (ih _)

theorem jobs (h : c.HubOnly c') : c'.jobs = c.jobs := by
  obtain ⟨hub, discovery, rfl⟩ := h
  rfl

theorem now (h : c.HubOnly c') : c'.now = c.now := by
  obtain ⟨hub, discovery, rfl⟩ := h
  rfl

theorem monitor (h : c.HubOnly c') : c'.monitor = c.monitor := by
  obtain ⟨hub, discovery, rfl⟩ := h
  rfl

theorem isWatching (h : c.HubOnly c') : c'.isWatching = c.isWatching := by
  obtain ⟨hub, discovery, rfl⟩ := h
  rfl

theorem results (h : c.HubOnly c') : c'.results = c.results := by
  obtain ⟨hub, discovery, rfl⟩ := h
  rfl

end HubOnly

theorem hubOnly_abortDiscovery (c : Client) : c.HubOnly c.abortDiscovery := by
  unfold abortDiscovery
  split <;> exact ⟨_, _, rfl⟩

theorem hubOnly_handleConnected (c : Client) : c.HubOnly c.handleConnected :=
  (hubOnly_abortDiscovery c).trans ⟨_, _, rfl⟩

theorem hubOnly_handleDisconnected (c : Client) : c.HubOnly c.handleDisconnected :=
  (hubOnly_abortDiscovery c).trans ⟨_, _, rfl⟩

theorem hubOnly_handleStatus (c : Client) (status : Status) : c.HubOnly (c.handleStatus status) := by
  cases status with
  | connected => exact hubOnly_handleConnected c
  | notConnected => exact hubOnly_handleDisconnected c
  | _ => exact .refl c

theorem hubOnly_runWatcher (c : Client) : c.HubOnly c.runWatcher := by
  have hmapped : c.HubOnly (c.mapLink fun l => { l with events := [] }) := ⟨_, _, rfl⟩
  unfold runWatcher
  split
  · exact hmapped.trans (.foldl hubOnly_handleStatus _ _)
  · exact .refl c

theorem hubOnly_learn (c : Client) (info : SubscriptionInfo) : c.HubOnly (c.learn info) := by
  unfold learn
  dsimp only
  split <;> exact ⟨_, _, rfl⟩

theorem hubOnly_followEvent (c : Client) (event : Event) : c.HubOnly (c.followEvent event) := by
  cases event with
  | changed property value =>
    dsimp only [followEvent]
    split <;> exact ⟨_, _, rfl⟩
  | ended => exact ⟨_, _, rfl⟩

theorem hubOnly_follow (c : Client) (stream : Nat) : c.HubOnly (c.follow stream) := by
  have hdrained : c.HubOnly { c with hub := c.hub.updateStream stream Stream.drain } := ⟨_, _, rfl⟩
  have hfollowed := hdrained.trans
    (.foldl hubOnly_followEvent (Stream.eventsOf c.hub.streams stream) _)
  unfold follow
  dsimp only
  split
  · exact hfollowed.trans ⟨_, _, rfl⟩
  · exact hfollowed

theorem hubOnly_failDiscovery (c : Client) (cause : SubscriptionError) :
    c.HubOnly (c.failDiscovery cause) := by
  unfold failDiscovery
  dsimp only
  split <;> exact ⟨_, _, rfl⟩

theorem hubOnly_runDiscovery (c : Client) : c.HubOnly c.runDiscovery := by
  unfold runDiscovery
  split
  · exact .refl c
  · have hbegun : c.HubOnly (c.beginSubscription ServiceList.discoveryName [listProperty]).2 := by
      obtain ⟨hub, hclient⟩ := beginSubscription_client c ServiceList.discoveryName [listProperty]
      exact ⟨hub, c.discovery, hclient⟩
    split
    · rename_i heq
      rw [heq] at hbegun
      exact hbegun.trans ⟨_, _, rfl⟩
    · rename_i heq
      rw [heq] at hbegun
      exact hbegun.trans (hubOnly_failDiscovery _ _)
  · rename_i generation ticket _
    have hcontinued :
        c.HubOnly (c.continueSubscription ServiceList.discoveryName generation ticket).2 := by
      obtain ⟨hub, hclient⟩ :=
        continueSubscription_client c ServiceList.discoveryName generation ticket
      exact ⟨hub, c.discovery, hclient⟩
    split
    · rename_i heq
      rw [heq] at hcontinued
      exact hcontinued
    · rename_i heq
      rw [heq] at hcontinued
      exact hcontinued.trans (hubOnly_failDiscovery _ _)
    · rename_i info _ heq
      rw [heq] at hcontinued
      have hlearnt := hcontinued.trans (hubOnly_learn _ info)
      exact (hlearnt.trans ⟨_, _, rfl⟩).trans (hubOnly_follow _ _)
  · exact hubOnly_follow c _

theorem runMonitor_client (c : Client) : ∃ link monitor,
    c.runMonitor = { c with hub := { c.hub with link }, monitor } := by
  unfold runMonitor
  split <;> exact ⟨_, _, rfl⟩

theorem background_client (c : Client) :
    ∃ hub discovery monitor, c.runMonitor.runWatcher.runDiscovery = { c with hub, discovery, monitor } := by
  obtain ⟨link, monitor, hmonitor⟩ := runMonitor_client c
  obtain ⟨hub', discovery, hclient⟩ := (hubOnly_runWatcher c.runMonitor).trans (hubOnly_runDiscovery _)
  exact ⟨hub', discovery, monitor, by rw [hclient, hmonitor]⟩

theorem jobs_background (c : Client) : c.runMonitor.runWatcher.runDiscovery.jobs = c.jobs := by
  obtain ⟨hub, discovery, monitor, hclient⟩ := background_client c
  rw [hclient]

theorem now_background (c : Client) : c.runMonitor.runWatcher.runDiscovery.now = c.now := by
  obtain ⟨hub, discovery, monitor, hclient⟩ := background_client c
  rw [hclient]

/-! ### The acknowledged job -/

theorem endSubscription_client (c : Client) (tag : String) (result : Except SubscriptionError SubscriptionInfo) :
    ∃ results held streams,
      c.endSubscription tag result = { c with results, held, hub := { c.hub with streams } } := by
  cases result with
  | error cause => exact ⟨_, _, _, rfl⟩
  | ok info =>
    dsimp only [endSubscription, giveHeld, dropHeld]
    split <;> exact ⟨_, _, _, rfl⟩

theorem registry_runJob (c : Client) (tag service : String) (generation : Nat) (ticket : Ticket) :
    (c.runJob tag (.acknowledgement service generation ticket)).registry =
      (c.continueSubscription service generation ticket).2.registry := by
  unfold runJob
  dsimp only
  cases c.continueSubscription service generation ticket with
  | mk result c₁ =>
    cases result with
    | none => rfl
    | some result =>
      obtain ⟨results, held, streams, hended⟩ := endSubscription_client c₁ tag result
      exact congrArg (·.registry) hended

theorem continueSubscription_acknowledged {service : String} {generation : Nat} {ticket : Ticket}
    {ack : Json} (hack : Calls.Decided ticket (.ok ack) c.link.calls)
    (hversion : (Schema.read ack).version ≠ none) {f : Entry}
    (hf : (c.continueSubscription service generation ticket).2.registry.current? service generation =
      some f) : ∃ live, f.live = some live ∧ live.schema = Schema.read ack := by
  obtain ⟨version, hversion⟩ := Option.ne_none_iff_exists'.1 hversion
  let taken := (c.takeOutcome ticket).2
  have hresult : (c.takeOutcome ticket).1 = (c.link.calls.response ticket).take.1 := rfl
  unfold continueSubscription at hf
  rcases hack.response with hr | hr
  · have htake : c.takeOutcome ticket = (some (.ok ack), taken) :=
      Prod.ext (hresult.trans (by rw [hr]; rfl)) rfl
    rw [htake] at hf
    dsimp only at hf
    rw [hversion] at hf
    dsimp only [acknowledge] at hf
    cases hcurrent : taken.registry.current? service generation with
    | none =>
      rw [hcurrent] at hf
      exact absurd (hcurrent.symm.trans hf) nofun
    | some e =>
      rw [hcurrent] at hf
      obtain ⟨hentry, -⟩ := Registry.entry?_of_current? hf
      have hestablished := Registry.entry?_establish taken.registry taken.link service service e
        (Schema.read ack)
      rw [if_pos rfl] at hestablished
      cases Option.some.inj (hentry.symm.trans hestablished)
      exact ⟨_, rfl, rfl⟩
  · -- somebody took the answer, and the attempt takes itself back
    have htake : c.takeOutcome ticket = (some (.error .dropped), taken) :=
      Prod.ext (hresult.trans (by rw [hr]; rfl)) rfl
    rw [htake] at hf
    have hgone := taken.registry.current?_discard service generation
    exact absurd (hgone.symm.trans hf) nofun

/-! ### The settling client -/

theorem Tracks.subscription_eq {s : Scene} (hs : Tracks timeout c rest s) (service : String) :
    s.subscription? service = c.registry.entry? service := by
  rw [Scene.subscription?, hs.hub]
  rfl

theorem Tracks.pending {s : Scene} (hs : Tracks timeout c rest s) {w : Waiting}
    (hw : w ∈ c.waiting rest) {service : String} {e : Entry} (he : s.subscription? service = some e)
    (hg : e.generation = w.generation) : e.live = none := by
  obtain ⟨a, ha, -⟩ := hs.waiting w hw
  exact (hs.orderly.numbered.own _ a service e ha he hg).2.2

/-- Until the turn of a job and from then on, a settling client makes moves. -/
theorem moves_settle_of_job {tag : String} {job : Job} (hjob : (tag, job) ∈ c.jobs) :
    ∃ reached after, Moves timeout c [] [] reached ((tag, job) :: after) ∧
      Moves timeout (reached.runJob tag job) after [] c.settle [] := by
  let background := c.runMonitor.runWatcher.runDiscovery
  have hjobs : background.jobs = c.jobs := jobs_background c
  obtain ⟨before, after, hsplit⟩ := List.append_of_mem hjob
  let reached := before.foldl (fun c job => c.runJob job.1 job.2) { background with jobs := [] }
  refine ⟨reached, after, ?_, ?_⟩
  · have hbackground : Moves timeout c [] [] background [] :=
      ((moves_runMonitor c []).then (moves_runWatcher _ [])).then (moves_runDiscovery _ [])
    refine (hbackground.then (moves_setAside background)).then ?_
    rw [hjobs, hsplit]
    exact moves_foldl_runJob _ before _
  · have hsettle : c.settle =
        after.foldl (fun c job => c.runJob job.1 job.2) (reached.runJob tag job) := by
      show background.runJobs = _
      unfold runJobs
      rw [hjobs, hsplit, List.foldl_append, List.foldl_cons]
    have hfold := @moves_foldl_runJob timeout (reached.runJob tag job) after []
    rwa [List.append_nil, ← hsettle] at hfold

/-- A client that settles with an acknowledgement at hand makes the subscription live, unless it is gone
then; what was pushed before is not told. -/
theorem informed_settle {s : Scene} (hs : Tracks timeout c [] s) (hk : s.Kept) {tag service : String}
    {generation : Nat} {ticket : Ticket} {ack : Json}
    (hjob : (tag, .acknowledgement service generation ticket) ∈ c.jobs)
    (hack : Calls.Decided ticket (.ok ack) c.link.calls) (hversion : (Schema.read ack).version ≠ none) :
    ∃ moves s', Trace (Step timeout) s moves s' ∧ Tracks timeout c.settle [] s' ∧
      Told c moves c.settle ∧
      ∀ f, s'.subscription? service = some f → f.generation = generation → ∃ live,
        f.live = some live ∧ live.schema = Schema.read ack ∧
          live.feed.properties = live.schema.properties ∧ s'.Informed service f [] := by
  obtain ⟨reached, after, hreach, hrest⟩ := @moves_settle_of_job timeout _ _ _ hjob
  -- the scene before the job goes on, right after it, and once the client has settled
  obtain ⟨moves₁, s₁, htrace₁, hs₁, hsilent₁, htold₁⟩ := hreach s hs
  obtain ⟨moves₂, s₂, htrace₂, hs₂, hsilent₂, htold₂⟩ := moves_runJob reached after tag _ s₁ hs₁
  obtain ⟨moves₃, s₃, htrace₃, hs₃, hsilent₃, htold₃⟩ := hrest s₂ hs₂
  have htrace : Trace (Step timeout) s (moves₁ ++ moves₂) s₂ := htrace₁.append htrace₂
  have htold : Told c (moves₁ ++ moves₂) _ := htold₁.trans htold₂
  refine ⟨_, s₃, htrace.append htrace₃, hs₃, htold.trans htold₃, fun f hf hg => ?_⟩
  have hmayFollow := hs.not_mayFollow (List.mem_append_left _ hjob)
  have hw : ⟨service, generation, ticket⟩ ∈ c.waiting [] := mem_waiting (List.mem_append_left _ hjob)
  have hle : generation ≤ s.hub.registry.generation := hs.generation_le hw
  have hle₂ := Nat.le_trans hle (Scene.generation_le_of_trace htrace)
  -- the entry that stands in the end stood at each of these times
  obtain ⟨f₂, hf₂, hg₂⟩ := Scene.stands_of_trace htrace₃ ⟨f, hf, hg⟩ hle₂
  obtain ⟨e, he, hge⟩ := Scene.stands_of_trace htrace ⟨f₂, hf₂, hg₂⟩ hle
  obtain ⟨live, hlive, hschema⟩ : ∃ live, f₂.live = some live ∧ live.schema = Schema.read ack := by
    have hdecided := (Scene.history_of_trace htrace₁).decided (by rw [hs.hub]; exact hack)
    rw [hs₁.hub] at hdecided
    have hcurrent : (reached.continueSubscription service generation ticket).2.registry.current?
        service generation = some f₂ := by
      rw [← registry_runJob reached tag, registry, ← hs₂.hub]
      exact Option.filter_eq_some_iff.2 ⟨hf₂, decide_eq_true hg₂⟩
    exact continueSubscription_acknowledged hdecided hversion hcurrent
  have hsilent : (moves₁ ++ moves₂).filterMap Move.message? = [] := by
    rw [List.filterMap_append, hsilent₁, hsilent₂]
    rfl
  obtain ⟨hinformed, hproperties⟩ := Scene.informed_of_silent htrace hk he (hs.pending hw he hge)
    hsilent (fun hmem => hmayFollow (htold.drained _ (hge ▸ hmem))) hf₂ (hg₂.trans hge.symm) hlive
  have hthen : s₃.Informed service f₂ [] := by
    have hmoved := Scene.informed_of_trace htrace₃ (Scene.kept_of_trace htrace hk) hinformed
      (by rw [hlive]; exact Option.some_ne_none _) ⟨f, hf, hg.trans hg₂.symm⟩
      fun hmem => hmayFollow (htold.follows _ (htold₃.drained _ (hg₂ ▸ hmem)))
    rwa [hsilent₃] at hmoved
  have hentry := hthen.entry
  rw [hf, Entry.after_nil] at hentry
  cases hentry
  exact ⟨live, hlive, hschema, hproperties, hthen⟩

/-! ### Bursts -/

/-- Actions without a settling between them. -/
def burst (c : Client) (actions : List Action) : Client := actions.foldl (fun c a => (c.act a).2) c

/-- Bursts of actions, after each of which the client settles. -/
def bursts (c : Client) (actions : List (List Action)) : Client :=
  actions.foldl (fun c actions => (c.burst actions).settle) c

theorem bursts_append (c : Client) (actions more : List (List Action)) :
    c.bursts (actions ++ more) = (c.bursts actions).bursts more := List.foldl_append

theorem burst_frame (c : Client) (text : String) : c.burst [.frame text] = c.handleFrame text := rfl

theorem bursts_frame (c : Client) (text : String) :
    c.bursts [[.frame text]] = (c.handleFrame text).settle := rfl

theorem moves_burst (c : Client) (actions : List Action) :
    Moves timeout c [] (actions.flatMap Action.messages) (c.burst actions) [] := by
  induction actions generalizing c with
  | nil => exact moves_refl timeout c []
  | cons a actions ih => exact (moves_act c a).trans (ih _)

theorem moves_bursts (c : Client) (actions : List (List Action)) :
    Moves timeout c [] (actions.flatten.flatMap Action.messages) (c.bursts actions) [] := by
  induction actions generalizing c with
  | nil => exact moves_refl timeout c []
  | cons burst actions ih =>
    have hsettled : Moves timeout (c.burst burst) [] _ _ [] := (moves_settle _).then (ih _)
    rw [List.flatten_cons, List.flatMap_append]
    exact (moves_burst c burst).trans hsettled

/-- An action after which a job is still there: it lets no time pass, and does not cancel the tag of the job. -/
def Action.Leaves (tag : String) : Action → Prop
  | .cancel other => other ≠ tag
  | .advance _ => False
  | _ => True

theorem Acts.others {a : Action} (h : Acts c a c') : c'.jobs = a.onJobs c.jobs ∧ c'.now = c.now ∧
    ∀ m ∈ c'.monitor, m ∈ c.monitor ∨ ∃ before ∈ c.monitor, m = a.onMonitor before := by
  have hclient : ∀ {a c'}, a.onJobs c.jobs = c.jobs → c.HubOnly c' →
      c'.jobs = Action.onJobs c.jobs a ∧ c'.now = c.now ∧
        ∀ m ∈ c'.monitor, m ∈ c.monitor ∨ ∃ before ∈ c.monitor, m = a.onMonitor before := by
    rintro a _ hjobs ⟨hub, discovery, rfl⟩
    exact ⟨hjobs.symm, rfl, fun _ hm => .inl hm⟩
  cases h with
  | aside _ _ hmonitor =>
    refine ⟨rfl, rfl, fun m hm => ?_⟩
    rcases hmonitor with rfl | rfl
    · exact .inl hm
    · obtain ⟨before, hbefore, rfl⟩ := Option.map_eq_some_iff.1 hm
      exact .inr ⟨before, hbefore, rfl⟩
  | linked hlinks => exact hclient (hlinks.onJobs _) ⟨_, _, rfl⟩
  | take ticket => exact hclient rfl ⟨_, _, rfl⟩
  | forget ticket => exact hclient rfl ⟨_, _, rfl⟩
  | openSocket => exact hclient rfl ⟨_, _, rfl⟩
  | frame text => exact hclient rfl ⟨_, _, rfl⟩
  | cancel tag =>
    obtain ⟨calls, results, hcancelled⟩ := cancel_client c tag
    rw [hcancelled]
    exact ⟨rfl, rfl, fun _ hm => .inl hm⟩
  | letGo tag =>
    unfold dropHeld
    split <;> exact ⟨rfl, rfl, fun _ hm => .inl hm⟩
  | unsubscribe service =>
    obtain ⟨hub, hended⟩ := unsubscribe_client c service
    exact hclient rfl ⟨hub, _, hended⟩
  | connected => exact hclient rfl (hubOnly_handleConnected c)
  | disconnected => exact hclient rfl (hubOnly_handleDisconnected c)
  | shutdown =>
    obtain ⟨hub, discovery, hshut⟩ := hubOnly_handleDisconnected c.unhosted
    rw [hshut]
    exact ⟨rfl, rfl, nofun⟩

theorem jobs_act (c : Client) {a : Action} (ha : ∀ ms, a ≠ .advance ms) : (c.act a).2.jobs = a.onJobs c.jobs :=
  (act_acts c ha).others.1

theorem now_act (c : Client) {a : Action} (ha : ∀ ms, a ≠ .advance ms) : (c.act a).2.now = c.now :=
  (act_acts c ha).others.2.1

theorem monitor_act (c : Client) {a : Action} (ha : ∀ ms, a ≠ .advance ms) {m : Link.Monitor}
    (hm : m ∈ (c.act a).2.monitor) : m ∈ c.monitor ∨ ∃ before ∈ c.monitor, m = a.onMonitor before :=
  (act_acts c ha).others.2.2 m hm

theorem mem_jobs_act {job : String × Job} (h : job ∈ c.jobs) {a : Action} (ha : a.Leaves job.1) :
    job ∈ (c.act a).2.jobs := by
  have hnow : ∀ ms, a ≠ .advance ms := by
    rintro ms rfl
    exact ha
  rw [jobs_act c hnow]
  cases a with
  | subscribe => exact List.mem_append_left _ h
  | describe => exact List.mem_append_left _ h
  | cancel tag => exact List.mem_filter.2 ⟨h, decide_eq_true (Ne.symm ha)⟩
  | _ => exact h

theorem mem_jobs_burst {job : String × Job} (h : job ∈ c.jobs) {actions : List Action}
    (hactions : ∀ a ∈ actions, a.Leaves job.1) : job ∈ (c.burst actions).jobs := by
  induction actions generalizing c with
  | nil => exact h
  | cons a actions ih =>
    exact ih (mem_jobs_act h (hactions a List.mem_cons_self))
      fun b hb => hactions b (List.mem_cons_of_mem a hb)

end Client
end ServiceLink
