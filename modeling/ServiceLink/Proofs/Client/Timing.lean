import ServiceLink.Proofs.Client.Resting

/-! A client in time. Its monitor sleeps after its turn, and what waits is left to wait by the turns of all
others, so that a client is at rest whenever it has settled. -/

namespace ServiceLink

namespace Client

variable {timeout : Nat} {c c' : Client} {rest : List (String × Job)} {tag : String} {job : Job}

/-! ### The turns of the others -/

theorem Tracks.generation_ne {s : Scene} (h : Tracks timeout c ((tag, job) :: rest) s) {w : Waiting}
    (hw : w ∈ c.waiting rest) : job.generation? ≠ some w.generation := by
  intro hg
  obtain ⟨own, hown, hg⟩ := Option.map_eq_some_iff.1 hg
  have hperm : (c.waiting ((tag, job) :: rest)).Perm (own :: c.waiting rest) := by
    have hjobs := filterMap_cons_perm Job.waiting? c.jobs rest tag job
    rw [hown] at hjobs
    exact hjobs.append_right _
  have hdistinct := (hperm.map (·.generation)).nodup_iff.1 h.distinct
  rw [List.map_cons, hg] at hdistinct
  exact (List.nodup_cons.1 hdistinct).1 (List.mem_map_of_mem hw)

theorem Tracks.generation_ne_following {s : Scene} (h : Tracks timeout c ((tag, job) :: rest) s)
    {stream : Nat} (hd : c.discovery = some (.following stream)) : job.generation? ≠ some stream := by
  intro hg
  obtain ⟨own, hown, rfl⟩ := Option.map_eq_some_iff.1 hg
  have hmem : own ∈ c.waiting ((tag, job) :: rest) :=
    List.mem_append_left _ (List.mem_filterMap.2 ⟨(tag, job), by simp, hown⟩)
  obtain ⟨a, ha, -⟩ := h.waiting own hmem
  cases ha.symm.trans (h.following _ hd).2

theorem Apart.ticket_ne (h : Apart c ((tag, job) :: rest)) {t : Ticket} (ht : t ∈ c.tickets rest) :
    job.ticket? ≠ some t := by
  intro hticket
  have hdistinct := (tickets_cons c rest tag job).nodup_iff.1 h.distinct
  rw [hticket] at hdistinct
  exact (List.nodup_cons.1 hdistinct).1 ht

theorem Yields.stands {h h' : Hub} (hy : Yields job h h') {service : String} {generation : Nat}
    (hs : h.registry.Stands service generation) (hne : job.generation? ≠ some generation) :
    h'.registry.Stands service generation := by
  obtain ⟨e, he, rfl⟩ := hs
  exact ⟨e, hy.entry service e he hne, rfl⟩

theorem hub_runJob (c : Client) (tag : String) (job : Job) :
    (c.runJob tag job).hub = (c.worked job).hub ∨
      ∃ stream ∈ c.held.find? tag,
        (c.runJob tag job).hub = (c.worked job).hub.updateStream stream Stream.release := by
  have hworks := runJob_works c tag job
  generalize c.runJob tag job = c' at hworks ⊢
  cases hworks with
  | asked hopening => exact .inl (congrArg (·.2.hub) hopening.eq.symm)
  | refused hopening => exact .inl (congrArg (·.2.hub) hopening.eq.symm)
  | waits hcontinuing => exact .inl (congrArg (·.2.hub) hcontinuing.eq.symm)
  | @ended service generation ticket result c₁ hcontinuing =>
    have hworked : c.worked (.acknowledgement service generation ticket) = c₁ :=
      congrArg Prod.snd hcontinuing.eq
    rw [hworked]
    obtain ⟨hub, rfl⟩ := hcontinuing.client
    cases result with
    | error cause => exact .inl rfl
    | ok info =>
      dsimp only [endSubscription, giveHeld, dropHeld, addResult]
      cases hheld : c.held.find? tag with
      | none => exact .inl rfl
      | some stream => exact .inr ⟨stream, rfl, rfl⟩
  | describes hbegin => exact .inl (congrArg (·.2.hub) hbegin.symm)
  | unsent hbegin => exact .inl (congrArg (·.2.hub) hbegin.symm)
  | looked => exact .inl rfl
  | described => exact .inl rfl
  | rejected => exact .inl rfl

theorem eventsOf_release {streams : List Stream} {stream : Nat} (h : Stream.eventsOf streams stream = [])
    (other : Nat) : Stream.eventsOf (Stream.update streams other Stream.release) stream = [] := by
  refine List.flatMap_eq_nil_iff.2 fun st hst => ?_
  obtain ⟨hmem, hid⟩ := List.mem_filter.1 hst
  obtain ⟨before, hbefore, rfl⟩ := List.mem_map.1 hmem
  split
  · rfl
  · rename_i hne
    rw [if_neg hne] at hid
    exact List.flatMap_eq_nil_iff.1 h before (List.mem_filter.2 ⟨hbefore, hid⟩)

theorem Yields.streamNews {h h' : Hub} (hy : Yields job h h') {stream : Nat}
    (hne : job.generation? ≠ some stream) (hevents : Stream.eventsOf h.streams stream = [])
    (hopen : h.isClosed stream = false) :
    Stream.eventsOf h'.streams stream = [] ∧ h'.isClosed stream = false := by
  constructor
  · obtain ⟨new, hstreams, hnew⟩ := hy.streams
    unfold Stream.eventsOf at hevents ⊢
    rw [hstreams, List.filter_append, List.flatMap_append, hevents]
    exact List.flatMap_eq_nil_iff.2 fun st hst => (hnew st (List.mem_of_mem_filter hst)).2.1
  · simp only [Hub.isClosed, decide_eq_false_iff_not, not_and_or, not_not] at hopen ⊢
    refine hopen.imp (fun hholds => ?_) fun hfeeds => ?_
    · obtain ⟨service, hstands⟩ := Registry.holds_iff.1 hholds
      exact Registry.holds_iff.2 ⟨service, hy.stands hstands hne⟩
    · obtain ⟨x, hx, htap⟩ := List.any_eq_true.1 hfeeds
      exact List.any_eq_true.2 ⟨x, hy.listeners hx, htap⟩

/-- The jobs that had their turn, and the discovery, wait. -/
structure Calm (timeout : Nat) (c : Client) (rest : List (String × Job)) : Prop where
  isTracked : IsTracked timeout c rest
  apart : Apart c rest
  discovery : ∀ d ∈ c.discovery, d.Rests c
  jobs : ∀ job ∈ c.jobs, job.2.Rests c

theorem Calm.waiting_rests (h : Calm timeout c ((tag, job) :: rest)) {w : Waiting}
    (hw : w ∈ c.waiting rest) (hticket : w.ticket ∈ c.tickets rest) (hrests : w.Rests c) :
    w.Rests (c.runJob tag job) := by
  obtain ⟨s, hs, -⟩ := h.isTracked.tracked
  have hworked := runJob_worked c tag job
  have hyields := yields_worked c job
  have hknown := h.apart.known _ ((tickets_cons _ _ tag job).symm.subset (List.mem_append_right _ hticket))
  constructor
  · rw [hworked.link]
    exact (hyields.response _ hknown (h.apart.ticket_ne hticket)).trans hrests.1
  · rw [hworked.registry]
    exact hyields.stands hrests.2 (hs.generation_ne hw)

theorem Calm.runJob (h : Calm timeout c ((tag, job) :: rest)) : Calm timeout (c.runJob tag job) rest := by
  obtain ⟨s, hs, -⟩ := h.isTracked.tracked
  have hworked := runJob_worked c tag job
  have hyields := yields_worked c job
  refine ⟨h.isTracked.runJob, h.apart.runJob h.isTracked, fun d hd => ?_, fun x hx => ?_⟩
  · rw [hworked.discovery] at hd
    have hrests := h.discovery d hd
    cases d with
    | subscribe => exact hrests
    | acknowledgement generation ticket =>
      exact h.waiting_rests (mem_waiting_of_discovery hd rfl) (mem_tickets.2 (.inr ⟨_, hd, rfl⟩)) hrests
    | following stream =>
      obtain ⟨hevents, hopen⟩ := Prod.mk.inj hrests
      have hthen := hyields.streamNews (hs.generation_ne_following hd) hevents hopen
      have hnews : Stream.eventsOf (c.runJob tag job).hub.streams stream = [] ∧
          (c.runJob tag job).hub.isClosed stream = false := by
        rcases hub_runJob c tag job with hhub | ⟨other, -, hhub⟩
        · rw [hhub]
          exact hthen
        · rw [hhub]
          exact ⟨eventsOf_release hthen.1 other, hthen.2⟩
      exact Prod.ext hnews.1 hnews.2
  · obtain ⟨next, hnext⟩ := runJob_next c tag job
    rw [hnext.jobs] at hx
    rcases List.mem_append.1 hx with hx | hx
    · have hrests := h.jobs x hx
      have hmem : x ∈ c.jobs ++ rest := List.mem_append_left _ hx
      obtain ⟨other, x⟩ := x
      have hticket : ∀ t, x.ticket? = some t → t ∈ c.tickets rest := fun t ht =>
        mem_tickets.2 (.inl ⟨_, hmem, ht⟩)
      cases x with
      | subscribe => exact hrests
      | describe => exact hrests
      | acknowledgement service generation ticket =>
        exact h.waiting_rests (mem_waiting hmem) (hticket _ rfl) hrests
      | description ticket =>
        have hknown := h.apart.known ticket
          ((tickets_cons _ _ tag job).symm.subset (List.mem_append_right _ (hticket _ rfl)))
        show (c.runJob tag job).link.calls.response ticket = .waiting
        rw [hworked.link]
        exact (hyields.response _ hknown (h.apart.ticket_ne (hticket _ rfl))).trans hrests
    · obtain ⟨j, hj, rfl⟩ := Option.map_eq_some_iff.1 (Option.mem_toList.1 hx)
      exact hnext.rests j hj

theorem Calm.runJobs (h : Reached timeout c) (hdiscovery : ∀ d ∈ c.discovery, d.Rests c) :
    Calm timeout c.runJobs [] := by
  refine runJobs_keeps (P := Calm timeout) (fun _ _ _ _ h => h.runJob) ?_
  refine ⟨h.isTracked.of_subset (moves_setAside c) (by simp), ?_, fun d hd => ?_, nofun⟩
  · exact h.apart.of_perm (Nat.le_refl _) (.of_eq (by simp [tickets]))
  · cases d <;> exact hdiscovery _ hd

/-! ### The monitor -/

def PollsAtIntervals (c : Client) : Prop := ∀ m ∈ c.monitor, m.HasInterval

namespace PollsAtIntervals

theorem of_monitor (h : c.PollsAtIntervals) (hmonitor : c'.monitor = c.monitor) : c'.PollsAtIntervals := by
  unfold PollsAtIntervals
  rwa [hmonitor]

theorem runMonitor (h : c.PollsAtIntervals) :
    c.runMonitor.PollsAtIntervals ∧ ∀ m ∈ c.runMonitor.monitor, ¬ m.isAwake c.now := by
  unfold Client.runMonitor
  split
  · rename_i hnone
    exact ⟨h, fun m hm => nomatch hnone.symm.trans hm⟩
  · rename_i m hm
    have hinterval : m.HasInterval := h m hm
    refine ⟨fun m' hm' => ?_, fun m' hm' => ?_⟩
    · cases hm'
      exact hinterval.turn
    · cases hm'
      exact Bool.eq_false_iff.1 hinterval.asleep

theorem act (h : c.PollsAtIntervals) {a : Action} (ha : ∀ ms, a ≠ .advance ms) : (c.act a).2.PollsAtIntervals := by
  intro m hm
  rcases monitor_act c ha hm with hm | ⟨before, hbefore, rfl⟩
  · exact h m hm
  · have hinterval := h before hbefore
    cases a with
    | setVisible visible => exact hinterval.tell visible
    | _ => exact hinterval

theorem deed {d : Deed} (h : c.PollsAtIntervals) (hdoes : Does c d c') : c'.PollsAtIntervals := by
  cases hdoes with
  | acted ha => exact h.act ha
  | advanced => exact h
  | told s => exact h.of_monitor (hubOnly_handleStatus c s).monitor
  | emptied => exact h
  | polled => exact h.runMonitor.1
  | discovered => exact h.of_monitor (hubOnly_runDiscovery c).monitor
  | @worked before after tag job => exact h.of_monitor (runJob_worked (c.withJobs (before ++ after)) tag job).monitor
  | swept => exact h
  | timed => exact h

theorem performs {actions : List Action} (h : c.PollsAtIntervals) (hperforms : c.Performs actions c') :
    c'.PollsAtIntervals := by
  obtain ⟨log, htrace, -⟩ := hperforms
  exact htrace.keeps (fun _ _ _ hx hdoes => hx.deed hdoes) h

end PollsAtIntervals

/-! ### Rest -/

theorem events_handleStatus (c : Client) (s : Status) : (c.handleStatus s).link.events = c.link.events := by
  obtain ⟨calls, hlink⟩ := abortDiscovery_link c
  have habort : c.abortDiscovery.link.events = c.link.events := congrArg (·.events) hlink
  cases s with
  | connected => exact habort
  | notConnected => exact (congrArg (·.events) (rewired_handleDisconnected c).others).trans habort
  | _ => rfl

theorem events_runWatcher (h : c.runWatcher.isWatching) : c.runWatcher.link.events = [] := by
  have hfold : ∀ (events : List Status) (c : Client),
      (events.foldl handleStatus c).link.events = c.link.events := by
    intro events
    induction events with
    | nil => exact fun _ => rfl
    | cons s events ih => exact fun c => (ih _).trans (events_handleStatus c s)
  obtain ⟨hub, discovery, hclient⟩ := hubOnly_runWatcher c
  have hwatching : c.isWatching := by
    rw [hclient] at h
    exact h
  unfold runWatcher
  rw [if_pos hwatching]
  exact hfold _ _

theorem events_runDiscovery (h : c.link.events = []) : c.runDiscovery.link.events ⊆ [.ready] := by
  obtain ⟨job, hub, hturn, hlearns⟩ := (runDiscovery_turn c).learns
  have hattempted : hub.link.events = [] := hturn.events.trans h
  show c.runDiscovery.hub.link.events ⊆ _
  rcases hlearns.link with hsame | ⟨hmarked, -⟩
  · rw [hsame, hattempted]
    exact List.nil_subset _
  · rw [hmarked]
    unfold Link.markReady Link.moveTo
    split
    · split
      · simp [hattempted]
      · simp [hattempted]
    · simp [hattempted]

theorem events_runJobs (c : Client) : c.runJobs.link.events = c.link.events :=
  runJobs_keeps (P := fun d _ => d.link.events = c.link.events)
    (fun d tag job _ hd => by
      rw [(runJob_worked d tag job).link]
      exact (yields_worked d job).events.trans hd) rfl

theorem monitor_settle (c : Client) :
    c.settle.monitor = c.runMonitor.monitor ∧ c.settle.isWatching = c.runMonitor.runWatcher.isWatching := by
  obtain ⟨hub, discovery, hwatched⟩ := hubOnly_runWatcher c.runMonitor
  obtain ⟨hub', discovery', hdiscovered⟩ := hubOnly_runDiscovery c.runMonitor.runWatcher
  let background := c.runMonitor.runWatcher.runDiscovery
  have hjobs : background.runJobs.monitor = background.monitor ∧
      background.runJobs.isWatching = background.isWatching :=
    runJobs_keeps (P := fun d _ => d.monitor = background.monitor ∧ d.isWatching = background.isWatching)
      (fun d tag job _ hd => by
        have hworked := runJob_worked d tag job
        exact ⟨hworked.monitor.trans hd.1, hworked.isWatching.trans hd.2⟩) ⟨rfl, rfl⟩
  refine ⟨hjobs.1.trans ?_, hjobs.2.trans ?_⟩
  · exact (congrArg (·.monitor) hdiscovered).trans (congrArg (·.monitor) hwatched)
  · exact congrArg (·.isWatching) hdiscovered

/-- A client that has settled is at rest. -/
theorem isSettled_settle (h : Reached timeout c) (hpolls : c.PollsAtIntervals) : c.settle.IsSettled := by
  have hwatched : c.Performs [] c.runMonitor.runWatcher :=
    (Does.performs .polled).then (performs_runWatcher _)
  have hcalm : Calm timeout c.settle [] :=
    .runJobs ((h.performs hwatched).deed .discovered) (runDiscovery_paused _).rests
  obtain ⟨hmonitor, hwatching⟩ := monitor_settle c
  refine ⟨fun m hm => ?_, fun hwatches s hs => ?_, hcalm.discovery, hcalm.jobs⟩
  · rw [now_settle]
    exact hpolls.runMonitor.2 m (hmonitor ▸ hm)
  · have hnone := events_runWatcher (hwatching ▸ hwatches)
    have hs : s ∈ c.runMonitor.runWatcher.runDiscovery.link.events := events_runJobs _ ▸ hs
    rw [List.mem_singleton.1 (events_runDiscovery hnone hs)]
    exact ⟨Status.noConfusion, Status.noConfusion⟩

section

variable {endpoint : String} {options : Options} (hnew : Client.new endpoint options = .ok c)
  (inBackground : Bool)

include hnew

theorem pollsAtIntervals_of_new : (c.started inBackground).PollsAtIntervals := by
  have hnone : c.monitor = none := by
    unfold Client.new at hnew
    cases hcheck : options.check endpoint with
    | error cause =>
      rw [hcheck] at hnew
      cases hnew
    | ok url =>
      rw [hcheck] at hnew
      cases hnew
      rfl
  intro m hm
  cases inBackground with
  | false => cases hnone.symm.trans hm
  | true =>
    cases hm
    exact Link.Monitor.hasInterval_new _ _ _

theorem isSettled_bursts {actions : List (List Action)} (hactions : actions ≠ []) :
    ((c.started inBackground).bursts actions).IsSettled := by
  obtain ⟨earlier, last, rfl⟩ := (List.eq_nil_or_concat' actions).resolve_left hactions
  have hrun := (performs_bursts (c.started inBackground) earlier).trans (performs_burst _ last)
  rw [bursts_append]
  exact isSettled_settle ((reached_of_new hnew inBackground).performs hrun)
    ((pollsAtIntervals_of_new hnew inBackground).performs hrun)

end

end Client
end ServiceLink
