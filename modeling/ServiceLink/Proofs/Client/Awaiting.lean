import ServiceLink.Proofs.Client.Inquiring

/-! A connection on which a discovery waits for its answer, or is over. That it does so is an invariant of
all that callers and the server do meanwhile, and of the passing of time until the request expires. -/

namespace ServiceLink.Client

variable {timeout : Nat} {c c' : Client} {rest rest' : List (String × Job)}

/-! ### What is kept -/

/-- No change of the status is still to be acted on, and the host is visible. -/
structure IsQuiet (c : Client) : Prop where
  events : c.isWatching → ∀ s ∈ c.link.events, s ≠ .connected ∧ s ≠ .notConnected
  visible : ∀ m ∈ c.monitor, m.visible

/-- A connection stands, with these services. The discovery is over, or it waits with an inquiry, for which
its holder finds this response. -/
structure AwaitsInquiry (timeout : Nat) (q : Option Inquiry) (r : Response) (services : ServiceList) (c : Client)
    (rest : List (String × Job)) : Prop where
  status : c.link.status = .connected
  quiet : c.IsQuiet
  services : c.registry.services = services
  discovery : c.discovery = q.map Inquiry.discovery
  isTracked : IsTracked timeout c rest
  enters : ∀ i ∈ q, Enters c.registry i.generation
  finds : ∀ i ∈ q, c.link.calls.Finds i.call r
  apart : ∀ i ∈ q, ∀ job ∈ c.jobs ++ rest, job.2.ticket? ≠ some i.call.ticket

section

variable {q : Option Inquiry} {r r' : Response} {services : ServiceList}

theorem IsQuiet.of_beside (h : c.IsQuiet) (hb : Beside q r c c') : c'.IsQuiet :=
  ⟨fun hw s hs => h.events (hb.isWatching ▸ hw) s (hb.hub.events hs), hb.visible h.visible⟩

theorem AwaitsInquiry.of_beside (h : AwaitsInquiry timeout q r services c rest) (hb : Beside q r' c c')
    (htracked : IsTracked timeout c' rest') (hfinds : ∀ i ∈ q, c'.link.calls.Finds i.call r')
    (hjobs : ∀ job ∈ c'.jobs ++ rest', job ∈ c.jobs ++ rest ∨
      ∀ i ∈ q, job.2.ticket? ≠ some i.call.ticket) : AwaitsInquiry timeout q r' services c' rest' where
  status := hb.hub.status.trans h.status
  quiet := h.quiet.of_beside hb
  services := hb.hub.services.trans h.services
  discovery := hb.discovery.trans h.discovery
  isTracked := htracked
  enters i hi := hb.hub.enters i hi (h.enters i hi)
  finds := hfinds
  apart i hi job hjob := (hjobs job hjob).elim (h.apart i hi job) fun hnew => hnew i hi

theorem AwaitsInquiry.of_same (h : AwaitsInquiry timeout q r services c rest) (hb : Beside q r c c')
    (htracked : IsTracked timeout c' rest') (hjobs : c'.jobs ++ rest' ⊆ c.jobs ++ rest) :
    AwaitsInquiry timeout q r services c' rest' :=
  h.of_beside hb htracked (fun i hi => hb.hub.finds i hi (h.finds i hi)) fun _ hjob => .inl (hjobs hjob)

theorem AwaitsInquiry.discovery_eq (h : AwaitsInquiry timeout q r services c rest) {i : Inquiry} (hi : i ∈ q) :
    c.discovery = some i.discovery := by
  rw [h.discovery, Option.mem_def.1 hi]
  rfl

theorem AwaitsInquiry.mem_waiting (h : AwaitsInquiry timeout q r services c rest) {i : Inquiry} (hi : i ∈ q) :
    ⟨ServiceList.discoveryName, i.generation, i.call.ticket⟩ ∈ c.waiting rest := by
  simp [waiting, h.discovery_eq hi, Inquiry.discovery, Discovery.waiting?]

theorem AwaitsInquiry.callTimeout (h : AwaitsInquiry timeout q r services c rest) :
    c.link.settings.callTimeout = timeout := by
  obtain ⟨s, hs, -⟩ := h.isTracked.tracked
  rw [← hs.orderly.timeout, hs.hub]
  rfl

theorem AwaitsInquiry.isApart (h : AwaitsInquiry timeout q r services c rest) {job : String × Job}
    (hjob : job ∈ c.jobs ++ rest) (i : Inquiry) (hi : i ∈ q) : job.2.IsApart c i := by
  obtain ⟨s, hs, -⟩ := h.isTracked.tracked
  refine ⟨?_, fun service g ticket heq hg => ?_, h.apart i hi job hjob⟩
  · rw [registry, ← hs.hub]
    exact hs.generation_le (h.mem_waiting hi)
  · obtain ⟨tag, job⟩ := job
    cases heq
    refine hs.not_mayFollow hjob (.inl ?_)
    rw [h.discovery_eq hi, hg]
    rfl

theorem runMonitor_of_quiet (hstatus : c.link.status = .connected) (hq : c.IsQuiet) :
    ∃ monitor : Option Link.Monitor, c.runMonitor = { c with monitor } ∧ ∀ m ∈ monitor, m.visible := by
  unfold runMonitor
  split
  · exact ⟨c.monitor, rfl, hq.visible⟩
  · rename_i m hm
    have hvisible : m.visible = true := hq.visible m hm
    have hpoll : Link.Monitor.poll c.link m.visible = c.link := by
      simp [Link.Monitor.poll, hvisible, hstatus]
    have hact : (m.act c.now false c.link).2 = c.link := by
      dsimp only [Link.Monitor.act]
      rw [hpoll, ite_self]
    refine ⟨some (m.act c.now false c.link).1, ?_, fun m' hm' => ?_⟩
    · dsimp only [onLink, mapLink]
      rw [hact]
      rfl
    · cases hm'
      exact (m.visible_turn c.now false false _).trans hvisible

def seen (c : Client) : Client := if c.isWatching then c.mapLink fun l => { l with events := [] } else c

theorem runWatcher_of_quiet
    (hquiet : c.isWatching → ∀ s ∈ c.link.events, s ≠ .connected ∧ s ≠ .notConnected) :
    c.runWatcher = c.seen := by
  have hnone : ∀ (events : List Status) (c : Client),
      (∀ s ∈ events, s ≠ .connected ∧ s ≠ .notConnected) → events.foldl handleStatus c = c := by
    intro events
    induction events with
    | nil => exact fun _ _ => rfl
    | cons s events ih =>
      intro c hevents
      rw [List.forall_mem_cons] at hevents
      have hs : c.handleStatus s = c := by
        cases s with
        | connected => exact absurd rfl hevents.1.1
        | notConnected => exact absurd rfl hevents.1.2
        | _ => rfl
      rw [List.foldl_cons, hs]
      exact ih c hevents.2
  unfold runWatcher seen
  split
  · exact hnone _ _ (hquiet ‹_›)
  · rfl

theorem AwaitsInquiry.runMonitor (h : AwaitsInquiry timeout q r services c []) :
    AwaitsInquiry timeout q r services c.runMonitor [] := by
  have htracked := h.isTracked.runMonitor
  obtain ⟨monitor, hclient, hvisible⟩ := runMonitor_of_quiet h.status h.quiet
  rw [hclient] at htracked ⊢
  have hbeside : Beside q r c { c with monitor } := ⟨.refl _, rfl, rfl, fun _ => hvisible⟩
  exact h.of_same hbeside htracked (List.Subset.refl _)

theorem AwaitsInquiry.runWatcher (h : AwaitsInquiry timeout q r services c []) :
    AwaitsInquiry timeout q r services c.runWatcher [] := by
  have htracked := h.isTracked.runWatcher
  rw [runWatcher_of_quiet h.quiet.events] at htracked ⊢
  unfold seen at htracked ⊢
  split
  · rename_i hwatching
    rw [if_pos hwatching] at htracked
    have hhub : HubBeside q r c.hub { c.hub with link := { c.hub.link with events := [] } } :=
      ⟨rfl, List.nil_subset _, rfl, fun _ _ => id, fun _ _ => id⟩
    exact h.of_same (beside_of_hub hhub ⟨_, _, _, _, rfl⟩) htracked (List.Subset.refl _)
  · exact h

theorem continueSubscription_waiting {service : String} {generation : Nat} {ticket : Ticket} {e : Entry}
    (hresponse : c.link.calls.response ticket = .waiting)
    (hcurrent : c.registry.current? service generation = some e) :
    c.continueSubscription service generation ticket = (none, (c.takeOutcome ticket).2) := by
  have htake : c.takeOutcome ticket = (none, (c.takeOutcome ticket).2) := by
    refine Prod.ext ?_ rfl
    show (c.link.calls.response ticket).take.1 = none
    rw [hresponse]
    rfl
  have hstill : ((c.takeOutcome ticket).2.registry.current? service generation).isSome :=
    Option.isSome_iff_exists.2 ⟨e, hcurrent⟩
  unfold continueSubscription
  rw [htake]
  exact if_pos hstill

theorem AwaitsInquiry.runDiscovery (h : AwaitsInquiry timeout q .waiting services c []) :
    AwaitsInquiry timeout q .waiting services c.runDiscovery [] := by
  have htracked := h.isTracked.runDiscovery
  cases hq : q with
  | none =>
    have hnone : c.runDiscovery = c := by
      unfold Client.runDiscovery
      rw [h.discovery, hq]
      rfl
    rw [hnone, ← hq]
    exact h
  | some i =>
    have hwaits : c.runDiscovery = (c.takeOutcome i.call.ticket).2 := by
      obtain ⟨e, hcurrent⟩ := (h.enters i hq).current?
      unfold Client.runDiscovery
      rw [h.discovery_eq hq]
      dsimp only [Inquiry.discovery]
      rw [continueSubscription_waiting (h.finds i hq).response hcurrent]
    have hhub : HubBeside q .waiting c.hub (c.takeOutcome i.call.ticket).2.hub :=
      hubBeside_take fun _ _ _ => rfl
    rw [hwaits] at htracked ⊢
    rw [← hq]
    exact h.of_same (beside_of_hub hhub ⟨_, _, _, _, rfl⟩) htracked (List.Subset.refl _)

theorem beside_sweepIfDue {t : Nat}
    (ht : ∀ i ∈ q, t - i.call.sentAt < c.link.settings.callTimeout) :
    Beside q .waiting c (c.mapLink (·.sweepIfDue t)) := by
  have htick : HubBeside q .waiting c.hub { c.hub with link := c.hub.link.tick t } := by
    refine hubBeside_of_step _ rfl rfl (.sweep t) fun i hi => ⟨nofun, nofun, fun _ => ?_⟩
    have hyoung : ¬ Calls.isExpired t c.link.settings.callTimeout i.call := by
      simpa [Calls.isExpired] using ht i hi
    exact if_neg hyoung
  refine beside_of_hub ?_ ⟨_, _, _, _, rfl⟩
  show HubBeside q .waiting c.hub { c.hub with link := c.hub.link.sweepIfDue t }
  unfold Link.sweepIfDue
  split
  · split
    · exact htick
    · exact .refl _
  · exact .refl _

theorem AwaitsInquiry.setAside (h : AwaitsInquiry timeout q r services c []) :
    AwaitsInquiry timeout q r services { c with jobs := [] } c.jobs := by
  refine h.of_same (beside_of_hub (.refl _) ⟨_, _, _, _, rfl⟩)
    (h.isTracked.of_subset (moves_setAside c) ?_) ?_ <;> simp

theorem AwaitsInquiry.runJob {tag : String} {job : Job}
    (h : AwaitsInquiry timeout q r services c ((tag, job) :: rest)) :
    AwaitsInquiry timeout q r services (c.runJob tag job) rest := by
  have hbeside : Beside q r c (c.runJob tag job) :=
    beside_runJob tag (h.isApart (List.mem_append_right _ List.mem_cons_self))
  refine h.of_beside hbeside h.isTracked.runJob (fun i hi => hbeside.hub.finds i hi (h.finds i hi)) ?_
  intro x hx
  rcases List.mem_append.1 hx with hx | hx
  · rcases (runJob_worked c tag job).jobs x hx with hx | rfl | ⟨hnew, -⟩
    · exact .inl (List.mem_append_left _ hx)
    · exact .inl (List.mem_append_right _ List.mem_cons_self)
    · -- the inquiry has an earlier ticket
      refine .inr fun i hi hticket => ?_
      have hknown := (h.finds i hi).known
      rw [hnew.ticket hticket] at hknown
      exact Nat.lt_irrefl _ hknown
  · exact .inl (List.mem_append_right _ (List.mem_cons_of_mem _ hx))

theorem AwaitsInquiry.runJobs (h : AwaitsInquiry timeout q r services c []) :
    AwaitsInquiry timeout q r services c.runJobs [] :=
  runJobs_keeps (P := AwaitsInquiry timeout q r services) (fun _ _ _ _ hc => hc.runJob) h.setAside

/-- A discovery waits on until its request expires. -/
theorem invariant_awaitsInquiry {finish : Nat} (hfinish : ∀ i ∈ q, finish - i.call.sentAt < timeout) :
    Invariant finish (AwaitsInquiry timeout q .waiting services) where
  background c h := h.runMonitor.runWatcher.runDiscovery
  setAside c h := h.setAside
  runJob c tag job rest h := h.runJob
  clock c t h :=
    h.of_same ⟨.refl _, rfl, rfl, id⟩ (h.isTracked.of_jobs (moves_clock c t) rfl) (List.Subset.refl _)
  sweep c t ht h := by
    have hyoung : ∀ i ∈ q, t - i.call.sentAt < c.link.settings.callTimeout := by
      intro i hi
      have hage := hfinish i hi
      have htimeout := h.callTimeout
      omega
    exact h.of_same (beside_sweepIfDue hyoung) (h.isTracked.of_jobs (moves_sweepIfDue c t) rfl)
      (List.Subset.refl _)

theorem AwaitsInquiry.act (h : AwaitsInquiry timeout q r services c []) {a : Action} (ha : ∀ ms, a ≠ .advance ms)
    (hkeeps : a.Keeps) (hspares : ∀ i ∈ q, a.Spares i.call.ticket)
    (hmessages : ∀ i ∈ q, r = .waiting → ∀ m ∈ a.messages, ¬ Link.answers i.call.id m) :
    AwaitsInquiry timeout q r services (c.act a).2 [] := by
  have hapart : ∀ i ∈ q, ∀ job ∈ c.jobs, job.2.ticket? ≠ some i.call.ticket := fun i hi job hjob =>
    h.apart i hi job (List.mem_append_left _ hjob)
  have hopen : c.link.status ≠ .notConnected := by simp [h.status]
  have hbeside : Beside q r c (c.act a).2 := beside_act ha hopen hkeeps hspares hmessages hapart
  refine h.of_beside hbeside (h.isTracked.act ha) (fun i hi => hbeside.hub.finds i hi (h.finds i hi)) ?_
  intro job hjob
  rw [List.append_nil, jobs_act c ha] at hjob
  rw [List.append_nil]
  refine (mem_onJobs hjob).imp_right fun hnone i _ hticket => ?_
  rw [hnone] at hticket
  cases hticket

theorem AwaitsInquiry.run (h : AwaitsInquiry timeout q .waiting services c []) {during : List (List Action)}
    {sooner : List Action} (hactions : ∀ a ∈ during.flatten ++ sooner, a.Keeps ∧
      ∀ i ∈ q, a.Spares i.call.ticket ∧ ∀ m ∈ a.messages, ¬ Link.answers i.call.id m)
    (htime : ∀ i ∈ q, ((c.bursts during).burst sooner).now - i.call.sentAt < timeout) :
    AwaitsInquiry timeout q .waiting services ((c.bursts during).burst sooner) [] := by
  have hinvariant : Invariant _ (AwaitsInquiry timeout q .waiting services) := invariant_awaitsInquiry htime
  have hact : ∀ a ∈ during.flatten ++ sooner, (∀ ms, a ≠ .advance ms) → ∀ d,
      AwaitsInquiry timeout q .waiting services d [] → AwaitsInquiry timeout q .waiting services (d.act a).2 [] :=
    fun a ha hne d hd => hd.act hne (hactions a ha).1 (fun i hi => ((hactions a ha).2 i hi).1)
      fun i hi _ => ((hactions a ha).2 i hi).2
  rw [List.forall_mem_append] at hact
  have hduring : AwaitsInquiry timeout q .waiting services (c.bursts during) [] :=
    hinvariant.bursts hact.1 h (now_le_burst _ sooner)
  exact hinvariant.burst hact.2 hduring (Nat.le_refl _)

end

end ServiceLink.Client
