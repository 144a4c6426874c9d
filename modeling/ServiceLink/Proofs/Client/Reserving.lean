import ServiceLink.Proofs.Client.Course
import ServiceLink.Proofs.Client.Leaving
import ServiceLink.Proofs.Client.Pushing

/-! Which services are reserved. A subscription that is not live belongs to an attempt that waits, unless the
attempt was broken off while it waited: then it stays, and keeps others from its service, until it is ended
or the connection is. -/

namespace ServiceLink.Client

variable {timeout : Nat} {c c' c'' : Client} {d : Deed} {log : List Deed}

/-- Somebody waits for the acknowledgement of a subscription. -/
def Awaits (c : Client) (service : String) (generation : Nat) : Prop :=
  ∃ ticket, ⟨service, generation, ticket⟩ ∈ c.waiting []

/-- A deed that ends the subscription to a service, if there is one. -/
def Deed.Ends (service : String) (d : Deed) : Prop :=
  d.action? = some (.unsubscribe service) ∨ d.handled? = some .notConnected

/-- What a deed does to the subscriptions that are not live and to those who wait for them. -/
structure Reserves (c : Client) (d : Deed) (c' : Client) : Prop where
  /-- What is not live was pending before, or its attempt has just asked. -/
  pending : ∀ service g, c'.registry.Pending service g →
    c.registry.Pending service g ∨ c'.Awaits service g
  /-- An attempt that waits waited before and was not broken off, or has the next generation. -/
  waiting : ∀ w ∈ c'.waiting [], (w ∈ c.waiting [] ∧ ∀ b ∈ d.broken, b.generation ≠ w.generation) ∨
    c.registry.generation < w.generation ∧ c.link.calls.responses.length ≤ w.ticket
  /-- An attempt that waits no longer was broken off, or is over and leaves no pending entry. -/
  past : ∀ w ∈ c.waiting [], w ∈ c'.waiting [] ∨ w ∈ d.broken ∨
    ¬ c'.registry.Pending w.service w.generation
  broken : ∀ w ∈ d.broken, w ∈ c.waiting []
  /-- A pending entry that nobody waits for stays until a deed ends it. -/
  kept : ∀ service g, c.registry.Pending service g → ¬ c.Awaits service g → ¬ d.Ends service →
    c'.registry.Pending service g
  generation : c.registry.generation ≤ c'.registry.generation

namespace Reserves

theorem of_same (hbroken : d.broken = [])
    (hpending : ∀ service g, c'.registry.Pending service g ↔ c.registry.Pending service g)
    (hwaiting : ∀ w, w ∈ c'.waiting [] ↔ w ∈ c.waiting [])
    (hgeneration : c.registry.generation ≤ c'.registry.generation) : Reserves c d c' where
  pending service g h := .inl ((hpending service g).1 h)
  waiting w hw := .inl ⟨(hwaiting w).1 hw, by simp [hbroken]⟩
  past w hw := .inl ((hwaiting w).2 hw)
  broken := by simp [hbroken]
  kept service g h _ _ := (hpending service g).2 h
  generation := hgeneration

theorem of_registry (hbroken : d.broken = []) (hregistry : c'.registry = c.registry)
    (hwaiting : ∀ w, w ∈ c'.waiting [] ↔ w ∈ c.waiting []) : Reserves c d c' := by
  refine of_same hbroken (fun _ _ => ?_) hwaiting (Nat.le_of_eq ?_)
  · rw [hregistry]
  · rw [hregistry]

theorem of_asked (own : Waiting) (hbroken : d.broken = [])
    (hpending : ∀ service g, c'.registry.Pending service g ↔
      c.registry.Pending service g ∨ service = own.service ∧ g = own.generation)
    (hwaiting : ∀ w, w ∈ c'.waiting [] ↔ w ∈ c.waiting [] ∨ w = own)
    (hnew : c.registry.generation < own.generation ∧ c.link.calls.responses.length ≤ own.ticket)
    (hgeneration : c.registry.generation ≤ c'.registry.generation) : Reserves c d c' where
  pending service g h := by
    refine ((hpending service g).1 h).imp_right ?_
    rintro ⟨rfl, rfl⟩
    exact ⟨own.ticket, (hwaiting own).2 (.inr rfl)⟩
  waiting w hw := by
    rcases (hwaiting w).1 hw with hw | rfl
    · exact .inl ⟨hw, by simp [hbroken]⟩
    · exact .inr hnew
  past w hw := .inl ((hwaiting w).2 (.inl hw))
  broken := by simp [hbroken]
  kept service g h _ _ := (hpending service g).2 (.inl h)
  generation := hgeneration

theorem of_over (own : Waiting) (hbroken : d.broken = [])
    (hpending : ∀ service g, c'.registry.Pending service g ↔
      c.registry.Pending service g ∧ ¬ (service = own.service ∧ g = own.generation))
    (hwaiting : ∀ w, w ∈ c.waiting [] ↔ w ∈ c'.waiting [] ∨ w = own)
    (hgeneration : c.registry.generation ≤ c'.registry.generation) : Reserves c d c' where
  pending service g h := .inl ((hpending service g).1 h).1
  waiting w hw := .inl ⟨(hwaiting w).2 (.inl hw), by simp [hbroken]⟩
  past w hw := by
    rcases (hwaiting w).1 hw with hw | rfl
    · exact .inl hw
    · exact .inr (.inr fun h => ((hpending _ _).1 h).2 ⟨rfl, rfl⟩)
  broken := by simp [hbroken]
  kept service g h hnobody _ := by
    refine (hpending service g).2 ⟨h, ?_⟩
    rintro ⟨rfl, rfl⟩
    exact hnobody ⟨own.ticket, (hwaiting own).2 (.inr rfl)⟩
  generation := hgeneration

theorem of_broken (hdistinct : ((c.waiting []).map (·.generation)).Nodup)
    (hwaiting : (c.waiting []).Perm (c'.waiting [] ++ d.broken))
    (hpending : ∀ service g, c'.registry.Pending service g → c.registry.Pending service g)
    (hkept : ∀ service g, c.registry.Pending service g → ¬ d.Ends service →
      c'.registry.Pending service g)
    (hgeneration : c.registry.generation ≤ c'.registry.generation) : Reserves c d c' where
  pending service g h := .inl (hpending service g h)
  waiting w hw := by
    refine .inl ⟨hwaiting.symm.subset (List.mem_append_left _ hw), fun b hb hg => ?_⟩
    have hapart := (hwaiting.map (·.generation)).nodup_iff.1 hdistinct
    rw [List.map_append] at hapart
    exact (List.nodup_append.1 hapart).2.2 _ (List.mem_map_of_mem hw) _ (List.mem_map_of_mem hb) hg.symm
  past w hw := (List.mem_append.1 (hwaiting.subset hw)).imp_right .inl
  broken w hw := hwaiting.symm.subset (List.mem_append_right _ hw)
  kept service g h _ hends := hkept service g h hends
  generation := hgeneration

end Reserves

/-! ### The deeds -/

theorem registry_handleDisconnected (c : Client) : c.handleDisconnected.registry = c.registry.reset := by
  have hreset := (Hub.registry_closeAll
    { c.abortDiscovery.hub with registry := c.abortDiscovery.registry.reset }
    c.abortDiscovery.registry.entries.values)
  refine Eq.trans hreset ?_
  rw [registry_abortDiscovery]

theorem abortDiscovery_link (c : Client) :
    ∃ calls, c.abortDiscovery.link = { c.link with calls } := by
  unfold abortDiscovery
  split <;> exact ⟨_, rfl⟩

theorem rewired_handleDisconnected (c : Client) :
    c.abortDiscovery.link.Rewired c.handleDisconnected.link :=
  Hub.rewired_closeAll { c.abortDiscovery.hub with registry := c.abortDiscovery.registry.reset }
    c.abortDiscovery.registry.entries.values

theorem discovery_abortDiscovery (c : Client) : c.abortDiscovery.discovery = none := by
  unfold abortDiscovery
  split <;> rfl

theorem discovery_handleDisconnected (c : Client) : c.handleDisconnected.discovery = none :=
  discovery_abortDiscovery c

theorem waiting_of_broken (hjobs : c'.jobs = c.jobs) (hnone : c'.inquiring = []) :
    (c.waiting []).Perm (c'.waiting [] ++ c.inquiring) := by
  have hthen : c'.waiting [] =
      (c'.jobs ++ []).filterMap (fun job : String × Job => job.2.waiting?) ++ c'.inquiring := rfl
  rw [hthen, hnone, hjobs, List.append_nil]
  exact .refl _

theorem reserves_handleConnected (hdistinct : ((c.waiting []).map (·.generation)).Nodup)
    (hbroken : d.broken = c.inquiring) : Reserves c d c.handleConnected := by
  have hregistry : c.handleConnected.registry = c.registry := registry_abortDiscovery c
  refine .of_broken hdistinct ?_ (fun _ _ => hregistry ▸ id) (fun _ _ h _ => hregistry ▸ h)
    (Nat.le_of_eq (congrArg (·.generation) hregistry.symm))
  rw [hbroken]
  exact waiting_of_broken (hubOnly_handleConnected c).jobs rfl

theorem reserves_handleDisconnected (c₀ : Client) (hdistinct : ((c.waiting []).map (·.generation)).Nodup)
    (hregistry : c₀.registry = c.registry) (hjobs : c₀.jobs = c.jobs) (hbroken : d.broken = c.inquiring)
    (hhandled : d.handled? = some .notConnected) : Reserves c d c₀.handleDisconnected := by
  have hreset := registry_handleDisconnected c₀
  refine .of_broken hdistinct ?_ (fun service g h => ?_)
    (fun _ _ _ hends => absurd (.inr hhandled) hends) ?_
  · rw [hbroken]
    refine waiting_of_broken ((hubOnly_handleDisconnected c₀).jobs.trans hjobs) ?_
    rw [inquiring, discovery_handleDisconnected]
    rfl
  · obtain ⟨e, he, -⟩ := h
    rw [hreset] at he
    cases he
  · rw [hreset, hregistry]
    exact Nat.le_refl _

theorem waiting_of_ordinary {a : Action} (ha : a.IsOrdinary) (hdiscovery : c'.discovery = c.discovery)
    (hjobs : c'.jobs = a.onJobs c.jobs) : (c.waiting []).Perm (c'.waiting [] ++ c.brokenBy a) := by
  unfold waiting
  rw [hdiscovery, hjobs, List.append_nil, List.append_nil]
  cases a with
  | connected => exact absurd ha id
  | disconnected => exact absurd ha id
  | shutdown => exact absurd ha id
  | subscribe => simp [Action.onJobs, brokenBy, Job.waiting?]
  | describe => simp [Action.onJobs, brokenBy, Job.waiting?]
  | cancel tag =>
    have hsplit : (c.jobs.filter (·.1 ≠ tag) ++ c.jobs.filter (·.1 = tag)).Perm c.jobs := by
      simpa using List.filter_append_perm (·.1 ≠ tag) c.jobs
    have hwaiting := (hsplit.symm.filterMap fun job => job.2.waiting?).append_right c.inquiring
    refine hwaiting.trans ?_
    rw [List.filterMap_append, List.append_assoc, List.append_assoc]
    exact List.perm_append_comm.append_left _
  | _ => simp [Action.onJobs, brokenBy]

theorem reserves_act {a : Action} (ha : ∀ ms, a ≠ .advance ms)
    (hdistinct : ((c.waiting []).map (·.generation)).Nodup) :
    Reserves c (.acted a (c.brokenBy a)) (c.act a).2 := by
  have hjobs : (c.act a).2.jobs = a.onJobs c.jobs := jobs_act c ha
  have hacts := act_onConnection c ha
  generalize (c.act a).2 = c' at hjobs hacts ⊢
  cases hacts with
  | ordinary hordinary hkept hdiscovery =>
    refine .of_broken hdistinct (waiting_of_ordinary hordinary hdiscovery hjobs) (fun k g h => ?_)
      (fun k g h hends => ?_) (Nat.le_of_eq hkept.generation.symm)
    · rcases hkept.entry k with hsame | ⟨-, hnone⟩
      · exact (Registry.pending_of_entry? hsame).1 h
      · obtain ⟨e, he, -⟩ := h
        cases hnone.symm.trans he
    · have hother : ¬ a.Ends k := fun heq => hends (.inl (congrArg some heq))
      exact (Registry.pending_of_entry? (hkept.entry_eq hother)).2 h
  | forced => exact .of_registry rfl rfl fun _ => Iff.rfl
  | heard text => exact .of_same rfl (fun _ _ => Registry.pending_hear) (fun _ => Iff.rfl) (Nat.le_refl _)
  | connected => exact reserves_handleConnected hdistinct rfl
  | disconnected => exact reserves_handleDisconnected c hdistinct rfl rfl rfl rfl
  | shutdown => exact reserves_handleDisconnected c.unhosted hdistinct rfl rfl rfl rfl
  | letGo tag =>
    unfold dropHeld
    split <;> exact .of_registry rfl rfl fun _ => Iff.rfl

/-! ### Turns -/

theorem mem_waiting_iff (hjobs : c'.jobs = c.jobs) {w : Waiting} :
    w ∈ c'.waiting [] ↔ w ∈ c.jobs.filterMap (fun job => job.2.waiting?) ∨ w ∈ c'.inquiring := by
  rw [waiting, List.append_nil, List.mem_append, hjobs]
  rfl

theorem inquiring_of_discovery {discovery : Option Discovery} (h : c.discovery = discovery) :
    c.inquiring = (discovery.bind Discovery.waiting?).toList := by
  rw [inquiring, h]

theorem Opening.new_of_ok {service : String} {requested : List String} {generation : Nat} {ticket : Ticket}
    (h : Opening c service requested (.ok (generation, ticket)) c') :
    c.registry.generation < generation ∧ c.link.calls.responses.length ≤ ticket := by
  obtain ⟨r, rfl, hentered⟩ := h.entered_of_ok
  exact ⟨h.generation_of_ok.1 ▸ Nat.lt_succ_self _, Nat.le_of_eq hentered.ticket_eq.1.symm⟩

theorem reserves_runDiscovery (c : Client) : Reserves c (.discovered c.conclusion?) c.runDiscovery := by
  have hjobs : c.runDiscovery.jobs = c.jobs := (hubOnly_runDiscovery c).jobs
  have hturn := runDiscovery_turn c
  generalize c.runDiscovery = c', c.conclusion? = result at hjobs hturn ⊢
  have hwaiting : ∀ w, w ∈ c'.waiting [] ↔ _ := fun w => mem_waiting_iff hjobs
  have hbefore : ∀ w, w ∈ c.waiting [] ↔ _ := fun w => mem_waiting_iff rfl
  -- in either case the subscriptions are then those that the attempt left
  have hover : ∀ {generation ticket r c₁}, c.discovery = some (.acknowledgement generation ticket) →
      Continuing c ServiceList.discoveryName generation ticket (some r) c₁ → c₁.SameEntries c' →
      c'.inquiring = [] → Reserves c (.discovered result) c' := by
    intro generation ticket r c₁ hd hcontinuing hentries hnone
    refine .of_over ⟨ServiceList.discoveryName, generation, ticket⟩ rfl
      (fun _ _ => (hentries.pending _ _).trans hcontinuing.pending_of_some) (fun w => ?_)
      (Nat.le_of_eq (hentries.generation.trans hcontinuing.generation_eq).symm)
    rw [hwaiting, hbefore, hnone, inquiring_of_discovery hd]
    simp [Discovery.waiting?]
  cases hturn with
  | idle hd => exact .of_registry rfl rfl fun _ => Iff.rfl
  | @asked generation ticket _ hd hopening =>
    refine .of_asked ⟨ServiceList.discoveryName, generation, ticket⟩ rfl
      (fun _ _ => hopening.pending_of_ok) (fun w => ?_) hopening.new_of_ok hopening.generation_le
    rw [hwaiting, hbefore, inquiring_of_discovery hd, inquiring_of_discovery rfl]
    simp [Discovery.waiting?]
  | @refused cause c₁ hd hopening =>
    obtain ⟨hentries, hnone⟩ := c₁.failDiscovery_aside cause
    refine .of_same rfl (fun _ _ => (hentries.pending _ _).trans hopening.pending_of_error)
      (fun w => ?_) (hentries.generation ▸ hopening.generation_le)
    rw [hwaiting, hbefore, inquiring_of_discovery hd, inquiring_of_discovery hnone]
    rfl
  | waits hd hcontinuing =>
    refine .of_registry rfl hcontinuing.registry_of_none.1 fun w => ?_
    cases hcontinuing
    exact Iff.rfl
  | @failed _ _ cause c₁ hd hcontinuing =>
    obtain ⟨hentries, hnone⟩ := c₁.failDiscovery_aside cause
    exact hover hd hcontinuing hentries (inquiring_of_discovery hnone)
  | @learnt _ _ info c₁ hd hcontinuing =>
    obtain ⟨hentries, hdiscovery⟩ := c₁.learn_follow_aside info
    refine hover hd hcontinuing hentries ?_
    rcases hdiscovery with hsame | hnone
    · exact inquiring_of_discovery hsame
    · exact inquiring_of_discovery hnone
  | @followed stream hd =>
    obtain ⟨hentries, hdiscovery⟩ := c.follow_aside stream
    refine .of_same rfl hentries.pending (fun w => ?_) (Nat.le_of_eq hentries.generation.symm)
    rw [hwaiting, hbefore]
    rcases hdiscovery with hsame | hnone
    · rw [inquiring_of_discovery hsame, inquiring]
    · rw [inquiring_of_discovery hnone, inquiring_of_discovery hd]
      rfl

theorem mem_waiting_middle {before after : List (String × Job)} {tag : String} {job : Job}
    (hjobs : c.jobs = before ++ (tag, job) :: after) {w : Waiting} :
    w ∈ c.waiting [] ↔ w ∈ (c.withJobs (before ++ after)).waiting [] ∨ job.waiting? = some w := by
  rw [mem_waiting_iff (c := c) rfl, mem_waiting_iff (c := c.withJobs (before ++ after)) rfl, hjobs,
    show (c.withJobs (before ++ after)).inquiring = c.inquiring from rfl]
  cases hw : job.waiting? with
  | none => simp [withJobs, hw]
  | some own =>
    simp only [withJobs, List.filterMap_append, List.filterMap_cons, hw, List.mem_append, List.mem_cons,
      Option.some.injEq, eq_comm (a := own)]
    tauto

theorem mem_waiting_addJob {tag : String} {job : Job} {w : Waiting} :
    w ∈ (c.addJob tag job).waiting [] ↔ w ∈ c.waiting [] ∨ job.waiting? = some w := by
  have hjobs : (c.addJob tag job).jobs = c.jobs ++ (tag, job) :: [] := rfl
  refine (mem_waiting_middle hjobs).trans ?_
  rw [List.append_nil]
  rfl

theorem reserves_worked {before after : List (String × Job)} {tag : String} {job : Job}
    (hjobs : c.jobs = before ++ (tag, job) :: after) :
    Reserves c (.worked tag job) ((c.withJobs (before ++ after)).runJob tag job) := by
  let aside : Client := c.withJobs (before ++ after)
  have hbefore : ∀ w, w ∈ c.waiting [] ↔ w ∈ aside.waiting [] ∨ job.waiting? = some w :=
    fun w => mem_waiting_middle hjobs
  have hidle : job.waiting? = none → ∀ w, w ∈ aside.waiting [] ↔ w ∈ c.waiting [] := by
    intro hnone w
    rw [hbefore, hnone]
    simp
  have hworks := runJob_works aside tag job
  show Reserves c _ (aside.runJob tag job)
  generalize aside.runJob tag job = c' at hworks ⊢
  cases hworks with
  | @asked service requested generation ticket c₁ hopening =>
    obtain ⟨hub, rfl⟩ := hopening.client
    refine .of_asked ⟨service, generation, ticket⟩ rfl (fun _ _ => hopening.pending_of_ok)
      (fun w => ?_) hopening.new_of_ok hopening.generation_le
    rw [mem_waiting_addJob, ← hidle rfl]
    exact or_congr Iff.rfl (Option.some_inj.trans eq_comm)
  | refused hopening =>
    obtain ⟨hub, rfl⟩ := hopening.client
    exact .of_same rfl (fun _ _ => hopening.pending_of_error) (hidle rfl) hopening.generation_le
  | waits hcontinuing =>
    have hregistry := hcontinuing.registry_of_none.1
    obtain ⟨hub, rfl⟩ := hcontinuing.client
    refine .of_registry rfl hregistry fun w => ?_
    rw [mem_waiting_addJob, hbefore]
    exact Iff.rfl
  | @ended service generation ticket result c₁ hcontinuing =>
    obtain ⟨results, held, streams, hended⟩ := endSubscription_client c₁ tag result
    have hregistry : (c₁.endSubscription tag result).registry = c₁.registry := congrArg (·.registry) hended
    have hwaiting : (c₁.endSubscription tag result).waiting [] = c₁.waiting [] := congrArg (·.waiting []) hended
    refine .of_over ⟨service, generation, ticket⟩ rfl (fun k g => ?_) (fun w => ?_) ?_
    · rw [hregistry]
      exact hcontinuing.pending_of_some
    · obtain ⟨hub, rfl⟩ := hcontinuing.client
      rw [hwaiting, hbefore]
      exact or_congr Iff.rfl (Option.some_inj.trans eq_comm)
    · rw [hregistry]
      exact Nat.le_of_eq hcontinuing.generation_eq.symm
  | describes hbegin =>
    obtain ⟨⟨hub, rfl⟩, hregistry⟩ := beginDescription_client hbegin
    refine .of_registry rfl hregistry fun w => ?_
    rw [mem_waiting_addJob, ← hidle rfl]
    exact or_iff_left (by simp [Job.waiting?])
  | unsent hbegin =>
    obtain ⟨⟨hub, rfl⟩, hregistry⟩ := beginDescription_client hbegin
    exact .of_registry rfl hregistry (hidle rfl)
  | looked =>
    refine .of_registry rfl rfl fun w => ?_
    rw [mem_waiting_addJob, ← hidle rfl]
    exact or_iff_left (by simp [Job.waiting?])
  | described => exact .of_registry rfl rfl (hidle rfl)
  | rejected => exact .of_registry rfl rfl (hidle rfl)

theorem Does.reserves (h : Does c d c') (hc : IsTracked timeout c []) : Reserves c d c' := by
  have hdistinct : ((c.waiting []).map (·.generation)).Nodup := by
    obtain ⟨s, hs, -⟩ := hc.tracked
    exact hs.distinct
  cases h with
  | acted ha => exact reserves_act ha hdistinct
  | advanced ms => exact .of_registry rfl rfl fun _ => Iff.rfl
  | told s =>
    cases s with
    | connected => exact reserves_handleConnected hdistinct rfl
    | notConnected => exact reserves_handleDisconnected c hdistinct rfl rfl rfl rfl
    | _ => exact .of_registry rfl rfl fun _ => Iff.rfl
  | emptied => exact .of_registry rfl rfl fun _ => Iff.rfl
  | polled =>
    obtain ⟨link, monitor, hclient⟩ := runMonitor_client c
    refine .of_registry rfl (congrArg (·.registry) hclient) fun w => ?_
    rw [hclient]
    exact Iff.rfl
  | discovered => exact reserves_runDiscovery c
  | worked hjobs => exact reserves_worked hjobs
  | swept time => exact .of_registry rfl rfl fun _ => Iff.rfl
  | timed time => exact .of_registry rfl rfl fun _ => Iff.rfl

/-! ### Runs -/

/-- An attempt was broken off while it waited. -/
def GivenUp (log : List Deed) (service : String) (generation : Nat) : Prop :=
  ∃ w ∈ log.flatMap Deed.broken, w.service = service ∧ w.generation = generation

structure Reserved (log : List Deed) (c : Client) : Prop where
  owned : ∀ service g, c.registry.Pending service g → c.Awaits service g ∨ GivenUp log service g
  nobody : ∀ w ∈ log.flatMap Deed.broken, ∀ w' ∈ c.waiting [], w'.generation ≠ w.generation
  given : ∀ w ∈ log.flatMap Deed.broken, w.generation ≤ c.registry.generation

theorem Reserves.reserved (h : Reserves c d c') (hr : Reserved log c)
    (hold : ∀ w ∈ c.waiting [], w.generation ≤ c.registry.generation) : Reserved (log ++ [d]) c' := by
  have hlog : (log ++ [d]).flatMap Deed.broken = log.flatMap Deed.broken ++ d.broken := by simp
  have hgiven : ∀ b ∈ (log ++ [d]).flatMap Deed.broken, b.generation ≤ c.registry.generation := by
    intro b hb
    rw [hlog] at hb
    rcases List.mem_append.1 hb with hb | hb
    · exact hr.given b hb
    · exact hold b (h.broken b hb)
  refine ⟨fun service g hpending => ?_, fun b hb w hw => ?_, fun b hb => ?_⟩
  · have hmore : ∀ b, b ∈ log.flatMap Deed.broken ∨ b ∈ d.broken → b.service = service →
        b.generation = g → GivenUp (log ++ [d]) service g := fun b hb hservice hg =>
      ⟨b, hlog ▸ List.mem_append.2 hb, hservice, hg⟩
    rcases h.pending service g hpending with hbefore | hasked
    · rcases hr.owned service g hbefore with ⟨ticket, hw⟩ | ⟨b, hb, hservice, hg⟩
      · rcases h.past _ hw with hw | hb | hnone
        · exact .inl ⟨ticket, hw⟩
        · exact .inr (hmore _ (.inr hb) rfl rfl)
        · exact absurd hpending hnone
      · exact .inr (hmore b (.inl hb) hservice hg)
    · exact .inl hasked
  · rcases h.waiting w hw with ⟨hbefore, hapart⟩ | hnew
    · rw [hlog] at hb
      rcases List.mem_append.1 hb with hb | hb
      · exact hr.nobody b hb w hbefore
      · exact (hapart b hb).symm
    · have hle := hgiven b hb
      omega
  · exact Nat.le_trans (hgiven b hb) h.generation

theorem IsTracked.generation_le (h : IsTracked timeout c []) {w : Waiting} (hw : w ∈ c.waiting []) :
    w.generation ≤ c.registry.generation := by
  obtain ⟨s, hs, -⟩ := h.tracked
  rw [registry, ← hs.hub]
  exact hs.generation_le hw

theorem reserved_of_trace {start : Client} (h : Trace Does start log c) (hstart : IsTracked timeout start [])
    (hnew : Reserved [] start) : Reserved log c := by
  induction h with
  | start => exact hnew
  | step htrace hdoes ih =>
    have htracked := isTracked_of_trace htrace hstart
    exact (hdoes.reserves htracked).reserved ih fun _ => htracked.generation_le

theorem Reserved.stays {later : List Deed} {service : String} {g : Nat} (h : Reserved log c)
    (htracked : IsTracked timeout c []) (hpending : c.registry.Pending service g) (hgiven : GivenUp log service g)
    (htrace : Trace Does c later c') (hends : ∀ d ∈ later, ¬ d.Ends service) :
    c'.registry.Pending service g ∧ Reserved (log ++ later) c' := by
  induction htrace with
  | start => exact ⟨hpending, by rwa [List.append_nil]⟩
  | @step later x y d htrace hdoes ih =>
    rw [List.forall_mem_append, List.forall_mem_singleton] at hends
    obtain ⟨hbefore, hreserved⟩ := ih hends.1
    have hx := isTracked_of_trace htrace htracked
    have hreserves := hdoes.reserves hx
    have hnobody : ¬ x.Awaits service g := by
      rintro ⟨ticket, hw⟩
      obtain ⟨b, hb, -, hg⟩ := hgiven
      refine hreserved.nobody b ?_ _ hw hg.symm
      rw [List.flatMap_append]
      exact List.mem_append_left _ hb
    refine ⟨hreserves.kept service g hbefore hnobody hends.2, ?_⟩
    rw [← List.append_assoc]
    exact hreserves.reserved hreserved fun _ => hx.generation_le

theorem beginSubscription_of_pending {service : String} {g : Nat} (h : c.registry.Pending service g)
    (hlisted : c.registry.services.find? service ≠ none) (requested : List String) :
    c.beginSubscription service requested = (.error (.alreadySubscribed service), c) := by
  obtain ⟨e, he, -⟩ := h
  obtain ⟨d, hd⟩ := Option.ne_none_iff_exists'.1 hlisted
  exact Opening.eq (.already hd he)

theorem Does.free_of_ends {service : String} (h : Does c d c') (hends : d.Ends service) :
    c'.registry.entry? service = none := by
  have hreset : ∀ c : Client, c.handleDisconnected.registry.entry? service = none := by
    intro c
    rw [registry_handleDisconnected]
    rfl
  rcases hends with hends | hends
  · cases h with
    | acted =>
      cases hends
      dsimp only [act]
      unfold unsubscribe
      split
      · assumption
      · dsimp only
        have herased := Registry.entry?_erase c.registry service service
        rw [if_pos rfl] at herased
        split <;> exact herased
    | _ => cases hends
  · cases h with
    | @acted a =>
      cases a with
      | disconnected => exact hreset c
      | shutdown => exact hreset c.unhosted
      | _ => cases hends
    | told s =>
      cases s with
      | notConnected => exact hreset c
      | _ => cases hends
    | _ => cases hends

/-- The subscriptions of a client that are not live, and what becomes of them. -/
structure Accounted (log : List Deed) (c : Client) : Prop where
  /-- Somebody waits for each that was not given up, and for no other. -/
  awaited_iff : ∀ service g, c.registry.Pending service g → (c.Awaits service g ↔ ¬ GivenUp log service g)
  /-- An attempt that comes to its end leaves none. -/
  past : ∀ d c', Does c d c' → ∀ w ∈ c.waiting [], w ∉ c'.waiting [] → w ∉ d.broken →
    ¬ c'.registry.Pending w.service w.generation
  /-- One that was given up keeps its service from everyone until it is ended. -/
  stays : ∀ service g, c.registry.Pending service g → GivenUp log service g →
    ∀ later c', Trace Does c later c' → (∀ d ∈ later, ¬ d.Ends service) →
      c'.registry.Pending service g ∧ (c'.registry.services.find? service ≠ none →
        ∀ requested, c'.beginSubscription service requested = (.error (.alreadySubscribed service), c'))
  ended : ∀ service d c', Does c d c' → d.Ends service → c'.registry.entry? service = none

theorem Reserved.accounted (h : Reserved log c) (htracked : IsTracked timeout c []) : Accounted log c where
  awaited_iff service g hpending := by
    refine ⟨?_, (h.owned service g hpending).resolve_right⟩
    rintro ⟨ticket, hw⟩ ⟨b, hb, -, hg⟩
    exact h.nobody b hb _ hw hg.symm
  past d c' hdoes w hw hover hbroken := by
    rcases (hdoes.reserves htracked).past w hw with hw | hb | hnone
    · exact absurd hw hover
    · exact absurd hb hbroken
    · exact hnone
  stays service g hpending hgiven later c' htrace hends := by
    obtain ⟨hthen, -⟩ := h.stays htracked hpending hgiven htrace hends
    exact ⟨hthen, beginSubscription_of_pending hthen⟩
  ended service d c' hdoes hends := hdoes.free_of_ends hends

/-- In whatever order the tasks of a client take turns, a subscription that is not live is awaited, unless
its attempt was broken off while it waited. Such a one keeps its service until it is ended. -/
theorem pending_awaited_iff {endpoint : String} {options : Options} {c₀ : Client}
    (hnew : Client.new endpoint options = .ok c₀) (inBackground : Bool) (actions : List (List Action)) :
    let start := c₀.started inBackground
    start.Performs actions.flatten (start.bursts actions) ∧
      ∀ log c, Trace Does start log c → Accounted log c := by
  intro start
  have htracked := isTracked_of_new hnew inBackground
  obtain ⟨hhub, hjobs, -, hdiscovery⟩ := started_of_new hnew inBackground
  have hreserved : Reserved [] start := by
    refine ⟨fun service g hpending => ?_, nofun, nofun⟩
    obtain ⟨e, he, -⟩ := hpending
    rw [registry, hhub] at he
    cases he
  exact ⟨performs_bursts start actions, fun log c htrace =>
    (reserved_of_trace htrace htracked hreserved).accounted (isTracked_of_trace htrace htracked)⟩

/-! ### An attempt that is cancelled -/

namespace AtOnce

/-- A client whose caller has asked, and has not waited for the acknowledgement. -/
def cancelled : Client :=
  (start.started false).bursts
    [[.openSocket], [.subscribe "tag" ServiceList.discoveryName ["level"]], [.cancel "tag"]]

theorem pending_cancelled : cancelled.registry.Pending ServiceList.discoveryName 1 :=
  ⟨{ generation := 1, path := ServiceList.discoveryPath, requested := ["level"] }, rfl, rfl, rfl⟩

end AtOnce

open AtOnce in
theorem pending_awaited_iff_cancelled :
    ¬ cancelled.Awaits ServiceList.discoveryName 1 ∧ ∃ log,
      Trace Does (start.started false) log cancelled ∧ GivenUp log ServiceList.discoveryName 1 := by
  have hnew : Client.new "ws://h/" {} = .ok start := rfl
  obtain ⟨⟨log, htrace, -⟩, haccounted⟩ := pending_awaited_iff hnew false
    [[.openSocket], [.subscribe "tag" ServiceList.discoveryName ["level"]], [.cancel "tag"]]
  have hnobody : ¬ cancelled.Awaits ServiceList.discoveryName 1 := by
    rintro ⟨ticket, hw⟩
    cases hw
  refine ⟨hnobody, log, htrace, ?_⟩
  by_contra hgiven
  exact hnobody (((haccounted log _ htrace).awaited_iff _ _ pending_cancelled).2 hgiven)

open AtOnce in
/-- The entry of a cancelled attempt belongs to nobody, and the next attempt is refused because of it. -/
theorem cancelled_keeps_service :
    cancelled.waiting [] = [] ∧ cancelled.registry.Pending ServiceList.discoveryName 1 ∧
      (cancelled.bursts [[.subscribe "later" ServiceList.discoveryName ["level"]]]).results =
        cancelled.results ++ [("later", .refused (.alreadySubscribed ServiceList.discoveryName))] :=
  ⟨rfl, pending_cancelled, rfl⟩

end ServiceLink.Client
