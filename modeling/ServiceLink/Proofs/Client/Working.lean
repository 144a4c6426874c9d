import ServiceLink.Proofs.Client.Settling

/-! What a job does to a client when it goes on. The requests that it makes are new, and those it waits for
were made, so that no job waits for a ticket that is still to come. -/

namespace ServiceLink

namespace Calls

variable {timeout : Nat} {c d : Calls} {e : Event} {es : List Event}

theorem Step.length_le (h : Step timeout c e d) : c.responses.length ≤ d.responses.length := by
  cases h with
  | sent hentered =>
    rw [hentered.responses, List.length_append]
    exact Nat.le_add_right _ _
  | unsent hundone => exact hundone.responses.length_le
  | message m =>
    unfold hear
    split
    · exact Nat.le_of_eq (length_responses_finish _ _ _).symm
    · exact Nat.le_refl _
  | sweep now => exact Nat.le_of_eq (length_responses_finish _ _ _).symm
  | dropped => exact Nat.le_of_eq (length_responses_finish _ _ _).symm
  | looked ticket => simp [Calls.take]
  | forgotten ticket => simp [Calls.forget]

theorem History.length_le (h : History timeout c es d) : c.responses.length ≤ d.responses.length :=
  h.keeps (P := fun x => c.responses.length ≤ x.responses.length)
    (fun _ _ _ hx hstep => Nat.le_trans hx hstep.length_le) (Nat.le_refl _)

theorem Entered.ticket_eq {now : Nat} {r : Receipt} (h : Entered now c [r] d) :
    r.ticket = c.responses.length ∧ c.responses.length < d.responses.length := by
  have htickets := h.tickets
  refine ⟨by simpa using htickets, ?_⟩
  rw [h.responses]
  simp

end Calls

theorem Link.entered_of_call {κ : Type} {l l' : Link κ} {now : Nat} {method : String}
    {params : Option Json} {r : Receipt} (h : l.call now method params = (.ok r, l')) :
    Calls.Entered now l.calls [r] l'.calls := by
  have hsettles := Link.call_settles l now method params
  rw [h] at hsettles
  exact hsettles.calls

namespace Client

open Scene (Step)

variable {timeout : Nat} {c c' : Client} {rest rest' : List (String × Job)} {messages : List Rpc.Message}

/-! ### One job -/

/-- What a job does to the link and the subscriptions when it goes on. -/
def worked (c : Client) : Job → Client
  | .subscribe service requested => (c.beginSubscription service requested).2
  | .acknowledgement service generation ticket => (c.continueSubscription service generation ticket).2
  | .describe service => (c.beginDescription service).2
  | .description ticket => (c.takeOutcome ticket).2

/-- A job that waits for a request which is made just now. -/
def Job.IsNew (c : Client) : Job → Prop
  | .acknowledgement _ generation ticket =>
    generation = c.registry.generation + 1 ∧ ticket = c.link.calls.responses.length
  | .description ticket => ticket = c.link.calls.responses.length
  | _ => False

/-- The outcomes of a job beside its work on the hub: it is over, or a job that waits is left. -/
structure Worked (c : Client) (tag : String) (job : Job) (c' : Client) : Prop where
  link : c'.link = (c.worked job).link
  registry : c'.registry = (c.worked job).registry
  discovery : c'.discovery = c.discovery
  monitor : c'.monitor = c.monitor
  isWatching : c'.isWatching = c.isWatching
  now : c'.now = c.now
  jobs : ∀ x ∈ c'.jobs, x ∈ c.jobs ∨ x = (tag, job) ∨
    x.2.IsNew c ∧ c.link.calls.responses.length < c'.link.calls.responses.length

theorem beginSubscription_ok {service : String} {requested : List String} {generation : Nat}
    {ticket : Ticket} (h : c.beginSubscription service requested = (.ok (generation, ticket), c')) :
    generation = c.registry.generation + 1 ∧ ticket = c.link.calls.responses.length ∧
      c.link.calls.responses.length < c'.link.calls.responses.length := by
  unfold beginSubscription at h
  split at h
  · cases h
  · split at h
    · cases h
    · dsimp only [onLink] at h
      split at h
      · rename_i heq
        obtain ⟨hok, rfl⟩ := Prod.mk.inj heq
        cases h
        have hentered := Link.entered_of_call (Prod.ext hok rfl)
        exact ⟨rfl, hentered.ticket_eq⟩
      · cases h

theorem beginDescription_entered {service : String} {ticket : Ticket}
    (h : c.beginDescription service = (.ok ticket, c')) :
    ∃ r : Receipt, r.ticket = ticket ∧ Calls.Entered c.now c.link.calls [r] c'.link.calls := by
  unfold beginDescription Client.call at h
  split at h
  · cases h
  · dsimp only [onLink] at h
    obtain ⟨hok, rfl⟩ := Prod.mk.inj h
    cases hcall : c.link.call c.now _ (some (Json.object [("Service", .text service)])) with
    | mk result link =>
      rw [hcall] at hok
      cases result with
      | error cause => cases hok
      | ok r =>
        cases hok
        exact ⟨r, rfl, Link.entered_of_call hcall⟩

theorem worked_client (c : Client) (job : Job) : ∃ hub, c.worked job = { c with hub } := by
  cases job with
  | subscribe service requested => exact beginSubscription_client c service requested
  | acknowledgement service generation ticket => exact continueSubscription_client c service generation ticket
  | describe service =>
    dsimp only [worked, beginDescription, Client.call]
    split <;> exact ⟨_, rfl⟩
  | description ticket => exact ⟨_, rfl⟩

theorem worked_of_over {tag : String} {job : Job} (hlink : c'.link = (c.worked job).link)
    (hregistry : c'.registry = (c.worked job).registry)
    (hrest : ∃ hub results held, c' = { c with hub, results, held }) : Worked c tag job c' := by
  obtain ⟨hub, results, held, rfl⟩ := hrest
  exact ⟨hlink, hregistry, rfl, rfl, rfl, rfl, fun x hx => .inl hx⟩

theorem worked_of_addJob {tag : String} {job next : Job}
    (hnext : next = job ∨ next.IsNew c ∧
      c.link.calls.responses.length < (c.worked job).link.calls.responses.length) :
    Worked c tag job ((c.worked job).addJob tag next) := by
  obtain ⟨hub, hclient⟩ := worked_client c job
  rw [hclient] at hnext ⊢
  refine ⟨hclient ▸ rfl, hclient ▸ rfl, rfl, rfl, rfl, rfl, fun x hx => ?_⟩
  rcases List.mem_append.1 hx with hx | hx
  · exact .inl hx
  · cases List.mem_singleton.1 hx
    rcases hnext with rfl | hnew
    · exact .inr (.inl rfl)
    · exact .inr (.inr hnew)

theorem runJob_worked (c : Client) (tag : String) (job : Job) : Worked c tag job (c.runJob tag job) := by
  obtain ⟨hub, hclient⟩ := worked_client c job
  cases job with
  | subscribe service requested =>
    unfold runJob
    dsimp only
    cases hbegin : c.beginSubscription service requested with
    | mk result c₁ =>
      have hworked : c₁ = c.worked (.subscribe service requested) := (congrArg Prod.snd hbegin).symm
      cases result with
      | error cause =>
        rw [hworked]
        exact worked_of_over rfl rfl ⟨hub, _, _, by rw [hclient]; rfl⟩
      | ok started =>
        obtain ⟨generation, ticket⟩ := started
        obtain ⟨hgeneration, hticket, hlt⟩ := beginSubscription_ok hbegin
        rw [hworked] at hlt ⊢
        exact worked_of_addJob (.inr ⟨⟨hgeneration, hticket⟩, hlt⟩)
  | acknowledgement service generation ticket =>
    unfold runJob
    dsimp only
    cases hcontinue : c.continueSubscription service generation ticket with
    | mk result c₁ =>
      have hworked : c₁ = c.worked (.acknowledgement service generation ticket) :=
        (congrArg Prod.snd hcontinue).symm
      rw [hworked]
      cases result with
      | none => exact worked_of_addJob (.inl rfl)
      | some result =>
        dsimp only
        obtain ⟨results, held, streams, hended⟩ := endSubscription_client (c.worked _) tag result
        rw [hended]
        exact worked_of_over rfl rfl ⟨_, _, _, by rw [hclient]⟩
  | describe service =>
    unfold runJob
    dsimp only
    cases hbegin : c.beginDescription service with
    | mk result c₁ =>
      have hworked : c₁ = c.worked (.describe service) := (congrArg Prod.snd hbegin).symm
      cases result with
      | error cause =>
        rw [hworked]
        exact worked_of_over rfl rfl ⟨hub, _, _, by rw [hclient]; rfl⟩
      | ok ticket =>
        obtain ⟨r, rfl, hentered⟩ := beginDescription_entered hbegin
        obtain ⟨hticket, hlt⟩ := hentered.ticket_eq
        rw [hworked] at hlt ⊢
        exact worked_of_addJob (.inr ⟨hticket, hlt⟩)
  | description ticket =>
    unfold runJob
    dsimp only
    cases htake : c.takeOutcome ticket with
    | mk result c₁ =>
      have hworked : c₁ = c.worked (.description ticket) := (congrArg Prod.snd htake).symm
      rw [hworked]
      cases result with
      | none => exact worked_of_addJob (.inl rfl)
      | some outcome =>
        cases outcome <;> exact worked_of_over rfl rfl ⟨hub, _, _, by rw [hclient]; rfl⟩

/-! ### Time -/

theorem now_settle (c : Client) : c.settle.now = c.now := by
  have hjobs : ∀ (jobs : List (String × Job)) (c : Client),
      (jobs.foldl (fun c job => c.runJob job.1 job.2) c).now = c.now := by
    intro jobs
    induction jobs with
    | nil => exact fun _ => rfl
    | cons job jobs ih => exact fun c => (ih _).trans (runJob_worked c job.1 job.2).now
  exact (hjobs _ _).trans (now_background c)

theorem now_runTo (c : Client) (finish : Nat) : (Timed.runTo finish c).now = finish :=
  Timed.runTo_induction (ε := Empty) (motive := fun _ _ d => d.now = finish) (fun _ _ => []) finish
    (fun _ _ => rfl) (fun _ _ _ _ _ _ _ h => h) c

theorem now_le_act (c : Client) (a : Action) : c.now ≤ (c.act a).2.now := by
  by_cases hadvance : ∃ ms, a = .advance ms
  · obtain ⟨ms, rfl⟩ := hadvance
    show c.now ≤ (Timed.runTo (c.settle.now + ms) c.settle).now
    rw [now_runTo, now_settle]
    exact Nat.le_add_right _ _
  · exact Nat.le_of_eq (now_act c fun ms ha => hadvance ⟨ms, ha⟩).symm

theorem now_le_burst (c : Client) (actions : List Action) : c.now ≤ (c.burst actions).now := by
  induction actions generalizing c with
  | nil => exact Nat.le_refl _
  | cons a actions ih => exact Nat.le_trans (now_le_act c a) (ih _)

theorem now_le_bursts (c : Client) (actions : List (List Action)) : c.now ≤ (c.bursts actions).now := by
  induction actions generalizing c with
  | nil => exact Nat.le_refl _
  | cons burst actions ih =>
    have hsettled : (c.burst burst).settle.now = (c.burst burst).now := now_settle _
    exact Nat.le_trans (hsettled ▸ now_le_burst c burst) (ih _)

/-! ### Invariants -/

theorem runJobs_keeps {P : Client → List (String × Job) → Prop}
    (hrun : ∀ c tag job rest, P c ((tag, job) :: rest) → P (c.runJob tag job) rest)
    (hc : P { c with jobs := [] } c.jobs) : P c.runJobs [] := by
  have hfold : ∀ (jobs : List (String × Job)) (c : Client), P c jobs →
      P (jobs.foldl (fun c job => c.runJob job.1 job.2) c) [] := by
    intro jobs
    induction jobs with
    | nil => exact fun _ hc => hc
    | cons job jobs ih => exact fun c hc => ih _ (hrun c job.1 job.2 jobs hc)
  exact hfold c.jobs _ hc

/-- What holds of a client and of the jobs that are set aside, whatever the client does by itself until
some time. -/
structure Invariant (finish : Nat) (P : Client → List (String × Job) → Prop) : Prop where
  background : ∀ c, P c [] → P c.runMonitor.runWatcher.runDiscovery []
  setAside : ∀ c, P c [] → P { c with jobs := [] } c.jobs
  runJob : ∀ c tag job rest, P c ((tag, job) :: rest) → P (c.runJob tag job) rest
  clock : ∀ c t, P c [] → P { c with now := t } []
  sweep : ∀ c, ∀ t ≤ finish, P c [] → P (c.mapLink (·.sweepIfDue t)) []

namespace Invariant

variable {finish : Nat} {P : Client → List (String × Job) → Prop} (h : Invariant finish P)

include h

theorem settle (hc : P c []) : P c.settle [] :=
  runJobs_keeps h.runJob (h.setAside _ (h.background c hc))

theorem ring (hc : P c []) {t : Nat} (ht : t ≤ finish) : P (c.ring t) [] :=
  h.clock _ t (h.settle (h.sweep _ t ht (h.clock c t hc)))

theorem runTo (hc : P c []) {t : Nat} (ht : t ≤ finish) : P (Timed.runTo t c) [] :=
  Timed.runTo_keeps (P := fun d => P d []) hc (fun _ _ hd _ _ hle => h.ring hd (Nat.le_trans hle ht))
    fun _ hd _ => h.clock _ t hd

theorem burst {actions : List Action}
    (hact : ∀ a ∈ actions, (∀ ms, a ≠ .advance ms) → ∀ c, P c [] → P (c.act a).2 [])
    (hc : P c []) (hfinish : (c.burst actions).now ≤ finish) : P (c.burst actions) [] := by
  induction actions generalizing c with
  | nil => exact hc
  | cons a actions ih =>
    refine ih (fun b hb => hact b (List.mem_cons_of_mem a hb)) ?_ hfinish
    by_cases hadvance : ∃ ms, a = .advance ms
    · obtain ⟨ms, rfl⟩ := hadvance
      refine h.runTo (h.settle hc) (Nat.le_trans ?_ hfinish)
      have hthen := now_le_burst (c.act (.advance ms)).2 actions
      rwa [show (c.act (.advance ms)).2.now = c.settle.now + ms from now_runTo _ _] at hthen
    · exact hact a List.mem_cons_self (fun ms ha => hadvance ⟨ms, ha⟩) c hc

theorem bursts {actions : List (List Action)}
    (hact : ∀ a ∈ actions.flatten, (∀ ms, a ≠ .advance ms) → ∀ c, P c [] → P (c.act a).2 [])
    (hc : P c []) (hfinish : (c.bursts actions).now ≤ finish) : P (c.bursts actions) [] := by
  induction actions generalizing c with
  | nil => exact hc
  | cons burst actions ih =>
    rw [List.flatten_cons, List.forall_mem_append] at hact
    refine ih hact.2 (h.settle (h.burst hact.1 hc (Nat.le_trans ?_ hfinish))) hfinish
    rw [← now_settle]
    exact now_le_bursts _ actions

end Invariant

/-! ### Known tickets -/

def Job.ticket? : Job → Option Ticket
  | .acknowledgement _ _ ticket | .description ticket => some ticket
  | _ => none

/-- A job waits for a ticket that was handed out. -/
def Job.Known (c : Client) (job : Job) : Prop :=
  ∀ ticket, job.ticket? = some ticket → ticket < c.link.calls.responses.length

theorem Job.IsNew.ticket {job : Job} (h : job.IsNew c) {ticket : Ticket}
    (hticket : job.ticket? = some ticket) : ticket = c.link.calls.responses.length := by
  cases job with
  | acknowledgement service generation t =>
    cases hticket
    exact h.2
  | description t =>
    cases hticket
    exact h
  | subscribe => cases hticket
  | describe => cases hticket

/-- A client with a scene that it tracks, whose jobs wait for tickets that were handed out. -/
structure IsTracked (timeout : Nat) (c : Client) (rest : List (String × Job)) : Prop where
  tracked : ∃ s, Tracks timeout c rest s ∧ s.Kept
  sound : c.link.calls.Sound
  known : ∀ job ∈ c.jobs ++ rest, job.2.Known c

theorem IsTracked.of_moves (h : IsTracked timeout c rest) (hmoves : Moves timeout c rest messages c' rest')
    (hjobs : ∀ job ∈ c'.jobs ++ rest', job ∈ c.jobs ++ rest ∨ job.2.Known c') :
    IsTracked timeout c' rest' := by
  obtain ⟨s, hs, hk⟩ := h.tracked
  obtain ⟨moves, s', htrace, hs', -, -⟩ := hmoves s hs
  have hhistory := Scene.history_of_trace htrace
  rw [hs.hub, hs'.hub] at hhistory
  refine ⟨⟨s', hs', Scene.kept_of_trace htrace hk⟩, Calls.History.sound hhistory h.sound,
    fun job hjob ticket hticket => ?_⟩
  rcases hjobs job hjob with hold | hnew
  · exact Nat.lt_of_lt_of_le (h.known job hold ticket hticket) hhistory.length_le
  · exact hnew ticket hticket

theorem IsTracked.of_subset (h : IsTracked timeout c rest) (hmoves : Moves timeout c rest messages c' rest')
    (hjobs : c'.jobs ++ rest' ⊆ c.jobs ++ rest) : IsTracked timeout c' rest' :=
  h.of_moves hmoves fun _ hjob => .inl (hjobs hjob)

theorem IsTracked.runJob {tag : String} {job : Job} (h : IsTracked timeout c ((tag, job) :: rest)) :
    IsTracked timeout (c.runJob tag job) rest := by
  refine h.of_moves (moves_runJob c rest tag job) fun x hx => ?_
  rcases List.mem_append.1 hx with hx | hx
  · rcases (runJob_worked c tag job).jobs x hx with hx | rfl | ⟨hnew, hlt⟩
    · exact .inl (List.mem_append_left _ hx)
    · exact .inl (List.mem_append_right _ List.mem_cons_self)
    · exact .inr fun ticket hticket => hnew.ticket hticket ▸ hlt
  · exact .inl (List.mem_append_right _ (List.mem_cons_of_mem _ hx))

theorem IsTracked.of_jobs (h : IsTracked timeout c []) (hmoves : Moves timeout c [] messages c' [])
    (hjobs : c'.jobs = c.jobs) : IsTracked timeout c' [] := by
  refine h.of_subset hmoves ?_
  rw [hjobs]
  exact List.Subset.refl _

theorem IsTracked.runMonitor (h : IsTracked timeout c []) : IsTracked timeout c.runMonitor [] := by
  obtain ⟨link, monitor, hclient⟩ := runMonitor_client c
  exact h.of_jobs (moves_runMonitor c []) (congrArg (·.jobs) hclient)

theorem IsTracked.runWatcher (h : IsTracked timeout c []) : IsTracked timeout c.runWatcher [] :=
  h.of_jobs (moves_runWatcher c []) (hubOnly_runWatcher c).jobs

theorem IsTracked.runDiscovery (h : IsTracked timeout c []) : IsTracked timeout c.runDiscovery [] :=
  h.of_jobs (moves_runDiscovery c []) (hubOnly_runDiscovery c).jobs

theorem invariant_isTracked (timeout finish : Nat) : Invariant finish (IsTracked timeout) where
  background _ h := h.runMonitor.runWatcher.runDiscovery
  setAside c h := h.of_subset (moves_setAside c) (by simp)
  runJob _ _ _ _ h := h.runJob
  clock c t h := h.of_jobs (moves_clock c t) rfl
  sweep c t _ h := h.of_jobs (moves_sweepIfDue c t) rfl

theorem mem_onJobs {a : Action} {jobs : List (String × Job)} {job : String × Job}
    (h : job ∈ a.onJobs jobs) : job ∈ jobs ∨ job.2.ticket? = none := by
  cases a with
  | subscribe =>
    refine (List.mem_append.1 h).imp_right fun hnew => ?_
    cases List.mem_singleton.1 hnew
    rfl
  | describe =>
    refine (List.mem_append.1 h).imp_right fun hnew => ?_
    cases List.mem_singleton.1 hnew
    rfl
  | cancel => exact .inl (List.mem_of_mem_filter h)
  | _ => exact .inl h

theorem IsTracked.act (h : IsTracked timeout c []) {a : Action} (ha : ∀ ms, a ≠ .advance ms) :
    IsTracked timeout (c.act a).2 [] := by
  refine h.of_moves (moves_act c a) fun job hjob => ?_
  rw [List.append_nil, jobs_act c ha] at hjob
  rw [List.append_nil]
  refine (mem_onJobs hjob).imp_right fun hnone ticket hticket => ?_
  rw [hnone] at hticket
  cases hticket

theorem IsTracked.burst (h : IsTracked timeout c []) (actions : List Action) :
    IsTracked timeout (c.burst actions) [] :=
  (invariant_isTracked timeout _).burst (fun _ _ ha _ hc => hc.act ha) h (Nat.le_refl _)

theorem IsTracked.bursts (h : IsTracked timeout c []) (actions : List (List Action)) :
    IsTracked timeout (c.bursts actions) [] :=
  (invariant_isTracked timeout _).bursts (fun _ _ ha _ hc => hc.act ha) h (Nat.le_refl _)

theorem isTracked_of_new {endpoint : String} {options : Options} (hnew : Client.new endpoint options = .ok c)
    (inBackground : Bool) :
    IsTracked (options.linkSettings endpoint).callTimeout (c.started inBackground) [] := by
  obtain ⟨hhub, hjobs, -, -⟩ := started_of_new hnew inBackground
  refine ⟨⟨_, tracks_of_new hnew inBackground, Scene.kept_start _⟩, ?_, ?_⟩
  · rw [link, hhub]
    exact Calls.sound_withCeiling _
  rw [hjobs]
  exact fun job hjob => absurd hjob List.not_mem_nil

end Client
end ServiceLink
