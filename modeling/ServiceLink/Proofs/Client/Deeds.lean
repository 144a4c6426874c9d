import ServiceLink.Proofs.Client.Attempting

/-! What a client does, one thing at a time. Each turn of its monitor, its watcher, its discovery and its
jobs is a deed of its own, and each deed names the attempts with which it breaks, so that nobody waits for
them any more. A run is a sequence of deeds in one of the orders in which the turns may come. -/

namespace ServiceLink.Client

variable {timeout : Nat} {c c' c'' : Client} {rest rest' : List (String × Job)}

/-- One step of a client: an action on it, or the turn of one of its tasks. -/
inductive Deed
  /-- An action, with the attempts that it breaks off. -/
  | acted (a : Action) (broken : List Waiting)
  /-- The watcher handles a status, with the attempts that this breaks off. -/
  | told (s : Status) (broken : List Waiting)
  /-- The watcher takes the changes of status. -/
  | emptied
  | polled
  /-- The turn of the discovery, and how it ends there if it does. -/
  | discovered (result : Option (Except SubscriptionError SubscriptionInfo))
  | worked (tag : String) (job : Job)
  | swept (time : Nat)
  | timed (time : Nat)

def Action.handled? : Action → Option Status
  | .connected => some .connected
  | .disconnected | .shutdown => some .notConnected
  | _ => none

namespace Deed

def action? : Deed → Option Action
  | .acted a _ => some a
  | _ => none

def broken : Deed → List Waiting
  | .acted _ broken | .told _ broken => broken
  | _ => []

/-- The connection or disconnection that is handled. -/
def handled? : Deed → Option Status
  | .acted a _ => a.handled?
  | .told .connected _ => some .connected
  | .told .notConnected _ => some .notConnected
  | _ => none

def messages (d : Deed) : List Rpc.Message := d.action?.elim [] Action.messages

end Deed

def withJobs (c : Client) (jobs : List (String × Job)) : Client := { c with jobs }

def inquiring (c : Client) : List Waiting := (c.discovery.bind Discovery.waiting?).toList

/-- The attempts that an action breaks off. -/
def brokenBy (c : Client) : Action → List Waiting
  | .cancel tag => (c.jobs.filter (·.1 = tag)).filterMap (·.2.waiting?)
  | .connected | .disconnected | .shutdown => c.inquiring
  | _ => []

/-- The attempts that handling a status breaks off. -/
def brokenOn (c : Client) : Status → List Waiting
  | .connected | .notConnected => c.inquiring
  | _ => []

/-- How the discovery ends in its turn, if it does. -/
def conclusion? (c : Client) : Option (Except SubscriptionError SubscriptionInfo) :=
  match c.discovery with
  | some .subscribe =>
    match (c.beginSubscription ServiceList.discoveryName [listProperty]).1 with
    | .ok _ => none
    | .error cause => some (.error cause)
  | some (.acknowledgement generation ticket) =>
    (c.continueSubscription ServiceList.discoveryName generation ticket).1
  | _ => none

/-- The outcomes of `runDiscovery`, with how the discovery ends if it does. -/
inductive Turn (c : Client) : Option (Except SubscriptionError SubscriptionInfo) → Client → Prop
  | idle : c.discovery = none → Turn c none c
  | asked {generation : Nat} {ticket : Ticket} {c' : Client} : c.discovery = some .subscribe →
      Opening c ServiceList.discoveryName [listProperty] (.ok (generation, ticket)) c' →
      Turn c none { c' with discovery := some (.acknowledgement generation ticket) }
  | refused {cause : SubscriptionError} {c' : Client} : c.discovery = some .subscribe →
      Opening c ServiceList.discoveryName [listProperty] (.error cause) c' →
      Turn c (some (.error cause)) (c'.failDiscovery cause)
  | waits {generation : Nat} {ticket : Ticket} {c' : Client} :
      c.discovery = some (.acknowledgement generation ticket) →
      Continuing c ServiceList.discoveryName generation ticket none c' → Turn c none c'
  | failed {generation : Nat} {ticket : Ticket} {cause : SubscriptionError} {c' : Client} :
      c.discovery = some (.acknowledgement generation ticket) →
      Continuing c ServiceList.discoveryName generation ticket (some (.error cause)) c' →
      Turn c (some (.error cause)) (c'.failDiscovery cause)
  | learnt {generation : Nat} {ticket : Ticket} {info : SubscriptionInfo} {c' : Client} :
      c.discovery = some (.acknowledgement generation ticket) →
      Continuing c ServiceList.discoveryName generation ticket (some (.ok info)) c' →
      Turn c (some (.ok info))
        ({ c'.learn info with discovery := some (.following info.stream) }.follow info.stream)
  | followed {stream : Nat} : c.discovery = some (.following stream) → Turn c none (c.follow stream)

theorem runDiscovery_turn (c : Client) : Turn c c.conclusion? c.runDiscovery := by
  unfold conclusion? runDiscovery
  cases hd : c.discovery with
  | none => exact .idle hd
  | some d =>
    cases d with
    | subscribe =>
      have hopening := beginSubscription_opening c ServiceList.discoveryName [listProperty]
      dsimp only
      generalize c.beginSubscription ServiceList.discoveryName [listProperty] = begun at hopening ⊢
      obtain ⟨cause | ⟨generation, ticket⟩, c'⟩ := begun
      · exact .refused hd hopening
      · exact .asked hd hopening
    | acknowledgement generation ticket =>
      have hcontinuing := continueSubscription_continuing c ServiceList.discoveryName generation ticket
      dsimp only
      generalize c.continueSubscription ServiceList.discoveryName generation ticket = continued
        at hcontinuing ⊢
      obtain ⟨_ | cause | info, c'⟩ := continued
      · exact .waits hd hcontinuing
      · exact .failed hd hcontinuing
      · exact .learnt hd hcontinuing
    | following stream => exact .followed hd

theorem Turn.of_none {result : Option (Except SubscriptionError SubscriptionInfo)} (h : Turn c result c')
    (hnone : c.discovery = none) : result = none ∧ c' = c := by
  cases h with
  | idle => exact ⟨rfl, rfl⟩
  | asked hd => cases hnone.symm.trans hd
  | refused hd => cases hnone.symm.trans hd
  | waits hd => cases hnone.symm.trans hd
  | failed hd => cases hnone.symm.trans hd
  | learnt hd => cases hnone.symm.trans hd
  | followed hd => cases hnone.symm.trans hd

/-- The outcomes of `runJob`. -/
inductive Works (c : Client) (tag : String) : Job → Client → Prop
  | asked {service : String} {requested : List String} {generation : Nat} {ticket : Ticket} {c' : Client} :
      Opening c service requested (.ok (generation, ticket)) c' →
      Works c tag (.subscribe service requested)
        (c'.addJob tag (.acknowledgement service generation ticket))
  | refused {service : String} {requested : List String} {cause : SubscriptionError} {c' : Client} :
      Opening c service requested (.error cause) c' →
      Works c tag (.subscribe service requested) (c'.addResult tag (.refused cause))
  | waits {service : String} {generation : Nat} {ticket : Ticket} {c' : Client} :
      Continuing c service generation ticket none c' →
      Works c tag (.acknowledgement service generation ticket)
        (c'.addJob tag (.acknowledgement service generation ticket))
  | ended {service : String} {generation : Nat} {ticket : Ticket}
      {result : Except SubscriptionError SubscriptionInfo} {c' : Client} :
      Continuing c service generation ticket (some result) c' →
      Works c tag (.acknowledgement service generation ticket) (c'.endSubscription tag result)
  | describes {service : String} {ticket : Ticket} {c' : Client} :
      c.beginDescription service = (.ok ticket, c') →
      Works c tag (.describe service) (c'.addJob tag (.description ticket))
  | unsent {service : String} {cause : LinkError} {c' : Client} :
      c.beginDescription service = (.error cause, c') →
      Works c tag (.describe service) (c'.addResult tag (.failed cause))
  | looked {ticket : Ticket} : (c.takeOutcome ticket).1 = none →
      Works c tag (.description ticket) ((c.takeOutcome ticket).2.addJob tag (.description ticket))
  | described {ticket : Ticket} {value : Json} : (c.takeOutcome ticket).1 = some (.ok value) →
      Works c tag (.description ticket)
        ((c.takeOutcome ticket).2.addResult tag (.described (.read value)))
  | rejected {ticket : Ticket} {cause : CallError} : (c.takeOutcome ticket).1 = some (.error cause) →
      Works c tag (.description ticket) ((c.takeOutcome ticket).2.addResult tag (.failed (.call cause)))

theorem runJob_works (c : Client) (tag : String) (job : Job) : Works c tag job (c.runJob tag job) := by
  unfold runJob
  cases job with
  | subscribe service requested =>
    have hopening := beginSubscription_opening c service requested
    dsimp only
    generalize c.beginSubscription service requested = begun at hopening ⊢
    obtain ⟨cause | started, c'⟩ := begun
    · exact .refused hopening
    · exact .asked hopening
  | acknowledgement service generation ticket =>
    have hcontinuing := continueSubscription_continuing c service generation ticket
    dsimp only
    generalize c.continueSubscription service generation ticket = continued at hcontinuing ⊢
    obtain ⟨_ | result, c'⟩ := continued
    · exact .waits hcontinuing
    · exact .ended hcontinuing
  | describe service =>
    dsimp only
    cases hbegin : c.beginDescription service with
    | mk result c' =>
      cases result with
      | error cause => exact .unsent hbegin
      | ok ticket => exact .describes hbegin
  | description ticket =>
    have hlook : c.takeOutcome ticket = ((c.takeOutcome ticket).1, (c.takeOutcome ticket).2) := rfl
    dsimp only
    rw [hlook]
    cases houtcome : (c.takeOutcome ticket).1 with
    | none => exact .looked houtcome
    | some outcome =>
      cases outcome with
      | ok value => exact .described houtcome
      | error cause => exact .rejected houtcome

theorem beginDescription_client {service : String} {result : Except LinkError Ticket}
    (h : c.beginDescription service = (result, c')) :
    (∃ hub, c' = { c with hub }) ∧ c'.registry = c.registry := by
  obtain ⟨hub, hclient⟩ := worked_client c (.describe service)
  have hworked : c.worked (.describe service) = c' := congrArg Prod.snd h
  have hregistry : (c.worked (.describe service)).registry = c.registry := by
    dsimp only [worked, beginDescription, Client.call]
    split <;> rfl
  rw [hworked] at hclient hregistry
  exact ⟨⟨hub, hclient⟩, hregistry⟩

inductive Does (c : Client) : Deed → Client → Prop
  | acted {a : Action} : (∀ ms, a ≠ .advance ms) → Does c (.acted a (c.brokenBy a)) (c.act a).2
  /-- Time goes on by the deeds that follow. -/
  | advanced (ms : Nat) : Does c (.acted (.advance ms) []) c
  | told (s : Status) : Does c (.told s (c.brokenOn s)) (c.handleStatus s)
  | emptied : Does c .emptied (c.mapLink fun l => { l with events := [] })
  | polled : Does c .polled c.runMonitor
  | discovered : Does c (.discovered c.conclusion?) c.runDiscovery
  /-- Any job may be the next to go on. -/
  | worked {before after : List (String × Job)} {tag : String} {job : Job} :
      c.jobs = before ++ (tag, job) :: after →
      Does c (.worked tag job) (({ c with jobs := before ++ after } : Client).runJob tag job)
  | swept (time : Nat) : Does c (.swept time) (c.mapLink (·.sweepIfDue time))
  | timed (time : Nat) : Does c (.timed time) { c with now := time }

theorem Does.turn {result : Option (Except SubscriptionError SubscriptionInfo)}
    (h : Does c (.discovered result) c') : Turn c result c' := by
  cases h
  exact runDiscovery_turn c

/-! ### Runs -/

/-- Deeds lead from one client to another, with these actions among them. -/
def Performs (c : Client) (actions : List Action) (c' : Client) : Prop :=
  ∃ log, Trace Does c log c' ∧ log.filterMap Deed.action? = actions

variable {actions more : List Action}

theorem Performs.refl (c : Client) : c.Performs [] c := ⟨[], .start, rfl⟩

theorem Performs.trans (h : c.Performs actions c') (h' : c'.Performs more c'') :
    c.Performs (actions ++ more) c'' := by
  obtain ⟨log, htrace, rfl⟩ := h
  obtain ⟨log', htrace', rfl⟩ := h'
  exact ⟨log ++ log', htrace.append htrace', List.filterMap_append⟩

theorem Performs.then (h : c.Performs [] c') (h' : c'.Performs actions c'') : c.Performs actions c'' :=
  h.trans h'

theorem Does.performs {d : Deed} (h : Does c d c') : c.Performs d.action?.toList c' :=
  ⟨[d], .one h, by cases d <;> rfl⟩

theorem Performs.foldl {α : Type} {f : Client → α → Client} (hf : ∀ c a, Performs c [] (f c a))
    (as : List α) (c : Client) : c.Performs [] (as.foldl f c) := by
  induction as generalizing c with
  | nil => exact .refl c
  | cons a as ih => exact (hf c a).then (ih _)

/-! ### The turn of a job does not look at the other jobs -/

theorem beginSubscription_withJobs (c : Client) (jobs : List (String × Job)) (service : String)
    (requested : List String) :
    (c.withJobs jobs).beginSubscription service requested =
      ((c.beginSubscription service requested).1,
        (c.beginSubscription service requested).2.withJobs jobs) := by
  have hopening := beginSubscription_opening c service requested
  generalize c.beginSubscription service requested = begun at hopening ⊢
  obtain ⟨result, c'⟩ := begun
  cases hopening with
  | unknown hknown => exact Opening.eq (.unknown hknown)
  | already hknown hentry => exact Opening.eq (.already hknown hentry)
  | unsent hknown hentry hcall => exact Opening.eq (.unsent hknown hentry hcall)
  | asked hknown hentry hcall => exact Opening.eq (.asked hknown hentry hcall)

theorem continueSubscription_withJobs (c : Client) (jobs : List (String × Job)) (service : String)
    (generation : Nat) (ticket : Ticket) :
    (c.withJobs jobs).continueSubscription service generation ticket =
      ((c.continueSubscription service generation ticket).1,
        (c.continueSubscription service generation ticket).2.withJobs jobs) := by
  have hcontinuing := continueSubscription_continuing c service generation ticket
  generalize c.continueSubscription service generation ticket = continued at hcontinuing ⊢
  obtain ⟨result, c'⟩ := continued
  cases hcontinuing with
  | waits htake hcurrent => exact Continuing.eq (.waits htake hcurrent)
  | closed htake hcurrent => exact Continuing.eq (.closed htake hcurrent)
  | rejected htake => exact Continuing.eq (.rejected htake)
  | unversioned htake hversion => exact Continuing.eq (.unversioned htake hversion)
  | late htake hversion hcurrent => exact Continuing.eq (.late htake hversion hcurrent)
  | established htake hversion hcurrent => exact Continuing.eq (.established htake hversion hcurrent)

theorem giveHeld_withJobs (c : Client) (jobs : List (String × Job)) (tag : String) (stream : Nat) :
    (c.withJobs jobs).giveHeld tag stream = (c.giveHeld tag stream).withJobs jobs := by
  unfold giveHeld dropHeld withJobs
  dsimp only
  split <;> rfl

theorem beginDescription_withJobs (c : Client) (jobs : List (String × Job)) (service : String) :
    (c.withJobs jobs).beginDescription service =
      ((c.beginDescription service).1, (c.beginDescription service).2.withJobs jobs) := by
  unfold beginDescription Client.call
  have hregistry : (c.withJobs jobs).registry = c.registry := rfl
  rw [hregistry]
  cases c.registry.target? ServiceList.discoveryName describeMethod <;> rfl

theorem runJob_withJobs (c : Client) (first : List (String × Job)) (tag : String) (job : Job) :
    (c.withJobs (first ++ c.jobs)).runJob tag job =
      (c.runJob tag job).withJobs (first ++ (c.runJob tag job).jobs) := by
  have hadd : ∀ (c : Client) (next : Job), (c.withJobs (first ++ c.jobs)).addJob tag next =
      (c.addJob tag next).withJobs (first ++ (c.addJob tag next).jobs) := by
    intro c next
    simp [withJobs, addJob]
  have hworked : (c.worked job).jobs = c.jobs := by
    obtain ⟨hub, hclient⟩ := worked_client c job
    rw [hclient]
  unfold runJob
  cases job with
  | subscribe service requested =>
    dsimp only [worked] at hworked ⊢
    rw [beginSubscription_withJobs]
    cases hbegin : c.beginSubscription service requested with
    | mk result c₁ =>
      rw [hbegin] at hworked
      rw [← hworked]
      cases result with
      | error cause => rfl
      | ok started => exact hadd c₁ _
  | acknowledgement service generation ticket =>
    dsimp only [worked] at hworked ⊢
    rw [continueSubscription_withJobs]
    cases hcontinue : c.continueSubscription service generation ticket with
    | mk result c₁ =>
      rw [hcontinue] at hworked
      rw [← hworked]
      cases result with
      | none => exact hadd c₁ _
      | some result =>
        cases result with
        | error cause => rfl
        | ok info =>
          have hjobs : (c₁.giveHeld tag info.stream).jobs = c₁.jobs := by
            unfold giveHeld dropHeld
            split <;> rfl
          dsimp only [endSubscription]
          rw [giveHeld_withJobs, ← hjobs]
          rfl
  | describe service =>
    dsimp only [worked] at hworked ⊢
    rw [beginDescription_withJobs]
    cases hbegin : c.beginDescription service with
    | mk result c₁ =>
      rw [hbegin] at hworked
      rw [← hworked]
      cases result with
      | error cause => rfl
      | ok ticket => exact hadd c₁ _
  | description ticket =>
    have htake : (c.withJobs (first ++ c.jobs)).takeOutcome ticket =
        ((c.takeOutcome ticket).1, (c.takeOutcome ticket).2.withJobs (first ++ c.jobs)) := rfl
    dsimp only [worked] at hworked ⊢
    rw [htake]
    cases htaken : c.takeOutcome ticket with
    | mk result c₁ =>
      rw [htaken] at hworked
      rw [← hworked]
      cases result with
      | none => exact hadd c₁ _
      | some outcome => cases outcome <;> rfl

/-! ### Runs -/

theorem performs_foldl_runJob (c : Client) (jobs : List (String × Job)) :
    (c.withJobs (jobs ++ c.jobs)).Performs [] (jobs.foldl (fun c job => c.runJob job.1 job.2) c) := by
  induction jobs generalizing c with
  | nil => exact .refl c
  | cons job jobs ih =>
    have hjobs : (c.withJobs (job :: jobs ++ c.jobs)).jobs = [] ++ job :: (jobs ++ c.jobs) := rfl
    have hrun := (Does.worked hjobs).performs
    rw [List.nil_append] at hrun
    rw [show ({ c.withJobs (job :: jobs ++ c.jobs) with jobs := jobs ++ c.jobs } : Client) =
      c.withJobs (jobs ++ c.jobs) from rfl, runJob_withJobs] at hrun
    exact hrun.then (ih _)

theorem performs_runJobs (c : Client) : c.Performs [] c.runJobs := by
  have hrun := performs_foldl_runJob (c.withJobs []) c.jobs
  have hall : (c.withJobs []).withJobs (c.jobs ++ (c.withJobs []).jobs) = c := by
    show c.withJobs (c.jobs ++ []) = c
    rw [List.append_nil]
    rfl
  rwa [hall] at hrun

theorem performs_runWatcher (c : Client) : c.Performs [] c.runWatcher := by
  unfold runWatcher
  split
  · exact (Does.performs .emptied).then (.foldl (fun c s => Does.performs (.told s)) _ _)
  · exact .refl c

theorem performs_settle (c : Client) : c.Performs [] c.settle :=
  (((Does.performs .polled).then (performs_runWatcher _)).then (Does.performs .discovered)).then
    (performs_runJobs _)

theorem performs_ring (c : Client) (t : Nat) : c.Performs [] (c.ring t) :=
  (((Does.performs (.timed t)).then (Does.performs (.swept t))).then (performs_settle _)).then
    (Does.performs (.timed t))

theorem performs_runTo (c : Client) (finish : Nat) : c.Performs [] (Timed.runTo finish c) :=
  Timed.runTo_keeps (P := fun d => c.Performs [] d) (.refl c)
    (fun d t h _ _ _ => h.then (performs_ring d t)) fun _ h _ => h.then (Does.performs (.timed finish))

theorem performs_act (c : Client) (a : Action) : c.Performs [a] (c.act a).2 := by
  by_cases hadvance : ∃ ms, a = .advance ms
  · obtain ⟨ms, rfl⟩ := hadvance
    have hbegun : c.Performs [.advance ms] c := Does.performs (.advanced ms)
    have hthen : c.Performs [] (c.act (.advance ms)).2 := (performs_settle c).then (performs_runTo _ _)
    exact hbegun.trans hthen
  · exact Does.performs (.acted fun ms ha => hadvance ⟨ms, ha⟩)

theorem performs_burst (c : Client) (actions : List Action) : c.Performs actions (c.burst actions) := by
  induction actions generalizing c with
  | nil => exact .refl c
  | cons a actions ih => exact (performs_act c a).trans (ih _)

/-- A run is a sequence of deeds, among them its actions in order. -/
theorem performs_bursts (c : Client) (actions : List (List Action)) :
    c.Performs actions.flatten (c.bursts actions) := by
  induction actions generalizing c with
  | nil => exact .refl c
  | cons burst actions ih => exact (performs_burst c burst).trans ((performs_settle _).then (ih _))

/-! ### What waits -/

theorem mem_waiting_of_discovery {discovery : Discovery} {w : Waiting} (hd : c.discovery = some discovery)
    (hw : discovery.waiting? = some w) : w ∈ c.waiting rest := by
  refine List.mem_append_right _ (Option.mem_toList.2 ?_)
  rw [hd]
  exact hw

theorem waiting_perm (hd : c'.discovery = c.discovery) (hjobs : (c'.jobs ++ rest').Perm (c.jobs ++ rest)) :
    (c'.waiting rest').Perm (c.waiting rest) := by
  unfold waiting
  rw [hd]
  exact (hjobs.filterMap _).append_right _

theorem moves_of_perm (hhub : c'.hub = c.hub) (hd : c'.discovery = c.discovery)
    (hresults : c'.results = c.results) (hjobs : (c'.jobs ++ rest').Perm (c.jobs ++ rest)) :
    Moves timeout c rest [] c' rest' := by
  intro s hs
  have hwaiting := waiting_perm hd hjobs
  have hretires : c.Retires c' := .inl hd
  refine ⟨[], s, .start, ⟨hs.orderly, hs.hub.trans hhub.symm, fun w hw => ?_, ?_, hd ▸ hs.following⟩, rfl,
    told_of_results hresults (hretires.mayFollow ?_) nofun⟩
  · exact hs.waiting w (hwaiting.subset hw)
  · exact (hwaiting.map _).nodup_iff.2 hs.distinct
  · exact Nat.le_of_eq (congrArg (·.registry.generation) hhub.symm)

theorem IsTracked.of_perm (h : IsTracked timeout c rest) (hhub : c'.hub = c.hub) (hd : c'.discovery = c.discovery)
    (hresults : c'.results = c.results) (hjobs : (c'.jobs ++ rest').Perm (c.jobs ++ rest)) :
    IsTracked timeout c' rest' :=
  h.of_subset (moves_of_perm hhub hd hresults hjobs) hjobs.subset

theorem perm_of_middle {before after : List (String × Job)} {job : String × Job}
    (hjobs : c.jobs = before ++ job :: after) : (before ++ after ++ [job]).Perm (c.jobs ++ []) := by
  rw [hjobs, List.append_nil, List.append_assoc]
  exact List.perm_append_comm.append_left before

/-- Every deed is a sequence of moves, which bring its messages. -/
theorem Does.moves {d : Deed} (h : Does c d c') : Moves timeout c [] d.messages c' [] := by
  cases h with
  | @acted a => exact moves_act c a
  | advanced ms => exact moves_refl timeout c []
  | told s => exact moves_handleStatus c [] s
  | emptied =>
    have hlink : c.hub.link.SocketOnly { c.hub.link with events := [] } := ⟨rfl, rfl, rfl, rfl, rfl⟩
    exact moves_socket hlink rfl ⟨.refl _, rfl, .inl rfl⟩
  | polled => exact moves_runMonitor c []
  | discovered => exact moves_runDiscovery c []
  | @worked before after tag job hjobs =>
    have haside : Moves timeout c [] [] (c.withJobs (before ++ after)) [(tag, job)] :=
      moves_of_perm rfl rfl rfl (perm_of_middle hjobs)
    exact haside.then (moves_runJob _ [] tag job)
  | swept t => exact moves_sweepIfDue c t
  | timed t => exact moves_clock c t

theorem moves_of_trace {log : List Deed} (h : Trace Does c log c') :
    Moves timeout c [] (log.flatMap Deed.messages) c' [] := by
  induction h with
  | start => exact moves_refl timeout c []
  | step _ hdoes ih =>
    rw [List.flatMap_append, List.flatMap_singleton]
    exact ih.trans hdoes.moves

theorem Does.isTracked {d : Deed} (h : Does c d c') (hc : IsTracked timeout c []) : IsTracked timeout c' [] := by
  have hmoves : Moves timeout c [] d.messages c' [] := h.moves
  cases h with
  | acted ha => exact hc.act ha
  | advanced ms => exact hc
  | told s => exact hc.of_jobs hmoves (hubOnly_handleStatus c s).jobs
  | emptied => exact hc.of_jobs hmoves rfl
  | polled => exact hc.runMonitor
  | discovered => exact hc.runDiscovery
  | @worked before after tag job hjobs =>
    have haside : IsTracked timeout (c.withJobs (before ++ after)) [(tag, job)] :=
      hc.of_perm rfl rfl rfl (perm_of_middle hjobs)
    exact haside.runJob
  | swept t => exact hc.of_jobs hmoves rfl
  | timed t => exact hc.of_jobs hmoves rfl

theorem isTracked_of_trace {log : List Deed} (h : Trace Does c log c') (hc : IsTracked timeout c []) :
    IsTracked timeout c' [] :=
  h.keeps (fun _ _ _ hx hdoes => hdoes.isTracked hx) hc

end ServiceLink.Client
