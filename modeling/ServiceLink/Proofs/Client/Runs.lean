import ServiceLink.Proofs.Client.Acting
import ServiceLink.Proofs.Client.Background

/-! Runs of a client as moves in a scene: its jobs, the frames it gets, its time and all actions. -/

namespace ServiceLink.Client

open Scene (Step)

variable {timeout : Nat} {c c' : Client} {rest rest' : List (String × Job)}

/-! ### Jobs -/

theorem waiting_sublist {jobs jobs' : List (String × Job)} (h : jobs'.Sublist jobs)
    (d : Option Discovery) :
    (jobs'.filterMap (·.2.waiting?) ++ (d.bind Discovery.waiting?).toList).Sublist
      (jobs.filterMap (·.2.waiting?) ++ (d.bind Discovery.waiting?).toList) :=
  List.Sublist.append (h.filterMap _) (List.Sublist.refl _)

theorem moves_skip (c : Client) (rest : List (String × Job)) (job : String × Job) :
    Moves timeout c (job :: rest) [] c rest :=
  moves_of_hub rfl ⟨waiting_sublist ((List.sublist_cons_self _ _).append_left _) _, rfl, .inl rfl⟩

theorem moves_addJob (c : Client) (rest : List (String × Job)) (tag : String) {job : Job}
    (h : job.waiting? = none) : Moves timeout c rest [] (c.addJob tag job) rest := by
  refine moves_of_hub rfl ⟨?_, rfl, .inl rfl⟩
  simp [waiting, addJob, h]

theorem moves_addResult (c : Client) (rest : List (String × Job)) (tag : String) {r : JobResult}
    (hrefused : ∀ cause, r ≠ .refused cause) (hsubscribed : ∀ info, r ≠ .subscribed info) :
    Moves timeout c rest [] (c.addResult tag r) rest := by
  intro s hs
  refine ⟨[], s, .start, ⟨hs.orderly, hs.hub, hs.waiting, hs.distinct, hs.following⟩, rfl,
    fun tag' cause hmem => .inl ?_, fun tag' info hmem => .inl ?_, fun _ h => h,
    fun stream hmem => by cases hmem⟩
  · rcases List.mem_append.1 hmem with hmem | hmem
    · exact hmem
    · cases List.mem_singleton.1 hmem
      exact absurd rfl (hrefused cause)
  · rcases List.mem_append.1 hmem with hmem | hmem
    · exact hmem
    · cases List.mem_singleton.1 hmem
      exact absurd rfl (hsubscribed info)

theorem moves_dropHeld (c : Client) (rest : List (String × Job)) (tag : String) :
    Moves timeout c rest [] (c.dropHeld tag) rest := by
  unfold dropHeld
  split
  · exact moves_refl timeout c rest
  · exact (moves_release c rest _).then (moves_of_hub rfl ⟨.refl _, rfl, .inl rfl⟩)

theorem moves_giveHeld (c : Client) (rest : List (String × Job)) (tag : String) (stream : Nat) :
    Moves timeout c rest [] (c.giveHeld tag stream) rest :=
  (moves_dropHeld c rest tag).then (moves_of_hub rfl ⟨.refl _, rfl, .inl rfl⟩)

theorem addResult_giveHeld (c : Client) (tag : String) (stream : Nat) (r : JobResult) :
    (c.giveHeld tag stream).addResult tag r = (c.addResult tag r).giveHeld tag stream := by
  unfold giveHeld dropHeld
  dsimp only [addResult]
  split <;> rfl

theorem moves_runJob_subscribe (c : Client) (rest : List (String × Job)) (tag service : String)
    (requested : List String) :
    Moves timeout c ((tag, .subscribe service requested) :: rest) []
      (c.runJob tag (.subscribe service requested)) rest := by
  have hbegun := fun s hs => @beginSubscription_begun timeout c s hs service requested
  obtain ⟨hub, hclient⟩ := beginSubscription_client c service requested
  have hsub := (List.sublist_cons_self (tag, Job.subscribe service requested) rest).append_left c.jobs
  unfold runJob
  dsimp only
  cases hbegin : c.beginSubscription service requested with
  | mk result c₁ =>
    rw [hbegin] at hbegun hclient
    cases hclient
    cases result with
    | error cause =>
      refine moves_of_begun_error hbegun rfl (waiting_sublist hsub _) (.inl rfl) fun tag' r hmem => ?_
      rcases List.mem_append.1 hmem with hmem | hmem
      · exact .inl hmem
      · cases List.mem_singleton.1 hmem
        exact .inr rfl
    | ok started =>
      refine moves_of_begun_ok hbegun rfl (waiting_sublist hsub _) ?_ (.inl rfl) rfl
      simp only [waiting, addJob, List.filterMap_append, List.append_assoc]
      exact List.perm_middle

theorem moves_runJob_acknowledgement (c : Client) (rest : List (String × Job)) (tag : String)
    (w : Waiting) :
    Moves timeout c ((tag, .acknowledgement w.service w.generation w.ticket) :: rest) []
      (c.runJob tag (.acknowledgement w.service w.generation w.ticket)) rest := by
  have hcontinued := fun s hs hw => @continueSubscription_continued timeout c s hs w hw
  obtain ⟨hub, hclient⟩ := continueSubscription_client c w.service w.generation w.ticket
  have hperm : (c.waiting ((tag, .acknowledgement w.service w.generation w.ticket) :: rest)).Perm
      (w :: c.waiting rest) := by
    simp only [waiting, List.filterMap_append, List.append_assoc]
    exact List.perm_middle
  unfold runJob
  dsimp only
  cases hcontinue : c.continueSubscription w.service w.generation w.ticket with
  | mk result c₁ =>
    rw [hcontinue] at hclient
    simp only [hcontinue] at hcontinued
    cases hclient
    cases result with
    | none =>
      refine moves_of_continued_none hcontinued (hperm.symm.subset List.mem_cons_self) rfl ?_ rfl rfl
      simp only [waiting, addJob, List.append_assoc, List.singleton_append]
    | some result =>
      have hover : ∀ r : JobResult, (∃ cause, result = .error cause ∧ r = .refused cause) ∨
          (∃ info, result = .ok info ∧ r = .subscribed info) →
          Moves timeout c ((tag, .acknowledgement w.service w.generation w.ticket) :: rest) []
            ({ c with hub }.addResult tag r) rest := by
        intro r hr
        refine moves_of_continued_some hcontinued hperm rfl (List.Sublist.refl _) (.inl (.inl rfl))
          fun tag' r' hmem => ?_
        rcases List.mem_append.1 hmem with hmem | hmem
        · exact .inl hmem
        · cases List.mem_singleton.1 hmem
          refine .inr (hr.imp_right ?_)
          rintro ⟨info, hresult, hr⟩
          exact ⟨info, hresult, hr, List.mem_append_right _ List.mem_cons_self⟩
      cases result with
      | error cause => exact hover _ (.inl ⟨cause, rfl, rfl⟩)
      | ok info =>
        dsimp only [endSubscription]
        rw [addResult_giveHeld]
        exact (hover _ (.inr ⟨info, rfl, rfl⟩)).then (moves_giveHeld _ rest tag info.stream)

theorem moves_runJob (c : Client) (rest : List (String × Job)) (tag : String) (job : Job) :
    Moves timeout c ((tag, job) :: rest) [] (c.runJob tag job) rest := by
  cases job with
  | subscribe service requested => exact moves_runJob_subscribe c rest tag service requested
  | acknowledgement service generation ticket =>
    exact moves_runJob_acknowledgement c rest tag ⟨service, generation, ticket⟩
  | describe service =>
    let params := Json.object [("Service", .text service)]
    have hcalled : Moves timeout c ((tag, .describe service) :: rest) []
        (c.call ServiceList.discoveryName describeMethod (some params)).2 rest :=
      (moves_skip c rest _).then (moves_call c rest _ _ _)
    unfold runJob
    dsimp only [beginDescription]
    cases hcall : c.call ServiceList.discoveryName describeMethod (some params) with
    | mk result c₁ =>
      rw [hcall] at hcalled
      cases result with
      | error cause =>
        exact hcalled.then
          (moves_addResult c₁ rest tag (fun _ => JobResult.noConfusion) fun _ => JobResult.noConfusion)
      | ok receipt => exact hcalled.then (moves_addJob c₁ rest tag rfl)
  | description ticket =>
    have htaken : Moves timeout c ((tag, .description ticket) :: rest) []
        (c.takeOutcome ticket).2 rest := (moves_skip c rest _).then (moves_takeOutcome c rest ticket)
    unfold runJob
    dsimp only
    cases htake : c.takeOutcome ticket with
    | mk result c₁ =>
      rw [htake] at htaken
      cases result with
      | none => exact htaken.then (moves_addJob c₁ rest tag rfl)
      | some outcome =>
        cases outcome with
        | ok value =>
          exact htaken.then
            (moves_addResult c₁ rest tag (fun _ => JobResult.noConfusion) fun _ => JobResult.noConfusion)
        | error cause =>
          exact htaken.then
            (moves_addResult c₁ rest tag (fun _ => JobResult.noConfusion) fun _ => JobResult.noConfusion)

theorem moves_foldl_runJob (c : Client) (jobs rest : List (String × Job)) :
    Moves timeout c (jobs ++ rest) [] (jobs.foldl (fun c job => c.runJob job.1 job.2) c) rest := by
  induction jobs generalizing c with
  | nil => exact moves_refl timeout c rest
  | cons job jobs ih => exact (moves_runJob c (jobs ++ rest) job.1 job.2).then (ih _)

theorem moves_setAside (c : Client) : Moves timeout c [] [] { c with jobs := [] } c.jobs :=
  moves_of_hub rfl ⟨by simp [waiting], rfl, .inl rfl⟩

theorem moves_runJobs (c : Client) : Moves timeout c [] [] c.runJobs [] := by
  have hrun := @moves_foldl_runJob timeout { c with jobs := [] } c.jobs []
  rw [List.append_nil] at hrun
  exact (moves_setAside c).then hrun

theorem moves_abandon (c : Client) (rest : List (String × Job)) (job : Job) :
    Moves timeout c rest [] (c.abandon job) rest := by
  cases job with
  | acknowledgement service generation ticket => exact moves_forget c rest ticket
  | description ticket => exact moves_forget c rest ticket
  | subscribe service requested => exact moves_refl timeout c rest
  | describe service => exact moves_refl timeout c rest

theorem moves_cancel (c : Client) (tag : String) : Moves timeout c [] [] (c.cancel tag) [] := by
  have hkept : Moves timeout c [] [] { c with jobs := c.jobs.filter (·.1 ≠ tag) } [] :=
    moves_of_hub rfl ⟨waiting_sublist (List.filter_sublist.append (.refl [])) _, rfl, .inl rfl⟩
  refine hkept.then (moves_foldl (fun c job => ?_) _ _)
  exact (moves_abandon c [] job.2).then
    (moves_addResult _ [] tag (fun _ => JobResult.noConfusion) fun _ => JobResult.noConfusion)

/-! ### Time -/

theorem moves_settle (c : Client) : Moves timeout c [] [] c.settle [] :=
  (((moves_runMonitor c []).then (moves_runWatcher _ [])).then (moves_runDiscovery _ [])).then
    (moves_runJobs _)

theorem moves_sweepIfDue (c : Client) (now : Nat) :
    Moves timeout c [] [] (c.mapLink (·.sweepIfDue now)) [] := by
  have htick : Moves timeout c [] [] (c.mapLink (·.tick now)) [] := by
    have hlink : c.hub.link.Unheard (c.hub.link.tick now) := ⟨rfl, rfl, rfl, rfl⟩
    refine moves_calls (e := .sweep now) (fun ht => ?_) (fun _ => Calls.Event.noConfusion) hlink rfl
      ⟨.refl _, rfl, .inl rfl⟩
    subst ht
    exact .sweep now
  have hkept : c.mapLink (·.sweepIfDue now) = c.mapLink (·.tick now) ∨
      c.mapLink (·.sweepIfDue now) = c := by
    unfold mapLink Link.sweepIfDue
    dsimp only
    split
    · split
      · exact .inl rfl
      · exact .inr rfl
    · exact .inr rfl
  rcases hkept with h | h
  · rw [h]
    exact htick
  · rw [h]
    exact moves_refl timeout c []

theorem moves_clock (c : Client) (now : Nat) : Moves timeout c [] [] { c with now } [] :=
  moves_of_hub rfl ⟨.refl _, rfl, .inl rfl⟩

theorem moves_ring (c : Client) (t : Nat) : Moves timeout c [] [] (c.ring t) [] :=
  (((moves_clock c t).then (moves_sweepIfDue { c with now := t } t)).then (moves_settle _)).then
    (moves_clock _ t)

theorem moves_runTo (c : Client) (finish : Nat) : Moves timeout c [] [] (Timed.runTo finish c) [] :=
  Timed.runTo_keeps (P := fun d => Moves timeout c [] [] d []) (moves_refl timeout c [])
    (fun d t h _ _ _ => h.then (moves_ring d t)) fun d h _ => h.then (moves_clock d finish)

/-! ### Frames -/

theorem trace_hearMessage (s : Scene) (messages : List Rpc.Message) :
    Trace (Step timeout) s (messages.map .message)
      (s.mapHub fun h => messages.foldl Hub.hearMessage h) := by
  induction messages generalizing s with
  | nil => exact .start
  | cons m messages ih => exact (Trace.one (.message m)).append (ih _)

theorem moves_handleFrame (c : Client) (text : String) :
    Moves timeout c [] (Rpc.Frame.read text).messages (c.handleFrame text) [] := by
  intro s hs
  obtain ⟨hub, attempts⟩ := s
  cases hs.hub
  let messages := (Rpc.Frame.read text).messages
  let heard := messages.foldl Hub.hearMessage c.hub
  obtain ⟨link, hlink, hframe⟩ := Hub.handleFrame_eq hs.orderly.quiet text
  have hmessages : Trace (Step timeout) ⟨c.hub, attempts⟩ (messages.map .message) ⟨heard, attempts⟩ :=
    trace_hearMessage _ messages
  have hreply : Step timeout ⟨heard, attempts⟩ .aside ⟨{ heard with link }, attempts⟩ :=
    .aside heard.registry.services heard.registry.formats heard.registry.protocols hlink
  have htrace := hmessages.step hreply
  refine ⟨_, _, htrace,
    ⟨htrace.keeps (fun _ _ _ ho hstep => hstep.orderly ho) hs.orderly, ?_, ?_, ?_, ?_⟩, ?_,
    told_of_results rfl (fun _ h => h) fun stream hmem => ?_⟩
  · exact hframe.symm
  · exact hs.waiting
  · exact hs.distinct
  · intro stream hstream
    obtain ⟨hle, hnone⟩ := hs.following stream hstream
    exact ⟨Nat.le_trans hle (Scene.generation_le_of_trace htrace), hnone⟩
  · have hsome : ∀ ms : List Rpc.Message, (ms.map Move.message).filterMap Move.message? = ms := by
      intro ms
      rw [List.filterMap_map]
      exact List.filterMap_some
    rw [List.filterMap_append, hsome]
    exact List.append_nil _
  · simp at hmem

/-! ### Actions -/

theorem moves_openSocket (c : Client) : Moves timeout c [] [] c.openSocket [] := by
  have hattach : c.hub.link.SocketOnly c.hub.link.attach := ⟨rfl, rfl, rfl, rfl, rfl⟩
  exact moves_socket ((hattach.trans (Link.statusOnly_moveTo _ _).toSocketOnly).trans
    (Link.statusOnly_moveTo _ _).toSocketOnly)
    rfl ⟨.refl _, rfl, .inl rfl⟩

theorem moves_unhosted (c : Client) : Moves timeout c [] [] c.unhosted [] := by
  have hlink : c.hub.link.SocketOnly c.hub.link.stop.shutdown :=
    ((Link.statusOnly_stop _).trans (Link.statusOnly_shutdown _)).toSocketOnly
  exact moves_socket hlink rfl ⟨.refl _, rfl, .inl rfl⟩

theorem waiting_onJobs (c : Client) (a : Action) :
    ((a.onJobs c.jobs).filterMap (·.2.waiting?)).Sublist (c.jobs.filterMap (·.2.waiting?)) := by
  cases a with
  | subscribe => simp [Action.onJobs, Job.waiting?]
  | describe => simp [Action.onJobs, Job.waiting?]
  | cancel tag => exact List.filter_sublist.filterMap _
  | _ => exact .refl _

theorem moves_linked {a : Action} {l : Link.Action Handler} (h : a.Links c l) :
    Moves timeout c [] [] (c.mapLink fun link => (link.act c.now l).2) [] := by
  have hsocket : ∀ {link}, c.hub.link.SocketOnly link → Moves timeout c [] [] (c.mapLink fun _ => link) [] :=
    fun hlink => moves_socket hlink rfl ⟨.refl _, rfl, .inl rfl⟩
  cases h with
  | deafen => exact hsocket ⟨rfl, rfl, rfl, rfl, rfl⟩
  | moveTo s => exact hsocket (Link.statusOnly_moveTo _ s).toSocketOnly
  | start => exact hsocket (Link.statusOnly_start _).toSocketOnly
  | stop => exact hsocket (Link.statusOnly_stop _).toSocketOnly
  | call service method params target => exact moves_settles (Link.call_settles _ c.now target params)
  | notify service method params target => exact moves_settles (Link.notify_settles _ c.now target params)
  | batch calls entries => exact moves_settles (Link.batch_settles _ c.now entries)
  | listen method =>
    show Moves timeout c [] (Move.message? (.listened method)).toList _ []
    refine moves_of_step (fun s _ hs => ?_) ⟨.refl _, rfl, .inl rfl⟩
      fun _ => Move.noConfusion
    obtain ⟨hub, attempts⟩ := s
    cases hs
    exact .listened method
  | @unlisten id hknown =>
    show Moves timeout c [] (Move.message? (.unlistened id)).toList _ []
    refine moves_of_step (fun s _ hs => ?_) ⟨.refl _, rfl, .inl rfl⟩
      fun _ => Move.noConfusion
    obtain ⟨hub, attempts⟩ := s
    cases hs
    exact .unlistened hknown

theorem Acts.moves {a : Action} (h : Acts c a c') : Moves timeout c [] a.messages c' [] := by
  cases h with
  | aside hplain =>
    rw [hplain.messages]
    refine moves_of_hub rfl ⟨?_, rfl, .inl rfl⟩
    unfold waiting
    rw [List.append_nil, List.append_nil]
    exact List.Sublist.append (waiting_onJobs c a) (.refl _)
  | linked hlinks =>
    rw [hlinks.isPlain.messages]
    exact moves_linked hlinks
  | take ticket => exact moves_takeOutcome c [] ticket
  | forget ticket => exact moves_forget c [] ticket
  | cancel tag => exact moves_cancel c tag
  | letGo tag => exact moves_dropHeld c [] tag
  | unsubscribe service => exact moves_unsubscribe c [] service
  | openSocket => exact moves_openSocket c
  | frame text => exact moves_handleFrame c text
  | connected => exact moves_handleConnected c []
  | disconnected => exact moves_handleDisconnected c []
  | shutdown => exact (moves_unhosted c).then (moves_handleDisconnected _ [])

theorem moves_act (c : Client) (a : Action) : Moves timeout c [] a.messages (c.act a).2 [] := by
  by_cases hadvance : ∃ ms, a = .advance ms
  · obtain ⟨ms, rfl⟩ := hadvance
    exact (moves_settle c).then (moves_runTo _ _)
  · exact (act_acts c fun ms ha => hadvance ⟨ms, ha⟩).moves

/-- A new client, with or without its background tasks. -/
def started (c : Client) (inBackground : Bool) : Client := if inBackground then c.inBackground else c

theorem started_of_new {endpoint : String} {options : Options} {c : Client}
    (hnew : Client.new endpoint options = .ok c) (inBackground : Bool) :
    (c.started inBackground).hub = (Scene.start (options.linkSettings endpoint)).hub ∧
      (c.started inBackground).jobs = [] ∧ (c.started inBackground).results = [] ∧
      (c.started inBackground).discovery = none := by
  have hc : c.hub = (Scene.start (options.linkSettings endpoint)).hub ∧ c.jobs = [] ∧
      c.results = [] ∧ c.discovery = none := by
    unfold Client.new at hnew
    cases hcheck : options.check endpoint with
    | error cause =>
      rw [hcheck] at hnew
      cases hnew
    | ok url =>
      rw [hcheck] at hnew
      cases hnew
      exact ⟨rfl, rfl, rfl, rfl⟩
  cases inBackground <;> exact hc

theorem registry_of_new {endpoint : String} {options : Options} {c : Client}
    (hnew : Client.new endpoint options = .ok c) (inBackground : Bool) : (c.started inBackground).registry = {} :=
  congrArg (·.registry) (started_of_new hnew inBackground).1

theorem tracks_of_new {endpoint : String} {options : Options} {c : Client}
    (hnew : Client.new endpoint options = .ok c) (inBackground : Bool) :
    Tracks (options.linkSettings endpoint).callTimeout (c.started inBackground) []
      (Scene.start (options.linkSettings endpoint)) := by
  obtain ⟨hhub, hjobs, -, hdiscovery⟩ := started_of_new hnew inBackground
  have hnone : (c.started inBackground).waiting [] = [] := by simp [waiting, hjobs, hdiscovery]
  refine ⟨Scene.orderly_start _, hhub.symm, ?_, ?_, ?_⟩
  · simp [hnone]
  · simp [hnone]
  · simp [hdiscovery]

end ServiceLink.Client
