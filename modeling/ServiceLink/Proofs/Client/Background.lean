import ServiceLink.Proofs.Client.Moves

/-! What a client does with its link, with its streams and in the background, as moves in a scene. An
attempt that waits goes on in the same way for the discovery and for a caller. -/

namespace ServiceLink.Client

open Scene (Step)

variable {timeout : Nat} {c c' : Client} {rest rest' : List (String × Job)}

/-! ### The link -/

theorem moves_aside {link : Link Handler} (hlink : c.hub.link.SocketOnly link)
    (services : ServiceList) (formats : Option (List ReturnFormat))
    (protocols : Option (List SocketProtocol))
    (hc : c'.hub =
      { c.hub with link, registry := { c.hub.registry with services, formats, protocols } })
    (h : c.NothingNew rest c' rest') : Moves timeout c rest [] c' rest' := by
  show Moves timeout c rest (Move.message? .aside).toList c' rest'
  refine moves_of_step (fun s _ hs => ?_) h fun _ => Move.noConfusion
  obtain ⟨hub, attempts⟩ := s
  cases hs
  rw [hc]
  exact .aside services formats protocols hlink

theorem moves_socket {link : Link Handler} (hlink : c.hub.link.SocketOnly link)
    (hc : c'.hub = { c.hub with link }) (h : c.NothingNew rest c' rest') :
    Moves timeout c rest [] c' rest' :=
  moves_aside hlink c.hub.registry.services c.hub.registry.formats c.hub.registry.protocols hc h

theorem moves_calls {e : Calls.Event} {link : Link Handler}
    (hstep : c.hub.link.settings.callTimeout = timeout →
      Calls.Step timeout c.hub.link.calls e link.calls)
    (hne : ∀ m, e ≠ .message m) (hlink : c.hub.link.Unheard link) (hc : c'.hub = { c.hub with link })
    (h : c.NothingNew rest c' rest') : Moves timeout c rest [] c' rest' := by
  show Moves timeout c rest (Move.message? (.calls e)).toList c' rest'
  refine moves_of_step (fun s ho hs => ?_) h fun _ => Move.noConfusion
  obtain ⟨hub, attempts⟩ := s
  cases hs
  rw [hc]
  exact .calls (hstep ho.timeout) hne hlink

theorem moves_forget (c : Client) (rest : List (String × Job)) (ticket : Ticket) :
    Moves timeout c rest [] (c.forget ticket) rest := by
  have hlink : c.hub.link.Unheard { c.hub.link with calls := c.hub.link.calls.forget ticket } :=
    ⟨rfl, rfl, rfl, rfl⟩
  exact moves_calls (e := .forgotten ticket) (fun _ => .forgotten ticket)
    (fun _ => Calls.Event.noConfusion) hlink rfl ⟨.refl _, rfl, .inl rfl⟩

theorem moves_takeOutcome (c : Client) (rest : List (String × Job)) (ticket : Ticket) :
    Moves timeout c rest [] (c.takeOutcome ticket).2 rest := by
  have hlink : c.hub.link.Unheard
      { c.hub.link with calls := (c.hub.link.calls.take ticket).2 } := ⟨rfl, rfl, rfl, rfl⟩
  exact moves_calls (e := .looked ticket) (fun _ => .looked ticket)
    (fun _ => Calls.Event.noConfusion) hlink rfl ⟨.refl _, rfl, .inl rfl⟩

theorem moves_settles {link : Link Handler} {now : Nat} {entries : List BatchEntry}
    {frames : List (Option Receipt) → List OutboundFrame}
    {result : Except LinkError (List (Option Receipt))}
    (h : c.hub.link.Settles now entries frames result link) :
    Moves timeout c rest [] (c.mapLink fun _ => link) rest := by
  refine moves_calls (fun _ => h.step timeout) (fun m => ?_) h.unheard rfl ⟨.refl _, rfl, .inl rfl⟩
  cases result <;> exact Calls.Event.noConfusion

theorem moves_call (c : Client) (rest : List (String × Job)) (service method : String)
    (params : Option Json) : Moves timeout c rest [] (c.call service method params).2 rest := by
  unfold Client.call
  split
  · exact moves_refl timeout c rest
  · exact moves_settles (Link.call_settles c.hub.link c.now _ params)

/-! ### Streams and subscriptions -/

theorem moves_release (c : Client) (rest : List (String × Job)) (stream : Nat) :
    Moves timeout c rest [] { c with hub := c.hub.updateStream stream Stream.release } rest := by
  show Moves timeout c rest (Move.message? (.released stream)).toList _ rest
  refine moves_of_step (fun s _ hs => ?_) ⟨.refl _, rfl, .inl rfl⟩
    fun _ => Move.noConfusion
  obtain ⟨hub, attempts⟩ := s
  cases hs
  exact .released stream

theorem moves_drain (rest : List (String × Job)) {stream : Nat} (hm : c.MayFollow stream) :
    Moves timeout c rest [] { c with hub := c.hub.updateStream stream Stream.drain } rest := by
  show Moves timeout c rest (Move.message? (.drained stream)).toList _ rest
  refine moves_of_step (fun s _ hs => ?_) ⟨.refl _, rfl, .inl rfl⟩ ?_
  · obtain ⟨hub, attempts⟩ := s
    cases hs
    exact .drained stream
  · rintro _ ⟨⟩
    exact hm

theorem step_unsubscribe {s : Scene} (hs : s.hub = c.hub) {service : String} {e : Entry}
    (he : c.registry.entry? service = some e) :
    Step timeout s (.unsubscribed service) { s with hub := (c.unsubscribe service).hub } := by
  obtain ⟨hub, attempts⟩ := s
  cases hs
  unfold Client.unsubscribe
  rw [he]
  dsimp only
  split
  · exact .unsubscribed he (Link.statusOnly_notify _ _ _).toSocketOnly
  · exact .unsubscribed he (.refl _)

theorem unsubscribe_client (c : Client) (service : String) :
    ∃ hub, c.unsubscribe service = { c with hub } := by
  unfold Client.unsubscribe
  split
  · exact ⟨c.hub, rfl⟩
  · dsimp only
    split <;> exact ⟨_, rfl⟩

theorem moves_unsubscribe (c : Client) (rest : List (String × Job)) (service : String) :
    Moves timeout c rest [] (c.unsubscribe service) rest := by
  cases he : c.registry.entry? service with
  | none =>
    have hsame : c.unsubscribe service = c := by
      unfold Client.unsubscribe
      rw [he]
    rw [hsame]
    exact moves_refl timeout c rest
  | some e =>
    have hstep := fun s (_ : s.Orderly timeout) hs => @step_unsubscribe timeout c s hs service e he
    obtain ⟨hub, hclient⟩ := unsubscribe_client c service
    rw [hclient] at hstep ⊢
    exact moves_of_step hstep ⟨.refl _, rfl, .inl rfl⟩ fun _ => Move.noConfusion

theorem moves_leave (c : Client) (rest : List (String × Job)) :
    Moves timeout c rest [] { c with discovery := none } rest :=
  moves_of_hub rfl ⟨List.Sublist.append (.refl _) (List.nil_sublist _), rfl, .inr rfl⟩

theorem moves_abortDiscovery (c : Client) (rest : List (String × Job)) :
    Moves timeout c rest [] c.abortDiscovery rest := by
  unfold abortDiscovery
  split
  · exact (moves_forget c rest _).then (moves_leave _ rest)
  · exact (moves_release c rest _).then (moves_leave _ rest)
  · exact moves_leave c rest

theorem moves_handleConnected (c : Client) (rest : List (String × Job)) :
    Moves timeout c rest [] c.handleConnected rest := by
  refine (moves_abortDiscovery c rest).then (moves_of_hub rfl ⟨?_, rfl, .inr rfl⟩)
  exact List.Sublist.append (List.Sublist.refl _) (List.nil_sublist _)

theorem step_handleDisconnected {s : Scene} (hs : s.hub = c.abortDiscovery.hub) :
    Step timeout s .disconnected { s with hub := c.handleDisconnected.hub } := by
  obtain ⟨hub, attempts⟩ := s
  cases hs
  exact .disconnected

theorem moves_handleDisconnected (c : Client) (rest : List (String × Job)) :
    Moves timeout c rest [] c.handleDisconnected rest :=
  (moves_abortDiscovery c rest).then
    (moves_of_step (fun _ _ hs => step_handleDisconnected hs) ⟨.refl _, rfl, .inl rfl⟩
      fun _ => Move.noConfusion)

/-! ### The background -/

theorem moves_runMonitor (c : Client) (rest : List (String × Job)) :
    Moves timeout c rest [] c.runMonitor rest := by
  unfold runMonitor
  split
  · exact moves_refl timeout c rest
  · rename_i m _
    exact moves_socket (m.statusOnly_act c.now false c.hub.link).toSocketOnly rfl ⟨.refl _, rfl, .inl rfl⟩

theorem moves_handleStatus (c : Client) (rest : List (String × Job)) (status : Status) :
    Moves timeout c rest [] (c.handleStatus status) rest := by
  cases status with
  | connected => exact moves_handleConnected c rest
  | notConnected => exact moves_handleDisconnected c rest
  | _ => exact moves_refl timeout c rest

theorem moves_runWatcher (c : Client) (rest : List (String × Job)) :
    Moves timeout c rest [] c.runWatcher rest := by
  unfold runWatcher
  split
  · have hlink : c.hub.link.SocketOnly { c.hub.link with events := [] } := ⟨rfl, rfl, rfl, rfl, rfl⟩
    refine Moves.then ?_ (moves_foldl (fun c => moves_handleStatus c rest) _ _)
    exact moves_socket hlink rfl ⟨.refl _, rfl, .inl rfl⟩
  · exact moves_refl timeout c rest

/-! ### Discovery -/

theorem moves_setServices (c : Client) (rest : List (String × Job)) (services : ServiceList) :
    Moves timeout c rest [] (c.setServices services) rest :=
  moves_aside (.refl c.hub.link) services c.hub.registry.formats c.hub.registry.protocols rfl
    ⟨.refl _, rfl, .inl rfl⟩

theorem moves_learn (c : Client) (rest : List (String × Job)) (info : SubscriptionInfo) :
    Moves timeout c rest [] (c.learn info) rest := by
  unfold learn
  dsimp only
  split
  · exact moves_setServices c rest _
  · exact moves_aside (Link.statusOnly_markReady c.hub.link).toSocketOnly _ _ _ rfl ⟨.refl _, rfl, .inl rfl⟩

theorem moves_followEvent (c : Client) (rest : List (String × Job)) (event : Event) :
    Moves timeout c rest [] (c.followEvent event) rest := by
  cases event with
  | changed property value =>
    unfold followEvent
    dsimp only
    split
    · exact moves_setServices c rest _
    · exact moves_refl timeout c rest
  | ended => exact moves_leave c rest

theorem moves_follow (rest : List (String × Job)) {stream : Nat}
    (hd : c.discovery = some (.following stream)) :
    Moves timeout c rest [] (c.follow stream) rest := by
  let events := Stream.eventsOf c.hub.streams stream
  let drained := { c with hub := c.hub.updateStream stream Stream.drain }
  have hfollowed : Moves timeout c rest [] (events.foldl followEvent drained) rest :=
    (moves_drain rest (.inl (by rw [hd]; rfl))).then
      (moves_foldl (fun c => moves_followEvent c rest) events drained)
  unfold follow
  dsimp only
  split
  · exact hfollowed.then (moves_leave _ rest)
  · exact hfollowed

theorem moves_failDiscovery (c : Client) (rest : List (String × Job)) (cause : SubscriptionError) :
    Moves timeout c rest [] (c.failDiscovery cause) rest := by
  unfold failDiscovery
  dsimp only
  split
  · exact moves_leave c rest
  · exact (moves_leave c rest).then (moves_setServices _ rest _)

/-! ### Attempts -/

theorem Tracks.generation_le {s : Scene} (hs : Tracks timeout c rest s) {w : Waiting}
    (hw : w ∈ c.waiting rest) : w.generation ≤ s.hub.registry.generation := by
  obtain ⟨a, ha, -⟩ := hs.waiting w hw
  exact hs.orderly.numbered.attempt _ _ ha

theorem Waiting.IsIn.of_attempts {s s' : Scene} {w : Waiting} (h : w.IsIn s)
    (hsame : s'.attempts w.generation = s.attempts w.generation) : w.IsIn s' := by
  obtain ⟨a, ha, hrest⟩ := h
  exact ⟨a, hsame.trans ha, hrest⟩

theorem Went.generation_le {s s' : Scene} {moves : List Move} (h : Went timeout c s moves s' c') :
    s.hub.registry.generation ≤ s'.hub.registry.generation := Scene.generation_le_of_trace h.trace

theorem Tracks.of_went {s s' : Scene} {moves : List Move} {c₁ : Client}
    (hs : Tracks timeout c rest s) (hwent : Went timeout c s moves s' c₁) (hhub : c'.hub = c₁.hub)
    (hw : ∀ w ∈ c'.waiting rest', w.IsIn s')
    (hd : ((c'.waiting rest').map (·.generation)).Nodup)
    (hf : ∀ stream, c'.discovery = some (.following stream) →
      stream ≤ s.hub.registry.generation ∧ s'.attempts stream = none) :
    Tracks timeout c' rest' s' where
  orderly := hwent.trace.keeps (fun _ _ _ ho hstep => hstep.orderly ho) hs.orderly
  hub := by rw [hhub, hwent.client]
  waiting := hw
  distinct := hd
  following stream hstream :=
    ⟨Nat.le_trans (hf stream hstream).1 hwent.generation_le, (hf stream hstream).2⟩

theorem mem_waiting {tag service : String} {generation : Nat} {ticket : Ticket}
    (h : (tag, .acknowledgement service generation ticket) ∈ c.jobs ++ rest) :
    ⟨service, generation, ticket⟩ ∈ c.waiting rest :=
  List.mem_append_left _ (List.mem_filterMap.2 ⟨_, h, rfl⟩)

/-- The discovery does not read the stream that a caller waits for. -/
theorem Tracks.not_mayFollow {s : Scene} (hs : Tracks timeout c rest s) {tag service : String}
    {generation : Nat} {ticket : Ticket}
    (hjob : (tag, .acknowledgement service generation ticket) ∈ c.jobs ++ rest) :
    ¬ c.MayFollow generation := by
  have hw := mem_waiting hjob
  obtain ⟨a, ha, -⟩ := hs.waiting _ hw
  rintro (hd | hlt)
  · cases hdiscovery : c.discovery with
    | none => simp [hdiscovery] at hd
    | some d =>
      rw [hdiscovery] at hd
      cases d with
      | subscribe => cases hd
      | acknowledgement g t =>
        cases hd
        have hdistinct := hs.distinct
        rw [Client.waiting, hdiscovery, List.map_append] at hdistinct
        have hjobs : generation ∈
            ((c.jobs ++ rest).filterMap (·.2.waiting?)).map (·.generation) :=
          List.mem_map.2 ⟨_, List.mem_filterMap.2 ⟨_, hjob, rfl⟩, rfl⟩
        exact (List.nodup_append.1 hdistinct).2.2 _ hjobs _ List.mem_cons_self rfl
      | following stream =>
        cases hd
        have hnone := (hs.following generation hdiscovery).2
        exact absurd (ha.symm.trans hnone) nofun
  · have hle : generation ≤ s.hub.registry.generation := hs.generation_le hw
    rw [hs.hub] at hle
    exact absurd hlt (Nat.not_lt.2 hle)

theorem Went.mayFollow {s s' : Scene} {moves : List Move} {c₁ : Client} (hs : s.hub = c.hub)
    (hwent : Went timeout c s moves s' c₁) (hhub : c'.hub = c₁.hub)
    (hd : ∀ stream, c'.discovery.bind Discovery.stream? = some stream → c.MayFollow stream)
    (stream : Nat) (h : c'.MayFollow stream) : c.MayFollow stream := by
  rcases h with h | h
  · exact hd stream h
  · have hle := hwent.generation_le
    have hsame : c'.hub.registry.generation = s'.hub.registry.generation := by
      rw [hhub, hwent.client]
    rw [hs] at hle
    exact .inr (Nat.lt_of_le_of_lt hle (hsame ▸ h))

theorem Retires.stream {c c' : Client} (h : c.Retires c') (stream : Nat)
    (hd : c'.discovery.bind Discovery.stream? = some stream) : c.MayFollow stream := by
  have hgiven : c.Retires { c with discovery := c'.discovery } := h
  exact hgiven.mayFollow (Nat.le_refl _) stream (.inl hd)

theorem moves_of_begun_error {service : String} {cause : SubscriptionError} {c₁ : Client}
    (hbegun : ∀ s : Scene, s.hub = c.hub → Begun timeout c s service (.error cause) c₁)
    (hhub : c'.hub = c₁.hub) (hw : (c'.waiting rest').Sublist (c.waiting rest))
    (hd : c.Retires c')
    (hr : ∀ tag r, (tag, r) ∈ c'.results → (tag, r) ∈ c.results ∨ r = .refused cause) :
    Moves timeout c rest [] c' rest' := by
  intro s hs
  obtain ⟨moves, s', hwent, hsame, hcause⟩ := hbegun s hs.hub
  have hfollowing : ∀ stream, c'.discovery = some (.following stream) →
      stream ≤ s.hub.registry.generation ∧ s'.attempts stream = none := by
    intro stream hstream
    obtain ⟨hle, hnone⟩ := hs.following stream (hd.following hstream)
    exact ⟨hle, (hsame stream hle).trans hnone⟩
  refine ⟨moves, s', hwent.trace, hs.of_went hwent hhub (fun w hmem => ?_)
    (hs.distinct.sublist (hw.map _)) hfollowing, hwent.silent, fun tag cause' hmem => ?_,
    fun tag info hmem => ?_, hwent.mayFollow hs.hub hhub hd.stream,
    fun stream hmem => absurd hmem (hwent.undrained stream)⟩
  · exact (hs.waiting w (hw.subset hmem)).of_attempts
      (hsame _ (hs.generation_le (hw.subset hmem)))
  · rcases hr tag _ hmem with hmem | heq
    · exact .inl hmem
    · cases heq
      exact .inr hcause
  · rcases hr tag _ hmem with hmem | heq
    · exact .inl hmem
    · cases heq

theorem moves_of_begun_ok {service : String} {generation : Nat} {ticket : Ticket} {c₁ : Client}
    {ws : List Waiting}
    (hbegun : ∀ s : Scene, s.hub = c.hub → Begun timeout c s service (.ok (generation, ticket)) c₁)
    (hhub : c'.hub = c₁.hub) (hsub : ws.Sublist (c.waiting rest))
    (hw : (c'.waiting rest').Perm (⟨service, generation, ticket⟩ :: ws))
    (hd : c'.discovery = c.discovery ∨ c'.discovery = some (.acknowledgement generation ticket))
    (hr : c'.results = c.results) : Moves timeout c rest [] c' rest' := by
  intro s hs
  obtain ⟨moves, s', hwent, hsame, hnew, hin⟩ := hbegun s hs.hub
  have hfollowing : ∀ stream, c'.discovery = some (.following stream) →
      stream ≤ s.hub.registry.generation ∧ s'.attempts stream = none := by
    intro stream hstream
    rcases hd with hd | hd
    · obtain ⟨hle, hnone⟩ := hs.following stream (hd ▸ hstream)
      exact ⟨hle, (hsame stream hle).trans hnone⟩
    · rw [hstream] at hd
      cases hd
  have hstream : ∀ stream, c'.discovery.bind Discovery.stream? = some stream →
      c.MayFollow stream := by
    intro stream hstream
    rcases hd with hd | hd
    · exact .inl (hd ▸ hstream)
    · rw [hd] at hstream
      cases hstream
      refine .inr ?_
      rw [hnew, hs.hub]
      exact Nat.lt_succ_self _
  refine ⟨moves, s', hwent.trace, hs.of_went hwent hhub (fun w hmem => ?_) ?_ hfollowing,
    hwent.silent, told_of_results hr (hwent.mayFollow hs.hub hhub hstream)
      fun stream hmem => absurd hmem (hwent.undrained stream)⟩
  · rcases List.mem_cons.1 (hw.subset hmem) with rfl | hmem
    · exact hin
    · exact (hs.waiting w (hsub.subset hmem)).of_attempts
        (hsame _ (hs.generation_le (hsub.subset hmem)))
  · refine (hw.map _).nodup_iff.2 (List.nodup_cons.2 ⟨fun hmem => ?_, hs.distinct.sublist (hsub.map _)⟩)
    obtain ⟨w, hmem, hg⟩ := List.mem_map.1 hmem
    have hle := hs.generation_le (hsub.subset hmem)
    rw [hg, hnew] at hle
    exact absurd hle (Nat.not_succ_le_self _)

theorem moves_of_continued_none {w : Waiting} {c₁ : Client}
    (hcontinued : ∀ s : Scene, s.hub = c.hub → w.IsIn s →
      Continued timeout c s w.generation none c₁)
    (hmem : w ∈ c.waiting rest) (hhub : c'.hub = c₁.hub)
    (hw : c'.waiting rest' = c.waiting rest) (hd : c'.discovery = c.discovery)
    (hr : c'.results = c.results) : Moves timeout c rest [] c' rest' := by
  intro s hs
  obtain ⟨moves, s', hwent, hsame⟩ := hcontinued s hs.hub (hs.waiting w hmem)
  refine ⟨moves, s', hwent.trace, hs.of_went hwent hhub (fun w hmem => ?_) (hw ▸ hs.distinct)
      (fun stream hstream => ?_), hwent.silent,
    told_of_results hr (hwent.mayFollow hs.hub hhub fun stream hstream => .inl (hd ▸ hstream))
      fun stream hmem => absurd hmem (hwent.undrained stream)⟩
  · rw [hw] at hmem
    exact (hs.waiting w hmem).of_attempts (congrFun hsame _)
  · rw [hsame]
    exact hs.following stream (hd ▸ hstream)

theorem moves_of_continued_some {w : Waiting} {c₁ : Client} {ws : List Waiting}
    {result : Except SubscriptionError SubscriptionInfo}
    (hcontinued : ∀ s : Scene, s.hub = c.hub → w.IsIn s →
      Continued timeout c s w.generation (some result) c₁)
    (hperm : (c.waiting rest).Perm (w :: ws)) (hhub : c'.hub = c₁.hub)
    (hw : (c'.waiting rest').Sublist ws)
    (hd : c.Retires c' ∨ c'.discovery = some (.following w.generation) ∧
      c.discovery = some (.acknowledgement w.generation w.ticket))
    (hr : ∀ tag r, (tag, r) ∈ c'.results → (tag, r) ∈ c.results ∨
      (∃ cause, result = .error cause ∧ r = .refused cause) ∨
        ∃ info, result = .ok info ∧ r = .subscribed info ∧
          (tag, .acknowledgement w.service w.generation w.ticket) ∈ c.jobs ++ rest) :
    Moves timeout c rest [] c' rest' := by
  intro s hs
  have hmem : w ∈ c.waiting rest := hperm.symm.subset List.mem_cons_self
  obtain ⟨moves, s', hwent, hsame, hover, hended⟩ := hcontinued s hs.hub (hs.waiting w hmem)
  obtain ⟨hfresh, hdistinct⟩ := List.nodup_cons.1 ((hperm.map (·.generation)).nodup_iff.1 hs.distinct)
  have hfollowing : ∀ stream, c'.discovery = some (.following stream) →
      stream ≤ s.hub.registry.generation ∧ s'.attempts stream = none := by
    intro stream hstream
    rcases hd with hd | ⟨hd, -⟩
    · obtain ⟨hle, hnone⟩ := hs.following stream (hd.following hstream)
      refine ⟨hle, (hsame stream fun hg => ?_).trans hnone⟩
      obtain ⟨a, ha, -⟩ := hs.waiting w hmem
      rw [hg, ha] at hnone
      cases hnone
    · rw [hd] at hstream
      cases hstream
      exact ⟨hs.generation_le hmem, hover⟩
  have hstream : ∀ stream, c'.discovery.bind Discovery.stream? = some stream →
      c.MayFollow stream := by
    intro stream hstream
    rcases hd with hd | ⟨hd, hbefore⟩
    · exact hd.stream stream hstream
    · rw [hd] at hstream
      cases hstream
      exact .inl (by rw [hbefore]; rfl)
  refine ⟨moves, s', hwent.trace, hs.of_went hwent hhub (fun w' hmem' => ?_)
    (hdistinct.sublist (hw.map _)) hfollowing, hwent.silent, fun tag cause hmem => ?_,
    fun tag info hmem => ?_, hwent.mayFollow hs.hub hhub hstream,
    fun stream hmem => absurd hmem (hwent.undrained stream)⟩
  · have hmem' := hw.subset hmem'
    refine (hs.waiting w' (hperm.symm.subset (List.mem_cons_of_mem _ hmem'))).of_attempts
      (hsame _ fun hg => hfresh ?_)
    exact List.mem_map.2 ⟨w', hmem', hg⟩
  · rcases hr tag _ hmem with hmem | ⟨cause', rfl, heq⟩ | ⟨info, -, heq, -⟩
    · exact .inl hmem
    · cases heq
      exact .inr (.inr ⟨_, hended⟩)
    · cases heq
  · rcases hr tag _ hmem with hmem | ⟨cause, -, heq⟩ | ⟨info', rfl, heq, hjob⟩
    · exact .inl hmem
    · cases heq
    · cases heq
      obtain ⟨before, after, hsplit⟩ := List.append_of_mem hended
      obtain ⟨b, b', -, hstep, -⟩ := (hsplit ▸ hwent.trace).at_middle
      have hstream' : info.stream = w.generation := hstep.stream_of_ended
      refine .inr ⟨⟨before, after, hstream' ▸ hsplit, fun hmem => ?_⟩, fun hm => ?_⟩
      · exact hwent.undrained _ (hsplit ▸ List.mem_append_right _ (List.mem_cons_of_mem _ hmem))
      · exact hs.not_mayFollow hjob (hstream' ▸ hwent.mayFollow hs.hub hhub hstream _ hm)

theorem learn_discovery (c : Client) (info : SubscriptionInfo) (d : Option Discovery) :
    { c.learn info with discovery := d } = { c with discovery := d }.learn info := by
  unfold learn
  dsimp only
  split <;> rfl

theorem beginSubscription_client (c : Client) (service : String) (requested : List String) :
    ∃ hub, (c.beginSubscription service requested).2 = { c with hub } := by
  unfold beginSubscription
  split
  · exact ⟨c.hub, rfl⟩
  · split
    · exact ⟨c.hub, rfl⟩
    · dsimp only [onLink]
      split
      · rename_i heq
        obtain ⟨-, rfl⟩ := Prod.mk.inj heq
        exact ⟨_, rfl⟩
      · rename_i heq
        obtain ⟨-, rfl⟩ := Prod.mk.inj heq
        exact ⟨_, rfl⟩

theorem continueSubscription_client (c : Client) (service : String) (generation : Nat)
    (ticket : Ticket) :
    ∃ hub, (c.continueSubscription service generation ticket).2 = { c with hub } := by
  unfold continueSubscription takeOutcome
  dsimp only [onLink]
  split
  · rename_i heq
    obtain ⟨-, rfl⟩ := Prod.mk.inj heq
    split <;> exact ⟨_, rfl⟩
  · rename_i heq
    obtain ⟨-, rfl⟩ := Prod.mk.inj heq
    exact ⟨_, rfl⟩
  · rename_i heq
    obtain ⟨-, rfl⟩ := Prod.mk.inj heq
    split
    · exact ⟨_, rfl⟩
    · unfold acknowledge
      split <;> exact ⟨_, rfl⟩

theorem stream_of_continueSubscription {service : String} {generation : Nat} {ticket : Ticket}
    {info : SubscriptionInfo}
    (h : (c.continueSubscription service generation ticket).1 = some (.ok info)) :
    info.stream = generation := by
  unfold continueSubscription at h
  split at h
  · split at h
    · cases h
    · cases h
  · cases h
  · dsimp only at h
    split at h
    · cases h
    · unfold acknowledge at h
      split at h
      · cases h
      · cases h
        rfl

theorem discovery_learn (c : Client) (info : SubscriptionInfo) :
    (c.learn info).discovery = c.discovery := by
  unfold learn
  dsimp only
  split <;> rfl

theorem moves_runDiscovery_subscribe (rest : List (String × Job)) (hd : c.discovery = some .subscribe) :
    Moves timeout c rest [] c.runDiscovery rest := by
  have hbegun := fun s hs => @beginSubscription_begun timeout c s hs ServiceList.discoveryName
    [listProperty]
  obtain ⟨hub, hclient⟩ := beginSubscription_client c ServiceList.discoveryName [listProperty]
  unfold runDiscovery
  rw [hd]
  dsimp only
  cases hbegin : c.beginSubscription ServiceList.discoveryName [listProperty] with
  | mk result c₁ =>
    rw [hbegin] at hbegun hclient
    cases hclient
    cases result with
    | error cause =>
      refine Moves.then ?_ (moves_failDiscovery _ rest cause)
      exact moves_of_begun_error hbegun rfl (.refl _) (.inl rfl) fun _ _ h => .inl h
    | ok started =>
      have hbefore : c.waiting rest = (c.jobs ++ rest).filterMap (·.2.waiting?) ++ [] := by
        rw [waiting, hd]
        rfl
      refine moves_of_begun_ok hbegun rfl (.refl _) ?_ (.inr rfl) rfl
      rw [hbefore, List.append_nil]
      exact List.perm_append_singleton _ _

theorem moves_runDiscovery_acknowledgement (rest : List (String × Job)) {generation : Nat}
    {ticket : Ticket} (hd : c.discovery = some (.acknowledgement generation ticket)) :
    Moves timeout c rest [] c.runDiscovery rest := by
  let w : Waiting := ⟨ServiceList.discoveryName, generation, ticket⟩
  have hcontinued := fun s hs hw => @continueSubscription_continued timeout c s hs w hw
  have hbefore : c.waiting rest = (c.jobs ++ rest).filterMap (·.2.waiting?) ++ [w] := by
    rw [waiting, hd]
    rfl
  have hperm : (c.waiting rest).Perm (w :: (c.jobs ++ rest).filterMap (·.2.waiting?)) :=
    hbefore ▸ List.perm_append_singleton _ _
  obtain ⟨hub, hclient⟩ :=
    continueSubscription_client c ServiceList.discoveryName generation ticket
  unfold runDiscovery
  rw [hd]
  dsimp only
  cases hcontinue : c.continueSubscription ServiceList.discoveryName generation ticket with
  | mk result c₁ =>
    rw [hcontinue] at hclient
    simp only [w, hcontinue] at hcontinued
    cases hclient
    cases result with
    | none =>
      exact moves_of_continued_none hcontinued (hperm.symm.subset List.mem_cons_self) rfl rfl rfl rfl
    | some result =>
      -- the discovery waits no longer, whatever it makes of the answer
      have hover : ∀ d : Option Discovery, d = none ∨ d = some (.following generation) →
          Moves timeout c rest [] { { c with hub } with discovery := d } rest := by
        intro d hkind
        have hnone : d.bind Discovery.waiting? = none := by rcases hkind with rfl | rfl <;> rfl
        refine moves_of_continued_some hcontinued hperm rfl ?_ ?_ fun _ _ h => .inl h
        · rw [waiting, hnone]
          exact (List.append_nil _).symm ▸ List.Sublist.refl _
        · rcases hkind with rfl | rfl
          · exact .inl (.inr rfl)
          · exact .inr ⟨rfl, hd⟩
      cases result with
      | error cause => exact (hover none (.inl rfl)).then (moves_failDiscovery _ rest cause)
      | ok info =>
        have hstream := stream_of_continueSubscription (congrArg Prod.fst hcontinue)
        dsimp only
        rw [learn_discovery, hstream]
        refine ((hover _ (.inr rfl)).then (moves_learn _ rest info)).then (moves_follow rest ?_)
        exact discovery_learn _ info

theorem moves_runDiscovery (c : Client) (rest : List (String × Job)) :
    Moves timeout c rest [] c.runDiscovery rest := by
  cases hd : c.discovery with
  | none =>
    unfold runDiscovery
    rw [hd]
    exact moves_refl timeout c rest
  | some discovery =>
    cases discovery with
    | subscribe => exact moves_runDiscovery_subscribe rest hd
    | acknowledgement generation ticket => exact moves_runDiscovery_acknowledgement rest hd
    | following stream =>
      unfold runDiscovery
      rw [hd]
      exact moves_follow rest hd

end ServiceLink.Client
