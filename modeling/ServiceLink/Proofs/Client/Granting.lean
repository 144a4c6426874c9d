import ServiceLink.Proofs.Client.Reserving

/-! Subscriptions from their acknowledgement on. The methods of a service are known from the turn on in which the
attempt takes the acknowledgement, and then for as long as the subscription stands. -/

namespace ServiceLink

theorem SubscriptionInfo.schema_of_version (service : String) (stream : Nat) {version : String} {schema : Schema}
    (h : schema.version = some version) :
    ({ service, version, methods := schema.methods, properties := schema.properties, stream } :
      SubscriptionInfo).schema = schema := by
  rw [SubscriptionInfo.schema, ← h]

theorem Response.eq_ready_of_take {r : Response} {ack : Json} (h : r.take.1 = some (.ok ack)) :
    r = .ready (.ok ack) := by
  cases r <;> cases h
  rfl

/-- The subscription with a number was granted with a method. -/
def IsGranted (granted : List SubscriptionInfo) (generation : Nat) (method : String) : Prop :=
  ∃ info ∈ granted, info.stream = generation ∧ info.schema.hasMethod method

theorem isGranted_append {granted more : List SubscriptionInfo} {generation : Nat} {method : String} :
    IsGranted (granted ++ more) generation method ↔
      IsGranted granted generation method ∨ IsGranted more generation method := by
  unfold IsGranted
  simp only [List.mem_append, or_and_right, exists_or]

/-- What becomes of a subscription that stands: it keeps its generation and its path, and has the methods with which
it is granted. -/
structure Entry.Endures (e : Entry) (granted : List SubscriptionInfo) (f : Entry) : Prop where
  generation : f.generation = e.generation
  path : f.path = e.path
  method : ∀ m, f.hasMethod m ↔ e.hasMethod m ∨ IsGranted granted e.generation m

theorem Entry.Endures.refl (e : Entry) : e.Endures [] e :=
  ⟨rfl, rfl, fun _ => (or_iff_left fun ⟨_, h, _⟩ => nomatch h).symm⟩

theorem Entry.Endures.trans {granted more : List SubscriptionInfo} {e f f' : Entry} (h : e.Endures granted f)
    (h' : f.Endures more f') : e.Endures (granted ++ more) f' := by
  refine ⟨h'.generation.trans h.generation, h'.path.trans h.path, fun m => ?_⟩
  rw [h'.method, h.method, h.generation, isGranted_append, or_assoc]

theorem Entry.Endures.hear (e : Entry) (pushes : List Push) : e.Endures [] (e.hear pushes) := by
  refine ⟨rfl, rfl, fun m => ?_⟩
  have hmethod : (e.hear pushes).hasMethod m = e.hasMethod m := by
    unfold Entry.hear Entry.hasMethod
    cases e.live <;> rfl
  rw [hmethod]
  exact (Endures.refl e).method m

namespace Client

variable {timeout : Nat} {c c' : Client} {d : Deed}

/-- The subscription that an attempt is granted in a deed. -/
def granted? (c : Client) : Deed → Option SubscriptionInfo
  | .discovered result => result.bind Except.toOption
  | .worked _ (.acknowledgement service generation ticket) =>
    (c.continueSubscription service generation ticket).1.bind Except.toOption
  | _ => none

/-! ### What stands -/

/-- The subscriptions after a deed stood before, or are new and get the paths of their services. -/
def EntriesArise (c : Client) (granted : List SubscriptionInfo) (c' : Client) : Prop :=
  ∀ service f, c'.registry.entry? service = some f →
    (∃ e, c.registry.entry? service = some e ∧ e.Endures granted f) ∨
      c.registry.generation < f.generation ∧
        ∃ d, c.registry.services.find? service = some d ∧ f.path = d.path

theorem entriesArise_of_subset (h : ∀ service f, c'.registry.entry? service = some f →
    c.registry.entry? service = some f) : EntriesArise c [] c' :=
  fun service f hf => .inl ⟨f, h service f hf, .refl f⟩

theorem SameEntries.entriesArise {granted : List SubscriptionInfo} {c₁ : Client} (h : EntriesArise c granted c₁)
    (hsame : c₁.SameEntries c') : EntriesArise c granted c' := by
  intro service f hf
  refine h service f ?_
  rw [Registry.entry?, hsame.entries] at hf
  exact hf

theorem Opening.entriesArise {service : String} {requested : List String}
    {result : Except SubscriptionError (Nat × Ticket)} (h : Opening c service requested result c') :
    EntriesArise c [] c' := by
  have hinserted {d : ServiceDescriptor} (hd : c.registry.services.find? service = some d) {k : String} {f : Entry}
      (hf : Registry.entry? (c.registry.insert service d.path requested) k = some f) :
      (∃ e, c.registry.entry? k = some e ∧ e.Endures [] f) ∨
        c.registry.generation < f.generation ∧
          ∃ d, c.registry.services.find? k = some d ∧ f.path = d.path := by
    rw [Registry.entry?_insert] at hf
    split at hf
    · rename_i hk
      cases hf
      exact .inr ⟨Nat.lt_succ_self _, d, hk ▸ hd, rfl⟩
    · exact .inl ⟨f, hf, .refl f⟩
  cases h with
  | unknown => exact entriesArise_of_subset fun _ _ hf => hf
  | already => exact entriesArise_of_subset fun _ _ hf => hf
  | asked hknown => exact fun _ _ hf => hinserted hknown hf
  | unsent hknown => exact fun _ _ hf => hinserted hknown (Scene.entry?_of_discard hf)

theorem Continuing.entriesArise {service : String} {generation : Nat} {ticket : Ticket}
    {result : Option (Except SubscriptionError SubscriptionInfo)}
    (h : Continuing c service generation ticket result c')
    (hown : ∀ k e, c.registry.entry? k = some e → e.generation = generation → k = service ∧ e.live = none) :
    EntriesArise c (result.bind Except.toOption).toList c' := by
  cases h with
  | waits => exact entriesArise_of_subset fun _ _ hf => hf
  | closed => exact entriesArise_of_subset fun _ _ hf => hf
  | rejected => exact entriesArise_of_subset fun _ _ hf => Scene.entry?_of_discard hf
  | unversioned => exact entriesArise_of_subset fun _ _ hf => Scene.entry?_of_discard hf
  | late => exact entriesArise_of_subset fun _ _ hf => hf
  | @established ack version e _ hversion hcurrent =>
    obtain ⟨he, hg⟩ := Registry.entry?_of_current? hcurrent
    intro k f hf
    have hestablished := (Registry.entry?_establish c.registry (c.takeOutcome ticket).2.hub.link service k e
      (Schema.read ack)).symm.trans hf
    split at hestablished
    · rename_i hk
      subst hk
      cases hestablished
      refine .inl ⟨e, he, rfl, rfl, fun m => ?_⟩
      constructor
      · exact fun hmethod => .inr ⟨_, List.mem_singleton_self _, hg.symm, hmethod⟩
      · rintro (hmethod | ⟨info, hinfo, -, hmethod⟩)
        · -- before its acknowledgement no method of a service is known
          rw [Entry.hasMethod, (hown service e he hg).2] at hmethod
          cases hmethod
        · cases List.mem_singleton.1 hinfo
          exact hmethod
    · rename_i hk
      refine .inl ⟨f, hestablished, rfl, rfl, fun m => ⟨.inl, fun h => h.elim id ?_⟩⟩
      rintro ⟨info, hinfo, hstream, -⟩
      cases List.mem_singleton.1 hinfo
      exact absurd (hown k f hestablished hstream.symm).1.symm hk

theorem Turn.entriesArise {result : Option (Except SubscriptionError SubscriptionInfo)} (h : Turn c result c')
    (hown : ∀ w ∈ c.inquiring, ∀ k e, c.registry.entry? k = some e → e.generation = w.generation →
      k = w.service ∧ e.live = none) :
    EntriesArise c (result.bind Except.toOption).toList c' := by
  have hwaits : ∀ {generation ticket}, c.discovery = some (.acknowledgement generation ticket) →
      (⟨ServiceList.discoveryName, generation, ticket⟩ : Waiting) ∈ c.inquiring := by
    intro generation ticket hd
    rw [inquiring_of_discovery hd]
    exact List.mem_singleton_self _
  cases h with
  | idle => exact entriesArise_of_subset fun _ _ hf => hf
  | asked _ hopening => exact hopening.entriesArise
  | @refused cause c₁ _ hopening =>
    exact SameEntries.entriesArise hopening.entriesArise (c₁.failDiscovery_aside cause).1
  | waits hd hcontinuing => exact hcontinuing.entriesArise (hown _ (hwaits hd))
  | @failed _ _ cause c₁ hd hcontinuing =>
    exact SameEntries.entriesArise (hcontinuing.entriesArise (hown _ (hwaits hd))) (c₁.failDiscovery_aside cause).1
  | @learnt _ _ info c₁ hd hcontinuing =>
    exact SameEntries.entriesArise (hcontinuing.entriesArise (hown _ (hwaits hd))) (c₁.learn_follow_aside info).1
  | @followed stream =>
    exact SameEntries.entriesArise (entriesArise_of_subset fun _ _ hf => hf) (c.follow_aside stream).1

theorem Works.entriesArise {tag : String} {job : Job} (h : Works c tag job c')
    (hown : ∀ w ∈ job.waiting?, ∀ k e, c.registry.entry? k = some e → e.generation = w.generation →
      k = w.service ∧ e.live = none) :
    EntriesArise c (c.granted? (.worked tag job)).toList c' := by
  have hdescribed : ∀ {service result c₁}, c.beginDescription service = (result, c₁) → EntriesArise c [] c₁ := by
    intro service result c₁ hbegin
    refine entriesArise_of_subset fun k f hf => ?_
    rwa [(beginDescription_client hbegin).2] at hf
  have hgranted : ∀ {service generation ticket result c₁},
      Continuing c service generation ticket result c₁ →
      c.granted? (.worked tag (.acknowledgement service generation ticket)) = result.bind Except.toOption :=
    fun hcontinuing => congrArg (·.1.bind Except.toOption) hcontinuing.eq
  cases h with
  | asked hopening =>
    have hendure := hopening.entriesArise
    exact hendure
  | refused hopening =>
    have hendure := hopening.entriesArise
    exact hendure
  | waits hcontinuing =>
    have hendure := hcontinuing.entriesArise (hown _ rfl)
    rw [hgranted hcontinuing]
    exact hendure
  | @ended service generation ticket result c₁ hcontinuing =>
    have hendure := hcontinuing.entriesArise (hown _ rfl)
    obtain ⟨results, held, streams, hended⟩ := endSubscription_client c₁ tag result
    rw [hgranted hcontinuing, hended]
    exact hendure
  | describes hbegin =>
    have hendure := hdescribed hbegin
    exact hendure
  | unsent hbegin =>
    have hendure := hdescribed hbegin
    exact hendure
  | looked => exact entriesArise_of_subset fun _ _ hf => hf
  | described => exact entriesArise_of_subset fun _ _ hf => hf
  | rejected => exact entriesArise_of_subset fun _ _ hf => hf

theorem entriesArise_handleConnected (c : Client) : EntriesArise c [] c.handleConnected := by
  refine entriesArise_of_subset fun k f hf => ?_
  have hregistry : c.handleConnected.registry = c.registry := registry_abortDiscovery c
  rwa [hregistry] at hf

theorem entriesArise_handleDisconnected (c c₀ : Client) : EntriesArise c [] c₀.handleDisconnected := by
  intro k f hf
  rw [registry_handleDisconnected] at hf
  cases hf

theorem entriesArise_act {a : Action} (ha : ∀ ms, a ≠ .advance ms) : EntriesArise c [] (c.act a).2 := by
  have hacts := act_onConnection c ha
  generalize (c.act a).2 = c' at hacts ⊢
  cases hacts with
  | ordinary _ hkept =>
    refine entriesArise_of_subset fun k f hf => ?_
    rcases hkept.entry k with hsame | ⟨-, hnone⟩
    · exact hsame.symm.trans hf
    · cases hnone.symm.trans hf
  | forced => exact entriesArise_of_subset fun _ _ hf => hf
  | heard text =>
    intro k f hf
    have hheard := (Registry.entry?_hear c.registry (c.link.handleFrame text).pushes k).symm.trans hf
    obtain ⟨e, he, rfl⟩ := Option.map_eq_some_iff.1 hheard
    exact .inl ⟨e, he, .hear e _⟩
  | connected => exact entriesArise_handleConnected c
  | disconnected => exact entriesArise_handleDisconnected c c
  | shutdown => exact entriesArise_handleDisconnected c c.unhosted
  | letGo tag =>
    unfold dropHeld
    split <;> exact entriesArise_of_subset fun _ _ hf => hf

theorem IsTracked.own (h : IsTracked timeout c []) {w : Waiting} (hw : w ∈ c.waiting []) {k : String} {e : Entry}
    (he : c.registry.entry? k = some e) (hg : e.generation = w.generation) : k = w.service ∧ e.live = none := by
  obtain ⟨s, hs, hk⟩ := h.tracked
  obtain ⟨a, ha, hservice, -⟩ := hs.waiting w hw
  obtain ⟨hk, -, hnone⟩ := hk.numbered.own _ a k e ha ((hs.subscription_eq k).trans he) hg
  exact ⟨hk.trans hservice, hnone⟩

theorem Does.entriesArise (h : Does c d c') (hc : IsTracked timeout c []) :
    EntriesArise c (c.granted? d).toList c' := by
  cases h with
  | acted ha => exact entriesArise_act ha
  | told s =>
    cases s with
    | connected => exact entriesArise_handleConnected c
    | notConnected => exact entriesArise_handleDisconnected c c
    | _ => exact entriesArise_of_subset fun _ _ hf => hf
  | polled =>
    obtain ⟨link, monitor, hclient⟩ := runMonitor_client c
    rw [hclient]
    exact entriesArise_of_subset fun _ _ hf => hf
  | discovered =>
    exact (runDiscovery_turn c).entriesArise fun w hw k e => hc.own (List.mem_append_right _ hw)
  | @worked before after tag job hjobs =>
    have hworks := runJob_works (c.withJobs (before ++ after)) tag job
    have hgranted : c.granted? (.worked tag job) = (c.withJobs (before ++ after)).granted? (.worked tag job) := by
      cases job with
      | acknowledgement service generation ticket =>
        dsimp only [granted?]
        rw [continueSubscription_withJobs]
      | _ => rfl
    rw [hgranted]
    refine hworks.entriesArise fun w hw k e => hc.own ?_
    exact (mem_waiting_middle hjobs).2 (.inr hw)
  | advanced => exact entriesArise_of_subset fun _ _ hf => hf
  | emptied => exact entriesArise_of_subset fun _ _ hf => hf
  | swept => exact entriesArise_of_subset fun _ _ hf => hf
  | timed => exact entriesArise_of_subset fun _ _ hf => hf

/-- What stands after a deed and is not new stood before. -/
def EntriesEndure (c : Client) (granted : List SubscriptionInfo) (c' : Client) : Prop :=
  ∀ service f, c'.registry.entry? service = some f → f.generation ≤ c.registry.generation →
    ∃ e, c.registry.entry? service = some e ∧ e.Endures granted f

theorem Does.entriesEndure (h : Does c d c') (hc : IsTracked timeout c []) :
    EntriesEndure c (c.granted? d).toList c' :=
  fun service f hf hle => (h.entriesArise hc service f hf).resolve_right fun hnew => Nat.not_lt.2 hle hnew.1

theorem IsTracked.unique (h : IsTracked timeout c []) {k k' : String} {e e' : Entry}
    (he : c.registry.entry? k = some e) (he' : c.registry.entry? k' = some e')
    (hg : e.generation = e'.generation) : k = k' := by
  obtain ⟨s, hs, hk⟩ := h.tracked
  exact hk.numbered.unique k k' e e' ((hs.subscription_eq k).trans he) ((hs.subscription_eq k').trans he') hg

theorem IsTracked.entry_le (h : IsTracked timeout c []) {k : String} {e : Entry} (he : c.registry.entry? k = some e) :
    e.generation ≤ c.registry.generation := by
  obtain ⟨s, hs, hk⟩ := h.tracked
  have hle := hk.numbered.entry k e ((hs.subscription_eq k).trans he)
  rwa [hs.hub] at hle

/-! ### What is granted -/

theorem Continuing.granted {service : String} {generation : Nat} {ticket : Ticket} {info : SubscriptionInfo}
    {result : Option (Except SubscriptionError SubscriptionInfo)}
    (h : Continuing c service generation ticket result c') (hinfo : info ∈ result.bind Except.toOption) :
    info.stream = generation ∧
      ∃ ack, c.link.calls.response ticket = .ready (.ok ack) ∧ info.schema = Schema.read ack := by
  cases h with
  | @established ack version e htake hversion =>
    cases hinfo
    exact ⟨rfl, ack, Response.eq_ready_of_take htake, SubscriptionInfo.schema_of_version _ _ hversion⟩
  | _ => cases hinfo

/-- An attempt waited for the subscription, and its request was acknowledged with this schema. -/
def Deserved (c : Client) (info : SubscriptionInfo) : Prop :=
  ∃ w ∈ c.waiting [], w.generation = info.stream ∧
    ∃ ack, c.link.calls.response w.ticket = .ready (.ok ack) ∧ info.schema = Schema.read ack

theorem Does.deserved (h : Does c d c') {info : SubscriptionInfo} (hinfo : info ∈ c.granted? d) :
    c.Deserved info := by
  cases h with
  | discovered =>
    have hturn := runDiscovery_turn c
    dsimp only [granted?] at hinfo
    generalize c.conclusion? = result, c.runDiscovery = c' at hturn hinfo
    cases hturn with
    | learnt hd hcontinuing =>
      obtain ⟨hstream, hanswer⟩ := hcontinuing.granted hinfo
      exact ⟨_, mem_waiting_of_discovery hd rfl, hstream.symm, hanswer⟩
    | _ => cases hinfo
  | @worked before after tag job hjobs =>
    cases job with
    | acknowledgement service generation ticket =>
      obtain ⟨hstream, hanswer⟩ := (continueSubscription_continuing c service generation ticket).granted hinfo
      exact ⟨⟨service, generation, ticket⟩, (mem_waiting_middle hjobs).2 (.inr rfl), hstream.symm, hanswer⟩
    | _ => cases hinfo
  | _ => cases hinfo

/-- An attempt whose request is acknowledged while its entry stands is granted its subscription in its turn. -/
theorem granted_of_acknowledged {w : Waiting} (hw : w ∈ c.waiting []) {ack : Json} {version : String}
    (hready : c.link.calls.response w.ticket = .ready (.ok ack))
    (hversion : (Schema.read ack).version = some version) {e : Entry}
    (he : c.registry.entry? w.service = some e) (hg : e.generation = w.generation) :
    ∃ d c', Does c d c' ∧ ∃ info ∈ c.granted? d, info.stream = w.generation ∧ info.schema = Schema.read ack := by
  obtain ⟨service, generation, ticket⟩ := w
  have htake : (c.link.calls.response ticket).take.1 = some (.ok ack) := by rw [hready]; rfl
  have hcurrent : c.registry.current? service generation = some e := by
    rw [Registry.current?, he]
    exact Option.filter_eq_some_iff.2 ⟨rfl, decide_eq_true hg⟩
  have hcontinues := congrArg (·.1.bind Except.toOption) (Continuing.established htake hversion hcurrent).eq
  have hschema := SubscriptionInfo.schema_of_version service generation hversion
  rcases (mem_waiting_iff rfl).1 hw with hjob | hdiscovery
  · obtain ⟨⟨tag, job⟩, hmem, hwaiting⟩ := List.mem_filterMap.1 hjob
    cases job with
    | acknowledgement =>
      cases hwaiting
      obtain ⟨before, after, hjobs⟩ := List.append_of_mem hmem
      exact ⟨_, _, .worked hjobs, _, hcontinues, rfl, hschema⟩
    | _ => cases hwaiting
  · obtain ⟨discovery, hd, hwaiting⟩ := Option.bind_eq_some_iff.1 (Option.mem_toList.1 hdiscovery)
    cases discovery with
    | acknowledgement =>
      cases hwaiting
      refine ⟨_, _, .discovered, _, ?_, rfl, hschema⟩
      dsimp only [granted?, conclusion?]
      rw [hd]
      exact hcontinues
    | _ => cases hwaiting

end Client
end ServiceLink
