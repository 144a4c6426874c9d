import ServiceLink.Proofs.Client.Working
import ServiceLink.Proofs.Link.Correlation

/-! The request of a discovery, and what goes on beside it. Whatever callers do while a connection stands,
the status and the services stay as they are, the subscription of the discovery stays entered, and its
request stays in flight until a message answers it or it expires. -/

namespace ServiceLink

namespace Calls

variable {timeout : Nat} {c d : Calls} {call : InFlight} {r : Response} {e : Event} {es : List Event}

/-- The response to a call: while it is waiting the call is in flight, and otherwise it is not. -/
structure Finds (call : InFlight) (r : Response) (c : Calls) : Prop where
  sound : c.Sound
  response : c.response call.ticket = r
  inFlight : r = .waiting → call ∈ c.inFlight
  ended : r ≠ .waiting → Ended call.ticket c

theorem Finds.known (h : Finds call r c) : call.ticket < c.responses.length := by
  by_cases hr : r = .waiting
  · exact h.sound.known call (h.inFlight hr)
  · exact (h.ended hr).known

/-- An event that does not change the response to a call. -/
structure Event.Spares (timeout : Nat) (call : InFlight) (r : Response) (e : Event) : Prop where
  looked : e = .looked call.ticket → r = .waiting
  forgotten : e ≠ .forgotten call.ticket
  verdict : r = .waiting → e.verdict? timeout call = none

theorem Event.Spares.through (h : e.Spares timeout call r) : through timeout call r e = r := by
  have hverdict : ((e.verdict? timeout call).elim r fun outcome => r.resolve outcome) = r := by
    cases r with
    | waiting => rw [h.verdict rfl]; rfl
    | ready outcome => cases e.verdict? timeout call <;> rfl
    | closed => cases e.verdict? timeout call <;> rfl
  cases e with
  | looked ticket =>
    by_cases hticket : ticket = call.ticket
    · subst hticket
      rw [h.looked rfl]
      exact if_pos rfl
    · exact if_neg hticket
  | forgotten ticket =>
    exact if_neg fun hticket => h.forgotten (congrArg Event.forgotten hticket)
  | _ => exact hverdict

theorem Finds.step (h : Finds call r c) (hstep : Step timeout c e d) (he : e.Spares timeout call r) :
    Finds call r d := by
  have hsound := hstep.sound h.sound
  by_cases hr : r = .waiting
  · have hfollowed := hstep.followed h.sound (h.inFlight hr)
    refine ⟨hsound, ?_, fun _ => hfollowed.stays (he.verdict hr), absurd hr⟩
    rw [hfollowed.response, h.response, he.through]
  · obtain ⟨hended, hresponse⟩ := hstep.ended (h.ended hr)
    refine ⟨hsound, ?_, (absurd · hr), fun _ => hended⟩
    rw [hresponse, h.response, he.through]

theorem Finds.decide {outcome : Outcome} (h : Finds call .waiting c) (hstep : Step timeout c e d)
    (he : e.verdict? timeout call = some outcome) : Finds call (.ready outcome) d := by
  have hfollowed := hstep.followed h.sound (h.inFlight rfl)
  have hended := hfollowed.ends (by rw [he]; exact Option.some_ne_none _)
  refine ⟨hstep.sound h.sound, ?_, nofun, fun _ => hended.1⟩
  rw [hfollowed.response, h.response]
  have hresolved : ((e.verdict? timeout call).elim .waiting fun o => Response.waiting.resolve o) =
      .ready outcome := by
    rw [he]
    rfl
  cases e with
  | looked ticket => cases he
  | forgotten ticket => cases he
  | _ => exact hresolved

theorem Finds.history (h : Finds call r c) (hes : History timeout c es d)
    (hspares : ∀ e ∈ es, e.Spares timeout call r) : Finds call r d := by
  induction hes with
  | start => exact h
  | step _ hstep ih =>
    rw [List.forall_mem_append, List.forall_mem_singleton] at hspares
    exact (ih hspares.1).step hstep hspares.2

theorem verdict?_of_not_answers {m : Rpc.Message} (h : ¬ Link.answers call.id m) :
    Event.verdict? timeout call (.message m) = none := by
  unfold Link.answers at h
  cases hm : m.answer? with
  | none => simp [Event.verdict?, hm]
  | some answer => simp_all [Event.verdict?]

theorem spares_message {m : Rpc.Message} (h : r = .waiting → ¬ Link.answers call.id m) :
    Event.Spares timeout call r (.message m) :=
  ⟨nofun, nofun, fun hr => verdict?_of_not_answers (h hr)⟩

theorem spares_send {now : Nat} (result : Except LinkError (List (Option Receipt))) :
    (Link.sendEvent now result).Spares timeout call r := by
  cases result <;> exact ⟨nofun, nofun, fun _ => rfl⟩

end Calls

namespace Link

variable {κ : Type}

theorem receive_link (l : Link κ) (m : Rpc.Message) :
    ∃ calls deliveries, l.receive m = { l with calls, deliveries } := by
  unfold receive
  split <;> exact ⟨_, _, rfl⟩

theorem handleFrame_link (l : Link κ) (text : String) :
    ∃ calls deliveries outbound, l.handleFrame text = { l with calls, deliveries, outbound } := by
  have hmessages : ∀ (messages : List Rpc.Message) (l : Link κ),
      ∃ calls deliveries, messages.foldl receive l = { l with calls, deliveries } := by
    intro messages
    induction messages with
    | nil => exact fun l => ⟨_, _, rfl⟩
    | cons m messages ih =>
      intro l
      obtain ⟨calls, deliveries, hm⟩ := receive_link l m
      obtain ⟨calls', deliveries', hrest⟩ := ih (l.receive m)
      exact ⟨calls', deliveries', by rw [List.foldl_cons, hrest, hm]⟩
  obtain ⟨calls, deliveries, hreceived⟩ := hmessages (Rpc.Frame.read text).messages l
  unfold handleFrame
  dsimp only
  rw [hreceived]
  split
  · exact ⟨_, _, _, rfl⟩
  · unfold send?
    split <;> exact ⟨_, _, _, rfl⟩

end Link

namespace Client

variable {timeout : Nat} {c c' : Client} {rest rest' : List (String × Job)} {messages : List Rpc.Message}

/-- The request of a discovery, under the generation of its subscription. -/
structure Inquiry where
  generation : Nat
  call : InFlight

def Inquiry.discovery (i : Inquiry) : Discovery := .acknowledgement i.generation i.call.ticket

def Enters (r : Registry) (generation : Nat) : Prop :=
  ∃ e, r.entry? ServiceList.discoveryName = some e ∧ e.generation = generation

theorem Enters.current? {registry : Registry} {generation : Nat} (h : Enters registry generation) :
    ∃ e, registry.current? ServiceList.discoveryName generation = some e := by
  obtain ⟨e, he, hg⟩ := h
  exact ⟨e, Option.filter_eq_some_iff.2 ⟨he, decide_eq_true hg⟩⟩

/-! ### Beside an inquiry -/

/-- What happens beside an inquiry, if there is one. -/
structure HubBeside (q : Option Inquiry) (r : Response) (h h' : Hub) : Prop where
  status : h'.link.status = h.link.status
  events : h'.link.events ⊆ h.link.events
  services : h'.registry.services = h.registry.services
  enters : ∀ i ∈ q, Enters h.registry i.generation → Enters h'.registry i.generation
  finds : ∀ i ∈ q, h.link.calls.Finds i.call r → h'.link.calls.Finds i.call r

section

variable {q : Option Inquiry} {r : Response} {h h' h'' : Hub}

theorem HubBeside.refl (h : Hub) : HubBeside q r h h :=
  ⟨rfl, List.Subset.refl _, rfl, fun _ _ => id, fun _ _ => id⟩

theorem HubBeside.trans (hb : HubBeside q r h h') (hb' : HubBeside q r h' h'') : HubBeside q r h h'' where
  status := hb'.status.trans hb.status
  events := List.Subset.trans hb'.events hb.events
  services := hb'.services.trans hb.services
  enters i hi he := hb'.enters i hi (hb.enters i hi he)
  finds i hi hf := hb'.finds i hi (hb.finds i hi hf)

theorem HubBeside.congr (hb : HubBeside q r h h') (hlink : h''.link = h'.link)
    (hregistry : h''.registry = h'.registry) : HubBeside q r h h'' := by
  obtain ⟨link, registry, streams⟩ := h''
  cases hlink
  cases hregistry
  exact ⟨hb.status, hb.events, hb.services, hb.enters, hb.finds⟩

theorem hubBeside_of_step (timeout : Nat) {link : Link Handler} {e : Calls.Event}
    (hstatus : link.status = h.link.status) (hevents : link.events = h.link.events)
    (hstep : Calls.Step timeout h.link.calls e link.calls)
    (hspares : ∀ i ∈ q, e.Spares timeout i.call r) : HubBeside q r h { h with link } :=
  ⟨hstatus, hevents ▸ List.Subset.refl _, rfl, fun _ _ => id, fun i hi hf => hf.step hstep (hspares i hi)⟩

theorem hubBeside_settles {link : Link Handler} {now : Nat} {entries : List BatchEntry}
    {frames : List (Option Receipt) → List OutboundFrame}
    {result : Except LinkError (List (Option Receipt))}
    (hs : h.link.Settles now entries frames result link) : HubBeside q r h { h with link } := by
  have hlink : link.status = h.link.status ∧ link.events = h.link.events := by
    cases result with
    | ok receipts => exact ⟨hs.others ▸ rfl, hs.others ▸ rfl⟩
    | error cause => exact ⟨hs.1.others ▸ rfl, hs.1.others ▸ rfl⟩
  exact hubBeside_of_step 0 hlink.1 hlink.2 (hs.step 0) fun _ _ => Calls.spares_send result

theorem hubBeside_forget {ticket : Ticket} (ht : ∀ i ∈ q, ticket ≠ i.call.ticket) :
    HubBeside q r h { h with link := { h.link with calls := h.link.calls.forget ticket } } :=
  hubBeside_of_step 0 rfl rfl (.forgotten ticket)
    fun i hi => ⟨nofun, fun he => ht i hi (Calls.Event.forgotten.inj he), fun _ => rfl⟩

theorem hubBeside_take {ticket : Ticket} (ht : ∀ i ∈ q, ticket = i.call.ticket → r = .waiting) :
    HubBeside q r h { h with link := { h.link with calls := (h.link.calls.take ticket).2 } } :=
  hubBeside_of_step 0 rfl rfl (.looked ticket)
    fun i hi => ⟨fun he => ht i hi (Calls.Event.looked.inj he), nofun, fun _ => rfl⟩

theorem hubBeside_rewired {link : Link Handler} (hl : h.link.Rewired link) :
    HubBeside q r h { h with link } where
  status := hl.others ▸ rfl
  events := hl.others ▸ List.Subset.refl _
  services := rfl
  enters _ _ := id
  finds _ _ hf := hl.calls ▸ hf

theorem hubBeside_insert {service path : String} {requested : List String}
    (hnone : h.registry.entry? service = none) : HubBeside q r h (h.insert service path requested) where
  status := rfl
  events := List.Subset.refl _
  services := rfl
  enters := by
    rintro i - ⟨e, he, hg⟩
    have hne : service ≠ ServiceList.discoveryName := by
      rintro rfl
      rw [hnone] at he
      cases he
    exact ⟨e, by rwa [Hub.insert, Registry.entry?_insert, if_neg hne], hg⟩
  finds _ _ := id

theorem hubBeside_discard {service : String} {generation : Nat}
    (hg : ∀ i ∈ q, generation ≠ i.generation) :
    HubBeside q r h { h with registry := h.registry.discard service generation } where
  status := rfl
  events := List.Subset.refl _
  services := by
    unfold Registry.discard
    dsimp only
    split <;> rfl
  enters := by
    rintro i hi ⟨e, he, hge⟩
    refine ⟨e, ?_, hge⟩
    unfold Registry.discard
    dsimp only
    split
    · rename_i hcurrent
      obtain ⟨f, hf⟩ := Option.isSome_iff_exists.1 hcurrent
      obtain ⟨hentry, hgf⟩ := Registry.entry?_of_current? hf
      have hne : service ≠ ServiceList.discoveryName := by
        rintro rfl
        cases hentry.symm.trans he
        exact hg i hi (hgf.symm.trans hge)
      rwa [Registry.entry?_erase, if_neg hne]
    · exact he
  finds _ _ := id

theorem hubBeside_establish {service : String} {generation : Nat} {e : Entry} {schema : Schema}
    (hcurrent : h.registry.current? service generation = some e) :
    HubBeside q r h (h.establish service e schema) := by
  obtain ⟨hentry, -⟩ := Registry.entry?_of_current? hcurrent
  have hlink := h.rewired_establish service e schema
  refine ⟨hlink.others ▸ rfl, hlink.others ▸ List.Subset.refl _, rfl, ?_, fun _ _ hf => hlink.calls ▸ hf⟩
  rintro i - ⟨f, hf, hg⟩
  have hest := Registry.entry?_establish h.registry h.link service ServiceList.discoveryName e schema
  split at hest
  · -- its own subscription is live then, under the same generation
    rename_i hservice
    subst hservice
    cases hentry.symm.trans hf
    exact ⟨_, hest, hg⟩
  · exact ⟨f, hest.trans hf, hg⟩

theorem hubBeside_handleFrame {text : String}
    (hm : ∀ i ∈ q, r = .waiting → ∀ m ∈ (Rpc.Frame.read text).messages, ¬ Link.answers i.call.id m) :
    HubBeside q r h (h.handleFrame text) := by
  obtain ⟨calls, deliveries, outbound, hlink⟩ := h.link.handleFrame_link text
  have hevents : (h.handleFrame text).link.events = h.link.events := congrArg (·.events) hlink
  refine ⟨congrArg (·.status) hlink, hevents ▸ List.Subset.refl _, rfl, ?_, fun i hi hf => ?_⟩
  · rintro i - ⟨e, he, hg⟩
    exact ⟨_, (Registry.entry?_hear _ _ _).trans (congrArg _ he), hg⟩
  · have hcallHistory := Link.callHistory_handleFrame h.link text
    refine Calls.Finds.history (c := h.link.calls) hf hcallHistory.history fun e he => ?_
    obtain ⟨m, hmem, rfl⟩ := List.mem_map.1 he
    exact Calls.spares_message fun hr => hm i hi hr m hmem

end

/-! ### Clients -/

/-- What happens beside the inquiry of a client: neither its discovery nor the host changes. -/
structure Beside (q : Option Inquiry) (r : Response) (c c' : Client) : Prop where
  hub : HubBeside q r c.hub c'.hub
  discovery : c'.discovery = c.discovery
  isWatching : c'.isWatching = c.isWatching
  visible : (∀ m ∈ c.monitor, m.visible) → ∀ m ∈ c'.monitor, m.visible

section

variable {q : Option Inquiry} {r : Response}

theorem beside_of_hub (h : HubBeside q r c.hub c'.hub)
    (hrest : ∃ hub jobs results held, c' = { c with hub, jobs, results, held }) : Beside q r c c' := by
  obtain ⟨hub, jobs, results, held, rfl⟩ := hrest
  exact ⟨h, rfl, rfl, id⟩

/-- A job has nothing to do with an inquiry, which was made before. -/
structure Job.IsApart (c : Client) (i : Inquiry) (job : Job) : Prop where
  given : i.generation ≤ c.registry.generation
  generation : ∀ service g ticket, job = .acknowledgement service g ticket → g ≠ i.generation
  ticket : job.ticket? ≠ some i.call.ticket

theorem beside_call (c : Client) (service method : String) (params : Option Json) :
    HubBeside q r c.hub (c.call service method params).2.hub := by
  unfold Client.call
  split
  · exact .refl _
  · exact hubBeside_settles (Link.call_settles c.link c.now _ params)

theorem beside_beginSubscription {service : String} {requested : List String}
    (hgiven : ∀ i ∈ q, i.generation ≤ c.registry.generation) :
    HubBeside q r c.hub (c.beginSubscription service requested).2.hub := by
  unfold beginSubscription
  split
  · exact .refl _
  · rename_i d _
    split
    · exact .refl _
    · rename_i hentry
      have hnone : c.registry.entry? service = none := by simpa using hentry
      let entered := c.hub.insert service d.path requested
      have hinsert : HubBeside q r c.hub entered := hubBeside_insert hnone
      have hcall := hinsert.trans (hubBeside_settles
        (Link.call_settles entered.link c.now (d.path ++ subscribeMethod) none))
      dsimp only [onLink]
      split
      · rename_i heq
        obtain ⟨-, rfl⟩ := Prod.mk.inj heq
        exact hcall
      · rename_i heq
        obtain ⟨-, rfl⟩ := Prod.mk.inj heq
        refine hcall.trans (hubBeside_discard fun i hi => ?_)
        exact Nat.ne_of_gt (Nat.lt_succ_of_le (hgiven i hi))

theorem beside_continueSubscription {service : String} {generation : Nat} {ticket : Ticket}
    (hg : ∀ i ∈ q, generation ≠ i.generation) (ht : ∀ i ∈ q, ticket ≠ i.call.ticket) :
    HubBeside q r c.hub (c.continueSubscription service generation ticket).2.hub := by
  have htake : HubBeside q r c.hub (c.takeOutcome ticket).2.hub :=
    hubBeside_take fun i hi heq => absurd heq (ht i hi)
  unfold continueSubscription
  split
  · rename_i heq
    rw [heq] at htake
    split
    · exact htake
    · exact htake.trans (hubBeside_forget ht)
  · rename_i heq
    rw [heq] at htake
    exact htake.trans (hubBeside_discard hg)
  · rename_i heq
    rw [heq] at htake
    dsimp only
    split
    · exact htake.trans (hubBeside_discard hg)
    · dsimp only [acknowledge]
      split
      · exact htake
      · exact htake.trans (hubBeside_establish ‹_›)

theorem beside_worked {job : Job} (hjob : ∀ i ∈ q, job.IsApart c i) :
    HubBeside q r c.hub (c.worked job).hub := by
  cases job with
  | subscribe service requested => exact beside_beginSubscription fun i hi => (hjob i hi).given
  | acknowledgement service generation ticket =>
    exact beside_continueSubscription (fun i hi => (hjob i hi).generation _ _ _ rfl)
      fun i hi heq => (hjob i hi).ticket (congrArg some heq)
  | describe service => exact beside_call c _ _ _
  | description ticket =>
    exact hubBeside_take fun i hi heq => absurd (congrArg some heq) (hjob i hi).ticket

theorem beside_runJob (tag : String) {job : Job} (hjob : ∀ i ∈ q, job.IsApart c i) :
    Beside q r c (c.runJob tag job) := by
  have hworked := runJob_worked c tag job
  have hhub : HubBeside q r c.hub (c.worked job).hub := beside_worked hjob
  exact ⟨hhub.congr hworked.link hworked.registry, hworked.discovery, hworked.isWatching,
    hworked.monitor ▸ id⟩

/-! ### Actions -/

/-- The connection is neither ended nor opened anew, and the host stays visible. -/
def Action.Keeps : Action → Prop
  | .openSocket | .moveTo _ | .stop | .shutdown | .connected | .disconnected => False
  | .setVisible visible => visible
  | _ => True

/-- The subscription to the services is not ended, and a ticket is left to its holder. -/
def Action.Spares (ticket : Ticket) : Action → Prop
  | .unsubscribe service => service ≠ ServiceList.discoveryName
  | .take t | .forget t => t ≠ ticket
  | _ => True

theorem beside_abandoned {jobs : List (String × Job)} (tag : String)
    (hjobs : ∀ i ∈ q, ∀ job ∈ jobs, job.2.ticket? ≠ some i.call.ticket) (c : Client) :
    HubBeside q r c.hub
      (jobs.foldl (fun c job => (c.abandon job.2).addResult tag .cancelled) c).hub := by
  induction jobs generalizing c with
  | nil => exact .refl _
  | cons job jobs ih =>
    have habandon : HubBeside q r c.hub (c.abandon job.2).hub := by
      have hticket := fun i hi => hjobs i hi job List.mem_cons_self
      obtain ⟨tag, job⟩ := job
      cases job with
      | subscribe => exact .refl _
      | describe => exact .refl _
      | acknowledgement service generation ticket =>
        exact hubBeside_forget fun i hi heq => hticket i hi (congrArg some heq)
      | description ticket => exact hubBeside_forget fun i hi heq => hticket i hi (congrArg some heq)
    exact habandon.trans
      (ih (fun i hi x hx => hjobs i hi x (List.mem_cons_of_mem job hx)) ((c.abandon job.2).addResult tag .cancelled))

theorem hubBeside_unsubscribe {service : String} (hs : ∀ i ∈ q, service ≠ ServiceList.discoveryName)
    (c : Client) : HubBeside q r c.hub (c.unsubscribe service).hub := by
  unfold unsubscribe
  split
  · exact .refl _
  · rename_i e _
    have herase : HubBeside q r c.hub { c.hub with registry := c.hub.registry.erase service } := by
      refine ⟨rfl, List.Subset.refl _, rfl, ?_, fun _ _ => id⟩
      rintro i hi ⟨f, hf, hg⟩
      exact ⟨f, by rwa [Registry.entry?_erase, if_neg (hs i hi)], hg⟩
    have hclose := herase.trans (hubBeside_rewired (e.rewired_unbind c.hub.link))
    dsimp only
    split
    · have hnotify := hclose.trans (hubBeside_settles (Link.notify_settles (e.unbind c.hub.link) c.now
        (e.path ++ unsubscribeMethod) none))
      exact hnotify.congr rfl rfl
    · exact hclose.congr rfl rfl

theorem hubBeside_linked {a : Action} {l : Link.Action Handler} (h : a.Links c l) (hkeeps : a.Keeps)
    (hstatus : c.link.status ≠ .notConnected) :
    HubBeside q r c.hub { c.hub with link := (c.link.act c.now l).2 } := by
  cases h with
  | deafen => exact ⟨rfl, List.Subset.refl _, rfl, fun _ _ => id, fun _ _ => id⟩
  | start =>
    have hlink : c.link.start.2 = c.link := by rw [Link.start, if_pos hstatus]
    exact (HubBeside.refl _).congr hlink rfl
  | call service method params target => exact hubBeside_settles (Link.call_settles _ c.now target params)
  | notify service method params target => exact hubBeside_settles (Link.notify_settles _ c.now target params)
  | batch calls entries => exact hubBeside_settles (Link.batch_settles _ c.now entries)
  | listen method => exact hubBeside_rewired (Link.rewired_listen _ _ _)
  | unlisten => exact hubBeside_rewired (Link.rewired_unlisten _ _)
  | moveTo s => exact absurd hkeeps id
  | stop => exact absurd hkeeps id

theorem visible_onMonitor {a : Action} (hkeeps : a.Keeps) {m : Link.Monitor} (hm : m.visible) :
    (a.onMonitor m).visible := by
  cases a with
  | setVisible visible =>
    dsimp only [Action.onMonitor, Link.Monitor.tell]
    split
    · exact hm
    · exact hkeeps
  | _ => exact hm

theorem beside_act {a : Action} (ha : ∀ ms, a ≠ .advance ms) (hstatus : c.link.status ≠ .notConnected)
    (hkeeps : a.Keeps) (hspares : ∀ i ∈ q, a.Spares i.call.ticket)
    (hmessages : ∀ i ∈ q, r = .waiting → ∀ m ∈ a.messages, ¬ Link.answers i.call.id m)
    (hjobs : ∀ i ∈ q, ∀ job ∈ c.jobs, job.2.ticket? ≠ some i.call.ticket) :
    Beside q r c (c.act a).2 := by
  have hacts := act_acts c ha
  have hmonitor : ∀ m ∈ (c.act a).2.monitor, _ := fun m hm => monitor_act c ha hm
  generalize (c.act a).2 = c' at hacts hmonitor ⊢
  cases hacts with
  | aside =>
    refine ⟨.refl _, rfl, rfl, fun hvisible m hm => ?_⟩
    rcases hmonitor m hm with hm | ⟨before, hbefore, rfl⟩
    · exact hvisible m hm
    · exact visible_onMonitor hkeeps (hvisible before hbefore)
  | linked hlinks => exact beside_of_hub (hubBeside_linked hlinks hkeeps hstatus) ⟨_, _, _, _, rfl⟩
  | take ticket =>
    exact beside_of_hub (hubBeside_take fun i hi heq => absurd heq (hspares i hi)) ⟨_, _, _, _, rfl⟩
  | forget ticket => exact beside_of_hub (hubBeside_forget hspares) ⟨_, _, _, _, rfl⟩
  | cancel tag =>
    obtain ⟨calls, results, hclient⟩ := cancel_client c tag
    have habandoned : HubBeside q r c.hub (c.cancel tag).hub :=
      beside_abandoned tag (fun i hi job hjob => hjobs i hi job (List.mem_of_mem_filter hjob))
        { c with jobs := c.jobs.filter (·.1 ≠ tag) }
    exact beside_of_hub habandoned ⟨_, _, _, _, hclient⟩
  | letGo tag =>
    unfold dropHeld
    split
    · exact beside_of_hub (.refl _) ⟨_, _, _, _, rfl⟩
    · exact beside_of_hub ((HubBeside.refl _).congr rfl rfl) ⟨_, _, _, _, rfl⟩
  | unsubscribe service =>
    obtain ⟨hub, hclient⟩ := unsubscribe_client c service
    exact beside_of_hub (hubBeside_unsubscribe hspares c) ⟨hub, _, _, _, hclient⟩
  | frame text => exact beside_of_hub (hubBeside_handleFrame hmessages) ⟨_, _, _, _, rfl⟩
  | openSocket => exact absurd hkeeps id
  | connected => exact absurd hkeeps id
  | disconnected => exact absurd hkeeps id
  | shutdown => exact absurd hkeeps id

end

end Client
end ServiceLink
