import ServiceLink.Proofs.Client.Cataloguing
import ServiceLink.Proofs.Client.Granting

/-! Services side by side. All subscriptions share one table of calls, one list of listeners and one counter, and
still nothing that happens to one service alone is noticed by another that has no key in common with it. -/

namespace ServiceLink

namespace Calls

variable {c d : Calls} {t : Ticket}

/-- The call with a ticket is left as it is: the response to it, and its place in flight. -/
structure Leaves (t : Ticket) (c d : Calls) : Prop where
  response : d.response t = c.response t
  inFlight : ∀ call ∈ c.inFlight, call.ticket = t → call ∈ d.inFlight

theorem Leaves.refl (t : Ticket) (c : Calls) : Leaves t c c := ⟨rfl, fun _ hcall _ => hcall⟩

theorem Leaves.trans {e : Calls} (h : Leaves t c d) (h' : Leaves t d e) : Leaves t c e :=
  ⟨h'.response.trans h.response, fun call hcall ht => h'.inFlight call (h.inFlight call hcall ht) ht⟩

theorem leaves_finish {ends : InFlight → Bool} (outcome : Outcome)
    (h : ∀ call ∈ c.inFlight, ends call → call.ticket ≠ t) : Leaves t c (c.finish ends outcome) where
  response := by
    rw [response_finish, if_neg]
    simpa using h
  inFlight call hcall ht := List.mem_filter.2 ⟨hcall, by simpa using fun hends => h call hcall hends ht⟩

/-- A message that answers no call with the ticket. -/
def Misses (t : Ticket) (c : Calls) (m : Rpc.Message) : Prop :=
  ∀ id outcome, m.answer? = some (id, outcome) → ∀ call ∈ c.inFlight, call.id = id → call.ticket ≠ t

theorem leaves_hear {m : Rpc.Message} (h : Misses t c m) : Leaves t c (c.hear m) := by
  unfold hear
  split
  · rename_i id outcome hanswer
    exact leaves_finish outcome fun call hcall hid => h id outcome hanswer call hcall (of_decide_eq_true hid)
  · exact .refl t c

theorem inFlight_hear_subset (c : Calls) (m : Rpc.Message) : (c.hear m).inFlight ⊆ c.inFlight := by
  unfold hear
  split
  · exact fun _ => List.mem_of_mem_filter
  · exact List.Subset.refl _

theorem leaves_take {ticket : Ticket} (h : t ≠ ticket) : Leaves t c (c.take ticket).2 := by
  refine ⟨?_, fun _ hcall _ => hcall⟩
  rw [response_take, if_neg h]

theorem leaves_forget {ticket : Ticket} (h : t ≠ ticket) : Leaves t c (c.forget ticket) := by
  refine ⟨?_, fun _ hcall _ => hcall⟩
  rw [response_forget, if_neg h]

end Calls

theorem Link.leaves_call {κ : Type} (l : Link κ) (now : Nat) (method : String) (params : Option Json)
    {t : Ticket} (ht : t < l.calls.responses.length) : l.calls.Leaves t (l.call now method params).2.calls := by
  have hsettles := Link.call_settles l now method params
  refine ⟨Calls.response_of_extends hsettles.responses ht, fun call hcall _ => ?_⟩
  generalize (l.call now method params).1.map (fun r => [some r]) = result at hsettles
  cases result with
  | ok receipts => exact hsettles.calls.inFlight ▸ List.mem_append_left _ hcall
  | error cause => exact hsettles.1.calls.inFlight ▸ hcall

theorem Link.pushesOf_eq_nil {l : Link Handler} {m : Rpc.Message} {stream : Nat}
    (h : ∀ n, m = .notification n → ∀ x ∈ l.tapsFor stream, x.method ≠ n.method) :
    (l.pushesOf m).filter (·.1.stream = stream) = [] := by
  cases m with
  | notification n =>
    have hnone : (l.tapsFor stream).filter (·.method = n.method) = [] :=
      List.filter_eq_nil_iff.2 fun x hx => by simpa using h n rfl x hx
    rw [pushesOf_stream, hnone]
    rfl
  | _ => rfl

theorem Stream.hear_of_none {s : Stream} {pushes : List Push} (h : pushes.filter (·.1.stream = s.id) = []) :
    s.hear pushes = s := by
  rw [hear_eq_sendAll, h]
  rfl

theorem Stream.filter_update_of_ne {streams : List Stream} {id stream : Nat} {f : Stream → Stream}
    (hf : ∀ s, (f s).id = s.id) (h : id ≠ stream) :
    (update streams id f).filter (·.id = stream) = streams.filter (·.id = stream) := by
  refine (filter_update streams stream id hf).trans ((List.map_congr_left fun s hs => ?_).trans (List.map_id _))
  have hid : s.id = stream := of_decide_eq_true (List.mem_filter.1 hs).2
  exact if_neg fun heq => h (heq.symm.trans hid)

namespace Hub

variable {service : String} {awaited : Ticket → Prop} {streams : Nat → Prop} {h h' : Hub}

/-- What becomes of a hub leaves a service as it is, with what it waits for and its streams. -/
structure Leaves (service : String) (awaited : Ticket → Prop) (streams : Nat → Prop) (h h' : Hub) : Prop where
  services : h'.registry.services = h.registry.services
  entry : h'.registry.entry? service = h.registry.entry? service
  call : ∀ t, awaited t → h.link.calls.Leaves t h'.link.calls
  stream : ∀ g, streams g → h'.streams.filter (·.id = g) = h.streams.filter (·.id = g)

theorem Leaves.refl (h : Hub) : Leaves service awaited streams h h :=
  ⟨rfl, rfl, fun t _ => .refl t _, fun _ _ => rfl⟩

theorem Leaves.trans {h'' : Hub} (hl : Leaves service awaited streams h h')
    (hl' : Leaves service awaited streams h' h'') : Leaves service awaited streams h h'' where
  services := hl'.services.trans hl.services
  entry := hl'.entry.trans hl.entry
  call t ht := (hl.call t ht).trans (hl'.call t ht)
  stream g hg := (hl'.stream g hg).trans (hl.stream g hg)

theorem leaves_link {link : Link Handler} (hcalls : ∀ t, awaited t → h.link.calls.Leaves t link.calls) :
    Leaves service awaited streams h { h with link } :=
  ⟨rfl, rfl, hcalls, fun _ _ => rfl⟩

end Hub

namespace Scene

variable {timeout : Nat} {s : Scene} {service : String} {awaited : Ticket → Prop} {streams : Nat → Prop}

/-- A message that is neither pushed under a key of a service, or to one of some streams, nor answers what is
awaited. -/
structure PassesBy (s : Scene) (service : String) (awaited : Ticket → Prop) (streams : Nat → Prop)
    (m : Rpc.Message) : Prop where
  key : ∀ n, m = .notification n → ∀ g, s.Stands service g ∨ streams g →
    ∀ x ∈ s.hub.link.tapsFor g, x.method ≠ n.method
  call : ∀ t, awaited t → Calls.Misses t s.hub.link.calls m

theorem PassesBy.leaves {m : Rpc.Message} (h : s.PassesBy service awaited streams m) (hk : s.Kept) :
    s.hub.Leaves service awaited streams (s.hub.hearMessage m) := by
  have hpushes : (s.hub.link.receive m).pushes = s.hub.link.pushesOf m := heard_message hk.quiet m
  have hnone : ∀ g, s.Stands service g ∨ streams g →
      (s.hub.link.pushesOf m).filter (·.1.stream = g) = [] :=
    fun g hg => Link.pushesOf_eq_nil fun n hn => h.key n hn g hg
  refine ⟨rfl, ?_, fun t ht => ?_, fun g hg => ?_⟩
  · show Registry.entry? (s.hub.registry.hear (s.hub.link.receive m).pushes) service = _
    rw [Registry.entry?_hear, hpushes]
    cases he : s.hub.registry.entry? service with
    | none => rfl
    | some e =>
      have hwired := hk.wired.entry service e he
      have hnews : e.news m = [] := by rw [← hwired.events m, hnone _ (.inl ⟨e, he, rfl⟩)]; rfl
      rw [Option.map_some, hwired.hear_eq, hnews, Entry.after_nil]
  · show s.hub.link.calls.Leaves t (s.hub.link.receive m).calls
    rw [Link.calls_receive]
    exact Calls.leaves_hear (h.call t ht)
  · show (s.hub.streams.map (·.hear (s.hub.link.receive m).pushes)).filter (·.id = g) = _
    refine (filter_onStream s (.message m) s.hub.streams g).trans ?_
    refine (List.map_congr_left fun st hst => ?_).trans (List.map_id _)
    have hid : st.id = g := of_decide_eq_true (List.mem_filter.1 hst).2
    show st.hear (s.hub.link.receive m).pushes = st
    rw [hpushes]
    exact Stream.hear_of_none (hid ▸ hnone g (.inr hg))

theorem PassesBy.after {m m' : Rpc.Message} (h : s.PassesBy service awaited streams m)
    (hleaves : s.hub.Leaves service awaited streams (s.hub.hearMessage m')) :
    (s.mapHub (·.hearMessage m')).PassesBy service awaited streams m where
  key n hn g hg x hx := by
    have hlisteners : (s.hub.hearMessage m').link.listeners = s.hub.link.listeners :=
      congrArg (·.listeners) (Link.receive_eq s.hub.link m')
    rw [show (s.mapHub (·.hearMessage m')).hub.link.tapsFor g = _ from
      Link.tapsFor_of_listeners hlisteners g] at hx
    refine h.key n hn g (hg.imp_left fun ⟨e, he, hge⟩ => ⟨e, ?_, hge⟩) x hx
    exact hleaves.entry.symm.trans he
  call t ht id outcome hanswer call hcall := by
    refine h.call t ht id outcome hanswer call ?_
    refine Calls.inFlight_hear_subset s.hub.link.calls m' ?_
    rw [← Link.calls_receive]
    exact hcall

theorem leaves_messages {messages : List Rpc.Message}
    (h : ∀ m ∈ messages, s.PassesBy service awaited streams m) (hk : s.Kept) :
    s.hub.Leaves service awaited streams (messages.foldl Hub.hearMessage s.hub) := by
  induction messages generalizing s with
  | nil => exact .refl _
  | cons m messages ih =>
    rw [List.forall_mem_cons] at h
    have hleaves := h.1.leaves hk
    have hstep : Step 0 s (.message m) (s.mapHub (·.hearMessage m)) := .message m
    exact hleaves.trans (ih (fun m' hm' => (h.2 m' hm').after hleaves) (hstep.kept hk))

theorem leaves_handleFrame {text : String}
    (h : ∀ m ∈ (Rpc.Frame.read text).messages, s.PassesBy service awaited streams m) (hk : s.Kept) :
    s.hub.Leaves service awaited streams (s.hub.handleFrame text) := by
  obtain ⟨link, hlink, hframe⟩ := Hub.handleFrame_eq hk.quiet text
  rw [hframe]
  refine (leaves_messages h hk).trans (Hub.leaves_link fun t _ => ?_)
  rw [hlink.calls]
  exact .refl t _

end Scene

theorem Registry.target?_congr {r r' : Registry} {service : String}
    (hentry : r'.entry? service = r.entry? service) (hservices : r'.services = r.services) (method : String) :
    r'.target? service method = r.target? service method := by
  unfold target?
  rw [hentry, hservices]

namespace Client

variable {timeout : Nat} {c c' : Client} {a b : String} {keys : List String} {g : Nat} {d : Deed}

/-- A service listens under a key: its subscription has a listener there. -/
def ListensUnder (c : Client) (service key : String) : Prop :=
  ∃ e, c.registry.entry? service = some e ∧ ∃ x ∈ c.link.tapsFor e.generation, x.method = key

/-- A stream that was given out, and not for the subscription of another service. -/
def IsStreamOf (c : Client) (service : String) (stream : Nat) : Prop :=
  stream ≤ c.registry.generation ∧ ∀ k, c.registry.Stands k stream → k = service

/-- The call that an attempt at a service waits for. -/
def IsAsking (c : Client) (service : String) (call : InFlight) : Prop :=
  ∃ w ∈ c.waiting [], w.service = service ∧ w.ticket = call.ticket

/-- What the server tells one service alone: a push under one of its keys, or the answer to its attempt. -/
inductive Addresses (c : Client) (service : String) (keys : List String) : Rpc.Message → Prop
  | push {n : Rpc.Notification} : n.method ∈ keys → Addresses c service keys (.notification n)
  | answer {m : Rpc.Message} {id : Nat} {outcome : Outcome} {call : InFlight} :
      m.answer? = some (id, outcome) → call ∈ c.link.calls.inFlight → call.id = id →
      c.IsAsking service call → Addresses c service keys m

def Job.IsFor (service : String) : Job → Prop
  | .subscribe k _ | .acknowledgement k _ _ => k = service
  | _ => False

/-- The deeds that concern one service alone: a subscription is asked for, its attempt goes on, the server tells
that service something, its call expires, or its subscription ends. -/
inductive Concerns (c : Client) (service : String) (keys : List String) : Deed → Prop
  | subscribed (tag : String) (properties : List String) :
      Concerns c service keys (.acted (.subscribe tag service properties) [])
  | worked (tag : String) {job : Job} : job.IsFor service → Concerns c service keys (.worked tag job)
  | told {text : String} : (∀ m ∈ (Rpc.Frame.read text).messages, c.Addresses service keys m) →
      Concerns c service keys (.acted (.frame text) [])
  | expired {time : Nat} : (∀ call ∈ c.link.calls.inFlight,
        Calls.isExpired time c.link.settings.callTimeout call → c.IsAsking service call) →
      Concerns c service keys (.swept time)
  | unsubscribed : Concerns c service keys (.acted (.unsubscribe service) [])

def DoesFor (service : String) (keys : List String) (c : Client) (d : Deed) (c' : Client) : Prop :=
  Does c d c' ∧ c.Concerns service keys d

/-- No job goes on under a tag that holds the stream. -/
def Retains (c : Client) (deeds : List Deed) (stream : Nat) : Prop :=
  ∀ tag, c.held.find? tag = some stream → ∀ job, .worked tag job ∉ deeds

/-- All of a service is as it was before some deeds. -/
structure Untouched (service : String) (deeds : List Deed) (c c' : Client) : Prop where
  /-- The number of its subscription, whether it is live, its path, its schema and its properties. -/
  entry : c'.registry.entry? service = c.registry.entry? service
  listeners : ∀ e, c.registry.entry? service = some e →
    c'.link.tapsFor e.generation = c.link.tapsFor e.generation
  stream : ∀ stream, c.IsStreamOf service stream → c.Retains deeds stream →
    c'.streamNews stream = c.streamNews stream ∧ c'.hub.isHeld stream = c.hub.isHeld stream
  /-- Its streams stay its own, and nobody else comes to hold one. -/
  owner : ∀ stream, c.IsStreamOf service stream → c'.IsStreamOf service stream ∧
    ∀ tag, c'.held.find? tag = some stream → c.held.find? tag = some stream
  job : ∀ tag job, job.IsFor service → (tag, job) ∈ c.jobs → (tag, job) ∈ c'.jobs
  attempt : ∀ w ∈ c.waiting [], w.service = service →
    w ∈ c'.waiting [] ∧ c.link.calls.Leaves w.ticket c'.link.calls
  target : ∀ method, c'.registry.target? service method = c.registry.target? service method

namespace Untouched

variable {c'' : Client} {deeds more : List Deed}

theorem refl (service : String) (c : Client) : Untouched service [] c c where
  entry := rfl
  listeners _ _ := rfl
  stream _ _ _ := ⟨rfl, rfl⟩
  owner _ h := ⟨h, fun _ h => h⟩
  job _ _ _ h := h
  attempt _ hw _ := ⟨hw, .refl _ _⟩
  target _ := rfl

theorem trans (h : Untouched a deeds c c') (h' : Untouched a more c' c'') :
    Untouched a (deeds ++ more) c c'' where
  entry := h'.entry.trans h.entry
  listeners e he := (h'.listeners e (h.entry.trans he)).trans (h.listeners e he)
  stream g hg hretains := by
    have hfirst := h.stream g hg fun tag hheld job hmem =>
      hretains tag hheld job (List.mem_append_left _ hmem)
    have hsecond := h'.stream g (h.owner g hg).1 fun tag hheld job hmem =>
      hretains tag ((h.owner g hg).2 tag hheld) job (List.mem_append_right _ hmem)
    exact ⟨hsecond.1.trans hfirst.1, hsecond.2.trans hfirst.2⟩
  owner g hg := by
    obtain ⟨hown, hheld⟩ := h.owner g hg
    obtain ⟨hown', hheld'⟩ := h'.owner g hown
    exact ⟨hown', fun tag htag => hheld tag (hheld' tag htag)⟩
  job tag job hfor hjob := h'.job tag job hfor (h.job tag job hfor hjob)
  attempt w hw hservice := by
    obtain ⟨hwaits, hleaves⟩ := h.attempt w hw hservice
    obtain ⟨hwaits', hleaves'⟩ := h'.attempt w hwaits hservice
    exact ⟨hwaits', hleaves.trans hleaves'⟩
  target method := (h'.target method).trans (h.target method)

theorem listensUnder_iff (h : Untouched a deeds c c') {key : String} :
    c'.ListensUnder a key ↔ c.ListensUnder a key := by
  unfold ListensUnder
  rw [h.entry]
  refine exists_congr fun e => and_congr_right fun he => ?_
  rw [h.listeners e he]

end Untouched

/-! ### The turns of an attempt -/

section

variable {awaited : Ticket → Prop} {streams : Nat → Prop}

theorem leaves_discard (h : Hub) (hab : a ≠ b) (generation : Nat) :
    h.Leaves a awaited streams { h with registry := h.registry.discard b generation } where
  services := congrArg (·.1) (catalog_discard h.registry b generation)
  entry := Registry.entry?_discard_of_ne generation hab
  call t _ := .refl t _
  stream _ _ := rfl

theorem leaves_insert (h : Hub) (hab : a ≠ b) (path : String) (requested : List String)
    (hold : ∀ g, streams g → g ≤ h.registry.generation) :
    h.Leaves a awaited streams (h.insert b path requested) where
  services := rfl
  entry := (Registry.entry?_insert h.registry b path a requested).trans (if_neg hab.symm)
  call t _ := .refl t _
  stream g hg := by
    have hnew : h.registry.generation + 1 ≠ g := Nat.ne_of_gt (Nat.lt_succ_of_le (hold g hg))
    show (h.streams ++ [({ id := h.registry.generation + 1 } : Stream)]).filter (·.id = g) = _
    simp [hnew]

theorem Opening.leaves {requested : List String} {result : Except SubscriptionError (Nat × Ticket)}
    (h : Opening c b requested result c') (hab : a ≠ b)
    (hknown : ∀ t, awaited t → t < c.link.calls.responses.length)
    (hold : ∀ g, streams g → g ≤ c.registry.generation) : c.hub.Leaves a awaited streams c'.hub := by
  have hasked : ∀ {path result link}, c.link.call c.now (path ++ subscribeMethod) none = (result, link) →
      c.hub.Leaves a awaited streams { c.hub.insert b path requested with link } := by
    intro path result link hcall
    refine (leaves_insert c.hub hab path requested hold).trans (Hub.leaves_link fun t ht => ?_)
    have hleaves := c.link.leaves_call c.now (path ++ subscribeMethod) none (hknown t ht)
    rwa [hcall] at hleaves
  cases h with
  | unknown => exact .refl _
  | already => exact .refl _
  | unsent _ _ hcall => exact (hasked hcall).trans (leaves_discard _ hab _)
  | asked _ _ hcall => exact hasked hcall

theorem Continuing.leaves {generation : Nat} {ticket : Ticket}
    {result : Option (Except SubscriptionError SubscriptionInfo)}
    (h : Continuing c b generation ticket result c') (hab : a ≠ b)
    (hother : ∀ t, awaited t → t ≠ ticket) : c.hub.Leaves a awaited streams c'.hub := by
  have htaken : c.hub.Leaves a awaited streams (c.takeOutcome ticket).2.hub :=
    Hub.leaves_link fun t ht => Calls.leaves_take (hother t ht)
  cases h with
  | waits => exact htaken
  | closed => exact htaken.trans (Hub.leaves_link fun t ht => Calls.leaves_forget (hother t ht))
  | rejected => exact htaken.trans (leaves_discard _ hab _)
  | unversioned => exact htaken.trans (leaves_discard _ hab _)
  | late => exact htaken
  | @established ack version e =>
    let taken := (c.takeOutcome ticket).2.hub
    have hrewired := taken.rewired_establish b e (Schema.read ack)
    refine htaken.trans ⟨rfl, ?_, fun t _ => ?_, fun _ _ => rfl⟩
    · exact (Registry.entry?_establish taken.registry taken.link b a e (Schema.read ack)).trans
        (if_neg hab.symm)
    · rw [hrewired.calls]
      exact .refl t _

end

theorem leaves_giveHeld (c : Client) {awaited : Ticket → Prop} {streams : Nat → Prop} {tag : String}
    (stream : Nat) (hkept : ∀ g, streams g → c.held.find? tag ≠ some g) :
    c.hub.Leaves a awaited streams (c.giveHeld tag stream).hub := by
  unfold giveHeld dropHeld
  split
  · exact .refl _
  · rename_i old hold
    refine ⟨rfl, rfl, fun t _ => .refl t _, fun g hg => ?_⟩
    refine Stream.filter_update_of_ne (fun _ => rfl) ?_
    rintro rfl
    exact hkept old hg hold

/-! ### Deeds -/

/-- What a deed that does not concern a service leaves of it. -/
structure Bypasses (service : String) (c : Client) (d : Deed) (c' : Client) : Prop where
  hub : c.hub.Leaves service (fun t => ∃ w ∈ c.waiting [], w.service = service ∧ w.ticket = t)
    (fun g => c.IsStreamOf service g ∧ c.Retains [d] g) c'.hub
  jobs : ∀ job ∈ c.jobs, job.2.IsFor service → job ∈ c'.jobs
  discovery : c'.discovery = c.discovery
  held : ∀ tag g, c.IsStreamOf service g → c'.held.find? tag = some g → c.held.find? tag = some g

theorem Bypasses.waiting (h : Bypasses a c d c') {w : Waiting} (hw : w ∈ c.waiting []) (hservice : w.service = a) :
    w ∈ c'.waiting [] := by
  rw [mem_waiting_iff rfl] at hw ⊢
  refine hw.imp (fun hjob => ?_) fun hinquiring => ?_
  · obtain ⟨⟨tag, job⟩, hmem, hwaiting⟩ := List.mem_filterMap.1 hjob
    refine List.mem_filterMap.2 ⟨(tag, job), h.jobs _ hmem ?_, hwaiting⟩
    cases job with
    | acknowledgement =>
      cases hwaiting
      exact hservice
    | _ => cases hwaiting
  · rwa [inquiring_of_discovery h.discovery]

theorem Job.tickets_sublist (jobs : List (String × Job)) :
    ((jobs.filterMap fun job => job.2.waiting?).map (·.ticket)).Sublist
      (jobs.filterMap fun job => job.2.ticket?) := by
  induction jobs with
  | nil => exact .slnil
  | cons job jobs ih =>
    obtain ⟨tag, job⟩ := job
    cases job with
    | acknowledgement => exact ih.cons_cons _
    | description => exact ih.cons _
    | subscribe => exact ih
    | describe => exact ih

theorem map_ticket_sublist (c : Client) (rest : List (String × Job)) :
    ((c.waiting rest).map (·.ticket)).Sublist (c.tickets rest) := by
  have hdiscovery : (c.discovery.bind Discovery.waiting?).toList.map (·.ticket) =
      (c.discovery.bind Discovery.ticket?).toList := by
    cases c.discovery with
    | none => rfl
    | some d => cases d <;> rfl
  unfold waiting tickets
  rw [List.map_append, hdiscovery]
  exact (Job.tickets_sublist _).append_right _

theorem Apart.eq_of_ticket (h : Apart c []) {w w' : Waiting} (hw : w ∈ c.waiting []) (hw' : w' ∈ c.waiting [])
    (ht : w.ticket = w'.ticket) : w = w' :=
  List.inj_on_of_nodup_map (h.distinct.sublist (c.map_ticket_sublist [])) hw hw' ht

theorem Apart.not_asking (h : Apart c []) (hab : a ≠ b) {w : Waiting} (hw : w ∈ c.waiting [])
    (hservice : w.service = a) {call : InFlight} (hasking : c.IsAsking b call) : call.ticket ≠ w.ticket := by
  obtain ⟨w', hw', hservice', hticket⟩ := hasking
  intro ht
  cases h.eq_of_ticket hw hw' (ht.symm.trans hticket.symm)
  exact hab (hservice.symm.trans hservice')

theorem IsStreamOf.stands (h : c.IsStreamOf a g) (hr : Reached timeout c) {x : Listener Handler}
    (hx : x ∈ c.link.tapsFor g) : c.registry.Stands a g := by
  obtain ⟨s, hs, hk, ho⟩ := hr.owned
  obtain ⟨hmem, t, ht, rfl⟩ := Link.mem_tapsFor.1 hx
  obtain ⟨k, e, he, hg, -⟩ := ho.live hk.wired (x := x) (by rw [hs.hub]; exact hmem) ht
  have hstands : c.registry.Stands k t.stream := ⟨e, (hs.subscription_eq k).symm.trans he, hg⟩
  cases h.2 k hstands
  exact hstands

theorem IsStreamOf.listensUnder (h : c.IsStreamOf a g) (hr : Reached timeout c) {x : Listener Handler}
    (hx : x ∈ c.link.tapsFor g) : c.ListensUnder a x.method := by
  obtain ⟨e, he, rfl⟩ := h.stands hr hx
  exact ⟨e, he, x, hx, rfl⟩

theorem IsStreamOf.of_entry (hr : Reached timeout c) {e : Entry} (he : c.registry.entry? a = some e) :
    c.IsStreamOf a e.generation :=
  ⟨hr.isTracked.entry_le he, fun _ ⟨_, hf, hg⟩ => hr.isTracked.unique hf he hg⟩

theorem IsStreamOf.isClosed_iff (h : c.IsStreamOf a g) (hr : Reached timeout c) :
    c.hub.isClosed g ↔ ¬ c.registry.Stands a g := by
  have hholds : c.registry.holds g ↔ c.registry.Stands a g := by
    refine Registry.holds_iff.trans ⟨fun ⟨k, hk⟩ => ?_, fun hstands => ⟨a, hstands⟩⟩
    cases h.2 k hk
    exact hk
  have hfeeds : c.link.feedsStream g → c.registry.Stands a g := by
    intro hfed
    obtain ⟨x, hx, htap⟩ := List.any_eq_true.1 hfed
    exact h.stands hr (List.mem_filter.2 ⟨hx, htap⟩)
  show decide (¬ c.registry.holds g ∧ ¬ c.link.feedsStream g) = true ↔ _
  rw [decide_eq_true_eq, hholds]
  exact ⟨fun hclosed => hclosed.1, fun hgone => ⟨hgone, fun hfed => hgone (hfeeds hfed)⟩⟩

section

variable (hr : Reached timeout c) (hab : a ≠ b)

include hr hab

theorem bypasses_frame {text : String} (hkeys : ∀ key ∈ keys, ¬ c.ListensUnder a key)
    (h : ∀ m ∈ (Rpc.Frame.read text).messages, c.Addresses b keys m) :
    Bypasses a c (.acted (.frame text) []) (c.handleFrame text) := by
  obtain ⟨s, hs, hk, -⟩ := hr.owned
  refine ⟨?_, fun _ hjob _ => hjob, rfl, fun _ _ _ h => h⟩
  show c.hub.Leaves _ _ _ (c.hub.handleFrame text)
  rw [← hs.hub]
  refine Scene.leaves_handleFrame (fun m hm => ⟨?_, ?_⟩) hk
  · rintro n rfl g hg x hx
    rintro hmethod
    have hstream : c.IsStreamOf a g := by
      rcases hg with ⟨e, he, rfl⟩ | hg
      · exact .of_entry hr ((hs.subscription_eq a).symm.trans he)
      · exact hg.1
    rw [hs.hub] at hx
    have hlistens := hstream.listensUnder hr hx
    cases h _ hm with
    | push hkey => exact hkeys _ hkey (hmethod ▸ hlistens)
    | answer hanswer => cases hanswer
  · rintro t ⟨w, hw, hservice, rfl⟩ id outcome hanswer call hcall hid
    rw [hs.hub] at hcall
    cases h m hm with
    | push => cases hanswer
    | answer hanswer' hcall' hid' hasking =>
      cases hanswer.symm.trans hanswer'
      rw [hr.isTracked.sound.eq_of_id hcall hcall' (hid.trans hid'.symm)]
      exact hr.apart.not_asking hab hw hservice hasking

theorem bypasses_sweep {time : Nat} (h : ∀ call ∈ c.link.calls.inFlight,
      Calls.isExpired time c.link.settings.callTimeout call → c.IsAsking b call) :
    Bypasses a c (.swept time) (c.mapLink (·.sweepIfDue time)) := by
  refine ⟨Hub.leaves_link ?_, fun _ hjob _ => hjob, rfl, fun _ _ _ h => h⟩
  rintro t ⟨w, hw, hservice, rfl⟩
  have hexpired : c.link.calls.Leaves w.ticket (c.link.tick time).calls :=
    Calls.leaves_finish _ fun call hcall hends => hr.apart.not_asking hab hw hservice (h call hcall hends)
  show c.link.calls.Leaves w.ticket (c.link.sweepIfDue time).calls
  unfold Link.sweepIfDue
  split
  · split
    · exact hexpired
    · exact .refl _ _
  · exact .refl _ _

end

theorem calls_unsubscribe (c : Client) (service : String) :
    (c.unsubscribe service).link.calls = c.link.calls := by
  unfold unsubscribe
  split
  · rfl
  · rename_i e _
    have hunbound := (e.rewired_unbind c.hub.link).calls
    dsimp only
    split
    · exact (Link.statusOnly_notify _ _ _).calls.trans hunbound
    · exact hunbound

theorem bypasses_unsubscribe (hab : a ≠ b) : Bypasses a c (.acted (.unsubscribe b) []) (c.unsubscribe b) := by
  obtain ⟨hub, hclient⟩ := unsubscribe_client c b
  have hkept := keepsConnection_unsubscribe c b
  have hcalls := calls_unsubscribe c b
  have hother : ¬ (Action.unsubscribe b).Ends a := fun h => hab (Action.unsubscribe.inj h).symm
  refine ⟨⟨congrArg (·.1) hkept.catalog, hkept.entry_eq hother, fun t _ => ?_, fun g _ => ?_⟩,
    fun _ hjob _ => ?_, ?_, fun _ _ _ h => ?_⟩
  · show c.link.calls.Leaves t (c.unsubscribe b).link.calls
    rw [hcalls]
    exact .refl t _
  · rw [hkept.streams]
  · rwa [hclient]
  · rw [hclient]
  · rwa [hclient] at h

theorem Continuing.stands {generation : Nat} {ticket : Ticket} {info : SubscriptionInfo}
    (h : Continuing c b generation ticket (some (.ok info)) c') :
    info.stream = generation ∧ c.registry.Stands b generation := by
  cases h with
  | established _ _ hcurrent =>
    obtain ⟨hentry, hgeneration⟩ := Registry.entry?_of_current? hcurrent
    exact ⟨rfl, _, hentry, hgeneration⟩

theorem Works.bypasses {tag : String} {job : Job} (h : Works c tag job c') (hfor : job.IsFor b) (hab : a ≠ b)
    {awaited : Ticket → Prop} {streams : Nat → Prop}
    (hawaited : ∀ t, awaited t → t < c.link.calls.responses.length ∧ job.ticket? ≠ some t)
    (hstreams : ∀ g, streams g → g ≤ c.registry.generation ∧ c.held.find? tag ≠ some g) :
    c.hub.Leaves a awaited streams c'.hub ∧ c.jobs ⊆ c'.jobs ∧ c'.discovery = c.discovery ∧
      ∀ k g, c.IsStreamOf a g → c'.held.find? k = some g → c.held.find? k = some g := by
  cases h with
  | @asked service _ generation ticket c₁ hopening =>
    cases hfor
    have hleaves : c.hub.Leaves a awaited streams c₁.hub :=
      hopening.leaves hab (fun t ht => (hawaited t ht).1) fun g hg => (hstreams g hg).1
    obtain ⟨hub, rfl⟩ := hopening.client
    exact ⟨hleaves, List.subset_append_left _ _, rfl, fun _ _ _ h => h⟩
  | @refused service _ cause c₁ hopening =>
    cases hfor
    have hleaves : c.hub.Leaves a awaited streams c₁.hub :=
      hopening.leaves hab (fun t ht => (hawaited t ht).1) fun g hg => (hstreams g hg).1
    obtain ⟨hub, rfl⟩ := hopening.client
    exact ⟨hleaves, List.Subset.refl _, rfl, fun _ _ _ h => h⟩
  | @waits service generation ticket c₁ hcontinuing =>
    cases hfor
    have hleaves : c.hub.Leaves a awaited streams c₁.hub :=
      hcontinuing.leaves hab fun t ht heq => (hawaited t ht).2 (congrArg some heq.symm)
    obtain ⟨hub, rfl⟩ := hcontinuing.client
    exact ⟨hleaves, List.subset_append_left _ _, rfl, fun _ _ _ h => h⟩
  | @ended service generation ticket result c₁ hcontinuing =>
    cases hfor
    have hleaves : c.hub.Leaves a awaited streams c₁.hub :=
      hcontinuing.leaves hab fun t ht heq => (hawaited t ht).2 (congrArg some heq.symm)
    cases result with
    | error cause =>
      obtain ⟨hub, rfl⟩ := hcontinuing.client
      exact ⟨hleaves, List.Subset.refl _, rfl, fun _ _ _ h => h⟩
    | ok info =>
      obtain ⟨rfl, hstands⟩ := hcontinuing.stands
      obtain ⟨hub, rfl⟩ := hcontinuing.client
      have hgiven : hub.Leaves a awaited streams (({ c with hub } : Client).giveHeld tag info.stream).hub :=
        leaves_giveHeld { c with hub } info.stream fun g hg => (hstreams g hg).2
      obtain ⟨results, held, streams, hended⟩ := endSubscription_client { c with hub } tag (.ok info)
      refine ⟨hleaves.trans hgiven, ?_, ?_, fun k g hg hheld => ?_⟩
      · rw [hended]
        exact List.Subset.refl _
      · rw [hended]
      · have hgives : (if tag = k then some info.stream else c.held.find? k) = some g :=
          (find?_giveHeld { c with hub } tag k info.stream).symm.trans hheld
        split at hgives
        · cases hgives
          exact absurd (hg.2 b hstands).symm hab
        · exact hgives
  | describes => exact absurd hfor id
  | unsent => exact absurd hfor id
  | looked => exact absurd hfor id
  | described => exact absurd hfor id
  | rejected => exact absurd hfor id

theorem bypasses_worked (hr : Reached timeout c) (hab : a ≠ b) {before after : List (String × Job)} {tag : String}
    {job : Job} (hjobs : c.jobs = before ++ (tag, job) :: after) (hfor : job.IsFor b) :
    Bypasses a c (.worked tag job) ((c.withJobs (before ++ after)).runJob tag job) := by
  have hworks := runJob_works (c.withJobs (before ++ after)) tag job
  have hticket : ∀ t, (∃ w ∈ c.waiting [], w.service = a ∧ w.ticket = t) →
      t < c.link.calls.responses.length ∧ job.ticket? ≠ some t := by
    rintro t ⟨w, hw, hservice, rfl⟩
    refine ⟨hr.apart.known _ ((c.map_ticket_sublist []).subset (List.mem_map_of_mem hw)), fun ht => ?_⟩
    cases job with
    | acknowledgement service generation ticket =>
      cases ht
      have hown : (⟨service, generation, w.ticket⟩ : Waiting) ∈ c.waiting [] :=
        (mem_waiting_middle hjobs).2 (.inr rfl)
      have hsame := congrArg (·.service) (hr.apart.eq_of_ticket hw hown rfl)
      exact hab (hservice.symm.trans (hsame.trans hfor))
    | subscribe => cases ht
    | describe => cases ht
    | description => exact hfor
  have hstreams : ∀ g, c.IsStreamOf a g ∧ c.Retains [.worked tag job] g →
      g ≤ c.registry.generation ∧ c.held.find? tag ≠ some g :=
    fun g hg => ⟨hg.1.1, fun h => hg.2 tag h job (List.mem_singleton_self _)⟩
  obtain ⟨hleaves, hsubset, hdiscovery, hheld⟩ := hworks.bypasses hfor hab hticket hstreams
  refine ⟨hleaves, fun x hx hown => hsubset ?_, hdiscovery, hheld⟩
  rw [hjobs] at hx
  show x ∈ before ++ after
  rcases List.mem_append.1 hx with hx | hx
  · exact List.mem_append_left _ hx
  · rcases List.mem_cons.1 hx with rfl | hx
    · cases job <;> cases hown <;> exact absurd hfor hab
    · exact List.mem_append_right _ hx

theorem DoesFor.bypasses (h : DoesFor b keys c d c') (hr : Reached timeout c) (hab : a ≠ b)
    (hkeys : ∀ key ∈ keys, ¬ c.ListensUnder a key) : Bypasses a c d c' := by
  obtain ⟨hdoes, hconcerns⟩ := h
  cases hconcerns with
  | subscribed tag properties =>
    generalize hbroken : ([] : List Waiting) = broken at hdoes
    cases hdoes with
    | acted =>
      exact ⟨.refl _, fun _ hjob _ => List.mem_append_left _ hjob, rfl, fun _ _ _ h => h⟩
  | worked tag hfor =>
    cases hdoes with
    | worked hjobs => exact bypasses_worked hr hab hjobs hfor
  | told hmessages =>
    generalize hbroken : ([] : List Waiting) = broken at hdoes
    cases hdoes with
    | acted => exact bypasses_frame hr hab hkeys hmessages
  | expired hcalls =>
    cases hdoes with
    | swept => exact bypasses_sweep hr hab hcalls
  | unsubscribed =>
    generalize hbroken : ([] : List Waiting) = broken at hdoes
    cases hdoes with
    | acted => exact bypasses_unsubscribe hab

theorem Does.generation_le (h : Does c d c') (hr : Reached timeout c) :
    c.registry.generation ≤ c'.registry.generation := by
  obtain ⟨s, hs, -⟩ := hr.owned
  obtain ⟨moves, s', htrace, hs', -⟩ := h.moves s hs
  have hle := Scene.generation_le_of_trace htrace
  rwa [hs.hub, hs'.hub] at hle

theorem IsStreamOf.does (h : c.IsStreamOf a g) (hr : Reached timeout c) (hdoes : Does c d c') :
    c'.IsStreamOf a g := by
  refine ⟨Nat.le_trans h.1 (hdoes.generation_le hr), ?_⟩
  rintro k ⟨f, hf, rfl⟩
  obtain ⟨e, he, hendures⟩ := hdoes.entriesEndure hr.isTracked k f hf h.1
  exact h.2 k ⟨e, he, hendures.generation.symm⟩

theorem Bypasses.listeners (h : Bypasses a c d c') (hr : Reached timeout c) (hr' : Reached timeout c')
    {e : Entry} (he : c.registry.entry? a = some e) :
    c'.link.tapsFor e.generation = c.link.tapsFor e.generation := by
  obtain ⟨s, hs, hk, -⟩ := hr.owned
  obtain ⟨s', hs', hk', -⟩ := hr'.owned
  have hbefore := (hk.wired.entry a e ((hs.subscription_eq a).trans he)).taps
  have hafter := (hk'.wired.entry a e ((hs'.subscription_eq a).trans (h.hub.entry.trans he))).taps
  rw [hs.hub] at hbefore
  rw [hs'.hub] at hafter
  exact hafter.trans hbefore.symm

theorem Bypasses.stream (h : Bypasses a c d c') (hr : Reached timeout c) (hdoes : Does c d c')
    (hg : c.IsStreamOf a g) (hretains : c.Retains [d] g) :
    c'.streamNews g = c.streamNews g ∧ c'.hub.isHeld g = c.hub.isHeld g := by
  have hsame := h.hub.stream g ⟨hg, hretains⟩
  have hheld : ∀ hub : Hub, hub.isHeld g = (hub.streams.filter (·.id = g)).any (·.isHeld) := by
    intro hub
    simp [Hub.isHeld, List.any_filter]
  have hclosed : c'.hub.isClosed g = c.hub.isClosed g := by
    rw [Bool.eq_iff_iff, (hg.does hr hdoes).isClosed_iff (hr.deed hdoes), hg.isClosed_iff hr]
    unfold Registry.Stands registry
    rw [h.hub.entry]
  refine ⟨?_, ?_⟩
  · unfold streamNews Stream.eventsOf
    rw [hsame, hclosed]
  · rw [hheld, hheld, hsame]

theorem Bypasses.untouched (h : Bypasses a c d c') (hr : Reached timeout c) (hdoes : Does c d c') :
    Untouched a [d] c c' where
  entry := h.hub.entry
  listeners _ := h.listeners hr (hr.deed hdoes)
  stream _ := h.stream hr hdoes
  owner g hg := ⟨hg.does hr hdoes, fun tag => h.held tag g hg⟩
  job _ _ hfor hjob := h.jobs _ hjob hfor
  attempt w hw hservice := ⟨h.waiting hw hservice, h.hub.call _ ⟨w, hw, hservice, rfl⟩⟩
  target := Registry.target?_congr h.hub.entry h.hub.services

theorem untouched_of_trace {deeds : List Deed} (h : Trace (DoesFor b keys) c deeds c')
    (hr : Reached timeout c) (hab : a ≠ b) (hkeys : ∀ key ∈ keys, ¬ c.ListensUnder a key) :
    Untouched a deeds c c' := by
  suffices Reached timeout c' ∧ Untouched a deeds c c' from this.2
  induction h with
  | start => exact ⟨hr, .refl a c⟩
  | step _ hstep ih =>
    obtain ⟨hr', huntouched⟩ := ih
    have hbypasses := hstep.bypasses hr' hab fun key hkey hlistens =>
      hkeys key hkey (huntouched.listensUnder_iff.1 hlistens)
    exact ⟨hr'.deed hstep.1, huntouched.trans (hbypasses.untouched hr' hstep.1)⟩

/-- Whatever happens to one service alone, and in whatever order the tasks of the client take turns, every other
service that listens under none of its keys is left as it was. -/
theorem services_untouched {endpoint : String} {options : Options} {c₀ : Client}
    (hnew : Client.new endpoint options = .ok c₀) (inBackground : Bool) (actions : List (List Action)) :
    let start := c₀.started inBackground
    start.Performs actions.flatten (start.bursts actions) ∧
      ∀ log c, Trace Does start log c → ∀ a b keys, a ≠ b → (∀ key ∈ keys, ¬ c.ListensUnder a key) →
        ∀ deeds c', Trace (DoesFor b keys) c deeds c' → Untouched a deeds c c' := by
  intro start
  refine ⟨performs_bursts start actions, fun log c hlog a b keys hab hkeys deeds c' hdeeds => ?_⟩
  exact untouched_of_trace hdeeds ((reached_of_new hnew inBackground).trace hlog) hab hkeys

namespace Lights

def known : Client := Asking.pushed.runDiscovery

def subscribing : Client := known.addJob "tag" (.subscribe "lights" ["on"])

def asked : Client := (subscribing.withJobs []).runJob "tag" (.subscribe "lights" ["on"])

def ack : Json :=
  .object [("properties", .object [("on", .object [("value", .integer 1)])]), ("version", .integer 1)]

def answer : Rpc.Message := .response (some 2) ack

def answerText : String :=
  Json.render <| .object [("jsonrpc", .text "2.0"), ("id", .integer 2), ("result", ack)]

theorem read_answerText : Rpc.Frame.read answerText = .single answer :=
  (Rpc.conveys_response (by decide) (AtOnce.reads_acknowledgement (.integer (by decide)))).read

def answered : Client :=
  { asked with hub := { asked.hub with link := asked.hub.link.receive answer }.hear }

def live : Client := (answered.withJobs []).runJob "tag" (.acknowledgement "lights" 2 1)

def push : Rpc.Message := .notification ⟨"/l/on", some (.integer 0)⟩

def pushText : String :=
  Json.render <| .object [("jsonrpc", .text "2.0"), ("method", .text "/l/on"), ("params", .integer 0)]

theorem read_pushText : Rpc.Frame.read pushText = .single push :=
  (Rpc.conveys_notification (.integer (by decide))).read

def pushed : Client := { live with hub := { live.hub with link := live.hub.link.receive push }.hear }

def toPush : List Deed :=
  [.acted (.subscribe "tag" "lights" ["on"]) [], .worked "tag" (.subscribe "lights" ["on"]),
    .acted (.frame answerText) [], .worked "tag" (.acknowledgement "lights" 2 1), .acted (.frame pushText) []]

theorem trace_toPush : Trace (DoesFor "lights" ["/l/on"]) known toPush pushed := by
  have hsubscribed : DoesFor "lights" ["/l/on"] known (.acted (.subscribe "tag" "lights" ["on"]) []) subscribing :=
    ⟨.acted nofun, .subscribed _ _⟩
  have hasked : DoesFor "lights" ["/l/on"] subscribing (.worked "tag" (.subscribe "lights" ["on"])) asked := by
    have hjobs : subscribing.jobs = [] ++ ("tag", .subscribe "lights" ["on"]) :: [] := rfl
    exact ⟨.worked hjobs, .worked _ rfl⟩
  have hanswered : DoesFor "lights" ["/l/on"] asked (.acted (.frame answerText) []) answered := by
    have hframe : (asked.act (.frame answerText)).2 = answered := handleFrame_of_read read_answerText rfl asked
    refine ⟨hframe ▸ .acted nofun, .told fun m hm => ?_⟩
    rw [read_answerText] at hm
    cases List.mem_singleton.1 hm
    have hflying : (⟨2, 0, 1⟩ : InFlight) ∈ asked.link.calls.inFlight := List.mem_singleton_self _
    exact .answer rfl hflying rfl ⟨⟨"lights", 2, 1⟩, List.mem_cons_self, rfl, rfl⟩
  have hlive : DoesFor "lights" ["/l/on"] answered (.worked "tag" (.acknowledgement "lights" 2 1)) live := by
    have hjobs : answered.jobs = [] ++ ("tag", .acknowledgement "lights" 2 1) :: [] := rfl
    exact ⟨.worked hjobs, .worked _ rfl⟩
  have hpushed : DoesFor "lights" ["/l/on"] live (.acted (.frame pushText) []) pushed := by
    have hframe : (live.act (.frame pushText)).2 = pushed := handleFrame_of_read read_pushText rfl live
    refine ⟨hframe ▸ .acted nofun, .told fun m hm => ?_⟩
    rw [read_pushText] at hm
    cases List.mem_singleton.1 hm
    exact .push (by simp)
  exact ((((Trace.one hsubscribed).step hasked).step hanswered).step hlive).step hpushed

end Lights

open Lights in
theorem services_untouched_lights :
    Untouched ServiceList.discoveryName toPush known pushed ∧
      (known.registry.entry? ServiceList.discoveryName).any (·.isLive) ∧
      Stream.eventsOf pushed.hub.streams 2 = [.changed "on" (.integer 0)] := by
  have hnew : Client.new "ws://h/" {} = .ok AtOnce.start := rfl
  have huntouched := (services_untouched hnew false []).2 Asking.course known Asking.trace_course
  refine ⟨huntouched ServiceList.discoveryName "lights" ["/l/on"] (by decide) ?_ toPush pushed trace_toPush,
    rfl, rfl⟩
  rintro key hkey ⟨e, he, x, hx, rfl⟩
  have hmethods : known.link.listeners.map (·.method) = ["/services/serviceList"] := rfl
  have hmethod : x.method ∈ ["/services/serviceList"] :=
    hmethods ▸ List.mem_map_of_mem (Link.mem_tapsFor.1 hx).1
  rw [List.mem_singleton.1 hmethod] at hkey
  exact absurd hkey (by decide)

end Client
end ServiceLink
