import ServiceLink.Proofs.Client.Working

/-! The turns of an attempt: how its beginning ends and how far it gets when it goes on, each with the client
then. What the turns do to the subscriptions that are entered is read off these, and what the discovery makes
of the outcome leaves them. -/

namespace ServiceLink

namespace Registry

variable {r : Registry} {service k : String} {generation g : Nat}

/-- A subscription is entered, and not live. -/
def Pending (r : Registry) (service : String) (generation : Nat) : Prop :=
  ∃ e, r.entry? service = some e ∧ e.generation = generation ∧ e.live = none

theorem pending_of_entry? {r' : Registry} (h : r'.entry? service = r.entry? service) :
    r'.Pending service g ↔ r.Pending service g := by
  unfold Pending
  rw [h]

theorem pending_erase : (r.erase service).Pending k g ↔ k ≠ service ∧ r.Pending k g := by
  unfold Pending
  rw [entry?_erase]
  by_cases hk : service = k
  · simp [hk]
  · simp [hk, Ne.symm hk]

theorem pending_insert {path : String} {requested : List String} (hnone : r.entry? service = none) :
    (r.insert service path requested).Pending k g ↔
      r.Pending k g ∨ k = service ∧ g = r.generation + 1 := by
  unfold Pending
  rw [entry?_insert]
  by_cases hk : service = k
  · subst hk
    simp [hnone, eq_comm]
  · simp [hk, Ne.symm hk]

theorem pending_discard : (r.discard service generation).Pending k g ↔
    r.Pending k g ∧ ¬ (k = service ∧ g = generation) := by
  unfold discard
  cases hcurrent : r.current? service generation with
  | none =>
    refine ⟨fun h => ⟨h, ?_⟩, fun h => h.1⟩
    rintro ⟨rfl, rfl⟩
    obtain ⟨e, he, hg, -⟩ := h
    exact ne_of_current?_eq_none hcurrent he hg
  | some e =>
    obtain ⟨he, hg⟩ := entry?_of_current? hcurrent
    rw [if_pos (by simp), pending_erase, and_comm]
    refine and_congr_right fun ⟨f, hf, hgf, _⟩ => ⟨fun hk h => hk h.1, fun h hk => h ⟨hk, ?_⟩⟩
    subst hk
    cases he.symm.trans hf
    exact hgf.symm.trans hg

theorem discard_of_gone (h : r.current? service generation = none) : r.discard service generation = r := by
  rw [discard, h]
  rfl

theorem generation_discard : (r.discard service generation).generation = r.generation := by
  unfold discard
  split <;> rfl

theorem pending_establish {l : Link Handler} {e : Entry} {schema : Schema}
    (hcurrent : r.current? service generation = some e) :
    (r.establish l service e schema).2.1.Pending k g ↔
      r.Pending k g ∧ ¬ (k = service ∧ g = generation) := by
  obtain ⟨he, hg⟩ := entry?_of_current? hcurrent
  unfold Pending
  rw [entry?_establish]
  by_cases hk : service = k
  · subst hk
    simp only [if_true, he, true_and]
    constructor
    · rintro ⟨f, hf, -, hlive⟩
      cases hf
      cases hlive
    · rintro ⟨⟨f, hf, hgf, -⟩, hne⟩
      cases hf
      exact absurd (hgf.symm.trans hg) hne
  · simp [hk, Ne.symm hk]

theorem pending_hear {pushes : List Push} :
    Registry.Pending (r.hear pushes) service g ↔ r.Pending service g := by
  unfold Pending
  rw [entry?_hear]
  constructor
  · rintro ⟨e, he, hg, hlive⟩
    obtain ⟨f, hf, rfl⟩ := Option.map_eq_some_iff.1 he
    exact ⟨f, hf, hg, Option.map_eq_none_iff.1 hlive⟩
  · rintro ⟨f, hf, hg, hlive⟩
    exact ⟨f.hear pushes, by rw [hf]; rfl, hg, Option.map_eq_none_iff.2 hlive⟩

end Registry

namespace Client

variable {c c' : Client} {service : String} {requested : List String} {generation : Nat} {ticket : Ticket}

/-! ### The beginning -/

/-- The outcomes of `beginSubscription`. -/
inductive Opening (c : Client) (service : String) (requested : List String) :
    Except SubscriptionError (Nat × Ticket) → Client → Prop
  | unknown : c.registry.services.find? service = none →
      Opening c service requested (.error (.unknownService service)) c
  | already {d : ServiceDescriptor} {e : Entry} : c.registry.services.find? service = some d →
      c.registry.entry? service = some e →
      Opening c service requested (.error (.alreadySubscribed service)) c
  | unsent {d : ServiceDescriptor} {cause : LinkError} {link : Link Handler} :
      c.registry.services.find? service = some d → c.registry.entry? service = none →
      c.link.call c.now (d.path ++ subscribeMethod) none = (.error cause, link) →
      Opening c service requested (.error (.link service cause))
        (({ c with hub := c.hub.insert service d.path requested }.mapLink fun _ => link).mapRegistry
          (·.discard service (c.registry.generation + 1)))
  | asked {d : ServiceDescriptor} {receipt : Receipt} {link : Link Handler} :
      c.registry.services.find? service = some d → c.registry.entry? service = none →
      c.link.call c.now (d.path ++ subscribeMethod) none = (.ok receipt, link) →
      Opening c service requested (.ok (c.registry.generation + 1, receipt.ticket))
        ({ c with hub := c.hub.insert service d.path requested }.mapLink fun _ => link)

theorem Opening.eq {result : Except SubscriptionError (Nat × Ticket)}
    (h : Opening c service requested result c') : c.beginSubscription service requested = (result, c') := by
  unfold beginSubscription
  cases h with
  | unknown hknown => rw [hknown]
  | already hknown hentry =>
    rw [hknown]
    dsimp only
    rw [hentry]
    rfl
  | @unsent d _ _ hknown hentry hcall =>
    have hentered : ({ c with hub := c.hub.insert service d.path requested } : Client).link.call c.now
        (d.path ++ subscribeMethod) none = _ := hcall
    rw [hknown]
    dsimp only [onLink]
    rw [hentry, if_neg (by simp), hentered]
    rfl
  | @asked d _ _ hknown hentry hcall =>
    have hentered : ({ c with hub := c.hub.insert service d.path requested } : Client).link.call c.now
        (d.path ++ subscribeMethod) none = _ := hcall
    rw [hknown]
    dsimp only [onLink]
    rw [hentry, if_neg (by simp), hentered]
    rfl

theorem Opening.client {result : Except SubscriptionError (Nat × Ticket)}
    (h : Opening c service requested result c') : ∃ hub, c' = { c with hub } := by
  cases h <;> exact ⟨_, rfl⟩

theorem beginSubscription_opening (c : Client) (service : String) (requested : List String) :
    Opening c service requested (c.beginSubscription service requested).1
      (c.beginSubscription service requested).2 := by
  obtain ⟨result, c', h⟩ : ∃ result c', Opening c service requested result c' := by
    cases hknown : c.registry.services.find? service with
    | none => exact ⟨_, _, .unknown hknown⟩
    | some d =>
      cases hentry : c.registry.entry? service with
      | some e => exact ⟨_, _, .already hknown hentry⟩
      | none =>
        cases hcall : c.link.call c.now (d.path ++ subscribeMethod) none with
        | mk result link =>
          cases result with
          | error cause => exact ⟨_, _, .unsent hknown hentry hcall⟩
          | ok receipt => exact ⟨_, _, .asked hknown hentry hcall⟩
  rw [h.eq]
  exact h

namespace Opening

variable {cause : SubscriptionError}

theorem pending_of_error (h : Opening c service requested (.error cause) c') {k : String} {g : Nat} :
    c'.registry.Pending k g ↔ c.registry.Pending k g := by
  cases h with
  | unknown => exact Iff.rfl
  | already => exact Iff.rfl
  | @unsent d cause link hknown hentry hcall =>
    refine (Registry.pending_discard (r := c.registry.insert service d.path requested)).trans ?_
    rw [Registry.pending_insert hentry]
    constructor
    · rintro ⟨hpending | hnew, hne⟩
      · exact hpending
      · exact absurd hnew hne
    · rintro hpending
      refine ⟨.inl hpending, ?_⟩
      rintro ⟨rfl, -⟩
      obtain ⟨e, he, -⟩ := hpending
      cases hentry.symm.trans he

theorem pending_of_ok (h : Opening c service requested (.ok (generation, ticket)) c') {k : String}
    {g : Nat} :
    c'.registry.Pending k g ↔ c.registry.Pending k g ∨ k = service ∧ g = generation := by
  cases h with
  | asked hknown hentry => exact Registry.pending_insert hentry

theorem generation_of_ok (h : Opening c service requested (.ok (generation, ticket)) c') :
    generation = c.registry.generation + 1 ∧ c'.registry.generation = generation := by
  cases h with
  | asked => exact ⟨rfl, rfl⟩

theorem entered_of_ok (h : Opening c service requested (.ok (generation, ticket)) c') :
    ∃ r : Receipt, r.ticket = ticket ∧ Calls.Entered c.now c.link.calls [r] c'.link.calls := by
  cases h with
  | asked _ _ hcall => exact ⟨_, rfl, Link.entered_of_call hcall⟩

theorem generation_le {result : Except SubscriptionError (Nat × Ticket)}
    (h : Opening c service requested result c') : c.registry.generation ≤ c'.registry.generation := by
  cases h with
  | unknown => exact Nat.le_refl _
  | already => exact Nat.le_refl _
  | @unsent d =>
    exact Nat.le_of_lt (Nat.lt_of_lt_of_eq (Nat.lt_succ_self _)
      (Registry.generation_discard (r := c.registry.insert service d.path requested)).symm)
  | asked => exact Nat.le_succ _

end Opening

/-! ### Going on -/

/-- The outcomes of `continueSubscription`. -/
inductive Continuing (c : Client) (service : String) (generation : Nat) (ticket : Ticket) :
    Option (Except SubscriptionError SubscriptionInfo) → Client → Prop
  | waits {e : Entry} : (c.link.calls.response ticket).take.1 = none →
      c.registry.current? service generation = some e →
      Continuing c service generation ticket none (c.takeOutcome ticket).2
  /-- Its subscription is gone before there is an answer. -/
  | closed : (c.link.calls.response ticket).take.1 = none →
      c.registry.current? service generation = none →
      Continuing c service generation ticket (some (.error (.closed service)))
        ((c.takeOutcome ticket).2.forget ticket)
  | rejected {cause : CallError} : (c.link.calls.response ticket).take.1 = some (.error cause) →
      Continuing c service generation ticket (some (.error (.rejected service cause)))
        ((c.takeOutcome ticket).2.mapRegistry (·.discard service generation))
  | unversioned {ack : Json} : (c.link.calls.response ticket).take.1 = some (.ok ack) →
      (Schema.read ack).version = none →
      Continuing c service generation ticket (some (.error (.rejected service noVersion)))
        ((c.takeOutcome ticket).2.mapRegistry (·.discard service generation))
  /-- Its subscription is gone before the answer is looked at. -/
  | late {ack : Json} {version : String} : (c.link.calls.response ticket).take.1 = some (.ok ack) →
      (Schema.read ack).version = some version → c.registry.current? service generation = none →
      Continuing c service generation ticket (some (.error (.closed service))) (c.takeOutcome ticket).2
  | established {ack : Json} {version : String} {e : Entry} :
      (c.link.calls.response ticket).take.1 = some (.ok ack) →
      (Schema.read ack).version = some version → c.registry.current? service generation = some e →
      Continuing c service generation ticket
        (some (.ok { service, version
                     methods := (Schema.read ack).methods
                     properties := (Schema.read ack).properties
                     stream := generation }))
        { c with hub := (c.takeOutcome ticket).2.hub.establish service e (Schema.read ack) }

theorem Continuing.eq {result : Option (Except SubscriptionError SubscriptionInfo)}
    (h : Continuing c service generation ticket result c') :
    c.continueSubscription service generation ticket = (result, c') := by
  let taken := (c.takeOutcome ticket).2
  have hlook : ∀ {outcome}, (c.link.calls.response ticket).take.1 = outcome →
      c.takeOutcome ticket = (outcome, taken) := fun houtcome => Prod.ext houtcome rfl
  have hstands : ∀ {found}, c.registry.current? service generation = found →
      taken.registry.current? service generation = found := id
  unfold continueSubscription
  cases h with
  | waits htake hcurrent =>
    rw [hlook htake]
    dsimp only
    rw [hstands hcurrent]
    rfl
  | closed htake hcurrent =>
    rw [hlook htake]
    dsimp only
    rw [hstands hcurrent]
    rfl
  | rejected htake =>
    rw [hlook htake]
  | unversioned htake hversion =>
    rw [hlook htake]
    dsimp only
    rw [hversion]
  | late htake hversion hcurrent =>
    rw [hlook htake]
    dsimp only [acknowledge]
    rw [hversion, hstands hcurrent]
  | established htake hversion hcurrent =>
    rw [hlook htake]
    dsimp only [acknowledge]
    rw [hversion, hstands hcurrent]
    rfl

theorem Continuing.client {result : Option (Except SubscriptionError SubscriptionInfo)}
    (h : Continuing c service generation ticket result c') : ∃ hub, c' = { c with hub } := by
  cases h <;> exact ⟨_, rfl⟩

theorem continueSubscription_continuing (c : Client) (service : String) (generation : Nat)
    (ticket : Ticket) :
    Continuing c service generation ticket (c.continueSubscription service generation ticket).1
      (c.continueSubscription service generation ticket).2 := by
  obtain ⟨result, c', h⟩ : ∃ result c', Continuing c service generation ticket result c' := by
    cases htake : (c.link.calls.response ticket).take.1 with
    | none =>
      cases hcurrent : c.registry.current? service generation with
      | none => exact ⟨_, _, .closed htake hcurrent⟩
      | some e => exact ⟨_, _, .waits htake hcurrent⟩
    | some outcome =>
      cases outcome with
      | error cause => exact ⟨_, _, .rejected htake⟩
      | ok ack =>
        cases hversion : (Schema.read ack).version with
        | none => exact ⟨_, _, .unversioned htake hversion⟩
        | some version =>
          cases hcurrent : c.registry.current? service generation with
          | none => exact ⟨_, _, .late htake hversion hcurrent⟩
          | some e => exact ⟨_, _, .established htake hversion hcurrent⟩
  rw [h.eq]
  exact h

namespace Continuing

variable {result : Except SubscriptionError SubscriptionInfo}

theorem registry_of_none (h : Continuing c service generation ticket none c') :
    c'.registry = c.registry ∧ (c.registry.current? service generation).isSome := by
  cases h with
  | waits _ hcurrent => exact ⟨rfl, Option.isSome_iff_exists.2 ⟨_, hcurrent⟩⟩

theorem registry_of_error {cause : SubscriptionError}
    (h : Continuing c service generation ticket (some (.error cause)) c') :
    c'.registry = c.registry.discard service generation := by
  cases h with
  | closed _ hgone => exact (Registry.discard_of_gone hgone).symm
  | rejected => rfl
  | unversioned => rfl
  | late _ _ hgone => exact (Registry.discard_of_gone hgone).symm

theorem pending_of_some (h : Continuing c service generation ticket (some result) c') {k : String}
    {g : Nat} :
    c'.registry.Pending k g ↔ c.registry.Pending k g ∧ ¬ (k = service ∧ g = generation) := by
  cases result with
  | error cause => rw [h.registry_of_error, Registry.pending_discard]
  | ok info =>
    cases h with
    | established _ _ hcurrent => exact Registry.pending_establish hcurrent

theorem generation_eq {result : Option (Except SubscriptionError SubscriptionInfo)}
    (h : Continuing c service generation ticket result c') :
    c'.registry.generation = c.registry.generation := by
  cases result with
  | none => rw [h.registry_of_none.1]
  | some result =>
    cases result with
    | error cause => rw [h.registry_of_error, Registry.generation_discard]
    | ok info =>
      cases h with
      | established => rfl

end Continuing

/-! ### What the discovery makes of the outcome -/

/-- A change of the catalog that leaves the subscriptions as they are. -/
structure SameEntries (c c' : Client) : Prop where
  entries : c'.registry.entries = c.registry.entries
  generation : c'.registry.generation = c.registry.generation

namespace SameEntries

theorem trans {c'' : Client} (h : c.SameEntries c') (h' : c'.SameEntries c'') : c.SameEntries c'' :=
  ⟨h'.entries.trans h.entries, h'.generation.trans h.generation⟩

theorem pending (h : c.SameEntries c') (service : String) (g : Nat) :
    c'.registry.Pending service g ↔ c.registry.Pending service g := by
  refine Registry.pending_of_entry? ?_
  unfold Registry.entry?
  rw [h.entries]

end SameEntries

theorem learn_client (c : Client) (info : SubscriptionInfo) : ∃ registry link,
    c.learn info = { c with hub := { c.hub with registry, link } } ∧
      registry.entries = c.registry.entries ∧ registry.generation = c.registry.generation ∧
      (link = c.link ∨ link = c.link.markReady ∧ ∃ p, info.properties.find? listProperty = some p) := by
  unfold learn
  dsimp only
  cases info.properties.find? listProperty with
  | none => exact ⟨_, _, rfl, rfl, rfl, .inl rfl⟩
  | some p => exact ⟨_, _, rfl, rfl, rfl, .inr ⟨rfl, p, rfl⟩⟩

theorem sameEntries_learn (c : Client) (info : SubscriptionInfo) : c.SameEntries (c.learn info) := by
  obtain ⟨registry, link, hclient, hentries, hgeneration, -⟩ := learn_client c info
  rw [hclient]
  exact ⟨hentries, hgeneration⟩

/-- The service list after an event of the discovery's stream. -/
def listed (services : ServiceList) : Event → ServiceList
  | .changed property value => if property = listProperty then .read value else services
  | .ended => services

theorem foldl_followEvent (events : List Event) (c : Client) : ∃ discovery,
    events.foldl followEvent c =
      { c.setServices (events.foldl listed c.registry.services) with discovery } ∧
      (discovery = c.discovery ∨ discovery = none) ∧ (.ended ∉ events → discovery = c.discovery) := by
  induction events generalizing c with
  | nil => exact ⟨_, rfl, .inl rfl, fun _ => rfl⟩
  | cons event events ih =>
    obtain ⟨discovery, hclient, hretires, hstays⟩ := ih (c.followEvent event)
    rw [List.foldl_cons, List.foldl_cons, hclient, List.mem_cons, not_or]
    cases event with
    | changed property value =>
      have hthen : c.followEvent (.changed property value) =
          c.setServices (listed c.registry.services (.changed property value)) := by
        dsimp only [followEvent, listed]
        split <;> rfl
      rw [hthen] at hretires hstays ⊢
      exact ⟨discovery, rfl, hretires, fun hnone => hstays hnone.2⟩
    | ended => exact ⟨discovery, rfl, .inr (hretires.elim id id), fun hnone => absurd rfl hnone.1⟩

theorem follow_client (c : Client) (stream : Nat) : ∃ discovery,
    c.follow stream =
      { { c with hub := c.hub.updateStream stream Stream.drain }.setServices
          ((Stream.eventsOf c.hub.streams stream).foldl listed c.registry.services) with discovery } ∧
      (discovery = none ∨ discovery = c.discovery ∧ c.hub.isClosed stream = false) ∧
      (.ended ∉ Stream.eventsOf c.hub.streams stream → c.hub.isClosed stream = false →
        discovery = c.discovery) := by
  obtain ⟨discovery, hclient, hretires, hstays⟩ := foldl_followEvent (Stream.eventsOf c.hub.streams stream)
    { c with hub := c.hub.updateStream stream Stream.drain }
  unfold follow
  dsimp only
  rw [hclient]
  split
  · rename_i hclosed
    have hclosed : c.hub.isClosed stream = true := hclosed
    exact ⟨none, rfl, .inl rfl, fun _ hopen => absurd (hopen.symm.trans hclosed) Bool.false_ne_true⟩
  · rename_i hopen
    refine ⟨discovery, rfl, ?_, fun hnone _ => hstays hnone⟩
    exact hretires.symm.imp_right fun heq => ⟨heq, Bool.eq_false_iff.2 hopen⟩

theorem follow_aside (c : Client) (stream : Nat) :
    c.SameEntries (c.follow stream) ∧
      ((c.follow stream).discovery = c.discovery ∨ (c.follow stream).discovery = none) := by
  obtain ⟨discovery, hclient, hretires, -⟩ := follow_client c stream
  rw [hclient]
  exact ⟨⟨rfl, rfl⟩, hretires.symm.imp_left And.left⟩

theorem learn_follow_aside (c : Client) (info : SubscriptionInfo) :
    let following : Client := { c.learn info with discovery := some (.following info.stream) }
    c.SameEntries (following.follow info.stream) ∧
      ((following.follow info.stream).discovery = some (.following info.stream) ∨
        (following.follow info.stream).discovery = none) := by
  intro following
  obtain ⟨hentries, hdiscovery⟩ := following.follow_aside info.stream
  have hlearnt : c.SameEntries following :=
    ⟨(sameEntries_learn c info).entries, (sameEntries_learn c info).generation⟩
  exact ⟨hlearnt.trans hentries, hdiscovery⟩

theorem failDiscovery_client (c : Client) (cause : SubscriptionError) : ∃ services,
    c.failDiscovery cause = { c.setServices services with discovery := none } := by
  unfold failDiscovery
  dsimp only
  split
  · exact ⟨c.registry.services, rfl⟩
  · exact ⟨.empty, rfl⟩

theorem failDiscovery_aside (c : Client) (cause : SubscriptionError) :
    c.SameEntries (c.failDiscovery cause) ∧ (c.failDiscovery cause).discovery = none := by
  obtain ⟨services, hclient⟩ := failDiscovery_client c cause
  rw [hclient]
  exact ⟨⟨rfl, rfl⟩, rfl⟩

end Client
end ServiceLink
