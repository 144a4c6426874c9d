import ServiceLink.Proofs.Client.Reserving
import ServiceLink.Proofs.Link.Posting

/-! What a client sends beside calls. While its socket stays, the server is told of nothing but subscriptions
that end at the wish of their subscribers, unless a caller sends a notification himself. -/

namespace ServiceLink

namespace Client

/-- The `Unsubscribe` notification to a service. -/
def unsubscription (path : String) : Rpc.Notification := { method := path ++ unsubscribeMethod, params := none }

end Client

/-- The notifications that `unsubscribe` sends for an entry. -/
def Entry.farewell (e : Entry) : List Rpc.Notification :=
  if e.hasMethod Client.unsubscribeMethod then [Client.unsubscription e.path] else []

namespace Client

open Link (Posts)

variable {c c' : Client} {d : Deed}

/-- An action that does not replace or close the socket. -/
def Action.KeepsSocket : Action → Prop
  | .openSocket | .deafen | .shutdown => False
  | _ => True

/-- A caller calls `notify` or sends a batch. -/
def Action.IsNotifying : Action → Prop
  | .notify _ _ _ | .batch _ => True
  | _ => False

namespace Deed

def KeepsSocket (d : Deed) : Prop := ∀ a ∈ d.action?, a.KeepsSocket

def IsNotifying (d : Deed) : Prop := ∃ a ∈ d.action?, a.IsNotifying

end Deed

/-- The entry that `unsubscribe` ends in a deed. -/
def dismissed? (c : Client) (d : Deed) : Option Entry :=
  match d.action? with
  | some (.unsubscribe service) => c.registry.entry? service
  | _ => none

theorem service_of_dismissed {e : Entry} (h : c.dismissed? d = some e) :
    ∃ service, d.action? = some (.unsubscribe service) ∧ c.registry.entry? service = some e := by
  unfold dismissed? at h
  split at h
  · exact ⟨_, ‹_›, h⟩
  · cases h

/-! ### Actions -/

theorem posts_abortDiscovery (c : Client) : c.link.Posts [] c.abortDiscovery.link := by
  obtain ⟨calls, hlink⟩ := abortDiscovery_link c
  exact .of_same (congrArg (·.writer) hlink) (congrArg (·.outbound) hlink)

theorem posts_handleConnected (c : Client) : c.link.Posts [] c.handleConnected.link := posts_abortDiscovery c

theorem posts_handleDisconnected (c : Client) : c.link.Posts [] c.handleDisconnected.link :=
  (posts_abortDiscovery c).then (Link.posts_rewired (rewired_handleDisconnected c))

theorem posts_unsubscribe (hlive : c.link.writer = .live) (service : String) :
    c.link.Posts ((c.registry.entry? service).elim [] Entry.farewell) (c.unsubscribe service).link := by
  unfold unsubscribe
  cases c.registry.entry? service with
  | none => exact .refl _
  | some e =>
    have hunbound := Link.posts_rewired (e.rewired_unbind c.hub.link)
    dsimp only [Option.elim, Entry.farewell]
    split
    · exact hunbound.then (Link.posts_notify (hunbound.writer.trans hlive) _)
    · exact hunbound

theorem posts_linked {a : Action} {l : Link.Action Handler} (hlinks : a.Links c l) (hkeeps : a.KeepsSocket) :
    ∃ sent, c.link.Posts sent (c.link.act c.now l).2 ∧ (¬ a.IsNotifying → sent = []) := by
  have hnone : ∀ {link : Link Handler}, c.link.Posts [] link → ∃ sent, c.link.Posts sent link ∧
      (¬ a.IsNotifying → sent = []) := fun hposts => ⟨[], hposts, fun _ => rfl⟩
  cases hlinks with
  | deafen => exact absurd hkeeps id
  | moveTo s => exact hnone (Link.posts_moveTo _ s)
  | start => exact hnone (Link.posts_start _)
  | stop => exact hnone (Link.posts_stop _)
  | call service method params target => exact hnone (Link.posts_call _ c.now target params)
  | notify service method params target =>
    obtain ⟨sent, hposts⟩ := Link.posts_settles (Link.notify_settles c.link c.now target params)
    exact ⟨sent, hposts, fun hsilent => absurd trivial hsilent⟩
  | batch calls entries =>
    obtain ⟨sent, hposts⟩ := Link.posts_settles (Link.batch_settles c.link c.now entries)
    exact ⟨sent, hposts, fun hsilent => absurd trivial hsilent⟩
  | listen method => exact hnone (Link.posts_rewired (Link.rewired_listen _ _ _))
  | unlisten => exact hnone (Link.posts_rewired (Link.rewired_unlisten _ _))

theorem dismissed?_of_isPlain {a : Action} (h : a.IsPlain) (broken : List Waiting) :
    c.dismissed? (.acted a broken) = none := by
  unfold dismissed?
  split
  · rename_i service heq
    exact absurd (Option.some.inj heq) (h.ends service)
  · rfl

theorem Acts.posts {a : Action} (hacts : Acts c a c') (hlive : c.link.writer = .live)
    (hkeeps : a.KeepsSocket) (broken : List Waiting) :
    ∃ sent, c.link.Posts sent c'.link ∧
      (¬ a.IsNotifying → sent = (c.dismissed? (.acted a broken)).elim [] Entry.farewell) := by
  have hnone : ∀ {l : Link Handler}, c.link.Posts [] l → ∃ sent, c.link.Posts sent l ∧
      (¬ a.IsNotifying → sent = []) := fun hposts => ⟨[], hposts, fun _ => rfl⟩
  cases hacts with
  | aside hplain =>
    rw [dismissed?_of_isPlain hplain]
    exact hnone (.refl _)
  | linked hlinks =>
    rw [dismissed?_of_isPlain hlinks.isPlain]
    exact posts_linked hlinks hkeeps
  | take ticket => exact hnone (.of_same rfl rfl)
  | forget ticket => exact hnone (.of_same rfl rfl)
  | cancel tag =>
    obtain ⟨calls, results, hclient⟩ := cancel_client c tag
    rw [hclient]
    exact hnone (.of_same rfl rfl)
  | letGo tag =>
    unfold dropHeld
    split <;> exact hnone (.refl _)
  | unsubscribe service => exact ⟨_, posts_unsubscribe hlive service, fun _ => rfl⟩
  | frame text =>
    have hheard : (c.link.handleFrame text).Posts [] (c.handleFrame text).link := .of_same rfl rfl
    exact hnone ((Link.posts_handleFrame _ text).then hheard)
  | connected => exact hnone (posts_handleConnected c)
  | disconnected => exact hnone (posts_handleDisconnected c)
  | openSocket => exact absurd hkeeps id
  | shutdown => exact absurd hkeeps id

/-! ### Turns -/

theorem Opening.posts {service : String} {requested : List String}
    {result : Except SubscriptionError (Nat × Ticket)} (h : Opening c service requested result c') :
    c.link.Posts [] c'.link := by
  cases h with
  | unknown => exact .refl _
  | already => exact .refl _
  | @unsent d cause link _ _ hcall =>
    have hposts := Link.posts_call c.link c.now (d.path ++ subscribeMethod) none
    rwa [hcall] at hposts
  | @asked d receipt link _ _ hcall =>
    have hposts := Link.posts_call c.link c.now (d.path ++ subscribeMethod) none
    rwa [hcall] at hposts

theorem Continuing.posts {service : String} {generation : Nat} {ticket : Ticket}
    {result : Option (Except SubscriptionError SubscriptionInfo)}
    (h : Continuing c service generation ticket result c') : c.link.Posts [] c'.link := by
  have htaken : c.link.Posts [] (c.takeOutcome ticket).2.link := .of_same rfl rfl
  cases h with
  | established =>
    exact htaken.then (Link.posts_rewired (Hub.rewired_establish _ _ _ _))
  | closed => exact htaken.then (.of_same rfl rfl)
  | _ => exact htaken

theorem posts_failDiscovery (c : Client) (cause : SubscriptionError) :
    c.link.Posts [] (c.failDiscovery cause).link := by
  obtain ⟨services, hclient⟩ := failDiscovery_client c cause
  rw [hclient]
  exact .refl _

theorem posts_follow (c : Client) (stream : Nat) : c.link.Posts [] (c.follow stream).link := by
  obtain ⟨discovery, hclient, -⟩ := follow_client c stream
  rw [hclient]
  exact .refl _

theorem posts_learn (c : Client) (info : SubscriptionInfo) : c.link.Posts [] (c.learn info).link := by
  obtain ⟨registry, link, hclient, -, -, hlink⟩ := learn_client c info
  rw [hclient]
  rcases hlink with rfl | ⟨rfl, -⟩
  · exact .refl _
  · exact Link.posts_markReady _

theorem Turn.posts {result : Option (Except SubscriptionError SubscriptionInfo)} (h : Turn c result c') :
    c.link.Posts [] c'.link := by
  cases h with
  | idle => exact .refl _
  | asked _ hopening => exact hopening.posts
  | @refused cause c₁ _ hopening => exact hopening.posts.then (posts_failDiscovery c₁ cause)
  | waits _ hcontinuing => exact hcontinuing.posts
  | @failed _ _ cause c₁ _ hcontinuing => exact hcontinuing.posts.then (posts_failDiscovery c₁ cause)
  | @learnt _ _ info c₁ _ hcontinuing =>
    have hlearnt := hcontinuing.posts.then (posts_learn c₁ info)
    exact hlearnt.then (posts_follow { c₁.learn info with discovery := some (.following info.stream) } _)
  | @followed stream => exact posts_follow c stream

theorem Works.posts {tag : String} {job : Job} (h : Works c tag job c') : c.link.Posts [] c'.link := by
  have htaken : ∀ ticket, c.link.Posts [] (c.takeOutcome ticket).2.link := fun _ => .of_same rfl rfl
  have hdescribed : ∀ {service result c₁}, c.beginDescription service = (result, c₁) →
      c.link.Posts [] c₁.link := by
    intro service result c₁ hbegin
    have hbegun : c.link.Posts [] (c.beginDescription service).2.link := by
      dsimp only [beginDescription, Client.call]
      split
      · exact .refl _
      · exact Link.posts_call _ _ _ _
    rwa [hbegin] at hbegun
  cases h with
  | asked hopening => exact hopening.posts
  | refused hopening => exact hopening.posts
  | waits hcontinuing => exact hcontinuing.posts
  | @ended _ _ _ result c₁ hcontinuing =>
    obtain ⟨results, held, streams, hended⟩ := endSubscription_client c₁ tag result
    rw [hended]
    exact hcontinuing.posts
  | describes hbegin =>
    have hposts := hdescribed hbegin
    exact hposts
  | unsent hbegin =>
    have hposts := hdescribed hbegin
    exact hposts
  | looked => exact htaken _
  | described => exact htaken _
  | rejected => exact htaken _

/-- On a live socket a deed sends nothing but the end of the subscription it ends, unless a caller notifies. -/
theorem Does.posts (h : Does c d c') (hlive : c.link.writer = .live) (hkeeps : d.KeepsSocket) :
    ∃ sent, c.link.Posts sent c'.link ∧ (¬ d.IsNotifying → sent = (c.dismissed? d).elim [] Entry.farewell) := by
  cases h with
  | @acted a ha =>
    obtain ⟨sent, hposts, hsent⟩ := (act_acts c ha).posts hlive (hkeeps a rfl) (c.brokenBy a)
    exact ⟨sent, hposts, fun hsilent => hsent fun hnotifying => hsilent ⟨a, rfl, hnotifying⟩⟩
  | advanced ms => exact ⟨[], .refl _, fun _ => rfl⟩
  | told s =>
    refine ⟨[], ?_, fun _ => rfl⟩
    cases s with
    | connected => exact posts_handleConnected c
    | notConnected => exact posts_handleDisconnected c
    | _ => exact .refl _
  | emptied => exact ⟨[], .of_same rfl rfl, fun _ => rfl⟩
  | polled =>
    refine ⟨[], ?_, fun _ => rfl⟩
    unfold runMonitor
    split
    · exact .refl _
    · exact Link.Monitor.posts_act _ _ _ _
  | discovered => exact ⟨[], (runDiscovery_turn c).posts, fun _ => rfl⟩
  | @worked before after tag job =>
    exact ⟨[], (runJob_works (c.withJobs (before ++ after)) tag job).posts, fun _ => rfl⟩
  | swept time => exact ⟨[], Link.posts_sweepIfDue _ time, fun _ => rfl⟩
  | timed time => exact ⟨[], .refl _, fun _ => rfl⟩

end Client
end ServiceLink
