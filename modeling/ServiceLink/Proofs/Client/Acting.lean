import ServiceLink.Client.Action

/-! What an action of a client comes to, before the client settles. Most actions come to one action on the link,
and those of the host or for a job do not reach the link at all. -/

namespace ServiceLink.Client

variable {c : Client}

namespace Action

def messages : Action → List Rpc.Message
  | .frame text => (Rpc.Frame.read text).messages
  | _ => []

def onJobs (jobs : List (String × Job)) : Action → List (String × Job)
  | .subscribe tag service properties => jobs ++ [(tag, .subscribe service properties)]
  | .describe tag service => jobs ++ [(tag, .describe service)]
  | .cancel tag => jobs.filter (·.1 ≠ tag)
  | _ => jobs

def onMonitor (m : Link.Monitor) : Action → Link.Monitor
  | .setVisible visible => m.tell visible
  | .released => m.release
  | _ => m

def IsOrdinary : Action → Prop
  | .advance _ | .connected | .disconnected | .shutdown | .letGo _ | .frame _ => False
  | .moveTo s => s ≠ .ready
  | _ => True

/-- Nothing comes from the server, and no subscription is ended. -/
structure IsPlain (a : Action) : Prop where
  messages : a.messages = []
  ends : ∀ service, a ≠ .unsubscribe service

/-- The action on the link that an action comes to, unless it is refused before. -/
inductive Links (c : Client) : Action → Link.Action Handler → Prop
  | deafen : Links c .deafen .deafen
  | moveTo (s : Status) : Links c (.moveTo s) (.moveTo s)
  | start : Links c .start .start
  | stop : Links c .stop .stop
  | call (service method : String) (params : Option Json) (target : String) :
      Links c (.call service method params) (.call target params)
  | notify (service method : String) (params : Option Json) (target : String) :
      Links c (.notify service method params) (.notify target params)
  | batch (calls : List ServiceCall) (entries : List BatchEntry) : Links c (.batch calls) (.batch entries)
  | listen (method : String) : Links c (.listen method) (.listen method .caller)
  | unlisten {id : Nat} : c.isCallersListener id → Links c (.unlisten id) (.unlisten id)

theorem Links.isPlain {a : Action} {l : Link.Action Handler} (h : a.Links c l) : a.IsPlain := by
  cases h <;> exact ⟨rfl, nofun⟩

theorem Links.onJobs {a : Action} {l : Link.Action Handler} (h : a.Links c l) (jobs : List (String × Job)) :
    a.onJobs jobs = jobs := by
  cases h <;> rfl

end Action

/-- A client without background work and without its socket. -/
def unhosted (c : Client) : Client :=
  ({ c with monitor := none, isWatching := false } : Client).mapLink fun l => l.stop.shutdown

/-- The outcomes of `act` for the actions that let no time pass. -/
inductive Acts (c : Client) : Action → Client → Prop
  | aside {a : Action} {visible : Bool} {monitor : Option Link.Monitor} : a.IsPlain →
      a.IsOrdinary → monitor = c.monitor ∨ monitor = c.monitor.map a.onMonitor →
      Acts c a { c with visible, monitor, jobs := a.onJobs c.jobs }
  | linked {a : Action} {l : Link.Action Handler} : a.Links c l →
      Acts c a (c.mapLink fun link => (link.act c.now l).2)
  | take (ticket : Ticket) : Acts c (.take ticket) (c.takeOutcome ticket).2
  | forget (ticket : Ticket) : Acts c (.forget ticket) (c.forget ticket)
  | cancel (tag : String) : Acts c (.cancel tag) (c.cancel tag)
  | letGo (tag : String) : Acts c (.letGo tag) (c.dropHeld tag)
  | unsubscribe (service : String) : Acts c (.unsubscribe service) (c.unsubscribe service)
  | openSocket : Acts c .openSocket c.openSocket
  | frame (text : String) : Acts c (.frame text) (c.handleFrame text)
  | connected : Acts c .connected c.handleConnected
  | disconnected : Acts c .disconnected c.handleDisconnected
  | shutdown : Acts c .shutdown c.unhosted.handleDisconnected

theorem act_acts (c : Client) {a : Action} (ha : ∀ ms, a ≠ .advance ms) : Acts c a (c.act a).2 := by
  have hidle : ∀ {a : Action}, a.IsPlain → a.IsOrdinary → a.onJobs c.jobs = c.jobs → Acts c a c := by
    intro a hplain hordinary hjobs
    have haside : Acts c a { c with jobs := a.onJobs c.jobs } := .aside hplain hordinary (.inl rfl)
    rwa [hjobs] at haside
  cases a with
  | setVisible visible =>
    dsimp only [act, setVisible]
    split
    · exact hidle ⟨rfl, nofun⟩ trivial rfl
    · exact .aside ⟨rfl, nofun⟩ trivial (.inr rfl)
  | released => exact .aside ⟨rfl, nofun⟩ trivial (.inr rfl)
  | subscribe tag service properties => exact .aside ⟨rfl, nofun⟩ trivial (.inl rfl)
  | describe tag service => exact .aside ⟨rfl, nofun⟩ trivial (.inl rfl)
  | deafen => exact .linked .deafen
  | moveTo s => exact .linked (.moveTo s)
  | start => exact .linked .start
  | stop => exact .linked .stop
  | call service method params =>
    dsimp only [act, Client.call]
    split
    · exact hidle ⟨rfl, nofun⟩ trivial rfl
    · exact .linked (.call service method params _)
  | notify service method params =>
    dsimp only [act, Client.notify]
    split
    · exact hidle ⟨rfl, nofun⟩ trivial rfl
    · exact .linked (.notify service method params _)
  | batch calls => exact .linked (.batch calls _)
  | listen method => exact .linked (.listen method)
  | unlisten id =>
    dsimp only [act]
    split
    · exact .linked (.unlisten ‹_›)
    · exact hidle ⟨rfl, nofun⟩ trivial rfl
  | take ticket => exact .take ticket
  | forget ticket => exact .forget ticket
  | cancel tag => exact .cancel tag
  | letGo tag => exact .letGo tag
  | unsubscribe service => exact .unsubscribe service
  | openSocket => exact .openSocket
  | frame text => exact .frame text
  | connected => exact .connected
  | disconnected => exact .disconnected
  | shutdown => exact .shutdown
  | advance ms => exact absurd rfl (ha ms)

theorem cancel_client (c : Client) (tag : String) :
    ∃ calls results, c.cancel tag =
      { c.mapLink fun l => { l with calls } with results, jobs := c.jobs.filter (·.1 ≠ tag) } := by
  have habandoned : ∀ (jobs : List (String × Job)) (c : Client), ∃ calls results,
      jobs.foldl (fun c job => (c.abandon job.2).addResult tag .cancelled) c =
        { c.mapLink fun l => { l with calls } with results } := by
    intro jobs
    induction jobs with
    | nil => exact fun c => ⟨_, _, rfl⟩
    | cons job jobs ih =>
      intro c
      obtain ⟨calls, results, hrest⟩ := ih ((c.abandon job.2).addResult tag .cancelled)
      refine ⟨calls, results, hrest.trans ?_⟩
      cases job.2 <;> rfl
  exact habandoned _ _

end ServiceLink.Client
