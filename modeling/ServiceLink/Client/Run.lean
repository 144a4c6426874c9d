import ServiceLink.Client.Discovery

/-! A client in time. It is settled when nothing more can happen before time goes on. -/

namespace ServiceLink.Client

/-! ### Jobs -/

def addResult (c : Client) (tag : String) (result : JobResult) : Client :=
  { c with results := c.results ++ [(tag, result)] }

def addJob (c : Client) (tag : String) (job : Job) : Client :=
  { c with jobs := c.jobs ++ [(tag, job)] }

/-- The caller lets go of the subscription he holds under a tag. -/
def dropHeld (c : Client) (tag : String) : Client :=
  match c.held.find? tag with
  | none => c
  | some stream =>
    { c with held := c.held.erase tag, hub := c.hub.updateStream stream Stream.release }

/-- The caller gets a subscription, in place of one he held under the same tag. -/
def giveHeld (c : Client) (tag : String) (stream : Nat) : Client :=
  let c := c.dropHeld tag
  { c with held := c.held.insert tag stream }

def endSubscription (c : Client) (tag : String) :
    Except SubscriptionError SubscriptionInfo → Client
  | .ok info => (c.giveHeld tag info.stream).addResult tag (.subscribed info)
  | .error cause => c.addResult tag (.refused cause)

/-- Go on with a job as far as it can go now. -/
def runJob (c : Client) (tag : String) (job : Job) : Client :=
  match job with
  | .subscribe service requested =>
    match c.beginSubscription service requested with
    | (.ok (generation, ticket), c) => c.addJob tag (.acknowledgement service generation ticket)
    | (.error cause, c) => c.endSubscription tag (.error cause)
  | .acknowledgement service generation ticket =>
    match c.continueSubscription service generation ticket with
    | (none, c) => c.addJob tag job
    | (some result, c) => c.endSubscription tag result
  | .describe service =>
    match c.beginDescription service with
    | (.ok ticket, c) => c.addJob tag (.description ticket)
    | (.error cause, c) => c.addResult tag (.failed cause)
  | .description ticket =>
    match c.takeOutcome ticket with
    | (none, c) => c.addJob tag job
    | (some (.ok value), c) => c.addResult tag (.described (.read value))
    | (some (.error cause), c) => c.addResult tag (.failed (.call cause))

/-- Each job goes on once, in order. -/
def runJobs (c : Client) : Client :=
  c.jobs.foldl (fun c job => c.runJob job.1 job.2) { c with jobs := [] }

/-- Whoever waited no longer does. An entered subscription stays entered. -/
def abandon (c : Client) : Job → Client
  | .acknowledgement _ _ ticket | .description ticket => c.forget ticket
  | _ => c

/-- Cancel the jobs under a tag. -/
def cancel (c : Client) (tag : String) : Client :=
  let cancelled := c.jobs.filter (·.1 = tag)
  let c := { c with jobs := c.jobs.filter (·.1 ≠ tag) }
  cancelled.foldl (fun c job => (c.abandon job.2).addResult tag .cancelled) c

/-! ### Background -/

/-- The monitor acts on the link. -/
def runMonitor (c : Client) : Client :=
  match c.monitor with
  | none => c
  | some m =>
    let (m, c) := c.onLink (m.act c.now false)
    { c with monitor := some m }

def handleStatus (c : Client) : Status → Client
  | .connected => c.handleConnected
  | .notConnected => c.handleDisconnected
  | _ => c

/-- In the background the changes of status are acted on. -/
def runWatcher (c : Client) : Client :=
  if c.isWatching then
    c.link.events.foldl handleStatus (c.mapLink fun l => { l with events := [] })
  else c

/-- Let everything happen that can happen now. -/
def settle (c : Client) : Client := c.runMonitor.runWatcher.runDiscovery.runJobs

/-! ### Time -/

/-- What is due at a time happens, and takes no time. -/
def ring (c : Client) (t : Nat) : Client :=
  { ({ c with now := t }.mapLink (·.sweepIfDue t)).settle with now := t }

instance : Timed Client where
  now := now
  due? c := Timed.earliest? c.link.sweepTime? (c.monitor.bind (·.pollTime?))
  ring := ring
  wait c t := { c with now := t }
  now_ring _ _ := rfl

/-! ### The host -/

/-- A new socket was opened. -/
def openSocket (c : Client) : Client :=
  c.mapLink fun l => (l.attach.moveTo .connecting).moveTo .connected

/-- Tell the visibility of the host; only a change is passed on. -/
def setVisible (c : Client) (visible : Bool) : Client :=
  if c.visible = visible then c
  else { c with visible, monitor := c.monitor.map (·.tell visible) }

/-- End the background work and close the socket; the subscriptions end as on any disconnection. -/
def shutdown (c : Client) : Client :=
  let c := { c with monitor := none, isWatching := false }
  (c.mapLink fun l => l.stop.shutdown).handleDisconnected

def handleFrame (c : Client) (text : String) : Client := { c with hub := c.hub.handleFrame text }

/-- What the holder of a stream finds in it: its events, and whether more can come. -/
def streamNews (c : Client) (stream : Nat) : List Event × Bool :=
  (Stream.eventsOf c.hub.streams stream, c.hub.isClosed stream)

/-- The client once its queues were read. A held stream that can bring nothing more is let go. -/
def drain (c : Client) : Client :=
  let ended := c.held.entries.filter fun e => c.hub.isClosed e.2
  let c := ended.foldl (fun c e => c.dropHeld e.1) c
  let read := c.held.values
  { c with
    results := []
    hub :=
      { c.hub with
        link := c.link.drain
        streams := c.hub.streams.map fun s => if s.id ∈ read then s.drain else s } }

end ServiceLink.Client
