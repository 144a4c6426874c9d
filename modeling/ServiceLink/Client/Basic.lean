import ServiceLink.Client.Options
import ServiceLink.Link.Session
import ServiceLink.Subscription.Hub

/-! A client keeps a link to a server, learns its services, and gives out subscriptions and calls. Work
that waits for the server is held as a list of jobs and goes on when the client settles. -/

namespace ServiceLink

/-- What the server acknowledged, with its values at the time. -/
structure SubscriptionInfo where
  service : String
  version : String
  methods : Dict MethodSignature
  properties : Dict PropertyDescriptor
  /-- The stream of its events. -/
  stream : Nat

namespace Client

/-- Work for a caller, by what it waits for. -/
inductive Job
  | subscribe (service : String) (requested : List String)
  | acknowledgement (service : String) (generation : Nat) (ticket : Ticket)
  | describe (service : String)
  | description (ticket : Ticket)

inductive JobResult
  | subscribed (info : SubscriptionInfo)
  | refused (cause : SubscriptionError)
  | described (schema : Schema)
  | failed (cause : LinkError)
  | cancelled

/-- The learning of the services of one connection. -/
inductive Discovery
  | subscribe
  | acknowledgement (generation : Nat) (ticket : Ticket)
  /-- Following the pushed changes of the service list. -/
  | following (stream : Nat)

end Client

structure Client where
  hub : Hub
  endpoint : String
  options : Client.Options
  now : Nat := 0
  visible : Bool
  /-- Keeps the link open in the background. -/
  monitor : Option Link.Monitor := none
  /-- Whether the status events are acted on in the background. -/
  isWatching : Bool := false
  /-- The jobs under way, by the tag of their caller. -/
  jobs : List (String × Client.Job) := []
  results : List (String × Client.JobResult) := []
  discovery : Option Client.Discovery := none
  /-- The streams that callers hold, by tag. -/
  held : Dict Nat := .empty

namespace Client

/-- A client that acts on its own only when it is told to. -/
def new (endpoint : String) (options : Options) : Except LinkError Client := do
  options.check endpoint
  return { hub := { link := .new (options.linkSettings endpoint) }
           endpoint, options, visible := options.visible }

/-- A client that keeps its link open and acts on its status. -/
def inBackground (c : Client) : Client :=
  { c with
    monitor := some (.new c.options.reconnectEvery c.now c.visible)
    isWatching := true }

def link (c : Client) : Link Handler := c.hub.link

def registry (c : Client) : Registry := c.hub.registry

def mapLink (c : Client) (f : Link Handler → Link Handler) : Client :=
  { c with hub := { c.hub with link := f c.hub.link } }

def mapRegistry (c : Client) (f : Registry → Registry) : Client :=
  { c with hub := { c.hub with registry := f c.hub.registry } }

/-! ### Calls -/

/-- Use the link, and keep what becomes of it. -/
def onLink {α : Type} (c : Client) (f : Link Handler → α × Link Handler) : α × Client :=
  let (a, link) := f c.link
  (a, c.mapLink fun _ => link)

def call (c : Client) (service method : String) (params : Option Json) :
    Except LinkError Receipt × Client :=
  match c.registry.target? service method with
  | none => (.error (.unrecognizedCall service method), c)
  | some target => c.onLink (·.call c.now target params)

def notify (c : Client) (service method : String) (params : Option Json) :
    Except LinkError Unit × Client :=
  match c.registry.target? service method with
  | none => (.error (.unrecognizedCall service method), c)
  | some target => c.onLink (·.notify target params)

/-- One call of a batch to services. -/
structure ServiceCall where
  service : String
  method : String
  params : Option Json

/-- Give each target its receipt; a call without a target gets none. -/
def placeReceipts : List (Option String) → List (Option Receipt) → List (Option Receipt)
  | [], _ => []
  | none :: targets, receipts => none :: placeReceipts targets receipts
  | some _ :: targets, [] => none :: placeReceipts targets []
  | some _ :: targets, r :: receipts => r :: placeReceipts targets receipts

/-- Send the calls that are recognized as one frame. -/
def batch (c : Client) (calls : List ServiceCall) :
    Except LinkError (List (Option Receipt)) × Client :=
  let target := fun call : ServiceCall => c.registry.target? call.service call.method
  let entries := calls.filterMap fun call =>
    (target call).map fun method => ({ method, params := call.params } : BatchEntry)
  let (receipts, c) := c.onLink (·.batch c.now entries)
  (receipts.map (placeReceipts (calls.map target)), c)

/-! ### Subscriptions -/

def subscribeMethod : String := "Subscribe"

def unsubscribeMethod : String := "Unsubscribe"

/-- Enter a subscription and ask the server for it. -/
def beginSubscription (c : Client) (service : String) (requested : List String) :
    Except SubscriptionError (Nat × Ticket) × Client :=
  match c.registry.services.find? service with
  | none => (.error (.unknownService service), c)
  | some d =>
    if (c.registry.entry? service).isSome then (.error (.alreadySubscribed service), c)
    else
      let c := { c with hub := c.hub.insert service d.path requested }
      let generation := c.registry.generation
      match c.onLink (·.call c.now (d.path ++ subscribeMethod) none) with
      | (.ok receipt, c) => (.ok (generation, receipt.ticket), c)
      | (.error cause, c) =>
        (.error (.link service cause), c.mapRegistry (·.discard service generation))

/-- Take the outcome of a call, if it is there. -/
def takeOutcome (c : Client) (ticket : Ticket) : Option Outcome × Client :=
  c.onLink fun l =>
    let (outcome, calls) := l.calls.take ticket
    (outcome, { l with calls })

def forget (c : Client) (ticket : Ticket) : Client :=
  c.mapLink fun l => { l with calls := l.calls.forget ticket }

def noVersion : CallError := .invalidResponse "Subscribe acknowledgement carries no version"

/-- Make a subscription live with what the server acknowledged, if it is still the current one. -/
def acknowledge (c : Client) (service : String) (generation : Nat) (schema : Schema)
    (version : String) : Except SubscriptionError SubscriptionInfo × Client :=
  match c.registry.current? service generation with
  | none => (.error (.closed service), c)
  | some e =>
    (.ok { service, version, methods := schema.methods, properties := schema.properties
           stream := generation },
      { c with hub := c.hub.establish service e schema })

/-- Go on with a subscription that was asked for, once its call has an outcome or the subscription is
no longer entered. -/
def continueSubscription (c : Client) (service : String) (generation : Nat) (ticket : Ticket) :
    Option (Except SubscriptionError SubscriptionInfo) × Client :=
  match c.takeOutcome ticket with
  | (none, c) =>
    if (c.registry.current? service generation).isSome then (none, c)
    else (some (.error (.closed service)), c.forget ticket)
  | (some (.error cause), c) =>
    (some (.error (.rejected service cause)), c.mapRegistry (·.discard service generation))
  | (some (.ok ack), c) =>
    let schema := Schema.read ack
    match schema.version with
    | none =>
      (some (.error (.rejected service noVersion)), c.mapRegistry (·.discard service generation))
    | some version =>
      let (result, c) := c.acknowledge service generation schema version
      (some result, c)

/-- End a subscription. The server is told if the service has a method for that. -/
def unsubscribe (c : Client) (service : String) : Client :=
  match c.registry.entry? service with
  | none => c
  | some e =>
    let c := c.mapRegistry (·.erase service)
    let c := { c with hub := c.hub.close e false }
    if e.hasMethod unsubscribeMethod then
      c.mapLink fun l => (l.notify (e.path ++ unsubscribeMethod) none).2
    else c

/-! ### Descriptions -/

def describeMethod : String := "GetServiceDescription"

def beginDescription (c : Client) (service : String) : Except LinkError Ticket × Client :=
  let params := Json.object [("Service", .text service)]
  let (receipt, c) := c.call ServiceList.discoveryName describeMethod (some params)
  (receipt.map (·.ticket), c)

end Client
end ServiceLink
