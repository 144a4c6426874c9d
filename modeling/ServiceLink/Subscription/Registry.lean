import ServiceLink.Subscription.Feed

/-! The registry of a client: the services it knows, what discovery told, and at most one subscription
for each service. Subscriptions are numbered, so that a late answer to an old one is told from an
answer to its successor. -/

namespace ServiceLink

/-- What an acknowledged subscription has. -/
structure Live where
  schema : Schema
  feed : Feed
deriving Inhabited

structure Entry where
  generation : Nat
  path : String
  requested : List String
  /-- From the acknowledgement on. -/
  live : Option Live := none
deriving Inhabited

namespace Entry

def isLive (e : Entry) : Bool := e.live.isSome

def hasMethod (e : Entry) (method : String) : Bool := e.live.any (·.schema.hasMethod method)

/-- The properties with their latest values. -/
def properties? (e : Entry) : Option (Dict PropertyDescriptor) := e.live.map (·.feed.properties)

def methods? (e : Entry) : Option (Dict MethodSignature) := e.live.map (·.schema.methods)

/-- Take the listeners off the link. -/
def unbind (e : Entry) (l : Link Handler) : Link Handler :=
  match e.live with
  | some live => (live.feed.unbind l).2
  | none => l

def hear (e : Entry) (pushes : List Push) : Entry :=
  { e with live := e.live.map fun live => { live with feed := live.feed.hear pushes } }

end Entry

structure Registry where
  services : ServiceList := .bootstrap
  entries : Dict Entry := .empty
  formats : Option (List ReturnFormat) := none
  protocols : Option (List SocketProtocol) := none
  /-- The generation given last. -/
  generation : Nat := 0
  /-- The id of the next feed. -/
  nextFeed : Nat := 0
deriving Inhabited

namespace Registry

def entry? (r : Registry) (service : String) : Option Entry := r.entries.find? service

/-- The outbound name of a method: a live subscription that advertises it gives the path, else the
service list does. -/
def target? (r : Registry) (service method : String) : Option String :=
  match (r.entry? service).filter (·.hasMethod method) with
  | some e => some (e.path ++ method)
  | none => (r.services.find? service).map (·.path ++ method)

/-- Enter a subscription under the next generation. -/
def insert (r : Registry) (service path : String) (requested : List String) : Registry :=
  let generation := r.generation + 1
  { r with generation, entries := r.entries.insert service { generation, path, requested } }

def erase (r : Registry) (service : String) : Registry :=
  { r with entries := r.entries.erase service }

/-- The subscription to a service, if it is the one with this generation. -/
def current? (r : Registry) (service : String) (generation : Nat) : Option Entry :=
  (r.entry? service).filter (·.generation = generation)

/-- Take back a failed subscription, unless a newer one took its place. -/
def discard (r : Registry) (service : String) (generation : Nat) : Registry :=
  if (r.current? service generation).isSome then r.erase service else r

/-- Whether a subscription with this generation is entered. -/
def holds (r : Registry) (generation : Nat) : Bool :=
  r.entries.values.any (·.generation = generation)

/-- Make a subscription live: its requested properties are bound on a feed of its own. -/
def establish (r : Registry) (l : Link Handler) (service : String) (e : Entry) (schema : Schema) :
    Feed × Registry × Link Handler :=
  let feed : Feed := { id := r.nextFeed, path := e.path, properties := schema.properties }
  let (feed, l) := feed.bind l e.generation e.requested
  (feed,
    { r with
      nextFeed := r.nextFeed + 1
      entries := r.entries.insert service { e with live := some { schema, feed } } }, l)

/-- Back to the bootstrap catalog, without subscriptions. -/
def reset (r : Registry) : Registry :=
  { r with services := .bootstrap, entries := .empty, formats := none, protocols := none }

def hear (r : Registry) (pushes : List Push) : Registry :=
  { r with entries := r.entries.map (·.hear pushes) }

end Registry
end ServiceLink
