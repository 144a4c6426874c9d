import ServiceLink.Client.Basic

/-! The learning of the services after each connection, and the forgetting of them after each
disconnection. -/

namespace ServiceLink.Client

def listProperty : String := "serviceList"

def formatsProperty : String := "returnFormats"

def protocolsProperty : String := "webSocketProtocols"

/-- Break off the discovery. Its subscription stays entered. -/
def abortDiscovery (c : Client) : Client :=
  match c.discovery with
  | some (.acknowledgement _ ticket) => { c.forget ticket with discovery := none }
  | some (.following stream) =>
    { c with discovery := none, hub := c.hub.updateStream stream Stream.release }
  | _ => { c with discovery := none }

/-- The socket opened: learn the services anew. -/
def handleConnected (c : Client) : Client := { c.abortDiscovery with discovery := some .subscribe }

/-- The socket closed: forget the services and end the subscriptions. -/
def handleDisconnected (c : Client) : Client :=
  let c := c.abortDiscovery
  let entries := c.registry.entries.values
  let c := c.mapRegistry (·.reset)
  { c with hub := c.hub.closeAll entries }

def setServices (c : Client) (services : ServiceList) : Client :=
  c.mapRegistry fun r => { r with services }

/-- Take on what the discovery service acknowledged. Without a service list nothing is known. -/
def learn (c : Client) (info : SubscriptionInfo) : Client :=
  let value := fun property => (info.properties.find? property).map (·.value)
  match value listProperty with
  | none => c.setServices .empty
  | some list =>
    let c := c.mapRegistry fun r =>
      { r with
        services := .read list
        formats := (value formatsProperty).map ReturnFormat.readList
        protocols := (value protocolsProperty).map SocketProtocol.readList }
    c.mapLink (·.markReady)

/-- Take on the pushed changes of the service list. -/
def followEvent (c : Client) : Event → Client
  | .changed property value =>
    if property = listProperty then c.setServices (.read value) else c
  | .ended => { c with discovery := none }

/-- Take on the events of the discovery subscription, until it ends or can bring none any more. -/
def follow (c : Client) (stream : Nat) : Client :=
  let events := Stream.eventsOf c.hub.streams stream
  let c := { c with hub := c.hub.updateStream stream Stream.drain }
  let c := events.foldl followEvent c
  if c.hub.isClosed stream then { c with discovery := none } else c

/-- A discovery that fails leaves no services; one whose connection closed leaves them as they are. -/
def failDiscovery (c : Client) (cause : SubscriptionError) : Client :=
  let c := { c with discovery := none }
  match cause with
  | .closed _ => c
  | _ => c.setServices .empty

/-- Go on with the discovery as far as it can go now. -/
def runDiscovery (c : Client) : Client :=
  match c.discovery with
  | none => c
  | some .subscribe =>
    match c.beginSubscription ServiceList.discoveryName [listProperty] with
    | (.ok (generation, ticket), c) =>
      { c with discovery := some (.acknowledgement generation ticket) }
    | (.error cause, c) => c.failDiscovery cause
  | some (.acknowledgement generation ticket) =>
    match c.continueSubscription ServiceList.discoveryName generation ticket with
    | (none, c) => c
    | (some (.error cause), c) => c.failDiscovery cause
    | (some (.ok info), c) =>
      { c.learn info with discovery := some (.following info.stream) }.follow info.stream
  | some (.following stream) => c.follow stream

end ServiceLink.Client
