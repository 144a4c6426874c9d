import ServiceLink.Subscription.Registry

/-! A hub joins a link, the registry on it and the streams of its subscribers. The stream of a
subscription has its generation as id. -/

namespace ServiceLink

structure Hub where
  link : Link Handler
  registry : Registry := {}
  streams : List Stream := []

namespace Hub

/-- Hand the deliveries of the link to the feeds and the streams. -/
def hear (h : Hub) : Hub :=
  let pushes := h.link.pushes
  { link := h.link.withoutPushes
    registry := h.registry.hear pushes
    streams := h.streams.map (·.hear pushes) }

def handleFrame (h : Hub) (text : String) : Hub :=
  { h with link := h.link.handleFrame text }.hear

/-- Enter a subscription, with an empty stream. -/
def insert (h : Hub) (service path : String) (requested : List String) : Hub :=
  let registry := h.registry.insert service path requested
  { h with registry, streams := h.streams ++ [{ id := registry.generation }] }

/-- Make a subscription live. -/
def establish (h : Hub) (service : String) (e : Entry) (schema : Schema) : Hub :=
  let (_, registry, link) := h.registry.establish h.link service e schema
  { h with registry, link }

/-- End a subscription that was taken out of the registry. Its listeners go, and if it was live its
subscriber may be told. -/
def close (h : Hub) (e : Entry) (tells : Bool) : Hub :=
  { h with
    link := e.unbind h.link
    streams :=
      if tells ∧ e.isLive then Stream.update h.streams e.generation (·.send .ended) else h.streams }

/-- End subscriptions, telling the subscribers of the live ones. -/
def closeAll (h : Hub) (entries : List Entry) : Hub := entries.foldl (fun h e => h.close e true) h

/-- Nothing can be sent to a stream once its subscription and all its listeners are gone. -/
def isClosed (h : Hub) (generation : Nat) : Bool :=
  ¬ h.registry.holds generation ∧ ¬ h.link.feedsStream generation

def updateStream (h : Hub) (generation : Nat) (f : Stream → Stream) : Hub :=
  { h with streams := Stream.update h.streams generation f }

end Hub
end ServiceLink
