import ServiceLink.Rpc.Message

/-! Event streams: what a subscriber is told, in order. -/

namespace ServiceLink

inductive Event
  | changed (property : String) (value : Json)
  /-- The connection closed; the subscription is no more. -/
  | ended
deriving Inhabited

structure Stream where
  id : Nat
  /-- Not yet taken. -/
  events : List Event := []
  /-- Whether the receiving end is still held. -/
  isHeld : Bool := true
deriving Inhabited

namespace Stream

/-- What is sent after the receiving end is gone is lost. -/
def send (s : Stream) (e : Event) : Stream :=
  if s.isHeld then { s with events := s.events ++ [e] } else s

/-- The subscriber takes all events. -/
def drain (s : Stream) : Stream := { s with events := [] }

/-- The receiving end goes, and with it the events in it. -/
def release (s : Stream) : Stream := { s with events := [], isHeld := false }

/-- Act on the stream with an id. -/
def update (streams : List Stream) (id : Nat) (f : Stream → Stream) : List Stream :=
  streams.map fun s => if s.id = id then f s else s

def eventsOf (streams : List Stream) (id : Nat) : List Event :=
  (streams.filter (·.id = id)).flatMap (·.events)

end Stream
end ServiceLink
