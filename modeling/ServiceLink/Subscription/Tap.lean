import ServiceLink.Link.Basic
import ServiceLink.Subscription.Stream

/-! Taps: what the listeners of feeds do with the pushes of a server. Callers may listen on the same link
for themselves; their listeners are no taps. -/

namespace ServiceLink

/-- What a listener of a feed does with a push: keep a property current, and tell a stream. -/
structure Tap where
  feed : Nat
  property : String
  stream : Nat
deriving DecidableEq, Repr, Inhabited

namespace Tap

/-- The value a push carries: the member `value` if there is one, else the parameters as a whole. -/
def pushedValue (n : Rpc.Notification) : Json :=
  match n.params with
  | none => .null
  | some params => (params.get? "value").getD params

def event (t : Tap) (n : Rpc.Notification) : Event := .changed t.property (pushedValue n)

end Tap

/-- Who listens on a link: a feed, or a caller for himself. -/
inductive Handler
  | tap (t : Tap)
  | caller
deriving DecidableEq, Repr, Inhabited

namespace Handler

def tap? : Handler → Option Tap
  | .tap t => some t
  | .caller => none

def isCaller : Handler → Bool
  | .caller => true
  | .tap _ => false

end Handler

/-- A push with the tap it comes through. -/
abbrev Push := Tap × Rpc.Notification

/-- The pushes among the deliveries of a link. -/
def Link.pushes (l : Link Handler) : List Push :=
  l.deliveries.filterMap fun d => d.1.tap?.map (·, d.2)

/-- What is left once the pushes were heard: the deliveries to callers. -/
def Link.withoutPushes (l : Link Handler) : Link Handler :=
  { l with deliveries := l.deliveries.filter (·.1.isCaller) }

/-- Whether a listener of the link feeds a stream. -/
def Link.feedsStream (l : Link Handler) (stream : Nat) : Bool :=
  l.listeners.any fun listener => listener.handler.tap?.any (·.stream = stream)

/-- A stream hears the pushes of its taps in order. -/
def Stream.hear (s : Stream) (pushes : List Push) : Stream :=
  pushes.foldl (fun s push => if push.1.stream = s.id then s.send (push.1.event push.2) else s) s

end ServiceLink
