import ServiceLink.Client.Basic
import ServiceLink.Proofs.Subscription.Hearing

/-! The attempts at subscriptions as processes beside one hub. An attempt enters its subscription, asks the
server, takes the answer and concludes, each in a move of its own, and between two of its moves anything
else may happen to the hub. -/

namespace ServiceLink

/-- How far an attempt has come. -/
inductive Stage
  | entered
  /-- The request could not be sent. -/
  | unasked (cause : LinkError)
  | asked (ticket : Ticket)
  | answered (outcome : Outcome)

structure Attempt where
  service : String
  path : String
  stage : Stage

/-- A hub, and the attempts under way by their generation. -/
structure Scene where
  hub : Hub
  attempts : Nat → Option Attempt

inductive Move
  /-- An event of other calls. -/
  | calls (e : Calls.Event)
  | message (m : Rpc.Message)
  /-- The socket, the status, the timer or the catalog changes. -/
  | aside
  /-- A caller listens for himself. -/
  | listened (method : String)
  | unlistened (id : Nat)
  | refused (cause : SubscriptionError)
  | entered (generation : Nat) (service path : String) (requested : List String)
  | unasked (generation : Nat) (cause : LinkError)
  | asked (generation now : Nat) (receipt : Receipt)
  | answered (generation : Nat) (ticket : Ticket) (outcome : Outcome)
  | ended (generation : Nat) (result : Except SubscriptionError SubscriptionInfo)
  | unsubscribed (service : String)
  | disconnected
  | released (stream : Nat)
  | drained (stream : Nat)

namespace Move

/-- The events that a move holds for the calls of the link. -/
def callEvents : Move → List Calls.Event
  | .calls e => [e]
  | .message m => [.message m]
  | .unasked _ _ => [.unsent]
  | .asked _ now receipt => [.sent now [receipt]]
  | .answered _ ticket _ => [.looked ticket]
  | _ => []

/-- The generation of the attempt that makes a move. -/
def attempt? : Move → Option Nat
  | .unasked generation _ | .asked generation _ _ | .answered generation _ _
  | .ended generation _ => some generation
  | _ => none

def message? : Move → Option Rpc.Message
  | .message m => some m
  | _ => none

end Move

/-- What an attempt makes of the answer to its request: how it ends, and the hub then. -/
inductive Hub.Concluded (h : Hub) (service : String) (generation : Nat) :
    Outcome → Except SubscriptionError SubscriptionInfo → Hub → Prop
  | rejected (cause : CallError) :
      Concluded h service generation (.error cause) (.error (.rejected service cause))
        { h with registry := h.registry.discard service generation }
  | unversioned {ack : Json} : (Schema.read ack).version = none →
      Concluded h service generation (.ok ack) (.error (.rejected service Client.noVersion))
        { h with registry := h.registry.discard service generation }
  | closed {ack : Json} : h.registry.current? service generation = none →
      Concluded h service generation (.ok ack) (.error (.closed service)) h
  | established {ack : Json} {version : String} {e : Entry} :
      (Schema.read ack).version = some version →
      h.registry.current? service generation = some e →
      Concluded h service generation (.ok ack)
        (.ok { service, version
               methods := (Schema.read ack).methods
               properties := (Schema.read ack).properties
               stream := generation })
        (h.establish service e (Schema.read ack))

namespace Scene

def setStage (s : Scene) (generation : Nat) (a : Attempt) (stage : Stage) : Scene :=
  { s with attempts := Function.update s.attempts generation (some { a with stage }) }

def dismiss (s : Scene) (generation : Nat) : Scene :=
  { s with attempts := Function.update s.attempts generation none }

def mapHub (s : Scene) (f : Hub → Hub) : Scene := { s with hub := f s.hub }

def mapLink (s : Scene) (f : Link Handler → Link Handler) : Scene :=
  s.mapHub fun h => { h with link := f h.link }

inductive Step (timeout : Nat) (s : Scene) : Move → Scene → Prop
  | calls {e : Calls.Event} {link : Link Handler} :
      Calls.Step timeout s.hub.link.calls e link.calls → (∀ m, e ≠ .message m) →
      s.hub.link.Unheard link → Step timeout s (.calls e) (s.mapLink fun _ => link)
  | message (m : Rpc.Message) : Step timeout s (.message m) (s.mapHub (·.hearMessage m))
  | aside {link : Link Handler} (services : ServiceList) (formats : Option (List ReturnFormat))
      (protocols : Option (List SocketProtocol)) : s.hub.link.SocketOnly link →
      Step timeout s .aside
        (s.mapHub fun h => { h with
          link
          registry := { h.registry with services, formats, protocols } })
  | listened (method : String) :
      Step timeout s (.listened method) (s.mapLink fun l => (l.listen method .caller).2)
  | unlistened {id : Nat} :
      (s.hub.link.listeners.any fun listener => listener.id = id ∧ listener.handler.isCaller) →
      Step timeout s (.unlistened id) (s.mapLink (·.unlisten id))
  | unknown {service : String} : s.hub.registry.services.find? service = none →
      Step timeout s (.refused (.unknownService service)) s
  | already {service : String} {e : Entry} : s.hub.registry.entry? service = some e →
      Step timeout s (.refused (.alreadySubscribed service)) s
  | entered {service path : String} (requested : List String) :
      (s.hub.registry.services.find? service).map (·.path) = some path →
      s.hub.registry.entry? service = none →
      Step timeout s (.entered (s.hub.registry.generation + 1) service path requested)
        ((s.mapHub (·.insert service path requested)).setStage (s.hub.registry.generation + 1)
          ⟨service, path, .entered⟩ .entered)
  | unasked {generation now : Nat} {a : Attempt} {cause : LinkError} {link : Link Handler} :
      s.attempts generation = some a → a.stage = .entered →
      s.hub.link.call now (a.path ++ Client.subscribeMethod) none = (.error cause, link) →
      Step timeout s (.unasked generation cause)
        ((s.mapLink fun _ => link).setStage generation a (.unasked cause))
  | asked {generation now : Nat} {a : Attempt} {receipt : Receipt} {link : Link Handler} :
      s.attempts generation = some a → a.stage = .entered →
      s.hub.link.call now (a.path ++ Client.subscribeMethod) none = (.ok receipt, link) →
      Step timeout s (.asked generation now receipt)
        ((s.mapLink fun _ => link).setStage generation a (.asked receipt.ticket))
  | answered {generation : Nat} {a : Attempt} {ticket : Ticket} {outcome : Outcome} :
      s.attempts generation = some a → a.stage = .asked ticket →
      (s.hub.link.calls.take ticket).1 = some outcome →
      Step timeout s (.answered generation ticket outcome)
        ((s.mapLink fun l => { l with calls := (l.calls.take ticket).2 }).setStage generation a
          (.answered outcome))
  | failed {generation : Nat} {a : Attempt} {cause : LinkError} :
      s.attempts generation = some a → a.stage = .unasked cause →
      Step timeout s (.ended generation (.error (.link a.service cause)))
        ((s.mapHub fun h => { h with
          registry := h.registry.discard a.service generation }).dismiss generation)
  | closed {generation : Nat} {a : Attempt} {ticket : Ticket} :
      s.attempts generation = some a → a.stage = .asked ticket →
      s.hub.registry.current? a.service generation = none →
      Step timeout s (.ended generation (.error (.closed a.service))) (s.dismiss generation)
  | concluded {generation : Nat} {a : Attempt} {outcome : Outcome}
      {result : Except SubscriptionError SubscriptionInfo} {hub : Hub} :
      s.attempts generation = some a → a.stage = .answered outcome →
      s.hub.Concluded a.service generation outcome result hub →
      Step timeout s (.ended generation result) ((s.mapHub fun _ => hub).dismiss generation)
  | unsubscribed {service : String} {e : Entry} {link : Link Handler} :
      s.hub.registry.entry? service = some e → (e.unbind s.hub.link).SocketOnly link →
      Step timeout s (.unsubscribed service)
        (s.mapHub fun h => { h with link, registry := h.registry.erase service })
  | disconnected :
      Step timeout s .disconnected
        (s.mapHub fun h => { h with registry := h.registry.reset }.closeAll h.registry.entries.values)
  | released (stream : Nat) :
      Step timeout s (.released stream) (s.mapHub (·.updateStream stream Stream.release))
  | drained (stream : Nat) :
      Step timeout s (.drained stream) (s.mapHub (·.updateStream stream Stream.drain))

def start (settings : Link.Settings) : Scene :=
  { hub := { link := .new settings }, attempts := fun _ => none }

end Scene
end ServiceLink
