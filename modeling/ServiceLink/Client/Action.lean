import ServiceLink.Client.Run
import ServiceLink.Link.Action

/-! What can happen to a client, as data: the doings of its callers, of the server and of the host. A run
of a client is a list of actions, and the client settles after each of them. -/

namespace ServiceLink.Client

inductive Action
  /-- A new socket is opened. -/
  | openSocket
  /-- The socket stops reading its queue. -/
  | deafen
  /-- The start that the monitor waits for has ended. -/
  | released
  /-- The status is forced. -/
  | moveTo (s : Status)
  | start
  | stop
  | shutdown
  | frame (text : String)
  | connected
  | disconnected
  | setVisible (visible : Bool)
  | subscribe (tag service : String) (properties : List String)
  | describe (tag service : String)
  | cancel (tag : String)
  /-- The subscription under a tag is let go of. -/
  | letGo (tag : String)
  | unsubscribe (service : String)
  | call (service method : String) (params : Option Json)
  | notify (service method : String) (params : Option Json)
  | batch (calls : List ServiceCall)
  /-- A caller listens on the link for himself. -/
  | listen (method : String)
  | unlisten (id : Nat)
  | take (ticket : Ticket)
  | forget (ticket : Ticket)
  | advance (ms : Nat)

/-- A caller takes off only what he registered. -/
def isCallersListener (c : Client) (id : Nat) : Bool :=
  c.link.listeners.any fun listener => listener.id = id ∧ listener.handler.isCaller

def act (c : Client) : Action → Link.Reply × Client
  | .openSocket => (.done, c.openSocket)
  | .deafen => (.done, c.mapLink (·.deafen))
  | .released => (.done, { c with monitor := c.monitor.map (·.release) })
  | .moveTo s => (.done, c.mapLink (·.moveTo s))
  | .start =>
    let (result, c) := c.onLink (·.start)
    (.ofResult (fun _ => .done) result, c)
  | .stop => (.done, c.mapLink (·.stop))
  | .shutdown => (.done, c.shutdown)
  | .frame text => (.done, c.handleFrame text)
  | .connected => (.done, c.handleConnected)
  | .disconnected => (.done, c.handleDisconnected)
  | .setVisible visible => (.flag visible, c.setVisible visible)
  | .subscribe tag service properties => (.done, c.addJob tag (.subscribe service properties))
  | .describe tag service => (.done, c.addJob tag (.describe service))
  | .cancel tag => (.done, c.cancel tag)
  | .letGo tag => (.flag (c.held.contains tag), c.dropHeld tag)
  | .unsubscribe service => (.done, c.unsubscribe service)
  | .call service method params =>
    let (result, c) := c.call service method params
    (.ofResult .receipt result, c)
  | .notify service method params =>
    let (result, c) := c.notify service method params
    (.ofResult (fun _ => .done) result, c)
  | .batch calls =>
    let (result, c) := c.batch calls
    (.ofResult .receipts result, c)
  | .listen method =>
    let (id, c) := c.onLink (·.listen method .caller)
    (.listener id, c)
  | .unlisten id =>
    let known := c.isCallersListener id
    (.flag known, if known then c.mapLink (·.unlisten id) else c)
  | .take ticket =>
    let (outcome, c) := c.takeOutcome ticket
    (.outcome outcome, c)
  | .forget ticket => (.done, c.forget ticket)
  | .advance ms => (.done, Timed.advance c.settle ms)

/-- An action and all that follows from it before time goes on. -/
def step (c : Client) (a : Action) : Client := (c.act a).2.settle

def run (c : Client) (actions : List Action) : Client := actions.foldl step c

end ServiceLink.Client
