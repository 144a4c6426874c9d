import ServiceLink.Calls
import ServiceLink.Link.Settings
import ServiceLink.Rpc.Message
import ServiceLink.Status

/-! A link: calls, notifications and the status of one socket. The socket itself is a queue of outbound
frames and the inbound frames handed in. What a link tells others stands in queues until they take it:
outbound frames, status events, and notifications delivered to handlers. -/

namespace ServiceLink

inductive OutboundFrame
  | text (s : String)
  | close
deriving DecidableEq, Repr

inductive Writer
  | absent
  | live
  /-- The reading end of the queue is gone. -/
  | deaf
deriving DecidableEq, Repr

/-- A handler that is told of the notifications with one method. -/
structure Listener (κ : Type) where
  id : Nat
  method : String
  handler : κ
deriving Repr

/-- The timer that ends calls without a response. -/
inductive Sweep
  | idle
  | due (time : Nat)
  /-- It was started with a period of zero and never ticks. -/
  | stuck
deriving DecidableEq, Repr

structure Link (κ : Type) where
  settings : Link.Settings
  calls : Calls
  /-- In the order of registration. -/
  listeners : List (Listener κ) := []
  /-- The id of the next listener. -/
  nextListener : Nat := 0
  writer : Writer := .absent
  outbound : List OutboundFrame := []
  status : Status := .notConnected
  /-- The changes of status that were told. -/
  events : List Status := []
  /-- Whether a change was told since the status was last looked at. -/
  isChanged : Bool := false
  sweep : Sweep := .idle
  deliveries : List (κ × Rpc.Notification) := []

/-- One entry of a batch. -/
structure BatchEntry where
  method : String
  params : Option Json
  /-- A notification gets no id and no response. -/
  isNotification : Bool := false

namespace Link

variable {κ : Type}

def new (settings : Settings) (ceiling : Nat := Calls.maxId) : Link κ :=
  { settings, calls := .withCeiling ceiling }

/-! ### Status -/

/-- A change of status is told; staying is not. -/
def moveTo (l : Link κ) (s : Status) : Link κ :=
  if l.status = s then l
  else { l with status := s, events := l.events ++ [s], isChanged := true }

def canMarkReady (l : Link κ) : Bool := l.status = .connected

/-- Only a connected link becomes ready. -/
def markReady (l : Link κ) : Link κ := if l.canMarkReady then l.moveTo .ready else l

/-! ### Sending -/

/-- Queue a frame for the socket. -/
def send? (l : Link κ) (f : OutboundFrame) : Option (Link κ) :=
  if l.writer = .live then some { l with outbound := l.outbound ++ [f] } else none

def sendJson? (l : Link κ) (j : Json) : Option (Link κ) := l.send? (.text j.render)

/-- Start the timer if calls are in flight and it is not running. -/
def ensureSweep (l : Link κ) (now : Nat) : Link κ :=
  if l.sweep ≠ .idle ∨ l.calls.inFlight = [] then l
  else
    let period := l.settings.expiryInterval
    { l with sweep := if period = 0 then .stuck else .due (now + period) }

/-- Send a call. If it cannot be sent, it is taken back. -/
def call (l : Link κ) (now : Nat) (method : String) (params : Option Json) :
    Except LinkError Receipt × Link κ :=
  if l.writer = .absent then (.error .notConnected, l)
  else
    match l.calls.register now with
    | none => (.error (.callIdsExhausted l.calls.ceiling), l)
    | some (receipt, calls) =>
      let entered := { l with calls }
      match entered.sendJson? (Rpc.Request.call method params receipt.id).toJson with
      | none => (.error .notConnected, { l with calls := calls.cancel receipt.id })
      | some sent => (.ok receipt, sent.ensureSweep now)

def notify (l : Link κ) (method : String) (params : Option Json) : Except LinkError Unit × Link κ :=
  match l.sendJson? (Rpc.Request.notification method params).toJson with
  | none => (.error .notConnected, l)
  | some sent => (.ok (), sent)

/-- Enter the calls of a batch. If the ids run out, those entered are taken back. -/
def enter (now : Nat) (calls : Calls) :
    List BatchEntry → Option (List (Rpc.Request × Option Receipt)) × Calls
  | [] => (some [], calls)
  | e :: rest =>
    if e.isNotification then
      let (entered, calls) := enter now calls rest
      (entered.map ((Rpc.Request.notification e.method e.params, none) :: ·), calls)
    else
      match calls.register now with
      | none => (none, calls)
      | some (receipt, calls) =>
        match enter now calls rest with
        | (none, calls) => (none, calls.cancel receipt.id)
        | (some entered, calls) =>
          (some ((Rpc.Request.call e.method e.params receipt.id, some receipt) :: entered), calls)

/-- Send a batch as one frame; each call in it gets a receipt at its place. -/
def batch (l : Link κ) (now : Nat) (entries : List BatchEntry) :
    Except LinkError (List (Option Receipt)) × Link κ :=
  if entries.isEmpty then (.ok [], l)
  else if l.writer = .absent then (.error .notConnected, l)
  else
    match enter now l.calls entries with
    | (none, calls) => (.error (.callIdsExhausted l.calls.ceiling), { l with calls })
    | (some entered, calls) =>
      let requests : List Json := entered.map fun e => e.1.toJson
      let receipts : List (Option Receipt) := entered.map (·.2)
      match { l with calls := calls }.sendJson? (.array requests) with
      | none =>
        (.error .notConnected,
          { l with calls := (receipts.filterMap id).foldl (fun c r => c.cancel r.id) calls })
      | some sent => (.ok receipts, sent.ensureSweep now)

/-! ### Listening -/

/-- The id of a listener is its number in the order of registration. -/
def listen (l : Link κ) (method : String) (handler : κ) : Nat × Link κ :=
  (l.nextListener,
    { l with
      listeners := l.listeners ++ [⟨l.nextListener, method, handler⟩]
      nextListener := l.nextListener + 1 })

def hasListener (l : Link κ) (id : Nat) : Bool := l.listeners.any (·.id = id)

def unlisten (l : Link κ) (id : Nat) : Link κ :=
  { l with listeners := l.listeners.filter (·.id ≠ id) }

/-- The handlers of a method, in the order of registration. -/
def handlersFor (l : Link κ) (method : String) : List κ :=
  (l.listeners.filter (·.method = method)).map (·.handler)

/-! ### Receiving -/

/-- Act on one message: end a call, or tell the handlers of a notification. -/
def receive (l : Link κ) : Rpc.Message → Link κ
  | .response (some id) result => { l with calls := l.calls.complete id (.ok result) }
  | .error (some id) object => { l with calls := l.calls.complete id (.error (.remote object)) }
  | .notification n =>
    { l with deliveries := l.deliveries ++ (l.handlersFor n.method).map (·, n) }
  | _ => l

/-- Act on the messages of a frame in order, then send the reply it is owed, if the socket takes it. -/
def handleFrame (l : Link κ) (text : String) : Link κ :=
  let frame := Rpc.Frame.read text
  let received := frame.messages.foldl receive l
  match frame.reply? with
  | none => received
  | some reply => (received.send? (.text reply)).getD received

/-! ### The socket -/

/-- A new socket takes the place of the old, whose queue is gone. -/
def attach (l : Link κ) : Link κ := { l with writer := .live, outbound := [] }

/-- The socket stops reading its queue. -/
def deafen (l : Link κ) : Link κ :=
  { l with writer := if l.writer = .live then .deaf else l.writer, outbound := [] }

/-- Open a socket if there is none. A failure that shows before the network is reached leaves the link
not connected again, with an event if it is a loud one. -/
def start (l : Link κ) : Except LinkError Unit × Link κ :=
  if l.status ≠ .notConnected then (.ok (), l)
  else
    let opening := l.moveTo .connecting
    match l.settings.openingFailure? with
    | none => (.ok (), opening)
    | some (.quiet cause) => (.error cause, { opening with status := .notConnected })
    | some (.loud cause) => (.error cause, opening.moveTo .notConnected)

/-- Whether a start would get as far as the network. -/
def isDialable (l : Link κ) : Bool := l.status = .notConnected ∧ l.settings.openingFailure?.isNone

/-- Ask an active socket to close; without one to ask the link is not connected at once. -/
def stop (l : Link κ) : Link κ :=
  if l.status.isActive then
    let closing := l.moveTo .disconnecting
    (closing.send? .close).getD (closing.moveTo .notConnected)
  else l

/-- Let go of the socket. -/
def shutdown (l : Link κ) : Link κ := { l with writer := .absent }.moveTo .notConnected

/-! ### Time -/

/-- A tick of the timer: the calls that are due expire, and the timer stops when none is left. -/
def tick (l : Link κ) (now : Nat) : Link κ :=
  let calls := l.calls.expire now l.settings.callTimeout
  { l with
    calls
    sweep := if calls.inFlight = [] then .idle else .due (now + l.settings.expiryInterval) }

/-- The timer ticks if it is due. -/
def sweepIfDue (l : Link κ) (now : Nat) : Link κ :=
  match l.sweep with
  | .due t => if t ≤ now then l.tick now else l
  | _ => l

def sweepTime? (l : Link κ) : Option Nat := match l.sweep with | .due t => some t | _ => none

def isSweeping (l : Link κ) : Bool := l.sweep ≠ .idle

/-- The link once all its queues were read. -/
def drain (l : Link κ) : Link κ :=
  { l with outbound := [], events := [], isChanged := false, deliveries := [] }

/-- The end of the link ends its calls. -/
def drop (l : Link κ) : Link κ :=
  { l with calls := l.calls.drop, listeners := [], writer := .absent, sweep := .idle }

end Link
end ServiceLink
