import ServiceLink.Link.Basic

/-! What others can do to a link, as data. -/

namespace ServiceLink.Link

inductive Action (κ : Type)
  | attach
  | deafen
  | moveTo (s : Status)
  | markReady
  | start
  | stop
  | shutdown
  | call (method : String) (params : Option Json)
  | notify (method : String) (params : Option Json)
  | batch (entries : List BatchEntry)
  | frame (text : String)
  | listen (method : String) (handler : κ)
  | unlisten (id : Nat)

/-- What the one who acts gets back. -/
inductive Reply
  | done
  | failed (cause : LinkError)
  | flag (b : Bool)
  | receipt (r : Receipt)
  /-- One for each entry of a batch; a notification has none. -/
  | receipts (rs : List (Option Receipt))
  | listener (id : Nat)
  | outcome (o : Option Outcome)

/-- The reply to an action that may fail. -/
def Reply.ofResult {α : Type} (f : α → Reply) : Except LinkError α → Reply
  | .ok a => f a
  | .error cause => .failed cause

/-- An action at a time. -/
def act {κ : Type} (l : Link κ) (now : Nat) : Action κ → Reply × Link κ
  | .attach => (.done, l.attach)
  | .deafen => (.done, l.deafen)
  | .moveTo s => (.done, l.moveTo s)
  | .markReady => (.flag l.canMarkReady, l.markReady)
  | .start => (.ofResult (fun _ => .done) l.start.1, l.start.2)
  | .stop => (.done, l.stop)
  | .shutdown => (.done, l.shutdown)
  | .call method params =>
    let (result, l) := l.call now method params
    (.ofResult .receipt result, l)
  | .notify method params =>
    let (result, l) := l.notify method params
    (.ofResult (fun _ => .done) result, l)
  | .batch entries =>
    let (result, l) := l.batch now entries
    (.ofResult .receipts result, l)
  | .frame text => (.done, l.handleFrame text)
  | .listen method handler =>
    let (id, l) := l.listen method handler
    (.listener id, l)
  | .unlisten id => (.flag (l.hasListener id), l.unlisten id)

end ServiceLink.Link
