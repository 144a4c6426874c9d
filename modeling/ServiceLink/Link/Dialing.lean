import ServiceLink.Link.Action

/-! A link that is opened over a network. What a start does before it reaches a network happens at once; then
it is under way, first for a token and then for the socket, and meanwhile all else may happen to the link.
Starts are numbered. A later start, a stop or a shutdown supersedes those under way, and a start that was
superseded leaves the link alone when it ends. -/

namespace ServiceLink.Link

variable {κ : Type}

/-- The link after a start that failed. -/
def fail (l : Link κ) : OpeningFailure → Link κ
  | .quiet _ => { l with status := .notConnected }
  | .loud _ => l.moveTo .notConnected

/-- What a start under way waits for. -/
inductive Stage
  | token
  | socket
deriving DecidableEq, Repr

structure Dial where
  attempt : Nat
  stage : Stage
deriving DecidableEq, Repr

structure Dialing (κ : Type) where
  link : Link κ
  /-- The number of the latest attempt. -/
  attempt : Nat := 0
  dials : List Dial := []

/-- What the network does to a start under way, or to the socket. -/
inductive NetworkEvent
  | tokenFailed (attempt : Nat) (cause : LinkError)
  | tokenReceived (attempt : Nat) (token : String)
  | socketFailed (attempt : Nat) (cause : LinkError)
  | socketOpened (attempt : Nat)
  /-- The other end closed the socket, which supersedes nothing. -/
  | hungUp

namespace Dialing

inductive Action (κ : Type)
  | link (now : Nat) (a : Link.Action κ)
  | sweep (now : Nat)
  | network (e : NetworkEvent)

def new (settings : Settings) (ceiling : Nat := Calls.maxId) : Dialing κ :=
  { link := .new settings ceiling }

/-- Whether an action on the link supersedes the starts under way. -/
def supersedes (d : Dialing κ) : Link.Action κ → Bool
  | .start => d.link.status = .notConnected
  | .stop => d.link.status.isActive
  | .shutdown => true
  | _ => false

/-- What a start waits for that no failure ended at once. -/
def awaited? (d : Dialing κ) : Link.Action κ → Option Stage
  | .start =>
    if d.link.isDialable then some (if d.link.settings.accessToken.isNone then .token else .socket)
    else none
  | _ => none

def onLink (d : Dialing κ) (now : Nat) (a : Link.Action κ) : Dialing κ :=
  let attempt := if d.supersedes a then d.attempt + 1 else d.attempt
  { link := (d.link.act now a).2
    attempt
    dials := d.dials ++ (d.awaited? a).toList.map (⟨attempt, ·⟩) }

@[simp] theorem link_onLink (d : Dialing κ) (now : Nat) (a : Link.Action κ) :
    (d.onLink now a).link = (d.link.act now a).2 := rfl

/-! ### The network -/

def isUnderWay (d : Dialing κ) (attempt : Nat) : Bool := d.dials.any (·.attempt = attempt)

def isWaiting (d : Dialing κ) (attempt : Nat) (stage : Stage) : Bool := d.dials.contains ⟨attempt, stage⟩

/-- A start ends, and the link is left like this unless the start was superseded. -/
def finish (d : Dialing κ) (attempt : Nat) (link : Link κ) : Dialing κ :=
  { d with
    link := if attempt = d.attempt then link else d.link
    dials := d.dials.filter (·.attempt ≠ attempt) }

/-- With the token the start goes on to the socket. -/
def proceed (d : Dialing κ) (attempt : Nat) : Dialing κ :=
  { d with dials := d.dials.map fun dial => if dial.attempt = attempt then { dial with stage := .socket } else dial }

def hear (d : Dialing κ) : NetworkEvent → Dialing κ
  | .tokenFailed n cause => if d.isWaiting n .token then d.finish n (d.link.fail (.quiet cause)) else d
  | .tokenReceived n token =>
    if d.isWaiting n .token then
      match d.link.settings.socketFailure? token with
      | none => d.proceed n
      | some failure => d.finish n (d.link.fail failure)
    else d
  | .socketFailed n cause => if d.isWaiting n .socket then d.finish n (d.link.fail (.loud cause)) else d
  | .socketOpened n =>
    if d.isWaiting n .socket then
      d.finish n (if d.link.status = .connecting then d.link.attach.moveTo .connected else d.link)
    else d
  | .hungUp => { d with link := d.link.shutdown }

def act (d : Dialing κ) : Action κ → Dialing κ
  | .link now a => d.onLink now a
  | .sweep now => { d with link := d.link.sweepIfDue now }
  | .network e => d.hear e

end Dialing
end ServiceLink.Link
