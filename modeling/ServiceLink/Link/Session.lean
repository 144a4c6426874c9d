import ServiceLink.Link.Monitor
import ServiceLink.Timed

/-! A link in time: the clock, the network, the timer that ends calls, and the monitor. A session is settled
when nothing more can happen before time goes on. A run of a session is a list of actions, and the session
settles after each of them. -/

namespace ServiceLink.Link

variable {κ : Type}

/-- A poll is a start or a stop. -/
def Dialing.poll (d : Dialing κ) (now : Nat) (visible : Bool) : Dialing κ :=
  d.onLink now (if visible then .start else .stop)

structure Session (κ : Type) extends Dialing κ where
  now : Nat := 0
  monitor : Option Monitor := none
  /-- The number of the start that the monitor waits for. -/
  awaited : Option Nat := none
  /-- The link was dropped; the responses to its calls are still held. -/
  isDropped : Bool := false

namespace Session

def mapLink (s : Session κ) (f : Link κ → Link κ) : Session κ := { s with link := f s.link }

/-! ### Time -/

/-- The monitor has its turn. -/
def turn (s : Session κ) (wordFirst : Bool := false) : Session κ :=
  match s.monitor with
  | none => s
  | some m =>
    let dials := m.dials s.link
    let monitor := some (m.turn s.now s.isDropped wordFirst dials)
    if m.polls s.now s.isDropped wordFirst then
      let polled := s.toDialing.poll s.now m.visible
      { s with toDialing := polled, monitor, awaited := if dials then some polled.attempt else none }
    else { s with monitor }

/-- What is due now happens, the timer before the monitor. -/
def settle (s : Session κ) : Session κ := (s.mapLink (·.sweepIfDue s.now)).turn

theorem now_turn (s : Session κ) (wordFirst : Bool) : (s.turn wordFirst).now = s.now := by
  unfold turn
  split
  · rfl
  · dsimp only
    split <;> rfl

theorem now_settle (s : Session κ) : s.settle.now = s.now := now_turn _ _

instance : Timed (Session κ) where
  now := now
  due? s := Timed.earliest? s.link.sweepTime? (s.monitor.bind (·.pollTime?))
  ring s t := { s with now := t }.settle
  wait s t := { s with now := t }
  now_ring _ _ := now_settle _

/-! ### The host -/

def spawnMonitor (s : Session κ) (interval : Nat) (visible : Bool) : Session κ :=
  { s with monitor := some (.new interval s.now visible), awaited := none }

/-- Whether someone hears of the visibility. -/
def hasHearer (s : Session κ) : Bool := s.monitor.any (¬ ·.isFinished)

def hasFinishedMonitor (s : Session κ) : Bool := s.monitor.any (·.isFinished)

def tell (s : Session κ) (visible : Bool) : Session κ :=
  { s with monitor := s.monitor.map (·.tell visible) }

/-- Nobody tells the visibility any more. -/
def orphanMonitor (s : Session κ) : Session κ :=
  { s with monitor := s.monitor.map fun m => { m with isOrphaned := true } }

/-- The link goes when nobody holds it any more. A start under way holds it. -/
def drop (s : Session κ) : Session κ :=
  if s.dials = [] then { s.mapLink Link.drop with isDropped := true } else s

/-- The network ends a start or the socket. The monitor goes on when its own start has ended. -/
def hear (s : Session κ) (e : NetworkEvent) : Session κ :=
  if s.isDropped then s
  else
    let d := s.toDialing.hear e
    let awaited := s.awaited.filter d.isUnderWay
    { s with
      toDialing := d
      awaited
      monitor := s.monitor.map fun m => if awaited.isNone then m.release else m }

/-! ### Actions -/

/-- The actions on a session. Those on the link end with it; the responses and the monitor outlive it. -/
inductive Action (κ : Type)
  | link (a : Link.Action κ)
  | network (e : NetworkEvent)
  | take (ticket : Ticket)
  | forget (ticket : Ticket)
  | advance (ms : Nat)
  | monitor (interval : Nat) (visible : Bool)
  | tell (visible : Bool)
  | orphan
  | drop

def act (s : Session κ) : Action κ → Reply × Session κ
  | .link a =>
    if s.isDropped then (.done, s)
    else ((s.link.act s.now a).1, { s with toDialing := s.toDialing.onLink s.now a })
  | .network e => (.done, s.hear e)
  | .take ticket =>
    let (outcome, calls) := s.link.calls.take ticket
    (.outcome outcome, s.mapLink fun l => { l with calls })
  | .forget ticket => (.done, s.mapLink fun l => { l with calls := l.calls.forget ticket })
  | .advance ms => (.done, Timed.advance s.settle ms)
  | .monitor interval visible => (.done, s.spawnMonitor interval visible)
  | .tell visible => (.flag s.hasHearer, s.tell visible)
  | .orphan => (.done, s.orphanMonitor)
  | .drop => (.done, s.drop)

/-- An action and all that follows from it before time goes on. -/
def step (s : Session κ) (a : Action κ) : Session κ := (s.act a).2.settle

def run (s : Session κ) (actions : List (Action κ)) : Session κ := actions.foldl step s

end Session
end ServiceLink.Link
