import ServiceLink.Link.Dialing

/-! The monitor that keeps a link open while its host is visible. It polls at the ticks of a clock and when it
is told the visibility. A poll may start the link, and then the monitor hears nothing until that start has ended:
of the ticks it missed meanwhile it hears one, and of the visibilities it was told the last. -/

namespace ServiceLink.Link

variable {κ : Type}

structure Monitor where
  interval : Nat
  /-- The visibility last told. -/
  visible : Bool
  /-- Whether it was told since the last poll. -/
  isTold : Bool := false
  nextPoll : Nat
  /-- It waits for a start of its own. -/
  isDialing : Bool := false
  /-- Nobody is left to tell the visibility. -/
  isOrphaned : Bool := false
  isFinished : Bool := false
deriving DecidableEq, Repr

namespace Monitor

/-- The interval of a monitor that is given none. -/
def defaultInterval : Nat := 2000

/-- The first poll is due at once. A monitor without an interval ends before it. -/
def new (interval now : Nat) (visible : Bool) : Monitor :=
  { interval, visible, nextPoll := now, isFinished := interval = 0 }

/-- Hidden, an active socket is closed; visible, a missing one is opened. -/
def poll (l : Link κ) (visible : Bool) : Link κ :=
  if ¬ visible then l.stop
  else if l.status = .notConnected then l.start.2
  else l

/-- Whether a poll leaves a start under way. -/
def dials (m : Monitor) (l : Link κ) : Bool := m.visible ∧ l.isDialable

/-! ### The turn of a monitor

When both a tick and a word about the visibility are there to be heard, either may be heard first. A tick that
is heard first goes along with the word. -/

/-- Whether the monitor has something to hear before time goes on. -/
def isAwake (m : Monitor) (now : Nat) : Bool :=
  ¬ m.isFinished ∧ ¬ m.isDialing ∧ (m.nextPoll ≤ now ∨ m.isTold ∨ m.isOrphaned)

/-- Whether it hears that nobody tells the visibility any more. -/
def hearsEnd (m : Monitor) (now : Nat) (wordFirst : Bool) : Bool :=
  m.isOrphaned ∧ ¬ m.isTold ∧ (wordFirst ∨ now < m.nextPoll)

/-- Whether its turn is a poll. -/
def polls (m : Monitor) (now : Nat) (linkIsGone wordFirst : Bool) : Bool :=
  m.isAwake now ∧ ¬ linkIsGone ∧ ¬ m.hearsEnd now wordFirst

/-- Whether a poll answers a tick, and not a word alone. -/
def hearsTick (m : Monitor) (now : Nat) (wordFirst : Bool) : Bool := m.nextPoll ≤ now ∧ ¬ (wordFirst ∧ m.isTold)

/-- The first tick after a time, at which one is overdue. -/
def tickAfter (m : Monitor) (now : Nat) : Nat :=
  m.nextPoll + m.interval * ((now - m.nextPoll) / m.interval + 1)

/-- After a poll the monitor ends if nothing is left for it to hear. -/
def polled (m : Monitor) (now : Nat) (wordFirst dials : Bool) : Monitor :=
  let nextPoll := if m.hearsTick now wordFirst then m.tickAfter now else m.nextPoll
  { m with
    isTold := false
    nextPoll
    isDialing := dials
    isFinished := m.isOrphaned ∧ ¬ dials ∧ now < nextPoll }

/-- One that finds its link gone, or hears that nobody tells the visibility any more, ends without a poll. -/
def turn (m : Monitor) (now : Nat) (linkIsGone wordFirst dials : Bool) : Monitor :=
  if m.polls now linkIsGone wordFirst then m.polled now wordFirst dials
  else { m with isFinished := m.isFinished || m.isAwake now }

/-- The turn of a monitor with what it makes of the link. -/
def act (m : Monitor) (now : Nat) (linkIsGone : Bool) (l : Link κ) : Monitor × Link κ :=
  (m.turn now linkIsGone false (m.dials l), if m.polls now linkIsGone false then poll l m.visible else l)

def pollTime? (m : Monitor) : Option Nat := if m.isFinished ∨ m.isDialing then none else some m.nextPoll

/-- Tell the visibility; a finished monitor hears nothing. -/
def tell (m : Monitor) (visible : Bool) : Monitor :=
  if m.isFinished then m else { m with visible, isTold := true }

/-- The start that the monitor waits for has ended. -/
def release (m : Monitor) : Monitor := { m with isDialing := false }

end Monitor
end ServiceLink.Link
