import ServiceLink.Error

/-! Calls in flight and the responses their callers hold. An id is free again once its call has ended, so
each call also has a ticket that is never given twice: its place among the responses. -/

namespace ServiceLink

/-- What the caller of a call holds. -/
inductive Response
  | waiting
  | ready (outcome : Outcome)
  /-- The outcome was taken, or nobody waits for it. -/
  | closed
deriving Inhabited

namespace Response

/-- Only the first outcome counts. -/
def resolve (outcome : Outcome) : Response → Response
  | .waiting => .ready outcome
  | r => r

/-- Look for the outcome, and take it if it is there; a closed response counts as dropped. -/
def take : Response → Option Outcome × Response
  | .waiting => (none, .waiting)
  | .ready outcome => (some outcome, .closed)
  | .closed => (some (.error .dropped), .closed)

@[simp] theorem resolve_resolve (r : Response) (a b : Outcome) :
    (r.resolve a).resolve b = r.resolve a := by
  cases r <;> rfl

end Response

abbrev Ticket := Nat

structure InFlight where
  id : Nat
  sentAt : Nat
  ticket : Ticket
deriving DecidableEq, Repr, Inhabited

/-- What the caller gets for a call that was sent. -/
structure Receipt where
  id : Nat
  ticket : Ticket
deriving DecidableEq, Repr, Inhabited

structure Calls where
  /-- Where the search for a free id starts. -/
  nextId : Nat := 1
  /-- Ids run from one to here. -/
  ceiling : Nat
  /-- In the order of sending. -/
  inFlight : List InFlight := []
  /-- By ticket. -/
  responses : List Response := []
deriving Inhabited

namespace Calls

def maxId : Nat := 33554432

def withCeiling (ceiling : Nat) : Calls := { ceiling := max ceiling 1 }

def contains (c : Calls) (id : Nat) : Bool := c.inFlight.any (·.id = id)

def size (c : Calls) : Nat := c.inFlight.length

/-- Behind the last id comes the first. -/
def after (c : Calls) (id : Nat) : Nat := if c.ceiling ≤ id then 1 else id + 1

/-- The first free id within so many from `id` on. -/
def search (c : Calls) : Nat → Nat → Option Nat
  | 0, _ => none
  | steps + 1, id => if c.contains id then search c steps (c.after id) else some id

def freeId? (c : Calls) : Option Nat := c.search c.ceiling c.nextId

/-- Enter a call at a time; when every id is in flight nothing changes. -/
def register (c : Calls) (now : Nat) : Option (Receipt × Calls) :=
  c.freeId?.map fun id =>
    let receipt : Receipt := ⟨id, c.responses.length⟩
    (receipt, { c with
      nextId := c.after id
      inFlight := c.inFlight ++ [⟨id, now, receipt.ticket⟩]
      responses := c.responses ++ [.waiting] })

theorem contains_iff {c : Calls} {id : Nat} : c.contains id ↔ ∃ call ∈ c.inFlight, call.id = id := by
  simp [contains]

theorem not_contains_of_search {c : Calls} {steps start id : Nat}
    (h : c.search steps start = some id) : ¬ c.contains id := by
  induction steps generalizing start with
  | zero => simp [search] at h
  | succ steps ih =>
    simp only [search] at h
    split at h
    · exact ih h
    · cases h
      assumption

/-- A call that was entered stands last, under an id that was free. -/
theorem inFlight_of_register {c d : Calls} {now : Nat} {r : Receipt}
    (h : c.register now = some (r, d)) :
    d.inFlight = c.inFlight ++ [⟨r.id, now, r.ticket⟩] ∧ ¬ c.contains r.id := by
  simp only [register, Option.map_eq_some_iff] at h
  obtain ⟨id, hid, hr⟩ := h
  cases hr
  exact ⟨rfl, not_contains_of_search hid⟩

/-- End the calls of a kind with one outcome. -/
def finish (c : Calls) (ends : InFlight → Bool) (outcome : Outcome) : Calls :=
  { c with
    inFlight := c.inFlight.filter (¬ ends ·)
    responses := (c.inFlight.filter ends).foldl
      (fun rs call => rs.modify call.ticket (·.resolve outcome)) c.responses }

/-- A response from the server ends the call with its id, if there is one. -/
def complete (c : Calls) (id : Nat) (outcome : Outcome) : Calls := c.finish (·.id = id) outcome

/-- A call that was not sent after all. -/
def cancel (c : Calls) (id : Nat) : Calls := c.finish (·.id = id) (.error .dropped)

def isExpired (now timeout : Nat) (call : InFlight) : Bool := timeout ≤ now - call.sentAt

def expire (c : Calls) (now timeout : Nat) : Calls :=
  c.finish (isExpired now timeout) (.error .expired)

def expiredCount (c : Calls) (now timeout : Nat) : Nat :=
  (c.inFlight.filter (isExpired now timeout)).length

/-- The end of the table ends every call in it. -/
def drop (c : Calls) : Calls := c.finish (fun _ => true) (.error .dropped)

theorem inFlight_finish (c : Calls) (ends : InFlight → Bool) (outcome : Outcome) :
    (c.finish ends outcome).inFlight = c.inFlight.filter (¬ ends ·) := rfl

def response (c : Calls) (ticket : Ticket) : Response := (c.responses[ticket]?).getD .closed

/-- The caller looks for the outcome and takes it if it is there. -/
def take (c : Calls) (ticket : Ticket) : Option Outcome × Calls :=
  let (outcome, response) := (c.response ticket).take
  (outcome, { c with responses := c.responses.set ticket response })

/-- The caller no longer waits; the call stays in flight. -/
def forget (c : Calls) (ticket : Ticket) : Calls :=
  { c with responses := c.responses.set ticket .closed }

end Calls
end ServiceLink
