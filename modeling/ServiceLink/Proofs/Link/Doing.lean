import ServiceLink.Proofs.Link.Expiry

/-! All that happens to a session, in order: what others do to its link, the network, the timer, the monitor, and
the passing of time. Others may act several times before anything settles, and the monitor may hear what there is
to hear in either order. -/

namespace ServiceLink.Link

variable {κ : Type}

inductive Doing (κ : Type)
  | acted (now : Nat) (a : Action κ)
  | network (e : NetworkEvent)
  | looked (ticket : Ticket)
  | forgotten (ticket : Ticket)
  | dropped
  /-- The timer had its turn. -/
  | swept (now : Nat)
  /-- The monitor was told the visibility. -/
  | told (visible : Bool)
  /-- Nobody is left to tell it. -/
  | orphaned
  /-- The monitor polled with this visibility, at a tick or at a word. -/
  | polled (now : Nat) (visible ticked : Bool)
  /-- The monitor ended. -/
  | ended
  /-- Nothing happened until this time. -/
  | waited (now : Nat)

namespace Doing

/-- What it makes of the link and its starts. -/
def onto (d : Dialing κ) : Doing κ → Dialing κ
  | .acted now a => d.onLink now a
  | .network e => d.hear e
  | .looked ticket => { d with link := { d.link with calls := (d.link.calls.take ticket).2 } }
  | .forgotten ticket => { d with link := { d.link with calls := d.link.calls.forget ticket } }
  | .dropped => { d with link := d.link.drop }
  | .swept now => { d with link := d.link.sweepIfDue now }
  | .polled now visible _ => d.poll now visible
  | .told _ | .orphaned | .ended | .waited _ => d

def poll? : Doing κ → Option (Nat × Bool)
  | .polled now visible _ => some (now, visible)
  | _ => none

end Doing

/-- The polls among the doings, with their times and visibilities. -/
def polls (doings : List (Doing κ)) : List (Nat × Bool) := doings.filterMap Doing.poll?

namespace Session

/-- Someone acts on a session, or the timer or the monitor has its turn. -/
inductive Cue (κ : Type)
  | act (a : Action κ)
  | sweep
  | turn (wordFirst : Bool)

def cue (s : Session κ) : Cue κ → Session κ
  | .act a => (s.act a).2
  | .sweep => s.mapLink (·.sweepIfDue s.now)
  | .turn wordFirst => s.turn wordFirst

def cues (s : Session κ) (cs : List (Cue κ)) : Session κ := cs.foldl cue s

/-! ### The doings -/

def turnDoings (s : Session κ) (wordFirst : Bool) : List (Doing κ) :=
  s.monitor.toList.flatMap fun m =>
    let after := m.turn s.now s.isDropped wordFirst (m.dials s.link)
    (if m.polls s.now s.isDropped wordFirst then [.polled s.now m.visible (m.hearsTick s.now wordFirst)] else []) ++
      if after.isFinished ∧ ¬ m.isFinished then [.ended] else []

def settleDoings (s : Session κ) : List (Doing κ) :=
  .swept s.now :: (s.mapLink (·.sweepIfDue s.now)).turnDoings false

def runToDoings (finish : Nat) (s : Session κ) : List (Doing κ) :=
  Timed.notesTo (fun s t => .waited t :: { s with now := t }.settleDoings) finish s ++ [.waited finish]

def cueDoings (s : Session κ) : Cue κ → List (Doing κ)
  | .act (.link a) => if s.isDropped then [] else [.acted s.now a]
  | .act (.network e) => if s.isDropped then [] else [.network e]
  | .act (.take ticket) => [.looked ticket]
  | .act (.forget ticket) => [.forgotten ticket]
  | .act (.advance ms) => s.settleDoings ++ s.settle.runToDoings (s.settle.now + ms)
  | .act (.monitor _ _) => []
  | .act (.tell visible) => [.told visible]
  | .act .orphan => [.orphaned]
  | .act .drop => if s.dials = [] then [.dropped] else []
  | .sweep => [.swept s.now]
  | .turn wordFirst => s.turnDoings wordFirst

def doings (s : Session κ) : List (Cue κ) → List (Doing κ)
  | [] => []
  | c :: cs => s.cueDoings c ++ doings (s.cue c) cs

theorem onto_turnDoings (s : Session κ) (wordFirst : Bool) :
    (s.turn wordFirst).toDialing = (s.turnDoings wordFirst).foldl Doing.onto s.toDialing := by
  unfold turn turnDoings
  cases s.monitor with
  | none => rfl
  | some m =>
    have hend (d : Dialing κ) (p : Prop) [Decidable p] :
        (if p then [Doing.ended] else []).foldl Doing.onto d = d := by
      split <;> rfl
    simp only [Option.toList_some, List.flatMap_singleton, List.foldl_append, hend]
    split <;> rfl

theorem onto_settleDoings (s : Session κ) :
    s.settle.toDialing = s.settleDoings.foldl Doing.onto s.toDialing :=
  onto_turnDoings (s.mapLink (·.sweepIfDue s.now)) false

theorem onto_runToDoings (finish : Nat) (s : Session κ) :
    (Timed.runTo finish s).toDialing = (s.runToDoings finish).foldl Doing.onto s.toDialing := by
  unfold runToDoings
  rw [List.foldl_append]
  refine Timed.runTo_induction (motive := fun s ds s' => s'.toDialing = ds.foldl Doing.onto s.toDialing)
    _ finish (fun _ _ => rfl) (fun s t ds s' _ _ _ ih => ?_) s
  rw [List.foldl_append, List.foldl_cons, ih]
  exact congrArg (ds.foldl Doing.onto) (onto_settleDoings { s with now := t })

theorem onto_cueDoings (s : Session κ) (c : Cue κ) :
    (s.cue c).toDialing = (s.cueDoings c).foldl Doing.onto s.toDialing := by
  cases c with
  | sweep => rfl
  | turn wordFirst => exact onto_turnDoings s wordFirst
  | act a =>
    cases a with
    | link a => by_cases hdropped : s.isDropped <;> simp [cue, Session.act, cueDoings, hdropped, Doing.onto]
    | network e => by_cases hdropped : s.isDropped <;> simp [cue, Session.act, hear, cueDoings, hdropped, Doing.onto]
    | advance ms =>
      rw [cueDoings, List.foldl_append, ← onto_settleDoings]
      exact onto_runToDoings (s.settle.now + ms) s.settle
    | drop => by_cases hidle : s.dials = [] <;> simp [cue, Session.act, drop, cueDoings, hidle, Doing.onto, mapLink]
    | take | forget | monitor | tell | orphan => rfl

/-- The doings account for the link. -/
theorem onto_doings (s : Session κ) (cs : List (Cue κ)) :
    (s.cues cs).toDialing = (s.doings cs).foldl Doing.onto s.toDialing := by
  induction cs generalizing s with
  | nil => rfl
  | cons c cs ih =>
    rw [doings, List.foldl_append, ← onto_cueDoings]
    exact ih (s.cue c)

end Session
end ServiceLink.Link
