/-! Background tasks that end together. A task ends by itself after some time, or never. -/

namespace ServiceLink

structure Task where
  index : Nat
  /-- When it ends by itself. -/
  endsAt : Option Nat
deriving DecidableEq, Repr

structure Tasks where
  now : Nat := 0
  spawned : Nat := 0
  running : List Task := []
  /-- Those that ended by themselves, in order. -/
  finished : List Nat := []
deriving Repr

namespace Tasks

def isOver (now : Nat) (t : Task) : Bool := t.endsAt.any (· ≤ now)

/-- The tasks whose time has come end. -/
def settle (t : Tasks) : Tasks :=
  { t with
    running := t.running.filter (¬ isOver t.now ·)
    finished := t.finished ++ (t.running.filter (isOver t.now)).map (·.index) }

def spawn (t : Tasks) (ms : Option Nat) : Tasks :=
  { t with
    spawned := t.spawned + 1
    running := t.running ++ [{ index := t.spawned, endsAt := ms.map (t.now + ·) }] : Tasks }.settle

/-- Every task that ends on the way has ended at the end. -/
def advance (t : Tasks) (ms : Nat) : Tasks := { t with now := t.now + ms }.settle

/-- All tasks end without finishing. -/
def abortAll (t : Tasks) : Tasks := { t with running := [] }

end Tasks
end ServiceLink
