import ServiceLink.Proofs.Calls.Table
import ServiceLink.Word

/-! Handing out ids. The loop that moves the counter from id to id, in words of 64 bits, ends where the
table's own search does: at the first id that is not in flight, or, after one full turn, where it began.
So a call is refused exactly when every id is in flight, and a refusal leaves no trace. -/

namespace ServiceLink

namespace Calls

/-! ### What is done to a table -/

inductive Action
  | register (now : Nat)
  | cancel (id : Nat)
  | complete (id : Nat) (outcome : Outcome)
  | expire (now timeout : Nat)
  | take (ticket : Ticket)
  | forget (ticket : Ticket)

def act (c : Calls) : Action → Calls
  | .register now => (c.register now).elim c (·.2)
  | .cancel id => c.cancel id
  | .complete id outcome => c.complete id outcome
  | .expire now timeout => c.expire now timeout
  | .take ticket => (c.take ticket).2
  | .forget ticket => c.forget ticket

def run (c : Calls) (actions : List Action) : Calls := actions.foldl act c

variable {c d : Calls} {now : Nat} {r : Receipt}

theorem act_register (h : c.register now = some (r, d)) : c.act (.register now) = d := by
  simp only [act, h, Option.elim_some]

theorem act_register_none (h : c.register now = none) : c.act (.register now) = c := by
  simp only [act, h, Option.elim_none]

theorem Sound.act (hs : c.Sound) (action : Action) : (c.act action).Sound := by
  cases action with
  | register now =>
    cases h : c.register now with
    | none => rwa [act_register_none h]
    | some entered => exact (act_register h).symm ▸ hs.register h
  | cancel id => exact hs.finish _ _
  | complete id outcome => exact hs.finish _ _
  | expire now timeout => exact hs.finish _ _
  | take ticket => exact hs.take ticket
  | forget ticket => exact hs.forget ticket

theorem ceiling_act (c : Calls) (action : Action) : (c.act action).ceiling = c.ceiling := by
  cases action with
  | register now =>
    cases h : c.register now with
    | none => rw [act_register_none h]
    | some entered =>
      rw [act_register h]
      obtain ⟨-, -, hd⟩ := register_eq h
      rw [hd]
  | _ => rfl

theorem Sound.run (hs : c.Sound) (actions : List Action) : (c.run actions).Sound := by
  induction actions generalizing c with
  | nil => exact hs
  | cons action actions ih => exact ih (hs.act action)

theorem ceiling_run (c : Calls) (actions : List Action) : (c.run actions).ceiling = c.ceiling := by
  induction actions generalizing c with
  | nil => rfl
  | cons action actions ih => exact (ih (c.act action)).trans (ceiling_act c action)

/-! ### The first free id -/

theorem places_of_search {steps start id : Nat} (h : 1 ≤ start ∧ start ≤ c.ceiling)
    (hs : c.search steps start = some id) :
    ∃ places < steps, id = c.ahead start places ∧ ∀ p < places, c.contains (c.ahead start p) := by
  induction steps generalizing start with
  | zero => cases hs
  | succ steps ih =>
    simp only [search] at hs
    split at hs
    · rename_i hc
      obtain ⟨places, hlt, rfl, hpassed⟩ := ih (after_inRange h) hs
      refine ⟨places + 1, Nat.succ_lt_succ hlt, ahead_after places h, fun p hp => ?_⟩
      cases p with
      | zero => rwa [ahead_zero h]
      | succ p =>
        rw [← ahead_after p h]
        exact hpassed p (Nat.lt_of_succ_lt_succ hp)
    · cases hs
      exact ⟨0, Nat.succ_pos steps, (ahead_zero h).symm, fun p hp => absurd hp (Nat.not_lt_zero p)⟩

theorem ahead_ceiling {start : Nat} (h : 1 ≤ start ∧ start ≤ c.ceiling) :
    c.ahead start c.ceiling = start := by
  have hlt : start - 1 < c.ceiling := by omega
  rw [ahead, Nat.add_mod_right, Nat.mod_eq_of_lt hlt]
  omega

theorem Sound.size_le_ceiling (hs : c.Sound) : c.size ≤ c.ceiling := by
  have hsub : c.inFlight.map (·.id) ⊆ List.range' 1 c.ceiling := by
    intro id hid
    obtain ⟨call, hmem, rfl⟩ := List.mem_map.1 hid
    have := hs.inRange call hmem
    rw [List.mem_range'_1]
    omega
  have hperm := List.Nodup.subperm hs.ids hsub
  simpa [size] using hperm.length_le

theorem Sound.register_isSome_iff (hs : c.Sound) (now : Nat) :
    (c.register now).isSome ↔ c.size < c.ceiling := by
  cases h : c.register now with
  | none => simpa using ceiling_le_size_of_register hs h
  | some entered =>
    obtain ⟨-, -, hd⟩ := register_eq h
    have hle : entered.2.size ≤ entered.2.ceiling := (hs.register h).size_le_ceiling
    have hsize : entered.2.size = c.size + 1 := by
      rw [hd]
      exact List.length_append
    have hceiling : entered.2.ceiling = c.ceiling := by rw [hd]
    rw [hsize, hceiling] at hle
    exact iff_of_true rfl hle

theorem Sound.contains_of_register_none (hs : c.Sound) (h : c.register now = none) {id : Nat}
    (hid : 1 ≤ id ∧ id ≤ c.ceiling) : c.contains id := by
  have hnone : c.search c.ceiling c.nextId = none := by simpa [Calls.register, freeId?] using h
  obtain ⟨places, hlt, rfl⟩ := exists_ahead_eq hs.counter hid
  exact contains_of_search_none hs.counter hnone hlt

/-! ### The loop -/

/-- The next value of the counter, unless it overflows 64 bits. -/
def wordAfter? (c : Calls) (id : Nat) : Option Nat :=
  if c.ceiling ≤ id then some 1
  else if id + 1 < Word.unsignedEnd then some (id + 1) else none

/-- The loop of `register` with a bound on its rounds: each looks at the id under the counter and moves the counter
on. There is no result if the counter overflows. -/
def allocate? (c : Calls) : Nat → Nat → Option (Except LinkError Nat × Nat)
  | 0, counter => some (.error (.callIdsExhausted c.ceiling), counter)
  | rounds + 1, counter =>
    (c.wordAfter? counter).bind fun next =>
      if c.contains counter then allocate? c rounds next else some (.ok counter, next)

def enter? (c : Calls) (now : Nat) : Option (Except LinkError Receipt × Calls) :=
  (c.allocate? c.ceiling c.nextId).map fun
    | (.error cause, counter) => (.error cause, { c with nextId := counter })
    | (.ok id, counter) =>
      (.ok ⟨id, c.responses.length⟩, { c with
        nextId := counter
        inFlight := c.inFlight ++ [⟨id, now, c.responses.length⟩]
        responses := c.responses ++ [.waiting] })

theorem wordAfter?_eq {id : Nat} (hword : c.ceiling < Word.unsignedEnd) :
    c.wordAfter? id = some (c.after id) := by
  unfold wordAfter? after
  split
  · rfl
  · rw [if_pos (by omega)]

theorem allocate?_eq (hword : c.ceiling < Word.unsignedEnd) {rounds start : Nat}
    (h : 1 ≤ start ∧ start ≤ c.ceiling) :
    c.allocate? rounds start = some (match c.search rounds start with
      | none => (.error (.callIdsExhausted c.ceiling), c.ahead start rounds)
      | some id => (.ok id, c.after id)) := by
  induction rounds generalizing start with
  | zero => simp [allocate?, search, ahead_zero h]
  | succ rounds ih =>
    rw [allocate?, wordAfter?_eq hword, Option.bind_some, search]
    split
    · rw [ih (after_inRange h), ahead_after rounds h]
    · rfl

theorem Sound.enter?_eq (hs : c.Sound) (hword : c.ceiling < Word.unsignedEnd) (now : Nat) :
    c.enter? now = some (match c.register now with
      | none => (.error (.callIdsExhausted c.ceiling), c)
      | some (r, d) => (.ok r, d)) := by
  rw [enter?, allocate?_eq hword hs.counter, Calls.register, freeId?]
  cases c.search c.ceiling c.nextId with
  | none => simp [ahead_ceiling hs.counter]
  | some id => rfl

/-! ### Freeing an id of a full table -/

inductive Frees (c : Calls) (id : Nat) : Action → Prop
  | cancel : Frees c id (.cancel id)
  | complete (outcome : Outcome) : Frees c id (.complete id outcome)
  | expire {now timeout : Nat} :
      (∀ call ∈ c.inFlight, isExpired now timeout call ↔ call.id = id) →
      Frees c id (.expire now timeout)

theorem Frees.finish {id : Nat} {action : Action} (h : c.Frees id action) :
    ∃ ends outcome, c.act action = c.finish ends outcome ∧
      ∀ call ∈ c.inFlight, ends call ↔ call.id = id := by
  cases h with
  | cancel => exact ⟨_, _, rfl, fun _ _ => decide_eq_true_iff⟩
  | complete outcome => exact ⟨_, _, rfl, fun _ _ => decide_eq_true_iff⟩
  | expire h => exact ⟨_, _, rfl, h⟩

theorem Sound.register_of_frees (hs : c.Sound) (hfull : c.register now = none) {id : Nat}
    {action : Action} (hid : 1 ≤ id ∧ id ≤ c.ceiling) (h : c.Frees id action) (later : Nat) :
    ((c.act action).register later).map (·.1.id) = some id := by
  obtain ⟨ends, outcome, hact, hends⟩ := h.finish
  have hsound : (c.finish ends outcome).Sound := hs.finish ends outcome
  have hfree : ¬ (c.finish ends outcome).contains id := by
    intro hc
    obtain ⟨call, hmem, rfl⟩ := contains_iff.1 hc
    obtain ⟨hmem, hstays⟩ := List.mem_filter.1 hmem
    simp [(hends call hmem).2 rfl] at hstays
  have hothers : ∀ k, 1 ≤ k ∧ k ≤ c.ceiling → k ≠ id → (c.finish ends outcome).contains k := by
    intro k hk hne
    obtain ⟨call, hmem, rfl⟩ := contains_iff.1 (hs.contains_of_register_none hfull hk)
    have hstays : ends call = false := Bool.eq_false_iff.2 fun he => hne ((hends call hmem).1 he)
    exact contains_iff.2 ⟨call, List.mem_filter.2 ⟨hmem, by simp [hstays]⟩, rfl⟩
  rw [hact]
  cases hreg : (c.finish ends outcome).register later with
  | none => exact absurd (hsound.contains_of_register_none hreg hid) hfree
  | some entered =>
    obtain ⟨hsearch, -, -⟩ := register_eq hreg
    have hrange := search_inRange hsound.counter hsearch
    have hout := (inFlight_of_register hreg).2
    exact congrArg some (Decidable.byContradiction fun hne => hout (hothers _ hrange hne))

/-! ### Exact allocation -/

/-- How a table with ids from one to a ceiling hands them out. -/
structure Allocates (ceiling : Nat) (c : Calls) : Prop where
  ceiling_eq : c.ceiling = ceiling
  counter : 1 ≤ c.nextId ∧ c.nextId ≤ ceiling
  ids : ∀ call ∈ c.inFlight, 1 ≤ call.id ∧ call.id ≤ ceiling
  /-- A call is entered just when fewer are in flight than there are ids. -/
  succeeds : ∀ now, (c.register now).isSome ↔ c.size < ceiling
  /-- It gets the first id in cyclic order from the counter on that is not in flight, and all other calls
  stay as they are. -/
  first : ∀ now r d, c.register now = some (r, d) →
    ¬ c.contains r.id ∧
    (∃ places < ceiling, r.id = c.ahead c.nextId places ∧
      ∀ p < places, c.contains (c.ahead c.nextId p)) ∧
    d = { c with
      nextId := c.after r.id
      inFlight := c.inFlight ++ [⟨r.id, now, c.responses.length⟩]
      responses := c.responses ++ [.waiting] }
  /-- The loop with its counter in 64 bits never overflows and does the same; having failed it stands where
  it began. -/
  loop : ceiling < Word.unsignedEnd → ∀ now, c.enter? now = some (match c.register now with
    | none => (.error (.callIdsExhausted ceiling), c)
    | some (r, d) => (.ok r, d))
  /-- A link with a writer reports the refusal, and nothing of it changes. -/
  reported : ∀ (κ : Type) (l : Link κ) now method params, l.calls = c → l.writer ≠ .absent →
    c.register now = none → l.call now method params = (.error (.callIdsExhausted ceiling), l)
  /-- After a refusal the next id that becomes free is the next to be handed out. -/
  freed : ∀ now, c.register now = none → ∀ id, 1 ≤ id ∧ id ≤ ceiling → ∀ action, c.Frees id action →
    ∀ later, ((c.act action).register later).map (·.1.id) = some id

theorem Sound.allocates (hs : c.Sound) : c.Allocates c.ceiling where
  ceiling_eq := rfl
  counter := hs.counter
  ids := hs.inRange
  succeeds := hs.register_isSome_iff
  first now r d h := by
    obtain ⟨hsearch, ht, hd⟩ := register_eq h
    exact ⟨(inFlight_of_register h).2, places_of_search hs.counter hsearch, ht ▸ hd⟩
  loop hword := hs.enter?_eq hword
  reported κ l now method params hl hwriter h := by
    subst hl
    rw [Link.call, if_neg hwriter, h]
  freed now h id hid action hfrees := hs.register_of_frees h hid hfrees

/-- Ids are handed out exactly, whatever was done to the table before. -/
theorem run_allocates (ceiling : Nat) (actions : List Action) :
    ((withCeiling ceiling).run actions).Allocates (max ceiling 1) := by
  have h := ((sound_withCeiling ceiling).run actions).allocates
  rwa [ceiling_run] at h

end Calls
end ServiceLink
