import Mathlib.Data.List.Nodup
import Mathlib.Data.List.Perm.Subperm
import ServiceLink.Link.Basic

/-! The table of calls in flight. Ids and tickets in flight are not repeated, ids lie between one and the
ceiling, and each operation changes the responses of the calls it ends and no others. An id is refused
only when every id is in flight. -/

namespace ServiceLink.Calls

/-- What every table that was used from the start satisfies. -/
structure Sound (c : Calls) : Prop where
  ids : (c.inFlight.map (·.id)).Nodup
  tickets : (c.inFlight.map (·.ticket)).Nodup
  known : ∀ call ∈ c.inFlight, call.ticket < c.responses.length
  inRange : ∀ call ∈ c.inFlight, 1 ≤ call.id ∧ call.id ≤ c.ceiling
  counter : 1 ≤ c.nextId ∧ c.nextId ≤ c.ceiling

theorem sound_withCeiling (ceiling : Nat) : (withCeiling ceiling).Sound := by
  refine ⟨.nil, .nil, by simp [withCeiling], by simp [withCeiling], ?_⟩
  show 1 ≤ 1 ∧ 1 ≤ max ceiling 1
  omega

theorem Sound.eq_of_id {c : Calls} (h : c.Sound) {a b : InFlight} (ha : a ∈ c.inFlight)
    (hb : b ∈ c.inFlight) (hid : a.id = b.id) : a = b :=
  List.inj_on_of_nodup_map h.ids ha hb hid

theorem Sound.eq_of_ticket {c : Calls} (h : c.Sound) {a b : InFlight} (ha : a ∈ c.inFlight)
    (hb : b ∈ c.inFlight) (ht : a.ticket = b.ticket) : a = b :=
  List.inj_on_of_nodup_map h.tickets ha hb ht

/-! ### The search for a free id -/

theorem after_inRange {c : Calls} {id : Nat} (h : 1 ≤ id ∧ id ≤ c.ceiling) :
    1 ≤ c.after id ∧ c.after id ≤ c.ceiling := by
  unfold after
  split <;> omega

theorem search_inRange {c : Calls} {steps start id : Nat} (h : 1 ≤ start ∧ start ≤ c.ceiling)
    (hs : c.search steps start = some id) : 1 ≤ id ∧ id ≤ c.ceiling := by
  induction steps generalizing start with
  | zero => simp [search] at hs
  | succ steps ih =>
    simp only [search] at hs
    split at hs
    · exact ih (after_inRange h) hs
    · cases hs
      exact h

/-- The id so many places behind another in cyclic order. -/
def ahead (c : Calls) (start places : Nat) : Nat := (start - 1 + places) % c.ceiling + 1

theorem ahead_zero {c : Calls} {start : Nat} (h : 1 ≤ start ∧ start ≤ c.ceiling) :
    c.ahead start 0 = start := by
  have hlt : start - 1 < c.ceiling := by omega
  simp only [ahead, Nat.add_zero, Nat.mod_eq_of_lt hlt]
  omega

theorem ahead_after {c : Calls} {start : Nat} (places : Nat) (h : 1 ≤ start ∧ start ≤ c.ceiling) :
    c.ahead (c.after start) places = c.ahead start (places + 1) := by
  unfold ahead after
  split
  · rename_i hle
    have : start - 1 + (places + 1) = places + c.ceiling := by omega
    rw [this, Nat.add_mod_right]
    simp
  · have : start + 1 - 1 + places = start - 1 + (places + 1) := by omega
    rw [this]

theorem contains_of_search_none {c : Calls} {steps start places : Nat}
    (h : 1 ≤ start ∧ start ≤ c.ceiling) (hs : c.search steps start = none) (hp : places < steps) :
    c.contains (c.ahead start places) := by
  induction steps generalizing start places with
  | zero => omega
  | succ steps ih =>
    simp only [search] at hs
    split at hs
    · rename_i hc
      cases places with
      | zero => rwa [ahead_zero h]
      | succ places =>
        rw [← ahead_after places h]
        exact ih (after_inRange h) hs (by omega)
    · cases hs

theorem exists_ahead_eq {c : Calls} {start id : Nat} (h : 1 ≤ start ∧ start ≤ c.ceiling)
    (hid : 1 ≤ id ∧ id ≤ c.ceiling) : ∃ places < c.ceiling, c.ahead start places = id := by
  by_cases hle : start ≤ id
  · refine ⟨id - start, by omega, ?_⟩
    have : start - 1 + (id - start) = id - 1 := by omega
    rw [ahead, this, Nat.mod_eq_of_lt (by omega)]
    omega
  · refine ⟨id + c.ceiling - start, by omega, ?_⟩
    have : start - 1 + (id + c.ceiling - start) = id - 1 + c.ceiling := by omega
    rw [ahead, this, Nat.add_mod_right, Nat.mod_eq_of_lt (by omega)]
    omega

theorem ceiling_le_size {c : Calls} (h : ∀ id, 1 ≤ id ∧ id ≤ c.ceiling → c.contains id) :
    c.ceiling ≤ c.size := by
  have hsub : List.range' 1 c.ceiling ⊆ c.inFlight.map (·.id) := by
    intro id hid
    rw [List.mem_range'_1] at hid
    obtain ⟨call, hmem, rfl⟩ := contains_iff.1 (h id (by omega))
    exact List.mem_map_of_mem hmem
  have hperm := List.Nodup.subperm List.nodup_range' hsub
  simpa [size] using hperm.length_le

theorem ceiling_le_size_of_register {c : Calls} {now : Nat} (hs : c.Sound)
    (h : c.register now = none) : c.ceiling ≤ c.size := by
  have hnone : c.search c.ceiling c.nextId = none := by simpa [register, freeId?] using h
  refine ceiling_le_size fun id hid => ?_
  obtain ⟨places, hlt, rfl⟩ := exists_ahead_eq hs.counter hid
  exact contains_of_search_none hs.counter hnone hlt

/-! ### The operations on a table -/

theorem register_eq {c d : Calls} {now : Nat} {r : Receipt} (h : c.register now = some (r, d)) :
    c.freeId? = some r.id ∧ r.ticket = c.responses.length ∧
      d = { c with
        nextId := c.after r.id
        inFlight := c.inFlight ++ [⟨r.id, now, r.ticket⟩]
        responses := c.responses ++ [.waiting] } := by
  simp only [register, Option.map_eq_some_iff] at h
  obtain ⟨id, hid, hr⟩ := h
  cases hr
  exact ⟨hid, rfl, rfl⟩

theorem Sound.register {c d : Calls} {now : Nat} {r : Receipt} (hs : c.Sound)
    (h : c.register now = some (r, d)) : d.Sound := by
  have hfresh := (inFlight_of_register h).2
  obtain ⟨hid, ht, rfl⟩ := register_eq h
  have hr := search_inRange hs.counter hid
  have hnew : r.id ∉ c.inFlight.map (·.id) := by
    intro hmem
    obtain ⟨call, hcall, heq⟩ := List.mem_map.1 hmem
    exact hfresh (contains_iff.2 ⟨call, hcall, heq⟩)
  have htnew : r.ticket ∉ c.inFlight.map (·.ticket) := by
    intro hmem
    obtain ⟨call, hcall, heq⟩ := List.mem_map.1 hmem
    exact Nat.ne_of_lt (hs.known call hcall) (heq.trans ht)
  refine ⟨?_, ?_, ?_, ?_, after_inRange hr⟩
  · simpa using hs.ids.concat hnew
  · simpa using hs.tickets.concat htnew
  · intro call hmem
    rw [List.length_append]
    rcases List.mem_append.1 hmem with hmem | hmem
    · exact Nat.lt_add_right _ (hs.known call hmem)
    · rw [List.mem_singleton.1 hmem, ht]
      exact Nat.lt_succ_self _
  · intro call hmem
    rcases List.mem_append.1 hmem with hmem | hmem
    · exact hs.inRange call hmem
    · rw [List.mem_singleton.1 hmem]
      exact hr

theorem length_foldl_modify (calls : List InFlight) (outcome : Outcome) (rs : List Response) :
    (calls.foldl (fun rs call => rs.modify call.ticket (·.resolve outcome)) rs).length =
      rs.length := by
  induction calls generalizing rs with
  | nil => rfl
  | cons call calls ih => rw [List.foldl_cons, ih, List.length_modify]

@[simp] theorem length_responses_finish (c : Calls) (ends : InFlight → Bool) (outcome : Outcome) :
    (c.finish ends outcome).responses.length = c.responses.length :=
  length_foldl_modify _ _ _

theorem Sound.finish {c : Calls} (hs : c.Sound) (ends : InFlight → Bool) (outcome : Outcome) :
    (c.finish ends outcome).Sound := by
  have hsub : (c.finish ends outcome).inFlight.Sublist c.inFlight := List.filter_sublist
  refine ⟨hs.ids.sublist (hsub.map _), hs.tickets.sublist (hsub.map _), ?_, ?_, hs.counter⟩
  · intro call hmem
    rw [length_responses_finish]
    exact hs.known call (hsub.subset hmem)
  · exact fun call hmem => hs.inRange call (hsub.subset hmem)

theorem Sound.take {c : Calls} (hs : c.Sound) (ticket : Ticket) : (c.take ticket).2.Sound := by
  refine ⟨hs.ids, hs.tickets, fun call hmem => ?_, hs.inRange, hs.counter⟩
  simpa [Calls.take] using hs.known call hmem

theorem Sound.forget {c : Calls} (hs : c.Sound) (ticket : Ticket) : (c.forget ticket).Sound := by
  refine ⟨hs.ids, hs.tickets, fun call hmem => ?_, hs.inRange, hs.counter⟩
  simpa [Calls.forget] using hs.known call hmem

/-! ### The responses -/

theorem response_finish (c : Calls) (ends : InFlight → Bool) (outcome : Outcome) (t : Ticket) :
    (c.finish ends outcome).response t =
      if c.inFlight.any (fun call => ends call && call.ticket = t) then
        (c.response t).resolve outcome
      else c.response t := by
  have hfold : ∀ (calls : List InFlight) (rs : List Response),
      ((calls.foldl (fun rs call => rs.modify call.ticket (·.resolve outcome)) rs)[t]?).getD
          .closed =
        if calls.any (·.ticket = t) then ((rs[t]?).getD .closed).resolve outcome
        else (rs[t]?).getD .closed := by
    intro calls
    induction calls with
    | nil => simp
    | cons call calls ih =>
      intro rs
      have hone : ((rs.modify call.ticket (·.resolve outcome))[t]?).getD .closed =
          if call.ticket = t then ((rs[t]?).getD .closed).resolve outcome
          else (rs[t]?).getD .closed := by
        rw [List.getElem?_modify]
        cases rs[t]? <;> by_cases ht : call.ticket = t <;> simp [ht, Response.resolve]
      rw [List.foldl_cons, ih, hone]
      -- a response resolved twice with one outcome is resolved once
      by_cases ht : call.ticket = t <;> by_cases hany : calls.any (·.ticket = t) <;>
        simp [ht, hany]
  simpa [Calls.finish, response, List.any_filter] using hfold (c.inFlight.filter ends) c.responses

theorem response_take (c : Calls) (ticket t : Ticket) :
    (c.take ticket).2.response t =
      if t = ticket then (c.response ticket).take.2 else c.response t := by
  by_cases heq : t = ticket
  · subst heq
    rcases Nat.lt_or_ge t c.responses.length with hlt | hge
    · simp [Calls.take, response, hlt]
    · simp [Calls.take, response, hge, Response.take]
  · simp [Calls.take, response, heq, List.getElem?_set_ne (Ne.symm heq)]

theorem response_forget (c : Calls) (ticket t : Ticket) :
    (c.forget ticket).response t = if t = ticket then .closed else c.response t := by
  by_cases heq : t = ticket
  · subst heq
    rcases Nat.lt_or_ge t c.responses.length with hlt | hge
    · simp [Calls.forget, response, hlt]
    · simp [Calls.forget, response, hge]
  · simp [Calls.forget, response, heq, List.getElem?_set_ne (Ne.symm heq)]

theorem take_fst (c : Calls) (ticket : Ticket) :
    (c.take ticket).1 = (c.response ticket).take.1 := rfl

end ServiceLink.Calls
