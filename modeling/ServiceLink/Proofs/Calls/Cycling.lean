import Mathlib.Data.List.Induction
import ServiceLink.Proofs.Calls.Allocating

/-! The way of the counter. Each call moves it over ids that are in flight and over the one it hands out, and
nothing else moves it. Handing an id out again brings it back to where it stood, so it has gone all the way
round and met every other id. -/

namespace ServiceLink.Calls

variable {c d e : Calls} {actions as bs : List Action} {m n now later : Nat} {r : Receipt}

/-! ### Places in cyclic order -/

theorem ahead_congr (h : d.ceiling = c.ceiling) : d.ahead = c.ahead := by
  funext start places
  rw [ahead, ahead, h]

theorem ahead_ahead (c : Calls) (start m n : Nat) :
    c.ahead (c.ahead start m) n = c.ahead start (m + n) := by
  rw [ahead, ahead, ahead, Nat.add_sub_cancel, Nat.mod_add_mod, Nat.add_assoc]

theorem after_eq_ahead {id : Nat} (h : 1 ≤ id ∧ id ≤ c.ceiling) : c.after id = c.ahead id 1 := by
  rw [← ahead_after 0 h, ahead_zero (after_inRange h)]

theorem ceiling_le_of_ahead {start : Nat} (h : 1 ≤ start ∧ start ≤ c.ceiling) (hn : 0 < n)
    (hback : c.ahead start n = start) : c.ceiling ≤ n := by
  refine Nat.le_of_not_lt fun hlt => ?_
  rw [ahead] at hback
  by_cases hwrap : start - 1 + n < c.ceiling
  · rw [Nat.mod_eq_of_lt hwrap] at hback
    omega
  · rw [Nat.mod_eq_sub_mod (by omega), Nat.mod_eq_of_lt (by omega)] at hback
    omega

/-! ### What the counter meets -/

/-- The id was handed out, or was in flight when the counter passed it. -/
inductive Meets (c : Calls) (id : Nat) : Action → Prop
  | handedOut {now : Nat} {r : Receipt} {d : Calls} :
      c.register now = some (r, d) → r.id = id → Meets c id (.register now)
  | passed {now places : Nat} :
      places < c.ceiling → c.ahead c.nextId places = id →
      (∀ p ≤ places, c.contains (c.ahead c.nextId p)) → Meets c id (.register now)

/-- One action of a run meets the id. -/
def Met (c : Calls) (actions : List Action) (id : Nat) : Prop :=
  ∃ as a bs, actions = as ++ a :: bs ∧ (c.run as).Meets id a

theorem run_append (c : Calls) (as bs : List Action) : c.run (as ++ bs) = (c.run as).run bs :=
  List.foldl_append

theorem Met.append_right {id : Nat} (h : c.Met as id) (bs : List Action) : c.Met (as ++ bs) id := by
  obtain ⟨first, a, rest, rfl, hmeets⟩ := h
  exact ⟨first, a, rest ++ bs, by simp, hmeets⟩

theorem Met.append_left {id : Nat} (h : (c.run as).Met bs id) : c.Met (as ++ bs) id := by
  obtain ⟨first, a, rest, rfl, hmeets⟩ := h
  refine ⟨as ++ first, a, rest, by simp, ?_⟩
  rwa [run_append]

/-- The counter moves over so many ids, and meets each of them. -/
structure Travels (c : Calls) (actions : List Action) (n : Nat) : Prop where
  counter : (c.run actions).nextId = c.ahead c.nextId n
  met : ∀ p < n, c.Met actions (c.ahead c.nextId p)

namespace Travels

theorem stay (hs : c.Sound) (h : (c.run actions).nextId = c.nextId) : c.Travels actions 0 :=
  ⟨h.trans (ahead_zero hs.counter).symm, fun p hp => absurd hp (Nat.not_lt_zero p)⟩

theorem entered (hs : c.Sound) (h : c.register now = some (r, d)) :
    ∃ places, c.Travels [.register now] (places + 1) := by
  obtain ⟨hsearch, -, hd⟩ := register_eq h
  obtain ⟨places, hlt, hid, hpassed⟩ := places_of_search hs.counter hsearch
  refine ⟨places, ?_, fun p hp => ⟨[], _, [], rfl, ?_⟩⟩
  · show (c.act (.register now)).nextId = _
    rw [act_register h, hd]
    show c.after r.id = _
    rw [after_eq_ahead (search_inRange hs.counter hsearch), hid, ahead_ahead]
  · show c.Meets _ _
    rcases Nat.lt_succ_iff_lt_or_eq.1 hp with hp | rfl
    · exact .passed (Nat.lt_trans hp hlt) rfl fun q hq => hpassed q (Nat.lt_of_le_of_lt hq hp)
    · exact .handedOut h hid

theorem refused (hs : c.Sound) (h : c.register now = none) :
    c.Travels [.register now] c.ceiling := by
  refine ⟨?_, fun p hp => ⟨[], _, [], rfl, ?_⟩⟩
  · show (c.act (.register now)).nextId = _
    rw [act_register_none h, ahead_ceiling hs.counter]
  · have hsearch : c.search c.ceiling c.nextId = none := by simpa [register, freeId?] using h
    exact .passed hp rfl fun q hq =>
      contains_of_search_none hs.counter hsearch (Nat.lt_of_le_of_lt hq hp)

theorem append (h : c.Travels as m) (h' : (c.run as).Travels bs n) :
    c.Travels (as ++ bs) (m + n) := by
  have hahead := ahead_congr (ceiling_run c as)
  refine ⟨?_, fun p hp => ?_⟩
  · rw [run_append, h'.counter, h.counter, hahead, ahead_ahead]
  · rcases Nat.lt_or_ge p m with hlt | hge
    · exact (h.met p hlt).append_right bs
    · have hmet := h'.met (p - m) (by omega)
      rw [h.counter, hahead, ahead_ahead, Nat.add_sub_cancel' hge] at hmet
      exact hmet.append_left

theorem one (hs : c.Sound) (action : Action) : ∃ n, c.Travels [action] n := by
  cases action with
  | register now =>
    cases h : c.register now with
    | none => exact ⟨_, refused hs h⟩
    | some entry =>
      obtain ⟨places, h⟩ := entered hs h
      exact ⟨_, h⟩
  | _ => exact ⟨0, stay hs rfl⟩

end Travels

theorem Sound.travels (hs : c.Sound) (actions : List Action) : ∃ n, c.Travels actions n := by
  induction actions generalizing c with
  | nil => exact ⟨0, .stay hs rfl⟩
  | cons action actions ih =>
    obtain ⟨m, hfirst⟩ := Travels.one hs action
    obtain ⟨n, hrest⟩ := ih (hs.act action)
    exact ⟨m + n, hfirst.append hrest⟩

theorem Travels.round (h : c.Travels actions n) (hs : c.Sound) (hn : 0 < n)
    (hback : (c.run actions).nextId = c.nextId) {id : Nat} (hid : 1 ≤ id ∧ id ≤ c.ceiling) :
    c.Met actions id := by
  have hturn := ceiling_le_of_ahead hs.counter hn (h.counter.symm.trans hback)
  obtain ⟨places, hlt, rfl⟩ := exists_ahead_eq hs.counter hid
  exact h.met places (Nat.lt_of_lt_of_le hlt hturn)

theorem Sound.met_of_same {r' : Receipt} (hs : c.Sound) (first : c.register now = some (r, d))
    (second : (d.run actions).register later = some (r', e)) (same : r'.id = r.id) {id : Nat}
    (hid : 1 ≤ id ∧ id ≤ c.ceiling) : d.Met (actions ++ [.register later]) id := by
  have hd : d.Sound := hs.register first
  obtain ⟨-, -, hdeq⟩ := register_eq first
  obtain ⟨-, -, heq⟩ := register_eq second
  have hceiling : d.ceiling = c.ceiling := by rw [hdeq]
  obtain ⟨m, hway⟩ := hd.travels actions
  obtain ⟨places, hlast⟩ := Travels.entered (hd.run actions) second
  refine (hway.append hlast).round hd (by omega) ?_ (hceiling ▸ hid)
  -- after both calls the counter stands behind the same id
  have hback : (d.run (actions ++ [.register later])).nextId = (d.run actions).after r'.id := by
    rw [run_append]
    show ((d.run actions).act (.register later)).nextId = _
    rw [act_register second, heq]
  have hstart : d.nextId = c.after r.id := by rw [hdeq]
  rw [hback, hstart, same, after, after, ceiling_run, hceiling]

/-! ### Newer calls -/

theorem mem_inFlight_run {call : InFlight} (h : call ∈ (c.run actions).inFlight) :
    call ∈ c.inFlight ∨ ∃ as later bs r e, actions = as ++ .register later :: bs ∧
      (c.run as).register later = some (r, e) ∧ call.id = r.id := by
  induction actions using List.reverseRecOn with
  | nil => exact .inl h
  | append_singleton actions action ih =>
    have hold : call ∈ (c.run actions).inFlight → call ∈ c.inFlight ∨ ∃ as later bs r e,
        actions ++ [action] = as ++ .register later :: bs ∧
        (c.run as).register later = some (r, e) ∧ call.id = r.id := by
      intro hmem
      obtain h | ⟨as, later, bs, r, e, rfl, hreg, hid⟩ := ih hmem
      · exact .inl h
      · exact .inr ⟨as, later, bs ++ [action], r, e, by simp, hreg, hid⟩
    rw [run_append] at h
    replace h : call ∈ ((c.run actions).act action).inFlight := h
    cases action with
    | register later =>
      cases hreg : (c.run actions).register later with
      | none => exact hold (by rwa [act_register_none hreg] at h)
      | some entry =>
        rw [act_register hreg, (inFlight_of_register hreg).1] at h
        rcases List.mem_append.1 h with h | h
        · exact hold h
        · exact .inr ⟨actions, later, [], entry.1, entry.2, rfl, hreg, by simp [List.mem_singleton.1 h]⟩
    | cancel id => exact hold (List.mem_of_mem_filter h)
    | complete id outcome => exact hold (List.mem_of_mem_filter h)
    | expire now timeout => exact hold (List.mem_of_mem_filter h)
    | take ticket => exact hold h
    | forget ticket => exact hold h

theorem exists_newer {outcome : Outcome} {t : Ticket} (hs : c.Sound)
    (first : c.register now = some (r, d)) (ht : t ≠ r.ticket)
    (hit : ((d.run actions).complete r.id outcome).response t ≠ (d.run actions).response t) :
    ∃ as later bs r' e, actions = as ++ .register later :: bs ∧
      (d.run as).register later = some (r', e) ∧ r'.id = r.id := by
  rw [complete, response_finish] at hit
  split at hit
  · rename_i hany
    obtain ⟨call, hmem, hcall⟩ := List.any_eq_true.1 hany
    simp only [Bool.and_eq_true, decide_eq_true_eq] at hcall
    obtain hold | ⟨as, later, bs, r', e, rfl, hreg, hid⟩ := mem_inFlight_run hmem
    · -- under this id only the first call was in flight
      have hfirst : (⟨r.id, now, r.ticket⟩ : InFlight) ∈ d.inFlight := by
        rw [(inFlight_of_register first).1]
        exact List.mem_append_right _ List.mem_cons_self
      have hsame := (hs.register first).eq_of_id hold hfirst hcall.1
      exact absurd (hcall.2.symm.trans (congrArg InFlight.ticket hsame)) ht
    · exact ⟨as, later, bs, r', e, rfl, hreg, hid.symm.trans hcall.1⟩
  · exact absurd rfl hit

/-- An id is not handed out again, and a response to an old call does not reach a newer one, before the
counter has gone through the whole range. -/
theorem id_reused_after_turn {ceiling : Nat} {before : List Action}
    (first : ((withCeiling ceiling).run before).register now = some (r, d)) (between : List Action)
    {id : Nat} (hid : 1 ≤ id ∧ id ≤ max ceiling 1) :
    (∀ later r' e, (d.run between).register later = some (r', e) → r'.id = r.id →
      d.Met (between ++ [.register later]) id) ∧
    ∀ outcome t, t ≠ r.ticket →
      ((d.run between).complete r.id outcome).response t ≠ (d.run between).response t →
      d.Met between id := by
  have hs : ((withCeiling ceiling).run before).Sound := (sound_withCeiling ceiling).run before
  have hrange : 1 ≤ id ∧ id ≤ ((withCeiling ceiling).run before).ceiling := by
    rwa [ceiling_run]
  refine ⟨fun later r' e second same => hs.met_of_same first second same hrange, ?_⟩
  intro outcome t ht hit
  obtain ⟨as, later, bs, r', e, rfl, second, same⟩ := exists_newer hs first ht hit
  have hmet := (hs.met_of_same first second same hrange).append_right bs
  rwa [List.append_assoc] at hmet

def asked : Calls := ⟨2, 3, [⟨1, 0, 0⟩], [.waiting]⟩

def firstTurn : List Action := [.cancel 1, .register 1, .register 2]

theorem id_reused_after_turn_three :
    ((withCeiling 3).run []).register 0 = some (⟨1, 0⟩, asked) ∧
    ((asked.run firstTurn).register 3).map (·.1) = some ⟨1, 3⟩ ∧
    ((asked.run (firstTurn ++ [.register 3])).complete 1 (.error .expired)).response 3 ≠
      (asked.run (firstTurn ++ [.register 3])).response 3 ∧
    ∀ id, 1 ≤ id ∧ id ≤ 3 → asked.Met (firstTurn ++ [.register 3]) id := by
  have first : ((withCeiling 3).run []).register 0 = some (⟨1, 0⟩, asked) := rfl
  have hit : ((asked.run (firstTurn ++ [.register 3])).complete 1 (.error .expired)).response 3 ≠
      (asked.run (firstTurn ++ [.register 3])).response 3 := Response.noConfusion
  exact ⟨first, rfl, hit, fun id hid =>
    (id_reused_after_turn first (firstTurn ++ [.register 3]) hid).2 _ 3 (by decide) hit⟩

end ServiceLink.Calls
