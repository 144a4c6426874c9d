import ServiceLink.Proofs.Calls.Entering

/-! Several calls ended with one outcome. Just those with one of the ids leave the table, and when these are the
ids of calls that were entered, the table holds what it held before. -/

namespace ServiceLink.Calls

def completeAll (c : Calls) (outcome : Outcome) (ids : List Nat) : Calls :=
  ids.foldl (fun c id => c.complete id outcome) c

variable {now : Nat} {c d : Calls} {rs : List Receipt} {outcome : Outcome} {ids : List Nat}

theorem completeAll_eq (c : Calls) (outcome : Outcome) (ids : List Nat) :
    c.completeAll outcome ids =
      { c with
        inFlight := (c.completeAll outcome ids).inFlight
        responses := (c.completeAll outcome ids).responses } := by
  induction ids generalizing c with
  | nil => rfl
  | cons id ids ih => exact ih (c.complete id outcome)

theorem inFlight_completeAll (c : Calls) (outcome : Outcome) (ids : List Nat) :
    (c.completeAll outcome ids).inFlight = c.inFlight.filter (·.id ∉ ids) := by
  induction ids generalizing c with
  | nil => simp [completeAll]
  | cons id ids ih =>
    have hrest : (c.completeAll outcome (id :: ids)).inFlight = _ := ih (c.complete id outcome)
    rw [hrest, complete, inFlight_finish, List.filter_filter]
    refine List.filter_congr fun call _ => ?_
    simp [Bool.and_comm]

theorem mem_complete {id : Nat} {call : InFlight} :
    call ∈ (c.complete id outcome).inFlight ↔ call ∈ c.inFlight ∧ call.id ≠ id := by
  simp [complete, inFlight_finish]

theorem exists_cons_iff (c : Calls) (outcome : Outcome) (id : Nat) (ids : List Nat) (t : Ticket) :
    (∃ call ∈ c.inFlight, call.id ∈ id :: ids ∧ call.ticket = t) ↔
      c.inFlight.any (fun call => call.id = id && call.ticket = t) ∨
        ∃ call ∈ (c.complete id outcome).inFlight, call.id ∈ ids ∧ call.ticket = t := by
  simp only [List.any_eq_true, mem_complete, List.mem_cons, Bool.and_eq_true, decide_eq_true_eq]
  constructor
  · rintro ⟨call, hmem, hid, ht⟩
    by_cases hfirst : call.id = id
    · exact .inl ⟨call, hmem, hfirst, ht⟩
    · exact .inr ⟨call, ⟨hmem, hfirst⟩, hid.resolve_left hfirst, ht⟩
  · rintro (⟨call, hmem, hid, ht⟩ | ⟨call, ⟨hmem, -⟩, hid, ht⟩)
    · exact ⟨call, hmem, .inl hid, ht⟩
    · exact ⟨call, hmem, .inr hid, ht⟩

theorem response_completeAll (c : Calls) (outcome : Outcome) (ids : List Nat) (t : Ticket) :
    (c.completeAll outcome ids).response t =
      if ∃ call ∈ c.inFlight, call.id ∈ ids ∧ call.ticket = t then (c.response t).resolve outcome
      else c.response t := by
  induction ids generalizing c with
  | nil => simp [completeAll]
  | cons id ids ih =>
    have hrest : (c.completeAll outcome (id :: ids)).response t = _ := ih (c.complete id outcome)
    have hfirst : (c.complete id outcome).response t = _ := response_finish c _ outcome t
    rw [hrest, hfirst]
    simp only [exists_cons_iff c outcome]
    by_cases hany : c.inFlight.any fun call => call.id = id && call.ticket = t
    · simp [hany]
    · simp [hany]

namespace Entered

theorem inFlight_completeAll (h : Entered now c rs d) (outcome : Outcome) :
    (d.completeAll outcome (rs.map (·.id))).inFlight = c.inFlight := by
  have hold : ∀ call ∈ c.inFlight, call.id ∉ rs.map (·.id) := by
    intro call hcall hid
    obtain ⟨r, hr, heq⟩ := List.mem_map.1 hid
    exact h.not_contains hr (contains_iff.2 ⟨call, hcall, heq.symm⟩)
  have hnew : ∀ call ∈ rs.map (Receipt.call now), call.id ∈ rs.map (·.id) := by
    intro call hcall
    obtain ⟨r, hr, rfl⟩ := List.mem_map.1 hcall
    exact List.mem_map_of_mem hr
  rw [Calls.inFlight_completeAll, h.inFlight, List.filter_append,
    List.filter_eq_self.2 fun call hcall => by simpa using hold call hcall,
    List.filter_eq_nil_iff.2 fun call hcall => by simpa using hnew call hcall, List.append_nil]

theorem response_of_mem (h : Entered now c rs d) (outcome : Outcome) {r : Receipt} (hr : r ∈ rs) :
    (d.completeAll outcome (rs.map (·.id))).response r.ticket = .ready outcome := by
  have hcall : r.call now ∈ d.inFlight := by
    rw [h.inFlight]
    exact List.mem_append_right _ (List.mem_map_of_mem hr)
  rw [response_completeAll, if_pos ⟨_, hcall, List.mem_map_of_mem hr, rfl⟩, h.response hr]
  rfl

theorem response_of_ne (h : Entered now c rs d) (outcome : Outcome) {t : Ticket}
    (ht : ∀ r ∈ rs, r.ticket ≠ t) :
    (d.completeAll outcome (rs.map (·.id))).response t = d.response t := by
  rw [response_completeAll, if_neg]
  rintro ⟨call, hcall, hid, rfl⟩
  rw [h.inFlight] at hcall
  rcases List.mem_append.1 hcall with hcall | hcall
  · obtain ⟨r, hr, heq⟩ := List.mem_map.1 hid
    exact h.not_contains hr (contains_iff.2 ⟨call, hcall, heq.symm⟩)
  · obtain ⟨r, hr, rfl⟩ := List.mem_map.1 hcall
    exact ht r hr rfl

end Entered

end ServiceLink.Calls
