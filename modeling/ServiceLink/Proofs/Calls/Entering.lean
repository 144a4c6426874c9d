import ServiceLink.Proofs.Calls.Table

/-! Calls entered one after the other at one time, and taken back when they cannot be sent. A table from
which every new call was taken back holds the calls it held before; only its counter may have moved. -/

namespace ServiceLink

def Receipt.call (now : Nat) (r : Receipt) : InFlight := ⟨r.id, now, r.ticket⟩

namespace Calls

/-- Calls were entered at a time, with these receipts in order. -/
inductive Entered (now : Nat) : Calls → List Receipt → Calls → Prop
  | nil (c : Calls) : Entered now c [] c
  | cons {c d e : Calls} {r : Receipt} {rs : List Receipt} :
      c.register now = some (r, d) → Entered now d rs e → Entered now c (r :: rs) e

namespace Entered

variable {now : Nat} {c d : Calls} {rs : List Receipt}

theorem one {r : Receipt} (h : c.register now = some (r, d)) : Entered now c [r] d := .cons h (.nil d)

theorem sound (h : Entered now c rs d) (hs : c.Sound) : d.Sound := by
  induction h with
  | nil => exact hs
  | cons hr _ ih => exact ih (hs.register hr)

theorem ceiling (h : Entered now c rs d) : d.ceiling = c.ceiling := by
  induction h with
  | nil => rfl
  | cons hr _ ih =>
    obtain ⟨-, -, rfl⟩ := register_eq hr
    exact ih

theorem inFlight (h : Entered now c rs d) :
    d.inFlight = c.inFlight ++ rs.map (Receipt.call now) := by
  induction h with
  | nil => simp
  | cons hr _ ih =>
    rw [ih, (inFlight_of_register hr).1]
    simp [Receipt.call]

theorem responses (h : Entered now c rs d) :
    d.responses = c.responses ++ List.replicate rs.length .waiting := by
  induction h with
  | nil => simp
  | cons hr _ ih =>
    obtain ⟨-, -, rfl⟩ := register_eq hr
    rw [ih]
    simp [List.replicate_succ]

theorem tickets (h : Entered now c rs d) :
    rs.map (·.ticket) = List.range' c.responses.length rs.length := by
  induction h with
  | nil => rfl
  | cons hr _ ih =>
    obtain ⟨-, ht, rfl⟩ := register_eq hr
    rw [List.map_cons, ih, ht, List.length_cons, List.range'_succ]
    simp

theorem not_contains (h : Entered now c rs d) {r : Receipt} (hr : r ∈ rs) : ¬ c.contains r.id := by
  induction h with
  | nil => simp at hr
  | @cons c d e r' rs hreg _ ih =>
    obtain ⟨heq, hfresh⟩ := inFlight_of_register hreg
    rcases List.mem_cons.1 hr with rfl | hr
    · exact hfresh
    · intro hc
      obtain ⟨call, hcall, hid⟩ := contains_iff.1 hc
      exact ih hr (contains_iff.2 ⟨call, heq ▸ List.mem_append_left _ hcall, hid⟩)

theorem nodup_ids (h : Entered now c rs d) : (rs.map (·.id)).Nodup := by
  induction h with
  | nil => exact .nil
  | @cons c d e r rs hreg hrest ih =>
    refine List.nodup_cons.2 ⟨fun hmem => ?_, ih⟩
    obtain ⟨r', hr', hid⟩ := List.mem_map.1 hmem
    refine hrest.not_contains hr' (contains_iff.2 ⟨r.call now, ?_, hid.symm⟩)
    rw [(inFlight_of_register hreg).1]
    exact List.mem_append_right _ List.mem_cons_self

theorem le_ticket (h : Entered now c rs d) {r : Receipt} (hr : r ∈ rs) :
    c.responses.length ≤ r.ticket := by
  have hmem : r.ticket ∈ rs.map (·.ticket) := List.mem_map_of_mem hr
  rw [h.tickets, List.mem_range'_1] at hmem
  exact hmem.1

theorem response (h : Entered now c rs d) {r : Receipt} (hr : r ∈ rs) :
    d.response r.ticket = .waiting := by
  have hmem : r.ticket ∈ rs.map (·.ticket) := List.mem_map_of_mem hr
  rw [h.tickets, List.mem_range'_1] at hmem
  have hlt := Nat.sub_lt_left_of_lt_add hmem.1 hmem.2
  simp [Calls.response, h.responses, List.getElem?_append_right hmem.1, hlt]

end Entered

/-! ### Taking back -/

/-- The calls in flight are those from before, with their times of sending, and the responses already
handed out are as they were. -/
structure Undone (c d : Calls) : Prop where
  ceiling : d.ceiling = c.ceiling
  inFlight : d.inFlight = c.inFlight
  responses : c.responses <+: d.responses
  sound : c.Sound → d.Sound

theorem Undone.refl (c : Calls) : Undone c c := ⟨rfl, rfl, List.prefix_rfl, id⟩

theorem prefix_finish {responses : List Response} {d : Calls} {ends : InFlight → Bool}
    {outcome : Outcome} (h : responses <+: d.responses)
    (late : ∀ call ∈ d.inFlight, ends call → responses.length ≤ call.ticket) :
    responses <+: (d.finish ends outcome).responses := by
  have hfold : ∀ (calls : List InFlight) (rs : List Response), responses <+: rs →
      (∀ call ∈ calls, responses.length ≤ call.ticket) →
      responses <+: calls.foldl (fun rs call => rs.modify call.ticket (·.resolve outcome)) rs := by
    intro calls
    induction calls with
    | nil => exact fun rs h _ => h
    | cons call calls ih =>
      intro rs hrs hlate
      refine ih _ ?_ fun k hk => hlate k (List.mem_cons_of_mem _ hk)
      obtain ⟨rest, rfl⟩ := hrs
      obtain ⟨n, hn⟩ := Nat.exists_eq_add_of_le (hlate call List.mem_cons_self)
      show responses <+: (responses ++ rest).modify call.ticket (·.resolve outcome)
      rw [hn, List.modify, List.modifyTailIdx_add]
      exact List.prefix_append _ _
  refine hfold _ _ h fun call hcall => ?_
  obtain ⟨hmem, hends⟩ := List.mem_filter.1 hcall
  exact late call hmem hends

theorem Undone.cancel {now : Nat} {c d e : Calls} {rs : List Receipt} (h : Entered now c rs d)
    (hd : Undone d e) : Undone c (rs.foldl (fun c r => c.cancel r.id) e) := by
  have hlate : ∀ call ∈ d.inFlight, call.id ∈ rs.map (·.id) → c.responses.length ≤ call.ticket := by
    intro call hcall hid
    obtain ⟨r, hr, hid⟩ := List.mem_map.1 hid
    rw [h.inFlight] at hcall
    rcases List.mem_append.1 hcall with hold | hnew
    · exact absurd (contains_iff.2 ⟨call, hold, hid.symm⟩) (h.not_contains hr)
    · obtain ⟨r', hr', rfl⟩ := List.mem_map.1 hnew
      exact h.le_ticket hr'
  -- the receipts still to be cancelled, the table so far, and what it keeps of the first one
  have hfold : ∀ (late : List Receipt) (f : Calls), late ⊆ rs → f.inFlight ⊆ d.inFlight →
      f.ceiling = c.ceiling → c.responses <+: f.responses → (c.Sound → f.Sound) →
      let g := late.foldl (fun c r => c.cancel r.id) f
      g.ceiling = c.ceiling ∧ g.inFlight = f.inFlight.filter (fun k => k.id ∉ late.map (·.id)) ∧
        c.responses <+: g.responses ∧ (c.Sound → g.Sound) := by
    intro late
    induction late with
    | nil => intro f _ _ hc hr hs; exact ⟨hc, by simp, hr, hs⟩
    | cons r late ih =>
      intro f hsub hin hc hr hs
      have hstep := ih (f.cancel r.id) (fun x hx => hsub (List.mem_cons_of_mem _ hx))
        (fun x hx => hin (List.mem_of_mem_filter hx)) hc
        (prefix_finish hr fun call hcall hends =>
          hlate call (hin hcall) (List.mem_map.2 ⟨r, hsub List.mem_cons_self, by simp_all⟩))
        (fun hsound => (hs hsound).finish _ _)
      refine ⟨hstep.1, hstep.2.1.trans ?_, hstep.2.2⟩
      simp only [Calls.cancel, Calls.finish, List.filter_filter]
      refine List.filter_congr fun k _ => ?_
      by_cases hk : k.id = r.id <;> simp [hk]
  obtain ⟨hc, hin, hr, hs⟩ := hfold rs e (List.Subset.refl _) (hd.inFlight ▸ List.Subset.refl _)
    (hd.ceiling.trans h.ceiling) ((h.responses ▸ List.prefix_append _ _).trans hd.responses)
    fun hs => hd.sound (h.sound hs)
  refine ⟨hc, hin.trans ?_, hr, hs⟩
  rw [hd.inFlight, h.inFlight, List.filter_append]
  have hold : c.inFlight.filter (fun k => k.id ∉ rs.map (·.id)) = c.inFlight := by
    refine List.filter_eq_self.2 fun call hcall => ?_
    simp only [List.mem_map, not_exists, not_and, decide_eq_true_eq]
    exact fun r hr hid => h.not_contains hr (contains_iff.2 ⟨call, hcall, hid.symm⟩)
  have hnew : (rs.map (Receipt.call now)).filter (fun k => k.id ∉ rs.map (·.id)) = [] := by
    refine List.filter_eq_nil_iff.2 fun call hcall => ?_
    obtain ⟨r, hr, rfl⟩ := List.mem_map.1 hcall
    simpa [Receipt.call] using ⟨r, hr, rfl⟩
  rw [hold, hnew, List.append_nil]

end Calls
end ServiceLink
