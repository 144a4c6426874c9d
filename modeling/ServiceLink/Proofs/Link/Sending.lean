import ServiceLink.Proofs.Calls.Entering

/-! What sending does to a link. A send that fails leaves the link as it was, but for the counter of ids;
a send that succeeds queues one frame with the entries in order, and enters exactly their calls. -/

namespace ServiceLink

def BatchEntry.request (e : BatchEntry) (r : Option Receipt) : Rpc.Request :=
  { Rpc.Request.notification e.method e.params with id := r.map (·.id) }

namespace Link

open Calls (Entered Undone)

variable {κ : Type}

def callCount (entries : List BatchEntry) : Nat := entries.countP (¬ ·.isNotification)

/-! ### Entering a batch -/

/-- What becomes of a table into which the calls of a batch are entered: either every entry has its
request and its place for a receipt, or all is taken back for want of free ids. -/
def Enters (now : Nat) (c : Calls) (entries : List BatchEntry) :
    Option (List (Rpc.Request × Option Receipt)) → Calls → Prop
  | none, d => Undone c d ∧ (c.Sound → c.ceiling < c.size + callCount entries)
  | some entered, d =>
    Entered now c (entered.filterMap (·.2)) d ∧
      entered.map (·.1) = List.zipWith BatchEntry.request entries (entered.map (·.2)) ∧
      entered.map (·.2.isSome) = entries.map (! ·.isNotification)

theorem enters_notification {now : Nat} {c d : Calls} {e : BatchEntry} {rest : List BatchEntry}
    {result : Option (List (Rpc.Request × Option Receipt))} (he : e.isNotification)
    (h : Enters now c rest result d) :
    Enters now c (e :: rest) (result.map ((Rpc.Request.notification e.method e.params, none) :: ·)) d := by
  cases result with
  | none => exact ⟨h.1, fun hs => by simpa [callCount, he] using h.2 hs⟩
  | some entered =>
    obtain ⟨hc, hr, hp⟩ := h
    have hreq : e.request none = Rpc.Request.notification e.method e.params := rfl
    exact ⟨hc, by simp [hr, hreq], by simp [hp, he]⟩

theorem enters_refused {now : Nat} {c : Calls} {e : BatchEntry} (rest : List BatchEntry)
    (he : ¬ e.isNotification) (h : c.register now = none) : Enters now c (e :: rest) none c := by
  refine ⟨.refl c, fun hs => ?_⟩
  have hle := Calls.ceiling_le_size_of_register hs h
  have hcount : callCount (e :: rest) = callCount rest + 1 := by simp [callCount, he]
  omega

theorem enters_takenBack {now : Nat} {c c' d : Calls} {e : BatchEntry} {rest : List BatchEntry}
    {r : Receipt} (he : ¬ e.isNotification) (hreg : c.register now = some (r, c'))
    (h : Enters now c' rest none d) : Enters now c (e :: rest) none (d.cancel r.id) := by
  have hone := Entered.one hreg
  refine ⟨.cancel hone h.1, fun hs => ?_⟩
  have hlt := h.2 (hone.sound hs)
  have hsize : c'.size = c.size + 1 := by simp [Calls.size, hone.inFlight]
  have hcount : callCount (e :: rest) = callCount rest + 1 := by simp [callCount, he]
  rw [hone.ceiling, hsize] at hlt
  omega

theorem enters_call {now : Nat} {c c' d : Calls} {e : BatchEntry} {rest : List BatchEntry}
    {r : Receipt} {entered : List (Rpc.Request × Option Receipt)} (he : ¬ e.isNotification)
    (hreg : c.register now = some (r, c')) (h : Enters now c' rest (some entered) d) :
    Enters now c (e :: rest)
      (some ((Rpc.Request.call e.method e.params r.id, some r) :: entered)) d := by
  obtain ⟨hc, hr, hp⟩ := h
  have hreq : e.request (some r) = Rpc.Request.call e.method e.params r.id := rfl
  exact ⟨.cons hreg hc, by simp [hr, hreq], by simp [hp, he]⟩

theorem enter_spec (now : Nat) (c : Calls) (entries : List BatchEntry) :
    Enters now c entries (enter now c entries).1 (enter now c entries).2 := by
  fun_induction enter now c entries with
  | case1 c => exact ⟨.nil c, rfl, rfl⟩
  | case2 c e rest he entered d hrest ih =>
    rw [hrest] at ih
    exact enters_notification he ih
  | case3 c e rest he hreg => exact enters_refused rest he hreg
  | case4 c e rest he r c' hreg d hrest ih =>
    rw [hrest] at ih
    exact enters_takenBack he hreg ih
  | case5 c e rest he r c' hreg entered d hrest ih =>
    rw [hrest] at ih
    exact enters_call he hreg ih

/-! ### The link before and after -/

/-- Nothing of a failed send is left: the calls in flight with their times of sending and the responses
handed out are as before, and so is all else but the counter of ids. -/
structure Unsent (l l' : Link κ) : Prop where
  calls : Undone l.calls l'.calls
  others : l' = { l with calls := l'.calls }

/-- Entries were sent with these receipts, as these frames. -/
structure Sent (l : Link κ) (now : Nat) (entries : List BatchEntry)
    (receipts : List (Option Receipt)) (frames : List OutboundFrame) (l' : Link κ) : Prop where
  /-- Each entry has a place, and exactly the calls have receipts there. -/
  places : receipts.map (·.isSome) = entries.map (! ·.isNotification)
  calls : Entered now l.calls (receipts.filterMap id) l'.calls
  outbound : l'.outbound = l.outbound ++ frames
  others : l' = { l with calls := l'.calls, outbound := l'.outbound, sweep := l'.sweep }

/-- Why so many calls were not sent: nobody reads the queue, or they are more than the free ids. -/
def Refuses (l : Link κ) (calls : Nat) (cause : LinkError) : Prop :=
  cause = .notConnected ∧ l.writer ≠ .live ∨
    cause = .callIdsExhausted l.calls.ceiling ∧ l.calls.ceiling < l.calls.size + calls

def Settles (l : Link κ) (now : Nat) (entries : List BatchEntry)
    (frames : List (Option Receipt) → List OutboundFrame) :
    Except LinkError (List (Option Receipt)) → Link κ → Prop
  | .error cause, l' => l.Unsent l' ∧ (l.calls.Sound → l.Refuses (callCount entries) cause)
  | .ok receipts, l' => l.Sent now entries receipts (frames receipts) l'

def singleFrame (e : BatchEntry) (receipts : List (Option Receipt)) : List OutboundFrame :=
  receipts.map fun r => .text (e.request r).toJson.render

def batchFrame (entries : List BatchEntry) (receipts : List (Option Receipt)) : List OutboundFrame :=
  if entries.isEmpty then []
  else [.text (Json.array ((List.zipWith BatchEntry.request entries receipts).map (·.toJson))).render]

theorem ensureSweep_eq (l : Link κ) (now : Nat) :
    l.ensureSweep now = { l with sweep := (l.ensureSweep now).sweep } := by
  unfold ensureSweep
  split <;> rfl

theorem sendJson?_eq_some {l sent : Link κ} {j : Json} (h : l.sendJson? j = some sent) :
    sent = { l with outbound := l.outbound ++ [.text j.render] } := by
  simp only [sendJson?, send?] at h
  split at h
  · exact (Option.some.inj h).symm
  · cases h

theorem writer_ne_live {l : Link κ} {j : Json} (h : l.sendJson? j = none) : l.writer ≠ .live := by
  intro hl
  simp [sendJson?, send?, hl] at h

theorem unsent_self (l : Link κ) : l.Unsent l := ⟨.refl _, rfl⟩

theorem refuses_of_absent {l : Link κ} (h : l.writer = .absent) (n : Nat) :
    l.Refuses n .notConnected :=
  .inl ⟨rfl, by simp [h]⟩

theorem call_settles (l : Link κ) (now : Nat) (method : String) (params : Option Json) :
    l.Settles now [{ method, params }] (singleFrame { method, params })
      ((l.call now method params).1.map fun r => [some r]) (l.call now method params).2 := by
  unfold call
  split
  · exact ⟨unsent_self l, fun _ => refuses_of_absent ‹_› _⟩
  · cases hreg : l.calls.register now with
    | none =>
      refine ⟨unsent_self l, fun hs => .inr ⟨rfl, ?_⟩⟩
      have hle := Calls.ceiling_le_size_of_register hs hreg
      simp only [callCount]
      simp
      omega
    | some p =>
      obtain ⟨r, calls⟩ := p
      have hone : Entered now l.calls [r] calls := .one hreg
      dsimp only
      split
      · rename_i hsend
        have hw : ({ l with calls } : Link κ).writer ≠ .live := writer_ne_live hsend
        exact ⟨⟨.cancel hone (.refl _), rfl⟩, fun _ => .inl ⟨rfl, hw⟩⟩
      · rename_i sent hsend
        cases sendJson?_eq_some hsend
        show Sent _ _ _ [some r] _ _
        rw [ensureSweep_eq]
        exact ⟨rfl, hone, rfl, rfl⟩

theorem notify_settles (l : Link κ) (now : Nat) (method : String) (params : Option Json) :
    l.Settles now [{ method, params, isNotification := true }]
      (singleFrame { method, params, isNotification := true })
      ((l.notify method params).1.map fun _ => [none]) (l.notify method params).2 := by
  unfold notify
  split
  · rename_i hsend
    exact ⟨unsent_self l, fun _ => .inl ⟨rfl, writer_ne_live hsend⟩⟩
  · rename_i sent hsend
    cases sendJson?_eq_some hsend
    exact ⟨rfl, .nil _, rfl, rfl⟩

theorem batch_settles (l : Link κ) (now : Nat) (entries : List BatchEntry) :
    l.Settles now entries (batchFrame entries) (l.batch now entries).1 (l.batch now entries).2 := by
  unfold batch
  split
  · rename_i hnil
    rw [List.isEmpty_iff.1 hnil]
    exact ⟨rfl, .nil _, by simp [batchFrame], rfl⟩
  · rename_i hne
    split
    · exact ⟨unsent_self l, fun _ => refuses_of_absent ‹_› _⟩
    · have hspec := enter_spec now l.calls entries
      cases henter : enter now l.calls entries with
      | mk result calls =>
        rw [henter] at hspec
        cases result with
        | none => exact ⟨⟨hspec.1, rfl⟩, fun hs => .inr ⟨rfl, hspec.2 hs⟩⟩
        | some entered =>
          obtain ⟨hcalls, hreq, hplaces⟩ := hspec
          have hreceipts : (entered.map (·.2)).filterMap id = entered.filterMap (·.2) := by
            simp [List.filterMap_map]
          dsimp only
          split
          · rename_i hsend
            have hw : ({ l with calls } : Link κ).writer ≠ .live := writer_ne_live hsend
            refine ⟨⟨?_, rfl⟩, fun _ => .inl ⟨rfl, hw⟩⟩
            rw [hreceipts]
            exact .cancel hcalls (.refl _)
          · rename_i sent hsend
            cases sendJson?_eq_some hsend
            show Sent _ _ _ (entered.map (·.2)) _ _
            rw [ensureSweep_eq]
            refine ⟨by simpa [Function.comp_def] using hplaces, hreceipts ▸ hcalls, ?_, rfl⟩
            simp only [batchFrame, hne, ← hreq, List.map_map]
            rfl

end Link
end ServiceLink
