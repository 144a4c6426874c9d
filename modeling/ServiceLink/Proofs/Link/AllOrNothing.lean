import ServiceLink.Proofs.Link.Runs

/-! A call, a notification or a batch is sent as a whole, or the link is left as if it had not been tried,
but for the counter of ids. -/

namespace ServiceLink.Link

variable {κ : Type}

/-- A frame for each request. -/
def separate (requests : List Rpc.Request) : List OutboundFrame :=
  requests.map fun r => .text r.toJson.render

/-- One frame for all requests, and none for no requests. -/
def together (requests : List Rpc.Request) : List OutboundFrame :=
  if requests.isEmpty then [] else [.text (Json.array (requests.map (·.toJson))).render]

/-- What a send that succeeds did. -/
structure Dispatched (l : Link κ) (now : Nat) (entries : List BatchEntry)
    (frames : List Rpc.Request → List OutboundFrame) (receipts : List (Option Receipt))
    (l' : Link κ) : Prop where
  /-- The requests are those of the entries in order, and have the ids of the receipts. -/
  requests : ∃ requests : List Rpc.Request,
    l'.outbound = l.outbound ++ frames requests ∧
      requests.map (fun r => { r with id := none }) =
        entries.map (fun e => Rpc.Request.notification e.method e.params) ∧
      requests.map (·.id) = receipts.map (·.map (·.id))
  /-- Exactly the calls among the entries have receipts. -/
  places : receipts.map (·.isSome) = entries.map (! ·.isNotification)
  distinct : ((receipts.filterMap id).map (·.id)).Nodup
  fresh : ∀ r ∈ receipts.filterMap id, ¬ l.calls.contains r.id
  added : l'.calls.inFlight = l.calls.inFlight ++ (receipts.filterMap id).map (Receipt.call now)
  others : l' = { l with calls := l'.calls, outbound := l'.outbound, sweep := l'.sweep }

def AllOrNothing (l : Link κ) (now : Nat) (entries : List BatchEntry)
    (frames : List Rpc.Request → List OutboundFrame) :
    Except LinkError (List (Option Receipt)) → Link κ → Prop
  | .error cause, l' => l.Unsent l' ∧ l.Refuses (callCount entries) cause
  | .ok receipts, l' => l.Dispatched now entries frames receipts l'

theorem request_fields (entries : List BatchEntry) (receipts : List (Option Receipt))
    (h : receipts.length = entries.length) :
    (List.zipWith BatchEntry.request entries receipts).map (fun r => { r with id := none }) =
        entries.map (fun e => Rpc.Request.notification e.method e.params) ∧
      (List.zipWith BatchEntry.request entries receipts).map (·.id) =
        receipts.map (·.map (·.id)) := by
  induction entries generalizing receipts with
  | nil => simp_all
  | cons e entries ih =>
    cases receipts with
    | nil => simp at h
    | cons r receipts =>
      obtain ⟨hsay, hids⟩ := ih receipts (by simpa using h)
      exact ⟨congrArg (_ :: ·) hsay, congrArg (_ :: ·) hids⟩

theorem Sent.dispatched {l l' : Link κ} {now : Nat} {entries : List BatchEntry}
    {receipts : List (Option Receipt)} {sent : List OutboundFrame}
    {frames : List Rpc.Request → List OutboundFrame} (h : l.Sent now entries receipts sent l')
    (hframes : sent = frames (List.zipWith BatchEntry.request entries receipts)) :
    l.Dispatched now entries frames receipts l' where
  requests := by
    have hlength : receipts.length = entries.length := by
      simpa using congrArg List.length h.places
    exact ⟨_, hframes ▸ h.outbound, request_fields entries receipts hlength⟩
  places := h.places
  distinct := h.calls.nodup_ids
  fresh := fun r hr => h.calls.not_contains hr
  added := h.calls.inFlight
  others := h.others

theorem Settles.allOrNothing {l l' : Link κ} {now : Nat} {entries : List BatchEntry}
    {sent : List (Option Receipt) → List OutboundFrame}
    {frames : List Rpc.Request → List OutboundFrame}
    {result : Except LinkError (List (Option Receipt))}
    (h : l.Settles now entries sent result l') (hs : l.calls.Sound)
    (hframes : ∀ receipts, receipts.length = entries.length →
      sent receipts = frames (List.zipWith BatchEntry.request entries receipts)) :
    l.AllOrNothing now entries frames result l' := by
  cases result with
  | error cause => exact ⟨h.1, h.2 hs⟩
  | ok receipts =>
    have hsent : l.Sent now entries receipts (sent receipts) l' := h
    refine hsent.dispatched (hframes receipts ?_)
    simpa using congrArg List.length hsent.places

theorem singleFrame_eq (e : BatchEntry) (receipts : List (Option Receipt))
    (h : receipts.length = [e].length) :
    singleFrame e receipts = separate (List.zipWith BatchEntry.request [e] receipts) := by
  obtain ⟨r, rfl⟩ := List.length_eq_one_iff.1 h
  rfl

theorem batchFrame_eq (entries : List BatchEntry) (receipts : List (Option Receipt))
    (h : receipts.length = entries.length) :
    batchFrame entries receipts = together (List.zipWith BatchEntry.request entries receipts) := by
  cases entries with
  | nil => rfl
  | cons e entries =>
    cases receipts with
    | nil => simp at h
    | cons r receipts => rfl

/-- Whatever a session did before, each way of sending is all or nothing. -/
theorem send_allOrNothing (settings : Settings) (ceiling start now : Nat)
    (actions : List (Session.Action κ)) :
    let l := ((Session.start settings ceiling start).run actions).link
    (∀ method params,
      l.AllOrNothing now [{ method, params }] separate
        ((l.call now method params).1.map fun r => [some r]) (l.call now method params).2) ∧
    (∀ method params,
      l.AllOrNothing now [{ method, params, isNotification := true }] separate
        ((l.notify method params).1.map fun _ => [none]) (l.notify method params).2) ∧
    ∀ entries, l.AllOrNothing now entries together (l.batch now entries).1 (l.batch now entries).2 := by
  intro l
  have hs : l.calls.Sound := Session.sound_run settings ceiling start actions
  refine ⟨fun method params => ?_, fun method params => ?_, fun entries => ?_⟩
  · exact (call_settles l now method params).allOrNothing hs (singleFrame_eq _)
  · exact (notify_settles l now method params).allOrNothing hs (singleFrame_eq _)
  · exact (batch_settles l now entries).allOrNothing hs (batchFrame_eq entries)

end ServiceLink.Link
