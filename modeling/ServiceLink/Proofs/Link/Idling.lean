import ServiceLink.Proofs.Link.Runs
import ServiceLink.Proofs.Subscription.Rewiring

/-! A link that is cut off: it has no socket and is not connected. Whatever is tried on it, nothing comes into
its queues until a socket is opened or the status is forced. -/

namespace ServiceLink.Link

variable {κ : Type} {l l' l'' : Link κ} {may : Calls.Event → Prop}

structure IsCut (l : Link κ) : Prop where
  status : l.status = .notConnected
  writer : l.writer = .absent

/-- Nothing comes into the queues of a link that stays cut off, and only events of a kind befall its calls. -/
structure Idles (may : Calls.Event → Prop) (l l' : Link κ) : Prop where
  cut : l'.IsCut
  outbound : l'.outbound.Sublist l.outbound
  events : l'.events.Sublist l.events
  callHistory : ∃ es, l.CallHistory es l' ∧ ∀ e ∈ es, may e

theorem Idles.trans (h : l.Idles may l') (h' : l'.Idles may l'') : l.Idles may l'' := by
  obtain ⟨es, hcallHistory, hes⟩ := h.callHistory
  obtain ⟨fs, hcallHistory', hfs⟩ := h'.callHistory
  exact ⟨h'.cut, h'.outbound.trans h.outbound, h'.events.trans h.events, es ++ fs, hcallHistory.trans hcallHistory',
    List.forall_mem_append.2 ⟨hes, hfs⟩⟩

theorem Idles.mono {may' : Calls.Event → Prop} (h : l.Idles may l') (hmay : ∀ e, may e → may' e) :
    l.Idles may' l' := by
  obtain ⟨es, hcallHistory, hes⟩ := h.callHistory
  exact ⟨h.cut, h.outbound, h.events, es, hcallHistory, fun e he => hmay e (hes e he)⟩

namespace IsCut

theorem refl (h : l.IsCut) : l.Idles may l :=
  ⟨h, .refl _, .refl _, [], (SocketOnly.refl l).callHistory, nofun⟩

theorem idles_calls (h : l.IsCut) {e : Calls.Event} (he : may e) {calls : Calls}
    (hstep : Calls.Step l.settings.callTimeout l.calls e calls) : l.Idles may { l with calls } :=
  ⟨⟨h.status, h.writer⟩, .refl _, .refl _, [e], ⟨rfl, .one hstep⟩, List.forall_mem_singleton.2 he⟩

theorem idles_rewired (h : l.IsCut) (hl : l.Rewired l') : l.Idles may l' := by
  have hcallHistory : l.CallHistory [] l' := ⟨hl.settings, hl.calls ▸ .start⟩
  rw [hl.others] at hcallHistory ⊢
  exact ⟨⟨h.status, h.writer⟩, .refl _, .refl _, [], hcallHistory, nofun⟩

theorem idles_emptied (h : l.IsCut) : l.Idles may { l with events := [] } :=
  ⟨⟨h.status, h.writer⟩, .refl _, List.nil_sublist _, [], ⟨rfl, .start⟩, nofun⟩

theorem idles_delivered (h : l.IsCut) {deliveries : List (κ × Rpc.Notification)} :
    l.Idles may { l with deliveries } :=
  ⟨⟨h.status, h.writer⟩, .refl _, .refl _, [], ⟨rfl, .start⟩, nofun⟩

theorem idles_deafen (h : l.IsCut) : l.Idles may l.deafen := by
  have hwriter : l.deafen.writer = .absent := by simp [deafen, h.writer]
  exact ⟨⟨h.status, hwriter⟩, List.nil_sublist _, .refl _, [], ⟨rfl, .start⟩, nofun⟩

theorem send? (h : l.IsCut) (f : OutboundFrame) : l.send? f = none := by
  unfold Link.send?
  rw [h.writer]
  exact if_neg nofun

theorem stop (h : l.IsCut) : l.stop = l := by
  unfold Link.stop
  rw [h.status]
  exact if_neg (by decide)

theorem markReady (h : l.IsCut) : l.markReady = l := by
  unfold Link.markReady canMarkReady
  rw [h.status]
  exact if_neg (by decide)

theorem shutdown (h : l.IsCut) : l.shutdown = l := by
  have hgone : ({ l with writer := .absent } : Link κ) = l := by rw [← h.writer]
  unfold Link.shutdown
  rw [hgone]
  exact if_pos h.status

theorem call (h : l.IsCut) (now : Nat) (method : String) (params : Option Json) :
    l.call now method params = (.error .notConnected, l) := if_pos h.writer

theorem notify (h : l.IsCut) (method : String) (params : Option Json) :
    l.notify method params = (.error .notConnected, l) := by
  unfold Link.notify sendJson?
  rw [h.send?]

theorem batch (h : l.IsCut) (now : Nat) (entries : List BatchEntry) : (l.batch now entries).2 = l := by
  unfold Link.batch
  rw [if_pos h.writer]
  split <;> rfl

theorem receive (h : l.IsCut) (m : Rpc.Message) (hm : may (.message m)) : l.Idles may (l.receive m) := by
  have hcallHistory : ∃ es, l.CallHistory es (l.receive m) ∧ ∀ e ∈ es, may e :=
    ⟨_, callHistory_receive l m, List.forall_mem_singleton.2 hm⟩
  unfold Link.receive at hcallHistory ⊢
  split at hcallHistory <;> exact ⟨⟨h.status, h.writer⟩, .refl _, .refl _, hcallHistory⟩

theorem foldl_receive (h : l.IsCut) (messages : List Rpc.Message) (hmay : ∀ m ∈ messages, may (.message m)) :
    l.Idles may (messages.foldl Link.receive l) := by
  induction messages generalizing l with
  | nil => exact h.refl
  | cons m messages ih =>
    rw [List.forall_mem_cons] at hmay
    have hone := h.receive m hmay.1
    exact hone.trans (ih hone.cut hmay.2)

theorem idles_handleFrame (h : l.IsCut) (text : String)
    (hmay : ∀ m ∈ (Rpc.Frame.read text).messages, may (.message m)) : l.Idles may (l.handleFrame text) := by
  have hreceived := h.foldl_receive _ hmay
  unfold handleFrame
  dsimp only
  split
  · exact hreceived
  · rw [hreceived.cut.send?]
    exact hreceived

theorem idles_sweepIfDue (h : l.IsCut) {t : Nat} (ht : may (.sweep t)) : l.Idles may (l.sweepIfDue t) := by
  unfold sweepIfDue
  split
  · split
    · exact ⟨⟨h.status, h.writer⟩, .refl _, .refl _, [.sweep t], callHistory_tick l t, List.forall_mem_singleton.2 ht⟩
    · exact h.refl
  · exact h.refl

end IsCut

theorem isCut_shutdown (l : Link κ) : l.shutdown.IsCut := by
  unfold Link.shutdown moveTo
  split
  · exact ⟨‹_›, rfl⟩
  · exact ⟨rfl, rfl⟩

end ServiceLink.Link
