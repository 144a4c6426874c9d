import ServiceLink.Link.Session
import ServiceLink.Proofs.Calls.Timer
import ServiceLink.Proofs.Link.Sending
import ServiceLink.Proofs.Timed

/-! The events that an action, a timer or a whole run of a session holds for the calls of its link, and
that they account for every change of the calls. -/

namespace ServiceLink.Link

open Calls (Event History Spared)

variable {κ : Type}

/-- A change of the socket, the status or the timer alone. -/
structure SocketOnly (l l' : Link κ) : Prop where
  settings : l'.settings = l.settings
  calls : l'.calls = l.calls
  listeners : l'.listeners = l.listeners
  nextListener : l'.nextListener = l.nextListener
  deliveries : l'.deliveries = l.deliveries

namespace SocketOnly

theorem refl (l : Link κ) : SocketOnly l l := ⟨rfl, rfl, rfl, rfl, rfl⟩

theorem trans {l l' l'' : Link κ} (h : SocketOnly l l') (h' : SocketOnly l' l'') : SocketOnly l l'' :=
  ⟨h'.settings.trans h.settings, h'.calls.trans h.calls, h'.listeners.trans h.listeners,
    h'.nextListener.trans h.nextListener, h'.deliveries.trans h.deliveries⟩

end SocketOnly

/-- A change of the socket or the status alone; the timer goes on as before. -/
structure StatusOnly (l l' : Link κ) : Prop extends SocketOnly l l' where
  sweep : l'.sweep = l.sweep

namespace StatusOnly

theorem refl (l : Link κ) : StatusOnly l l := ⟨.refl l, rfl⟩

theorem trans {l l' l'' : Link κ} (h : StatusOnly l l') (h' : StatusOnly l' l'') : StatusOnly l l'' :=
  ⟨h.toSocketOnly.trans h'.toSocketOnly, h'.sweep.trans h.sweep⟩

end StatusOnly

/-- A change that no listener notices; the calls may change. -/
structure Unheard (l l' : Link κ) : Prop where
  settings : l'.settings = l.settings
  listeners : l'.listeners = l.listeners
  nextListener : l'.nextListener = l.nextListener
  deliveries : l'.deliveries = l.deliveries

theorem statusOnly_moveTo (l : Link κ) (s : Status) : StatusOnly l (l.moveTo s) := by
  unfold moveTo
  split <;> exact ⟨⟨rfl, rfl, rfl, rfl, rfl⟩, rfl⟩

theorem statusOnly_markReady (l : Link κ) : StatusOnly l l.markReady := by
  unfold markReady
  split
  · exact statusOnly_moveTo l .ready
  · exact .refl l

theorem statusOnly_send? {l sent : Link κ} {f : OutboundFrame} (h : l.send? f = some sent) :
    StatusOnly l sent := by
  unfold send? at h
  split at h
  · cases h
    exact ⟨⟨rfl, rfl, rfl, rfl, rfl⟩, rfl⟩
  · cases h

theorem statusOnly_send?_getD {l l' : Link κ} (f : OutboundFrame) (h : StatusOnly l l') :
    StatusOnly l ((l.send? f).getD l') := by
  cases hsend : l.send? f with
  | none => exact h
  | some sent => exact statusOnly_send? hsend

theorem statusOnly_start (l : Link κ) : StatusOnly l l.start.2 := by
  have hopening := statusOnly_moveTo l .connecting
  unfold start
  split
  · exact .refl l
  · dsimp only
    split
    · exact hopening
    · exact hopening.trans ⟨⟨rfl, rfl, rfl, rfl, rfl⟩, rfl⟩
    · exact hopening.trans (statusOnly_moveTo _ _)

theorem statusOnly_stop (l : Link κ) : StatusOnly l l.stop := by
  have hclosing := statusOnly_moveTo l .disconnecting
  unfold stop
  split
  · exact hclosing.trans (statusOnly_send?_getD _ (statusOnly_moveTo _ _))
  · exact .refl l

theorem statusOnly_shutdown (l : Link κ) : StatusOnly l l.shutdown := by
  have hgone : StatusOnly l { l with writer := .absent } := ⟨⟨rfl, rfl, rfl, rfl, rfl⟩, rfl⟩
  exact hgone.trans (statusOnly_moveTo _ _)

theorem Dialing.link_poll (d : Dialing κ) (now : Nat) (visible : Bool) :
    (d.poll now visible).link = Monitor.poll d.link visible := by
  cases visible with
  | false => rfl
  | true =>
    show d.link.start.2 = _
    unfold Monitor.poll
    rw [if_neg (by simp)]
    split
    · rfl
    · rename_i h
      rw [start, if_pos h]

theorem statusOnly_poll (l : Link κ) (visible : Bool) : StatusOnly l (Monitor.poll l visible) := by
  unfold Monitor.poll
  split
  · exact statusOnly_stop l
  · split
    · exact statusOnly_start l
    · exact .refl l

theorem statusOnly_attach (l : Link κ) : StatusOnly l l.attach := ⟨⟨rfl, rfl, rfl, rfl, rfl⟩, rfl⟩

theorem statusOnly_fail (l : Link κ) (failure : OpeningFailure) : StatusOnly l (l.fail failure) := by
  cases failure with
  | quiet cause => exact ⟨⟨rfl, rfl, rfl, rfl, rfl⟩, rfl⟩
  | loud cause => exact statusOnly_moveTo l .notConnected

theorem statusOnly_finish (d : Dialing κ) (n : Nat) {l : Link κ} (h : StatusOnly d.link l) :
    StatusOnly d.link (d.finish n l).link := by
  dsimp only [Dialing.finish]
  split
  · exact h
  · exact .refl _

theorem statusOnly_hear (d : Dialing κ) (e : NetworkEvent) : StatusOnly d.link (d.hear e).link := by
  cases e with
  | tokenFailed n cause | socketFailed n cause =>
    dsimp only [Dialing.hear]
    split
    · exact statusOnly_finish d n (statusOnly_fail d.link _)
    · exact .refl _
  | tokenReceived n token =>
    dsimp only [Dialing.hear]
    split
    · cases d.link.settings.socketFailure? token with
      | none => exact .refl _
      | some failure => exact statusOnly_finish d n (statusOnly_fail d.link failure)
    · exact .refl _
  | socketOpened n =>
    dsimp only [Dialing.hear]
    split
    · refine statusOnly_finish d n ?_
      split
      · exact (statusOnly_attach d.link).trans (statusOnly_moveTo _ _)
      · exact .refl _
    · exact .refl _
  | hungUp => exact statusOnly_shutdown d.link

theorem Monitor.statusOnly_act (m : Monitor) (now : Nat) (linkIsGone : Bool) (l : Link κ) :
    StatusOnly l (m.act now linkIsGone l).2 := by
  dsimp only [Monitor.act]
  split
  · exact statusOnly_poll l m.visible
  · exact .refl l

theorem Monitor.visible_turn (m : Monitor) (now : Nat) (linkIsGone wordFirst dials : Bool) :
    (m.turn now linkIsGone wordFirst dials).visible = m.visible := by
  unfold Monitor.turn
  split <;> rfl

theorem statusOnly_notify (l : Link κ) (method : String) (params : Option Json) :
    StatusOnly l (l.notify method params).2 := by
  unfold notify
  split
  · exact .refl l
  · exact statusOnly_send? ‹_›

/-! ### Events -/

/-- The calls of the link went through these events. -/
structure CallHistory (l : Link κ) (es : List Event) (l' : Link κ) : Prop where
  settings : l'.settings = l.settings
  history : History l.settings.callTimeout l.calls es l'.calls

theorem SocketOnly.callHistory {l l' : Link κ} (h : SocketOnly l l') : l.CallHistory [] l' :=
  ⟨h.settings, h.calls ▸ .start⟩

theorem CallHistory.trans {l l' l'' : Link κ} {es fs : List Event} (h : l.CallHistory es l')
    (h' : l'.CallHistory fs l'') : l.CallHistory (es ++ fs) l'' :=
  ⟨h'.settings.trans h.settings, h.history.append (h.settings ▸ h'.history)⟩

theorem calls_receive (l : Link κ) (m : Rpc.Message) : (l.receive m).calls = l.calls.hear m := by
  cases m with
  | response id result => cases id <;> rfl
  | error id object => cases id <;> rfl
  | notification n => rfl
  | call id method => rfl
  | invalid id => rfl
  | unknown => rfl

theorem settings_receive (l : Link κ) (m : Rpc.Message) : (l.receive m).settings = l.settings := by
  unfold receive
  split <;> rfl

theorem sweep_receive (l : Link κ) (m : Rpc.Message) : (l.receive m).sweep = l.sweep := by
  unfold receive
  split <;> rfl

theorem callHistory_receive (l : Link κ) (m : Rpc.Message) : l.CallHistory [.message m] (l.receive m) :=
  ⟨settings_receive l m, calls_receive l m ▸ .one (.message m)⟩

theorem callHistory_foldl_receive (l : Link κ) (messages : List Rpc.Message) :
    l.CallHistory (messages.map .message) (messages.foldl receive l) := by
  induction messages generalizing l with
  | nil => exact (SocketOnly.refl l).callHistory
  | cons m messages ih => exact (callHistory_receive l m).trans (ih _)

theorem sweep_foldl_receive (l : Link κ) (messages : List Rpc.Message) :
    (messages.foldl receive l).sweep = l.sweep := by
  induction messages generalizing l with
  | nil => rfl
  | cons m messages ih => exact (ih (l.receive m)).trans (sweep_receive l m)

theorem statusOnly_handleFrame (l : Link κ) (text : String) :
    StatusOnly ((Rpc.Frame.read text).messages.foldl receive l) (l.handleFrame text) := by
  unfold handleFrame
  dsimp only
  split
  · exact .refl _
  · exact statusOnly_send?_getD _ (.refl _)

theorem callHistory_handleFrame (l : Link κ) (text : String) :
    l.CallHistory ((Rpc.Frame.read text).messages.map .message) (l.handleFrame text) := by
  have hreceived := callHistory_foldl_receive l (Rpc.Frame.read text).messages
  simpa using hreceived.trans (statusOnly_handleFrame l text).callHistory

def sendEvent (now : Nat) : Except LinkError (List (Option Receipt)) → Event
  | .ok receipts => .sent now (receipts.filterMap id)
  | .error _ => .unsent

section

variable {l l' : Link κ} {now : Nat} {entries : List BatchEntry}
  {frames : List (Option Receipt) → List OutboundFrame}
  {result : Except LinkError (List (Option Receipt))}

theorem Settles.step (h : l.Settles now entries frames result l') (timeout : Nat) :
    Calls.Step timeout l.calls (sendEvent now result) l'.calls := by
  cases result with
  | ok receipts => exact .sent h.calls
  | error cause => exact .unsent h.1.calls

theorem Settles.unheard (h : l.Settles now entries frames result l') : l.Unheard l' := by
  cases result with
  | ok receipts => exact ⟨h.others ▸ rfl, h.others ▸ rfl, h.others ▸ rfl, h.others ▸ rfl⟩
  | error cause => exact ⟨h.1.others ▸ rfl, h.1.others ▸ rfl, h.1.others ▸ rfl, h.1.others ▸ rfl⟩

theorem Settles.callHistory (h : l.Settles now entries frames result l') :
    l.CallHistory [sendEvent now result] l' :=
  ⟨h.unheard.settings, .one (h.step _)⟩

end

theorem callHistory_tick (l : Link κ) (now : Nat) : l.CallHistory [.sweep now] (l.tick now) :=
  ⟨rfl, .one (.sweep now)⟩

def callEvents (l : Link κ) (now : Nat) : Action κ → List Event
  | .call method params => [sendEvent now ((l.call now method params).1.map fun r => [some r])]
  | .batch entries => [sendEvent now (l.batch now entries).1]
  | .frame text => (Rpc.Frame.read text).messages.map .message
  | _ => []

theorem callHistory_act (l : Link κ) (now : Nat) (a : Action κ) :
    l.CallHistory (l.callEvents now a) (l.act now a).2 := by
  cases a with
  | attach => exact ⟨rfl, .start⟩
  | deafen => exact ⟨rfl, .start⟩
  | moveTo s => exact (statusOnly_moveTo l s).callHistory
  | markReady => exact (statusOnly_markReady l).callHistory
  | start => exact (statusOnly_start l).callHistory
  | stop => exact (statusOnly_stop l).callHistory
  | shutdown => exact (statusOnly_shutdown l).callHistory
  | call method params => exact (call_settles l now method params).callHistory
  | notify method params => exact (statusOnly_notify l method params).callHistory
  | batch entries => exact (batch_settles l now entries).callHistory
  | frame text => exact callHistory_handleFrame l text
  | listen method handler => exact ⟨rfl, .start⟩
  | unlisten id => exact ⟨rfl, .start⟩

/-! ### How a send ends -/

/-- A send is refused, and some of the calls may have been entered and taken back, or a frame with its calls is
queued and the timer runs. An empty batch sends nothing. -/
inductive Sends (l : Link κ) (now : Nat) : Bool → Link κ → Prop
  | nothing : Sends l now true l
  | refused {calls : Calls} : Spared l.calls calls → Sends l now false { l with calls }
  | queued {calls : Calls} {frame : OutboundFrame} : Spared l.calls calls →
      Sends l now true (({ l with calls, outbound := l.outbound ++ [frame] } : Link κ).ensureSweep now)

theorem spared_enter (now : Nat) (c : Calls) (entries : List BatchEntry) :
    Spared c (enter now c entries).2 := by
  fun_induction enter now c entries with
  | case1 c => exact .refl c
  | case2 c e rest he entered d hrest ih => rwa [hrest] at ih
  | case3 c e rest he hregister => exact .refl c
  | case4 c e rest he r c' hregister d hrest ih =>
    rw [hrest] at ih
    exact ((Calls.spared_register hregister).trans ih).trans (Calls.spared_cancel d r.id)
  | case5 c e rest he r c' hregister entered d hrest ih =>
    rw [hrest] at ih
    exact (Calls.spared_register hregister).trans ih

theorem sends_call (l : Link κ) (now : Nat) (method : String) (params : Option Json) :
    l.Sends now (l.call now method params).1.isOk (l.call now method params).2 := by
  unfold call
  split
  · exact .refused (.refl _)
  · split
    · exact .refused (.refl _)
    · rename_i r calls hregister
      have hentered := Calls.spared_register hregister
      dsimp only
      split
      · exact .refused (hentered.trans (Calls.spared_cancel calls r.id))
      · rename_i sent hsend
        cases sendJson?_eq_some hsend
        exact .queued hentered

theorem sends_batch (l : Link κ) (now : Nat) (entries : List BatchEntry) :
    l.Sends now (l.batch now entries).1.isOk (l.batch now entries).2 := by
  have hspared := spared_enter now l.calls entries
  unfold batch
  split
  · exact .nothing
  · split
    · exact .refused (.refl _)
    · split
      · rename_i hrefused
        rw [hrefused] at hspared
        exact .refused hspared
      · rename_i hentered
        rw [hentered] at hspared
        dsimp only
        split
        · exact .refused (hspared.trans (Calls.spared_foldl_cancel _ _))
        · rename_i sent hsend
          cases sendJson?_eq_some hsend
          exact .queued hspared

/-! ### The timer -/

section

variable {l l' : Link κ} {now : Nat}

/-- A tick that is due is still to come. -/
def Ticks (l : Link κ) (now : Nat) : Prop :=
  ∀ t, l.sweep = .due t → now < t ∧ 0 < l.settings.expiryInterval

theorem Ticks.of_same (h : l.Ticks now) (hsweep : l'.sweep = l.sweep)
    (hsettings : l'.settings = l.settings) : l'.Ticks now := by
  intro t ht
  rw [hsettings]
  exact h t (hsweep ▸ ht)

theorem Ticks.of_statusOnly (h : l.Ticks now) (hl : l.StatusOnly l') : l'.Ticks now :=
  h.of_same hl.sweep hl.settings

theorem Ticks.ensureSweep {time : Nat} (h : l.Ticks time) (hle : time ≤ now) : (l.ensureSweep now).Ticks time := by
  unfold Link.ensureSweep
  split
  · exact h
  · intro t ht
    dsimp only at ht ⊢
    split at ht
    · cases ht
    · cases ht
      omega

theorem Sends.ticks {ok : Bool} {time : Nat} (hsends : l.Sends now ok l') (h : l.Ticks time) (hle : time ≤ now) :
    l'.Ticks time := by
  cases hsends with
  | nothing => exact h
  | refused => exact h.of_same rfl rfl
  | queued => exact Ticks.ensureSweep (h.of_same rfl rfl) hle

theorem Ticks.tick (h : 0 < l.settings.expiryInterval) : (l.tick now).Ticks now := by
  intro t ht
  unfold Link.tick at ht ⊢
  dsimp only at ht ⊢
  split at ht
  · cases ht
  · cases ht
    omega

theorem Ticks.sweepIfDue (h : l.Ticks now) (t : Nat) : (l.sweepIfDue t).Ticks t := by
  unfold Link.sweepIfDue
  split
  · rename_i u hu
    obtain ⟨-, hinterval⟩ := h u hu
    split
    · exact Ticks.tick hinterval
    · intro v hv
      cases hu.symm.trans hv
      exact ⟨Nat.lt_of_not_le ‹_›, hinterval⟩
  · rename_i hnone
    exact fun v hv => absurd hv (hnone v)

theorem Ticks.act {time : Nat} (h : l.Ticks time) (hle : time ≤ now) (a : Action κ) :
    (l.act now a).2.Ticks time := by
  have hstatus : ∀ {l'}, l.StatusOnly l' → l'.Ticks time := fun hstatus => h.of_statusOnly hstatus
  cases a with
  | attach => exact h.of_same rfl rfl
  | deafen => exact h.of_same rfl rfl
  | moveTo s => exact hstatus (statusOnly_moveTo l s)
  | markReady => exact hstatus (statusOnly_markReady l)
  | start => exact hstatus (statusOnly_start l)
  | stop => exact hstatus (statusOnly_stop l)
  | shutdown => exact hstatus (statusOnly_shutdown l)
  | call method params => exact (sends_call l now method params).ticks h hle
  | notify method params => exact hstatus (statusOnly_notify l method params)
  | batch entries => exact (sends_batch l now entries).ticks h hle
  | frame text =>
    have hreceived : ((Rpc.Frame.read text).messages.foldl receive l).Ticks time :=
      h.of_same (sweep_foldl_receive l _) (callHistory_foldl_receive l _).settings
    exact hreceived.of_statusOnly (statusOnly_handleFrame l text)
  | listen method handler => exact h.of_same rfl rfl
  | unlisten id => exact h.of_same rfl rfl

end

/-! ### Sessions -/

namespace Session

def sweeps (s : Session κ) : List Event :=
  match s.link.sweep with
  | .due t => if t ≤ s.now then [.sweep s.now] else []
  | _ => []

theorem callHistory_sweepIfDue (s : Session κ) : s.link.CallHistory s.sweeps (s.link.sweepIfDue s.now) := by
  unfold sweepIfDue sweeps
  cases s.link.sweep with
  | idle => exact (SocketOnly.refl _).callHistory
  | stuck => exact (SocketOnly.refl _).callHistory
  | due t =>
    dsimp only
    split
    · exact callHistory_tick s.link s.now
    · exact (SocketOnly.refl _).callHistory

/-! ### Settling -/

theorem statusOnly_hear (s : Session κ) (e : NetworkEvent) : StatusOnly s.link (s.hear e).link := by
  unfold hear
  split
  · exact .refl _
  · exact Link.statusOnly_hear s.toDialing e

theorem statusOnly_turn (s : Session κ) (wordFirst : Bool) : StatusOnly s.link (s.turn wordFirst).link := by
  unfold turn
  split
  · exact .refl _
  · dsimp only
    split
    · rw [Dialing.link_poll]
      exact statusOnly_poll _ _
    · exact .refl _

theorem statusOnly_settle (s : Session κ) : StatusOnly (s.link.sweepIfDue s.now) s.settle.link :=
  statusOnly_turn (s.mapLink (·.sweepIfDue s.now)) false

theorem callHistory_settle (s : Session κ) : s.link.CallHistory s.sweeps s.settle.link := by
  simpa using (callHistory_sweepIfDue s).trans (statusOnly_settle s).callHistory

def sweepsTo (finish : Nat) (s : Session κ) : List Event :=
  Timed.notesTo (fun s t => { s with now := t }.sweeps) finish s

theorem callHistory_runTo (finish : Nat) (s : Session κ) :
    s.link.CallHistory (s.sweepsTo finish) (Timed.runTo finish s).link := by
  refine Timed.runTo_induction (motive := fun s es s' => s.link.CallHistory es s'.link) _ finish
    (fun s _ => (SocketOnly.refl _).callHistory) (fun s t es s' _ _ _ h => ?_) s
  exact (callHistory_settle { s with now := t }).trans h

def events (s : Session κ) : Action κ → List Event
  | .link a => if s.isDropped then [] else s.link.callEvents s.now a
  | .take ticket => [.looked ticket]
  | .forget ticket => [.forgotten ticket]
  | .advance ms => s.sweeps ++ s.settle.sweepsTo (s.settle.now + ms)
  | .drop => if s.dials = [] then [.dropped] else []
  | _ => []

theorem callHistory_act (s : Session κ) (a : Action κ) :
    s.link.CallHistory (s.events a) (s.act a).2.link := by
  cases a with
  | link a =>
    by_cases hd : s.isDropped
    · simpa [Session.act, events, hd] using (SocketOnly.refl s.link).callHistory
    · simpa [Session.act, events, hd] using Link.callHistory_act s.link s.now a
  | network e => exact (statusOnly_hear s e).callHistory
  | take ticket => exact ⟨rfl, .one (.looked ticket)⟩
  | forget ticket => exact ⟨rfl, .one (.forgotten ticket)⟩
  | advance ms => exact (callHistory_settle s).trans (callHistory_runTo _ s.settle)
  | monitor interval visible => exact (SocketOnly.refl _).callHistory
  | tell visible => exact (SocketOnly.refl _).callHistory
  | orphan => exact (SocketOnly.refl _).callHistory
  | drop =>
    dsimp only [Session.act, events, Session.drop]
    split
    · exact ⟨rfl, .one .dropped⟩
    · exact (SocketOnly.refl _).callHistory

def log (s : Session κ) : List (Action κ) → List Event
  | [] => []
  | a :: actions => s.events a ++ (s.act a).2.sweeps ++ log (s.step a) actions

theorem callHistory_step (s : Session κ) (a : Action κ) :
    s.link.CallHistory (s.events a ++ (s.act a).2.sweeps) (s.step a).link :=
  (callHistory_act s a).trans (callHistory_settle _)

/-- The log of a run accounts for all that became of the calls. -/
theorem callHistory_run (s : Session κ) (actions : List (Action κ)) :
    s.link.CallHistory (s.log actions) (s.run actions).link := by
  induction actions generalizing s with
  | nil => exact (SocketOnly.refl _).callHistory
  | cons a actions ih => exact (callHistory_step s a).trans (ih _)

def start (settings : Settings) (ceiling now : Nat) : Session κ :=
  { link := .new settings ceiling, now }

theorem sound_run (settings : Settings) (ceiling now : Nat) (actions : List (Action κ)) :
    ((start settings ceiling now).run actions).link.calls.Sound :=
  Calls.History.sound (callHistory_run _ actions).history (Calls.sound_withCeiling ceiling)

end Session
end ServiceLink.Link
