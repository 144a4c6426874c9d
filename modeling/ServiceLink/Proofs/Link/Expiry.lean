import ServiceLink.Proofs.Link.Runs

/-! The timer of a link in time. A session that waits never waits past a tick, so the log of a run is a
course of the timer, and what bounds the calls there bounds them here. -/

namespace ServiceLink

def Sweep.next : Option Nat → Sweep
  | none => .idle
  | some t => .due t

namespace Link

open Calls (Event Spared Clocked Beat Beats)

variable {κ : Type}

/-! ### Sending -/

theorem calls_ensureSweep (l : Link κ) (now : Nat) : (l.ensureSweep now).calls = l.calls := by
  rw [ensureSweep_eq]

/-- The timer runs on, or is started because calls are in flight. -/
def Ensures (l : Link κ) (now : Nat) (l' : Link κ) : Prop :=
  l'.sweep =
    if l.sweep = .idle ∧ l'.calls.inFlight ≠ [] then .due (now + l.settings.expiryInterval)
    else l.sweep

section

variable {l l' : Link κ} {now : Nat} {ok : Bool}

theorem Sends.spared (h : l.Sends now ok l') : Spared l.calls l'.calls := by
  cases h with
  | nothing => exact .refl _
  | refused hspared => exact hspared
  | queued hspared => rwa [calls_ensureSweep]

theorem ensures_ensureSweep {sent : Link κ} (hsettings : sent.settings = l.settings)
    (hsweep : sent.sweep = l.sweep) (hinterval : 0 < l.settings.expiryInterval) (now : Nat) :
    l.Ensures now (sent.ensureSweep now) := by
  have hpositive : l.settings.expiryInterval ≠ 0 := Nat.ne_of_gt hinterval
  unfold Ensures
  rw [calls_ensureSweep]
  unfold ensureSweep
  by_cases hidle : l.sweep = .idle
  · by_cases hempty : sent.calls.inFlight = []
    · simp [hsweep, hidle, hempty]
    · simp [hsweep, hidle, hempty, hsettings, hpositive]
  · simp [hsweep, hidle]

theorem Sends.ensures (h : l.Sends now true l') (hinterval : 0 < l.settings.expiryInterval)
    (hstopped : l.sweep = .idle → l.calls.inFlight = []) : l.Ensures now l' := by
  cases h with
  | nothing =>
    unfold Ensures
    by_cases hidle : l.sweep = .idle
    · simp [hidle, hstopped hidle]
    · simp [hidle]
  | queued => exact ensures_ensureSweep (by rfl) (by rfl) hinterval now

end

/-! ### A link and its timer -/

structure Clocks (l : Link κ) (now : Nat) (b : Clocked) : Prop where
  calls : l.calls = b.calls
  sweep : l.sweep = .next b.tick?
  now : b.now ≤ now

theorem Clocks.of_statusOnly {l l' : Link κ} {now : Nat} {b : Clocked} (h : l.Clocks now b)
    (hstatus : l.StatusOnly l') : l'.Clocks now b :=
  ⟨hstatus.calls.trans h.calls, hstatus.sweep.trans h.sweep, h.now⟩

theorem Clocks.idle_iff {l : Link κ} {now : Nat} {b : Clocked} (h : l.Clocks now b) :
    l.sweep = .idle ↔ b.tick? = none := by
  rw [h.sweep]
  cases b.tick? <;> simp [Sweep.next]

theorem Clocks.due_iff {l : Link κ} {now t : Nat} {b : Clocked} (h : l.Clocks now b) :
    l.sweep = .due t ↔ b.tick? = some t := by
  rw [h.sweep]
  cases b.tick? <;> simp [Sweep.next]

/-- The events lead the timer of one link to that of the other, and its next tick is still to come. -/
def Beaten (settings : Settings) (now : Nat) (b : Clocked) (es : List Event) (l' : Link κ) : Prop :=
  ∃ b', Beats settings.callTimeout settings.expiryInterval b es b' ∧ l'.Clocks now b' ∧
    ∀ t, b'.tick? = some t → now < t

section

variable {l : Link κ} {now : Nat} {b : Clocked}

theorem Clocks.beaten {l' : Link κ} (h : l'.Clocks now b) (hnext : ∀ t, b.tick? = some t → now < t)
    (settings : Settings) : l'.Beaten settings now b [] := ⟨b, .start, h, hnext⟩

theorem Clocks.beaten_on {settings : Settings} (h : l.Clocks now b) (hnext : ∀ t, b.tick? = some t → now < t)
    {calls : Calls} {e : Event}
    (hbeat : Beat settings.callTimeout settings.expiryInterval ⟨l.calls, b.tick?, b.now⟩ e ⟨calls, b.tick?, b.now⟩) :
    Beaten settings now b [e] { l with calls } := by
  rw [h.calls] at hbeat
  exact ⟨_, .one hbeat, ⟨rfl, h.sweep, h.now⟩, hnext⟩

theorem beaten_send {l' : Link κ} {entries : List BatchEntry}
    {frames : List (Option Receipt) → List OutboundFrame}
    {result : Except LinkError (List (Option Receipt))} (h : l.Clocks now b)
    (hb : b.Timely l.settings.callTimeout l.settings.expiryInterval)
    (hinterval : 0 < l.settings.expiryInterval)
    (hnext : ∀ t, b.tick? = some t → now < t)
    (hsettles : l.Settles now entries frames result l') (hsends : l.Sends now result.isOk l') :
    l'.Beaten l.settings now b [sendEvent now result] := by
  obtain ⟨c, tick?, time⟩ := b
  have hcalls : l.calls = c := h.calls
  subst hcalls
  cases result with
  | error cause =>
    have hsame : l'.sweep = l.sweep := by rw [hsettles.1.others]
    exact ⟨⟨l'.calls, tick?, time⟩, .one (.unsent hsettles.1.calls hsends.spared),
      ⟨rfl, hsame.trans h.sweep, h.now⟩, hnext⟩
  | ok receipts =>
    have hentered := Sent.calls hsettles
    have hsweep : l'.sweep = _ :=
      hsends.ensures hinterval fun hidle => hb.stopped (h.idle_iff.1 hidle)
    by_cases hstart : tick? = none ∧ receipts.filterMap id ≠ []
    · obtain ⟨rfl, hne⟩ := hstart
      have hflight : l'.calls.inFlight ≠ [] := by
        rw [hentered.inFlight]
        simpa using fun _ => hne
      rw [if_pos ⟨h.idle_iff.2 rfl, hflight⟩] at hsweep
      refine ⟨_, .one (.started h.now hne hentered), ⟨rfl, hsweep, Nat.le_refl _⟩, fun t ht => ?_⟩
      cases ht
      exact Nat.lt_add_of_pos_right hinterval
    · have hkept : l'.sweep = l.sweep := by
        rw [hsweep]
        refine if_neg fun ⟨hidle, hflight⟩ => hflight ?_
        have hnone : tick? = none := h.idle_iff.1 hidle
        have hnil : receipts.filterMap id = [] := by
          by_contra hne
          exact hstart ⟨hnone, hne⟩
        rw [hentered.inFlight, hb.stopped hnone, hnil]
        rfl
      refine ⟨_, .one (.sent h.now hnext (fun hnone => ?_) hentered),
        ⟨rfl, hkept.trans h.sweep, Nat.le_refl _⟩, hnext⟩
      by_contra hne
      exact hstart ⟨hnone, hne⟩

theorem beaten_receive (settings : Settings) (h : l.Clocks now b)
    (hnext : ∀ t, b.tick? = some t → now < t) (messages : List Rpc.Message) :
    (messages.foldl receive l).Beaten settings now b (messages.map .message) := by
  induction messages generalizing l b with
  | nil => exact h.beaten hnext settings
  | cons m messages ih =>
    obtain ⟨c, tick?, time⟩ := b
    have hclocks : (l.receive m).Clocks now ⟨c.hear m, tick?, time⟩ := by
      refine ⟨?_, (sweep_receive l m).trans h.sweep, h.now⟩
      rw [calls_receive, h.calls]
    obtain ⟨b', hbeats, hrest⟩ := ih hclocks hnext
    exact ⟨b', (Trace.one (.message m)).append hbeats, hrest⟩

theorem beaten_act (h : l.Clocks now b)
    (hb : b.Timely l.settings.callTimeout l.settings.expiryInterval)
    (hinterval : 0 < l.settings.expiryInterval)
    (hnext : ∀ t, b.tick? = some t → now < t) (a : Action κ) :
    (l.act now a).2.Beaten l.settings now b (l.callEvents now a) := by
  have hstatus : ∀ {l'}, l.StatusOnly l' → l'.Beaten l.settings now b [] :=
    fun hstatus => (h.of_statusOnly hstatus).beaten hnext l.settings
  have hsame : ∀ {l' : Link κ}, l'.calls = l.calls → l'.sweep = l.sweep →
      l'.Beaten l.settings now b [] := fun hcalls hsweep =>
    Clocks.beaten ⟨hcalls.trans h.calls, hsweep.trans h.sweep, h.now⟩ hnext l.settings
  cases a with
  | attach => exact hsame rfl rfl
  | deafen => exact hsame rfl rfl
  | moveTo s => exact hstatus (statusOnly_moveTo l s)
  | markReady => exact hstatus (statusOnly_markReady l)
  | start => exact hstatus (statusOnly_start l)
  | stop => exact hstatus (statusOnly_stop l)
  | shutdown => exact hstatus (statusOnly_shutdown l)
  | call method params =>
    refine beaten_send h hb hinterval hnext (call_settles l now method params) ?_
    have hsends := sends_call l now method params
    cases hresult : (l.call now method params).1 <;> rwa [hresult] at hsends
  | notify method params => exact hstatus (statusOnly_notify l method params)
  | batch entries =>
    exact beaten_send h hb hinterval hnext (batch_settles l now entries) (sends_batch l now entries)
  | frame text =>
    obtain ⟨b', hbeats, hclocks, hlater⟩ :=
      beaten_receive l.settings h hnext (Rpc.Frame.read text).messages
    exact ⟨b', hbeats, hclocks.of_statusOnly (statusOnly_handleFrame l text), hlater⟩
  | listen method handler => exact hsame rfl rfl
  | unlisten id => exact hsame rfl rfl

end

/-! ### Waiting -/

/-- A monitor polls at intervals unless it is finished. -/
def Monitor.HasInterval (m : Monitor) : Prop := m.isFinished ∨ 0 < m.interval

namespace Monitor

variable {m : Monitor} {now : Nat} {linkIsGone wordFirst dials : Bool}

theorem hasInterval_new (interval now : Nat) (visible : Bool) : (new interval now visible).HasInterval := by
  by_cases hzero : interval = 0
  · exact .inl (by simp [new, hzero])
  · exact .inr (Nat.pos_of_ne_zero hzero)

theorem HasInterval.tell (h : m.HasInterval) (visible : Bool) : (m.tell visible).HasInterval := by
  unfold Monitor.tell
  split <;> exact h

theorem turn_of_finished (h : m.isFinished = true) : m.turn now linkIsGone wordFirst dials = m := by
  cases m
  cases h
  simp [turn, polls, isAwake]

theorem HasInterval.turn (h : m.HasInterval) : (m.turn now linkIsGone wordFirst dials).HasInterval := by
  rcases h with hfinished | hpositive
  · rw [turn_of_finished hfinished]
    exact .inl hfinished
  · refine .inr ?_
    unfold Monitor.turn polled
    split <;> exact hpositive

theorem lt_tickAfter (hinterval : 0 < m.interval) (now : Nat) : now < m.tickAfter now := by
  have hnext := Nat.lt_mul_div_succ (now - m.nextPoll) hinterval
  unfold tickAfter
  omega

theorem pollTime?_eq_some {t : Nat} :
    m.pollTime? = some t ↔ m.isFinished = false ∧ m.isDialing = false ∧ m.nextPoll = t := by
  unfold pollTime?
  cases m.isFinished <;> cases m.isDialing <;> simp

theorem isAwake_iff : m.isAwake now = true ↔ m.isFinished = false ∧ m.isDialing = false ∧
    (m.nextPoll ≤ now ∨ m.isTold = true ∨ m.isOrphaned = true) := by
  simp [isAwake]

theorem isAwake_of_polls (h : m.polls now linkIsGone wordFirst = true) : m.isAwake now = true := by
  simp only [polls, decide_eq_true_eq] at h
  exact h.1

theorem act_of_asleep {κ : Type} (h : ¬ m.isAwake now) (l : Link κ) : m.act now linkIsGone l = (m, l) := by
  have hpolls : ¬ m.polls now linkIsGone false := fun hpolls => h (isAwake_of_polls hpolls)
  have hturn : m.turn now linkIsGone false (m.dials l) = m := by simp [Monitor.turn, hpolls, h]
  unfold Monitor.act
  rw [hturn, if_neg hpolls]

theorem lt_nextPoll_polled (hinterval : 0 < m.interval) : now < (m.polled now false dials).nextPoll := by
  have hlater := lt_tickAfter hinterval now
  by_cases hdue : m.nextPoll ≤ now
  · simpa [polled, hearsTick, hdue] using hlater
  · simpa [polled, hearsTick, hdue] using Nat.lt_of_not_le hdue

theorem HasInterval.asleep (h : m.HasInterval) : (m.turn now linkIsGone false dials).isAwake now = false := by
  rw [Bool.eq_false_iff]
  intro hawake
  obtain ⟨hfinished, hidle, hwoken⟩ := isAwake_iff.1 hawake
  unfold Monitor.turn at hfinished hidle hwoken
  split at hfinished
  · rename_i hpolls
    rw [if_pos hpolls] at hidle hwoken
    have hrunning := (isAwake_iff.1 (isAwake_of_polls hpolls)).1
    have hnext : now < (m.polled now false dials).nextPoll :=
      lt_nextPoll_polled (h.resolve_left (by simp [hrunning]))
    have hdials : dials = false := hidle
    have horphaned : m.isOrphaned = true :=
      (hwoken.resolve_left (Nat.not_le_of_lt hnext)).resolve_left Bool.false_ne_true
    exact of_decide_eq_false hfinished ⟨horphaned, by simp [hdials], hnext⟩
  · rename_i hpolls
    rw [if_neg hpolls] at hidle hwoken
    obtain ⟨hrunning, hasleep⟩ := Bool.or_eq_false_iff.1 hfinished
    exact Bool.false_ne_true (hasleep.symm.trans (isAwake_iff.2 ⟨hrunning, hidle, hwoken⟩))

theorem lt_of_asleep (h : m.isAwake now = false) {t : Nat} (ht : m.pollTime? = some t) : now < t := by
  obtain ⟨hrunning, hidle, rfl⟩ := pollTime?_eq_some.1 ht
  by_contra hdue
  exact Bool.false_ne_true (h.symm.trans (isAwake_iff.2 ⟨hrunning, hidle, .inl (Nat.le_of_not_lt hdue)⟩))

end Monitor

namespace Session

variable {settings : Settings} {s : Session κ} {b : Clocked}

/-- Nothing is due before a time. -/
def QuietUntil (s : Session κ) (time : Nat) : Prop := ∀ t, Timed.due? s = some t → time ≤ t

theorem quietUntil_iff {time : Nat} :
    s.QuietUntil time ↔ (∀ t, s.link.sweep = .due t → time ≤ t) ∧
      ∀ m, s.monitor = some m → ∀ t, m.pollTime? = some t → time ≤ t := by
  have hsweep : ∀ t, s.link.sweepTime? = some t ↔ s.link.sweep = .due t := by
    unfold sweepTime?
    cases s.link.sweep <;> simp
  refine Timed.le_earliest?_iff.trans ?_
  simp only [hsweep, Option.bind_eq_some_iff, forall_exists_index, and_imp]
  exact and_congr_right fun _ =>
    ⟨fun h m hm t ht => h t m hm ht, fun h t m hm ht => h m hm t ht⟩

/-- A session whose link has this table and timer, and whose monitor polls at intervals. -/
structure AgreesWith (settings : Settings) (s : Session κ) (b : Clocked) : Prop where
  settings : s.link.settings = settings
  clocks : s.link.Clocks s.now b
  monitor : ∀ m, s.monitor = some m → m.HasInterval

/-- The events lead to a session whose timer is not late. -/
def IsOnTime (settings : Settings) (b : Clocked) (es : List Event) (s' : Session κ) : Prop :=
  ∃ b', Beats settings.callTimeout settings.expiryInterval b es b' ∧ s'.AgreesWith settings b' ∧
    ∀ t, s'.link.sweep = .due t → s'.now ≤ t

/-- The events lead to a session that has nothing left to do. -/
def Reaches (settings : Settings) (b : Clocked) (es : List Event) (s' : Session κ) : Prop :=
  ∃ b', Beats settings.callTimeout settings.expiryInterval b es b' ∧ s'.AgreesWith settings b' ∧
    s'.QuietUntil (s'.now + 1)

theorem Reaches.trans {b' : Clocked} {es fs : List Event}
    (h : Beats settings.callTimeout settings.expiryInterval b es b')
    (h' : Reaches settings b' fs s) : Reaches settings b (es ++ fs) s := by
  obtain ⟨b'', hbeats, hrest⟩ := h'
  exact ⟨b'', h.append hbeats, hrest⟩

theorem Reaches.isOnTime {es : List Event} (h : Reaches settings b es s) : IsOnTime settings b es s := by
  obtain ⟨b', hbeats, hagrees, hquiet⟩ := h
  exact ⟨b', hbeats, hagrees, fun t ht => Nat.le_of_succ_le ((quietUntil_iff.1 hquiet).1 t ht)⟩

theorem monitor_turn (s : Session κ) (wordFirst : Bool) : (s.turn wordFirst).monitor =
    s.monitor.map fun m => m.turn s.now s.isDropped wordFirst (m.dials s.link) := by
  unfold turn
  split
  · rename_i hnone
    simp [hnone]
  · rename_i m hsome
    dsimp only
    split <;> simp [hsome]

theorem settings_settle (s : Session κ) : s.settle.link.settings = s.link.settings :=
  (callHistory_settle s).settings

theorem beaten_sweepIfDue (h : s.AgreesWith settings b) (hinterval : 0 < settings.expiryInterval)
    (honTime : ∀ t, s.link.sweep = .due t → s.now ≤ t) :
    (s.link.sweepIfDue s.now).Beaten settings s.now b s.sweeps := by
  obtain ⟨c, tick?, time⟩ := b
  have hcalls : s.link.calls = c := h.clocks.calls
  subst hcalls
  have hsweep : s.link.sweep = .next tick? := h.clocks.sweep
  unfold sweepIfDue sweeps
  rw [hsweep]
  cases tick? with
  | none => exact h.clocks.beaten nofun settings
  | some t =>
    have hle : s.now ≤ t := honTime t hsweep
    dsimp only [Sweep.next]
    by_cases hdue : t ≤ s.now
    · obtain rfl : t = s.now := Nat.le_antisymm hdue hle
      rw [if_pos hdue, if_pos hdue]
      refine ⟨_, .one (.ticked h.clocks.now), ⟨?_, ?_, Nat.le_refl _⟩, fun t ht => ?_⟩
      · rw [← h.settings]
        rfl
      · dsimp only [tick]
        rw [h.settings]
        split <;> rfl
      · dsimp only at ht
        split at ht
        · cases ht
        · cases ht
          exact Nat.lt_add_of_pos_right hinterval
    · rw [if_neg hdue, if_neg hdue]
      refine h.clocks.beaten (fun u hu => ?_) settings
      cases hu
      exact Nat.lt_of_not_le hdue

theorem reaches_settle (h : s.AgreesWith settings b) (hinterval : 0 < settings.expiryInterval)
    (honTime : ∀ t, s.link.sweep = .due t → s.now ≤ t) : Reaches settings b s.sweeps s.settle := by
  obtain ⟨b', hbeats, hclocks, hnext⟩ := beaten_sweepIfDue h hinterval honTime
  have hlink : s.settle.link.Clocks s.settle.now b' := by
    rw [now_settle]
    exact hclocks.of_statusOnly (statusOnly_settle s)
  have hmonitor {m' : Monitor} (hm' : s.settle.monitor = some m') :
      m'.HasInterval ∧ ∀ t, m'.pollTime? = some t → s.now + 1 ≤ t := by
    rw [settle, monitor_turn] at hm'
    obtain ⟨m, hm, rfl⟩ := Option.map_eq_some_iff.1 hm'
    exact ⟨(h.monitor m hm).turn, fun t => Monitor.lt_of_asleep (h.monitor m hm).asleep⟩
  have hsettings : s.settle.link.settings = settings := (settings_settle s).trans h.settings
  refine ⟨b', hbeats, ⟨hsettings, hlink, fun m' hm' => (hmonitor hm').1⟩, ?_⟩
  rw [quietUntil_iff, now_settle]
  exact ⟨fun t ht => hnext t (hlink.due_iff.1 ht), fun m' hm' => (hmonitor hm').2⟩

theorem AgreesWith.wait (h : s.AgreesWith settings b) {time : Nat} (hnow : s.now ≤ time) :
    { s with now := time }.AgreesWith settings b :=
  ⟨h.settings, ⟨h.clocks.calls, h.clocks.sweep, Nat.le_trans h.clocks.now hnow⟩, h.monitor⟩

theorem reaches_runTo (h : s.AgreesWith settings b) (hinterval : 0 < settings.expiryInterval)
    {finish : Nat} (hquiet : s.QuietUntil (s.now + 1)) (hfinish : s.now ≤ finish) :
    Reaches settings b (s.sweepsTo finish) (Timed.runTo finish s) := by
  suffices hreaches : ∀ b, s.AgreesWith settings b → s.QuietUntil (s.now + 1) → s.now ≤ finish →
      Reaches settings b (s.sweepsTo finish) (Timed.runTo finish s) from hreaches b h hquiet hfinish
  refine Timed.runTo_induction (motive := fun s es s' => ∀ b, s.AgreesWith settings b →
    s.QuietUntil (s.now + 1) → s.now ≤ finish → Reaches settings b es s') _ finish ?_ ?_ s
  · intro s hnone b h hquiet hfinish
    refine ⟨b, .start, h.wait hfinish, fun t ht => Nat.lt_of_not_le fun hle => ?_⟩
    exact hnone t ht ⟨hquiet t ht, hle⟩
  · intro s t es s' hdue hlater hfinish ih b h hquiet _
    have hwait : { s with now := t }.AgreesWith settings b := h.wait (Nat.le_of_lt hlater)
    have honTime : { s with now := t }.QuietUntil t := fun u hu =>
      Nat.le_of_eq (Option.some.inj (hdue.symm.trans hu))
    obtain ⟨b', hbeats, hagrees, hquiet⟩ := reaches_settle hwait hinterval (quietUntil_iff.1 honTime).1
    have hnow : (Timed.ring s t).now = t := now_settle _
    exact .trans hbeats (ih b' hagrees hquiet (Nat.le_trans (Nat.le_of_eq hnow) hfinish))

theorem isOnTime_link {es : List Event} {s' : Session κ}
    (hnow : s'.now = s.now) (hsettings : s'.link.settings = settings)
    (hmonitor : ∀ m, s'.monitor = some m → m.HasInterval)
    (hbeaten : s'.link.Beaten settings s.now b es) : IsOnTime settings b es s' := by
  obtain ⟨b', hbeats, hclocks, hafter⟩ := hbeaten
  refine ⟨b', hbeats, ⟨hsettings, hnow ▸ hclocks, hmonitor⟩, fun t ht => ?_⟩
  rw [hnow]
  exact Nat.le_of_lt (hafter t (hclocks.due_iff.1 ht))

theorem AgreesWith.isOnTime_monitor (h : s.AgreesWith settings b)
    (hnext : ∀ t, s.link.sweep = .due t → s.now ≤ t) {monitor : Option Monitor} {awaited : Option Nat}
    (hmonitor : ∀ m, monitor = some m → m.HasInterval) :
    IsOnTime settings b [] { s with monitor, awaited } :=
  ⟨b, .start, ⟨h.settings, h.clocks, hmonitor⟩, hnext⟩

theorem AgreesWith.isOnTime_hear (h : s.AgreesWith settings b) (hnext : ∀ t, b.tick? = some t → s.now < t)
    (e : NetworkEvent) : IsOnTime settings b [] (s.hear e) := by
  have hstatus := statusOnly_hear s e
  refine isOnTime_link ?_ (hstatus.settings.trans h.settings) (fun m' hm' => ?_)
    ((h.clocks.of_statusOnly hstatus).beaten hnext settings)
  · unfold Session.hear
    split <;> rfl
  · unfold Session.hear at hm'
    split at hm'
    · exact h.monitor m' hm'
    · obtain ⟨m, hm, rfl⟩ := Option.map_eq_some_iff.1 hm'
      split <;> exact h.monitor m hm

theorem AgreesWith.isOnTime_drop (h : s.AgreesWith settings b) (hidle : s.dials = []) :
    IsOnTime settings b [.dropped] s.drop := by
  obtain ⟨c, tick?, time⟩ := b
  have hcalls : s.link.calls = c := h.clocks.calls
  subst hcalls
  simp only [Session.drop, hidle, if_true]
  refine ⟨_, .one .dropped, ⟨h.settings, ⟨rfl, rfl, h.clocks.now⟩, h.monitor⟩, fun t ht => ?_⟩
  cases ht

theorem isOnTime_act (h : s.AgreesWith settings b)
    (hb : b.Timely settings.callTimeout settings.expiryInterval)
    (hinterval : 0 < settings.expiryInterval) (hquiet : s.QuietUntil (s.now + 1)) (a : Action κ) :
    IsOnTime settings b (s.events a) (s.act a).2 := by
  have hsweep : ∀ t, s.link.sweep = .due t → s.now ≤ t :=
    fun t ht => Nat.le_of_succ_le ((quietUntil_iff.1 hquiet).1 t ht)
  have hnext : ∀ t, b.tick? = some t → s.now < t :=
    fun t ht => (quietUntil_iff.1 hquiet).1 t (h.clocks.due_iff.2 ht)
  have hidle : IsOnTime settings b [] s := h.isOnTime_monitor hsweep h.monitor
  cases a with
  | link a =>
    by_cases hdropped : s.isDropped
    · simpa [Session.act, events, hdropped] using hidle
    · have hbeaten : (s.link.act s.now a).2.Beaten settings s.now b (s.link.callEvents s.now a) := by
        have hsettings := h.settings
        subst hsettings
        exact beaten_act h.clocks hb hinterval hnext a
      have hsettings := (Link.callHistory_act s.link s.now a).settings.trans h.settings
      simp only [Session.act, events, hdropped, Bool.false_eq_true, if_false]
      exact isOnTime_link rfl hsettings h.monitor hbeaten
  | network e => exact h.isOnTime_hear hnext e
  | take ticket => exact isOnTime_link rfl h.settings h.monitor (h.clocks.beaten_on hnext (.looked ticket))
  | forget ticket => exact isOnTime_link rfl h.settings h.monitor (h.clocks.beaten_on hnext (.forgotten ticket))
  | advance ms =>
    obtain ⟨b', hsettled, hagrees, hquiet⟩ := reaches_settle h hinterval hsweep
    exact (Reaches.trans hsettled
      (reaches_runTo hagrees hinterval hquiet (Nat.le_add_right s.settle.now ms))).isOnTime
  | monitor interval visible =>
    refine h.isOnTime_monitor hsweep fun m hm => ?_
    cases hm
    exact Monitor.hasInterval_new interval s.now visible
  | tell visible =>
    refine h.isOnTime_monitor hsweep fun m' hm' => ?_
    obtain ⟨m, hm, rfl⟩ := Option.map_eq_some_iff.1 hm'
    exact (h.monitor m hm).tell visible
  | orphan =>
    refine h.isOnTime_monitor hsweep fun m' hm' => ?_
    obtain ⟨m, hm, rfl⟩ := Option.map_eq_some_iff.1 hm'
    exact h.monitor m hm
  | drop =>
    by_cases hdials : s.dials = []
    · simpa [Session.act, events, hdials] using h.isOnTime_drop hdials
    · simpa [Session.act, events, Session.drop, hdials] using hidle

/-- A run is a course of the timer, and ends with nothing due. -/
theorem reaches_run (h : s.AgreesWith settings b)
    (hb : b.Timely settings.callTimeout settings.expiryInterval)
    (hinterval : 0 < settings.expiryInterval) (hquiet : s.QuietUntil (s.now + 1))
    (actions : List (Action κ)) : Reaches settings b (s.log actions) (s.run actions) := by
  induction actions generalizing s b with
  | nil => exact ⟨b, .start, h, hquiet⟩
  | cons a actions ih =>
    obtain ⟨b', hacted, hagrees, honTime⟩ := isOnTime_act h hb hinterval hquiet a
    obtain ⟨b'', hsettled, hagrees, hquiet⟩ := reaches_settle hagrees hinterval honTime
    have hbeats := hacted.append hsettled
    exact .trans hbeats (ih hagrees (Beats.timely hbeats hb) hquiet)

/-! ### The calls of a run -/

/-- What the timer makes of the calls of a run, by the events of the run. -/
structure Expires (settings : Settings) (ceiling start : Nat) (log : List Event) (s : Session κ) :
    Prop where
  /-- The events are a course of one timer, which started stopped: the calls that find it stopped start
  it, and it stops at the first tick that leaves no call. Its next tick is that of the link. -/
  timer : ∃ b, Beats settings.callTimeout settings.expiryInterval (.fresh ceiling start) log b ∧
    s.link.Clocks s.now b
  /-- A call is in flight only while the timer runs, and no call gets too old. -/
  running : ∀ call ∈ s.link.calls.inFlight, call.sentAt ≤ s.now ∧
    (∃ tick, s.link.sweep = .due tick ∧ s.now < tick) ∧
      s.now - call.sentAt < settings.callTimeout + settings.expiryInterval
  /-- There is never a second timer: ticks lie an interval apart. -/
  apart : ∀ before between after time later,
    log = before ++ .sweep time :: between ++ .sweep later :: after →
      time + settings.expiryInterval ≤ later
  /-- A call whose caller finds it expired was undecided until a tick at which it was old enough. -/
  late : ∀ ticket, (s.link.calls.take ticket).1 = some (.error .expired) →
    ∃ before sentAt receipts between time after,
      log = before ++ .sent sentAt receipts :: between ++ .sweep time :: after ∧
        (∃ r ∈ receipts, r.ticket = ticket ∧
          Calls.verdict? settings.callTimeout (r.call sentAt) between = none) ∧
          sentAt + settings.callTimeout ≤ time

theorem ready_of_expired {c : Calls} {ticket : Ticket}
    (h : (c.take ticket).1 = some (.error .expired)) :
    c.response ticket = .ready (.error .expired) := by
  rw [Calls.take_fst] at h
  cases hr : c.response ticket with
  | waiting => simp [hr, Response.take] at h
  | ready outcome =>
    rw [hr] at h
    exact congrArg Response.ready (Option.some.inj h)
  | closed => simp [hr, Response.take] at h

/-- In every run the timer runs while a call is in flight, no call lives longer than the timeout and one
interval, and none expires before its timeout. -/
theorem run_expires (settings : Settings) (ceiling start : Nat) (actions : List (Action κ))
    (hinterval : 0 < settings.expiryInterval) :
    let s := (Session.start settings ceiling start).run actions
    s.Expires settings ceiling start ((Session.start settings ceiling start).log actions) := by
  have hfresh := Calls.timely_fresh settings.callTimeout settings.expiryInterval ceiling start
  have hstart : (Session.start settings ceiling start : Session κ).AgreesWith settings
      (.fresh ceiling start) :=
    ⟨rfl, ⟨rfl, rfl, Nat.le_refl _⟩, nofun⟩
  obtain ⟨b, hbeats, hagrees, hquiet⟩ := reaches_run hstart hfresh hinterval nofun actions
  have hb := Beats.timely hbeats hfresh
  have hclocks := hagrees.clocks
  refine ⟨⟨b, hbeats, hclocks⟩, fun call hcall => ?_, ?_, fun ticket hticket => ?_⟩
  · rw [hclocks.calls] at hcall
    obtain ⟨hsent, hyoung⟩ := hb.young call hcall
    obtain ⟨tick, htick⟩ : ∃ tick, b.tick? = some tick := by
      refine Option.ne_none_iff_exists'.1 fun hnone => ?_
      exact List.ne_nil_of_mem hcall (hb.stopped hnone)
    have hdue := hclocks.due_iff.2 htick
    have hlater := (quietUntil_iff.1 hquiet).1 tick hdue
    have hbound := hyoung tick htick
    have hnow := hclocks.now
    exact ⟨by omega, ⟨tick, hdue, hlater⟩, by omega⟩
  · rintro before between after time later hlog
    exact Beats.apart (hlog ▸ hbeats)
  · refine Beats.expired_of_fresh hbeats ?_
    rw [← hclocks.calls]
    exact ready_of_expired hticket

theorem run_expires_level :
    let settings : Settings := { callTimeout := 10, expiryInterval := 10 }
    let s : Session Nat := Session.start settings 5 0
    let actions : List (Action Nat) := [.link .attach, .link (.call "m" none), .advance 15]
    0 < settings.expiryInterval ∧
      s.log actions = [.sent 0 [⟨1, 0⟩], .sweep 10] ∧
      (s.run actions).Expires settings 5 0 (s.log actions) := by
  intro settings s actions
  have hinterval : 0 < settings.expiryInterval := Nat.zero_lt_succ 9
  refine ⟨hinterval, ?_, run_expires settings 5 0 actions hinterval⟩
  let called := (s.run [.link .attach, .link (.call "m" none)]).settle
  have hfirst : Timed.due? called = some 10 := rfl
  have hsecond : Timed.due? (Timed.ring called 10) = none := rfl
  have hquiet : Timed.IsQuietTo 15 (Timed.ring called 10) := fun t ht => nomatch hsecond.symm.trans ht
  have hsweeps : called.sweepsTo 15 = [.sweep 10] := by
    rw [sweepsTo, Timed.notesTo_of_due _ hfirst (by decide), Timed.notesTo_of_quiet _ hquiet]
    rfl
  have hend : (Timed.runTo 15 called).sweeps = [] := by
    rw [Timed.runTo_of_due hfirst (by decide), Timed.runTo_of_quiet hquiet]
    rfl
  show [.sent 0 [⟨1, 0⟩]] ++ (called.sweepsTo 15 ++ (Timed.runTo 15 called).sweeps ++ []) = _
  rw [hsweeps, hend]
  rfl

end Session
end Link
end ServiceLink
