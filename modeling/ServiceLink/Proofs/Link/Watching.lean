import ServiceLink.Proofs.Link.Doing
import ServiceLink.Proofs.Link.Reporting

/-! The monitor acts on the visibility. A poll opens a socket just when the host is visible and there is none, and
closes one only when it is hidden. Polls answer ticks, at whole intervals from the spawn on, and words about the
visibility, each with the one told last. All this holds while no start of the monitor's own is under way: then it
hears nothing, and what it missed it answers late. -/

namespace ServiceLink.Link

variable {κ : Type}

/-! ### One poll -/

namespace Monitor

end Monitor

/-! ### The outlook of a monitor -/

/-- Whether a tick comes after one time and not after another. -/
def ticksBetween (interval spawned start finish : Nat) : Bool :=
  (start - spawned) / interval < (finish - spawned) / interval

/-- The link after the doings so far, and which ticks and visibilities its monitor has still to answer. -/
structure Outlook (κ : Type) extends Dialing κ where
  now : Nat
  /-- The visibility told last. -/
  visible : Bool
  /-- It was told, and no poll has come since. -/
  isTold : Bool := false
  /-- A tick came, and no poll has answered it. -/
  isDue : Bool := true
  /-- Time went on over a tick or a word that no poll had answered. -/
  isLate : Bool := false
  /-- The number of the monitor's own start, while it is under way. -/
  awaited : Option Nat := none
  isOrphaned : Bool := false
  isDropped : Bool := false
  isOver : Bool := false

namespace Outlook

def after (interval spawned : Nat) (o : Outlook κ) (doing : Doing κ) : Outlook κ :=
  let o' := { o with toDialing := doing.onto o.toDialing }
  match doing with
  | .network _ => { o' with awaited := o.awaited.filter o'.isUnderWay }
  | .told visible => { o' with visible, isTold := true }
  | .orphaned => { o' with isOrphaned := true }
  | .dropped => { o' with isDropped := true }
  | .polled _ visible ticked =>
    { o' with
      isTold := false
      isDue := o.isDue && !ticked
      isLate := o.isLate && o.isDue && !ticked
      awaited := if visible && o.link.isDialable then some o'.attempt else none }
  | .ended => { o' with isOver := true }
  | .waited t =>
    { o' with
      now := t
      isDue := o.isDue || ticksBetween interval spawned o.now t
      isLate := o.isLate ||
        o.now < t && (o.isTold || o.isDue || ticksBetween interval spawned o.now (t - 1)) }
  | _ => o'

/-- The monitor hears ticks and words: it has not ended, and does not wait for a start of its own. -/
def Hears (o : Outlook κ) : Prop := o.isOver = false ∧ o.awaited = none

/-- What a monitor with an interval may do next, and whether time may go on. -/
def Allows (interval spawned : Nat) (o : Outlook κ) : Doing κ → Prop
  /- A poll answers a tick or a word. It comes at the time of the tick unless time went on over it. -/
  | .polled now visible ticked =>
    o.Hears ∧ o.isDropped = false ∧ now = o.now ∧ visible = o.visible ∧
      if ticked then o.isDue = true ∧ (o.isLate = false → interval ∣ now - spawned) else o.isTold = true
  | .ended => o.Hears ∧ (o.isDropped = true ∨ o.isOrphaned = true ∧ o.isTold = false)
  /- As long as the monitor hears, time goes on at most to the next tick, and only when all is answered. -/
  | .waited t => o.now ≤ t ∧ (o.Hears → o.isTold = false ∧ o.isDue = false ∧ o.isOrphaned = false ∧
      ticksBetween interval spawned o.now (t - 1) = false)
  | _ => True

def Admits (interval spawned : Nat) (o : Outlook κ) : List (Doing κ) → Prop
  | [] => True
  | doing :: doings => o.Allows interval spawned doing ∧ Admits interval spawned (o.after interval spawned doing) doings

/-- A monitor that has not ended agrees with the outlook. -/
structure Fits (interval spawned : Nat) (o : Outlook κ) (m : Monitor) : Prop where
  interval_eq : m.interval = interval
  visible : m.visible = o.visible
  isTold : m.isTold = o.isTold
  isDialing : m.isDialing = o.awaited.isSome
  isOrphaned : m.isOrphaned = o.isOrphaned
  isDue : o.isDue = decide (m.nextPoll ≤ o.now)
  grid : ∃ k, m.nextPoll = spawned + interval * k
  since : spawned ≤ o.now
  near : m.nextPoll ≤ o.now + interval
  punctual : o.isLate = false → o.isDue = true → m.nextPoll = o.now

variable {interval spawned : Nat} {o : Outlook κ} {m : Monitor}

theorem admits_append {ds ds' : List (Doing κ)} : o.Admits interval spawned (ds ++ ds') ↔
    o.Admits interval spawned ds ∧ (ds.foldl (after interval spawned) o).Admits interval spawned ds' := by
  induction ds generalizing o with
  | nil => simp [Admits]
  | cons d ds ih => rw [List.cons_append, Admits, ih, Admits, List.foldl_cons, and_assoc]

theorem ticksBetween_iff {now t next k : Nat} (hinterval : 0 < interval) (hsince : spawned ≤ now)
    (hgrid : next = spawned + interval * k) (hlater : now < next) (hnear : next ≤ now + interval) :
    ticksBetween interval spawned now t = true ↔ next ≤ t := by
  have hcount : (now - spawned) / interval + 1 = k := by
    cases k with
    | zero => omega
    | succ k =>
      rw [Nat.mul_succ] at hgrid
      refine congrArg (· + 1) (Nat.div_eq_of_lt_le ?_ ?_)
      · rw [Nat.mul_comm]
        omega
      · rw [Nat.succ_mul, Nat.mul_comm]
        omega
  rw [ticksBetween, decide_eq_true_eq, Nat.lt_iff_add_one_le, hcount, Nat.le_div_iff_mul_le hinterval,
    Nat.mul_comm]
  omega

theorem Fits.tickAfter (h : o.Fits interval spawned m) (hdue : m.nextPoll ≤ o.now) :
    (∃ k, m.tickAfter o.now = spawned + interval * k) ∧ m.tickAfter o.now ≤ o.now + interval := by
  obtain ⟨k, hk⟩ := h.grid
  have hle : interval * ((o.now - m.nextPoll) / interval) ≤ o.now - m.nextPoll := Nat.mul_div_le _ _
  unfold Monitor.tickAfter
  rw [h.interval_eq, Nat.mul_succ]
  refine ⟨⟨k + ((o.now - m.nextPoll) / interval + 1), ?_⟩, by omega⟩
  rw [Nat.mul_add, Nat.mul_succ]
  omega

/-! ### One doing -/

theorem Fits.wait (h : o.Fits interval spawned m) (hinterval : 0 < interval) {t : Nat} (hle : o.now ≤ t) :
    (o.after interval spawned (.waited t)).Fits interval spawned m := by
  obtain ⟨k, hk⟩ := h.grid
  have hdue := h.isDue
  have hticks (hlater : o.now < m.nextPoll) (u : Nat) :
      ticksBetween interval spawned o.now u = decide (m.nextPoll ≤ u) := by
    rw [Bool.eq_iff_iff, decide_eq_true_eq]
    exact ticksBetween_iff hinterval h.since hk hlater h.near
  refine { h with isDue := ?_, since := Nat.le_trans h.since hle, near := ?_, punctual := ?_ }
  · by_cases hlater : o.now < m.nextPoll
    · have hnot : o.isDue = false := by rw [hdue, decide_eq_false_iff_not]; omega
      simp only [after, hnot, hticks hlater, Bool.false_or]
    · have hyes : o.isDue = true := by rw [hdue, decide_eq_true_eq]; omega
      simp only [after, hyes, Bool.true_or]
      exact (decide_eq_true (by omega)).symm
  · exact Nat.le_trans h.near (Nat.add_le_add_right hle _)
  · intro hpunctual hyes
    simp only [after, Bool.or_eq_false_iff, Bool.and_eq_false_iff, decide_eq_false_iff_not, Bool.or_eq_true]
      at hpunctual hyes
    show m.nextPoll = t
    by_cases hlater : o.now < m.nextPoll
    · have hnot : o.isDue = false := by rw [hdue, decide_eq_false_iff_not]; omega
      rw [hticks hlater] at hpunctual hyes
      simp only [hnot, Bool.false_eq_true, false_or, decide_eq_true_eq, decide_eq_false_iff_not] at hpunctual hyes
      omega
    · have hyes : o.isDue = true := by rw [hdue, decide_eq_true_eq]; omega
      have hsame := h.punctual hpunctual.1 hyes
      rcases hpunctual.2 with hstill | hnone
      · omega
      · simp [hyes] at hnone

theorem Fits.polled (h : o.Fits interval spawned m) (hinterval : 0 < interval) (wordFirst : Bool) :
    (o.after interval spawned (.polled o.now m.visible (m.hearsTick o.now wordFirst))).Fits interval spawned
      (m.polled o.now wordFirst (m.dials o.link)) := by
  have hinterval' : 0 < m.interval := h.interval_eq ▸ hinterval
  refine ⟨h.interval_eq, h.visible, rfl, ?_, h.isOrphaned, ?_, ?_, h.since, ?_, ?_⟩
  · dsimp only [after, Monitor.polled, Monitor.dials]
    cases m.visible <;> cases o.link.isDialable <;> rfl
  all_goals
    by_cases hticked : m.hearsTick o.now wordFirst = true
  · have hlater := Monitor.lt_tickAfter hinterval' o.now
    simp only [after, Monitor.polled, hticked, if_true, Bool.not_true, Bool.and_false]
    exact (decide_eq_false (by omega)).symm
  · simpa [after, Monitor.polled, hticked] using h.isDue
  · have hdue : m.nextPoll ≤ o.now := (of_decide_eq_true hticked).1
    simpa [Monitor.polled, hticked] using (h.tickAfter hdue).1
  · simpa [Monitor.polled, hticked] using h.grid
  · have hdue : m.nextPoll ≤ o.now := (of_decide_eq_true hticked).1
    simpa [after, Monitor.polled, hticked] using (h.tickAfter hdue).2
  · simpa [after, Monitor.polled, hticked] using h.near
  · simp [after, hticked]
  · intro hpunctual hdue
    simp only [after, hticked, Bool.not_false, Bool.and_true, Bool.and_eq_false_iff] at hpunctual hdue
    have hsame := h.punctual (hpunctual.resolve_right (by simp [hdue])) hdue
    simpa [after, Monitor.polled, hticked] using hsame

theorem Fits.allows_polled (h : o.Fits interval spawned m) (hrunning : o.isOver = false) {wordFirst : Bool}
    (hpolls : m.polls o.now o.isDropped wordFirst = true) :
    o.Allows interval spawned (.polled o.now m.visible (m.hearsTick o.now wordFirst)) := by
  obtain ⟨-, hidle, hwoken⟩ := Monitor.isAwake_iff.1 (Monitor.isAwake_of_polls hpolls)
  obtain ⟨-, hlinked, hhears⟩ := of_decide_eq_true hpolls
  have hawaited : o.awaited = none := by simpa [hidle] using h.isDialing.symm
  refine ⟨⟨hrunning, hawaited⟩, by simpa using hlinked, rfl, h.visible, ?_⟩
  by_cases hticked : m.hearsTick o.now wordFirst = true
  · rw [if_pos hticked]
    have hdue : o.isDue = true := by
      rw [h.isDue, decide_eq_true_eq]
      exact (of_decide_eq_true hticked).1
    refine ⟨hdue, fun hpunctual => ?_⟩
    obtain ⟨k, hk⟩ := h.grid
    rw [← h.punctual hpunctual hdue, hk, Nat.add_sub_cancel_left]
    exact Nat.dvd_mul_right _ _
  · rw [if_neg hticked, ← h.isTold]
    by_contra htold
    -- with nothing told and no tick heard, only the end of the words is left to wake it
    have hlater : o.now < m.nextPoll := by
      by_contra hdue
      exact hticked (decide_eq_true ⟨Nat.le_of_not_lt hdue, fun hword => htold hword.2⟩)
    have horphaned := (hwoken.resolve_left (Nat.not_le_of_lt hlater)).resolve_left htold
    exact hhears (decide_eq_true ⟨horphaned, htold, .inr hlater⟩)

theorem Fits.of_onto (h : o.Fits interval spawned m) (d : Dialing κ) :
    ({ o with toDialing := d } : Outlook κ).Fits interval spawned m := { h with }

theorem Fits.network (h : o.Fits interval spawned m) (e : NetworkEvent) :
    let o' := o.after interval spawned (.network e)
    o'.Fits interval spawned (if o'.awaited.isNone then m.release else m) := by
  intro o'
  split
  · rename_i hnone
    exact { h with isDialing := (Option.isSome_eq_false_iff.2 hnone).symm }
  · rename_i hsome
    obtain ⟨n, hn⟩ := Option.ne_none_iff_exists'.1 fun hnone => hsome (Option.isNone_iff_eq_none.2 hnone)
    have hawaited : o.awaited = some n := (Option.filter_eq_some_iff.1 hn).1
    have hdialing : m.isDialing = true := by
      rw [h.isDialing, hawaited]
      rfl
    exact { h with isDialing := hdialing.trans (congrArg Option.isSome hn).symm }

end Outlook

namespace Session

/-! ### A session with a monitor -/

variable {interval spawned : Nat} {s s' : Session κ} {o : Outlook κ}

structure Watches (interval spawned : Nat) (s : Session κ) (o : Outlook κ) : Prop where
  dialing : s.toDialing = o.toDialing
  now : s.now = o.now
  awaited : s.awaited = o.awaited
  isDropped : s.isDropped = o.isDropped
  ticks : ∃ time ≤ s.now, s.link.Ticks time
  monitor : ∃ m, s.monitor = some m ∧ m.isFinished = o.isOver ∧
    (m.isFinished = false → o.Fits interval spawned m)

def IsSettled (s : Session κ) : Prop := ∀ m, s.monitor = some m → m.isAwake s.now = false

/-- These doings are allowed, and lead to a session with its outlook. -/
structure Continues (interval spawned : Nat) (o : Outlook κ) (ds : List (Doing κ)) (s' : Session κ) : Prop where
  admits : o.Admits interval spawned ds
  watches : s'.Watches interval spawned (ds.foldl (Outlook.after interval spawned) o)

theorem Continues.one {d : Doing κ} (hallows : o.Allows interval spawned d)
    (hwatches : s'.Watches interval spawned (o.after interval spawned d)) : Continues interval spawned o [d] s' :=
  ⟨⟨hallows, trivial⟩, hwatches⟩

theorem Continues.append {ds ds' : List (Doing κ)} (h : Continues interval spawned o ds s)
    (h' : Continues interval spawned (ds.foldl (Outlook.after interval spawned) o) ds' s') :
    Continues interval spawned o (ds ++ ds') s' where
  admits := Outlook.admits_append.2 ⟨h.admits, h'.admits⟩
  watches := by
    rw [List.foldl_append]
    exact h'.watches

namespace Watches

theorem continues (h : s.Watches interval spawned o) : Continues interval spawned o [] s := ⟨trivial, h⟩

theorem of_doing (h : s.Watches interval spawned o) (doing : Doing κ)
    (hafter : o.after interval spawned doing = { o with toDialing := doing.onto o.toDialing })
    (hticks : ∃ time ≤ s.now, (doing.onto s.toDialing).link.Ticks time) :
    ({ s with toDialing := doing.onto s.toDialing } : Session κ).Watches interval spawned
      (o.after interval spawned doing) := by
  obtain ⟨m, hm, hover, hfits⟩ := h.monitor
  rw [hafter, ← h.dialing]
  exact ⟨rfl, h.now, h.awaited, h.isDropped, hticks, m, hm, hover, fun hrunning => (hfits hrunning).of_onto _⟩

theorem ticks_of_same (h : s.Watches interval spawned o) {l : Link κ} (hsweep : l.sweep = s.link.sweep)
    (hsettings : l.settings = s.link.settings) : ∃ time ≤ s.now, l.Ticks time := by
  obtain ⟨time, hle, hticks⟩ := h.ticks
  exact ⟨time, hle, hticks.of_same hsweep hsettings⟩

/-! ### Turns -/

theorem sweep (h : s.Watches interval spawned o) :
    Continues interval spawned o [.swept s.now] (s.mapLink (·.sweepIfDue s.now)) := by
  obtain ⟨time, -, hticks⟩ := h.ticks
  exact .one trivial (h.of_doing (.swept s.now) rfl ⟨s.now, Nat.le_refl _, hticks.sweepIfDue s.now⟩)

theorem poll {m : Monitor} {wordFirst : Bool} (hrunning : o.isOver = false) (hfits : o.Fits interval spawned m)
    (hinterval : 0 < interval) (hticks : ∃ time ≤ o.now, o.link.Ticks time)
    (hpolls : m.polls o.now o.isDropped wordFirst = true) :
    let polled : Doing κ := .polled o.now m.visible (m.hearsTick o.now wordFirst)
    let m' := m.polled o.now wordFirst (m.dials o.link)
    Continues interval spawned o (polled :: if m'.isFinished then [.ended] else [])
      { toDialing := polled.onto o.toDialing
        now := o.now
        monitor := some m'
        awaited := (o.after interval spawned polled).awaited
        isDropped := o.isDropped } := by
  intro polled m'
  have hallows := hfits.allows_polled hrunning hpolls
  have hpolled := hfits.polled hinterval wordFirst
  have hticks : ∃ time ≤ o.now, (o.toDialing.poll o.now m.visible).link.Ticks time := by
    obtain ⟨time, hle, hticks⟩ := hticks
    rw [Dialing.link_poll]
    exact ⟨time, hle, hticks.of_statusOnly (statusOnly_poll _ _)⟩
  cases hends : m'.isFinished with
  | false =>
    exact .one hallows ⟨rfl, rfl, rfl, rfl, hticks, m', rfl, hends.trans hrunning.symm, fun _ => hpolled⟩
  | true =>
    obtain ⟨horphaned, hidle, -⟩ := of_decide_eq_true hends
    have hawaited : (o.after interval spawned polled).awaited = none := by
      have hdialing : m'.isDialing = false := by simpa [m', Monitor.polled] using hidle
      exact Option.not_isSome_iff_eq_none.1 fun hsome =>
        Bool.false_ne_true (hdialing.symm.trans (hpolled.isDialing.trans hsome))
    refine ⟨⟨hallows, ⟨⟨hrunning, hawaited⟩, .inr ⟨?_, rfl⟩⟩, trivial⟩, ?_⟩
    · exact hfits.isOrphaned.symm.trans horphaned
    · refine ⟨rfl, rfl, rfl, rfl, hticks, m', rfl, hends, fun hnot => ?_⟩
      exact absurd (hnot.symm.trans hends) Bool.false_ne_true

theorem turn (h : s.Watches interval spawned o) (hinterval : 0 < interval) (wordFirst : Bool) :
    Continues interval spawned o (s.turnDoings wordFirst) (s.turn wordFirst) := by
  obtain ⟨d, now, monitor, awaited, isDropped⟩ := s
  obtain ⟨rfl, rfl, rfl, rfl, hticks, m, rfl, hover, hfits⟩ := h
  simp only [Session.turn, turnDoings, Option.toList_some, List.flatMap_singleton]
  by_cases hpolls : m.polls o.now o.isDropped wordFirst = true
  · have hrunning := (Monitor.isAwake_iff.1 (Monitor.isAwake_of_polls hpolls)).1
    have hcontinues := poll (hover.symm.trans hrunning) (hfits hrunning) hinterval hticks hpolls
    simpa [hpolls, hrunning, Monitor.turn, Outlook.after, Monitor.dials, Doing.onto] using hcontinues
  · rw [if_neg hpolls, if_neg hpolls, Monitor.turn, if_neg hpolls, List.nil_append]
    by_cases hawake : m.isAwake o.now = true
    · obtain ⟨hrunning, hidle, -⟩ := Monitor.isAwake_iff.1 hawake
      have hfits := hfits hrunning
      rw [if_pos ⟨by simp [hawake], by simp [hrunning]⟩]
      refine .one ⟨⟨hover.symm.trans hrunning, ?_⟩, ?_⟩ ?_
      · simpa [hidle] using hfits.isDialing.symm
      · rw [← hfits.isTold, ← hfits.isOrphaned]
        simp only [Monitor.polls, hawake, Monitor.hearsEnd] at hpolls
        grind
      · exact ⟨rfl, rfl, rfl, rfl, hticks, _, rfl, by simp [hawake, Outlook.after], by simp [hawake]⟩
    · have hsame : { m with isFinished := m.isFinished || m.isAwake o.now } = m := by simp [hawake]
      rw [hsame, if_neg (by simp)]
      exact Watches.continues ⟨rfl, rfl, rfl, rfl, hticks, m, rfl, hover, hfits⟩

theorem settle (h : s.Watches interval spawned o) (hinterval : 0 < interval) :
    Continues interval spawned o s.settleDoings s.settle := by
  have hswept := h.sweep
  exact hswept.append (hswept.watches.turn hinterval false)

theorem hasInterval (h : s.Watches interval spawned o) (hinterval : 0 < interval) {m : Monitor}
    (hm : s.monitor = some m) : m.HasInterval := by
  obtain ⟨m', hm', -, hfits⟩ := h.monitor
  cases hm.symm.trans hm'
  cases hfinished : m.isFinished with
  | true => exact .inl hfinished
  | false => exact .inr ((hfits hfinished).interval_eq ▸ hinterval)

theorem isSettled (h : s.Watches interval spawned o) (hinterval : 0 < interval) : s.settle.IsSettled := by
  intro m' hm'
  rw [Session.settle, monitor_turn] at hm'
  obtain ⟨m, hm, rfl⟩ := Option.map_eq_some_iff.1 hm'
  rw [now_settle]
  exact (h.hasInterval hinterval hm).asleep

theorem idle (h : s.Watches interval spawned o) (hsettled : s.IsSettled) (hhears : o.Hears) :
    ∃ m, s.monitor = some m ∧ o.Fits interval spawned m ∧ m.pollTime? = some m.nextPoll ∧ o.now < m.nextPoll ∧
      o.isTold = false ∧ o.isOrphaned = false := by
  obtain ⟨m, hm, hover, hfits⟩ := h.monitor
  obtain ⟨hrunning, hawaited⟩ := hhears
  have hfits := hfits (hover.trans hrunning)
  have hdialing : m.isDialing = false := by simpa [hawaited] using hfits.isDialing
  have hasleep := hsettled m hm
  rw [h.now, Bool.eq_false_iff, ne_eq, Monitor.isAwake_iff, not_and, not_and] at hasleep
  have hasleep := hasleep (hover.trans hrunning) hdialing
  rw [not_or, not_or] at hasleep
  refine ⟨m, hm, hfits, Monitor.pollTime?_eq_some.2 ⟨hover.trans hrunning, hdialing, rfl⟩,
    Nat.lt_of_not_le hasleep.1, ?_, ?_⟩
  · rw [← hfits.isTold]
    simpa using hasleep.2.1
  · rw [← hfits.isOrphaned]
    simpa using hasleep.2.2

theorem wait (h : s.Watches interval spawned o) (hinterval : 0 < interval) (hsettled : s.IsSettled) {t : Nat}
    (hle : s.now ≤ t) (hnext : ∀ m, s.monitor = some m → ∀ u, m.pollTime? = some u → t ≤ u) :
    Continues interval spawned o [.waited t] ({ s with now := t } : Session κ) := by
  refine .one ⟨h.now ▸ hle, fun hhears => ?_⟩ ?_
  · obtain ⟨m, hm, hfits, hpoll, hlater, htold, horphaned⟩ := h.idle hsettled hhears
    obtain ⟨k, hk⟩ := hfits.grid
    refine ⟨htold, by rw [hfits.isDue, decide_eq_false_iff_not]; omega, horphaned, ?_⟩
    rw [Bool.eq_false_iff, ne_eq, Outlook.ticksBetween_iff hinterval hfits.since hk hlater hfits.near]
    have hbefore := hnext m hm m.nextPoll hpoll
    omega
  · obtain ⟨time, hbefore, hticks⟩ := h.ticks
    obtain ⟨m, hm, hover, hfits⟩ := h.monitor
    exact ⟨h.dialing, rfl, h.awaited, h.isDropped, ⟨time, Nat.le_trans hbefore hle, hticks⟩, m, hm, hover,
      fun hrunning => (hfits hrunning).wait hinterval (h.now ▸ hle)⟩

theorem quietUntil (hticks : s.link.Ticks s.now) (hsettled : s.IsSettled) : s.QuietUntil (s.now + 1) :=
  quietUntil_iff.2 ⟨fun t ht => (hticks t ht).1, fun m hm _ ht => Monitor.lt_of_asleep (hsettled m hm) ht⟩

theorem ticks_settle (h : s.Watches interval spawned o) : s.settle.link.Ticks s.settle.now := by
  obtain ⟨time, -, hticks⟩ := h.ticks
  rw [now_settle]
  exact (hticks.sweepIfDue s.now).of_statusOnly (statusOnly_settle s)

theorem runTo (h : s.Watches interval spawned o) (hinterval : 0 < interval) (hsettled : s.IsSettled)
    (hticks : s.link.Ticks s.now) {finish : Nat} (hfinish : s.now ≤ finish) :
    Continues interval spawned o (s.runToDoings finish) (Timed.runTo finish s) := by
  unfold runToDoings
  suffices hcontinues : ∀ o, s.Watches interval spawned o → s.IsSettled → s.link.Ticks s.now → s.now ≤ finish →
      Continues interval spawned o _ (Timed.runTo finish s) from hcontinues o h hsettled hticks hfinish
  refine Timed.runTo_induction (motive := fun s ds s' => ∀ o, s.Watches interval spawned o → s.IsSettled →
    s.link.Ticks s.now → s.now ≤ finish → Continues interval spawned o (ds ++ [.waited finish]) s') _ finish ?_ ?_ s
  · intro s hnone o h hsettled hticks hfinish
    have hlater : s.QuietUntil (finish + 1) := fun t ht =>
      Nat.lt_of_not_le fun hle => hnone t ht ⟨quietUntil hticks hsettled t ht, hle⟩
    exact h.wait hinterval hsettled hfinish fun m hm u hu =>
      Nat.le_of_succ_le ((quietUntil_iff.1 hlater).2 m hm u hu)
  · intro s t ds s' hdue hlater hfinish ih o h hsettled hticks _
    have hnext : s.QuietUntil t := fun u hu => Nat.le_of_eq (Option.some.inj (hdue.symm.trans hu))
    have hwaited := h.wait hinterval hsettled (Nat.le_of_lt hlater) (quietUntil_iff.1 hnext).2
    have hrung := hwaited.append (hwaited.watches.settle hinterval)
    have hnow : (Timed.ring s t).now = t := now_settle _
    rw [List.append_assoc]
    exact hrung.append (ih _ hrung.watches (hwaited.watches.isSettled hinterval) hwaited.watches.ticks_settle
      (Nat.le_trans (Nat.le_of_eq hnow) hfinish))

/-! ### Any cue -/

theorem hear (h : s.Watches interval spawned o) (hlinked : s.isDropped = false) (e : NetworkEvent) :
    Continues interval spawned o [.network e] (s.hear e) := by
  have hticks : ∃ time ≤ s.now, (s.toDialing.hear e).link.Ticks time :=
    h.ticks_of_same (Link.statusOnly_hear s.toDialing e).sweep (Link.statusOnly_hear s.toDialing e).settings
  obtain ⟨m, hm, hover, hfits⟩ := h.monitor
  unfold Session.hear
  rw [if_neg (by simp [hlinked])]
  dsimp only
  rw [hm, Option.map_some]
  rw [h.dialing] at hticks ⊢
  rw [h.awaited]
  refine .one trivial ⟨rfl, h.now, rfl, h.isDropped, hticks, _, rfl, ?_, fun hrunning => ?_⟩
  · split <;> exact hover
  · refine (hfits ?_).network e
    split at hrunning <;> exact hrunning

theorem tell (h : s.Watches interval spawned o) (visible : Bool) :
    Continues interval spawned o [.told visible] (s.cue (.act (.tell visible))) := by
  obtain ⟨m, hm, hover, hfits⟩ := h.monitor
  refine .one trivial
    ⟨h.dialing, h.now, h.awaited, h.isDropped, h.ticks, m.tell visible, congrArg (Option.map _) hm, ?_, ?_⟩
  · unfold Monitor.tell
    split <;> exact hover
  · intro hrunning
    unfold Monitor.tell at hrunning ⊢
    split at hrunning
    · rename_i hfinished
      exact absurd (hrunning.symm.trans hfinished) Bool.false_ne_true
    · rename_i hnot
      rw [if_neg hnot]
      exact { hfits hrunning with visible := rfl, isTold := rfl }

theorem orphan (h : s.Watches interval spawned o) :
    Continues interval spawned o [.orphaned] (s.cue (.act .orphan)) := by
  obtain ⟨m, hm, hover, hfits⟩ := h.monitor
  refine .one trivial ⟨h.dialing, h.now, h.awaited, h.isDropped, h.ticks, { m with isOrphaned := true },
    congrArg (Option.map _) hm, hover, fun hrunning => ?_⟩
  exact { hfits hrunning with isOrphaned := rfl }

theorem drop (h : s.Watches interval spawned o) (hidle : s.dials = []) :
    Continues interval spawned o [.dropped] s.drop := by
  obtain ⟨m, hm, hover, hfits⟩ := h.monitor
  simp only [Session.drop, hidle, if_true]
  refine .one trivial ⟨?_, h.now, h.awaited, rfl, ⟨s.now, Nat.le_refl _, fun t ht => ?_⟩, m, hm, hover,
    fun hrunning => ?_⟩
  · dsimp only [Outlook.after, Doing.onto, mapLink]
    rw [h.dialing]
  · cases ht
  · exact { (hfits hrunning) with }

theorem cue (h : s.Watches interval spawned o) (hinterval : 0 < interval) {c : Cue κ}
    (hc : ∀ interval visible, c ≠ .act (.monitor interval visible)) :
    Continues interval spawned o (s.cueDoings c) (s.cue c) := by
  cases c with
  | sweep => exact h.sweep
  | turn wordFirst => exact h.turn hinterval wordFirst
  | act a =>
    cases a with
    | monitor interval visible => exact absurd rfl (hc interval visible)
    | take ticket => exact .one trivial (h.of_doing (.looked ticket) rfl (h.ticks_of_same rfl rfl))
    | forget ticket => exact .one trivial (h.of_doing (.forgotten ticket) rfl (h.ticks_of_same rfl rfl))
    | link a =>
      obtain ⟨time, hle, hticks⟩ := h.ticks
      by_cases hdropped : s.isDropped
      · simpa [Session.cue, act, cueDoings, hdropped] using h.continues
      · dsimp only [Session.cue, act, cueDoings]
        rw [if_neg hdropped, if_neg hdropped]
        exact .one trivial (h.of_doing (.acted s.now a) rfl ⟨time, hle, hticks.act hle a⟩)
    | advance ms =>
      have hsettled := h.settle hinterval
      exact hsettled.append (hsettled.watches.runTo hinterval (h.isSettled hinterval) h.ticks_settle
        (Nat.le_add_right _ ms))
    | network e =>
      by_cases hdropped : s.isDropped
      · simpa [Session.cue, act, Session.hear, cueDoings, hdropped] using h.continues
      · simpa [Session.cue, act, cueDoings, hdropped] using h.hear (Bool.eq_false_iff.2 hdropped) e
    | tell visible => exact h.tell visible
    | orphan => exact h.orphan
    | drop =>
      by_cases hidle : s.dials = []
      · simpa [Session.cue, act, cueDoings, hidle] using h.drop hidle
      · simpa [Session.cue, act, Session.drop, cueDoings, hidle] using h.continues

theorem cues (h : s.Watches interval spawned o) (hinterval : 0 < interval) {cs : List (Cue κ)}
    (hcs : ∀ c ∈ cs, ∀ interval visible, c ≠ .act (.monitor interval visible)) :
    Continues interval spawned o (s.doings cs) (s.cues cs) := by
  induction cs generalizing s o with
  | nil => exact h.continues
  | cons c cs ih =>
    rw [List.forall_mem_cons] at hcs
    have hfirst := h.cue hinterval hcs.1
    exact hfirst.append (ih hfirst.watches hcs.2)

end Watches

/-! ### Before a monitor is spawned -/

structure IsUnwatched (s : Session κ) : Prop where
  monitor : s.monitor = none
  linked : s.isDropped = false
  ticks : ∃ time ≤ s.now, s.link.Ticks time

theorem IsUnwatched.settle (h : s.IsUnwatched) : s.settle.IsUnwatched := by
  obtain ⟨time, -, hticks⟩ := h.ticks
  have hsettle : s.settle = s.mapLink (·.sweepIfDue s.now) := by
    unfold Session.settle Session.turn
    simp [mapLink, h.monitor]
  rw [hsettle]
  exact ⟨h.monitor, h.linked, s.now, Nat.le_refl _, hticks.sweepIfDue s.now⟩

theorem IsUnwatched.cue (h : s.IsUnwatched) {c : Cue κ}
    (hspawn : ∀ interval visible, c ≠ .act (.monitor interval visible)) (hdrop : c ≠ .act .drop) :
    (s.cue c).IsUnwatched := by
  obtain ⟨time, hle, hticks⟩ := h.ticks
  have hsame {l : Link κ} (hl : s.link.StatusOnly l) : ∃ time ≤ s.now, l.Ticks time :=
    ⟨time, hle, hticks.of_statusOnly hl⟩
  cases c with
  | sweep => exact ⟨h.monitor, h.linked, s.now, Nat.le_refl _, hticks.sweepIfDue s.now⟩
  | turn wordFirst =>
    have hturn : s.turn wordFirst = s := by
      unfold Session.turn
      simp [h.monitor]
    rwa [Session.cue, hturn]
  | act a =>
    cases a with
    | link a =>
      dsimp only [Session.cue, act]
      rw [if_neg (by simp [h.linked])]
      exact ⟨h.monitor, h.linked, time, hle, hticks.act hle a⟩
    | network e =>
      dsimp only [Session.cue, act, hear]
      rw [if_neg (by simp [h.linked]), h.monitor]
      exact ⟨rfl, h.linked, hsame (Link.statusOnly_hear s.toDialing e)⟩
    | advance ms =>
      have hwait (s : Session κ) (t : Nat) (h : s.IsUnwatched) (hle : s.now ≤ t) :
          ({ s with now := t } : Session κ).IsUnwatched := by
        obtain ⟨time, hbefore, hticks⟩ := h.ticks
        exact ⟨h.monitor, h.linked, time, Nat.le_trans hbefore hle, hticks⟩
      refine (Timed.runTo_keeps (P := fun s' : Session κ => s'.IsUnwatched ∧ s'.now ≤ s.settle.now + ms)
        ⟨h.settle, Nat.le_add_right _ _⟩ (fun s' t h' _ hlater hfinish => ?_) fun s' h' _ => ?_).1
      · exact ⟨(hwait s' t h'.1 (Nat.le_of_lt hlater)).settle, Nat.le_trans (Nat.le_of_eq (now_settle _)) hfinish⟩
      · exact ⟨hwait s' _ h'.1 h'.2, Nat.le_refl _⟩
    | monitor interval visible => exact absurd rfl (hspawn interval visible)
    | tell visible | orphan => exact ⟨congrArg (Option.map _) h.monitor, h.linked, time, hle, hticks⟩
    | take ticket | forget ticket => exact ⟨h.monitor, h.linked, time, hle, hticks.of_same rfl rfl⟩
    | drop => exact absurd rfl hdrop

theorem IsUnwatched.spawn (h : s.IsUnwatched) (hinterval : 0 < interval) (visible : Bool) :
    (s.spawnMonitor interval visible).Watches interval s.now
      { toDialing := s.toDialing, now := s.now, visible } := by
  refine ⟨rfl, rfl, rfl, h.linked, h.ticks, .new interval s.now visible, rfl,
    decide_eq_false (Nat.ne_of_gt hinterval), fun _ => ?_⟩
  exact
    { interval_eq := rfl
      visible := rfl
      isTold := rfl
      isDialing := rfl
      isOrphaned := rfl
      isDue := by simp [Monitor.new]
      grid := ⟨0, rfl⟩
      since := Nat.le_refl _
      near := Nat.le_add_right _ _
      punctual := fun _ _ => rfl }

/-! ### The monitor follows the visibility -/

def unanswered : List (Cue Nat) :=
  [.turn false, .act (.advance 500), .act (.link .stop), .act (.advance 1500), .turn false]

end Session
end ServiceLink.Link
