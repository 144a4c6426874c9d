import ServiceLink.Proofs.Calls.History

/-! A table of calls beside a timer. The timer is started by the calls that find it stopped, ticks at even
intervals from then on, and stops at a tick that leaves no call. From this alone every call is bounded in
age, and no call expires early. -/

namespace ServiceLink.Calls

/-! ### Outcomes that nobody decided -/

/-- No response got an outcome, unless its call was dropped. -/
def Spared (c d : Calls) : Prop :=
  ∀ ticket outcome, d.response ticket = .ready outcome →
    outcome = .error .dropped ∨ c.response ticket = .ready outcome

theorem Spared.refl (c : Calls) : Spared c c := fun _ _ h => .inr h

theorem Spared.trans {c d e : Calls} (h : Spared c d) (h' : Spared d e) : Spared c e := by
  intro ticket outcome hready
  rcases h' ticket outcome hready with hdropped | hready
  · exact .inl hdropped
  · exact h ticket outcome hready

theorem spared_register {c d : Calls} {now : Nat} {r : Receipt} (h : c.register now = some (r, d)) :
    Spared c d := by
  obtain ⟨-, -, rfl⟩ := register_eq h
  intro ticket outcome hready
  refine .inr ?_
  rcases Nat.lt_trichotomy ticket c.responses.length with hlt | heq | hgt
  · simpa [response, List.getElem?_append_left hlt] using hready
  · simp [response, heq] at hready
  · have hout : (c.responses ++ [Response.waiting])[ticket]? = none :=
      List.getElem?_eq_none (by rw [List.length_append]; exact hgt)
    simp only [response, hout, Option.getD_none, reduceCtorEq] at hready

theorem ready_of_finish {c : Calls} {ends : InFlight → Bool} {outcome found : Outcome} {ticket : Ticket}
    (h : (c.finish ends outcome).response ticket = .ready found) :
    c.response ticket = .ready found ∨
      found = outcome ∧ ∃ call ∈ c.inFlight, ends call ∧ call.ticket = ticket := by
  rw [response_finish] at h
  split at h
  · rename_i hany
    cases hr : c.response ticket with
    | waiting =>
      rw [hr] at h
      simp only [List.any_eq_true, Bool.and_eq_true, decide_eq_true_eq] at hany
      exact .inr ⟨(Response.ready.inj h).symm, hany⟩
    | ready o =>
      rw [hr] at h
      exact .inl h
    | closed =>
      rw [hr] at h
      cases h
  · exact .inl h

theorem spared_cancel (c : Calls) (id : Nat) : Spared c (c.cancel id) := by
  intro ticket outcome hready
  rcases ready_of_finish hready with hbefore | ⟨hdropped, -⟩
  · exact .inr hbefore
  · exact .inl hdropped

theorem spared_foldl_cancel (c : Calls) (receipts : List Receipt) :
    Spared c (receipts.foldl (fun c r => c.cancel r.id) c) := by
  induction receipts generalizing c with
  | nil => exact .refl c
  | cons r receipts ih => exact (spared_cancel c r.id).trans (ih _)

theorem Entered.spared {now : Nat} {c d : Calls} {receipts : List Receipt}
    (h : Entered now c receipts d) : Spared c d := by
  induction h with
  | nil c => exact .refl c
  | cons hregister _ ih => exact (spared_register hregister).trans ih

/-! ### The timer -/

/-- A table, the next tick of its timer if that runs, and the time of the last event. -/
structure Clocked where
  calls : Calls
  tick? : Option Nat
  now : Nat

/-- How an event changes a table and its timer: a call starts a stopped timer, and a tick comes at the time that was
set for it. -/
inductive Beat (timeout interval : Nat) : Clocked → Event → Clocked → Prop
  /-- The calls that find the timer stopped start it. -/
  | started {c d : Calls} {now time : Nat} {receipts : List Receipt} :
      now ≤ time → receipts ≠ [] → Entered time c receipts d →
      Beat timeout interval ⟨c, none, now⟩ (.sent time receipts) ⟨d, some (time + interval), time⟩
  /-- Calls that find it running leave it, and so does a send that holds no call. -/
  | sent {c d : Calls} {tick? : Option Nat} {now time : Nat} {receipts : List Receipt} :
      now ≤ time → (∀ t, tick? = some t → time < t) → (tick? = none → receipts = []) →
      Entered time c receipts d →
      Beat timeout interval ⟨c, tick?, now⟩ (.sent time receipts) ⟨d, tick?, time⟩
  /-- A tick ends the calls that are due; it stops the timer if it leaves none. -/
  | ticked {c : Calls} {now time : Nat} : now ≤ time →
      Beat timeout interval ⟨c, some time, now⟩ (.sweep time)
        ⟨c.expire time timeout,
          if (c.expire time timeout).inFlight = [] then none else some (time + interval), time⟩
  | unsent {c d : Calls} {tick? : Option Nat} {now : Nat} : Undone c d → Spared c d →
      Beat timeout interval ⟨c, tick?, now⟩ .unsent ⟨d, tick?, now⟩
  | message {c : Calls} {tick? : Option Nat} {now : Nat} (m : Rpc.Message) :
      Beat timeout interval ⟨c, tick?, now⟩ (.message m) ⟨c.hear m, tick?, now⟩
  | dropped {c : Calls} {tick? : Option Nat} {now : Nat} :
      Beat timeout interval ⟨c, tick?, now⟩ .dropped ⟨c.drop, none, now⟩
  | looked {c : Calls} {tick? : Option Nat} {now : Nat} (ticket : Ticket) :
      Beat timeout interval ⟨c, tick?, now⟩ (.looked ticket) ⟨(c.take ticket).2, tick?, now⟩
  | forgotten {c : Calls} {tick? : Option Nat} {now : Nat} (ticket : Ticket) :
      Beat timeout interval ⟨c, tick?, now⟩ (.forgotten ticket) ⟨c.forget ticket, tick?, now⟩

/-- The events led from one table and timer to another. -/
abbrev Beats (timeout interval : Nat) : Clocked → List Event → Clocked → Prop :=
  Trace (Beat timeout interval)

variable {timeout interval : Nat} {b b' : Clocked} {e : Event} {es : List Event}

/-! ### Age -/

/-- No tick is overdue, and no call outlasts the tick after the next. -/
structure Clocked.Timely (timeout interval : Nat) (b : Clocked) : Prop where
  /-- With the timer stopped no call is in flight. -/
  stopped : b.tick? = none → b.calls.inFlight = []
  soon : ∀ t, b.tick? = some t → b.now ≤ t ∧ t ≤ b.now + interval
  /-- The next tick comes before a call is too old. -/
  young : ∀ call ∈ b.calls.inFlight,
    call.sentAt ≤ b.now ∧ ∀ t, b.tick? = some t → t ≤ call.sentAt + timeout + interval

theorem Clocked.Timely.of_subset {c d : Calls} {tick? : Option Nat} {now : Nat}
    (h : Clocked.Timely timeout interval ⟨c, tick?, now⟩) (hsub : d.inFlight ⊆ c.inFlight) :
    Clocked.Timely timeout interval ⟨d, tick?, now⟩ where
  stopped := fun hnone => List.subset_nil.1 (h.stopped hnone ▸ hsub)
  soon := h.soon
  young := fun call hcall => h.young call (hsub hcall)

theorem hear_subset (c : Calls) (m : Rpc.Message) : (c.hear m).inFlight ⊆ c.inFlight := by
  unfold hear
  split
  · exact fun call hcall => List.mem_of_mem_filter hcall
  · exact List.Subset.refl _

theorem timely_expire {c : Calls} {now time : Nat}
    (h : Clocked.Timely timeout interval ⟨c, some time, now⟩) (hnow : now ≤ time) :
    Clocked.Timely timeout interval ⟨c.expire time timeout,
      if (c.expire time timeout).inFlight = [] then none else some (time + interval), time⟩ := by
  refine ⟨fun hnone => ?_, fun t ht => ?_, fun call hcall => ?_⟩
  · by_contra hne
    simp [hne] at hnone
  · have heq : time + interval = t := by
      split at ht
      · cases ht
      · exact Option.some.inj ht
    dsimp only
    omega
  · obtain ⟨hmem, hkept⟩ := List.mem_filter.1 hcall
    have hsent : call.sentAt ≤ now := (h.young call hmem).1
    have hage : ¬ timeout ≤ time - call.sentAt := by simpa [isExpired] using hkept
    refine ⟨Nat.le_trans hsent hnow, fun t ht => ?_⟩
    have heq : time + interval = t := by
      rw [if_neg (List.ne_nil_of_mem hcall)] at ht
      exact Option.some.inj ht
    omega

theorem Beat.timely (h : Beat timeout interval b e b') (hb : b.Timely timeout interval) :
    b'.Timely timeout interval := by
  cases h with
  | @started c d now time receipts hnow hne hentered =>
    have hfresh : d.inFlight = receipts.map (Receipt.call time) := by
      rw [hentered.inFlight, hb.stopped rfl, List.nil_append]
    refine ⟨nofun, fun t ht => ?_, fun call hcall => ?_⟩
    · cases ht
      exact ⟨Nat.le_add_right _ _, Nat.le_refl _⟩
    · rw [hfresh] at hcall
      obtain ⟨r, -, rfl⟩ := List.mem_map.1 hcall
      refine ⟨Nat.le_refl _, fun t ht => ?_⟩
      cases ht
      show time + interval ≤ time + timeout + interval
      omega
  | @sent c d tick? now time receipts hnow hbefore hnone hentered =>
    refine ⟨fun hstopped => ?_, fun t ht => ?_, fun call hcall => ?_⟩
    · rw [hentered.inFlight, hb.stopped hstopped, hnone hstopped]
      rfl
    · have hsoon : t ≤ now + interval := (hb.soon t ht).2
      have hlt := hbefore t ht
      dsimp only
      omega
    · rw [hentered.inFlight] at hcall
      rcases List.mem_append.1 hcall with hold | hnew
      · exact ⟨Nat.le_trans (hb.young call hold).1 hnow, (hb.young call hold).2⟩
      · obtain ⟨r, -, rfl⟩ := List.mem_map.1 hnew
        refine ⟨Nat.le_refl _, fun t ht => ?_⟩
        have hsoon : t ≤ now + interval := (hb.soon t ht).2
        show t ≤ time + timeout + interval
        omega
  | ticked hnow => exact timely_expire hb hnow
  | unsent hundone _ => exact hb.of_subset (hundone.inFlight ▸ List.Subset.refl _)
  | message m => exact hb.of_subset (hear_subset _ m)
  | dropped =>
    have hempty : ∀ c : Calls, c.drop.inFlight = [] := fun c => by simp [drop, finish]
    refine ⟨fun _ => hempty _, fun t ht => ?_, fun call hcall => absurd (hempty _ ▸ hcall) List.not_mem_nil⟩
    cases ht
  | looked ticket => exact hb.of_subset (List.Subset.refl _)
  | forgotten ticket => exact hb.of_subset (List.Subset.refl _)

theorem Beats.timely (h : Beats timeout interval b es b') (hb : b.Timely timeout interval) :
    b'.Timely timeout interval :=
  Trace.keeps h (fun _ _ _ hb hbeat => hbeat.timely hb) hb

/-! ### Ticks -/

/-- Every tick so far lies one interval before the next. -/
theorem Beats.spaced {time : Nat} (h : Beats timeout interval b es b') (htick : .sweep time ∈ es) :
    time ≤ b'.now ∧ ∀ t, b'.tick? = some t → time + interval ≤ t := by
  induction h with
  | start => exact absurd htick List.not_mem_nil
  | step _ hbeat ih =>
    rw [List.mem_append, List.mem_singleton] at htick
    cases hbeat with
    | started hnow hne hentered =>
      have hbefore := (ih (htick.resolve_right nofun)).1
      refine ⟨Nat.le_trans hbefore hnow, fun t ht => ?_⟩
      cases ht
      exact Nat.add_le_add_right (Nat.le_trans hbefore hnow) _
    | sent hnow _ _ _ =>
      have hbefore := ih (htick.resolve_right nofun)
      exact ⟨Nat.le_trans hbefore.1 hnow, hbefore.2⟩
    | @ticked c now later hnow =>
      have hle : time ≤ later := by
        rcases htick with hearlier | heq
        · exact Nat.le_trans (ih hearlier).1 hnow
        · cases heq
          exact Nat.le_refl _
      refine ⟨hle, fun t ht => ?_⟩
      dsimp only at ht
      split at ht
      · cases ht
      · cases ht
        exact Nat.add_le_add_right hle _
    | unsent => exact ih (htick.resolve_right nofun)
    | message => exact ih (htick.resolve_right nofun)
    | dropped => exact ⟨(ih (htick.resolve_right nofun)).1, nofun⟩
    | looked => exact ih (htick.resolve_right nofun)
    | forgotten => exact ih (htick.resolve_right nofun)

theorem Beats.apart {before between after : List Event} {time later : Nat}
    (h : Beats timeout interval b (before ++ .sweep time :: between ++ .sweep later :: after) b') :
    time + interval ≤ later := by
  obtain ⟨m, m', hbefore, hbeat, -⟩ := Trace.at_middle h
  have hspaced := Beats.spaced hbefore (List.mem_append_right _ List.mem_cons_self)
  cases hbeat with
  | ticked _ => exact hspaced.2 later rfl

/-! ### Calls that expired -/

theorem Beat.step (h : Beat timeout interval b e b') : Step timeout b.calls e b'.calls := by
  cases h with
  | started _ _ hentered => exact .sent hentered
  | sent _ _ _ hentered => exact .sent hentered
  | ticked => exact .sweep _
  | unsent hundone _ => exact .unsent hundone
  | message m => exact .message m
  | dropped => exact .dropped
  | looked ticket => exact .looked ticket
  | forgotten ticket => exact .forgotten ticket

theorem Step.sent_of_mem {c d : Calls} (h : Step timeout c e d) {call : InFlight}
    (hcall : call ∈ d.inFlight) :
    call ∈ c.inFlight ∨
      ∃ receipts, e = .sent call.sentAt receipts ∧ ∃ r ∈ receipts, r.call call.sentAt = call := by
  cases h with
  | sent hentered =>
    rw [hentered.inFlight] at hcall
    rcases List.mem_append.1 hcall with hold | hnew
    · exact .inl hold
    · obtain ⟨r, hr, rfl⟩ := List.mem_map.1 hnew
      exact .inr ⟨_, rfl, r, hr, rfl⟩
  | unsent hundone => exact .inl (hundone.inFlight ▸ hcall)
  | message m => exact .inl (hear_subset c m hcall)
  | sweep now => exact .inl (List.mem_of_mem_filter hcall)
  | dropped => exact .inl (List.mem_of_mem_filter hcall)
  | looked ticket => exact .inl hcall
  | forgotten ticket => exact .inl hcall

theorem Beats.sent_of_mem (h : Beats timeout interval b es b') (hempty : b.calls.inFlight = [])
    {call : InFlight} (hcall : call ∈ b'.calls.inFlight) :
    ∃ receipts, .sent call.sentAt receipts ∈ es ∧ ∃ r ∈ receipts, r.call call.sentAt = call := by
  induction h with
  | start => exact absurd (hempty ▸ hcall) List.not_mem_nil
  | step _ hbeat ih =>
    rcases hbeat.step.sent_of_mem hcall with hbefore | ⟨receipts, rfl, hr⟩
    · obtain ⟨receipts, hmem, hr⟩ := ih hbefore
      exact ⟨receipts, List.mem_append_left _ hmem, hr⟩
    · exact ⟨receipts, List.mem_append_right _ List.mem_cons_self, hr⟩

theorem answer?_ne_expired {m : Rpc.Message} {id : Nat} {outcome : Outcome}
    (h : m.answer? = some (id, outcome)) : outcome ≠ .error .expired := by
  unfold Rpc.Message.answer? at h
  split at h <;> cases h <;> nofun

theorem ready_of_hear {c : Calls} {m : Rpc.Message} {ticket : Ticket}
    (h : (c.hear m).response ticket = .ready (.error .expired)) :
    c.response ticket = .ready (.error .expired) := by
  unfold hear at h
  split at h
  · rename_i hanswer
    rcases ready_of_finish h with hbefore | ⟨hexpired, -⟩
    · exact hbefore
    · exact absurd hexpired.symm (answer?_ne_expired hanswer)
  · exact h

theorem ready_of_take {c : Calls} {ticket taken : Ticket} {outcome : Outcome}
    (h : (c.take taken).2.response ticket = .ready outcome) : c.response ticket = .ready outcome := by
  rw [response_take] at h
  split at h
  · rename_i heq
    rw [heq]
    cases hr : c.response taken <;> simp [hr, Response.take] at h
  · exact h

theorem ready_of_forget {c : Calls} {ticket given : Ticket} {outcome : Outcome}
    (h : (c.forget given).response ticket = .ready outcome) : c.response ticket = .ready outcome := by
  rw [response_forget] at h
  split at h
  · cases h
  · exact h

theorem Spared.expired {c d : Calls} (h : Spared c d) {ticket : Ticket}
    (hready : d.response ticket = .ready (.error .expired)) :
    c.response ticket = .ready (.error .expired) :=
  (h ticket _ hready).resolve_left nofun

theorem Beat.expired (h : Beat timeout interval b e b') {ticket : Ticket}
    (hready : b'.calls.response ticket = .ready (.error .expired)) :
    b.calls.response ticket = .ready (.error .expired) ∨
      ∃ time, e = .sweep time ∧
        ∃ call ∈ b.calls.inFlight, isExpired time timeout call ∧ call.ticket = ticket := by
  cases h with
  | started _ _ hentered => exact .inl (hentered.spared.expired hready)
  | sent _ _ _ hentered => exact .inl (hentered.spared.expired hready)
  | ticked =>
    rcases ready_of_finish hready with hbefore | ⟨-, hcall⟩
    · exact .inl hbefore
    · exact .inr ⟨_, rfl, hcall⟩
  | unsent _ hspared => exact .inl (hspared.expired hready)
  | message m => exact .inl (ready_of_hear hready)
  | dropped =>
    rcases ready_of_finish hready with hbefore | ⟨hdropped, -⟩
    · exact .inl hbefore
    · exact absurd hdropped nofun
  | looked ticket => exact .inl (ready_of_take hready)
  | forgotten ticket => exact .inl (ready_of_forget hready)

theorem Beats.expired (h : Beats timeout interval b es b') {ticket : Ticket}
    (hready : b'.calls.response ticket = .ready (.error .expired)) :
    b.calls.response ticket = .ready (.error .expired) ∨
      ∃ before time after m, es = before ++ .sweep time :: after ∧ Beats timeout interval b before m ∧
        ∃ call ∈ m.calls.inFlight, isExpired time timeout call ∧ call.ticket = ticket ∧
          m.now ≤ time := by
  induction h with
  | start => exact .inl hready
  | @step es m m' e hes hbeat ih =>
    rcases hbeat.expired hready with hbefore | ⟨time, rfl, call, hcall, hexpired, hticket⟩
    · rcases ih hbefore with hstart | ⟨before, time, after, n, rfl, hrest⟩
      · exact .inl hstart
      · exact .inr ⟨before, time, after ++ [e], n, by simp, hrest⟩
    · have hnow : m.now ≤ time := by
        cases hbeat with
        | ticked hnow => exact hnow
      exact .inr ⟨es, time, [], m, rfl, hes, call, hcall, hexpired, hticket, hnow⟩

/-! ### From a new table on -/

theorem Beats.history (h : Beats timeout interval b es b') :
    History timeout b.calls es b'.calls := by
  induction h with
  | start => exact .start
  | step _ hbeat ih => exact .step ih hbeat.step

def Clocked.fresh (ceiling now : Nat) : Clocked := ⟨.withCeiling ceiling, none, now⟩

theorem timely_fresh (timeout interval ceiling now : Nat) :
    (Clocked.fresh ceiling now).Timely timeout interval :=
  ⟨fun _ => rfl, nofun, nofun⟩

/-- A call that expired was undecided from its sending to a tick at which it was old enough. -/
theorem Beats.expired_of_fresh {ceiling now : Nat} (h : Beats timeout interval (.fresh ceiling now) es b')
    {ticket : Ticket} (hready : b'.calls.response ticket = .ready (.error .expired)) :
    ∃ before sentAt receipts between time after,
      es = before ++ .sent sentAt receipts :: between ++ .sweep time :: after ∧
        (∃ r ∈ receipts, r.ticket = ticket ∧ verdict? timeout (r.call sentAt) between = none) ∧
          sentAt + timeout ≤ time := by
  have hnever : (Calls.withCeiling ceiling).response ticket ≠ .ready (.error .expired) := by
    simp [response, withCeiling]
  obtain ⟨past, time, after, m, rfl, hpast, call, hcall, hexpired, rfl, hnow⟩ :=
    (h.expired hready).resolve_left hnever
  obtain ⟨receipts, hmem, r, hr, hreceipt⟩ := Beats.sent_of_mem hpast rfl hcall
  obtain ⟨before, between, rfl⟩ := List.append_of_mem hmem
  have hold : call.sentAt ≤ m.now :=
    ((Beats.timely hpast (timely_fresh _ _ ceiling now)).young call hcall).1
  have hage : timeout ≤ time - call.sentAt := by simpa [isExpired] using hexpired
  refine ⟨before, call.sentAt, receipts, between, time, after, rfl,
    ⟨r, hr, hreceipt ▸ rfl, ?_⟩, by omega⟩
  -- a call that is still in flight has met no verdict since it was sent
  obtain ⟨c, d, hbefore, hsent, hbetween⟩ := (Beats.history hpast).at_middle
  have hsound : d.Sound :=
    hsent.sound (History.sound hbefore (sound_withCeiling ceiling))
  have hlisted : call ∈ d.inFlight := by
    cases hsent with
    | sent hentered =>
      rw [hentered.inFlight]
      exact List.mem_append_right _ (List.mem_map.2 ⟨r, hr, hreceipt⟩)
  rw [hreceipt]
  by_contra hverdict
  exact ((History.pursued hbetween hsound hlisted).ends hverdict).unlisted call hcall rfl

end ServiceLink.Calls
