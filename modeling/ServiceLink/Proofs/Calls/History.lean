import ServiceLink.Proofs.Calls.Entering
import ServiceLink.Proofs.Trace

/-! What befalls a table of calls, as a list of events, and what the events decide for one call. The
first event that decides on a call takes it out of flight and fixes its outcome; the later ones find
nothing of it. -/

namespace ServiceLink

/-- The call that a message answers, and how; a message without a usable id answers none. -/
def Rpc.Message.answer? : Rpc.Message → Option (Nat × Outcome)
  | .response (some id) result => some (id, .ok result)
  | .error (some id) object => some (id, .error (.remote object))
  | _ => none

namespace Calls

inductive Event
  /-- Calls were sent at a time and their receipts handed out. -/
  | sent (now : Nat) (receipts : List Receipt)
  /-- A send failed and all of it was taken back. -/
  | unsent
  | message (m : Rpc.Message)
  | sweep (now : Nat)
  | dropped
  /-- The holder of a ticket looked for the outcome. -/
  | looked (ticket : Ticket)
  | forgotten (ticket : Ticket)

/-- What a message does to a table. -/
def hear (c : Calls) (m : Rpc.Message) : Calls :=
  match m.answer? with
  | some (id, outcome) => c.complete id outcome
  | none => c

inductive Step (timeout : Nat) (c : Calls) : Event → Calls → Prop
  | sent {now : Nat} {receipts : List Receipt} {d : Calls} :
      Entered now c receipts d → Step timeout c (.sent now receipts) d
  | unsent {d : Calls} : Undone c d → Step timeout c .unsent d
  | message (m : Rpc.Message) : Step timeout c (.message m) (c.hear m)
  | sweep (now : Nat) : Step timeout c (.sweep now) (c.expire now timeout)
  | dropped : Step timeout c .dropped c.drop
  | looked (ticket : Ticket) : Step timeout c (.looked ticket) (c.take ticket).2
  | forgotten (ticket : Ticket) : Step timeout c (.forgotten ticket) (c.forget ticket)

/-- The events led from one table to another. -/
abbrev History (timeout : Nat) : Calls → List Event → Calls → Prop := Trace (Step timeout)

theorem Sound.hear {c : Calls} (hs : c.Sound) (m : Rpc.Message) : (c.hear m).Sound := by
  unfold Calls.hear
  split
  · exact hs.finish _ _
  · exact hs

theorem Step.sound {timeout : Nat} {c d : Calls} {e : Event} (h : Step timeout c e d)
    (hs : c.Sound) : d.Sound := by
  cases h with
  | sent h => exact h.sound hs
  | unsent h => exact h.sound hs
  | message m => exact hs.hear m
  | sweep now => exact hs.finish _ _
  | dropped => exact hs.finish _ _
  | looked ticket => exact hs.take ticket
  | forgotten ticket => exact hs.forget ticket

theorem History.sound {timeout : Nat} {c d : Calls} {es : List Event} (h : History timeout c es d)
    (hs : c.Sound) : d.Sound :=
  h.keeps (fun _ _ _ hs hstep => hstep.sound hs) hs

/-! ### Verdicts -/

namespace Event

/-- The outcome that an event decides on for a call. -/
def verdict? (timeout : Nat) (call : InFlight) : Event → Option Outcome
  | .message m => m.answer?.bind fun answer => if answer.1 = call.id then some answer.2 else none
  | .sweep now => if isExpired now timeout call then some (.error .expired) else none
  | .dropped => some (.error .dropped)
  | _ => none

/-- Whether an id is given to a call. -/
def handsOut (id : Nat) : Event → Bool
  | .sent _ receipts => receipts.any (·.id = id)
  | _ => false

end Event

/-- The outcome that the first event with a verdict on a call decides on. -/
def verdict? (timeout : Nat) (call : InFlight) (es : List Event) : Option Outcome :=
  es.findSome? (Event.verdict? timeout call)

/-- What the response to a call becomes through an event. -/
def through (timeout : Nat) (call : InFlight) (r : Response) (e : Event) : Response :=
  match e with
  | .looked ticket => if ticket = call.ticket then r.take.2 else r
  | .forgotten ticket => if ticket = call.ticket then .closed else r
  | e => (e.verdict? timeout call).elim r fun outcome => r.resolve outcome

/-! ### One event -/

/-- The call with a ticket is no longer in flight, and its response is decided or given up. -/
structure Ended (ticket : Ticket) (c : Calls) : Prop where
  known : ticket < c.responses.length
  unlisted : ∀ call ∈ c.inFlight, call.ticket ≠ ticket
  settled : c.response ticket ≠ .waiting

/-- What an event does to a call in flight: its response follows the event, and a verdict ends it. -/
structure Followed (timeout : Nat) (call : InFlight) (e : Event) (c d : Calls) : Prop where
  response : d.response call.ticket = through timeout call (c.response call.ticket) e
  stays : e.verdict? timeout call = none → call ∈ d.inFlight
  ends : e.verdict? timeout call ≠ none → Ended call.ticket d ∧ ¬ d.contains call.id

variable {timeout : Nat} {c d : Calls} {call : InFlight}

theorem response_of_extends (h : c.responses <+: d.responses) {t : Ticket}
    (ht : t < c.responses.length) : d.response t = c.response t := by
  obtain ⟨rest, hrest⟩ := h
  simp [response, ← hrest, List.getElem?_append_left ht]

theorem response_finish_of_mem (hs : c.Sound) (hmem : call ∈ c.inFlight) (ends : InFlight → Bool)
    (outcome : Outcome) :
    (c.finish ends outcome).response call.ticket =
      if ends call then (c.response call.ticket).resolve outcome else c.response call.ticket := by
  rw [response_finish]
  have hany : c.inFlight.any (fun k => ends k && k.ticket = call.ticket) = ends call := by
    rw [Bool.eq_iff_iff, List.any_eq_true]
    constructor
    · rintro ⟨k, hk, hends⟩
      rw [Bool.and_eq_true, decide_eq_true_eq] at hends
      rw [← hs.eq_of_ticket hk hmem hends.2]
      exact hends.1
    · exact fun h => ⟨call, hmem, by simpa using h⟩
  rw [hany]

theorem resolve_ne_waiting (outcome : Outcome) (r : Response) : r.resolve outcome ≠ .waiting := by
  cases r <;> exact Response.noConfusion

theorem ended_finish (hs : c.Sound) (hmem : call ∈ c.inFlight) {ends : InFlight → Bool}
    (outcome : Outcome) (hends : ends call) :
    Ended call.ticket (c.finish ends outcome) ∧ ¬ (c.finish ends outcome).contains call.id := by
  have hgone : call ∉ (c.finish ends outcome).inFlight := by
    intro hmem
    simpa [hends] using (List.mem_filter.1 hmem).2
  refine ⟨⟨?_, fun k hk ht => ?_, ?_⟩, fun hc => ?_⟩
  · rw [length_responses_finish]
    exact hs.known call hmem
  · rw [hs.eq_of_ticket (List.mem_of_mem_filter hk) hmem ht] at hk
    exact hgone hk
  · rw [response_finish_of_mem hs hmem, if_pos hends]
    exact resolve_ne_waiting _ _
  · obtain ⟨k, hk, hid⟩ := contains_iff.1 hc
    rw [hs.eq_of_id (List.mem_of_mem_filter hk) hmem hid] at hk
    exact hgone hk

theorem followed_finish (hs : c.Sound) (hmem : call ∈ c.inFlight) {ends : InFlight → Bool}
    {outcome : Outcome} {e : Event}
    (hv : e.verdict? timeout call = if ends call then some outcome else none)
    (hr : ∀ r, through timeout call r e = (e.verdict? timeout call).elim r fun o => r.resolve o) :
    Followed timeout call e c (c.finish ends outcome) := by
  by_cases hends : ends call
  · refine ⟨?_, fun h => ?_, fun _ => ended_finish hs hmem outcome hends⟩
    · rw [response_finish_of_mem hs hmem, hr, hv]
      simp [hends]
    · simp [hv, hends] at h
  · refine ⟨?_, fun _ => List.mem_filter.2 ⟨hmem, by simpa using hends⟩, fun h => ?_⟩
    · rw [response_finish_of_mem hs hmem, hr, hv]
      simp [hends]
    · simp [hv, hends] at h

theorem followed_hear (hs : c.Sound) (hmem : call ∈ c.inFlight) (m : Rpc.Message) :
    Followed timeout call (.message m) c (c.hear m) := by
  unfold hear
  cases hm : m.answer? with
  | none => exact ⟨by simp [through, Event.verdict?, hm], fun _ => hmem, by simp [Event.verdict?, hm]⟩
  | some answer =>
    obtain ⟨id, outcome⟩ := answer
    refine followed_finish hs hmem ?_ fun r => rfl
    simp [Event.verdict?, hm, eq_comm]

theorem response_looked (c : Calls) (ticket : Ticket) :
    (c.take ticket).2.response call.ticket =
      through timeout call (c.response call.ticket) (.looked ticket) := by
  rw [response_take]
  by_cases ht : call.ticket = ticket
  · simp [through, ht]
  · simp [through, ht, Ne.symm ht]

theorem response_forgotten (c : Calls) (ticket : Ticket) :
    (c.forget ticket).response call.ticket =
      through timeout call (c.response call.ticket) (.forgotten ticket) := by
  rw [response_forget]
  by_cases ht : call.ticket = ticket
  · simp [through, ht]
  · simp [through, ht, Ne.symm ht]

theorem followed_of_kept {e : Event} (hv : e.verdict? timeout call = none) (hmem : call ∈ d.inFlight)
    (hr : d.response call.ticket = through timeout call (c.response call.ticket) e) :
    Followed timeout call e c d :=
  ⟨hr, fun _ => hmem, fun h => absurd hv h⟩

theorem Step.followed {e : Event} (h : Step timeout c e d) (hs : c.Sound) (hmem : call ∈ c.inFlight) :
    Followed timeout call e c d := by
  have hknown := hs.known call hmem
  cases h with
  | sent h =>
    refine followed_of_kept rfl (h.inFlight ▸ List.mem_append_left _ hmem) ?_
    exact response_of_extends (h.responses ▸ List.prefix_append _ _) hknown
  | unsent h => exact followed_of_kept rfl (h.inFlight ▸ hmem) (response_of_extends h.responses hknown)
  | message m => exact followed_hear hs hmem m
  | sweep now => exact followed_finish hs hmem rfl fun r => rfl
  | dropped => exact followed_finish hs hmem rfl fun r => rfl
  | looked ticket => exact followed_of_kept rfl hmem (response_looked c ticket)
  | forgotten ticket => exact followed_of_kept rfl hmem (response_forgotten c ticket)

theorem Ended.finish {t : Ticket} (h : Ended t c) (ends : InFlight → Bool) (outcome : Outcome) :
    Ended t (c.finish ends outcome) ∧ (c.finish ends outcome).response t = c.response t := by
  have hresponse : (c.finish ends outcome).response t = c.response t := by
    rw [response_finish, if_neg]
    simp only [List.any_eq_true, Bool.and_eq_true, decide_eq_true_eq, not_exists, not_and]
    exact fun call hcall _ => h.unlisted call hcall
  refine ⟨⟨?_, fun call hcall => h.unlisted call (List.mem_of_mem_filter hcall), ?_⟩, hresponse⟩
  · rw [length_responses_finish]
    exact h.known
  · rw [hresponse]
    exact h.settled

theorem Step.ended {e : Event} (h : Step timeout c e d) (he : Ended call.ticket c) :
    Ended call.ticket d ∧ d.response call.ticket = through timeout call (c.response call.ticket) e := by
  -- a verdict after the first finds the response decided
  have hlate : ∀ o : Option Outcome, (o.elim (c.response call.ticket) fun o =>
      (c.response call.ticket).resolve o) = c.response call.ticket := by
    intro o
    have hne := he.settled
    cases o with
    | none => rfl
    | some o =>
      cases hr : c.response call.ticket with
      | waiting => exact absurd hr hne
      | ready => rfl
      | closed => rfl
  have hkept : ∀ ends outcome, Ended call.ticket (c.finish ends outcome) ∧
      ∀ o : Option Outcome, (c.finish ends outcome).response call.ticket =
        o.elim (c.response call.ticket) fun o => (c.response call.ticket).resolve o :=
    fun ends outcome => ⟨(he.finish ends outcome).1, fun o =>
      (he.finish ends outcome).2.trans (hlate o).symm⟩
  cases h with
  | sent h =>
    have hr := response_of_extends (h.responses ▸ List.prefix_append _ _) he.known
    refine ⟨⟨?_, fun k hk => ?_, hr ▸ he.settled⟩, hr⟩
    · rw [h.responses, List.length_append]
      exact Nat.lt_add_right _ he.known
    · rw [h.inFlight] at hk
      rcases List.mem_append.1 hk with hk | hk
      · exact he.unlisted k hk
      · obtain ⟨r, hr, rfl⟩ := List.mem_map.1 hk
        exact Nat.ne_of_gt (Nat.lt_of_lt_of_le he.known (h.le_ticket hr))
  | unsent h =>
    have hr := response_of_extends h.responses he.known
    exact ⟨⟨Nat.lt_of_lt_of_le he.known h.responses.length_le, h.inFlight ▸ he.unlisted,
      hr ▸ he.settled⟩, hr⟩
  | message m =>
    unfold hear
    split
    · exact ⟨(hkept _ _).1, (hkept _ _).2 _⟩
    · exact ⟨he, (hlate _).symm⟩
  | sweep now => exact ⟨(hkept _ _).1, (hkept _ _).2 _⟩
  | dropped => exact ⟨(hkept _ _).1, (hkept _ _).2 (some _)⟩
  | looked ticket =>
    refine ⟨⟨by simpa [Calls.take] using he.known, he.unlisted, ?_⟩, response_looked c ticket⟩
    have hne := he.settled
    rw [response_take]
    split
    · rename_i ht
      rw [ht] at hne
      cases hc : c.response ticket <;> simp_all [Response.take]
    · exact hne
  | forgotten ticket =>
    refine ⟨⟨by simpa [Calls.forget] using he.known, he.unlisted, ?_⟩, response_forgotten c ticket⟩
    rw [response_forget]
    split
    · exact Response.noConfusion
    · exact he.settled

/-- A response has got its outcome; its holder may have taken it, or given it up. -/
structure Decided (ticket : Ticket) (outcome : Outcome) (c : Calls) : Prop where
  known : ticket < c.responses.length
  response : c.response ticket = .ready outcome ∨ c.response ticket = .closed

theorem Decided.finish {t : Ticket} {outcome : Outcome} (h : Decided t outcome c)
    (ends : InFlight → Bool) (late : Outcome) : Decided t outcome (c.finish ends late) := by
  have hlate : (c.response t).resolve late = c.response t := by
    rcases h.response with hr | hr <;> rw [hr] <;> rfl
  refine ⟨?_, ?_⟩
  · rw [length_responses_finish]
    exact h.known
  · rw [response_finish, hlate, ite_self]
    exact h.response

theorem Step.decided {e : Event} {t : Ticket} {outcome : Outcome} (h : Step timeout c e d)
    (hd : Decided t outcome c) : Decided t outcome d := by
  have hextends : c.responses <+: d.responses → Decided t outcome d := fun hprefix =>
    ⟨Nat.lt_of_lt_of_le hd.known hprefix.length_le, response_of_extends hprefix hd.known ▸ hd.response⟩
  cases h with
  | sent h => exact hextends (h.responses ▸ List.prefix_append _ _)
  | unsent h => exact hextends h.responses
  | message m =>
    unfold hear
    split
    · exact hd.finish _ _
    · exact hd
  | sweep now => exact hd.finish _ _
  | dropped => exact hd.finish _ _
  | looked ticket =>
    refine ⟨by simpa [Calls.take] using hd.known, ?_⟩
    rw [response_take]
    split
    · rename_i ht
      rw [← ht]
      rcases hd.response with hr | hr <;> rw [hr] <;> exact .inr rfl
    · exact hd.response
  | forgotten ticket =>
    refine ⟨by simpa [Calls.forget] using hd.known, ?_⟩
    rw [response_forget]
    split
    · exact .inr rfl
    · exact hd.response

theorem History.decided {es : List Event} {t : Ticket} {outcome : Outcome}
    (h : History timeout c es d) (hd : Decided t outcome c) : Decided t outcome d :=
  h.keeps (fun _ _ _ hd hstep => hstep.decided hd) hd

/-! ### Any number of events -/

/-- A call that was in flight is still so until the first verdict, and its response follows the events. -/
structure Pursued (timeout : Nat) (call : InFlight) (es : List Event) (c d : Calls) : Prop where
  response : d.response call.ticket = es.foldl (through timeout call) (c.response call.ticket)
  stays : verdict? timeout call es = none → call ∈ d.inFlight
  ends : verdict? timeout call es ≠ none → Ended call.ticket d

theorem History.pursued {es : List Event} (h : History timeout c es d) (hs : c.Sound)
    (hmem : call ∈ c.inFlight) : Pursued timeout call es c d := by
  induction h with
  | start => exact ⟨rfl, fun _ => hmem, by simp [verdict?]⟩
  | @step es d d' e h hstep ih =>
    have hd : d.Sound := History.sound h hs
    have hv : verdict? timeout call (es ++ [e]) =
        (verdict? timeout call es).or (e.verdict? timeout call) := by
      simp [verdict?, List.findSome?_append]
    cases hes : verdict? timeout call es with
    | none =>
      have hcall := ih.stays hes
      have hf := hstep.followed hd hcall
      rw [hes, Option.none_or] at hv
      refine ⟨?_, fun h => hf.stays (hv ▸ h), fun h => (hf.ends (hv ▸ h)).1⟩
      rw [hf.response, ih.response, List.foldl_append]
      rfl
    | some o =>
      obtain ⟨he, hr⟩ := hstep.ended (ih.ends (by simp [hes]))
      rw [hes, Option.some_or] at hv
      refine ⟨?_, by simp [hv], fun _ => he⟩
      rw [hr, ih.response, List.foldl_append]
      rfl

/-! ### The response after the events -/

theorem foldl_closed (es : List Event) : es.foldl (through timeout call) .closed = .closed := by
  induction es with
  | nil => rfl
  | cons e es ih =>
    have hstep : through timeout call .closed e = .closed := by
      unfold through
      split
      · exact ite_self _
      · exact ite_self _
      · cases e.verdict? timeout call <;> rfl
    rw [List.foldl_cons, hstep, ih]

theorem foldl_of_forgotten {es : List Event} (h : .forgotten call.ticket ∈ es) (r : Response) :
    es.foldl (through timeout call) r = .closed := by
  obtain ⟨before, after, rfl⟩ := List.append_of_mem h
  rw [List.foldl_append, List.foldl_cons]
  simpa [through] using foldl_closed after

theorem foldl_undecided {es : List Event} (hv : verdict? timeout call es = none)
    (hf : .forgotten call.ticket ∉ es) :
    es.foldl (through timeout call) .waiting = .waiting := by
  induction es with
  | nil => rfl
  | cons e es ih =>
    rw [List.mem_cons, not_or] at hf
    obtain ⟨hnone, hrest⟩ : e.verdict? timeout call = none ∧ verdict? timeout call es = none := by
      simpa [verdict?] using hv
    have hstep : through timeout call .waiting e = .waiting := by
      unfold through
      split
      · exact ite_self _
      · exact if_neg fun ht => hf.1 (congrArg Event.forgotten (Eq.symm ht))
      · rw [hnone]
        rfl
    rw [List.foldl_cons, hstep, ih hrest hf.2]

theorem foldl_ready {es : List Event} (outcome : Outcome) (hl : .looked call.ticket ∉ es)
    (hf : .forgotten call.ticket ∉ es) :
    es.foldl (through timeout call) (.ready outcome) = .ready outcome := by
  induction es with
  | nil => rfl
  | cons e es ih =>
    rw [List.mem_cons, not_or] at hl hf
    have hstep : through timeout call (.ready outcome) e = .ready outcome := by
      unfold through
      split
      · exact if_neg fun ht => hl.1 (congrArg Event.looked (Eq.symm ht))
      · exact if_neg fun ht => hf.1 (congrArg Event.forgotten (Eq.symm ht))
      · cases e.verdict? timeout call <;> rfl
    rw [List.foldl_cons, hstep, ih hl.2 hf.2]

theorem foldl_looked {es : List Event} (outcome : Outcome) (hl : .looked call.ticket ∈ es) :
    es.foldl (through timeout call) (.ready outcome) = .closed := by
  by_cases hf : .forgotten call.ticket ∈ es
  · exact foldl_of_forgotten hf _
  · obtain ⟨before, after, rfl, hbefore⟩ := List.eq_append_cons_of_mem hl
    rw [List.mem_append, not_or] at hf
    rw [List.foldl_append, List.foldl_cons, foldl_ready outcome hbefore hf.1]
    simpa [through, Response.take] using foldl_closed after

theorem foldl_decided {before after : List Event} {e : Event} {outcome : Outcome}
    (hbefore : verdict? timeout call before = none) (he : e.verdict? timeout call = some outcome)
    (hf : .forgotten call.ticket ∉ before ++ e :: after) :
    (before ++ e :: after).foldl (through timeout call) .waiting =
      after.foldl (through timeout call) (.ready outcome) := by
  rw [List.mem_append, not_or] at hf
  have hstep : through timeout call .waiting e = .ready outcome := by
    unfold through
    split
    · cases he
    · cases he
    · rw [he]
      rfl
  rw [List.foldl_append, foldl_undecided hbefore hf.1, List.foldl_cons, hstep]

theorem verdict_of_ready {es : List Event} {outcome : Outcome}
    (h : es.foldl (through timeout call) .waiting = .ready outcome) :
    verdict? timeout call es = some outcome := by
  have hf : .forgotten call.ticket ∉ es := by
    intro hf
    rw [foldl_of_forgotten hf] at h
    cases h
  cases hv : verdict? timeout call es with
  | none =>
    rw [foldl_undecided hv hf] at h
    cases h
  | some o =>
    obtain ⟨before, e, after, rfl, he, hbefore⟩ := List.findSome?_eq_some_iff.1 hv
    rw [foldl_decided (List.findSome?_eq_none_iff.2 hbefore) he hf] at h
    by_cases hl : .looked call.ticket ∈ after
    · rw [foldl_looked o hl] at h
      cases h
    · rw [List.mem_append, List.mem_cons, not_or, not_or] at hf
      rw [foldl_ready o hl hf.2.2] at h
      cases h
      rfl

theorem not_contains_finish {id : Nat} (hc : ¬ c.contains id) (ends : InFlight → Bool)
    (outcome : Outcome) : ¬ (c.finish ends outcome).contains id := by
  intro hd
  obtain ⟨k, hk, hid⟩ := contains_iff.1 hd
  exact hc (contains_iff.2 ⟨k, List.mem_of_mem_filter hk, hid⟩)

theorem Step.not_contains {e : Event} {id : Nat} (h : Step timeout c e d) (he : ¬ e.handsOut id)
    (hc : ¬ c.contains id) : ¬ d.contains id := by
  cases h with
  | sent h =>
    intro hd
    obtain ⟨k, hk, hid⟩ := contains_iff.1 hd
    rw [h.inFlight] at hk
    rcases List.mem_append.1 hk with hk | hk
    · exact hc (contains_iff.2 ⟨k, hk, hid⟩)
    · obtain ⟨r, hr, rfl⟩ := List.mem_map.1 hk
      exact he (List.any_eq_true.2 ⟨r, hr, decide_eq_true hid⟩)
  | unsent h => rwa [contains, h.inFlight]
  | message m =>
    unfold hear
    split
    · exact not_contains_finish hc _ _
    · exact hc
  | sweep now => exact not_contains_finish hc _ _
  | dropped => exact not_contains_finish hc _ _
  | looked ticket => exact hc
  | forgotten ticket => exact hc

theorem History.not_contains {es : List Event} {id : Nat} (h : History timeout c es d)
    (hes : ∀ e ∈ es, ¬ e.handsOut id) (hc : ¬ c.contains id) : ¬ d.contains id := by
  induction h with
  | start => exact hc
  | step h hstep ih =>
    rw [List.forall_mem_append, List.forall_mem_singleton] at hes
    exact hstep.not_contains hes.2 (ih hes.1)

/-- From the verdict on a call its id is out of flight until it is handed out again. -/
theorem History.not_contains_of_verdict {before after : List Event} {e : Event}
    (h : History timeout c (before ++ e :: after) d) (hs : c.Sound) (hmem : call ∈ c.inFlight)
    (hbefore : verdict? timeout call before = none) (he : e.verdict? timeout call ≠ none)
    (hafter : ∀ x ∈ after, ¬ x.handsOut call.id) : ¬ d.contains call.id := by
  obtain ⟨b, b', hb, hstep, hrest⟩ := h.at_middle
  have hcall := (History.pursued hb hs hmem).stays hbefore
  have hgone := ((hstep.followed (History.sound hb hs) hcall).ends he).2
  exact History.not_contains hrest hafter hgone

end Calls
end ServiceLink
