import ServiceLink.Proofs.Link.Runs

/-! A response reaches the call with its id and no other. The outcome of a call is that of the first event
with a verdict on it; from then on its id means nothing until it is handed out again. -/

namespace ServiceLink.Link

open Calls (Event Ended isExpired)

variable {κ : Type}

/-! ### Messages -/

theorem receive_of_answer {m : Rpc.Message} {id : Nat} {outcome : Outcome}
    (h : m.answer? = some (id, outcome)) (l : Link κ) :
    l.receive m = { l with calls := l.calls.complete id outcome } := by
  cases m with
  | response id' result => cases id' <;> cases h; rfl
  | error id' object => cases id' <;> cases h; rfl
  | _ => cases h

theorem reply?_of_answer {m : Rpc.Message} {id : Nat} {outcome : Outcome}
    (h : m.answer? = some (id, outcome)) : m.reply? = none := by
  cases m <;> first | rfl | cases h

theorem finish_eq_self {c : Calls} {ends : InFlight → Bool} {outcome : Outcome}
    (h : ∀ call ∈ c.inFlight, ¬ ends call) : c.finish ends outcome = c := by
  have hnone : c.inFlight.filter ends = [] := List.filter_eq_nil_iff.2 h
  have hall : c.inFlight.filter (fun call => ¬ ends call) = c.inFlight :=
    List.filter_eq_self.2 fun call hcall => by simpa using h call hcall
  simp only [Calls.finish, hnone, hall, List.foldl_nil]

theorem receive_eq_self {m : Rpc.Message} {id : Nat} {outcome : Outcome}
    (h : m.answer? = some (id, outcome)) {l : Link κ} (hc : ¬ l.calls.contains id) :
    l.receive m = l := by
  have hself : l.calls.complete id outcome = l.calls :=
    finish_eq_self fun call hcall hid => hc (Calls.contains_iff.2 ⟨call, hcall, of_decide_eq_true hid⟩)
  rw [receive_of_answer h, hself]

/-- Whether a message answers the call with an id. -/
def answers (id : Nat) (m : Rpc.Message) : Bool := m.answer?.any (·.1 = id)

theorem answer?_of_answers {id : Nat} {m : Rpc.Message} (h : answers id m) :
    ∃ outcome, m.answer? = some (id, outcome) := by
  unfold answers at h
  cases hm : m.answer? with
  | none => simp [hm] at h
  | some answer =>
    have hid : answer.1 = id := by simpa [hm] using h
    exact ⟨answer.2, hid ▸ rfl⟩

/-! ### A spent id -/

/-- The call is over and its id free: what still comes for it changes nothing. -/
structure Spent (call : InFlight) (l : Link κ) : Prop where
  absent : ¬ l.calls.contains call.id
  /-- A message alone is as if it had not come. -/
  message : ∀ m, answers call.id m → l.receive m = l ∧ m.reply? = none
  /-- Among the messages of a frame it is as if it had been left out. -/
  among : ∀ messages : List Rpc.Message,
    messages.foldl receive l = (messages.filter (¬ answers call.id ·)).foldl receive l ∧
      messages.filterMap Rpc.Message.reply? =
        (messages.filter (¬ answers call.id ·)).filterMap Rpc.Message.reply?
  /-- A frame with nothing else in it changes nothing, and nothing is sent in return. -/
  frame : ∀ text, (Rpc.Frame.read text).messages ≠ [] →
    (∀ m ∈ (Rpc.Frame.read text).messages, answers call.id m) → l.handleFrame text = l
  /-- A sweep ends the other calls that are due and no more. -/
  sweep : ∀ now,
    (l.tick now).outbound = l.outbound ∧
      (l.tick now).calls.response call.ticket = l.calls.response call.ticket ∧
      ∀ other ∈ l.calls.inFlight, ¬ isExpired now l.settings.callTimeout other →
        other ∈ (l.tick now).calls.inFlight ∧
          (l.tick now).calls.response other.ticket = l.calls.response other.ticket

theorem not_contains_receive {l : Link κ} {id : Nat} (hc : ¬ l.calls.contains id) (m : Rpc.Message) :
    ¬ (l.receive m).calls.contains id := by
  have hstep : Calls.Step l.settings.callTimeout l.calls (.message m) (l.calls.hear m) := .message m
  rw [calls_receive]
  exact hstep.not_contains Bool.false_ne_true hc

theorem foldl_receive_filter {id : Nat} (messages : List Rpc.Message) {l : Link κ}
    (hc : ¬ l.calls.contains id) :
    messages.foldl receive l = (messages.filter (¬ answers id ·)).foldl receive l := by
  induction messages generalizing l with
  | nil => rfl
  | cons m messages ih =>
    by_cases hm : answers id m
    · obtain ⟨outcome, hanswer⟩ := answer?_of_answers hm
      rw [List.foldl_cons, receive_eq_self hanswer hc, ih hc, List.filter_cons_of_neg (by simp [hm])]
    · rw [List.foldl_cons, ih (not_contains_receive hc m), List.filter_cons_of_pos (by simp [hm]),
        List.foldl_cons]

theorem filterMap_reply?_filter (id : Nat) (messages : List Rpc.Message) :
    messages.filterMap Rpc.Message.reply? =
      (messages.filter (¬ answers id ·)).filterMap Rpc.Message.reply? := by
  induction messages with
  | nil => rfl
  | cons m messages ih =>
    by_cases hm : answers id m
    · obtain ⟨outcome, hanswer⟩ := answer?_of_answers hm
      rw [List.filterMap_cons_none (reply?_of_answer hanswer), ih,
        List.filter_cons_of_neg (by simp [hm])]
    · rw [List.filter_cons_of_pos (by simp [hm])]
      cases hreply : m.reply? with
      | none => rw [List.filterMap_cons_none hreply, List.filterMap_cons_none hreply, ih]
      | some reply => rw [List.filterMap_cons_some hreply, List.filterMap_cons_some hreply, ih]

theorem frame_reply?_eq_none {frame : Rpc.Frame} (hne : frame.messages ≠ [])
    (h : ∀ m ∈ frame.messages, m.reply? = none) : frame.reply? = none := by
  cases frame with
  | single m => simp [Rpc.Frame.reply?, h m (by simp [Rpc.Frame.messages])]
  | batch messages =>
    have hnone : messages.filterMap Rpc.Message.reply? = [] := List.filterMap_eq_nil_iff.2 h
    simp [Rpc.Frame.reply?, hnone]
  | unreadable => exact absurd rfl hne

theorem handleFrame_eq_self {l : Link κ} {id : Nat} (hc : ¬ l.calls.contains id) {text : String}
    (hne : (Rpc.Frame.read text).messages ≠ [])
    (h : ∀ m ∈ (Rpc.Frame.read text).messages, answers id m) : l.handleFrame text = l := by
  have hreply : (Rpc.Frame.read text).reply? = none := by
    refine frame_reply?_eq_none hne fun m hm => ?_
    obtain ⟨outcome, hanswer⟩ := answer?_of_answers (h m hm)
    exact reply?_of_answer hanswer
  have hnone : (Rpc.Frame.read text).messages.filter (¬ answers id ·) = [] :=
    List.filter_eq_nil_iff.2 fun m hm => by simp [h m hm]
  dsimp only [handleFrame]
  rw [hreply]
  exact (foldl_receive_filter _ hc).trans (by rw [hnone, List.foldl_nil])

theorem kept_of_not_ends {c : Calls} (hs : c.Sound) {ends : InFlight → Bool} (outcome : Outcome)
    {other : InFlight} (hmem : other ∈ c.inFlight) (h : ¬ ends other) :
    other ∈ (c.finish ends outcome).inFlight ∧
      (c.finish ends outcome).response other.ticket = c.response other.ticket := by
  refine ⟨List.mem_filter.2 ⟨hmem, by simpa using h⟩, ?_⟩
  rw [Calls.response_finish_of_mem hs hmem, if_neg h]

theorem spent_of_ended {l : Link κ} {call : InFlight} (hs : l.calls.Sound)
    (he : Ended call.ticket l.calls) (hc : ¬ l.calls.contains call.id) : l.Spent call where
  absent := hc
  message := fun m hm => by
    obtain ⟨outcome, hanswer⟩ := answer?_of_answers hm
    exact ⟨receive_eq_self hanswer hc, reply?_of_answer hanswer⟩
  among := fun messages => ⟨foldl_receive_filter messages hc, filterMap_reply?_filter _ messages⟩
  frame := fun text hne h => handleFrame_eq_self hc hne h
  sweep := fun now => ⟨rfl, (he.finish _ _).2, fun other hmem h => kept_of_not_ends hs _ hmem h⟩

/-! ### What becomes of a call -/

/-- What the holder of a receipt finds, by the events since it was handed out. -/
structure Correlated (call : InFlight) (since : List Event) (l : Link κ) : Prop where
  /-- Without a verdict the call is in flight and its holder waits. -/
  undecided : Calls.verdict? l.settings.callTimeout call since = none →
    call ∈ l.calls.inFlight ∧
      (.forgotten call.ticket ∉ since → (l.calls.take call.ticket).1 = none)
  /-- The first verdict is the outcome, and the first look takes it. -/
  decided : ∀ before e after outcome, since = before ++ e :: after →
    Calls.verdict? l.settings.callTimeout call before = none →
    e.verdict? l.settings.callTimeout call = some outcome →
    .forgotten call.ticket ∉ since →
      (.looked call.ticket ∉ after → l.calls.response call.ticket = .ready outcome) ∧
        (.looked call.ticket ∈ after → l.calls.response call.ticket = .closed)
  /-- After it nothing that comes for the call has an effect, until its id is handed out again. -/
  spent : ∀ before e after, since = before ++ e :: after →
    Calls.verdict? l.settings.callTimeout call before = none →
    e.verdict? l.settings.callTimeout call ≠ none →
    (∀ later ∈ after, ¬ later.handsOut call.id) → l.Spent call
  /-- An answer to the call at any time leaves the other calls and all else as they are. -/
  apart : ∀ m outcome, m.answer? = some (call.id, outcome) →
    l.receive m = { l with calls := l.calls.complete call.id outcome } ∧
      ∀ other ∈ l.calls.inFlight, other.id ≠ call.id →
        other ∈ (l.receive m).calls.inFlight ∧
          (l.receive m).calls.response other.ticket = l.calls.response other.ticket

theorem apart_of_answer {l : Link κ} (hs : l.calls.Sound) {m : Rpc.Message} {id : Nat}
    {outcome : Outcome} (h : m.answer? = some (id, outcome)) {other : InFlight}
    (hmem : other ∈ l.calls.inFlight) (hid : other.id ≠ id) :
    other ∈ (l.receive m).calls.inFlight ∧
      (l.receive m).calls.response other.ticket = l.calls.response other.ticket := by
  rw [receive_of_answer h]
  exact kept_of_not_ends hs outcome hmem (by simpa using hid)

theorem correlated_of_history {c : Calls} {l : Link κ} {since : List Event} {call : InFlight}
    (h : Calls.History l.settings.callTimeout c since l.calls) (hs : c.Sound)
    (hmem : call ∈ c.inFlight) (hwaiting : c.response call.ticket = .waiting) :
    l.Correlated call since := by
  have hsound := h.sound hs
  have hp := h.pursued hs hmem
  have hresponse := hwaiting ▸ hp.response
  refine ⟨fun hv => ⟨hp.stays hv, fun hf => ?_⟩, ?_, ?_, ?_⟩
  · rw [Calls.take_fst, hresponse, Calls.foldl_undecided hv hf]
    rfl
  · rintro before e after outcome rfl hbefore he hf
    rw [hresponse, Calls.foldl_decided hbefore he hf]
    rw [List.mem_append, List.mem_cons, not_or, not_or] at hf
    exact ⟨fun hl => Calls.foldl_ready outcome hl hf.2.2, fun hl => Calls.foldl_looked outcome hl⟩
  · rintro before e after rfl hbefore he hafter
    have hv : Calls.verdict? l.settings.callTimeout call (before ++ e :: after) ≠ none := by
      intro hnone
      rw [Calls.verdict?, List.findSome?_eq_none_iff] at hnone
      exact he (hnone e (by simp))
    exact spent_of_ended hsound (hp.ends hv) (h.not_contains_of_verdict hs hmem hbefore he hafter)
  · exact fun m outcome hm => ⟨receive_of_answer hm l, fun other hother hid =>
      apart_of_answer hsound hm hother hid⟩

namespace Session

/-- In every run of a session, each receipt that a call or a batch got is answered exactly once. -/
theorem run_correlated (settings : Settings) (ceiling start : Nat) (actions : List (Action κ))
    {before since : List Event} {now : Nat} {receipts : List Receipt} {r : Receipt}
    (hlog : (Session.start settings ceiling start).log actions = before ++ .sent now receipts :: since)
    (hr : r ∈ receipts) :
    ((Session.start settings ceiling start).run actions).link.Correlated (r.call now) since := by
  have hcallHistory := callHistory_run (Session.start settings ceiling start) actions
  obtain ⟨c, d, hbefore, hsent, hsince⟩ := (hlog ▸ hcallHistory.history).at_middle
  have hsound : c.Sound := Calls.History.sound hbefore (Calls.sound_withCeiling ceiling)
  cases hsent with
  | sent hentered =>
    refine correlated_of_history (hcallHistory.settings ▸ hsince) (hentered.sound hsound) ?_ ?_
    · rw [hentered.inFlight]
      exact List.mem_append_right _ (List.mem_map_of_mem hr)
    · exact hentered.response hr

theorem run_correlated_dropped :
    let s : Session Nat := Session.start {} 5 0
    let actions : List (Action Nat) := [.link .attach, .link (.call "m" none), .drop]
    s.log actions = [] ++ .sent 0 [⟨1, 0⟩] :: [.dropped] ∧
      (s.run actions).link.Correlated (Receipt.call 0 ⟨1, 0⟩) [.dropped] := by
  have hlog : (Session.start {} 5 0 : Session Nat).log
      [.link .attach, .link (.call "m" none), .drop] = [] ++ .sent 0 [⟨1, 0⟩] :: [.dropped] := rfl
  exact ⟨hlog, run_correlated {} 5 0 _ hlog List.mem_cons_self⟩

end Session
end ServiceLink.Link
