import ServiceLink.Proofs.Client.Entries

/-! A subscription is live because its own attempt asked for it and the first answer to that request was an
acknowledgement with a version. -/

namespace ServiceLink

namespace Scene

variable {timeout : Nat} {s s' : Scene} {mv : Move} {moves : List Move}

/-! ### Calls -/

theorem calls_hearMessage (h : Hub) (m : Rpc.Message) :
    (h.hearMessage m).link.calls = h.link.calls.hear m := Link.calls_receive h.link m

theorem Step.history (h : Step timeout s mv s') :
    Calls.History timeout s.hub.link.calls mv.callEvents s'.hub.link.calls := by
  cases h with
  | calls hstep => exact .one hstep
  | message m => exact calls_hearMessage s.hub m ▸ .one (.message m)
  | aside _ _ _ hlink => exact hlink.calls ▸ .start
  | @unasked _ now a cause link _ _ hcall =>
    have hsettles := Link.call_settles s.hub.link now (a.path ++ Client.subscribeMethod) none
    rw [hcall] at hsettles
    exact .one (hsettles.step timeout)
  | @asked _ now a receipt link _ _ hcall =>
    have hsettles := Link.call_settles s.hub.link now (a.path ++ Client.subscribeMethod) none
    rw [hcall] at hsettles
    exact .one (hsettles.step timeout)
  | answered => exact .one (.looked _)
  | concluded _ _ hconcluded =>
    cases hconcluded with
    | rejected => exact .start
    | unversioned => exact .start
    | closed => exact .start
    | established => exact (Hub.rewired_establish _ _ _ _).calls ▸ .start
  | unsubscribed _ hlink =>
    have hcalls := hlink.calls.trans (Entry.rewired_unbind _ s.hub.link).calls
    exact hcalls ▸ .start
  | disconnected =>
    have hcalls := (Hub.rewired_closeAll { s.hub with registry := s.hub.registry.reset }
      s.hub.registry.entries.values).calls
    exact hcalls ▸ .start
  | _ => exact .start

theorem history_of_trace (h : Trace (Step timeout) s moves s') :
    Calls.History timeout s.hub.link.calls (moves.flatMap Move.callEvents) s'.hub.link.calls := by
  induction h with
  | start => exact .start
  | step _ hstep ih => simpa using ih.append hstep.history

def WasEntered (moves : List Move) (generation : Nat) (service path : String) : Prop :=
  ∃ requested, .entered generation service path requested ∈ moves

/-- The request of a subscription was sent after its entry was made. -/
def WasAsked (moves : List Move) (generation : Nat) (service path : String) (now : Nat)
    (receipt : Receipt) (since : List Move) : Prop :=
  ∃ before, moves = before ++ .asked generation now receipt :: since ∧
    WasEntered before generation service path

/-- An attempt took the answer to its own request: a result is that of the first event with a verdict
on the request, and a message brought it. -/
def WasAnswered (timeout : Nat) (moves : List Move) (generation : Nat) (service path : String)
    (outcome : Outcome) : Prop :=
  ∃ before now receipt since after,
    moves = before ++ .answered generation receipt.ticket outcome :: after ∧
      WasAsked before generation service path now receipt since ∧
      ∀ ack, outcome = .ok ack →
        Calls.verdict? timeout (receipt.call now) (since.flatMap Move.callEvents) = some (.ok ack) ∧
          ∃ m, .message m ∈ since ∧ m.answer? = some (receipt.id, .ok ack)

/-- A subscription was acknowledged with a schema that has a version: its attempt entered it, asked,
took the acknowledgement and ended well, in this order. -/
def WasAcknowledged (timeout : Nat) (moves : List Move) (generation : Nat) (service path : String)
    (schema : Schema) : Prop :=
  ∃ before info after ack version,
    moves = before ++ .ended generation (.ok info) :: after ∧
      WasAnswered timeout before generation service path (.ok ack) ∧
      Schema.read ack = schema ∧ schema.version = some version

def Reached (timeout : Nat) (moves : List Move) (generation : Nat) (a : Attempt) : Prop :=
  match a.stage with
  | .entered | .unasked _ => WasEntered moves generation a.service a.path
  | .asked ticket => ∃ now receipt since, receipt.ticket = ticket ∧
      WasAsked moves generation a.service a.path now receipt since
  | .answered outcome => WasAnswered timeout moves generation a.service a.path outcome

theorem WasEntered.mono {generation : Nat} {service path : String}
    (h : WasEntered moves generation service path) (later : List Move) :
    WasEntered (moves ++ later) generation service path := by
  obtain ⟨requested, hmem⟩ := h
  exact ⟨requested, List.mem_append_left _ hmem⟩

theorem WasAsked.mono {generation now : Nat} {service path : String} {receipt : Receipt}
    {since : List Move} (h : WasAsked moves generation service path now receipt since)
    (later : List Move) :
    WasAsked (moves ++ later) generation service path now receipt (since ++ later) := by
  obtain ⟨before, rfl, hentered⟩ := h
  exact ⟨before, by simp, hentered⟩

theorem WasAnswered.mono {generation : Nat} {service path : String} {outcome : Outcome}
    (h : WasAnswered timeout moves generation service path outcome) (later : List Move) :
    WasAnswered timeout (moves ++ later) generation service path outcome := by
  obtain ⟨before, now, receipt, since, after, rfl, hasked, hok⟩ := h
  exact ⟨before, now, receipt, since, after ++ later, by simp, hasked, hok⟩

theorem WasAcknowledged.mono {generation : Nat} {service path : String} {schema : Schema}
    (h : WasAcknowledged timeout moves generation service path schema) (later : List Move) :
    WasAcknowledged timeout (moves ++ later) generation service path schema := by
  obtain ⟨before, info, after, ack, version, rfl, hanswered, hschema, hversion⟩ := h
  exact ⟨before, info, after ++ later, ack, version, by simp, hanswered, hschema, hversion⟩

theorem Reached.mono {generation : Nat} {a : Attempt} (h : Reached timeout moves generation a)
    (later : List Move) : Reached timeout (moves ++ later) generation a := by
  unfold Reached at h ⊢
  split
  · rename_i hstage
    rw [hstage] at h
    exact WasEntered.mono h later
  · rename_i hstage
    rw [hstage] at h
    exact WasEntered.mono h later
  · rename_i hstage
    rw [hstage] at h
    obtain ⟨now, receipt, since, ht, hasked⟩ := h
    exact ⟨now, receipt, since ++ later, ht, hasked.mono later⟩
  · rename_i hstage
    rw [hstage] at h
    exact WasAnswered.mono h later

end Scene
end ServiceLink
