import ServiceLink.Proofs.Calls.Completing
import ServiceLink.Proofs.Link.Runs
import ServiceLink.Proofs.Link.Unpacking
import ServiceLink.Proofs.Rpc.Conveying

/-! Two links wired to each other. What one of them sends, the other takes in entry by entry; it refuses the
calls, and the refusals end just the calls that were sent. -/

namespace ServiceLink

namespace Calls

variable {timeout : Nat} {c d : Calls}

theorem Step.ceiling {e : Event} (h : Step timeout c e d) : d.ceiling = c.ceiling := by
  cases h with
  | sent h => exact h.ceiling
  | unsent h => exact h.ceiling
  | message m =>
    unfold hear
    split <;> rfl
  | sweep now => rfl
  | dropped => rfl
  | looked ticket => rfl
  | forgotten ticket => rfl

theorem History.ceiling {es : List Event} (h : History timeout c es d) :
    d.ceiling = c.ceiling := by
  induction h with
  | start => rfl
  | step _ hstep ih => exact hstep.ceiling.trans ih

end Calls

def BatchEntry.IsReadable (e : BatchEntry) : Prop :=
  ∀ p, e.params.filter Json.isStructured = some p → Rpc.Readable p

namespace Link

variable {κ κ' : Type}

/-! ### The entries at the other side -/

/-- The messages that entries are at the other side. -/
def messages (entries : List BatchEntry) (receipts : List (Option Receipt)) : List Rpc.Message :=
  (List.zipWith BatchEntry.request entries receipts).map Rpc.Request.message

/-- What the handlers of the other side are told: the notifications in order, each to its handlers. -/
def told (b : Link κ) (entries : List BatchEntry) : List (κ × Rpc.Notification) :=
  (entries.filter (·.isNotification)).flatMap fun e =>
    (b.handlersFor e.method).map (·, { method := e.method, params := e.params.filter Json.isStructured })

def refusals (receipts : List (Option Receipt)) : List Rpc.ErrorReply :=
  (receipts.filterMap id).map fun r => Rpc.refusal r.id

/-- Each receipt stands at the place of its entry, and the calls have one. -/
def Places : List (Option Receipt) → List BatchEntry → Prop :=
  List.Forall₂ fun r e => r.isSome = !e.isNotification

section

variable {entries : List BatchEntry} {receipts : List (Option Receipt)}

theorem places_iff : Places receipts entries ↔ receipts.map (·.isSome) = entries.map (! ·.isNotification) := by
  rw [Places, ← List.forall₂_eq_eq_eq, List.forall₂_map_left_iff, List.forall₂_map_right_iff]

theorem foldl_receive_messages (h : Places receipts entries) (b : Link κ) :
    (messages entries receipts).foldl receive b = { b with deliveries := b.deliveries ++ b.told entries } := by
  induction h generalizing b with
  | nil => simp [messages, told]
  | @cons r e receipts entries hr _ ih =>
    cases r with
    | none =>
      have he : e.isNotification := by simpa using hr
      have hmore : b.told (e :: entries) = (b.handlersFor e.method).map
          (·, { method := e.method, params := e.params.filter Json.isStructured }) ++ b.told entries := by
        simp [told, he]
      rw [hmore, ← List.append_assoc]
      exact ih _
    | some r =>
      have he : e.isNotification = false := by simpa using hr.symm
      have hsame : b.told (e :: entries) = b.told entries := by simp [told, he]
      rw [hsame]
      exact ih b

theorem filterMap_reply?_messages (h : Places receipts entries) :
    (messages entries receipts).filterMap Rpc.Message.reply? = refusals receipts := by
  induction h with
  | nil => rfl
  | @cons r e receipts entries hr _ ih =>
    cases r with
    | none => exact ih
    | some r => exact congrArg _ ih

theorem refusals_ne_nil_iff (h : Places receipts entries) :
    refusals receipts ≠ [] ↔ ∃ e ∈ entries, ¬ e.isNotification := by
  induction h with
  | nil => simp [refusals]
  | @cons r e receipts entries hr _ ih =>
    cases r with
    | none =>
      have he : e.isNotification := by simpa using hr
      have hsame : refusals (none :: receipts) = refusals receipts := rfl
      simpa [he, hsame] using ih
    | some r =>
      have he : e.isNotification = false := by simpa using hr.symm
      simp [refusals, he]

theorem sendable_request {e : BatchEntry} {r : Option Receipt} (he : e.IsReadable)
    (hid : ∀ receipt, r = some receipt → receipt.id < Word.unsignedEnd) : (e.request r).Sendable where
  version := rfl
  params := he
  id n hn := by
    obtain ⟨receipt, hr, rfl⟩ := Option.map_eq_some_iff.1 hn
    exact hid receipt hr

theorem sendable_of_mem (h : Places receipts entries) (hreadable : ∀ e ∈ entries, e.IsReadable)
    (hids : ∀ r, some r ∈ receipts → r.id < Word.unsignedEnd) :
    ∀ r ∈ List.zipWith BatchEntry.request entries receipts, r.Sendable := by
  induction h with
  | nil => nofun
  | @cons r e receipts entries hr _ ih =>
    rw [List.forall_mem_cons] at hreadable
    refine List.forall_mem_cons.2 ⟨sendable_request hreadable.1 fun receipt heq => ?_, ?_⟩
    · exact hids receipt (heq ▸ List.mem_cons_self)
    · exact ih hreadable.2 fun receipt hmem => hids receipt (List.mem_cons_of_mem _ hmem)

end

/-! ### The other side -/

/-- Calls ended with an error that names no method, and nothing else happened. -/
structure Refused (a a' a'' : Link κ) (receipts : List Receipt) : Prop where
  /-- In flight is what was in flight before they were sent. -/
  inFlight : a''.calls.inFlight = a.calls.inFlight
  ready : ∀ r ∈ receipts, a''.calls.response r.ticket = .ready (.error (.remote .methodNotFound))
  kept : ∀ t, (∀ r ∈ receipts, r.ticket ≠ t) → a''.calls.response t = a'.calls.response t
  others : a'' = { a' with
    calls := { a'.calls with inFlight := a''.calls.inFlight, responses := a''.calls.responses } }

/-- One side sent entries as one frame, with these receipts. The other side takes in the frame, and the one
takes in the reply to it, if there is one. -/
structure Understood (a a' : Link κ) (b : Link κ') (entries : List BatchEntry)
    (receipts : List (Option Receipt)) (reply? : Option String) : Prop where
  places : receipts.map (·.isSome) = entries.map (! ·.isNotification)
  isSome : reply?.isSome ↔ ∃ e ∈ entries, ¬ e.isNotification
  exchange : ∃ text, a'.outbound = a.outbound ++ [.text text] ∧
    b.handleFrame text =
      { b with
        deliveries := b.deliveries ++ b.told entries
        outbound := b.outbound ++ reply?.toList.map .text } ∧
    ∀ reply, reply? = some reply → Refused a a' (a'.handleFrame reply) (receipts.filterMap id)

theorem foldl_receive_refusals (l : Link κ) (receipts : List Receipt) :
    (receipts.map fun r => Rpc.Message.error (some r.id) .methodNotFound).foldl receive l =
      { l with calls := l.calls.completeAll (.error (.remote .methodNotFound)) (receipts.map (·.id)) } := by
  induction receipts generalizing l with
  | nil => rfl
  | cons r receipts ih => exact ih _

theorem refused_of_sent {a a' : Link κ} {now : Nat} {entries : List BatchEntry}
    {receipts : List (Option Receipt)} {frames : List OutboundFrame}
    (h : a.Sent now entries receipts frames a') {reply : String}
    (hmessages : (Rpc.Frame.read reply).messages =
      (receipts.filterMap id).map fun r => Rpc.Message.error (some r.id) .methodNotFound)
    (hreply : (Rpc.Frame.read reply).reply? = none) :
    Refused a a' (a'.handleFrame reply) (receipts.filterMap id) := by
  rw [handleFrame_eq, hmessages, hreply, foldl_receive_refusals]
  simp only [Option.toList_none, queue_nil]
  exact {
    inFlight := h.calls.inFlight_completeAll _
    ready := fun r hr => h.calls.response_of_mem _ hr
    kept := fun t ht => h.calls.response_of_ne _ ht
    others := by rw [← Calls.completeAll_eq] }

theorem understood_of_sent {a a' : Link κ} {b : Link κ'} (hb : b.writer = .live) {now : Nat}
    {entries : List BatchEntry} {receipts : List (Option Receipt)} {text : String} {reply? : Option String}
    (h : a.Sent now entries receipts [.text text] a')
    (hread : (Rpc.Frame.read text).messages = messages entries receipts)
    (howed : (Rpc.Frame.read text).reply? = reply?) (hsome : reply?.isSome ↔ refusals receipts ≠ [])
    (hanswer : ∀ reply, reply? = some reply →
      (Rpc.Frame.read reply).messages =
          ((receipts.filterMap id).map fun r => Rpc.Message.error (some r.id) .methodNotFound) ∧
        (Rpc.Frame.read reply).reply? = none) :
    Understood a a' b entries receipts reply? where
  places := h.places
  isSome := hsome.trans (refusals_ne_nil_iff (places_iff.2 h.places))
  exchange := by
    refine ⟨text, h.outbound, ?_, fun reply hreply => ?_⟩
    · rw [handleFrame_eq, hread, howed, foldl_receive_messages (places_iff.2 h.places)]
      simp [queue, queued, hb]
    · exact refused_of_sent h (hanswer reply hreply).1 (hanswer reply hreply).2

/-! ### The frames -/

def singleReply? (receipts : List (Option Receipt)) : Option String :=
  (refusals receipts).head?.map fun r => r.toJson.render

def batchReply? (receipts : List (Option Receipt)) : Option String :=
  if refusals receipts = [] then none
  else some (Json.array ((refusals receipts).map Rpc.ErrorReply.toJson)).render

section

variable {a a' : Link κ} {b : Link κ'} {now : Nat} {entries : List BatchEntry}
  {receipts : List (Option Receipt)}

theorem id_lt_of_entered {c d : Calls} {rs : List Receipt} (h : Calls.Entered now c rs d) (hs : c.Sound)
    (hceiling : c.ceiling < Word.unsignedEnd) {r : Receipt} (hr : r ∈ rs) : r.id < Word.unsignedEnd := by
  have hmem : r.call now ∈ d.inFlight := by
    rw [h.inFlight]
    exact List.mem_append_right _ (List.mem_map_of_mem hr)
  have hle := ((h.sound hs).inRange _ hmem).2
  rw [h.ceiling] at hle
  exact Nat.lt_of_le_of_lt hle hceiling

theorem understood_single (hb : b.writer = .live) {e : BatchEntry} {r : Option Receipt} (he : e.IsReadable)
    (hs : a.calls.Sound) (hceiling : a.calls.ceiling < Word.unsignedEnd)
    (h : a.Sent now [e] [r] (singleFrame e [r]) a') : Understood a a' b [e] [r] (singleReply? [r]) := by
  have hids (receipt : Receipt) (hr : r = some receipt) : receipt.id < Word.unsignedEnd :=
    id_lt_of_entered h.calls hs hceiling (by simp [hr])
  have hread := (sendable_request he hids).conveys.read
  refine understood_of_sent hb h ?_ ?_ ?_ fun reply hreply => ?_
  · rw [hread]
    rfl
  · rw [hread]
    cases r <;> rfl
  · cases r <;> simp [singleReply?, refusals]
  · cases r with
    | none => cases hreply
    | some receipt =>
      cases hreply
      rw [(Rpc.conveys_refusal (hids receipt rfl)).read]
      exact ⟨rfl, rfl⟩

theorem understood_batch (hb : b.writer = .live) (hne : entries ≠ []) (hreadable : ∀ e ∈ entries, e.IsReadable)
    (hs : a.calls.Sound) (hceiling : a.calls.ceiling < Word.unsignedEnd)
    (h : a.Sent now entries receipts (batchFrame entries receipts) a') :
    Understood a a' b entries receipts (batchReply? receipts) := by
  have hplaces := places_iff.2 h.places
  have hids (r : Receipt) (hr : r ∈ receipts.filterMap id) : r.id < Word.unsignedEnd :=
    id_lt_of_entered h.calls hs hceiling hr
  have hsendable := sendable_of_mem hplaces hreadable fun r hr => hids r (by simpa using hr)
  have hread := Rpc.read_array fun r hr => (hsendable r hr).conveys
  have hframe : batchFrame entries receipts = [.text _] := if_neg (by simpa using hne)
  rw [hframe] at h
  refine understood_of_sent hb h ?_ ?_ ?_ fun reply hreply => ?_
  · rw [hread]
    rfl
  · rw [hread]
    simp only [Rpc.Frame.reply?, batchReply?, ← filterMap_reply?_messages hplaces, List.isEmpty_iff]
    rfl
  · by_cases hnil : refusals receipts = [] <;> simp [batchReply?, hnil]
  · obtain ⟨-, hreply⟩ := Option.ite_none_left_eq_some.1 hreply
    cases hreply
    have hanswer := Rpc.read_array fun r hr => Rpc.conveys_refusal (hids r hr)
    have hnone : (Rpc.Frame.batch ((receipts.filterMap id).map fun r =>
        Rpc.Message.error (some r.id) .methodNotFound)).reply? = none := by
      simp [Rpc.Frame.reply?, Rpc.Message.reply?, List.filterMap_map]
    have hreplies : (refusals receipts).map Rpc.ErrorReply.toJson =
        (receipts.filterMap id).map fun r => (Rpc.refusal r.id).toJson := List.map_map
    rw [hreplies, hanswer]
    exact ⟨rfl, hnone⟩

end

/-- Whatever two links went through, what the one sends the other understands. The parameters that are sent
must be read back from their text. -/
theorem peers_understand (settings : Settings) (ceiling start now : Nat) (actions : List (Session.Action κ))
    (hceiling : ceiling < Word.unsignedEnd) (b : Link κ') (hb : b.writer = .live) :
    let a := ((Session.start settings ceiling start).run actions).link
    (∀ method params receipt, BatchEntry.IsReadable { method, params } →
      (a.call now method params).1 = .ok receipt →
        Understood a (a.call now method params).2 b [{ method, params }] [some receipt]
          (singleReply? [some receipt])) ∧
    (∀ method params, BatchEntry.IsReadable { method, params } → (a.notify method params).1 = .ok () →
      Understood a (a.notify method params).2 b [{ method, params, isNotification := true }] [none] none) ∧
    ∀ entries receipts, entries ≠ [] → (∀ e ∈ entries, e.IsReadable) → (a.batch now entries).1 = .ok receipts →
      Understood a (a.batch now entries).2 b entries receipts (batchReply? receipts) := by
  intro a
  have hs : a.calls.Sound := Session.sound_run settings ceiling start actions
  have hceiling' : a.calls.ceiling < Word.unsignedEnd := by
    have hsame : a.calls.ceiling = max ceiling 1 := (Session.callHistory_run _ actions).history.ceiling
    rw [hsame]
    dsimp only [Word.unsignedEnd] at hceiling ⊢
    omega
  refine ⟨fun method params receipt he hok => ?_, fun method params he hok => ?_,
    fun entries receipts hne hreadable hok => ?_⟩
  · have hsent := call_settles a now method params
    rw [hok] at hsent
    exact understood_single hb he hs hceiling' hsent
  · have hsent := notify_settles a now method params
    rw [hok] at hsent
    exact understood_single hb he hs hceiling' hsent
  · have hsent := batch_settles a now entries
    rw [hok] at hsent
    exact understood_batch hb hne hreadable hs hceiling' hsent

theorem peers_understand_fresh :
    let a := ((Session.start {} 5 0).run (κ := Nat) [.link .attach]).link
    let b : Link Nat := ((new {} 5).attach.listen "m" 7).2
    let params : Json := .object [("value", .integer 1)]
    let call : BatchEntry := { method := "f", params := some (.bool true) }
    let notification : BatchEntry := { method := "m", params := some params, isNotification := true }
    5 < Word.unsignedEnd ∧ b.writer = .live ∧ (∀ e ∈ [notification, call], e.IsReadable) ∧
      Understood a (a.call 0 "f" (some (.bool true))).2 b [call] [some ⟨1, 0⟩]
        (some (Rpc.refusal 1).toJson.render) ∧
      Understood a (a.notify "m" (some params)).2 b [notification] [none] none ∧
      Understood a (a.batch 0 [notification, call]).2 b [notification, call] [none, some ⟨1, 0⟩]
        (some (Json.array [(Rpc.refusal 1).toJson]).render) ∧
      b.told [notification, call] = [(7, { method := "m", params := some params })] := by
  intro a b params call notification
  have hceiling : 5 < Word.unsignedEnd := by decide
  have hb : b.writer = .live := rfl
  have hone : Json.Reads Json.maxLevels (.integer 1) (.integer 1) := .integer (by decide)
  have hparams : Json.Reads 127 params params :=
    .object (by simpa using hone.of_depth (Nat.zero_le 126))
  have hreadable : ∀ e ∈ [notification, call], e.IsReadable := by
    refine List.forall_mem_cons.2 ⟨?_, List.forall_mem_singleton.2 nofun⟩
    rintro _ ⟨⟩
    exact ⟨hparams.parse?_eq, by decide⟩
  obtain ⟨hcall, hnotify, hbatch⟩ := peers_understand {} 5 0 0 [.link .attach] hceiling b hb
  refine ⟨hceiling, hb, hreadable, ?_, ?_, ?_, rfl⟩
  · exact hcall "f" (some (.bool true)) ⟨1, 0⟩ (hreadable call (by simp)) rfl
  · exact hnotify "m" (some params) (hreadable notification (by simp)) rfl
  · exact hbatch [notification, call] [none, some ⟨1, 0⟩] (List.cons_ne_nil _ _) hreadable rfl

end Link
end ServiceLink
