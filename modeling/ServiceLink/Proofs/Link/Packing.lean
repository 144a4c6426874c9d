import ServiceLink.Proofs.Json.Rendering
import ServiceLink.Proofs.Link.Runs

/-! A batch is sent like its entries, each as a frame of its own, one after the other: the two succeed
together, with the same receipts and the same link, but for the frames. The timer is why a link must have come
to its state by a run: it is started by a call and never by a notification. -/

namespace ServiceLink.Link

open Json (arrayText)

variable {κ : Type}

/-! ### One by one -/

/-- Send an entry as a frame of its own. -/
def sendOne (l : Link κ) (now : Nat) (e : BatchEntry) : Except LinkError (Option Receipt) × Link κ :=
  if e.isNotification then
    let (result, l) := l.notify e.method e.params
    (result.map fun _ => none, l)
  else
    let (result, l) := l.call now e.method e.params
    (result.map some, l)

/-- Send entries one by one, up to the first that cannot be sent. -/
def sendEach (l : Link κ) (now : Nat) : List BatchEntry → Except LinkError (List (Option Receipt)) × Link κ
  | [] => (.ok [], l)
  | e :: rest =>
    match l.sendOne now e with
    | (.error cause, l) => (.error cause, l)
    | (.ok receipt, l) =>
      let (receipts, l) := l.sendEach now rest
      (receipts.map (receipt :: ·), l)

/-! ### The timer -/

def IsWatched (l : Link κ) : Prop := l.sweep = .idle → l.calls.inFlight = []

theorem StatusOnly.isWatched {l l' : Link κ} (h : StatusOnly l l') (hw : l.IsWatched) : l'.IsWatched := by
  unfold IsWatched
  rw [h.calls, h.sweep]
  exact hw

theorem IsWatched.of_sublist {l l' : Link κ} (hw : l.IsWatched) (hsweep : l'.sweep = l.sweep)
    (hcalls : l'.calls.inFlight.Sublist l.calls.inFlight) : l'.IsWatched := by
  intro hidle
  rw [hw (hsweep ▸ hidle)] at hcalls
  exact List.sublist_nil.1 hcalls

theorem isWatched_ensureSweep (l : Link κ) (now : Nat) : (l.ensureSweep now).IsWatched := by
  unfold ensureSweep
  split
  · rename_i h
    exact fun hidle => h.resolve_left (absurd hidle)
  · intro hidle
    dsimp only at hidle
    split at hidle <;> cases hidle

theorem Unsent.isWatched {l l' : Link κ} (h : l.Unsent l') (hw : l.IsWatched) : l'.IsWatched :=
  hw.of_sublist (by rw [h.others]) (h.calls.inFlight ▸ List.Sublist.refl _)

theorem isWatched_call {l : Link κ} (hw : l.IsWatched) (now : Nat) (method : String) (params : Option Json) :
    (l.call now method params).2.IsWatched := by
  have hsettles := call_settles l now method params
  revert hsettles
  unfold call
  split
  · exact fun _ => hw
  · split
    · exact fun _ => hw
    · dsimp only
      split
      · exact fun hsettles => hsettles.1.isWatched hw
      · exact fun _ => isWatched_ensureSweep _ now

theorem isWatched_batch {l : Link κ} (hw : l.IsWatched) (now : Nat) (entries : List BatchEntry) :
    (l.batch now entries).2.IsWatched := by
  have hsettles := batch_settles l now entries
  revert hsettles
  unfold batch
  split
  · exact fun _ => hw
  · split
    · exact fun _ => hw
    · split
      · exact fun hsettles => hsettles.1.isWatched hw
      · dsimp only
        split
        · exact fun hsettles => hsettles.1.isWatched hw
        · exact fun _ => isWatched_ensureSweep _ now

theorem isWatched_foldl_receive {l : Link κ} (hw : l.IsWatched) (messages : List Rpc.Message) :
    (messages.foldl receive l).IsWatched := by
  induction messages generalizing l with
  | nil => exact hw
  | cons m messages ih =>
    refine ih ?_
    unfold receive
    split
    · exact hw.of_sublist rfl List.filter_sublist
    · exact hw.of_sublist rfl List.filter_sublist
    · exact hw
    · exact hw

theorem isWatched_act {l : Link κ} (hw : l.IsWatched) (now : Nat) (a : Action κ) :
    (l.act now a).2.IsWatched := by
  cases a with
  | attach => exact hw
  | deafen => exact hw
  | moveTo s => exact (statusOnly_moveTo l s).isWatched hw
  | markReady => exact (statusOnly_markReady l).isWatched hw
  | start => exact (statusOnly_start l).isWatched hw
  | stop => exact (statusOnly_stop l).isWatched hw
  | shutdown => exact (statusOnly_shutdown l).isWatched hw
  | call method params => exact isWatched_call hw now method params
  | notify method params => exact (statusOnly_notify l method params).isWatched hw
  | batch entries => exact isWatched_batch hw now entries
  | frame text => exact (statusOnly_handleFrame l text).isWatched (isWatched_foldl_receive hw _)
  | listen method handler => exact hw
  | unlisten id => exact hw

theorem isWatched_tick (l : Link κ) (now : Nat) : (l.tick now).IsWatched := by
  intro hidle
  dsimp only [tick] at hidle
  split at hidle
  · assumption
  · cases hidle

namespace Session

theorem isWatched_settle {s : Session κ} (hw : s.link.IsWatched) : s.settle.link.IsWatched := by
  refine (statusOnly_settle s).isWatched ?_
  unfold sweepIfDue
  split
  · split
    · exact isWatched_tick s.link s.now
    · exact hw
  · exact hw

theorem isWatched_act {s : Session κ} (hw : s.link.IsWatched) (a : Action κ) :
    (s.act a).2.link.IsWatched := by
  cases a with
  | link a =>
    by_cases hd : s.isDropped
    · simpa [Session.act, hd] using hw
    · simpa [Session.act, hd] using Link.isWatched_act hw s.now a
  | network e => exact (statusOnly_hear s e).isWatched hw
  | take ticket => exact hw
  | forget ticket => exact hw
  | advance ms =>
    exact Timed.runTo_keeps (P := fun s : Session κ => s.link.IsWatched) (isWatched_settle hw)
      (fun s t h _ _ _ => isWatched_settle (s := { s with now := t }) h) fun _ h _ => h
  | monitor interval visible => exact hw
  | tell visible => exact hw
  | orphan => exact hw
  | drop =>
    dsimp only [Session.act, Session.drop]
    split
    · exact fun _ => List.filter_eq_nil_iff.2 (by simp)
    · exact hw

theorem isWatched_run {s : Session κ} (hw : s.link.IsWatched) (actions : List (Action κ)) :
    (s.run actions).link.IsWatched := by
  induction actions generalizing s with
  | nil => exact hw
  | cons a actions ih => exact ih (isWatched_settle (isWatched_act hw a))

end Session

/-! ### Frames that were queued -/

/-- The link once calls were entered and texts were queued. -/
def posted (l : Link κ) (now : Nat) (calls : Calls) (texts : List String) : Link κ :=
  ensureSweep { l with calls, outbound := l.outbound ++ texts.map .text } now

theorem posted_eq (l : Link κ) (now : Nat) (calls : Calls) (texts more : List String) :
    l.posted now calls more =
      { l.posted now calls texts with outbound := l.outbound ++ more.map OutboundFrame.text } := by
  unfold posted ensureSweep
  split <;> rfl

theorem outbound_posted (l : Link κ) (now : Nat) (calls : Calls) (texts : List String) :
    (l.posted now calls texts).outbound = l.outbound ++ texts.map .text := by
  unfold posted ensureSweep
  split <;> rfl

theorem writer_posted (l : Link κ) (now : Nat) (calls : Calls) (texts : List String) :
    (l.posted now calls texts).writer = l.writer := by
  unfold posted ensureSweep
  split <;> rfl

theorem calls_posted (l : Link κ) (now : Nat) (calls : Calls) (texts : List String) :
    (l.posted now calls texts).calls = calls := by
  unfold posted ensureSweep
  split <;> rfl

theorem posted_posted (l : Link κ) (now : Nat) {calls later : Calls} (texts more : List String)
    (hlater : calls.inFlight ≠ [] → later.inFlight ≠ []) :
    (l.posted now calls texts).posted now later more = l.posted now later (texts ++ more) := by
  by_cases hidle : l.sweep = .idle
  · by_cases hempty : calls.inFlight = []
    · simp [posted, ensureSweep, hidle, hempty]
    · have hflight := hlater hempty
      simp only [posted, ensureSweep, hidle, hempty, hflight]
      by_cases hinterval : l.settings.expiryInterval = 0 <;> simp [hinterval]
  · simp [posted, ensureSweep, hidle]

theorem posted_of_isWatched {l : Link κ} (hw : l.IsWatched) (now : Nat) (texts : List String) :
    l.posted now l.calls texts = { l with outbound := l.outbound ++ texts.map .text } := by
  have hsweep : l.sweep ≠ .idle ∨ l.calls.inFlight = [] := or_iff_not_imp_left.2 fun h => hw (not_not.1 h)
  simp [posted, ensureSweep, hsweep]

theorem notify_of_live {l : Link κ} (hl : l.writer = .live) (hw : l.IsWatched) (now : Nat) (method : String)
    (params : Option Json) :
    l.notify method params =
      (.ok (), l.posted now l.calls [(Rpc.Request.notification method params).toJson.render]) := by
  rw [posted_of_isWatched hw]
  simp [notify, sendJson?, send?, hl]

theorem call_of_live {l : Link κ} (hl : l.writer = .live) (now : Nat) (method : String) (params : Option Json) :
    l.call now method params =
      match l.calls.register now with
      | none => (.error (.callIdsExhausted l.calls.ceiling), l)
      | some (r, calls) =>
        (.ok r, l.posted now calls [(Rpc.Request.call method params r.id).toJson.render]) := by
  have hpresent : l.writer ≠ .absent := by simp [hl]
  unfold call
  rw [if_neg hpresent]
  cases l.calls.register now with
  | none => rfl
  | some p => simp [sendJson?, send?, hl, posted]

theorem batch_of_live {l : Link κ} (hl : l.writer = .live) (now : Nat) {entries : List BatchEntry}
    (hne : entries ≠ []) :
    l.batch now entries =
      match enter now l.calls entries with
      | (none, calls) => (.error (.callIdsExhausted l.calls.ceiling), { l with calls })
      | (some entered, calls) =>
        (.ok (entered.map (·.2)),
          l.posted now calls [arrayText (entered.map fun e => e.1.toJson.render)]) := by
  have hpresent : l.writer ≠ .absent := by simp [hl]
  unfold batch
  rw [if_neg (by simpa using hne), if_neg hpresent]
  cases enter now l.calls entries with
  | mk result calls =>
    cases result with
    | none => rfl
    | some entered =>
      have htext : (Json.array (entered.map fun e => e.1.toJson)).render =
          arrayText (entered.map fun e => e.1.toJson.render) := by
        rw [Json.render_array, List.map_map]
        rfl
      simp [sendJson?, send?, hl, posted, htext]

/-! ### The batch and its entries -/

theorem inFlight_ne_nil_of_enter {now : Nat} {calls later : Calls} {entries : List BatchEntry}
    {entered : List (Rpc.Request × Option Receipt)} (h : enter now calls entries = (some entered, later))
    (hne : calls.inFlight ≠ []) : later.inFlight ≠ [] := by
  have hspec := enter_spec now calls entries
  rw [h] at hspec
  have hflight : later.inFlight = _ := hspec.1.inFlight
  simp [hflight, hne]

section

variable {l : Link κ} {now : Nat} {e : BatchEntry} {rest : List BatchEntry} {receipt : Option Receipt}
  {calls : Calls} {text : String}

/-- What sending entries one by one comes to, by what entering them in the table comes to. -/
def Comes (l : Link κ) (now : Nat) (entries : List BatchEntry) :
    Option (List (Rpc.Request × Option Receipt)) × Calls → Prop
  | (none, _) => ∃ cause, (l.sendEach now entries).1 = .error cause
  | (some entered, calls) =>
    l.sendEach now entries =
      (.ok (entered.map (·.2)), l.posted now calls (entered.map fun e => e.1.toJson.render))

theorem sendEach_refused (hone : l.sendOne now e = (.ok receipt, l.posted now calls [text]))
    (hrest : ∃ cause, ((l.posted now calls [text]).sendEach now rest).1 = .error cause) :
    ∃ cause, (l.sendEach now (e :: rest)).1 = .error cause := by
  obtain ⟨cause, hcause⟩ := hrest
  refine ⟨cause, ?_⟩
  simp only [sendEach, hone, hcause]
  rfl

theorem sendEach_sent {receipts : List (Option Receipt)} {later : Calls} {texts : List String}
    (hone : l.sendOne now e = (.ok receipt, l.posted now calls [text]))
    (hrest : (l.posted now calls [text]).sendEach now rest =
      (.ok receipts, (l.posted now calls [text]).posted now later texts))
    (hlater : calls.inFlight ≠ [] → later.inFlight ≠ []) :
    l.sendEach now (e :: rest) = (.ok (receipt :: receipts), l.posted now later (text :: texts)) := by
  simp only [sendEach, hone, hrest, posted_posted l now [text] texts hlater]
  rfl

end

theorem sendEach_of_live {l : Link κ} (hl : l.writer = .live) (hw : l.IsWatched) (now : Nat)
    (entries : List BatchEntry) : l.Comes now entries (enter now l.calls entries) := by
  induction entries generalizing l with
  | nil =>
    show (Except.ok [], l) = (Except.ok [], l.posted now l.calls [])
    rw [posted_of_isWatched hw]
    simp
  | cons e rest ih =>
    have hnext (calls : Calls) (text : String) := ih (l := l.posted now calls [text])
      ((writer_posted l now calls [text]).trans hl) (isWatched_ensureSweep _ now)
    simp only [calls_posted] at hnext
    by_cases he : e.isNotification
    · have hone : l.sendOne now e =
          (.ok none, l.posted now l.calls [(Rpc.Request.notification e.method e.params).toJson.render]) := by
        simp [sendOne, he, notify_of_live hl hw now, Except.map]
      have hrest := hnext l.calls (Rpc.Request.notification e.method e.params).toJson.render
      rw [enter, if_pos he]
      cases henter : enter now l.calls rest with
      | mk result later =>
        rw [henter] at hrest
        cases result with
        | none => exact sendEach_refused hone hrest
        | some entered => exact sendEach_sent hone hrest (inFlight_ne_nil_of_enter henter)
    · rw [enter, if_neg he]
      cases hregister : l.calls.register now with
      | none =>
        refine ⟨.callIdsExhausted l.calls.ceiling, ?_⟩
        simp [sendEach, sendOne, he, call_of_live hl, hregister, Except.map]
      | some p =>
        obtain ⟨r, calls⟩ := p
        have hone : l.sendOne now e =
            (.ok (some r), l.posted now calls [(Rpc.Request.call e.method e.params r.id).toJson.render]) := by
          simp [sendOne, he, call_of_live hl, hregister, Except.map]
        have hrest := hnext calls (Rpc.Request.call e.method e.params r.id).toJson.render
        cases henter : enter now calls rest with
        | mk result later =>
          rw [henter] at hrest
          cases result with
          | none =>
            simp only [henter]
            exact sendEach_refused hone hrest
          | some entered =>
            simp only [henter]
            exact sendEach_sent hone hrest (inFlight_ne_nil_of_enter henter)

/-- A batch and its entries one by one, at the same instant: the one succeeds when the others all do, and then
the receipts and the link are the same, but that the texts of the single frames form one array. -/
theorem batch_eq_sendEach (settings : Settings) (ceiling start now : Nat) (actions : List (Session.Action κ))
    (entries : List BatchEntry) :
    let l := ((Session.start settings ceiling start).run actions).link
    l.writer = .live → entries ≠ [] →
      (∀ receipts, (l.batch now entries).1 = .ok receipts ↔ (l.sendEach now entries).1 = .ok receipts) ∧
      ∀ receipts, (l.batch now entries).1 = .ok receipts → ∃ texts,
        texts.length = entries.length ∧
        (l.sendEach now entries).2.outbound = l.outbound ++ texts.map .text ∧
        (l.batch now entries).2 =
          { (l.sendEach now entries).2 with outbound := l.outbound ++ [.text (arrayText texts)] } := by
  intro l hl hne
  have hw : l.IsWatched := Session.isWatched_run (fun _ => rfl) actions
  have heach := sendEach_of_live hl hw now entries
  have hbatch := batch_of_live hl now hne
  have hspec := enter_spec now l.calls entries
  cases henter : enter now l.calls entries with
  | mk result calls =>
    rw [henter] at heach hbatch hspec
    cases result with
    | none =>
      obtain ⟨cause, hcause⟩ := heach
      rw [hbatch, hcause]
      exact ⟨fun _ => ⟨nofun, nofun⟩, nofun⟩
    | some entered =>
      have hsent : l.sendEach now entries = _ := heach
      have hlength : entered.length = entries.length := by simpa using congrArg List.length hspec.2.2
      rw [hbatch, hsent]
      refine ⟨fun _ => Iff.rfl, fun _ _ => ⟨entered.map fun e => e.1.toJson.render, ?_, ?_, ?_⟩⟩
      · rw [List.length_map, hlength]
      · exact outbound_posted l now calls _
      · exact posted_eq l now calls _ [_]

theorem batch_eq_sendEach_last :
    let l := ((Session.start {} 2 0).run (κ := Nat) [.link .attach, .link (.call "m" none)]).link
    let entries : List BatchEntry :=
      [{ method := "a", params := some (.integer 1) },
        { method := "b", params := none, isNotification := true }]
    l.writer = .live ∧ entries ≠ [] ∧ (l.sendEach 5 entries).1 = .ok [some ⟨2, 1⟩, none] ∧
      ∃ texts, texts.length = 2 ∧ (l.sendEach 5 entries).2.outbound = l.outbound ++ texts.map .text ∧
        (l.batch 5 entries).2 =
          { (l.sendEach 5 entries).2 with outbound := l.outbound ++ [.text (arrayText texts)] } := by
  intro l entries
  have hl : l.writer = .live := rfl
  have hne : entries ≠ [] := List.cons_ne_nil _ _
  have hbatch : (l.batch 5 entries).1 = .ok [some ⟨2, 1⟩, none] := rfl
  obtain ⟨hiff, htexts⟩ := batch_eq_sendEach {} 2 0 5 [.link .attach, .link (.call "m" none)] entries hl hne
  exact ⟨hl, hne, (hiff _).1 hbatch, htexts _ hbatch⟩

end ServiceLink.Link
