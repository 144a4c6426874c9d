import Mathlib.Data.List.Induction
import ServiceLink.Link.Dialing
import ServiceLink.Proofs.Link.Sending
import ServiceLink.Proofs.Link.Unpacking
import ServiceLink.Proofs.Trace

/-! The events of a link tell the history of its status. Each change is told by one event and wakes those who
watch the status, except the end of a start that got no token or no address: it goes back without a word. -/

namespace ServiceLink.Link

variable {κ : Type} {l l' l'' : Link κ}

/-! ### Changes of status -/

/-- A change of status as others hear of it. -/
inductive Change
  | told (s : Status)
  /-- From a status back to not connected. -/
  | silent (s : Status)
deriving DecidableEq, Repr

def Change.told? : Change → Option Status
  | .told s => some s
  | .silent _ => none

/-- The changes lead from one status to another, each of them to a status that is new. -/
def Leads : Status → List Change → Status → Prop
  | s, [], t => s = t
  | s, .told u :: cs, t => s ≠ u ∧ Leads u cs t
  | s, .silent u :: cs, t => s = u ∧ s ≠ .notConnected ∧ Leads .notConnected cs t

theorem Leads.append {s t u : Status} {cs ds : List Change} (h : Leads s cs t) (h' : Leads t ds u) :
    Leads s (cs ++ ds) u := by
  induction cs generalizing s with
  | nil =>
    cases h
    exact h'
  | cons c cs ih =>
    cases c with
    | told v => exact ⟨h.1, ih h.2⟩
    | silent u => exact ⟨h.1, h.2.1, ih h.2.2⟩

/-- The status went through these changes. Those that are told are the new events, and they alone wake the ones
who watch. -/
structure Changed (l : Link κ) (cs : List Change) (l' : Link κ) : Prop where
  leads : Leads l.status cs l'.status
  events : l'.events = l.events ++ cs.filterMap Change.told?
  isChanged : l'.isChanged ↔ l.isChanged ∨ ∃ s, .told s ∈ cs

theorem Changed.of_same (hstatus : l'.status = l.status) (hevents : l'.events = l.events)
    (hchanged : l'.isChanged = l.isChanged) : l.Changed [] l' :=
  ⟨hstatus.symm, by simp [hevents], by simp [hchanged]⟩

theorem Changed.refl (l : Link κ) : l.Changed [] l := .of_same rfl rfl rfl

theorem Changed.trans {cs ds : List Change} (h : l.Changed cs l') (h' : l'.Changed ds l'') :
    l.Changed (cs ++ ds) l'' where
  leads := h.leads.append h'.leads
  events := by rw [h'.events, h.events, List.filterMap_append, List.append_assoc]
  isChanged := by simp only [h'.isChanged, h.isChanged, List.mem_append, exists_or, or_assoc]

theorem Changed.of_eq {cs : List Change} (h : l.Changed cs l') (hstatus : l''.status = l'.status)
    (hevents : l''.events = l'.events) (hchanged : l''.isChanged = l'.isChanged) : l.Changed cs l'' :=
  ⟨hstatus ▸ h.leads, hevents ▸ h.events, hchanged ▸ h.isChanged⟩

/-! ### What an action changes -/

def moves (l : Link κ) (s : Status) : List Change := if l.status = s then [] else [.told s]

/-- The change at the end of a start that failed. -/
def failing (l : Link κ) : OpeningFailure → List Change
  | .quiet _ => if l.status = .notConnected then [] else [.silent l.status]
  | .loud _ => l.moves .notConnected

def startChanges (l : Link κ) : List Change :=
  if l.status = .notConnected then
    .told .connecting :: (l.settings.openingFailure?.map (l.moveTo .connecting).failing).getD []
  else []

def stopChanges (l : Link κ) : List Change :=
  if l.status.isActive then
    .told .disconnecting :: if l.writer = .live then [] else [.told .notConnected]
  else []

def changes (l : Link κ) : Action κ → List Change
  | .moveTo s => l.moves s
  | .markReady => if l.canMarkReady then [.told .ready] else []
  | .start => l.startChanges
  | .stop => l.stopChanges
  | .shutdown => l.moves .notConnected
  | _ => []

theorem changed_moveTo (l : Link κ) (s : Status) : l.Changed (l.moves s) (l.moveTo s) := by
  unfold moveTo moves
  split
  · exact .refl l
  · rename_i hne
    exact ⟨⟨hne, rfl⟩, rfl, by simp⟩

theorem changed_fail (l : Link κ) (failure : OpeningFailure) : l.Changed (l.failing failure) (l.fail failure) := by
  cases failure with
  | quiet cause =>
    dsimp only [failing, fail]
    split
    · rename_i hs
      exact .of_same hs.symm rfl rfl
    · rename_i hs
      exact ⟨⟨rfl, hs, rfl⟩, by simp [Change.told?], by simp⟩
  | loud cause => exact changed_moveTo l .notConnected

theorem start_eq (h : l.status = .notConnected) :
    l.start.2 = (l.settings.openingFailure?.map (l.moveTo .connecting).fail).getD (l.moveTo .connecting) := by
  unfold start
  rw [if_neg (by simp [h])]
  cases l.settings.openingFailure? with
  | none => rfl
  | some failure => cases failure <;> rfl

theorem changed_start (l : Link κ) : l.Changed l.startChanges l.start.2 := by
  unfold startChanges
  split
  · rename_i h
    have hmoves : l.moves .connecting = [.told .connecting] := by simp [moves, h]
    have hopening := hmoves ▸ changed_moveTo l .connecting
    rw [start_eq h]
    cases l.settings.openingFailure? with
    | none => exact hopening
    | some failure => exact hopening.trans (changed_fail _ failure)
  · rename_i h
    rw [start, if_pos h]
    exact .refl l

theorem changed_stop (l : Link κ) : l.Changed l.stopChanges l.stop := by
  unfold stop stopChanges
  split
  · rename_i hactive
    have hne : l.status ≠ .disconnecting := by
      intro hs
      rw [hs] at hactive
      cases hactive
    have hclosing : l.moveTo .disconnecting =
        { l with status := .disconnecting, events := l.events ++ [.disconnecting], isChanged := true } :=
      if_neg hne
    have hmoves : l.moves .disconnecting = [.told .disconnecting] := if_neg hne
    have hchanged := hmoves ▸ changed_moveTo l .disconnecting
    rw [hclosing] at hchanged ⊢
    dsimp only [send?]
    split
    · exact hchanged.of_eq rfl rfl rfl
    · exact hchanged.trans (changed_moveTo _ .notConnected)
  · exact .refl l

theorem changed_shutdown (l : Link κ) : l.Changed (l.moves .notConnected) l.shutdown :=
  let gone : Link κ := { l with writer := .absent }
  have hchanged : gone.Changed (gone.moves .notConnected) l.shutdown := changed_moveTo gone .notConnected
  ⟨hchanged.leads, hchanged.events, hchanged.isChanged⟩

theorem changed_markReady (l : Link κ) : l.Changed (l.changes .markReady) l.markReady := by
  dsimp only [changes]
  unfold markReady
  split
  · rename_i hready
    have hmoves : l.moves .ready = [.told .ready] := by
      have hstatus : l.status = .connected := by simpa [canMarkReady] using hready
      simp [moves, hstatus]
    exact hmoves ▸ changed_moveTo l .ready
  · exact .refl l

theorem changed_settles {now : Nat} {entries : List BatchEntry}
    {frames : List (Option Receipt) → List OutboundFrame}
    {result : Except LinkError (List (Option Receipt))} (h : l.Settles now entries frames result l') :
    l.Changed [] l' := by
  cases result with
  | error cause => exact .of_same (by rw [h.1.others]) (by rw [h.1.others]) (by rw [h.1.others])
  | ok receipts =>
    exact .of_same (by rw [Sent.others h]) (by rw [Sent.others h]) (by rw [Sent.others h])

theorem changed_receive (l : Link κ) (m : Rpc.Message) : l.Changed [] (l.receive m) := by
  unfold receive
  split <;> exact .of_same rfl rfl rfl

theorem changed_handleFrame (l : Link κ) (text : String) : l.Changed [] (l.handleFrame text) := by
  have hreceive (messages : List Rpc.Message) : l.Changed [] (messages.foldl receive l) := by
    induction messages generalizing l with
    | nil => exact .refl l
    | cons m messages ih => exact (changed_receive l m).trans (ih _)
  rw [handleFrame_eq]
  exact (hreceive _).of_eq rfl rfl rfl

theorem changed_sweepIfDue (l : Link κ) (now : Nat) : l.Changed [] (l.sweepIfDue now) := by
  unfold sweepIfDue
  split
  · split <;> exact .of_same rfl rfl rfl
  · exact .refl l

theorem changed_act (l : Link κ) (now : Nat) (a : Action κ) : l.Changed (l.changes a) (l.act now a).2 := by
  cases a with
  | moveTo s => exact changed_moveTo l s
  | markReady => exact changed_markReady l
  | start => exact changed_start l
  | stop => exact changed_stop l
  | shutdown => exact changed_shutdown l
  | call method params => exact changed_settles (call_settles l now method params)
  | notify method params => exact changed_settles (notify_settles l now method params)
  | batch entries => exact changed_settles (batch_settles l now entries)
  | frame text => exact changed_handleFrame l text
  | attach | deafen | listen | unlisten => exact .of_same rfl rfl rfl

/-! ### Starts under way -/

namespace Dialing

variable {d d' : Dialing κ}

/-- The change at the end of a start, which makes none if it was superseded. -/
def ending (d : Dialing κ) (n : Nat) (cs : List Change) : List Change := if n = d.attempt then cs else []

def networkChanges (d : Dialing κ) : NetworkEvent → List Change
  | .tokenFailed n cause => if d.isWaiting n .token then d.ending n (d.link.failing (.quiet cause)) else []
  | .tokenReceived n token =>
    if d.isWaiting n .token then
      match d.link.settings.socketFailure? token with
      | none => []
      | some failure => d.ending n (d.link.failing failure)
    else []
  | .socketFailed n cause => if d.isWaiting n .socket then d.ending n (d.link.failing (.loud cause)) else []
  | .socketOpened n =>
    if d.isWaiting n .socket then d.ending n (if d.link.status = .connecting then [.told .connected] else [])
    else []
  | .hungUp => d.link.moves .notConnected

def changes (d : Dialing κ) : Action κ → List Change
  | .link _ a => d.link.changes a
  | .sweep _ => []
  | .network e => d.networkChanges e

theorem changed_finish {cs : List Change} (h : d.link.Changed cs l) (n : Nat) :
    d.link.Changed (d.ending n cs) (d.finish n l).link := by
  dsimp only [ending, finish]
  split
  · exact h
  · exact .refl _

theorem changed_open (l : Link κ) :
    l.Changed (if l.status = .connecting then [.told .connected] else [])
      (if l.status = .connecting then l.attach.moveTo .connected else l) := by
  split
  · rename_i hs
    have hmoves : l.attach.moves .connected = [.told .connected] := by simp [moves, attach, hs]
    have hopened := hmoves ▸ changed_moveTo l.attach .connected
    exact ⟨hopened.leads, hopened.events, hopened.isChanged⟩
  · exact .refl l

theorem changed_hear (d : Dialing κ) (e : NetworkEvent) : d.link.Changed (d.networkChanges e) (d.hear e).link := by
  cases e with
  | hungUp => exact changed_shutdown d.link
  | tokenFailed n cause | socketFailed n cause =>
    dsimp only [networkChanges, hear]
    split
    · exact changed_finish (changed_fail d.link _) n
    · exact .refl _
  | tokenReceived n token =>
    dsimp only [networkChanges, hear]
    split
    · cases d.link.settings.socketFailure? token with
      | none => exact .refl _
      | some failure => exact changed_finish (changed_fail d.link failure) n
    · exact .refl _
  | socketOpened n =>
    dsimp only [networkChanges, hear]
    split
    · exact changed_finish (changed_open d.link) n
    · exact .refl _

theorem changed_act (d : Dialing κ) (a : Action κ) : d.link.Changed (d.changes a) (d.act a).link := by
  cases a with
  | link now a => exact Link.changed_act d.link now a
  | sweep now => exact changed_sweepIfDue d.link now
  | network e => exact changed_hear d e

/-- The end of a start that fails in its token or URL step and was not superseded, at once or after it has waited for
the token. -/
inductive Quits (d : Dialing κ) : Action κ → Prop
  | atOnce {now : Nat} {cause : LinkError} : d.link.status = .notConnected →
      d.link.settings.openingFailure? = some (.quiet cause) → Quits d (.link now .start)
  | token {cause : LinkError} : d.isWaiting d.attempt .token → d.link.status ≠ .notConnected →
      Quits d (.network (.tokenFailed d.attempt cause))
  | address {token : String} {cause : LinkError} : d.isWaiting d.attempt .token →
      d.link.status ≠ .notConnected → d.link.settings.socketFailure? token = some (.quiet cause) →
      Quits d (.network (.tokenReceived d.attempt token))

theorem not_silent_moves {l : Link κ} {s u : Status} : .silent u ∉ l.moves s := by
  unfold moves
  split <;> simp

theorem silent_mem_failing {l : Link κ} {failure : OpeningFailure} {s : Status} :
    .silent s ∈ l.failing failure ↔ (∃ cause, failure = .quiet cause) ∧ l.status ≠ .notConnected ∧ s = l.status := by
  cases failure with
  | quiet cause =>
    dsimp only [failing]
    split <;> simp [*]
  | loud cause => simp [failing, not_silent_moves]

theorem silent_mem_changes {l : Link κ} {a : Link.Action κ} {s : Status} :
    .silent s ∈ l.changes a ↔ a = .start ∧ l.status = .notConnected ∧ s = .connecting ∧
      ∃ cause, l.settings.openingFailure? = some (.quiet cause) := by
  cases a with
  | start =>
    by_cases hs : l.status = .notConnected
    · have hopening : (l.moveTo .connecting).status = .connecting := by simp [moveTo, hs]
      simp only [Link.changes, startChanges, if_pos hs]
      cases l.settings.openingFailure? with
      | none => simp
      | some failure => simp [silent_mem_failing, hopening, hs, and_comm]
    · simp [Link.changes, startChanges, hs]
  | moveTo u => simp [Link.changes, not_silent_moves]
  | shutdown => simp [Link.changes, not_silent_moves]
  | markReady =>
    dsimp only [Link.changes]
    split <;> simp
  | stop =>
    dsimp only [Link.changes, stopChanges]
    split
    · split <;> simp
    · simp
  | attach | deafen | call | notify | batch | frame | listen | unlisten => simp [Link.changes]

theorem silent_mem_ending {d : Dialing κ} {n : Nat} {failure : OpeningFailure} {s : Status} :
    .silent s ∈ d.ending n (d.link.failing failure) ↔
      n = d.attempt ∧ (∃ cause, failure = .quiet cause) ∧ d.link.status ≠ .notConnected ∧ s = d.link.status := by
  unfold ending
  split
  · rename_i hn
    simp [silent_mem_failing, hn]
  · rename_i hn
    simp [hn]

theorem quits_iff_silent {a : Action κ} : d.Quits a ↔ ∃ s, .silent s ∈ d.changes a := by
  constructor
  · rintro (⟨hs, hfailure⟩ | ⟨hn, hs⟩ | ⟨hn, hs, hfailure⟩)
    · exact ⟨_, silent_mem_changes.2 ⟨rfl, hs, rfl, _, hfailure⟩⟩
    · refine ⟨d.link.status, ?_⟩
      rw [changes, networkChanges, if_pos hn, silent_mem_ending]
      exact ⟨rfl, ⟨_, rfl⟩, hs, rfl⟩
    · refine ⟨d.link.status, ?_⟩
      rw [changes, networkChanges, if_pos hn, hfailure]
      exact silent_mem_ending.2 ⟨rfl, ⟨_, rfl⟩, hs, rfl⟩
  · rintro ⟨s, hs⟩
    cases a with
    | link now a =>
      obtain ⟨rfl, hstatus, -, cause, hfailure⟩ := silent_mem_changes.1 hs
      exact .atOnce hstatus hfailure
    | sweep now => cases hs
    | network e =>
      cases e with
      | hungUp => exact absurd hs not_silent_moves
      | tokenFailed n cause =>
        dsimp only [changes, networkChanges] at hs
        split at hs
        · rename_i hn
          obtain ⟨rfl, -, hstatus, -⟩ := silent_mem_ending.1 hs
          exact .token hn hstatus
        · cases hs
      | tokenReceived n token =>
        dsimp only [changes, networkChanges] at hs
        split at hs
        · rename_i hn
          split at hs
          · cases hs
          · rename_i failure hfailure
            obtain ⟨rfl, ⟨cause, rfl⟩, hstatus, -⟩ := silent_mem_ending.1 hs
            exact .address hn hstatus hfailure
        · cases hs
      | socketFailed n cause =>
        dsimp only [changes, networkChanges] at hs
        split at hs
        · obtain ⟨-, ⟨cause, hquiet⟩, -⟩ := silent_mem_ending.1 hs
          cases hquiet
        · cases hs
      | socketOpened n =>
        dsimp only [changes, networkChanges, ending] at hs
        split at hs
        · split at hs
          · split at hs <;> simp at hs
          · cases hs
        · cases hs

/-! ### Runs -/

def run (d : Dialing κ) (actions : List (Action κ)) : Dialing κ := actions.foldl act d

def history (d : Dialing κ) : List (Action κ) → List Change
  | [] => []
  | a :: rest => d.changes a ++ history (d.act a) rest

theorem run_append (d : Dialing κ) (actions : List (Action κ)) (a : Action κ) :
    d.run (actions ++ [a]) = (d.run actions).act a :=
  List.foldl_concat ..

/-! ### The status of a start under way -/

/-- A start under way has its own number, and unless it was superseded, the status is still connecting or was set
meanwhile. -/
structure IsSound (forced : Nat → Prop) (d : Dialing κ) : Prop where
  le : ∀ dial ∈ d.dials, dial.attempt ≤ d.attempt
  status : d.isUnderWay d.attempt →
    d.link.status = .connecting ∨ d.link.status = .notConnected ∨ forced d.attempt

variable {forced forced' : Nat → Prop}

theorem isUnderWay_iff {n : Nat} : d.isUnderWay n ↔ ∃ dial ∈ d.dials, dial.attempt = n := by
  simp [isUnderWay]

theorem isUnderWay_of_isWaiting {n : Nat} {stage : Stage} (h : d.isWaiting n stage) : d.isUnderWay n :=
  isUnderWay_iff.2 ⟨⟨n, stage⟩, by simpa [isWaiting] using h, rfl⟩

theorem IsSound.mono (hd : IsSound forced d) (hforced : ∀ n, forced n → forced' n) : IsSound forced' d :=
  ⟨hd.le, fun h => (hd.status h).imp_right (.imp_right (hforced _))⟩

theorem IsSound.of_link (hd : IsSound forced d) (hattempt : d'.attempt = d.attempt)
    (hdials : ∀ n, d'.isUnderWay n → d.isUnderWay n)
    (hstatus : d'.isUnderWay d.attempt → d'.link.status = d.link.status ∨ d'.link.status = .notConnected) :
    IsSound forced d' := by
  refine ⟨fun dial hmem => ?_, fun h => ?_⟩
  · obtain ⟨old, hold, heq⟩ := isUnderWay_iff.1 (hdials _ (isUnderWay_iff.2 ⟨dial, hmem, rfl⟩))
    rw [hattempt, ← heq]
    exact hd.le old hold
  · rw [hattempt] at h ⊢
    rcases hstatus h with hsame | hgone
    · rw [hsame]
      exact hd.status (hdials _ h)
    · exact .inr (.inl hgone)

theorem status_moveTo (l : Link κ) (s : Status) : (l.moveTo s).status = s := by
  unfold moveTo
  split
  · assumption
  · rfl

theorem status_act (now : Nat) {a : Link.Action κ} (hforces : ∀ s, a = .moveTo s → s ≠ .connecting → forced d.attempt)
    (hsupersedes : d.supersedes a = false)
    (hs : d.link.status = .connecting ∨ d.link.status = .notConnected ∨ forced d.attempt) :
    (d.link.act now a).2.status = .connecting ∨ (d.link.act now a).2.status = .notConnected ∨ forced d.attempt := by
  have hleads := (Link.changed_act d.link now a).leads
  have hsame (h : d.link.changes a = []) : (d.link.act now a).2.status = d.link.status := by
    rw [h] at hleads
    exact hleads.symm
  cases a with
  | moveTo s =>
    have hmoved : (d.link.act now (.moveTo s)).2.status = s := status_moveTo d.link s
    rw [hmoved]
    by_cases hconnecting : s = .connecting
    · exact .inl hconnecting
    · exact .inr (.inr (hforces s rfl hconnecting))
  | markReady =>
    by_cases hforced : forced d.attempt
    · exact .inr (.inr hforced)
    · have hnot : d.link.canMarkReady = false := by rcases hs with hs | hs | hs <;> simp_all [canMarkReady]
      rw [hsame (by simp [Link.changes, hnot])]
      exact hs
  | start =>
    have hstatus : d.link.status ≠ .notConnected := by simpa [supersedes] using hsupersedes
    rw [hsame (if_neg hstatus)]
    exact hs
  | stop =>
    have hidle : d.link.status.isActive = false := hsupersedes
    rw [hsame (by simp [Link.changes, stopChanges, hidle])]
    exact hs
  | shutdown => cases hsupersedes
  | attach | deafen | call | notify | batch | frame | listen | unlisten =>
    rw [hsame rfl]
    exact hs

theorem IsSound.onLink (hd : IsSound forced d) (now : Nat) {a : Link.Action κ}
    (hforces : ∀ s, a = .moveTo s → s ≠ .connecting → d.isUnderWay d.attempt → forced d.attempt) :
    IsSound forced (d.onLink now a) := by
  have hattempt : d.attempt ≤ (d.onLink now a).attempt := by
    dsimp only [Dialing.onLink]
    split <;> omega
  refine ⟨fun dial hmem => ?_, fun h => ?_⟩
  · rcases List.mem_append.1 hmem with hold | hnew
    · exact Nat.le_trans (hd.le dial hold) hattempt
    · obtain ⟨stage, -, rfl⟩ := List.mem_map.1 hnew
      exact Nat.le_refl _
  · obtain ⟨dial, hmem, hcurrent⟩ := isUnderWay_iff.1 h
    rcases List.mem_append.1 hmem with hold | hnew
    · have hsupersedes : d.supersedes a = false := by
        by_contra hsupersedes
        have hle := hd.le dial hold
        have hnext : (d.onLink now a).attempt = d.attempt + 1 := if_pos (by simpa using hsupersedes)
        omega
      have hsame : (d.onLink now a).attempt = d.attempt := if_neg (by simp [hsupersedes])
      rw [hsame] at hcurrent ⊢
      have hway := isUnderWay_iff.2 ⟨dial, hold, hcurrent⟩
      exact status_act now (fun s ha hs => hforces s ha hs hway) hsupersedes (hd.status hway)
    · obtain ⟨stage, hstage, -⟩ := List.mem_map.1 hnew
      cases a with
      | start =>
        obtain ⟨hdialable, -⟩ := Option.ite_none_right_eq_some.1 (Option.mem_toList.1 hstage)
        obtain ⟨hs, hnone⟩ : d.link.status = .notConnected ∧ d.link.settings.openingFailure?.isNone := by
          simpa [isDialable] using hdialable
        left
        dsimp only [Dialing.onLink, Link.act]
        rw [start_eq hs, Option.isNone_iff_eq_none.1 hnone]
        exact status_moveTo d.link .connecting
      | attach | deafen | moveTo | markReady | stop | shutdown | call | notify | batch | frame | listen | unlisten =>
        cases hstage

theorem IsSound.finish (hd : IsSound forced d) (n : Nat) (l : Link κ) : IsSound forced (d.finish n l) := by
  refine hd.of_link rfl (fun m hm => ?_) fun hway => .inl ?_
  · obtain ⟨dial, hmem, heq⟩ := isUnderWay_iff.1 hm
    exact isUnderWay_iff.2 ⟨dial, List.mem_of_mem_filter hmem, heq⟩
  · obtain ⟨dial, hmem, hcurrent⟩ := isUnderWay_iff.1 hway
    have hne : dial.attempt ≠ n := by simpa using (List.mem_filter.1 hmem).2
    exact congrArg Link.status (if_neg fun hn => hne (hcurrent.trans hn.symm))

theorem IsSound.proceed (hd : IsSound forced d) (n : Nat) : IsSound forced (d.proceed n) := by
  refine hd.of_link rfl (fun m hm => ?_) fun _ => .inl rfl
  obtain ⟨dial, hmem, heq⟩ := isUnderWay_iff.1 hm
  obtain ⟨old, hold, rfl⟩ := List.mem_map.1 hmem
  refine isUnderWay_iff.2 ⟨old, hold, ?_⟩
  rw [← heq]
  split <;> rfl

theorem IsSound.hear (hd : IsSound forced d) (e : NetworkEvent) : IsSound forced (d.hear e) := by
  cases e with
  | hungUp => exact hd.of_link rfl (fun _ => id) fun _ => .inr (status_moveTo _ _)
  | tokenFailed n cause | socketFailed n cause | socketOpened n =>
    dsimp only [Dialing.hear]
    split
    · exact hd.finish n _
    · exact hd
  | tokenReceived n token =>
    dsimp only [Dialing.hear]
    split
    · cases d.link.settings.socketFailure? token with
      | none => exact hd.proceed n
      | some failure => exact hd.finish n _
    · exact hd

theorem IsSound.silent (hd : IsSound forced d) {a : Action κ} {s : Status} (h : .silent s ∈ d.changes a) :
    s = .connecting ∨ forced d.attempt := by
  have hwaiting {n : Nat} {stage : Stage} {failure : OpeningFailure} (hn : d.isWaiting n stage)
      (hs : .silent s ∈ d.ending n (d.link.failing failure)) : s = .connecting ∨ forced d.attempt := by
    obtain ⟨rfl, -, hne, rfl⟩ := silent_mem_ending.1 hs
    exact (hd.status (isUnderWay_of_isWaiting hn)).imp_right (Or.resolve_left · hne)
  cases quits_iff_silent.2 ⟨s, h⟩ with
  | atOnce =>
    have hstart : .silent s ∈ d.link.changes .start := h
    exact .inl (silent_mem_changes.1 hstart).2.2.1
  | token hn =>
    rw [changes, networkChanges, if_pos hn] at h
    exact hwaiting hn h
  | address hn _ hfailure =>
    rw [changes, networkChanges, if_pos hn, hfailure] at h
    exact hwaiting hn h

end Dialing

/-! ### Replaying the events -/

theorem Leads.last {s t : Status} {cs : List Change} {c : Change} (h : Leads s (cs ++ [c]) t) :
    ∃ m, Leads s cs m ∧ Leads m [c] t := by
  induction cs generalizing s with
  | nil => exact ⟨s, rfl, h⟩
  | cons first cs ih =>
    cases first with
    | told u =>
      obtain ⟨m, hinit, hlast⟩ := ih h.2
      exact ⟨m, ⟨h.1, hinit⟩, hlast⟩
    | silent u =>
      obtain ⟨m, hinit, hlast⟩ := ih h.2.2
      exact ⟨m, ⟨h.1, h.2.1, hinit⟩, hlast⟩

namespace Dialing

end Dialing
end ServiceLink.Link
