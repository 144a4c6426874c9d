import ServiceLink.Proofs.Client.Listening

/-! What comes into one stream and what is taken from it, move by move. Nothing comes unless a live
subscription with the number of the stream stands. -/

namespace ServiceLink

def Hub.isHeld (h : Hub) (stream : Nat) : Bool := h.streams.any fun st => st.id = stream ∧ st.isHeld

namespace Stream

theorem eventsOf_eq {streams : List Stream} {stream : Nat} {st : Stream}
    (h : streams.filter (·.id = stream) = [st]) : eventsOf streams stream = st.events := by
  rw [eventsOf, h, List.flatMap_singleton]

/-- What was sent to a stream was taken from it or is still in it. Once the receiving end is gone nothing
is in it, and what is sent is lost. -/
structure Holds (st : Stream) (taken told : List Event) : Prop where
  held : st.isHeld → taken ++ st.events = told
  released : ¬ st.isHeld → st.events = [] ∧ taken <+: told

variable {st : Stream} {taken told : List Event}

theorem Holds.isPrefix (h : st.Holds taken told) : taken ++ st.events <+: told := by
  by_cases hst : st.isHeld
  · exact (h.held hst).symm ▸ List.prefix_rfl
  · obtain ⟨hevents, hprefix⟩ := h.released hst
    rwa [hevents, List.append_nil]

theorem Holds.sendAll (h : st.Holds taken told) (events : List Event) :
    (st.sendAll events).Holds taken (told ++ events) := by
  rw [sendAll_eq]
  by_cases hst : st.isHeld
  · rw [if_pos hst]
    refine ⟨fun _ => ?_, fun hnot => absurd hst hnot⟩
    rw [← List.append_assoc, h.held hst]
  · rw [if_neg hst]
    obtain ⟨hevents, hprefix⟩ := h.released hst
    exact ⟨fun hheld => absurd hheld hst, fun _ => ⟨hevents, hprefix.trans (List.prefix_append _ _)⟩⟩

theorem Holds.release (h : st.Holds taken told) : st.release.Holds taken told where
  held hheld := absurd hheld nofun
  released _ := ⟨rfl, (List.prefix_append _ _).trans h.isPrefix⟩

theorem Holds.drain (h : st.Holds taken told) : st.drain.Holds (taken ++ st.events) told where
  held hheld := (List.append_nil _).trans (h.held hheld)
  released _ := ⟨rfl, h.isPrefix⟩

end Stream

theorem Hub.isHeld_of_filter {h : Hub} {stream : Nat} {st : Stream}
    (hst : h.streams.filter (·.id = stream) = [st]) (hheld : h.isHeld stream) : st.isHeld := by
  obtain ⟨st', hmem, hown⟩ := List.any_eq_true.1 hheld
  obtain ⟨hid, hheld⟩ := of_decide_eq_true hown
  have hmem' : st' ∈ h.streams.filter (·.id = stream) := List.mem_filter.2 ⟨hmem, decide_eq_true hid⟩
  rw [hst] at hmem'
  cases List.mem_singleton.1 hmem'
  exact hheld

theorem filter_eq_singleton {α : Type} {number : α → Nat} {l : List α} (h : (l.map number).Nodup) {a : α}
    (ha : a ∈ l) : l.filter (fun b => number b = number a) = [a] := by
  induction l with
  | nil => cases ha
  | cons b l ih =>
    obtain ⟨hb, hl⟩ := List.nodup_cons.1 h
    rcases List.mem_cons.1 ha with rfl | ha
    · have hrest : l.filter (fun b => number b = number a) = [] := by
        refine List.filter_eq_nil_iff.2 fun c hc heq => hb ?_
        exact List.mem_map.2 ⟨c, hc, of_decide_eq_true heq⟩
      simp [hrest]
    · have hne : number b ≠ number a := fun heq => hb (heq ▸ List.mem_map_of_mem ha)
      simp [hne, ih hl ha]

namespace Scene

variable {timeout : Nat} {s s' : Scene} {mv : Move} {moves : List Move} {stream : Nat}
  {taken told : List Event}

/-! ### One stream -/

/-- What a move sends to a stream. -/
def sends (s : Scene) (stream : Nat) : Move → List Event
  | .message m =>
    ((s.heard (.message m)).filter (·.1.stream = stream)).map fun push => push.1.event push.2
  | .disconnected => Entry.endings s.hub.registry.entries.values stream
  | _ => []

def takes (s : Scene) (stream : Nat) : Move → List Event
  | .drained id => if id = stream then Stream.eventsOf s.hub.streams stream else []
  | _ => []

/-- What becomes of a stream in a move, in a disconnection too. -/
def becomes (s : Scene) (mv : Move) (st : Stream) : Stream :=
  match mv with
  | .disconnected => st.sendAll (s.sends st.id .disconnected)
  | mv => s.onStream mv st

theorem becomes_eq (s : Scene) (hmv : mv ≠ .disconnected) : s.becomes mv = s.onStream mv := by
  funext st
  unfold becomes
  split
  · exact absurd rfl hmv
  · rfl

theorem id_becomes (s : Scene) (mv : Move) (st : Stream) : (s.becomes mv st).id = st.id := by
  unfold becomes
  split
  · exact st.id_sendAll _
  · exact s.id_onStream mv st

theorem Step.streams_becomes (h : Step timeout s mv s') :
    s'.hub.streams = s.hub.streams.map (s.becomes mv) ++ newStreams mv := by
  by_cases hmv : mv = .disconnected
  · subst hmv
    rw [h.streams_of_disconnected]
    exact (List.append_nil _).symm
  · rw [s.becomes_eq hmv]
    exact h.streams hmv

theorem Step.stream_becomes (h : Step timeout s mv s') (hle : stream ≤ s.hub.registry.generation)
    {st : Stream} (hst : s.hub.streams.filter (·.id = stream) = [st]) :
    s'.hub.streams.filter (·.id = stream) = [s.becomes mv st] := by
  by_cases hmv : mv = .disconnected
  · subst hmv
    have hsame : ((fun st : Stream => decide (st.id = stream)) ∘ s.becomes .disconnected) =
        fun st : Stream => decide (st.id = stream) := by
      funext st
      simp [id_becomes]
    have hstreams : s'.hub.streams = s.hub.streams.map (s.becomes .disconnected) :=
      h.streams_becomes.trans (List.append_nil _)
    rw [hstreams, List.filter_map, hsame, hst]
    rfl
  · rw [s.becomes_eq hmv]
    exact h.stream_of_kept hmv hle hst

def Received (s : Scene) (stream : Nat) (taken told : List Event) : Prop :=
  ∃ st, s.hub.streams.filter (·.id = stream) = [st] ∧ st.Holds taken told

theorem Step.received (h : Step timeout s mv s') (hle : stream ≤ s.hub.registry.generation)
    (hr : s.Received stream taken told) :
    s'.Received stream (taken ++ s.takes stream mv) (told ++ s.sends stream mv) := by
  obtain ⟨st, hst, hholds⟩ := hr
  have hid : st.id = stream := id_of_filter hst
  refine ⟨s.becomes mv st, h.stream_becomes hle hst, ?_⟩
  have hsent := hholds.sendAll (s.sends stream mv)
  cases mv with
  | message m =>
    have hheard : s.becomes (.message m) st = st.sendAll (s.sends stream (.message m)) :=
      (st.hear_eq_sendAll _).trans (hid ▸ rfl)
    rw [hheard]
    simpa [takes] using hsent
  | disconnected =>
    have hended : s.becomes .disconnected st = st.sendAll (s.sends stream .disconnected) := hid ▸ rfl
    rw [hended]
    simpa [takes] using hsent
  | released id =>
    by_cases hown : st.id = id
    · have hgone : s.becomes (.released id) st = st.release := if_pos hown
      rw [hgone]
      simpa [sends, takes] using hholds.release
    · have hsame : s.becomes (.released id) st = st := if_neg hown
      simpa [hsame, sends, takes] using hholds
  | drained id =>
    by_cases hown : st.id = id
    · have hempty : s.becomes (.drained id) st = st.drain := if_pos hown
      have htakes : s.takes stream (.drained id) = st.events := by
        rw [takes, if_pos (hown.symm.trans hid), Stream.eventsOf_eq hst]
      rw [hempty, htakes]
      simpa [sends] using hholds.drain
    · have hsame : s.becomes (.drained id) st = st := if_neg hown
      have htakes : s.takes stream (.drained id) = [] := if_neg fun heq => hown (hid.trans heq.symm)
      simpa [hsame, htakes, sends] using hholds
  | _ => simpa [becomes, onStream, sends, takes] using hholds

/-! ### Reading a stream -/

/-- A live subscription feeds this stream. -/
def Feeds (s : Scene) (stream : Nat) : Prop :=
  ∃ service e, s.subscription? service = some e ∧ e.generation = stream ∧ e.live ≠ none

/-- No subscription has this stream. -/
def Gone (s : Scene) (stream : Nat) : Prop :=
  ∀ service e, s.subscription? service = some e → e.generation ≠ stream

theorem Kept.sends_disconnected (hk : s.Kept) {service : String} {e : Entry}
    (he : s.subscription? service = some e) (hg : e.generation = stream) (hlive : e.live ≠ none) :
    s.sends stream .disconnected = [.ended] := by
  subst hg
  have hmem : e ∈ s.hub.registry.entries.values := Dict.mem_values.2 ⟨service, he⟩
  have hown := filter_eq_singleton hk.numbered.nodup hmem
  have hsome : e.isLive := Option.isSome_iff_ne_none.2 hlive
  unfold sends Entry.endings
  have hboth : (s.hub.registry.entries.values.filter fun f =>
      f.isLive ∧ f.generation = e.generation) = [e] := by
    simp only [Bool.decide_and, Bool.decide_eq_true]
    rw [← List.filter_filter, hown]
    simp [hsome]
  rw [hboth]
  rfl

theorem isClosed_of_stands {service : String} {e : Entry} (he : s.subscription? service = some e)
    (hg : e.generation = stream) : s.hub.isClosed stream = false := by
  have hholds : s.hub.registry.holds stream = true :=
    List.any_eq_true.2 ⟨e, Dict.mem_values.2 ⟨service, he⟩, decide_eq_true hg⟩
  simp [Hub.isClosed, hholds]

theorem Gone.isClosed (h : s.Gone stream) (ho : s.Owned) : s.hub.isClosed stream = true := by
  have hholds : s.hub.registry.holds stream = false := by
    refine List.any_eq_false.2 fun e he hg => ?_
    obtain ⟨service, he⟩ := Dict.mem_values.1 he
    exact h service e he (of_decide_eq_true hg)
  have hfeeds : s.hub.link.feedsStream stream = false := by
    refine List.any_eq_false.2 fun x hx hown => ?_
    cases hh : x.handler with
    | caller => simp [hh, Handler.tap?] at hown
    | tap t =>
      obtain ⟨service, e, he, hg⟩ := ho x hx t hh
      exact h service e he (hg.trans (by simpa [hh, Handler.tap?] using hown))
  simp [Hub.isClosed, hholds, hfeeds]

end Scene
end ServiceLink
