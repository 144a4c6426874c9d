import ServiceLink.Proofs.Client.Wiring

/-! What subscribers are told. The pushes of a message come to the stream of a subscription and to its
properties through its own listeners alone, so that a live subscription misses none. -/

namespace ServiceLink

namespace Link

theorem mem_pushesOf {l : Link Handler} {m : Rpc.Message} {push : Push} (h : push ∈ l.pushesOf m) :
    ∃ x ∈ l.listeners, x.handler = .tap push.1 := by
  cases m with
  | notification n =>
    obtain ⟨d, hd, hpush⟩ := List.mem_filterMap.1 h
    obtain ⟨handler, hhandler, rfl⟩ := List.mem_map.1 hd
    obtain ⟨x, hx, rfl⟩ := List.mem_map.1 hhandler
    obtain ⟨t, ht, rfl⟩ := Option.map_eq_some_iff.1 hpush
    refine ⟨x, List.mem_of_mem_filter hx, ?_⟩
    cases hh : x.handler with
    | caller => simp [hh, Handler.tap?] at ht
    | tap u =>
      simp only [hh, Handler.tap?, Option.some.injEq] at ht
      rw [ht]
  | _ => simp [pushesOf, echoes] at h

theorem pushesOf_stream (l : Link Handler) (n : Rpc.Notification) (stream : Nat) :
    (l.pushesOf (.notification n)).filter (·.1.stream = stream) =
      ((l.tapsFor stream).filter (·.method = n.method)).filterMap fun x =>
        x.handler.tap?.map (·, n) := by
  unfold pushesOf echoes handlersFor tapsFor
  induction l.listeners with
  | nil => rfl
  | cons x rest ih =>
    by_cases hm : x.method = n.method
    · cases hh : x.handler with
      | caller => simpa [hm, hh, Handler.tap?] using ih
      | tap t =>
        by_cases hs : t.stream = stream
        · simpa [hm, hh, hs, Handler.tap?] using ih
        · simpa [hm, hh, hs, Handler.tap?] using ih
    · cases hh : x.handler with
      | caller => simpa [hm, hh, Handler.tap?] using ih
      | tap t =>
        by_cases hs : t.stream = stream
        · simpa [hm, hh, hs, Handler.tap?] using ih
        · simpa [hm, hh, hs, Handler.tap?] using ih

end Link

theorem Feed.events_listeners (f : Feed) (schema : Schema) (path : String) (stream : Nat)
    (n : Rpc.Notification) :
    ((((f.listeners schema path stream).filter (·.method = n.method)).filterMap fun x =>
        x.handler.tap?.map fun t => (t, n)).map fun push => push.1.event push.2) =
      (f.bound.filter fun p => schema.pushMethod path p = n.method).map fun p =>
        .changed p (Tap.pushedValue n) := by
  unfold listeners bound
  induction f.taps with
  | nil => rfl
  | cons tap taps ih =>
    by_cases hm : schema.pushMethod path tap.1 = n.method
    · simpa [hm, Handler.tap?, Tap.event] using ih
    · simpa [hm] using ih

/-- The schema that was acknowledged. -/
def SubscriptionInfo.schema (info : SubscriptionInfo) : Schema :=
  { version := some info.version, methods := info.methods, properties := info.properties }

namespace Entry

/-- What a message tells the subscriber. -/
def news (e : Entry) (m : Rpc.Message) : List Event :=
  match e.live with
  | none => []
  | some live => live.schema.news e.path e.requested m

/-- A subscription whose subscriber was told of these events. -/
def after (e : Entry) (told : List Event) : Entry :=
  { e with
    live := e.live.map fun live =>
      { live with
        feed := { live.feed with properties := told.foldl Event.enter live.feed.properties } } }

theorem after_nil (e : Entry) : e.after [] = e := by
  obtain ⟨generation, path, requested, live⟩ := e
  cases live <;> rfl

theorem after_append (e : Entry) (told more : List Event) :
    e.after (told ++ more) = (e.after told).after more := by
  obtain ⟨generation, path, requested, live⟩ := e
  cases live with
  | none => rfl
  | some live => simp [after]

theorem news_after (e : Entry) (told : List Event) (m : Rpc.Message) :
    (e.after told).news m = e.news m := by
  unfold news after
  cases e.live <;> rfl

theorem Wired.events {e : Entry} {l : Link Handler} {nextFeed : Nat} (h : e.Wired l nextFeed)
    (m : Rpc.Message) :
    (((l.pushesOf m).filter (·.1.stream = e.generation)).map fun push => push.1.event push.2) =
      e.news m := by
  cases m with
  | notification n =>
    rw [Link.pushesOf_stream, h.taps]
    unfold listeners news
    cases hlive : e.live with
    | none => rfl
    | some live =>
      dsimp only
      rw [Feed.events_listeners, h.bound live hlive]
      simp [Schema.news, Schema.tidings, Rpc.Message.push?]
  | _ =>
    cases hlive : e.live <;>
      simp [news, hlive, Schema.news, Link.pushesOf, Link.echoes, Rpc.Message.push?]

theorem Wired.hear_eq {e : Entry} {l : Link Handler} {nextFeed : Nat} (h : e.Wired l nextFeed)
    (m : Rpc.Message) : e.hear (l.pushesOf m) = e.after (e.news m) := by
  have hevents := h.events m
  unfold Entry.hear after
  cases hlive : e.live with
  | none => rfl
  | some live =>
    have hown : (l.pushesOf m).filter (·.1.feed = live.feed.id) =
        (l.pushesOf m).filter (·.1.stream = e.generation) := by
      refine List.filter_congr fun push hpush => ?_
      obtain ⟨x, hx, ht⟩ := Link.mem_pushesOf hpush
      refine decide_eq_decide.2 ⟨h.own live hlive x hx push.1 ht, fun hstream => ?_⟩
      have hmem : x ∈ e.listeners := h.taps ▸ Link.mem_tapsFor.2 ⟨hx, push.1, ht, hstream⟩
      simp only [listeners, hlive] at hmem
      obtain ⟨tap, -, rfl⟩ := List.mem_map.1 hmem
      rw [← Handler.tap.inj ht]
    simp only [Option.map_some]
    rw [Feed.hear_eq, hown, hevents]

end Entry

namespace Stream

def sendAll (s : Stream) (events : List Event) : Stream := events.foldl send s

theorem sendAll_eq (s : Stream) (events : List Event) :
    s.sendAll events = if s.isHeld then { s with events := s.events ++ events } else s := by
  unfold sendAll
  induction events generalizing s with
  | nil => simp
  | cons e events ih =>
    rw [List.foldl_cons, ih]
    by_cases hheld : s.isHeld <;> simp [send, hheld]

theorem id_sendAll (s : Stream) (events : List Event) : (s.sendAll events).id = s.id := by
  rw [sendAll_eq]
  split <;> rfl

theorem sendAll_append (s : Stream) (events more : List Event) :
    s.sendAll (events ++ more) = (s.sendAll events).sendAll more := List.foldl_append

theorem hear_eq_sendAll (s : Stream) (pushes : List Push) :
    s.hear pushes =
      s.sendAll ((pushes.filter (·.1.stream = s.id)).map fun push => push.1.event push.2) := by
  rw [hear_eq, sendAll_eq]

end Stream

/-- The events that closing an entry sends to its stream. -/
def Entry.endings (entries : List Entry) (stream : Nat) : List Event :=
  (entries.filter fun e => e.isLive ∧ e.generation = stream).map fun _ => .ended

theorem Hub.streams_closeAll (h : Hub) (entries : List Entry) :
    (h.closeAll entries).streams =
      h.streams.map fun st => st.sendAll (Entry.endings entries st.id) := by
  unfold closeAll
  induction entries generalizing h with
  | nil => exact (List.map_id _).symm
  | cons e entries ih =>
    have hclose : (h.close e true).streams =
        h.streams.map fun st => st.sendAll (Entry.endings [e] st.id) := by
      by_cases hlive : e.isLive
      · simp only [close, hlive, and_self, if_true, Stream.update]
        refine List.map_congr_left fun st _ => ?_
        by_cases hid : st.id = e.generation
        · simp [Entry.endings, hlive, hid, Stream.sendAll]
        · simp [Entry.endings, hid, Ne.symm hid, Stream.sendAll]
      · simp [close, hlive, Entry.endings, Stream.sendAll]
    rw [List.foldl_cons, ih, hclose, List.map_map]
    refine List.map_congr_left fun st _ => ?_
    have hcons : Entry.endings (e :: entries) st.id =
        Entry.endings [e] st.id ++ Entry.endings entries st.id := by
      simp only [Entry.endings, ← List.map_append, ← List.filter_append]
      rfl
    simp only [Function.comp_apply, Stream.id_sendAll, hcons, Stream.sendAll_append]

namespace Scene

variable {timeout : Nat} {s s' : Scene} {mv : Move} {moves : List Move}

def onStream (s : Scene) : Move → Stream → Stream
  | .message m, st => st.hear (s.heard (.message m))
  | .released id, st => if st.id = id then st.release else st
  | .drained id, st => if st.id = id then st.drain else st
  | _, st => st

theorem heard_message (hq : s.hub.link.pushes = []) (m : Rpc.Message) :
    s.heard (.message m) = s.hub.link.pushesOf m := by
  show (s.hub.link.receive m).pushes = s.hub.link.pushesOf m
  rw [Link.pushes_receive, hq, List.nil_append]

def newStreams : Move → List Stream
  | .entered generation _ _ _ => [{ id := generation }]
  | _ => []

theorem Step.streams (h : Step timeout s mv s') (hmv : mv ≠ .disconnected) :
    s'.hub.streams = s.hub.streams.map (s.onStream mv) ++ newStreams mv := by
  have hsame : s.hub.streams = s.hub.streams.map id ++ [] := by simp
  cases h with
  | entered => exact congrArg (· ++ _) (List.map_id _).symm
  | disconnected => exact absurd rfl hmv
  | concluded _ _ hconcluded => cases hconcluded <;> exact hsame
  | message => exact (List.append_nil _).symm
  | released => exact (List.append_nil _).symm
  | drained => exact (List.append_nil _).symm
  | _ => exact hsame

theorem Step.streams_of_disconnected (h : Step timeout s .disconnected s') :
    s'.hub.streams = s.hub.streams.map fun st =>
      st.sendAll (Entry.endings s.hub.registry.entries.values st.id) := by
  cases h with
  | disconnected =>
    exact Hub.streams_closeAll { s.hub with registry := s.hub.registry.reset }
      s.hub.registry.entries.values

theorem id_onStream (s : Scene) (mv : Move) (st : Stream) : (s.onStream mv st).id = st.id := by
  unfold onStream
  split
  · rw [Stream.hear_eq]
    split <;> rfl
  · split <;> rfl
  · split <;> rfl
  · rfl

theorem filter_onStream (s : Scene) (mv : Move) (streams : List Stream) (id : Nat) :
    (streams.map (s.onStream mv)).filter (·.id = id) =
      (streams.filter (·.id = id)).map (s.onStream mv) := by
  rw [List.filter_map]
  congr 1
  refine List.filter_congr fun st _ => ?_
  simp [id_onStream]

theorem id_of_filter {streams : List Stream} {id : Nat} {st : Stream}
    (h : streams.filter (·.id = id) = [st]) : st.id = id := by
  have hmem : st ∈ streams.filter (·.id = id) := h ▸ List.mem_singleton_self st
  exact of_decide_eq_true (List.mem_filter.1 hmem).2

section

variable {e : Entry} {nextFeed : Nat} {st : Stream}

theorem onStream_message (hq : s.hub.link.pushes = []) (hw : e.Wired s.hub.link nextFeed)
    (hid : st.id = e.generation) (m : Rpc.Message) :
    s.onStream (.message m) st =
      if st.isHeld then { st with events := st.events ++ e.news m } else st := by
  simp only [onStream]
  rw [heard_message hq, Stream.hear_eq, hid, hw.events m]

theorem onStream_empty (hq : s.hub.link.pushes = []) (hw : e.Wired s.hub.link nextFeed)
    (hlive : e.live = none) (hid : st.id = e.generation) (hempty : st.events = []) (mv : Move) :
    (s.onStream mv st).events = [] := by
  cases mv with
  | message m =>
    have hnews : e.news m = [] := by simp [Entry.news, hlive]
    rw [onStream_message hq hw hid, hnews]
    split
    · exact List.append_eq_nil_iff.2 ⟨hempty, rfl⟩
    · exact hempty
  | released id =>
    simp only [onStream]
    split
    · rfl
    · exact hempty
  | drained id =>
    simp only [onStream]
    split
    · rfl
    · exact hempty
  | _ => exact hempty

end

/-- Every subscription has one stream, and nothing is in it before the subscription is live. -/
structure Streamed (s : Scene) : Prop where
  le : ∀ st ∈ s.hub.streams, st.id ≤ s.hub.registry.generation
  entry : ∀ service e, s.subscription? service = some e → ∃ st,
    s.hub.streams.filter (·.id = e.generation) = [st] ∧ (e.live = none → st.events = [])

theorem streamed_start (settings : Link.Settings) : (start settings).Streamed where
  le _ hst := by cases hst
  entry _ _ he := by cases he

theorem Step.stream_of_kept (h : Step timeout s mv s') (hmv : mv ≠ .disconnected) {g : Nat}
    (hg : g ≤ s.hub.registry.generation) {st : Stream}
    (hst : s.hub.streams.filter (·.id = g) = [st]) :
    s'.hub.streams.filter (·.id = g) = [s.onStream mv st] := by
  have hnew : (newStreams mv).filter (·.id = g) = [] := by
    cases h with
    | entered =>
      refine List.filter_eq_nil_iff.2 fun new hnew => ?_
      cases List.mem_singleton.1 hnew
      simpa using Nat.ne_of_gt (Nat.lt_succ_of_le hg)
    | _ => rfl
  rw [h.streams hmv, List.filter_append, filter_onStream, hst, hnew]
  rfl

theorem Step.streamed (h : Step timeout s mv s') (hn : s.Numbered) (hq : s.hub.link.pushes = [])
    (hw : s.Wired) (hs : s.Streamed) : s'.Streamed where
  le st hst := by
    by_cases hmv : mv = .disconnected
    · subst hmv
      rw [h.streams_of_disconnected] at hst
      obtain ⟨before, hbefore, rfl⟩ := List.mem_map.1 hst
      rw [Stream.id_sendAll, h.registry_of_disconnected]
      exact hs.le before hbefore
    · rw [h.streams hmv] at hst
      rcases List.mem_append.1 hst with hst | hst
      · obtain ⟨before, hbefore, rfl⟩ := List.mem_map.1 hst
        rw [id_onStream]
        exact Nat.le_trans (hs.le before hbefore) h.generation_le
      · cases h with
        | entered =>
          cases List.mem_singleton.1 hst
          exact Nat.le_refl _
        | _ => cases hst
  entry service e he := by
    have hmv : mv ≠ .disconnected := by
      rintro rfl
      rw [h.subscription?_of_disconnected] at he
      cases he
    cases h.origin he with
    | entered hentered hg hlive =>
      subst hentered
      refine ⟨{ id := e.generation }, ?_, fun _ => rfl⟩
      rw [h.streams hmv, List.filter_append, filter_onStream]
      have hold : s.hub.streams.filter (·.id = e.generation) = [] := by
        refine List.filter_eq_nil_iff.2 fun st hst => ?_
        have hle := hs.le st hst
        simp only [decide_eq_true_eq]
        omega
      rw [hold]
      simp [newStreams]
    | @kept f hf heq =>
      subst heq
      obtain ⟨st, hst, hempty⟩ := hs.entry service f hf
      refine ⟨s.onStream mv st, h.stream_of_kept hmv (hn.entry service f hf) hst, fun hnone => ?_⟩
      have hlive : f.live = none := Option.map_eq_none_iff.1 hnone
      exact onStream_empty hq (hw.entry service f hf) hlive (id_of_filter hst) (hempty hlive) mv
    | @established f a ack version feed hf heq =>
      subst heq
      obtain ⟨st, hst, -⟩ := hs.entry service f hf
      refine ⟨s.onStream mv st, h.stream_of_kept hmv (hn.entry service f hf) hst, fun hnone => ?_⟩
      cases hnone

/-- All that holds of the subscriptions of a scene, of their listeners and of their streams. -/
structure Kept (s : Scene) : Prop where
  numbered : s.Numbered
  quiet : s.hub.link.pushes = []
  wired : s.Wired
  streamed : s.Streamed

theorem kept_start (settings : Link.Settings) : (start settings).Kept :=
  ⟨numbered_start settings, rfl, wired_start settings, streamed_start settings⟩

theorem Step.kept (h : Step timeout s mv s') (hs : s.Kept) : s'.Kept where
  numbered := h.numbered hs.numbered
  quiet := h.quiet hs.quiet
  wired := h.wired hs.numbered hs.wired
  streamed := h.streamed hs.numbered hs.quiet hs.wired hs.streamed

theorem kept_of_trace (h : Trace (Step timeout) s moves s') (hs : s.Kept) : s'.Kept :=
  h.keeps (fun _ _ _ hx hstep => hstep.kept hx) hs

/-! ### Live subscriptions -/

/-- A subscription stands, and its subscriber was told of these events since it became live. -/
structure Informed (s : Scene) (service : String) (e : Entry) (told : List Event) : Prop where
  entry : s.subscription? service = some (e.after told)
  stream : ∃ st, s.hub.streams.filter (·.id = e.generation) = [st] ∧
    (st.isHeld → st.events = told)

def Stands (s : Scene) (service : String) (generation : Nat) : Prop :=
  ∃ e, s.subscription? service = some e ∧ e.generation = generation

theorem Step.stands (h : Step timeout s mv s') {service : String} {generation : Nat}
    (hle : generation ≤ s.hub.registry.generation) (hs : s'.Stands service generation) :
    s.Stands service generation := by
  obtain ⟨e, he, rfl⟩ := hs
  rcases (h.origin he).generation with ⟨f, hf, hg⟩ | ⟨-, hg⟩
  · exact ⟨f, hf, hg⟩
  · omega

theorem Step.informed (h : Step timeout s mv s') (hs : s.Kept) {service : String} {e : Entry}
    {told : List Event} (hi : s.Informed service e told) (hlive : e.live ≠ none)
    (hstands : s'.Stands service e.generation) (hdrained : mv ≠ .drained e.generation) :
    s'.Informed service e (told ++ mv.message?.toList.flatMap e.news) := by
  obtain ⟨f, hf, hg⟩ := hstands
  have hle : e.generation ≤ s.hub.registry.generation := hs.numbered.entry service (e.after told) hi.entry
  have hwired := hs.wired.entry service _ hi.entry
  have hmv : mv ≠ .disconnected := by
    rintro rfl
    rw [h.subscription?_of_disconnected] at hf
    cases hf
  obtain ⟨st, hst, hevents⟩ := hi.stream
  refine ⟨?_, s.onStream mv st, h.stream_of_kept hmv hle hst, ?_⟩
  · cases h.origin hf with
    | entered _ hnew => omega
    | kept hbefore heq =>
      rw [hi.entry] at hbefore
      cases hbefore
      rw [hf, heq]
      cases mv with
      | message m =>
        rw [heard_message hs.quiet, hwired.hear_eq, Entry.news_after, ← Entry.after_append]
        simp [Move.message?]
      | _ => simp [heard, Move.message?]
    | established hbefore heq ha =>
      rw [hi.entry] at hbefore
      cases hbefore
      have hnone := (hs.numbered.own _ _ service _ ha hi.entry rfl).2.2
      exact absurd (Option.map_eq_none_iff.1 hnone) hlive
  · have hid : st.id = e.generation := id_of_filter hst
    cases mv with
    | message m =>
      rw [onStream_message hs.quiet hwired hid, Entry.news_after]
      split
      · rename_i hheld
        intro _
        simp [Move.message?, hevents hheld]
      · rename_i hheld
        exact fun h => absurd h hheld
    | released id =>
      simp only [onStream, Move.message?, Option.toList_none, List.flatMap_nil, List.append_nil]
      split
      · exact fun h => by cases h
      · exact hevents
    | drained id =>
      have hne : st.id ≠ id := fun heq => hdrained (congrArg Move.drained (heq.symm.trans hid))
      simpa [onStream, hne, Move.message?] using hevents
    | _ => simpa [onStream, Move.message?] using hevents

/-- A live subscription that stands after many moves was told of all the news in them. -/
theorem informed_of_trace (h : Trace (Step timeout) s moves s') (hs : s.Kept) {service : String}
    {e : Entry} {told : List Event} (hi : s.Informed service e told) (hlive : e.live ≠ none)
    (hstands : s'.Stands service e.generation) (hdrained : .drained e.generation ∉ moves) :
    s'.Informed service e (told ++ (moves.filterMap Move.message?).flatMap e.news) := by
  have hle : e.generation ≤ s.hub.registry.generation := hs.numbered.entry service (e.after told) hi.entry
  induction h with
  | start => simpa using hi
  | @step moves x y mv htrace hstep ih =>
    rw [List.mem_append, not_or] at hdrained
    have hgeneration : e.generation ≤ x.hub.registry.generation :=
      htrace.keeps (P := fun x => e.generation ≤ x.hub.registry.generation)
        (fun _ _ _ hx hstep => Nat.le_trans hx hstep.generation_le) hle
    have hbefore := ih (hstep.stands hgeneration hstands) hdrained.1
    have hafter := hstep.informed (kept_of_trace htrace hs) hbefore hlive hstands
      fun heq => hdrained.2 (List.mem_singleton.2 heq.symm)
    rw [List.filterMap_append, List.flatMap_append, ← List.append_assoc]
    cases mv <;> exact hafter

theorem Step.informed_of_ended {generation : Nat} {info : SubscriptionInfo}
    (h : Step timeout s (.ended generation (.ok info)) s') (hs : s.Kept) {service : String} {e : Entry}
    (he : s.subscription? service = some e) (hg : e.generation = generation) :
    ∃ feed : Feed, feed.properties = info.properties ∧
      s'.Informed service { e with live := some { schema := info.schema, feed } } [] := by
  have hmove := h
  cases h with
  | @concluded _ a _ _ _ ha hstage hconcluded =>
    cases hconcluded with
    | @established ack version f hversion hcurrent =>
      obtain ⟨hf, hgf⟩ := Registry.entry?_of_current? hcurrent
      cases hs.numbered.unique service _ e f he hf (hg.trans hgf.symm)
      cases he.symm.trans hf
      obtain ⟨st, hst, hempty⟩ := hs.streamed.entry _ e he
      have hnone : e.live = none := (hs.numbered.own _ _ _ e ha he hg).2.2
      have hschema : Schema.read ack = ⟨some version, (Schema.read ack).methods,
          (Schema.read ack).properties⟩ := by rw [← hversion]
      have hbinds := Feed.binds (Schema.read ack) e.path s.hub.registry.nextFeed e.generation
        e.requested s.hub.link
      let feed := (s.hub.registry.establish s.hub.link a.service e (Schema.read ack)).1
      refine ⟨feed, ?_, ?_, st, ?_, ?_⟩
      · exact congrArg (·.properties) hbinds.feed
      · rw [Entry.after_nil]
        refine (Registry.entry?_establish s.hub.registry s.hub.link a.service a.service e
          (Schema.read ack)).trans ?_
        rw [if_pos rfl]
        exact congrArg (fun schema : Schema => some { e with live := some { schema, feed } }) hschema
      · exact hmove.stream_of_kept Move.noConfusion (hs.numbered.entry _ e he) hst
      · exact fun _ => hempty hnone

theorem entriesEndure_of_trace (h : Trace (Step timeout) s moves s') {service : String} {f : Entry}
    (hf : s'.subscription? service = some f) (hle : f.generation ≤ s.hub.registry.generation) :
    ∃ e, s.subscription? service = some e ∧ f = { e with live := f.live } := by
  induction h generalizing f with
  | start => exact ⟨f, hf, rfl⟩
  | @step moves x y mv htrace hstep ih =>
    have hgeneration := generation_le_of_trace htrace
    cases hstep.origin hf with
    | entered _ hnew => omega
    | kept hbefore heq =>
      obtain ⟨e, he, hsame⟩ := ih hbefore (by rwa [heq] at hle)
      refine ⟨e, he, ?_⟩
      rw [heq, hsame]
      rfl
    | established hbefore heq =>
      obtain ⟨e, he, hsame⟩ := ih hbefore (by rwa [heq] at hle)
      refine ⟨e, he, ?_⟩
      rw [heq, hsame]

theorem stands_of_trace (h : Trace (Step timeout) s moves s') {service : String} {generation : Nat}
    (hs : s'.Stands service generation) (hle : generation ≤ s.hub.registry.generation) :
    s.Stands service generation := by
  obtain ⟨f, hf, rfl⟩ := hs
  obtain ⟨e, he, hsame⟩ := entriesEndure_of_trace h hf hle
  refine ⟨e, he, ?_⟩
  rw [hsame]

theorem informed_of_silent (h : Trace (Step timeout) s moves s') (hs : s.Kept) {service : String}
    {e f : Entry} (he : s.subscription? service = some e) (hpending : e.live = none)
    (hsilent : moves.filterMap Move.message? = []) (hdrained : .drained e.generation ∉ moves)
    (hf : s'.subscription? service = some f) (hg : f.generation = e.generation) {live : Live}
    (hlive : f.live = some live) :
    s'.Informed service f [] ∧ live.feed.properties = live.schema.properties := by
  induction h generalizing f live with
  | start =>
    rw [he] at hf
    cases hf
    rw [hpending] at hlive
    cases hlive
  | @step moves x y mv htrace hstep ih =>
    rw [List.filterMap_append, List.append_eq_nil_iff] at hsilent
    rw [List.mem_append, not_or] at hdrained
    have hx := kept_of_trace htrace hs
    have hle : e.generation ≤ x.hub.registry.generation :=
      Nat.le_trans (hs.numbered.entry service e he) (generation_le_of_trace htrace)
    have hmv : mv.message? = none := by
      cases hm : mv.message? with
      | none => rfl
      | some m => simp [hm] at hsilent
    obtain ⟨b, hb, hgb⟩ := hstep.stands hle ⟨f, hf, hg⟩
    cases hlb : b.live with
    | some before =>
      obtain ⟨hi, hproperties⟩ := ih hsilent.1 hdrained.1 hb hgb hlb
      have hne : b.live ≠ none := by
        rw [hlb]
        exact Option.some_ne_none _
      have hafter : y.Informed service b [] := by
        have hinformed := hstep.informed hx hi hne ⟨f, hf, hg.trans hgb.symm⟩ fun heq =>
          hdrained.2 (List.mem_singleton.2 (heq.symm ▸ congrArg Move.drained hgb.symm))
        simpa [hmv] using hinformed
      have hentry := hafter.entry
      rw [hf, Entry.after_nil] at hentry
      cases hentry
      cases hlive.symm.trans hlb
      exact ⟨hafter, hproperties⟩
    | none =>
      cases hstep.origin hf with
      | entered _ hnew => omega
      | kept hbefore heq =>
        cases hb.symm.trans hbefore
        rw [heq, Entry.hear, hlb] at hlive
        cases hlive
      | established hbefore heq _ _ _ _ hmv =>
        cases hb.symm.trans hbefore
        subst hmv
        obtain ⟨feed, hfeed, hafter⟩ := hstep.informed_of_ended hx hb rfl
        have hentry := hafter.entry
        rw [hf, Entry.after_nil] at hentry
        rw [Option.some.inj hentry] at hlive ⊢
        cases hlive
        exact ⟨hafter, hfeed⟩

end Scene
end ServiceLink
