import ServiceLink.Proofs.Client.Timing

/-! What the discovery follows. The stream of its subscription is its own, for callers hold others. While the
subscription stands every push that it asked for comes into the stream, so that what was read and what is
still to be read make up all that was pushed. -/

namespace ServiceLink

/-! ### A stream that is fed -/

theorem Stream.filter_update (streams : List Stream) (stream other : Nat) {f : Stream → Stream}
    (hf : ∀ st, (f st).id = st.id) :
    (update streams other f).filter (·.id = stream) = update (streams.filter (·.id = stream)) other f := by
  unfold update
  rw [List.filter_map]
  congr 1
  refine List.filter_congr fun st _ => ?_
  dsimp only [Function.comp_apply]
  split
  · rw [hf]
  · rfl

namespace Hub

/-- A live subscription feeds its stream with these news, the stream is held, and these events are unread in it. -/
structure Brings (h : Hub) (service : String) (stream : Nat) (news : Rpc.Message → List Event)
    (unread : List Event) : Prop where
  entry : ∃ e, h.registry.entry? service = some e ∧ e.generation = stream ∧ e.live ≠ none ∧ e.news = news
  events : ∃ st, h.streams.filter (·.id = stream) = [st] ∧ st.isHeld ∧ st.events = unread

namespace Brings

variable {h h' : Hub} {service : String} {stream : Nat} {news : Rpc.Message → List Event}
  {unread : List Event}

theorem eventsOf (hb : h.Brings service stream news unread) :
    Stream.eventsOf h.streams stream = unread := by
  obtain ⟨st, hst, -, hevents⟩ := hb.events
  rw [Stream.eventsOf_eq hst, hevents]

theorem isClosed (hb : h.Brings service stream news unread) : h.isClosed stream = false := by
  obtain ⟨e, he, hg, -⟩ := hb.entry
  exact Scene.isClosed_of_stands (s := ⟨h, fun _ => none⟩) he hg

theorem of_same (hb : h.Brings service stream news unread)
    (hentry : h'.registry.entry? service = h.registry.entry? service) (hstreams : h'.streams = h.streams) :
    h'.Brings service stream news unread := by
  constructor
  · rw [hentry]
    exact hb.entry
  · rw [hstreams]
    exact hb.events

theorem release_other (hb : h.Brings service stream news unread) {other : Nat} (hne : other ≠ stream) :
    (h.updateStream other Stream.release).Brings service stream news unread := by
  obtain ⟨st, hst, hheld, hevents⟩ := hb.events
  refine ⟨hb.entry, st, ?_, hheld, hevents⟩
  have hid := Scene.id_of_filter hst
  refine (Stream.filter_update (f := Stream.release) _ _ _ fun _ => rfl).trans ?_
  rw [hst]
  exact congrArg (fun st => [st]) (if_neg fun heq => hne (heq.symm.trans hid))

theorem drain (hb : h.Brings service stream news unread) :
    (h.updateStream stream Stream.drain).Brings service stream news [] := by
  obtain ⟨st, hst, hheld, -⟩ := hb.events
  refine ⟨hb.entry, st.drain, ?_, hheld, rfl⟩
  refine (Stream.filter_update (f := Stream.drain) _ _ _ fun _ => rfl).trans ?_
  rw [hst]
  exact congrArg (fun st => [st]) (if_pos (Scene.id_of_filter hst))

theorem yields {job : Client.Job} (hb : h.Brings service stream news unread)
    (hy : Client.Yields job h h') (hne : job.generation? ≠ some stream)
    (hle : stream ≤ h.registry.generation) : h'.Brings service stream news unread := by
  obtain ⟨e, he, hg, hlive, hnews⟩ := hb.entry
  obtain ⟨new, hstreams, hnew⟩ := hy.streams
  refine ⟨⟨e, hy.entry service e he (hg ▸ hne), hg, hlive, hnews⟩, ?_⟩
  have hnone : new.filter (·.id = stream) = [] := by
    refine List.filter_eq_nil_iff.2 fun st hst hid => ?_
    have hlt := (hnew st hst).2.2
    rw [of_decide_eq_true hid] at hlt
    exact Nat.not_lt.2 hle hlt
  rw [hstreams, List.filter_append, hnone, List.append_nil]
  exact hb.events

end Brings

theorem brings_establish {h : Hub} {e : Entry} {st : Stream} (service : String) (schema : Schema)
    (hst : h.streams.filter (·.id = e.generation) = [st]) (hheld : st.isHeld) (hempty : st.events = []) :
    (h.establish service e schema).Brings service e.generation (schema.news e.path e.requested) [] := by
  have hestablished := Registry.entry?_establish h.registry h.link service service e schema
  rw [if_pos rfl] at hestablished
  exact ⟨⟨_, hestablished, rfl, Option.some_ne_none _, rfl⟩, st, hst, hheld, hempty⟩

end Hub

namespace Scene

variable {timeout : Nat} {s s' : Scene} {service : String} {stream : Nat}
  {news : Rpc.Message → List Event} {unread : List Event}

theorem Step.brings {m : Rpc.Message} (h : Step timeout s (.message m) s') (hk : s.Kept)
    (hb : s.hub.Brings service stream news unread) :
    s'.hub.Brings service stream news (unread ++ news m) := by
  obtain ⟨e, he, hg, hlive, rfl⟩ := hb.entry
  obtain ⟨st, hst, hheld, rfl⟩ := hb.events
  constructor
  · have hstands := h.stays hk.numbered he hlive nofun nofun
    rw [heard_message hk.quiet, (hk.wired.entry service e he).hear_eq m] at hstands
    refine ⟨_, hstands, hg, fun hnone => hlive (Option.map_eq_none_iff.1 hnone), ?_⟩
    exact funext (e.news_after _)
  · have hle : stream ≤ s.hub.registry.generation := hg ▸ hk.numbered.entry service e he
    have hid : st.id = e.generation := (id_of_filter hst).trans hg.symm
    have hheard := onStream_message hk.quiet (hk.wired.entry service e he) hid m
    rw [if_pos hheld] at hheard
    exact ⟨_, h.stream_of_kept nofun hle hst, by rw [hheard]; exact hheld, by rw [hheard]⟩

theorem brings_hearMessage (timeout : Nat) (hk : s.Kept) (hb : s.hub.Brings service stream news unread)
    (messages : List Rpc.Message) :
    (messages.foldl Hub.hearMessage s.hub).Brings service stream news (unread ++ messages.flatMap news) := by
  induction messages generalizing s unread with
  | nil => rwa [List.flatMap_nil, List.append_nil]
  | cons m messages ih =>
    have hstep : Step timeout s (.message m) (s.mapHub (·.hearMessage m)) := .message m
    have hthen := ih (kept_of_trace (.one hstep) hk) (hstep.brings hk hb)
    rwa [List.append_assoc, ← List.flatMap_cons] at hthen

end Scene

namespace Client

variable {timeout : Nat} {c c' : Client} {rest : List (String × Job)} {d : Deed}

theorem brings_handleFrame (h : IsTracked timeout c rest) {service : String} {stream : Nat}
    {news : Rpc.Message → List Event} {unread : List Event}
    (hb : c.hub.Brings service stream news unread) (text : String) :
    (c.handleFrame text).hub.Brings service stream news
      (unread ++ (Rpc.Frame.read text).messages.flatMap news) := by
  obtain ⟨s, hs, hk⟩ := h.tracked
  rw [← hs.hub] at hb
  have hheard := Scene.brings_hearMessage timeout hk hb (Rpc.Frame.read text).messages
  obtain ⟨link, -, hframe⟩ := Hub.handleFrame_eq hk.quiet text
  rw [hs.hub] at hframe hheard
  rw [handleFrame, hframe]
  exact hheard.of_same rfl rfl

/-! ### The streams of callers -/

/-- The discovery's stream is held by no caller and was not released. -/
structure Keeps (c : Client) : Prop where
  held : ∀ stream ∈ c.held.values, ¬ c.MayFollow stream
  released : ∀ st ∈ c.hub.streams, ¬ st.isHeld → ¬ c.MayFollow st.id

/-- The streams that were let go of meanwhile are among the given ones. -/
def LetsGo (given : Nat → Prop) (h h' : Hub) : Prop :=
  ∀ st' ∈ h'.streams, ¬ st'.isHeld → given st'.id ∨ ∃ st ∈ h.streams, st.id = st'.id ∧ ¬ st.isHeld

section

variable {given : Nat → Prop} {h h' h'' : Hub}

theorem LetsGo.of_streams (hstreams : h'.streams = h.streams) : LetsGo given h h' := by
  intro st' hst' hheld
  exact .inr ⟨st', hstreams ▸ hst', rfl, hheld⟩

theorem LetsGo.trans (hl : LetsGo given h h') (hl' : LetsGo given h' h'') : LetsGo given h h'' := by
  intro st'' hst'' hheld
  rcases hl' st'' hst'' hheld with hgiven | ⟨st', hst', hid, hheld'⟩
  · exact .inl hgiven
  · exact hid ▸ hl st' hst' hheld'

theorem LetsGo.mono {more : Nat → Prop} (hl : LetsGo given h h')
    (hmore : ∀ stream, given stream → more stream) : LetsGo more h h' :=
  fun st' hst' hheld => (hl st' hst' hheld).imp_left (hmore _)

theorem letsGo_map {f : Stream → Stream} (hf : ∀ st, (f st).id = st.id ∧ (f st).isHeld = st.isHeld)
    (hstreams : h'.streams = h.streams.map f) : LetsGo given h h' := by
  intro st' hst' hheld
  rw [hstreams] at hst'
  obtain ⟨st, hst, rfl⟩ := List.mem_map.1 hst'
  exact .inr ⟨st, hst, (hf st).1.symm, (hf st).2 ▸ hheld⟩

theorem letsGo_sendAll {events : Stream → List Event}
    (hstreams : h'.streams = h.streams.map fun st => st.sendAll (events st)) : LetsGo given h h' := by
  refine letsGo_map (fun st => ?_) hstreams
  rw [Stream.sendAll_eq]
  split <;> exact ⟨rfl, rfl⟩

theorem letsGo_release (h : Hub) (stream : Nat) :
    LetsGo (· = stream) h (h.updateStream stream Stream.release) := by
  intro st' hst' hheld
  obtain ⟨st, hst, rfl⟩ := List.mem_map.1 hst'
  split
  · rename_i hid
    exact .inl hid
  · rename_i hid
    rw [if_neg hid] at hheld
    exact .inr ⟨st, hst, rfl, hheld⟩

theorem letsGo_drain (h : Hub) (stream : Nat) : LetsGo given h (h.updateStream stream Stream.drain) := by
  refine letsGo_map (fun st => ?_) rfl
  split <;> exact ⟨rfl, rfl⟩

theorem letsGo_yields {job : Job} (hy : Yields job h h') : LetsGo given h h' := by
  obtain ⟨new, hstreams, hnew⟩ := hy.streams
  intro st' hst' hheld
  rw [hstreams] at hst'
  rcases List.mem_append.1 hst' with hst' | hst'
  · exact .inr ⟨st', hst', rfl, hheld⟩
  · exact absurd (hnew st' hst').1 hheld

end

theorem letsGo_abortDiscovery (c : Client) :
    LetsGo (fun stream => c.discovery = some (.following stream)) c.hub c.abortDiscovery.hub := by
  unfold abortDiscovery
  split
  · exact .of_streams rfl
  · rename_i stream hd
    exact (letsGo_release c.hub stream).mono fun _ heq => heq ▸ hd
  · exact .of_streams rfl

theorem letsGo_handleDisconnected (c : Client) :
    LetsGo (fun stream => c.discovery = some (.following stream)) c.hub c.handleDisconnected.hub :=
  (letsGo_abortDiscovery c).trans (letsGo_sendAll (Hub.streams_closeAll _ _))

theorem letsGo_runDiscovery {given : Nat → Prop} (c : Client) : LetsGo given c.hub c.runDiscovery.hub := by
  obtain ⟨job, hub, hturn, hlearns⟩ := (runDiscovery_turn c).learns
  refine (letsGo_yields hturn).trans ?_
  rcases hlearns.streams with hsame | ⟨stream, hdrained⟩
  · exact .of_streams hsame
  · exact (letsGo_drain hub stream).trans (.of_streams hdrained)

theorem dropHeld_client (c : Client) (tag : String) : c.dropHeld tag = c ∨
    ∃ stream ∈ c.held.values, ∃ held,
      c.dropHeld tag = { c with held, hub := c.hub.updateStream stream Stream.release } ∧
        held.values ⊆ c.held.values := by
  unfold dropHeld
  cases hstream : c.held.find? tag with
  | none => exact .inl rfl
  | some stream =>
    refine .inr ⟨stream, Dict.mem_values.2 ⟨tag, hstream⟩, _, rfl, fun other hmem => ?_⟩
    obtain ⟨k, hk⟩ := Dict.mem_values.1 hmem
    rw [Dict.find?_erase] at hk
    split at hk
    · cases hk
    · exact Dict.mem_values.2 ⟨k, hk⟩

theorem find?_giveHeld (c : Client) (tag k : String) (stream : Nat) :
    (c.giveHeld tag stream).held.find? k = if tag = k then some stream else c.held.find? k := by
  unfold giveHeld dropHeld
  rw [Dict.find?_insert]
  split
  · rfl
  · split
    · rfl
    · rw [Dict.find?_erase, if_neg ‹_›]

theorem held_giveHeld {tag : String} {stream other : Nat}
    (h : other ∈ (c.giveHeld tag stream).held.values) : other ∈ c.held.values ∨ other = stream := by
  obtain ⟨k, hk⟩ := Dict.mem_values.1 h
  rw [find?_giveHeld] at hk
  split at hk
  · exact .inr (Option.some.inj hk).symm
  · exact .inl (Dict.mem_values.2 ⟨k, hk⟩)

theorem held_runJob {tag : String} {job : Job} {stream : Nat}
    (h : stream ∈ (c.runJob tag job).held.values) :
    stream ∈ c.held.values ∨ job.generation? = some stream := by
  have hworks := runJob_works c tag job
  generalize c.runJob tag job = c' at hworks h
  cases hworks with
  | asked hopening =>
    obtain ⟨hub, rfl⟩ := hopening.client
    exact .inl h
  | refused hopening =>
    obtain ⟨hub, rfl⟩ := hopening.client
    exact .inl h
  | waits hcontinuing =>
    obtain ⟨hub, rfl⟩ := hcontinuing.client
    exact .inl h
  | @ended service generation ticket result c₁ hcontinuing =>
    cases result with
    | error cause =>
      obtain ⟨hub, rfl⟩ := hcontinuing.client
      exact .inl h
    | ok info =>
      have hstream : info.stream = generation := by
        cases hcontinuing
        rfl
      obtain ⟨hub, rfl⟩ := hcontinuing.client
      rcases held_giveHeld h with hmem | rfl
      · exact .inl hmem
      · exact .inr (congrArg some hstream.symm)
  | describes hbegin =>
    obtain ⟨⟨hub, rfl⟩, -⟩ := beginDescription_client hbegin
    exact .inl h
  | unsent hbegin =>
    obtain ⟨⟨hub, rfl⟩, -⟩ := beginDescription_client hbegin
    exact .inl h
  | looked => exact .inl h
  | described => exact .inl h
  | rejected => exact .inl h

theorem IsTracked.follows {messages : List Rpc.Message} {rest' : List (String × Job)} (h : IsTracked timeout c rest)
    (hmoves : Moves timeout c rest messages c' rest') (stream : Nat) (hm : c'.MayFollow stream) :
    c.MayFollow stream := by
  obtain ⟨s, hs, -⟩ := h.tracked
  obtain ⟨moves, s', -, -, -, htold⟩ := hmoves s hs
  exact htold.follows stream hm

theorem Keeps.of_letsGo (h : c.Keeps) (hfollows : ∀ stream, c'.MayFollow stream → c.MayFollow stream)
    (hheld : ∀ stream ∈ c'.held.values, stream ∈ c.held.values ∨ ¬ c'.MayFollow stream)
    (hstreams : LetsGo (fun stream => ¬ c'.MayFollow stream) c.hub c'.hub) : c'.Keeps := by
  refine ⟨fun stream hmem => ?_, fun st' hst' hreleased => ?_⟩
  · rcases hheld stream hmem with hmem | hnot
    · exact fun hm => h.held stream hmem (hfollows stream hm)
    · exact hnot
  · rcases hstreams st' hst' hreleased with hnot | ⟨st, hst, hid, hbefore⟩
    · exact hnot
    · exact fun hm => h.released st hst hbefore (hid ▸ hfollows _ hm)

theorem IsTracked.not_mayFollow_of_aborted (h : IsTracked timeout c []) {stream : Nat}
    (hd : c.discovery = some (.following stream)) (hnone : c'.discovery.bind Discovery.stream? = none)
    (hgeneration : c.registry.generation ≤ c'.registry.generation) : ¬ c'.MayFollow stream := by
  obtain ⟨s, hs, -⟩ := h.tracked
  have hle := (hs.following stream hd).1
  rw [hs.hub] at hle
  rintro (hm | hlt)
  · cases hnone.symm.trans hm
  · exact Nat.not_lt.2 (Nat.le_trans hle hgeneration) hlt

theorem Keeps.of_aborted (h : c.Keeps) (htracked : IsTracked timeout c []) (hdoes : Does c d c')
    (hnone : c'.discovery.bind Discovery.stream? = none) (hheld : c'.held = c.held)
    (hstreams : LetsGo (fun stream => c.discovery = some (.following stream)) c.hub c'.hub) :
    c'.Keeps := by
  have hreserves := hdoes.reserves htracked
  refine h.of_letsGo (htracked.follows hdoes.moves) (fun stream hmem => .inl (hheld ▸ hmem))
    (hstreams.mono fun stream hd => ?_)
  exact htracked.not_mayFollow_of_aborted hd hnone hreserves.generation

theorem discovery_handleStatus {s : Status} (hs : s = .connected ∨ s = .notConnected) :
    (c.handleStatus s).discovery.bind Discovery.stream? = none := by
  rcases hs with rfl | rfl
  · rfl
  · exact congrArg (·.bind Discovery.stream?) (discovery_handleDisconnected c)

theorem Keeps.of_same (h : c.Keeps) (htracked : IsTracked timeout c []) (hdoes : Does c d c')
    (hheld : c'.held = c.held) (hstreams : c'.hub.streams = c.hub.streams) : c'.Keeps :=
  h.of_letsGo (htracked.follows hdoes.moves) (fun _ hmem => .inl (hheld ▸ hmem)) (.of_streams hstreams)

theorem Keeps.acted (h : c.Keeps) (htracked : IsTracked timeout c []) {a : Action} (ha : ∀ ms, a ≠ .advance ms) :
    (c.act a).2.Keeps := by
  have hdoes : Does c _ (c.act a).2 := .acted ha
  have hfollows := htracked.follows hdoes.moves
  have hacts := act_onConnection c ha
  generalize (c.act a).2 = c' at hdoes hfollows hacts ⊢
  cases hacts with
  | ordinary _ hkept _ hheld => exact h.of_same htracked hdoes hheld hkept.streams
  | forced => exact h.of_same htracked hdoes rfl rfl
  | heard text =>
    refine h.of_letsGo hfollows (fun stream hmem => .inl hmem) (letsGo_map (fun st => ?_) rfl)
    rw [Stream.hear_eq_sendAll, Stream.sendAll_eq]
    split <;> exact ⟨rfl, rfl⟩
  | connected =>
    obtain ⟨hub, discovery, hclient⟩ := hubOnly_handleConnected c
    exact h.of_aborted htracked hdoes rfl (congrArg (·.held) hclient) (letsGo_abortDiscovery c)
  | disconnected =>
    obtain ⟨hub, discovery, hclient⟩ := hubOnly_handleDisconnected c
    exact h.of_aborted htracked hdoes (discovery_handleStatus (.inr rfl)) (congrArg (·.held) hclient)
      (letsGo_handleDisconnected c)
  | shutdown =>
    obtain ⟨hub, discovery, hclient⟩ := hubOnly_handleDisconnected c.unhosted
    exact h.of_aborted htracked hdoes (discovery_handleStatus (c := c.unhosted) (.inr rfl))
      (congrArg (·.held) hclient) (letsGo_handleDisconnected c.unhosted)
  | letGo tag =>
    rcases dropHeld_client c tag with hnone | ⟨stream, hstream, held, hsome, hfewer⟩
    · rw [hnone]
      exact h
    · rw [hsome] at hfollows ⊢
      refine h.of_letsGo hfollows (fun other hmem => .inl (hfewer hmem)) ((letsGo_release _ _).mono ?_)
      exact fun other heq hm => h.held other (heq ▸ hstream) (hfollows other hm)

theorem Keeps.told (h : c.Keeps) (htracked : IsTracked timeout c []) (s : Status) : (c.handleStatus s).Keeps := by
  have hdoes : Does c _ (c.handleStatus s) := .told s
  obtain ⟨hub, discovery, hclient⟩ := hubOnly_handleStatus c s
  have hheld : (c.handleStatus s).held = c.held := congrArg (·.held) hclient
  cases s with
  | connected => exact h.of_aborted htracked hdoes rfl hheld (letsGo_abortDiscovery c)
  | notConnected =>
    exact h.of_aborted htracked hdoes (discovery_handleStatus (.inr rfl)) hheld (letsGo_handleDisconnected c)
  | connecting | ready | disconnecting => exact h

theorem Keeps.worked (h : c.Keeps) (htracked : IsTracked timeout c []) {before after : List (String × Job)}
    {tag : String} {job : Job} (hjobs : c.jobs = before ++ (tag, job) :: after) :
    ((c.withJobs (before ++ after)).runJob tag job).Keeps := by
  have hdoes : Does c _ ((c.withJobs (before ++ after)).runJob tag job) := .worked hjobs
  have hfollows := htracked.follows hdoes.moves
  let aside : Client := c.withJobs (before ++ after)
  have hyields := yields_worked aside job
  refine h.of_letsGo hfollows (fun stream hmem => ?_) ?_
  · refine (held_runJob hmem).imp_right fun hown hm => ?_
    have htracked' : IsTracked timeout aside [(tag, job)] := htracked.of_perm rfl rfl rfl (perm_of_middle hjobs)
    obtain ⟨s, hs, -⟩ := htracked'.tracked
    obtain ⟨w, hw, rfl⟩ := Option.map_eq_some_iff.1 hown
    cases job with
    | acknowledgement service generation ticket =>
      cases hw
      exact hs.not_mayFollow (List.mem_append_right _ List.mem_cons_self) (hfollows _ hm)
    | _ => cases hw
  · rcases hub_runJob aside tag job with hhub | ⟨stream, hstream, hhub⟩
    · exact hhub ▸ letsGo_yields hyields
    · have hreleased : LetsGo (· = stream) (aside.worked job).hub (aside.runJob tag job).hub :=
        hhub ▸ letsGo_release _ _
      refine ((letsGo_yields hyields).trans hreleased).mono ?_
      exact fun other heq hm =>
        h.held other (Dict.mem_values.2 ⟨tag, heq ▸ hstream⟩) (hfollows other hm)

theorem Keeps.deed (h : c.Keeps) (htracked : IsTracked timeout c []) (hdoes : Does c d c') : c'.Keeps := by
  have hsame := h.of_same htracked hdoes
  have hfollows := htracked.follows hdoes.moves
  cases hdoes with
  | acted ha => exact h.acted htracked ha
  | advanced => exact h
  | told s => exact h.told htracked s
  | emptied => exact hsame rfl rfl
  | polled =>
    unfold runMonitor at hsame ⊢
    split at hsame <;> exact hsame rfl rfl
  | discovered =>
    obtain ⟨hub, discovery, hclient⟩ := hubOnly_runDiscovery c
    have hheld : c.runDiscovery.held = c.held := congrArg (·.held) hclient
    exact h.of_letsGo hfollows (fun stream hmem => .inl (hheld ▸ hmem)) (letsGo_runDiscovery c)
  | worked hjobs => exact h.worked htracked hjobs
  | swept => exact hsame rfl rfl
  | timed => exact hsame rfl rfl

theorem keeps_of_new {endpoint : String} {options : Options} (hnew : Client.new endpoint options = .ok c)
    (inBackground : Bool) : (c.started inBackground).Keeps := by
  obtain ⟨hhub, -⟩ := started_of_new hnew inBackground
  have hheld : (c.started inBackground).held = .empty := by
    unfold Client.new at hnew
    cases hcheck : options.check endpoint with
    | error cause =>
      rw [hcheck] at hnew
      cases hnew
    | ok url =>
      rw [hcheck] at hnew
      cases hnew
      cases inBackground <;> rfl
  refine ⟨?_, ?_⟩
  · rw [hheld]
    exact nofun
  · rw [hhub]
    exact nofun

/-! ### What is read -/

/-- The discovery follows a stream with these news. Once it has read what is in it, the service list is this. -/
structure Follows (c : Client) (stream : Nat) (news : Rpc.Message → List Event) (services : ServiceList) :
    Prop where
  discovery : c.discovery = some (.following stream)
  unread : ∃ unread, c.hub.Brings ServiceList.discoveryName stream news unread ∧ .ended ∉ unread ∧
    unread.foldl listed c.registry.services = services

namespace Follows

variable {stream : Nat} {news : Rpc.Message → List Event} {services : ServiceList}

theorem of_brings (h : c.Follows stream news services) (hdiscovery : c'.discovery = c.discovery)
    (hservices : c'.registry.services = c.registry.services)
    (hbrings : ∀ unread, c.hub.Brings ServiceList.discoveryName stream news unread →
      c'.hub.Brings ServiceList.discoveryName stream news unread) : c'.Follows stream news services := by
  obtain ⟨unread, hunread, hended, hthen⟩ := h.unread
  exact ⟨hdiscovery.trans h.discovery, unread, hbrings unread hunread, hended, hservices ▸ hthen⟩

theorem of_same (h : c.Follows stream news services) (hdiscovery : c'.discovery = c.discovery)
    (hregistry : c'.registry = c.registry) (hstreams : c'.hub.streams = c.hub.streams) :
    c'.Follows stream news services :=
  h.of_brings hdiscovery (congrArg (·.services) hregistry) fun _ hb =>
    hb.of_same (congrArg (fun r => r.entry? ServiceList.discoveryName) hregistry) hstreams

theorem mayFollow (h : c.Follows stream news services) : c.MayFollow stream := by
  refine .inl ?_
  rw [h.discovery]
  rfl

theorem handleFrame (h : c.Follows stream news services) (htracked : IsTracked timeout c [])
    (hnews : ∀ m, .ended ∉ news m) (text : String) :
    (c.handleFrame text).Follows stream news
      (((Rpc.Frame.read text).messages.flatMap news).foldl listed services) := by
  obtain ⟨unread, hunread, hended, hthen⟩ := h.unread
  refine ⟨h.discovery, _, brings_handleFrame htracked hunread text, ?_, ?_⟩
  · rw [List.mem_append, List.mem_flatMap]
    rintro (hmem | ⟨m, -, hmem⟩)
    · exact hended hmem
    · exact hnews m hmem
  · rw [List.foldl_append, ← hthen]
    rfl

theorem follow (h : c.Follows stream news services) : (c.follow stream).Follows stream news services := by
  obtain ⟨unread, hunread, hended, hthen⟩ := h.unread
  obtain ⟨discovery, hclient, -, hstays⟩ := follow_client c stream
  rw [hunread.eventsOf] at hclient hstays
  have hdiscovery := hstays hended hunread.isClosed
  rw [hclient]
  exact ⟨hdiscovery.trans h.discovery, [], hunread.drain.of_same rfl rfl, List.not_mem_nil, hthen⟩

theorem runDiscovery (h : c.Follows stream news services) : c.runDiscovery.Follows stream news services := by
  have hrun : c.runDiscovery = c.follow stream := by
    unfold Client.runDiscovery
    rw [h.discovery]
  exact hrun ▸ h.follow

theorem worked (h : c.Follows stream news services) (htracked : IsTracked timeout c []) (hkeeps : c.Keeps)
    {before after : List (String × Job)} {tag : String} {job : Job}
    (hjobs : c.jobs = before ++ (tag, job) :: after) :
    ((c.withJobs (before ++ after)).runJob tag job).Follows stream news services := by
  let aside : Client := c.withJobs (before ++ after)
  have htracked' : IsTracked timeout aside [(tag, job)] := htracked.of_perm rfl rfl rfl (perm_of_middle hjobs)
  obtain ⟨s, hs, -⟩ := htracked'.tracked
  obtain ⟨hle, -⟩ := hs.following stream h.discovery
  rw [hs.hub] at hle
  have hyields := yields_worked aside job
  have hworked := runJob_worked aside tag job
  refine h.of_brings hworked.discovery ?_ fun unread hunread => ?_
  · rw [hworked.registry]
    exact congrArg Prod.fst hyields.catalog
  · have hthen : (aside.worked job).hub.Brings ServiceList.discoveryName stream news unread :=
      hunread.yields hyields (hs.generation_ne_following h.discovery) hle
    rcases hub_runJob aside tag job with hhub | ⟨other, hother, hhub⟩
    · exact hhub ▸ hthen
    · refine hhub ▸ hthen.release_other ?_
      rintro rfl
      exact hkeeps.held other (Dict.mem_values.2 ⟨tag, hother⟩) h.mayFollow

theorem deed (h : c.Follows stream news services) (hnews : ∀ m, .ended ∉ news m) (htracked : IsTracked timeout c [])
    (hkeeps : c.Keeps) (hdoes : Does c d c') (hhandled : d.handled? = none)
    (hends : ¬ d.Ends ServiceList.discoveryName) :
    c'.Follows stream news ((d.messages.flatMap news).foldl listed services) := by
  cases hdoes with
  | @acted a ha =>
    have hacts := act_onConnection c ha
    generalize (c.act a).2 = c' at hacts ⊢
    cases hacts with
    | ordinary hordinary hkept hdiscovery =>
      have hsilent : (Deed.acted a (c.brokenBy a)).messages = [] := by
        cases a with
        | frame text => exact absurd hordinary id
        | _ => rfl
      have hother : ¬ a.Ends ServiceList.discoveryName := fun heq => hends (.inl (congrArg some heq))
      rw [hsilent]
      exact h.of_brings hdiscovery (congrArg Prod.fst hkept.catalog) fun unread hunread =>
        hunread.of_same (hkept.entry_eq hother) hkept.streams
    | forced => exact h.of_same rfl rfl rfl
    | heard text => exact h.handleFrame htracked hnews text
    | connected => cases hhandled
    | disconnected => cases hhandled
    | shutdown => cases hhandled
    | letGo tag =>
      rcases dropHeld_client c tag with hnone | ⟨other, hother, held, hsome, -⟩
      · rw [hnone]
        exact h
      · rw [hsome]
        refine h.of_brings rfl rfl fun unread hunread => hunread.release_other ?_
        rintro rfl
        exact hkeeps.held other hother h.mayFollow
  | advanced => exact h
  | told s =>
    cases s with
    | connected => cases hhandled
    | notConnected => cases hhandled
    | _ => exact h
  | emptied => exact h.of_same rfl rfl rfl
  | polled =>
    unfold runMonitor
    split <;> exact h.of_same rfl rfl rfl
  | discovered => exact h.runDiscovery
  | worked hjobs => exact h.worked htracked hkeeps hjobs
  | swept => exact h.of_same rfl rfl rfl
  | timed => exact h.of_same rfl rfl rfl

theorem services_eq (h : c.Follows stream news services) (hsettled : c.IsSettled) :
    c.registry.services = services := by
  obtain ⟨unread, hunread, -, hthen⟩ := h.unread
  have hrests : Discovery.Rests c (.following stream) := hsettled.discovery _ h.discovery
  have hnone : unread = [] := hunread.eventsOf.symm.trans (congrArg Prod.fst hrests)
  rwa [hnone] at hthen

end Follows

end Client
end ServiceLink
