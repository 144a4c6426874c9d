import ServiceLink.Proofs.Client.Acknowledging
import ServiceLink.Client.Action

/-! Whatever a client does is a sequence of moves in a scene. Its waiting jobs and its discovery are
attempts there, and the messages of the moves are those of the frames it got. -/

namespace ServiceLink

namespace Scene

variable {timeout : Nat} {s s' : Scene} {mv : Move} {moves moves' : List Move}

theorem pushes_of_deliveries {l l' : Link Handler} (h : l'.deliveries = l.deliveries)
    (hq : l.pushes = []) : l'.pushes = [] := by
  rw [Link.pushes, h]
  exact hq

structure Orderly (timeout : Nat) (s : Scene) : Prop where
  numbered : s.Numbered
  quiet : s.hub.link.pushes = []
  timeout : s.hub.link.settings.callTimeout = timeout

theorem Step.settings (h : Step timeout s mv s') : s'.hub.link.settings = s.hub.link.settings := by
  cases h with
  | calls _ _ hlink => exact hlink.settings
  | message m => exact Link.settings_receive s.hub.link m
  | aside _ _ _ hlink => exact hlink.settings
  | @unasked _ now a cause link _ _ hcall =>
    have hsame := (Link.call_settles s.hub.link now (a.path ++ Client.subscribeMethod) none).unheard
    exact (congrArg (·.2.settings) hcall).symm.trans hsame.settings
  | @asked _ now a receipt link _ _ hcall =>
    have hsame := (Link.call_settles s.hub.link now (a.path ++ Client.subscribeMethod) none).unheard
    exact (congrArg (·.2.settings) hcall).symm.trans hsame.settings
  | concluded _ _ hconcluded =>
    cases hconcluded with
    | established => exact (Hub.rewired_establish _ _ _ _).settings
    | _ => rfl
  | unsubscribed _ hlink => exact hlink.settings.trans (Entry.rewired_unbind _ s.hub.link).settings
  | disconnected => exact (Hub.rewired_closeAll { s.hub with registry := s.hub.registry.reset } _).settings
  | _ => rfl

theorem Step.quiet (h : Step timeout s mv s') (hq : s.hub.link.pushes = []) :
    s'.hub.link.pushes = [] := by
  cases h with
  | calls _ _ hlink => exact pushes_of_deliveries hlink.deliveries hq
  | message m => exact Link.pushes_withoutPushes _
  | aside _ _ _ hlink => exact pushes_of_deliveries hlink.deliveries hq
  | @unasked _ now a cause link _ _ hcall =>
    have hsame := (Link.call_settles s.hub.link now (a.path ++ Client.subscribeMethod) none).unheard
    exact pushes_of_deliveries ((congrArg (·.2.deliveries) hcall).symm.trans hsame.deliveries) hq
  | @asked _ now a receipt link _ _ hcall =>
    have hsame := (Link.call_settles s.hub.link now (a.path ++ Client.subscribeMethod) none).unheard
    exact pushes_of_deliveries ((congrArg (·.2.deliveries) hcall).symm.trans hsame.deliveries) hq
  | concluded _ _ hconcluded =>
    cases hconcluded with
    | established => exact pushes_of_deliveries (Hub.rewired_establish _ _ _ _).deliveries hq
    | _ => exact hq
  | unsubscribed _ hlink =>
    have hsame := hlink.deliveries.trans (Entry.rewired_unbind _ s.hub.link).deliveries
    exact pushes_of_deliveries hsame hq
  | disconnected =>
    exact pushes_of_deliveries
      (Hub.rewired_closeAll { s.hub with registry := s.hub.registry.reset } _).deliveries hq
  | _ => exact hq

theorem Step.orderly (h : Step timeout s mv s') (ho : s.Orderly timeout) : s'.Orderly timeout where
  numbered := h.numbered ho.numbered
  quiet := h.quiet ho.quiet
  timeout := h.settings ▸ ho.timeout

theorem orderly_start (settings : Link.Settings) :
    (start settings).Orderly settings.callTimeout :=
  ⟨numbered_start settings, rfl, rfl⟩

end Scene
namespace Client

open Scene (Step Orderly)

/-- An attempt that waits for the answer of the server. -/
structure Waiting where
  service : String
  generation : Nat
  ticket : Ticket

def Job.waiting? : Job → Option Waiting
  | .acknowledgement service generation ticket => some ⟨service, generation, ticket⟩
  | _ => none

def Discovery.waiting? : Discovery → Option Waiting
  | .acknowledgement generation ticket => some ⟨ServiceList.discoveryName, generation, ticket⟩
  | _ => none

/-- The stream that a discovery follows or waits for. -/
def Discovery.stream? : Discovery → Option Nat
  | .subscribe => none
  | .acknowledgement generation _ => some generation
  | .following stream => some stream

/-- Whether the discovery may come to read a stream; every stream to come may become its own. -/
def MayFollow (c : Client) (stream : Nat) : Prop :=
  c.discovery.bind Discovery.stream? = some stream ∨ c.hub.registry.generation < stream

/-- The attempts of a client that wait, with those of jobs that were set aside. -/
def waiting (c : Client) (rest : List (String × Job)) : List Waiting :=
  (c.jobs ++ rest).filterMap (·.2.waiting?) ++ (c.discovery.bind Discovery.waiting?).toList

def Waiting.IsIn (w : Waiting) (s : Scene) : Prop :=
  ∃ a, s.attempts w.generation = some a ∧ a.service = w.service ∧ a.stage = .asked w.ticket

/-- A client and a scene have one hub, and what waits in the client is under way in the scene. -/
structure Tracks (timeout : Nat) (c : Client) (rest : List (String × Job)) (s : Scene) : Prop where
  orderly : s.Orderly timeout
  hub : s.hub = c.hub
  waiting : ∀ w ∈ c.waiting rest, w.IsIn s
  distinct : ((c.waiting rest).map (·.generation)).Nodup
  following : ∀ stream, c.discovery = some (.following stream) →
    stream ≤ s.hub.registry.generation ∧ s.attempts stream = none

/-- An attempt ended with this subscription, and its stream was not drained since. -/
def Gives (info : SubscriptionInfo) (moves : List Move) : Prop :=
  ∃ before after, moves = before ++ .ended info.stream (.ok info) :: after ∧
    .drained info.stream ∉ after

theorem Gives.prepend {info : SubscriptionInfo} {moves : List Move} (h : Gives info moves)
    (earlier : List Move) : Gives info (earlier ++ moves) := by
  obtain ⟨before, after, rfl, hdrained⟩ := h
  exact ⟨earlier ++ before, after, (List.append_assoc _ _ _).symm, hdrained⟩

theorem Gives.append {info : SubscriptionInfo} {moves later : List Move} (h : Gives info moves)
    (hlater : .drained info.stream ∉ later) : Gives info (moves ++ later) := by
  obtain ⟨before, after, rfl, hdrained⟩ := h
  refine ⟨before, after ++ later, by simp, fun hmem => ?_⟩
  exact (List.mem_append.1 hmem).elim hdrained hlater

/-- The results of subscribing are the ends of attempts, or refusals, and no stream is read but by the
discovery, which does not read those of callers. -/
structure Told (c : Client) (moves : List Move) (c' : Client) : Prop where
  refused : ∀ tag cause, (tag, .refused cause) ∈ c'.results →
    (tag, .refused cause) ∈ c.results ∨ .refused cause ∈ moves ∨
      ∃ generation, .ended generation (.error cause) ∈ moves
  subscribed : ∀ tag info, (tag, .subscribed info) ∈ c'.results →
    (tag, .subscribed info) ∈ c.results ∨ Gives info moves ∧ ¬ c'.MayFollow info.stream
  follows : ∀ stream, c'.MayFollow stream → c.MayFollow stream
  drained : ∀ stream, .drained stream ∈ moves → c.MayFollow stream

theorem told_of_results {c c' : Client} {moves : List Move} (h : c'.results = c.results)
    (hfollows : ∀ stream, c'.MayFollow stream → c.MayFollow stream)
    (hdrained : ∀ stream, .drained stream ∈ moves → c.MayFollow stream) : Told c moves c' := by
  refine ⟨fun tag cause hmem => .inl ?_, fun tag info hmem => .inl ?_, hfollows, hdrained⟩ <;>
    rwa [← h]

/-- The discovery stays as it was, or loses its stream. -/
def Retires (c c' : Client) : Prop :=
  c'.discovery = c.discovery ∨ c'.discovery.bind Discovery.stream? = none

theorem Retires.mayFollow {c c' : Client} (h : c.Retires c')
    (hle : c.hub.registry.generation ≤ c'.hub.registry.generation) (stream : Nat)
    (hm : c'.MayFollow stream) : c.MayFollow stream := by
  rcases hm with hm | hlt
  · rcases h with h | h
    · exact .inl (h ▸ hm)
    · rw [h] at hm
      cases hm
  · exact .inr (Nat.lt_of_le_of_lt hle hlt)

theorem Retires.following {c c' : Client} (h : c.Retires c') {stream : Nat}
    (hf : c'.discovery = some (.following stream)) : c.discovery = some (.following stream) := by
  rcases h with h | h
  · exact h ▸ hf
  · rw [hf] at h
    cases h

theorem Told.trans {c c' c'' : Client} {moves moves' : List Move} (h : Told c moves c')
    (h' : Told c' moves' c'') : Told c (moves ++ moves') c'' := by
  refine ⟨fun tag cause hmem => ?_, fun tag info hmem => ?_, ?_, ?_⟩
  · rcases h'.refused tag cause hmem with hmem | hmem | ⟨g, hmem⟩
    · rcases h.refused tag cause hmem with hmem | hmem | ⟨g, hmem⟩
      · exact .inl hmem
      · exact .inr (.inl (List.mem_append_left _ hmem))
      · exact .inr (.inr ⟨g, List.mem_append_left _ hmem⟩)
    · exact .inr (.inl (List.mem_append_right _ hmem))
    · exact .inr (.inr ⟨g, List.mem_append_right _ hmem⟩)
  · rcases h'.subscribed tag info hmem with hmem | ⟨hgives, hfollow⟩
    · rcases h.subscribed tag info hmem with hmem | ⟨hgives, hfollow⟩
      · exact .inl hmem
      · exact .inr ⟨hgives.append fun hmem => hfollow (h'.drained _ hmem),
          fun hm => hfollow (h'.follows _ hm)⟩
    · exact .inr ⟨hgives.prepend moves, hfollow⟩
  · exact fun stream hm => h.follows stream (h'.follows stream hm)
  · intro stream hmem
    rcases List.mem_append.1 hmem with hmem | hmem
    · exact h.drained stream hmem
    · exact h.follows stream (h'.drained stream hmem)

/-- From every scene that tracks the first client, moves with these messages lead to one that tracks
the second. -/
def Moves (timeout : Nat) (c : Client) (rest : List (String × Job)) (messages : List Rpc.Message)
    (c' : Client) (rest' : List (String × Job)) : Prop :=
  ∀ s, Tracks timeout c rest s → ∃ moves s', Trace (Step timeout) s moves s' ∧
    Tracks timeout c' rest' s' ∧ moves.filterMap Move.message? = messages ∧ Told c moves c'

variable {timeout : Nat} {c c' c'' : Client} {rest rest' rest'' : List (String × Job)}
  {messages messages' : List Rpc.Message}

theorem Moves.trans (h : Moves timeout c rest messages c' rest')
    (h' : Moves timeout c' rest' messages' c'' rest'') :
    Moves timeout c rest (messages ++ messages') c'' rest'' := by
  intro s hs
  obtain ⟨moves, s', ht, hs', hm, hr⟩ := h s hs
  obtain ⟨moves', s'', ht', hs'', hm', hr'⟩ := h' s' hs'
  exact ⟨moves ++ moves', s'', ht.append ht', hs'', by rw [List.filterMap_append, hm, hm'],
    hr.trans hr'⟩

theorem Moves.then (h : Moves timeout c rest [] c' rest')
    (h' : Moves timeout c' rest' messages c'' rest'') : Moves timeout c rest messages c'' rest'' :=
  h.trans h'

/-- Nothing new waits in a client, nobody has got a result, and the discovery has no new stream. -/
structure NothingNew (c : Client) (rest : List (String × Job)) (c' : Client)
    (rest' : List (String × Job)) : Prop where
  waiting : (c'.waiting rest').Sublist (c.waiting rest)
  results : c'.results = c.results
  retires : c.Retires c'

theorem moves_of_hub (hhub : c'.hub = c.hub) (h : c.NothingNew rest c' rest') :
    Moves timeout c rest [] c' rest' := by
  intro s hs
  refine ⟨[], s, .start, ⟨hs.orderly, hs.hub.trans hhub.symm, ?_, ?_, ?_⟩, rfl,
    told_of_results h.results (h.retires.mayFollow ?_) ?_⟩
  · exact fun w hmem => hs.waiting w (h.waiting.subset hmem)
  · exact hs.distinct.sublist (h.waiting.map _)
  · exact fun stream hf => hs.following stream (h.retires.following hf)
  · exact Nat.le_of_eq (congrArg (·.registry.generation) hhub.symm)
  · exact fun stream hmem => by cases hmem

theorem moves_refl (timeout : Nat) (c : Client) (rest : List (String × Job)) :
    Moves timeout c rest [] c rest := moves_of_hub rfl ⟨.refl _, rfl, .inl rfl⟩

theorem moves_foldl {α : Type} {f : Client → α → Client}
    (hf : ∀ c a, Moves timeout c rest [] (f c a) rest) (as : List α) (c : Client) :
    Moves timeout c rest [] (as.foldl f c) rest := by
  induction as generalizing c with
  | nil => exact moves_refl timeout c rest
  | cons a as ih => exact (hf c a).then (ih _)

theorem moves_of_step {mv : Move}
    (hstep : ∀ s : Scene, s.Orderly timeout → s.hub = c.hub → Step timeout s mv { s with hub := c'.hub })
    (h : c.NothingNew rest c' rest') (hdrained : ∀ stream, mv = .drained stream → c.MayFollow stream) :
    Moves timeout c rest (mv.message?.toList) c' rest' := by
  intro s hs
  have hmove := hstep s hs.orderly hs.hub
  have hle : s.hub.registry.generation ≤ c'.hub.registry.generation := hmove.generation_le
  refine ⟨[mv], _, .one hmove, ⟨hmove.orderly hs.orderly, rfl, ?_, ?_, ?_⟩, ?_,
    told_of_results h.results (h.retires.mayFollow (hs.hub ▸ hle)) fun stream hmem => ?_⟩
  · exact fun w hmem => hs.waiting w (h.waiting.subset hmem)
  · exact hs.distinct.sublist (h.waiting.map _)
  · intro stream hf
    obtain ⟨hold, hnone⟩ := hs.following stream (h.retires.following hf)
    exact ⟨Nat.le_trans hold hle, hnone⟩
  · cases mv <;> rfl
  · exact hdrained stream (List.mem_singleton.1 hmem).symm

/-! ### The way of an attempt -/

structure Went (timeout : Nat) (c : Client) (s : Scene) (moves : List Move) (s' : Scene) (c' : Client) :
    Prop where
  trace : Trace (Step timeout) s moves s'
  client : c' = { c with hub := s'.hub }
  silent : moves.filterMap Move.message? = []
  undrained : ∀ stream, .drained stream ∉ moves

/-- What `beginSubscription` comes to: the request is sent, or the attempt is over. -/
def Begun (timeout : Nat) (c : Client) (s : Scene) (service : String) :
    Except SubscriptionError (Nat × Ticket) → Client → Prop
  | .error cause, c' => ∃ moves s', Went timeout c s moves s' c' ∧
      (∀ g ≤ s.hub.registry.generation, s'.attempts g = s.attempts g) ∧
      (.refused cause ∈ moves ∨ ∃ g, .ended g (.error cause) ∈ moves)
  | .ok (generation, ticket), c' => ∃ moves s', Went timeout c s moves s' c' ∧
      (∀ g ≤ s.hub.registry.generation, s'.attempts g = s.attempts g) ∧
      generation = s.hub.registry.generation + 1 ∧
      Waiting.IsIn ⟨service, generation, ticket⟩ s'

theorem begun_of_entered {s : Scene} (hs : s.hub = c.hub) {service : String}
    {d : ServiceDescriptor} (requested : List String)
    (hfind : c.registry.services.find? service = some d)
    (hnone : c.registry.entry? service = none) {result : Except LinkError Receipt}
    {link : Link Handler}
    (hcall : (c.hub.insert service d.path requested).link.call c.now
      (d.path ++ subscribeMethod) none = (result, link)) :
    let generation := c.registry.generation + 1
    let entered := { c.hub.insert service d.path requested with link }
    match result with
    | .ok receipt =>
      Begun timeout c s service (.ok (generation, receipt.ticket)) { c with hub := entered }
    | .error cause =>
      Begun timeout c s service (.error (.link service cause))
        { c with hub := { entered with registry := entered.registry.discard service generation } } := by
  obtain ⟨hub, attempts⟩ := s
  cases hs
  intro generation entered
  have hpath : (c.hub.registry.services.find? service).map (·.path) = some d.path :=
    congrArg (Option.map (·.path)) hfind
  let a : Attempt := ⟨service, d.path, .entered⟩
  let s₁ := (Scene.mapHub ⟨c.hub, attempts⟩ (·.insert service d.path requested)).setStage
    generation a .entered
  have h₁ : Step timeout ⟨c.hub, attempts⟩ (.entered generation service d.path requested) s₁ :=
    .entered requested hpath hnone
  have ha : s₁.attempts generation = some a := Function.update_self _ _ attempts
  have hold : ∀ g ≤ c.hub.registry.generation, g ≠ generation := fun g hg =>
    Nat.ne_of_lt (Nat.lt_succ_of_le hg)
  cases result with
  | ok receipt =>
    have h₂ : Step timeout s₁ (.asked generation c.now receipt) _ := .asked ha rfl hcall
    refine ⟨_, _, ⟨.step (.one h₁) h₂, rfl, rfl, by simp⟩, fun g hg => ?_, rfl, ?_⟩
    · exact (Function.update_of_ne (hold g hg) _ _).trans (Function.update_of_ne (hold g hg) _ _)
    · exact ⟨_, Function.update_self _ _ _, rfl, rfl⟩
  | error cause =>
    have h₂ : Step timeout s₁ (.unasked generation cause) _ := .unasked ha rfl hcall
    refine ⟨_, _, ⟨.step (.step (.one h₁) h₂) (.failed (Function.update_self _ _ _) rfl), rfl, rfl,
      by simp⟩, fun g hg => ?_, .inr ⟨generation, ?_⟩⟩
    · exact (Function.update_of_ne (hold g hg) _ _).trans
        ((Function.update_of_ne (hold g hg) _ _).trans (Function.update_of_ne (hold g hg) _ _))
    · exact List.mem_append_right _ List.mem_cons_self

theorem beginSubscription_begun {s : Scene} (hs : s.hub = c.hub) (service : String)
    (requested : List String) :
    Begun timeout c s service (c.beginSubscription service requested).1
      (c.beginSubscription service requested).2 := by
  have hself : c = { c with hub := s.hub } := by rw [hs]
  unfold beginSubscription
  cases hfind : c.registry.services.find? service with
  | none =>
    have hfind' : s.hub.registry.services.find? service = none := hs ▸ hfind
    exact ⟨[.refused (.unknownService service)], s, ⟨.one (.unknown hfind'), hself, rfl, by simp⟩,
      fun _ _ => rfl, .inl List.mem_cons_self⟩
  | some d =>
    cases hentry : c.registry.entry? service with
    | some e =>
      have hentry' : s.hub.registry.entry? service = some e := hs ▸ hentry
      exact ⟨[.refused (.alreadySubscribed service)], s, ⟨.one (.already hentry'), hself, rfl, by simp⟩,
        fun _ _ => rfl, .inl List.mem_cons_self⟩
    | none =>
      cases hcall : (c.hub.insert service d.path requested).link.call c.now
          (d.path ++ subscribeMethod) none with
      | mk result link =>
        have honLink : { c with hub := c.hub.insert service d.path requested }.onLink
            (·.call c.now (d.path ++ subscribeMethod) none) =
            (result, { c with hub := { c.hub.insert service d.path requested with link } }) := by
          simp only [onLink, Client.link, hcall, mapLink]
        dsimp only
        rw [honLink]
        cases result with
        | ok receipt => exact begun_of_entered hs requested hfind hentry hcall
        | error cause => exact begun_of_entered hs requested hfind hentry hcall

/-- What `continueSubscription` comes to: the attempt waits on, or is over. -/
def Continued (timeout : Nat) (c : Client) (s : Scene) (generation : Nat) :
    Option (Except SubscriptionError SubscriptionInfo) → Client → Prop
  | none, c' => ∃ moves s', Went timeout c s moves s' c' ∧ s'.attempts = s.attempts
  | some result, c' => ∃ moves s', Went timeout c s moves s' c' ∧
      (∀ g ≠ generation, s'.attempts g = s.attempts g) ∧ s'.attempts generation = none ∧
      .ended generation result ∈ moves

theorem continued_of_answer {s s₁ : Scene} {c₁ : Client} {w : Waiting} {a : Attempt}
    {outcome : Outcome} (hanswer : Step timeout s (.answered w.generation w.ticket outcome) s₁)
    (hattempts : s₁.attempts =
      Function.update s.attempts w.generation (some { a with stage := .answered outcome }))
    (hc : c₁ = { c with hub := s₁.hub }) {result : Except SubscriptionError SubscriptionInfo}
    {hub : Hub} (hconcluded : s₁.hub.Concluded a.service w.generation outcome result hub) :
    Continued timeout c s w.generation (some result) { c₁ with hub } := by
  have ha : s₁.attempts w.generation = some { a with stage := .answered outcome } := by
    rw [hattempts, Function.update_self]
  have hend : Step timeout s₁ (.ended w.generation result) _ := .concluded ha rfl hconcluded
  refine ⟨_, _, ⟨.step (.one hanswer) hend, by rw [hc]; rfl, rfl, by simp⟩, fun g hg => ?_,
    Function.update_self _ _ _, ?_⟩
  · rw [Scene.dismiss, Scene.mapHub, hattempts]
    exact (Function.update_of_ne hg _ _).trans (Function.update_of_ne hg _ _)
  · exact List.mem_append_right _ List.mem_cons_self

theorem continued_of_look {s : Scene} {w : Waiting} {a : Attempt} {link : Link Handler}
    (hlook : Step timeout s (.calls (.looked w.ticket)) (s.mapLink fun _ => link))
    (ha : s.attempts w.generation = some a) (hstage : a.stage = .asked w.ticket) :
    Continued timeout c s w.generation none { c with hub := { s.hub with link } } ∧
      (s.hub.registry.current? a.service w.generation = none →
        Continued timeout c s w.generation (some (.error (.closed a.service)))
          { c with hub := { s.hub with link := { link with calls := link.calls.forget w.ticket } } }) := by
  refine ⟨⟨_, _, ⟨.one hlook, rfl, rfl, by simp⟩, rfl⟩, fun hnone => ?_⟩
  have hend : Step timeout (s.mapLink fun _ => link) (.ended w.generation _) _ :=
    .closed ha hstage hnone
  have hforget : Step timeout ((s.mapLink fun _ => link).dismiss w.generation)
      (.calls (.forgotten w.ticket))
      (((s.mapLink fun _ => link).dismiss w.generation).mapLink fun _ =>
        { link with calls := link.calls.forget w.ticket }) :=
    .calls (.forgotten w.ticket) (fun _ => Calls.Event.noConfusion) ⟨rfl, rfl, rfl, rfl⟩
  refine ⟨_, _, ⟨.step (.step (.one hlook) hend) hforget, rfl, rfl, by simp⟩,
    fun g hg => Function.update_of_ne hg _ _, Function.update_self _ _ _, ?_⟩
  simp

theorem continueSubscription_continued {s : Scene} (hs : s.hub = c.hub) {w : Waiting}
    (hw : w.IsIn s) :
    Continued timeout c s w.generation (c.continueSubscription w.service w.generation w.ticket).1
      (c.continueSubscription w.service w.generation w.ticket).2 := by
  obtain ⟨hub, attempts⟩ := s
  cases hs
  obtain ⟨a, ha, hservice, hstage⟩ := hw
  let link : Link Handler := { c.hub.link with calls := (c.hub.link.calls.take w.ticket).2 }
  have htake : c.takeOutcome w.ticket =
      ((c.hub.link.calls.take w.ticket).1, { c with hub := { c.hub with link } }) := rfl
  unfold continueSubscription
  rw [htake]
  cases hout : (c.hub.link.calls.take w.ticket).1 with
  | none =>
    have hlook : Step timeout ⟨c.hub, attempts⟩ (.calls (.looked w.ticket))
        ⟨{ c.hub with link }, attempts⟩ :=
      .calls (.looked w.ticket) (fun _ => Calls.Event.noConfusion) ⟨rfl, rfl, rfl, rfl⟩
    have hcontinued := @continued_of_look _ c _ _ _ _ hlook ha hstage
    dsimp only
    split
    · exact hcontinued.1
    · rename_i hnone
      rw [← hservice] at hnone ⊢
      exact hcontinued.2 (Option.not_isSome_iff_eq_none.1 hnone)
  | some outcome =>
    have hanswer : Step timeout ⟨c.hub, attempts⟩ (.answered w.generation w.ticket outcome) _ :=
      .answered ha hstage hout
    rw [← hservice]
    cases outcome with
    | error cause => exact continued_of_answer hanswer rfl rfl (.rejected cause)
    | ok ack =>
      dsimp only
      cases hversion : (Schema.read ack).version with
      | none => exact continued_of_answer hanswer rfl rfl (.unversioned hversion)
      | some version =>
        dsimp only [acknowledge]
        split
        · rename_i hnone
          exact continued_of_answer hanswer rfl rfl (.closed hnone)
        · rename_i e he
          exact continued_of_answer hanswer rfl rfl (.established hversion he)

end Client
end ServiceLink
