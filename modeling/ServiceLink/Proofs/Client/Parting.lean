import ServiceLink.Proofs.Client.Granting
import ServiceLink.Proofs.Client.Posting

/-! What the server is told when subscriptions end. It is told exactly once of a subscription that is ended by its
subscriber, if it was live by then and its service has a method for that. An acknowledgement that comes after the
end is too late. -/

namespace ServiceLink.Client

variable {timeout : Nat} {c c' : Client} {d : Deed}

/-- A deed with the notifications that are sent in it, and the subscriptions that are granted and dismissed. -/
structure Passage where
  deed : Deed
  granted : Option SubscriptionInfo
  dismissed : Option Entry
  /-- The notifications to the server. -/
  sent : List Rpc.Notification

structure Passes (c : Client) (p : Passage) (c' : Client) : Prop where
  does : Does c p.deed c'
  granted : p.granted = c.granted? p.deed
  dismissed : p.dismissed = c.dismissed? p.deed
  posts : c.link.Posts p.sent c'.link

variable {ps : List Passage} {p : Passage}

/-- The generations of the subscriptions that `unsubscribe` ended. -/
def dismissals (ps : List Passage) : List Nat := (ps.filterMap (·.dismissed)).map (·.generation)

/-- What was sent when the subscription of a generation was ended. -/
def sentFor (ps : List Passage) (generation : Nat) : List Rpc.Notification :=
  (ps.filter fun p => p.dismissed.any (·.generation = generation)).flatMap (·.sent)

/-- The subscription of a generation was granted by an acknowledgement that advertises `Unsubscribe`, and then ended
by `unsubscribe`. -/
def EndsInForm (ps : List Passage) (generation : Nat) : Prop :=
  ∃ before p after, ps = before ++ p :: after ∧ p.dismissed.map (·.generation) = some generation ∧
    IsGranted (before.filterMap (·.granted)) generation unsubscribeMethod

theorem passes_of_trace {log : List Deed} (h : Trace Does c log c') (hlive : c.link.writer = .live)
    (hkeeps : ∀ d ∈ log, d.KeepsSocket) :
    c'.link.writer = .live ∧ ∃ ps, Trace Passes c ps c' ∧ ps.map (·.deed) = log := by
  induction h with
  | start => exact ⟨hlive, [], .start, rfl⟩
  | @step log x y d htrace hdoes ih =>
    rw [List.forall_mem_append, List.forall_mem_singleton] at hkeeps
    obtain ⟨hx, ps, hps, hlog⟩ := ih hkeeps.1
    obtain ⟨sent, hposts, -⟩ := hdoes.posts hx hkeeps.2
    let p : Passage := { deed := d, granted := x.granted? d, dismissed := x.dismissed? d, sent }
    exact ⟨hposts.writer.trans hx, ps ++ [p], .step hps ⟨hdoes, rfl, rfl, hposts⟩, by simp [p, hlog]⟩

theorem trace_of_passes (h : Trace Passes c ps c') : Trace Does c (ps.map (·.deed)) c' := by
  induction h with
  | start => exact .start
  | step _ hpasses ih =>
    rw [List.map_append]
    exact .step ih hpasses.does

theorem writer_of_passes (h : Trace Passes c ps c') : c'.link.writer = c.link.writer :=
  h.keeps (P := fun x => x.link.writer = c.link.writer) (fun _ _ _ hx hp => hp.posts.writer.trans hx) rfl

theorem Passes.sent_eq (h : Passes c p c') (hlive : c.link.writer = .live) (hkeeps : p.deed.KeepsSocket)
    (hsilent : ¬ p.deed.IsNotifying) : p.sent = p.dismissed.elim [] Entry.farewell := by
  obtain ⟨sent, hposts, hsent⟩ := h.does.posts hlive hkeeps
  rw [h.posts.sent_eq hposts, hsent hsilent, h.dismissed]

/-- What stands after a run and is not new stood before it, with the methods that were granted since. -/
theorem entriesEndure_of_passes (h : Trace Passes c ps c') (hc : IsTracked timeout c []) :
    c.registry.generation ≤ c'.registry.generation ∧ EntriesEndure c (ps.filterMap (·.granted)) c' := by
  induction h with
  | start => exact ⟨Nat.le_refl _, fun _ f hf _ => ⟨f, hf, .refl f⟩⟩
  | @step ps x y p htrace hpasses ih =>
    obtain ⟨hle, hendure⟩ := ih
    have hx := isTracked_of_trace (trace_of_passes htrace) hc
    refine ⟨Nat.le_trans hle (hpasses.does.reserves hx).generation, fun service f hf hnew => ?_⟩
    obtain ⟨e, he, hendures⟩ := hpasses.does.entriesEndure hx service f hf (Nat.le_trans hnew hle)
    obtain ⟨e₀, he₀, hbefore⟩ := hendure service e he (hendures.generation ▸ hnew)
    have hgranted : [p].filterMap (·.granted) = (x.granted? p.deed).toList := by
      rw [← hpasses.granted]
      cases hg : p.granted <;> simp [hg]
    rw [List.filterMap_append, hgranted]
    exact ⟨e₀, he₀, hbefore.trans hendures⟩

/-- No subscription of this generation stands, nor will any. -/
def IsPast (c : Client) (generation : Nat) : Prop :=
  generation ≤ c.registry.generation ∧ ∀ k e, c.registry.entry? k = some e → e.generation ≠ generation

theorem Does.isPast (h : Does c d c') (hc : IsTracked timeout c []) {generation : Nat}
    (hpast : c.IsPast generation) : c'.IsPast generation := by
  refine ⟨Nat.le_trans hpast.1 (h.reserves hc).generation, fun k f hf hg => ?_⟩
  obtain ⟨e, he, hendures⟩ := h.entriesEndure hc k f hf (hg ▸ hpast.1)
  exact hpast.2 k e he (hendures.generation.symm.trans hg)

theorem Does.isPast_of_dismissed (h : Does c d c') (hc : IsTracked timeout c []) {e : Entry}
    (he : c.dismissed? d = some e) : c'.IsPast e.generation := by
  obtain ⟨service, haction, hentry⟩ := service_of_dismissed he
  have hfree : c'.registry.entry? service = none := h.free_of_ends (.inl haction)
  have hle := hc.entry_le hentry
  refine ⟨Nat.le_trans hle (h.reserves hc).generation, fun k f hf hg => ?_⟩
  obtain ⟨before, hbefore, hendures⟩ := h.entriesEndure hc k f hf (hg ▸ hle)
  have hk : service = k := hc.unique hentry hbefore (hg.symm.trans hendures.generation)
  rw [← hk, hfree] at hf
  cases hf

theorem dismissed_once (h : Trace Passes c ps c') (hc : IsTracked timeout c []) :
    (∀ g ∈ dismissals ps, c'.IsPast g) ∧ (dismissals ps).Nodup := by
  induction h with
  | start => exact ⟨nofun, .nil⟩
  | @step ps x y p htrace hpasses ih =>
    obtain ⟨hpast, hnodup⟩ := ih
    have hx := isTracked_of_trace (trace_of_passes htrace) hc
    have hstill : ∀ g ∈ dismissals ps, y.IsPast g := fun g hg => hpasses.does.isPast hx (hpast g hg)
    have hsplit : dismissals (ps ++ [p]) = dismissals ps ++ (p.dismissed.map (·.generation)).toList := by
      cases hp : p.dismissed <;> simp [dismissals, hp]
    rw [hsplit]
    cases hp : p.dismissed with
    | none => simpa using And.intro hstill hnodup
    | some e =>
      have he : x.dismissed? p.deed = some e := hpasses.dismissed ▸ hp
      obtain ⟨service, -, hentry⟩ := service_of_dismissed he
      have hnew : e.generation ∉ dismissals ps := fun hmem => (hpast _ hmem).2 service e hentry rfl
      have hown := hpasses.does.isPast_of_dismissed hx he
      refine ⟨fun g hg => ?_, ?_⟩
      · rcases List.mem_append.1 hg with hg | hg
        · exact hstill g hg
        · cases List.mem_singleton.1 hg
          exact hown
      · refine List.nodup_append.2 ⟨hnodup, List.nodup_singleton _, fun g hg g' hg' heq => ?_⟩
        rw [heq, List.mem_singleton.1 hg'] at hg
        exact hnew hg

theorem dismissals_append (ps qs : List Passage) : dismissals (ps ++ qs) = dismissals ps ++ dismissals qs := by
  simp [dismissals]

theorem sentFor_append (ps qs : List Passage) (generation : Nat) :
    sentFor (ps ++ qs) generation = sentFor ps generation ++ sentFor qs generation := by
  simp [sentFor]

theorem mem_dismissals {generation : Nat} :
    generation ∈ dismissals ps ↔ ∃ p ∈ ps, p.dismissed.map (·.generation) = some generation := by
  simp only [dismissals, List.mem_map, List.mem_filterMap, Option.map_eq_some_iff]
  tauto

theorem sentFor_of_not_mem {generation : Nat} (h : generation ∉ dismissals ps) : sentFor ps generation = [] := by
  have hnone : (ps.filter fun p => p.dismissed.any (·.generation = generation)) = [] := by
    refine List.filter_eq_nil_iff.2 fun p hp hg => h (mem_dismissals.2 ⟨p, hp, ?_⟩)
    cases hdismissed : p.dismissed <;> simp_all
  rw [sentFor, hnone]
  rfl

theorem sentFor_eq {before after : List Passage} {generation : Nat}
    (hp : p.dismissed.map (·.generation) = some generation)
    (hnodup : (dismissals (before ++ p :: after)).Nodup) :
    sentFor (before ++ p :: after) generation = p.sent := by
  have hsingle : dismissals [p] = [generation] := by
    obtain ⟨e, he, rfl⟩ := Option.map_eq_some_iff.1 hp
    simp [dismissals, he]
  have hown : sentFor [p] generation = p.sent := by
    obtain ⟨e, he, rfl⟩ := Option.map_eq_some_iff.1 hp
    simp [sentFor, he]
  rw [← List.singleton_append, dismissals_append, dismissals_append, hsingle] at hnodup
  obtain ⟨-, hrest, hapart⟩ := List.nodup_append.1 hnodup
  have hbefore : generation ∉ dismissals before := fun hmem => hapart _ hmem _ (by simp) rfl
  have hafter : generation ∉ dismissals after := (List.nodup_cons.1 hrest).1
  rw [← List.singleton_append, sentFor_append, sentFor_append, sentFor_of_not_mem hbefore,
    sentFor_of_not_mem hafter, hown, List.nil_append, List.append_nil]

section

variable {service : String} {e : Entry}

theorem sent_of_dismissed {before after : List Passage} (h : Trace Passes c (before ++ p :: after) c')
    (hc : IsTracked timeout c []) (hlive : c.link.writer = .live) (hkeeps : p.deed.KeepsSocket)
    (he : c.registry.entry? service = some e) (hpending : e.live = none)
    (hp : p.dismissed.map (·.generation) = some e.generation) :
    (IsGranted (before.filterMap (·.granted)) e.generation unsubscribeMethod →
        p.sent = [unsubscription e.path]) ∧
      (¬ IsGranted (before.filterMap (·.granted)) e.generation unsubscribeMethod → p.sent = []) := by
  obtain ⟨x, y, hbefore, hpasses, -⟩ := h.at_middle
  obtain ⟨f, hf, hg⟩ := Option.map_eq_some_iff.1 hp
  obtain ⟨k, haction, hentry⟩ := service_of_dismissed (hpasses.dismissed ▸ hf)
  have hsilent : ¬ p.deed.IsNotifying := by
    rintro ⟨a, ha, hnotifying⟩
    cases haction.symm.trans ha
    exact hnotifying
  have hsent := hpasses.sent_eq ((writer_of_passes hbefore).trans hlive) hkeeps hsilent
  rw [hf] at hsent
  -- the subscription that is ended is the one that was pending, with what it was granted since
  obtain ⟨e', he', hendures⟩ := (entriesEndure_of_passes hbefore hc).2 k f hentry (hg ▸ hc.entry_le he)
  have hk : k = service := hc.unique he' he (hendures.generation.symm.trans hg)
  subst hk
  cases he'.symm.trans he
  have hmethod : f.hasMethod unsubscribeMethod ↔ _ := hendures.method unsubscribeMethod
  have hnone : ¬ e.hasMethod unsubscribeMethod := by simp [Entry.hasMethod, hpending]
  rw [or_iff_right hnone] at hmethod
  rw [hsent, ← hmethod, ← hendures.path]
  exact ⟨fun hf => if_pos hf, fun hf => if_neg hf⟩

/-- For a subscription that ends in form exactly one `Unsubscribe` is sent. -/
theorem told_of_endsInForm (h : Trace Passes c ps c') (hc : IsTracked timeout c []) (hlive : c.link.writer = .live)
    (hkeeps : ∀ p ∈ ps, p.deed.KeepsSocket) (he : c.registry.entry? service = some e)
    (hpending : e.live = none) (hform : EndsInForm ps e.generation) :
    sentFor ps e.generation = [unsubscription e.path] := by
  obtain ⟨before, p, after, rfl, hp, hgranted⟩ := hform
  rw [sentFor_eq hp (dismissed_once h hc).2]
  exact (sent_of_dismissed h hc hlive (hkeeps p (by simp)) he hpending hp).1 hgranted

/-- For any other nothing is sent. -/
theorem untold_of_not_endsInForm (h : Trace Passes c ps c') (hc : IsTracked timeout c [])
    (hlive : c.link.writer = .live) (hkeeps : ∀ p ∈ ps, p.deed.KeepsSocket)
    (he : c.registry.entry? service = some e) (hpending : e.live = none)
    (hform : ¬ EndsInForm ps e.generation) : sentFor ps e.generation = [] := by
  by_cases hmem : e.generation ∈ dismissals ps
  · obtain ⟨p, hp, hg⟩ := mem_dismissals.1 hmem
    obtain ⟨before, after, rfl⟩ := List.append_of_mem hp
    rw [sentFor_eq hg (dismissed_once h hc).2]
    exact (sent_of_dismissed h hc hlive (hkeeps p hp) he hpending hg).2 fun hgranted =>
      hform ⟨before, p, after, rfl, hg, hgranted⟩
  · exact sentFor_of_not_mem hmem

end

/-- What is sent in a run that keeps the socket. -/
structure Parted (c : Client) (ps : List Passage) (c' : Client) : Prop where
  /-- Unless a caller notifies, nothing is sent but for the subscription that ends. -/
  silent : ∀ p ∈ ps, ¬ p.deed.IsNotifying → p.sent = p.dismissed.elim [] Entry.farewell
  told : ∀ service e, c.registry.entry? service = some e → e.live = none → EndsInForm ps e.generation →
    sentFor ps e.generation = [unsubscription e.path]
  untold : ∀ service e, c.registry.entry? service = some e → e.live = none → ¬ EndsInForm ps e.generation →
    sentFor ps e.generation = []
  /-- What is granted was acknowledged to the attempt that waited for it. -/
  granted : ∀ before p after, ps = before ++ p :: after → ∀ info ∈ p.granted,
    ∃ x, Trace Passes c before x ∧ x.Deserved info
  /-- An attempt whose acknowledgement has come is granted its subscription when its turn comes, if it still
  stands then. -/
  grants : ∀ w ∈ c'.waiting [], ∀ ack, c'.link.calls.response w.ticket = .ready (.ok ack) →
    (Schema.read ack).version ≠ none → c'.registry.Stands w.service w.generation →
      ∃ d c'', Does c' d c'' ∧ ∃ info ∈ c'.granted? d, info.stream = w.generation ∧ info.schema = Schema.read ack

/-- In whatever order the tasks of a client take turns, `unsubscribe` tells the service exactly if it comes after the
turn in which the subscription was granted, and the acknowledgement advertised the method. -/
theorem unsubscribed_told_iff {endpoint : String} {options : Options} {c₀ : Client}
    (hnew : Client.new endpoint options = .ok c₀) (inBackground : Bool) (actions : List (List Action)) :
    let start := c₀.started inBackground
    start.Performs actions.flatten (start.bursts actions) ∧
      ∀ log c, Trace Does start log c → c.link.writer = .live →
        ∀ later c', Trace Does c later c' → (∀ d ∈ later, d.KeepsSocket) →
          ∃ ps, Trace Passes c ps c' ∧ ps.map (·.deed) = later ∧ Parted c ps c' := by
  intro start
  refine ⟨performs_bursts start actions, fun log c hlog hlive later c' hlater hkeeps => ?_⟩
  have hc := isTracked_of_trace hlog (isTracked_of_new hnew inBackground)
  obtain ⟨-, ps, hps, rfl⟩ := passes_of_trace hlater hlive hkeeps
  rw [List.forall_mem_map] at hkeeps
  refine ⟨ps, hps, rfl, ⟨fun p hp hsilent => ?_, ?_, ?_, ?_, ?_⟩⟩
  · obtain ⟨before, after, rfl⟩ := List.append_of_mem hp
    obtain ⟨x, y, hbefore, hpasses, -⟩ := hps.at_middle
    exact hpasses.sent_eq ((writer_of_passes hbefore).trans hlive) (hkeeps p hp) hsilent
  · exact fun service e => told_of_endsInForm hps hc hlive hkeeps
  · exact fun service e => untold_of_not_endsInForm hps hc hlive hkeeps
  · rintro before p after rfl info hinfo
    obtain ⟨x, y, hbefore, hpasses, -⟩ := hps.at_middle
    exact ⟨x, hbefore, hpasses.does.deserved (hpasses.granted ▸ hinfo)⟩
  · rintro w hw ack hready hversion ⟨e, he, hg⟩
    obtain ⟨version, hversion⟩ := Option.ne_none_iff_exists'.1 hversion
    exact granted_of_acknowledged hw hready hversion he hg

/-! ### Before and after the acknowledgement -/

namespace AtOnce

def advertisement : Json :=
  .object [("methods", .array [.text unsubscribeMethod]), ("version", .integer 1)]

def acknowledgement : String :=
  Json.render <| .object [("jsonrpc", .text "2.0"), ("id", .integer 1), ("result", advertisement)]

theorem reads_advertisement {levels : Nat} : Json.Reads (levels + 2) advertisement advertisement := by
  have hmethods : Json.Reads (levels + 1) (.array ([unsubscribeMethod].map .text))
      (.array ([unsubscribeMethod].map .text)) :=
    .array fun name _ => .text name
  have hversion : Json.Reads (levels + 1) (.integer 1) (.integer 1) := .integer (by decide)
  refine .ordered (List.forall_mem_cons.2 ⟨hmethods, List.forall_mem_singleton.2 hversion⟩) ?_
  exact List.pairwise_pair.2 (show "methods" < "version" by decide)

theorem read_acknowledgement :
    Rpc.Frame.read acknowledgement = .single (.response (some 1) advertisement) :=
  (Rpc.conveys_response (by decide) reads_advertisement).read

def answered (c : Client) : Client :=
  { c with
    hub := { c.hub with link := c.hub.link.receive (.response (some 1) advertisement) }.hear }

theorem handleFrame_acknowledgement (c : Client) : c.handleFrame acknowledgement = answered c :=
  handleFrame_of_read read_acknowledgement rfl c

def awaiting : Job := .acknowledgement ServiceList.discoveryName 1 0

end AtOnce

theorem Does.eq_of_acted {a : Action} {broken : List Waiting} (h : Does c (.acted a broken) c')
    (ha : ∀ ms, a ≠ .advance ms) : c' = (c.act a).2 := by
  cases h with
  | acted => rfl
  | advanced ms => exact absurd rfl (ha ms)

theorem Does.eq_of_worked {tag : String} {job : Job} (h : Does c (.worked tag job) c')
    (hjobs : c.jobs = [(tag, job)]) : c' = (c.withJobs []).runJob tag job := by
  cases h with
  | @worked before after _ _ hsplit =>
    rw [hjobs] at hsplit
    rcases List.singleton_eq_append_iff.1 hsplit with ⟨rfl, hrest⟩ | ⟨-, hrest⟩
    · cases hrest
      rfl
    · cases hrest

open AtOnce in
theorem unsubscribed_told_iff_waited :
    asking.link.writer = .live ∧ ∃ ps c', Trace Passes asking ps c' ∧ EndsInForm ps 1 ∧
      sentFor ps 1 = [unsubscription ServiceList.discoveryPath] := by
  have hnew : Client.new "ws://h/" {} = .ok start := rfl
  obtain ⟨⟨log, hlog, -⟩, htold⟩ := unsubscribed_told_iff hnew false
    [[.openSocket], [.subscribe "tag" ServiceList.discoveryName ["level"]]]
  -- the frame, the turn of the job, and the end
  let granted : Client := ((answered asking).withJobs []).runJob "tag" awaiting
  let ended : Client := granted.unsubscribe ServiceList.discoveryName
  have hframe : Does asking (.acted (.frame acknowledgement) []) (answered asking) := by
    have hacted : Does asking (.acted (.frame acknowledgement) []) (asking.handleFrame acknowledgement) :=
      .acted nofun
    rwa [handleFrame_acknowledgement] at hacted
  have hjobs : (answered asking).jobs = [] ++ ("tag", awaiting) :: [] := rfl
  have hjob : Does (answered asking) (.worked "tag" awaiting) granted := by
    have hworked := Does.worked hjobs
    exact hworked
  have hend : Does granted (.acted (.unsubscribe ServiceList.discoveryName) []) ended := .acted nofun
  obtain ⟨ps, hps, hdeeds, hparted⟩ := htold log asking hlog rfl _ _ (((Trace.one hframe).step hjob).step hend)
    (by simp [Deed.KeepsSocket, Deed.action?, Action.KeepsSocket])
  let schema := Schema.read advertisement
  let info : SubscriptionInfo :=
    { service := ServiceList.discoveryName, version := "1", methods := schema.methods
      properties := schema.properties, stream := 1 }
  have hform : EndsInForm ps 1 := by
    obtain ⟨p₁, p₂, p₃, rfl⟩ := List.length_eq_three.1 (by simpa using congrArg List.length hdeeds)
    simp only [List.map_cons, List.map_nil, List.cons_append, List.nil_append, List.cons.injEq, and_true]
      at hdeeds
    obtain ⟨hdeed₁, hdeed₂, hdeed₃⟩ := hdeeds
    obtain ⟨x₁, hpasses₁, hrest⟩ := hps.first
    obtain ⟨x₂, hpasses₂, hrest⟩ := hrest.first
    obtain ⟨x₃, hpasses₃, -⟩ := hrest.first
    have hx₁ : x₁ = answered asking := by
      have hdoes := hpasses₁.does
      rw [hdeed₁] at hdoes
      rw [hdoes.eq_of_acted nofun, ← handleFrame_acknowledgement]
      rfl
    have hx₂ : x₂ = granted := by
      have hdoes := hpasses₂.does
      rw [hdeed₂, hx₁] at hdoes
      exact hdoes.eq_of_worked rfl
    refine ⟨[p₁, p₂], p₃, [], rfl, ?_, ?_⟩
    · rw [hpasses₃.dismissed, hdeed₃, hx₂]
      rfl
    · have hgranted : p₂.granted = some info := by
        rw [hpasses₂.granted, hdeed₂, hx₁]
        rfl
      exact ⟨info, List.mem_filterMap.2 ⟨p₂, by simp, hgranted⟩, rfl, rfl⟩
  let pending : Entry := { generation := 1, path := ServiceList.discoveryPath, requested := ["level"] }
  have hsent := hparted.told ServiceList.discoveryName pending rfl rfl hform
  exact ⟨rfl, ps, ended, hps, hform, hsent⟩

open AtOnce in
/-- An `unsubscribe` before the acknowledgement, which advertises the method: nothing is sent. -/
theorem unsubscribed_early_untold :
    let c := asking.bursts [[.unsubscribe ServiceList.discoveryName]]
    let c' := c.bursts [[.frame acknowledgement]]
    (Schema.read advertisement).version = some "1" ∧
      (Schema.read advertisement).hasMethod unsubscribeMethod ∧ c'.link.writer = .live ∧
      c'.link.outbound =
        [.text (Rpc.Request.call (ServiceList.discoveryPath ++ subscribeMethod) none 1).toJson.render] ∧
      unsubscription ServiceList.discoveryPath ∉ c'.link.outbound.flatMap OutboundFrame.pushes := by
  intro c c'
  have hc : c' = (answered c).settle :=
    (bursts_frame _ _).trans (congrArg Client.settle (handleFrame_acknowledgement c))
  have houtbound : c'.link.outbound = _ := congrArg (·.link.outbound) hc
  have hqueued : c'.link.outbound =
      [.text (Rpc.Request.call (ServiceList.discoveryPath ++ subscribeMethod) none 1).toJson.render] := by
    rw [houtbound]
    rfl
  refine ⟨rfl, rfl, ?_, hqueued, ?_⟩
  · rw [hc]
    rfl
  · rw [hqueued, List.flatMap_singleton, OutboundFrame.pushes, Rpc.pushesIn_call]
    exact List.not_mem_nil

end ServiceLink.Client
