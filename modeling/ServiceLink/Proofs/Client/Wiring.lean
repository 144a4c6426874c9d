import ServiceLink.Proofs.Client.Moves
import ServiceLink.Proofs.Subscription.Binding

/-! Which listeners a scene has: those of the live subscriptions, for each the ones that its feed was bound
with, and those of callers. No move of one subscription touches the listeners of another. -/

namespace ServiceLink

namespace Link

/-- The listeners that feed a stream. -/
def tapsFor (l : Link Handler) (stream : Nat) : List (Listener Handler) :=
  l.listeners.filter fun x => x.handler.tap?.any (·.stream = stream)

theorem mem_tapsFor {l : Link Handler} {stream : Nat} {x : Listener Handler} :
    x ∈ l.tapsFor stream ↔ x ∈ l.listeners ∧ ∃ t, x.handler = .tap t ∧ t.stream = stream := by
  unfold tapsFor
  rw [List.mem_filter]
  refine and_congr_right fun _ => ?_
  cases x.handler with
  | caller => simp [Handler.tap?]
  | tap t => simp [Handler.tap?]

theorem tapsFor_eq_nil {l : Link Handler} {stream : Nat}
    (h : ∀ x ∈ l.listeners, ∀ t, x.handler = .tap t → t.stream ≠ stream) : l.tapsFor stream = [] := by
  refine List.eq_nil_iff_forall_not_mem.2 fun x hx => ?_
  obtain ⟨hmem, t, ht, hstream⟩ := mem_tapsFor.1 hx
  exact h x hmem t ht hstream

theorem tapsFor_of_listeners {l l' : Link Handler} (h : l'.listeners = l.listeners) (stream : Nat) :
    l'.tapsFor stream = l.tapsFor stream := by
  unfold tapsFor
  rw [h]

theorem tapsFor_of_filter {l l' : Link Handler} {stream : Nat} {keep : Listener Handler → Bool}
    (h : l'.listeners = l.listeners.filter keep) (hkeep : ∀ x ∈ l.tapsFor stream, keep x) :
    l'.tapsFor stream = l.tapsFor stream := by
  unfold tapsFor at hkeep ⊢
  rw [h, List.filter_filter]
  refine List.filter_congr fun x hx => ?_
  by_cases ht : x.handler.tap?.any (·.stream = stream)
  · simp [ht, hkeep x (List.mem_filter.2 ⟨hx, ht⟩)]
  · simp [ht]

theorem tapsFor_of_append {l l' : Link Handler} {stream : Nat} {new : List (Listener Handler)}
    (h : l'.listeners = l.listeners ++ new)
    (hnew : ∀ x ∈ new, ∀ t, x.handler = .tap t → t.stream ≠ stream) :
    l'.tapsFor stream = l.tapsFor stream := by
  have hnone : tapsFor { l with listeners := new } stream = [] := tapsFor_eq_nil hnew
  unfold tapsFor at hnone ⊢
  rw [h, List.filter_append, hnone, List.append_nil]

theorem eq_of_id {l : Link Handler} (h : (l.listeners.map (·.id)).Nodup) {x y : Listener Handler}
    (hx : x ∈ l.listeners) (hy : y ∈ l.listeners) (hid : x.id = y.id) : x = y :=
  List.inj_on_of_nodup_map h hx hy hid

end Link

namespace Entry

/-- The listeners of a subscription; there are none before it is live. -/
def listeners (e : Entry) : List (Listener Handler) :=
  match e.live with
  | none => []
  | some live => live.feed.listeners live.schema e.path e.generation

theorem listeners_hear (e : Entry) (pushes : List Push) : (e.hear pushes).listeners = e.listeners := by
  unfold listeners hear
  cases e.live with
  | none => rfl
  | some live =>
    dsimp only [Option.map_some]
    rw [Feed.hear_eq]
    rfl

theorem listeners_unbind (e : Entry) (l : Link Handler) :
    (e.unbind l).listeners = l.listeners.filter (·.id ∉ e.listeners.map (·.id)) := by
  unfold unbind listeners
  cases e.live with
  | none => simp
  | some live =>
    have hids : (live.feed.listeners live.schema e.path e.generation).map (·.id) =
        live.feed.taps.map (·.2) := by simp [Feed.listeners]
    dsimp only
    rw [Feed.listeners_unbind, hids]

theorem nextListener_unbind (e : Entry) (l : Link Handler) :
    (e.unbind l).nextListener = l.nextListener := by
  unfold unbind
  cases e.live with
  | none => rfl
  | some live => exact live.feed.nextListener_unbind l

/-- The listeners of a subscription on a link are its own, and nobody else taps its feed. -/
structure Wired (e : Entry) (l : Link Handler) (nextFeed : Nat) : Prop where
  taps : l.tapsFor e.generation = e.listeners
  bound : ∀ live, e.live = some live → live.feed.bound = live.schema.bound e.requested
  feed : ∀ live, e.live = some live → live.feed.id < nextFeed
  own : ∀ live, e.live = some live → ∀ x ∈ l.listeners, ∀ t, x.handler = .tap t →
    t.feed = live.feed.id → t.stream = e.generation

theorem wired_of_binds {e : Entry} {schema : Schema} {id : Nat} {feed : Feed} {l l' : Link Handler}
    (h : Feed.Binds schema e.path id e.generation e.requested l feed l')
    (hnone : l.tapsFor e.generation = [])
    (hfeeds : ∀ x ∈ l.listeners, ∀ t, x.handler = .tap t → t.feed < id) :
    Wired { e with live := some { schema, feed } } l' (id + 1) := by
  have hid : feed.id = id := by rw [h.feed]
  refine ⟨?_, ?_, ?_, ?_⟩
  · have hall : Link.tapsFor { l with listeners := feed.listeners schema e.path e.generation }
        e.generation = feed.listeners schema e.path e.generation := by
      refine List.filter_eq_self.2 fun x hx => ?_
      obtain ⟨tap, -, rfl⟩ := List.mem_map.1 hx
      simp [Handler.tap?]
    unfold Link.tapsFor at hnone hall ⊢
    rw [h.listeners, List.filter_append, hnone, hall, List.nil_append]
    rfl
  · rintro live ⟨⟩
    exact h.bound
  · rintro live ⟨⟩
    exact Nat.lt_succ_of_le (Nat.le_of_eq hid)
  · rintro live ⟨⟩ x hx t ht hf
    rcases h.mem hx with hx | hx
    · exact absurd (hf.trans hid) (Nat.ne_of_lt (hfeeds x hx t ht))
    · exact (h.tap hx ht).1

theorem Wired.hear {e : Entry} {l l' : Link Handler} {nextFeed nextFeed' : Nat}
    (h : e.Wired l nextFeed) (pushes : List Push)
    (htaps : l'.tapsFor e.generation = l.tapsFor e.generation)
    (hold : ∀ x ∈ l'.listeners, ∀ t, x.handler = .tap t → x ∈ l.listeners ∨ nextFeed ≤ t.feed)
    (hle : nextFeed ≤ nextFeed') : (e.hear pushes).Wired l' nextFeed' := by
  have hlive : ∀ live, (e.hear pushes).live = some live → ∃ before, e.live = some before ∧
      live.schema = before.schema ∧ live.feed.id = before.feed.id ∧
      live.feed.bound = before.feed.bound := by
    intro live heq
    obtain ⟨before, hbefore, rfl⟩ := Option.map_eq_some_iff.1 heq
    refine ⟨before, hbefore, rfl, ?_, ?_⟩
    · rw [Feed.hear_eq]
    · rw [Feed.hear_eq]
      rfl
  refine ⟨?_, fun live heq => ?_, fun live heq => ?_, fun live heq x hx t ht hf => ?_⟩
  · rw [listeners_hear]
    exact htaps.trans h.taps
  · obtain ⟨before, hbefore, hschema, -, hbound⟩ := hlive live heq
    rw [hbound, hschema]
    exact h.bound before hbefore
  · obtain ⟨before, hbefore, -, hid, -⟩ := hlive live heq
    rw [hid]
    exact Nat.lt_of_lt_of_le (h.feed before hbefore) hle
  · obtain ⟨before, hbefore, -, hid, -⟩ := hlive live heq
    rw [hid] at hf
    rcases hold x hx t ht with hx | hnew
    · exact h.own before hbefore x hx t ht hf
    · have := h.feed before hbefore
      omega

end Entry

namespace Registry

theorem nextFeed_discard (r : Registry) (service : String) (generation : Nat) :
    (r.discard service generation).nextFeed = r.nextFeed := by
  unfold discard
  split <;> rfl

end Registry

namespace Hub

theorem listeners_closeAll (h : Hub) (entries : List Entry) :
    (h.closeAll entries).link.listeners =
      h.link.listeners.filter fun x => entries.all fun e => x.id ∉ e.listeners.map (·.id) := by
  unfold closeAll
  induction entries generalizing h with
  | nil => simp
  | cons e entries ih =>
    have hclose : (h.close e true).link.listeners = _ := e.listeners_unbind h.link
    rw [List.foldl_cons, ih, hclose, List.filter_filter]
    exact List.filter_congr fun x _ => Bool.and_comm _ _

theorem nextListener_closeAll (h : Hub) (entries : List Entry) :
    (h.closeAll entries).link.nextListener = h.link.nextListener := by
  unfold closeAll
  induction entries generalizing h with
  | nil => rfl
  | cons e entries ih => exact (ih (h.close e true)).trans (e.nextListener_unbind h.link)

end Hub

namespace Scene

variable {timeout : Nat} {s s' : Scene} {mv : Move} {moves : List Move}

/-- Every listener has an id of its own, and those of subscriptions are where they belong. -/
structure Wired (s : Scene) : Prop where
  ids : (s.hub.link.listeners.map (·.id)).Nodup
  fresh : ∀ x ∈ s.hub.link.listeners, x.id < s.hub.link.nextListener
  tap : ∀ x ∈ s.hub.link.listeners, ∀ t, x.handler = .tap t →
    t.stream ≤ s.hub.registry.generation ∧ t.feed < s.hub.registry.nextFeed
  entry : ∀ service e, s.subscription? service = some e →
    e.Wired s.hub.link s.hub.registry.nextFeed

theorem wired_start (settings : Link.Settings) : (start settings).Wired where
  ids := List.nodup_nil
  fresh _ hx := by cases hx
  tap _ hx := by cases hx
  entry _ _ he := by cases he

theorem Wired.of_entered (h : s.Wired) {e : Entry} {l' : Link Handler} (nextFeed : Nat)
    (hold : ∀ x ∈ l'.listeners, ∀ t, x.handler = .tap t → x ∈ s.hub.link.listeners)
    (hg : e.generation = s.hub.registry.generation + 1) (hlive : e.live = none) :
    e.Wired l' nextFeed := by
  refine ⟨?_, ?_, ?_, ?_⟩
  · have hnone : e.listeners = [] := by simp [Entry.listeners, hlive]
    rw [hnone]
    refine Link.tapsFor_eq_nil fun x hx t ht hstream => ?_
    have hle := (h.tap x (hold x hx t ht) t ht).1
    omega
  all_goals
    intro live hsome
    rw [hlive] at hsome
    cases hsome

theorem Wired.of_kept (h : s.Wired)
    (hold : ∀ x ∈ s'.hub.link.listeners, ∀ t, x.handler = .tap t → x ∈ s.hub.link.listeners)
    (hids : (s'.hub.link.listeners.map (·.id)).Nodup)
    (hfresh : ∀ x ∈ s'.hub.link.listeners, x.id < s'.hub.link.nextListener)
    (hgeneration : s.hub.registry.generation ≤ s'.hub.registry.generation)
    (hfeed : s'.hub.registry.nextFeed = s.hub.registry.nextFeed)
    (hentry : ∀ service e, s'.subscription? service = some e →
      (e.live = none ∧ e.generation = s.hub.registry.generation + 1) ∨
        ∃ f pushes, s.subscription? service = some f ∧ e = f.hear pushes ∧
          s'.hub.link.tapsFor f.generation = s.hub.link.tapsFor f.generation) : s'.Wired where
  ids := hids
  fresh := hfresh
  tap x hx t ht := by
    have hbefore := h.tap x (hold x hx t ht) t ht
    exact ⟨Nat.le_trans hbefore.1 hgeneration, hfeed ▸ hbefore.2⟩
  entry service e he := by
    rcases hentry service e he with ⟨hlive, hg⟩ | ⟨f, pushes, hf, rfl, htaps⟩
    · exact h.of_entered _ hold hg hlive
    · exact (h.entry service f hf).hear pushes htaps (fun x hx t ht => .inl (hold x hx t ht))
        (Nat.le_of_eq hfeed.symm)

theorem Wired.of_established (h : s.Wired) (hn : s.Numbered) {service : String} {e : Entry}
    (he : s.subscription? service = some e) (hlive : e.live = none) (schema : Schema)
    (attempts : Nat → Option Attempt) : Wired ⟨s.hub.establish service e schema, attempts⟩ := by
  let r := s.hub.registry
  let l := s.hub.link
  let feed := (r.establish l service e schema).1
  let l' := (r.establish l service e schema).2.2
  have hbinds : Feed.Binds schema e.path r.nextFeed e.generation e.requested l feed l' :=
    Feed.binds schema e.path r.nextFeed e.generation e.requested l
  have hfeeds : ∀ x ∈ l.listeners, ∀ t, x.handler = .tap t → t.feed < r.nextFeed :=
    fun x hx t ht => (h.tap x hx t ht).2
  refine ⟨hbinds.nodup h.ids h.fresh, fun x hx => hbinds.fresh h.fresh hx, fun x hx t ht => ?_,
    fun k f hf => ?_⟩
  · show t.stream ≤ r.generation ∧ t.feed < r.nextFeed + 1
    rcases hbinds.mem hx with hx | hx
    · have hbefore := h.tap x hx t ht
      exact ⟨hbefore.1, Nat.lt_succ_of_lt hbefore.2⟩
    · obtain ⟨hstream, hfeed⟩ := hbinds.tap hx ht
      exact ⟨hstream ▸ hn.entry service e he, Nat.lt_succ_of_le (Nat.le_of_eq hfeed)⟩
  · have hins := (Registry.entry?_establish r l service k e schema).symm.trans hf
    show f.Wired l' (r.nextFeed + 1)
    split at hins
    · cases hins
      refine Entry.wired_of_binds hbinds ?_ hfeeds
      rw [(h.entry service e he).taps]
      simp [Entry.listeners, hlive]
    · rename_i hk
      have hne : e.generation ≠ f.generation := fun hg => hk (hn.unique service k e f he hins hg)
      have hkept : (f.hear []).Wired l' (r.nextFeed + 1) := (h.entry k f hins).hear []
        (Link.tapsFor_of_append hbinds.listeners fun x hx t ht => (hbinds.tap hx ht).1 ▸ hne)
        (fun x hx t ht => (hbinds.mem hx).imp id fun hx => Nat.le_of_eq (hbinds.tap hx ht).2.symm)
        (Nat.le_succ _)
      rwa [Entry.hear_nil] at hkept

theorem Wired.of_same (h : s.Wired) (hstep : Step timeout s mv s')
    (hlisteners : s'.hub.link.listeners = s.hub.link.listeners)
    (hnext : s'.hub.link.nextListener = s.hub.link.nextListener)
    (hfeed : s'.hub.registry.nextFeed = s.hub.registry.nextFeed)
    (hmv : ∀ generation info, mv ≠ .ended generation (.ok info)) : s'.Wired := by
  refine h.of_kept (fun x hx t ht => hlisteners ▸ hx) (hlisteners ▸ h.ids) (fun x hx => ?_)
    hstep.generation_le hfeed fun service e he => ?_
  · rw [hnext]
    exact h.fresh x (hlisteners ▸ hx)
  · cases hstep.origin he with
    | entered _ hg hlive => exact .inl ⟨hlive, hg⟩
    | kept hf heq => exact .inr ⟨_, _, hf, heq, Link.tapsFor_of_listeners hlisteners _⟩
    | established _ _ _ _ _ _ heq => exact absurd heq (hmv _ _)

theorem Wired.of_filter (h : s.Wired) {keep : Listener Handler → Bool}
    (hlisteners : s'.hub.link.listeners = s.hub.link.listeners.filter keep)
    (hnext : s'.hub.link.nextListener = s.hub.link.nextListener)
    (hgeneration : s'.hub.registry.generation = s.hub.registry.generation)
    (hfeed : s'.hub.registry.nextFeed = s.hub.registry.nextFeed)
    (hentry : ∀ service e, s'.subscription? service = some e → s.subscription? service = some e ∧
      ∀ x ∈ s.hub.link.tapsFor e.generation, keep x) : s'.Wired := by
  have hold : ∀ x ∈ s'.hub.link.listeners, x ∈ s.hub.link.listeners := by
    intro x hx
    rw [hlisteners] at hx
    exact List.mem_of_mem_filter hx
  refine h.of_kept (fun x hx _ _ => hold x hx) ?_ (fun x hx => ?_) (Nat.le_of_eq hgeneration.symm)
    hfeed fun service e he => ?_
  · rw [hlisteners]
    exact h.ids.sublist (List.filter_sublist.map _)
  · rw [hnext]
    exact h.fresh x (hold x hx)
  · obtain ⟨hf, hkeep⟩ := hentry service e he
    exact .inr ⟨e, [], hf, e.hear_nil.symm, Link.tapsFor_of_filter hlisteners hkeep⟩

theorem Wired.listened (h : s.Wired) (method : String) :
    (s.mapLink fun l => (l.listen method .caller).2).Wired := by
  have hlisteners : ((s.hub.link.listen method .caller).2).listeners =
      s.hub.link.listeners ++ [⟨s.hub.link.nextListener, method, .caller⟩] := rfl
  refine h.of_kept (fun x hx t ht => ?_) ?_ (fun x hx => ?_) (Nat.le_refl _) rfl fun k e he => ?_
  · rcases List.mem_append.1 hx with hx | hx
    · exact hx
    · cases List.mem_singleton.1 hx
      cases ht
  · show (((s.hub.link.listen method .caller).2).listeners.map (·.id)).Nodup
    rw [hlisteners, List.map_append]
    refine h.ids.append (List.nodup_singleton _) fun id hold hnew => ?_
    obtain ⟨x, hx, rfl⟩ := List.mem_map.1 hold
    exact absurd (List.mem_singleton.1 hnew) (Nat.ne_of_lt (h.fresh x hx))
  · show x.id < s.hub.link.nextListener + 1
    rcases List.mem_append.1 hx with hx | hx
    · exact Nat.lt_succ_of_lt (h.fresh x hx)
    · cases List.mem_singleton.1 hx
      exact Nat.lt_succ_self _
  · refine .inr ⟨e, [], he, e.hear_nil.symm, Link.tapsFor_of_append hlisteners fun x hx t ht => ?_⟩
    cases List.mem_singleton.1 hx
    cases ht

theorem Wired.unlistened (h : s.Wired) {id : Nat}
    (hcaller : s.hub.link.listeners.any fun x => x.id = id ∧ x.handler.isCaller) :
    (s.mapLink (·.unlisten id)).Wired := by
  obtain ⟨y, hy, hyid⟩ := List.any_eq_true.1 hcaller
  obtain ⟨hyid, hycaller⟩ := of_decide_eq_true hyid
  have hlisteners : (s.hub.link.unlisten id).listeners = s.hub.link.listeners.filter (·.id ≠ id) := rfl
  refine h.of_filter hlisteners rfl rfl rfl fun k e he => ⟨he, fun x hx => ?_⟩
  obtain ⟨hmem, t, ht, -⟩ := Link.mem_tapsFor.1 hx
  refine decide_eq_true fun hid => ?_
  have hsame := Link.eq_of_id h.ids hmem hy (hid.trans hyid.symm)
  rw [← hsame, ht] at hycaller
  cases hycaller

theorem Wired.unsubscribed (h : s.Wired) (hn : s.Numbered) {service : String} {e : Entry}
    {link : Link Handler} (he : s.hub.registry.entry? service = some e)
    (hlink : (e.unbind s.hub.link).SocketOnly link) :
    (s.mapHub fun h => { h with link, registry := h.registry.erase service }).Wired := by
  have hunbind := e.listeners_unbind s.hub.link
  have hnext := e.nextListener_unbind s.hub.link
  refine h.of_filter (hlink.listeners.trans hunbind) (hlink.nextListener.trans hnext) rfl rfl
    fun k f hf => ?_
  have hins := (Registry.entry?_erase s.hub.registry service k).symm.trans hf
  split at hins
  · cases hins
  · rename_i hk
    refine ⟨hins, fun x hx => ?_⟩
    obtain ⟨hmem, t, ht, hstream⟩ := Link.mem_tapsFor.1 hx
    refine decide_eq_true fun hid => ?_
    obtain ⟨y, hy, hyid⟩ := List.mem_map.1 hid
    -- the other subscription has this listener only if it has the same number
    rw [← (h.entry service e he).taps] at hy
    obtain ⟨hmemy, u, hu, hustream⟩ := Link.mem_tapsFor.1 hy
    cases Link.eq_of_id h.ids hmem hmemy hyid.symm
    rw [ht] at hu
    cases hu
    exact hk (hn.unique service k e f he hins (hustream.symm.trans hstream))

theorem Step.listeners_of_disconnected (h : Step timeout s .disconnected s') :
    s'.hub.link.listeners = s.hub.link.listeners.filter (fun x =>
        s.hub.registry.entries.values.all fun e => x.id ∉ e.listeners.map (·.id)) ∧
      s'.hub.link.nextListener = s.hub.link.nextListener := by
  let reset : Hub := { s.hub with registry := s.hub.registry.reset }
  cases h with
  | disconnected => exact ⟨reset.listeners_closeAll _, reset.nextListener_closeAll _⟩

theorem Wired.disconnected (h : s.Wired) (hstep : Step timeout s .disconnected s') : s'.Wired := by
  have hregistry := hstep.registry_of_disconnected
  obtain ⟨hlisteners, hnext⟩ := hstep.listeners_of_disconnected
  refine h.of_filter hlisteners hnext (congrArg (·.generation) hregistry)
    (congrArg (·.nextFeed) hregistry) fun k e he => ?_
  rw [hstep.subscription?_of_disconnected] at he
  cases he

theorem Step.wired (h : Step timeout s mv s') (hn : s.Numbered) (hw : s.Wired) : s'.Wired := by
  have hmove := h
  cases h with
  | calls hstep hne hlink =>
    exact hw.of_same hmove hlink.listeners hlink.nextListener rfl fun _ _ => Move.noConfusion
  | message m =>
    have hlink := Link.receive_eq s.hub.link m
    exact hw.of_same hmove (congrArg (·.listeners) hlink) (congrArg (·.nextListener) hlink) rfl
      fun _ _ => Move.noConfusion
  | aside services formats protocols hlink =>
    exact hw.of_same hmove hlink.listeners hlink.nextListener rfl fun _ _ => Move.noConfusion
  | listened method => exact hw.listened method
  | unlistened hcaller => exact hw.unlistened hcaller
  | unknown hnone => exact hw
  | already he => exact hw
  | entered requested hpath hnone =>
    exact hw.of_same hmove rfl rfl rfl fun _ _ => Move.noConfusion
  | @unasked _ now a cause link ha hstage hcall =>
    have hsame := (Link.call_settles s.hub.link now (a.path ++ Client.subscribeMethod) none).unheard
    rw [hcall] at hsame
    exact hw.of_same hmove hsame.listeners hsame.nextListener rfl fun _ _ => Move.noConfusion
  | @asked _ now a receipt link ha hstage hcall =>
    have hsame := (Link.call_settles s.hub.link now (a.path ++ Client.subscribeMethod) none).unheard
    rw [hcall] at hsame
    exact hw.of_same hmove hsame.listeners hsame.nextListener rfl fun _ _ => Move.noConfusion
  | answered ha hstage htake =>
    exact hw.of_same hmove rfl rfl rfl fun _ _ => Move.noConfusion
  | failed ha hstage =>
    exact hw.of_same hmove rfl rfl (Registry.nextFeed_discard _ _ _)
      fun _ _ h => by cases h
  | closed ha hstage hnone =>
    exact hw.of_same hmove rfl rfl rfl fun _ _ h => by cases h
  | concluded ha hstage hconcluded =>
    cases hconcluded with
    | rejected =>
      exact hw.of_same hmove rfl rfl (Registry.nextFeed_discard _ _ _) fun _ _ h => by cases h
    | unversioned =>
      exact hw.of_same hmove rfl rfl (Registry.nextFeed_discard _ _ _) fun _ _ h => by cases h
    | closed => exact hw.of_same hmove rfl rfl rfl fun _ _ h => by cases h
    | established hversion hcurrent =>
      obtain ⟨he, hg⟩ := Registry.entry?_of_current? hcurrent
      exact hw.of_established hn he (hn.own _ _ _ _ ha he hg).2.2 _ _
  | unsubscribed he hlink => exact hw.unsubscribed hn he hlink
  | disconnected => exact hw.disconnected hmove
  | released stream =>
    exact hw.of_same hmove rfl rfl rfl fun _ _ => Move.noConfusion
  | drained stream => exact hw.of_same hmove rfl rfl rfl fun _ _ => Move.noConfusion

end Scene
end ServiceLink
