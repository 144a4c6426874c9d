import Mathlib.Data.List.Perm.Basic
import ServiceLink.Proofs.Client.Pushing

/-! The listeners on a link, callers' own left aside, are those of the live subscriptions: one for each
property that is requested and advertised, and none that its subscription has left behind. -/

namespace ServiceLink

theorem perm_flatMap_of_keys {α β : Type} (key : α → Nat) (owner : β → Nat) {part : β → List α}
    {members : List α} {owners : List β} (hnodup : (owners.map owner).Nodup)
    (hpart : ∀ b ∈ owners, members.filter (fun a => key a = owner b) = part b)
    (hcover : ∀ a ∈ members, ∃ b ∈ owners, key a = owner b) :
    members.Perm (owners.flatMap part) := by
  induction owners generalizing members with
  | nil =>
    have hnone : members = [] := List.eq_nil_iff_forall_not_mem.2 fun a ha => by
      obtain ⟨b, hb, -⟩ := hcover a ha
      cases hb
    rw [hnone]
    exact .nil
  | cons b owners ih =>
    obtain ⟨hb, hrest⟩ := List.nodup_cons.1 hnodup
    have hfirst := hpart b List.mem_cons_self
    let others := members.filter fun a => !decide (key a = owner b)
    have hothers : others.Perm (owners.flatMap part) := by
      refine ih hrest (fun d hd => ?_) fun a ha => ?_
      · have hne : owner d ≠ owner b := fun heq => hb (heq ▸ List.mem_map_of_mem hd)
        rw [← hpart d (List.mem_cons_of_mem _ hd), List.filter_filter]
        refine List.filter_congr fun a _ => ?_
        by_cases hkey : key a = owner d <;> simp [hkey, hne]
      · obtain ⟨hmem, hkey⟩ := List.mem_filter.1 ha
        obtain ⟨d, hd, heq⟩ := hcover a hmem
        rcases List.mem_cons.1 hd with rfl | hd
        · simp [heq] at hkey
        · exact ⟨d, hd, heq⟩
    calc members.Perm (members.filter (fun a => key a = owner b) ++ others) :=
          (List.filter_append_perm _ members).symm
      _ = part b ++ others := by rw [hfirst]
      List.Perm _ (part b ++ owners.flatMap part) := hothers.append_left _

namespace Link

/-- The listeners that feed streams, each by its method and its tap. -/
def taps (l : Link Handler) : List (String × Tap) :=
  l.listeners.filterMap fun x => x.handler.tap?.map (x.method, ·)

theorem mem_taps {l : Link Handler} {p : String × Tap} :
    p ∈ l.taps ↔ ∃ x ∈ l.listeners, x.method = p.1 ∧ x.handler = .tap p.2 := by
  unfold taps
  rw [List.mem_filterMap]
  refine exists_congr fun x => and_congr_right fun _ => ?_
  cases x.handler with
  | caller => simp [Handler.tap?]
  | tap t => simp [Handler.tap?, Prod.ext_iff]

theorem filter_taps (l : Link Handler) (stream : Nat) :
    l.taps.filter (·.2.stream = stream) =
      (l.tapsFor stream).filterMap fun x => x.handler.tap?.map (x.method, ·) := by
  unfold taps tapsFor
  induction l.listeners with
  | nil => rfl
  | cons x rest ih =>
    cases hx : x.handler with
    | caller => simpa [hx, Handler.tap?] using ih
    | tap t =>
      by_cases ht : t.stream = stream <;> simpa [hx, ht, Handler.tap?] using ih

end Link

namespace Entry

/-- The taps that a subscription is to have: once it is live, one for each property that is requested
and advertised, under the method of its pushes. -/
def wiring (e : Entry) : List (String × Tap) :=
  match e.live with
  | none => []
  | some live => (live.schema.bound e.requested).map fun p =>
      (live.schema.pushMethod e.path p, ⟨live.feed.id, p, e.generation⟩)

theorem Wired.wiring {e : Entry} {l : Link Handler} {nextFeed : Nat} (h : e.Wired l nextFeed) :
    l.taps.filter (·.2.stream = e.generation) = e.wiring := by
  rw [Link.filter_taps, h.taps]
  unfold listeners Entry.wiring
  cases hlive : e.live with
  | none => rfl
  | some live =>
    have hbound := h.bound live hlive
    simp only [← hbound, Feed.listeners, Feed.bound, List.filterMap_map, List.map_map]
    exact congrFun List.filterMap_eq_map live.feed.taps

end Entry

def Registry.wiring (r : Registry) : List (String × Tap) := r.entries.values.flatMap Entry.wiring

namespace Scene

variable {timeout : Nat} {s s' : Scene} {mv : Move} {moves : List Move}

theorem Step.stays (h : Step timeout s mv s') (hn : s.Numbered) {service : String} {e : Entry}
    (he : s.subscription? service = some e) (hlive : e.live ≠ none)
    (hunsubscribed : mv ≠ .unsubscribed service) (hdisconnected : mv ≠ .disconnected) :
    s'.subscription? service = some (e.hear (s.heard mv)) := by
  have hsame : mv.message? = none → s'.subscription? service = some e →
      s'.subscription? service = some (e.hear (s.heard mv)) := by
    intro hmv he'
    rw [heard, hmv]
    exact he'.trans (congrArg some e.hear_nil.symm)
  -- an attempt under way has no live entry
  have hown : ∀ {generation a}, s.attempts generation = some a → e.generation ≠ generation :=
    fun {generation a} ha hg => hlive (hn.own generation a service e ha he hg).2.2
  have hfailed : ∀ {generation cause a}, mv = .ended generation (.error cause) →
      s.attempts generation = some a → s'.subscription? service = some (e.hear (s.heard mv)) := by
    rintro generation cause a rfl ha
    exact hsame rfl (((h.abandoned hn).entry service e).2 ⟨he, hown ha⟩)
  cases h with
  | message m => exact (Registry.entry?_hear _ _ _).trans (congrArg (Option.map _) he)
  | @entered k path requested hpath hnone =>
    have hk : k ≠ service := by
      rintro rfl
      exact Option.some_ne_none e (he.symm.trans hnone)
    refine hsame rfl ((Registry.entry?_insert s.hub.registry k path service requested).trans ?_)
    rwa [if_neg hk]
  | failed ha => exact hfailed rfl ha
  | closed ha => exact hfailed rfl ha
  | @concluded generation a outcome result hub ha hstage hconcluded =>
    cases hconcluded with
    | rejected => exact hfailed rfl ha
    | unversioned => exact hfailed rfl ha
    | closed => exact hfailed rfl ha
    | @established ack version f hversion hcurrent =>
      obtain ⟨hf, hg⟩ := Registry.entry?_of_current? hcurrent
      have hk : a.service ≠ service := by
        rintro rfl
        cases he.symm.trans hf
        exact hown ha hg
      refine hsame rfl ((Registry.entry?_establish s.hub.registry s.hub.link a.service service f
        (Schema.read ack)).trans ?_)
      rwa [if_neg hk]
  | @unsubscribed k f link hf hlink =>
    have hk : k ≠ service := fun heq => hunsubscribed (heq ▸ rfl)
    refine hsame rfl ((Registry.entry?_erase s.hub.registry k service).trans ?_)
    rwa [if_neg hk]
  | disconnected => exact absurd rfl hdisconnected
  | _ => exact hsame rfl he

/-- Every listener that feeds a stream belongs to a subscription that stands. -/
def Owned (s : Scene) : Prop :=
  ∀ x ∈ s.hub.link.listeners, ∀ t, x.handler = .tap t → ∃ service, s.Stands service t.stream

theorem owned_start (settings : Link.Settings) : (start settings).Owned := fun _ hx => by cases hx

theorem Owned.live (ho : s.Owned) (hw : s.Wired) {x : Listener Handler}
    (hx : x ∈ s.hub.link.listeners) {t : Tap} (ht : x.handler = .tap t) :
    ∃ service e, s.subscription? service = some e ∧ e.generation = t.stream ∧ e.live ≠ none ∧
      x ∈ e.listeners := by
  obtain ⟨service, e, he, hg⟩ := ho x hx t ht
  have hmem : x ∈ e.listeners := (hw.entry service e he).taps ▸ Link.mem_tapsFor.2 ⟨hx, t, ht, hg.symm⟩
  refine ⟨service, e, he, hg, fun hnone => ?_, hmem⟩
  simp [Entry.listeners, hnone] at hmem

theorem Owned.of_old (ho : s.Owned) (hw : s.Wired)
    (hold : ∀ x ∈ s'.hub.link.listeners, ∀ t, x.handler = .tap t → x ∈ s.hub.link.listeners)
    (hstays : ∀ x ∈ s'.hub.link.listeners, ∀ service e, s.subscription? service = some e →
      e.live ≠ none → x ∈ e.listeners → s'.Stands service e.generation) : s'.Owned := by
  intro x hx t ht
  obtain ⟨service, e, he, hg, hlive, hmem⟩ := ho.live hw (hold x hx t ht) ht
  exact ⟨service, hg ▸ hstays x hx service e he hlive hmem⟩

theorem Step.owned (h : Step timeout s mv s') (hn : s.Numbered) (hw : s.Wired) (ho : s.Owned) :
    s'.Owned := by
  have hstays : ∀ {service e}, s.subscription? service = some e → e.live ≠ none →
      mv ≠ .unsubscribed service → mv ≠ .disconnected → s'.Stands service e.generation :=
    fun he hlive hunsubscribed hdisconnected =>
      ⟨_, h.stays hn he hlive hunsubscribed hdisconnected, rfl⟩
  have hsame : s'.hub.link.listeners = s.hub.link.listeners → (∀ service, mv ≠ .unsubscribed service) →
      mv ≠ .disconnected → s'.Owned := fun hlisteners hunsubscribed hdisconnected =>
    ho.of_old hw (fun x hx _ _ => hlisteners ▸ hx) fun _ _ service e he hlive _ =>
      hstays he hlive (hunsubscribed service) hdisconnected
  have hmove := h
  cases h with
  | calls _ _ hlink => exact hsame hlink.listeners (fun _ => Move.noConfusion) Move.noConfusion
  | message m =>
    have hlisteners := congrArg (·.listeners) (Link.receive_eq s.hub.link m)
    exact hsame hlisteners (fun _ => Move.noConfusion) Move.noConfusion
  | aside _ _ _ hlink => exact hsame hlink.listeners (fun _ => Move.noConfusion) Move.noConfusion
  | listened method =>
    refine ho.of_old hw (fun x hx t ht => ?_) fun _ _ service e he hlive _ =>
      hstays he hlive Move.noConfusion Move.noConfusion
    rcases List.mem_append.1 hx with hx | hx
    · exact hx
    · cases List.mem_singleton.1 hx
      cases ht
  | unlistened =>
    exact ho.of_old hw (fun x hx _ _ => List.mem_of_mem_filter hx) fun _ _ service e he hlive _ =>
      hstays he hlive Move.noConfusion Move.noConfusion
  | @unasked _ now a cause link _ _ hcall =>
    have hlink := (Link.call_settles s.hub.link now (a.path ++ Client.subscribeMethod) none).unheard
    rw [hcall] at hlink
    exact hsame hlink.listeners (fun _ => Move.noConfusion) Move.noConfusion
  | @asked _ now a receipt link _ _ hcall =>
    have hlink := (Link.call_settles s.hub.link now (a.path ++ Client.subscribeMethod) none).unheard
    rw [hcall] at hlink
    exact hsame hlink.listeners (fun _ => Move.noConfusion) Move.noConfusion
  | @concluded generation a outcome result hub ha hstage hconcluded =>
    cases hconcluded with
    | @established ack version f hversion hcurrent =>
      obtain ⟨hf, -⟩ := Registry.entry?_of_current? hcurrent
      have hbinds := Feed.binds (Schema.read ack) f.path s.hub.registry.nextFeed f.generation
        f.requested s.hub.link
      have hstands := Registry.entry?_establish s.hub.registry s.hub.link a.service a.service f
        (Schema.read ack)
      rw [if_pos rfl] at hstands
      intro x hx t ht
      rcases hbinds.mem hx with hold | hnew
      · obtain ⟨service, e, he, hg, hlive, -⟩ := ho.live hw hold ht
        exact ⟨service, hg ▸ hstays he hlive Move.noConfusion Move.noConfusion⟩
      · exact ⟨a.service, _, hstands, (hbinds.tap hnew ht).1.symm⟩
    | _ => exact hsame rfl (fun _ => Move.noConfusion) Move.noConfusion
  | @unsubscribed k f link hf hlink =>
    have hlisteners : link.listeners = _ := hlink.listeners.trans (f.listeners_unbind s.hub.link)
    refine ho.of_old hw (fun x hx _ _ => ?_) fun x hx service e he hlive hmem => ?_
    · exact List.mem_of_mem_filter (hlisteners ▸ hx)
    · refine hstays he hlive (fun heq => ?_) Move.noConfusion
      cases heq
      cases he.symm.trans hf
      have hgone := (List.mem_filter.1 (hlisteners ▸ hx)).2
      exact of_decide_eq_true hgone (List.mem_map_of_mem hmem)
  | disconnected =>
    have hlisteners := hmove.listeners_of_disconnected.1
    refine ho.of_old hw (fun x hx _ _ => ?_) fun x hx service e he hlive hmem => ?_
    · exact List.mem_of_mem_filter (hlisteners ▸ hx)
    · have hgone := (List.mem_filter.1 (hlisteners ▸ hx)).2
      have he' := List.all_eq_true.1 hgone e (Dict.mem_values.2 ⟨service, he⟩)
      exact absurd (List.mem_map_of_mem hmem) (of_decide_eq_true he')
  | _ => exact hsame rfl (fun _ => Move.noConfusion) Move.noConfusion

theorem owned_of_trace (h : Trace (Step timeout) s moves s') (hk : s.Kept) (ho : s.Owned) : s'.Owned := by
  induction h with
  | start => exact ho
  | step htrace hstep ih =>
    have hbefore := kept_of_trace htrace hk
    exact hstep.owned hbefore.numbered hbefore.wired ih

theorem Numbered.nodup (hn : s.Numbered) : (s.hub.registry.entries.values.map (·.generation)).Nodup := by
  have hkeys := s.hub.registry.entries.ordered
  unfold Dict.values
  rw [List.map_map]
  refine List.pairwise_map.2 (hkeys.imp_of_mem fun {p q} hp hq hlt hg => ?_)
  have hk := hn.unique p.1 q.1 p.2 q.2 (Dict.find?_eq_some_iff.2 hp) (Dict.find?_eq_some_iff.2 hq) hg
  exact String.lt_irrefl _ (hk ▸ hlt)

theorem Owned.taps (ho : s.Owned) (hn : s.Numbered) (hw : s.Wired) :
    s.hub.link.taps.Perm s.hub.registry.wiring := by
  refine perm_flatMap_of_keys (fun p => p.2.stream) Entry.generation hn.nodup (fun e he => ?_)
    fun p hp => ?_
  · obtain ⟨service, he⟩ := Dict.mem_values.1 he
    exact (hw.entry service e he).wiring
  · obtain ⟨x, hx, -, ht⟩ := Link.mem_taps.1 hp
    obtain ⟨service, e, he, hg⟩ := ho x hx p.2 ht
    exact ⟨e, Dict.mem_values.2 ⟨service, he⟩, hg.symm⟩

end Scene

namespace Client

end Client
end ServiceLink
