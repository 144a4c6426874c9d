import ServiceLink.Proofs.Client.Scene
import ServiceLink.Proofs.Subscription.Rewiring

/-! What a move does to the subscriptions that are entered. Generations are given once, so that an attempt
finds its own entry or none. -/

namespace ServiceLink

namespace Registry

theorem entry?_of_current? {r : Registry} {service : String} {generation : Nat} {e : Entry}
    (h : r.current? service generation = some e) :
    r.entry? service = some e ∧ e.generation = generation := by
  obtain ⟨hentry, hg⟩ := Option.filter_eq_some_iff.1 h
  exact ⟨hentry, of_decide_eq_true hg⟩

theorem ne_of_current?_eq_none {r : Registry} {service : String} {generation : Nat} {e : Entry}
    (h : r.current? service generation = none) (he : r.entry? service = some e) :
    e.generation ≠ generation := by
  intro hg
  simp [current?, he, hg] at h

theorem entry?_hear (r : Registry) (pushes : List Push) (service : String) :
    Registry.entry? (r.hear pushes) service = (r.entry? service).map (·.hear pushes) := Dict.find?_map

theorem entry?_insert (r : Registry) (service path k : String) (requested : List String) :
    Registry.entry? (r.insert service path requested) k =
      if service = k then some { generation := r.generation + 1, path, requested }
      else r.entry? k := Dict.find?_insert

theorem entry?_erase (r : Registry) (service k : String) :
    Registry.entry? (r.erase service) k = if service = k then none else r.entry? k := Dict.find?_erase

theorem entry?_discard {r : Registry} {service k : String} {generation : Nat} {e : Entry}
    (hown : ∀ k e, r.entry? k = some e → e.generation = generation → k = service) :
    Registry.entry? (r.discard service generation) k = some e ↔
      r.entry? k = some e ∧ e.generation ≠ generation := by
  unfold discard
  cases hc : r.current? service generation with
  | none =>
    refine ⟨fun he => ⟨he, fun hg => ?_⟩, fun he => he.1⟩
    have hk : k = service := hown k e he hg
    exact ne_of_current?_eq_none hc (hk ▸ he) hg
  | some f =>
    obtain ⟨hf, hgf⟩ := entry?_of_current? hc
    rw [if_pos (by simp), entry?_erase]
    by_cases hk : service = k
    · subst hk
      simp only [if_true, reduceCtorEq, false_iff, not_and, not_not]
      intro he
      rw [hf] at he
      cases he
      exact hgf
    · rw [if_neg hk]
      exact ⟨fun he => ⟨he, fun hg => hk (hown k e he hg).symm⟩, fun he => he.1⟩

theorem entry?_discard_of_ne {r : Registry} {service k : String} (generation : Nat) (h : k ≠ service) :
    Registry.entry? (r.discard service generation) k = r.entry? k := by
  unfold discard
  split
  · rw [entry?_erase, if_neg h.symm]
  · rfl

theorem entry?_establish (r : Registry) (l : Link Handler) (service k : String) (e : Entry)
    (schema : Schema) :
    Registry.entry? (r.establish l service e schema).2.1 k =
      if service = k then
        some { e with live := some { schema, feed := (r.establish l service e schema).1 } }
      else r.entry? k := Dict.find?_insert

end Registry

namespace Scene

variable {timeout : Nat} {s s' : Scene} {mv : Move}

def subscription? (s : Scene) (service : String) : Option Entry := s.hub.registry.entry? service

/-- The pushes in the message of a move. -/
def heard (s : Scene) (mv : Move) : List Push :=
  (mv.message?.map fun m => (s.hub.link.receive m).pushes).getD []

/-- Where an entry that stands after a move comes from. -/
inductive Origin (s : Scene) (mv : Move) (service : String) (e : Entry) : Prop
  /-- It was entered by the move. -/
  | entered : mv = .entered e.generation service e.path e.requested →
      e.generation = s.hub.registry.generation + 1 → e.live = none → s.subscription? service = none →
      Origin s mv service e
  /-- It stood before, and heard what was pushed. -/
  | kept {f : Entry} : s.subscription? service = some f → e = f.hear (s.heard mv) →
      Origin s mv service e
  /-- It was made live by the answer to its own attempt. -/
  | established {f : Entry} {a : Attempt} {ack : Json} {version : String} {feed : Feed} :
      s.subscription? service = some f → e = { f with live := some { schema := Schema.read ack, feed } } →
      s.attempts f.generation = some a → a.service = service → a.stage = .answered (.ok ack) →
      (Schema.read ack).version = some version →
      mv = .ended f.generation (.ok { service, version
                                      methods := (Schema.read ack).methods
                                      properties := (Schema.read ack).properties
                                      stream := f.generation }) →
      Origin s mv service e

theorem Origin.same {service : String} {e : Entry} (h : s.subscription? service = some e)
    (hmv : mv.message? = none) : Origin s mv service e := by
  refine .kept h ?_
  rw [heard, hmv]
  exact (Entry.hear_nil e).symm

theorem entry?_of_erase {r : Registry} {service k : String} {e : Entry}
    (h : Registry.entry? (r.erase service) k = some e) : r.entry? k = some e := by
  rw [Registry.entry?_erase] at h
  split at h
  · cases h
  · exact h

theorem entry?_of_discard {r : Registry} {service k : String} {generation : Nat} {e : Entry}
    (h : Registry.entry? (r.discard service generation) k = some e) : r.entry? k = some e := by
  unfold Registry.discard at h
  split at h
  · exact entry?_of_erase h
  · exact h

theorem Step.registry_of_disconnected (h : Step timeout s .disconnected s') :
    s'.hub.registry = s.hub.registry.reset := by
  cases h with
  | disconnected =>
    exact Hub.registry_closeAll { s.hub with registry := s.hub.registry.reset }
      s.hub.registry.entries.values

theorem Step.subscription?_of_disconnected (h : Step timeout s .disconnected s') (service : String) :
    s'.subscription? service = none := by
  rw [subscription?, h.registry_of_disconnected]
  rfl

/-- Every entry after a move was entered by it, made live by it, or stood before. -/
theorem Step.origin (h : Step timeout s mv s') {service : String} {e : Entry}
    (he : s'.subscription? service = some e) : Origin s mv service e := by
  have hmove := h
  cases h with
  | calls => exact .same he rfl
  | message m =>
    have hmap : ((s.hub.registry.entry? service).map (·.hear (s.hub.link.receive m).pushes)) =
        some e := (Registry.entry?_hear _ _ _).symm.trans he
    obtain ⟨f, hf, rfl⟩ := Option.map_eq_some_iff.1 hmap
    exact .kept hf rfl
  | aside => exact .same he rfl
  | listened => exact .same he rfl
  | unlistened => exact .same he rfl
  | unknown => exact .same he rfl
  | already => exact .same he rfl
  | @entered k path requested hpath hnone =>
    have hins := (Registry.entry?_insert s.hub.registry k path service requested).symm.trans he
    split at hins
    · rename_i hk
      cases hins
      exact .entered (hk ▸ rfl) rfl rfl (hk ▸ hnone)
    · exact .same hins rfl
  | unasked => exact .same he rfl
  | asked => exact .same he rfl
  | answered => exact .same he rfl
  | failed => exact .same (entry?_of_discard he) rfl
  | closed => exact .same he rfl
  | @concluded generation a outcome result hub ha hstage hconcluded =>
    cases hconcluded with
    | rejected => exact .same (entry?_of_discard he) rfl
    | unversioned => exact .same (entry?_of_discard he) rfl
    | closed => exact .same he rfl
    | @established ack version f hversion hcurrent =>
      obtain ⟨hf, hg⟩ := Registry.entry?_of_current? hcurrent
      have hest := (Registry.entry?_establish s.hub.registry s.hub.link a.service service f
        (Schema.read ack)).symm.trans he
      split at hest
      · rename_i hk
        subst hk hg
        exact .established hf (Option.some.inj hest).symm ha rfl hstage hversion rfl
      · exact .same hest rfl
  | unsubscribed => exact .same (entry?_of_erase he) rfl
  | disconnected =>
    rw [hmove.subscription?_of_disconnected] at he
    cases he
  | released => exact .same he rfl
  | drained => exact .same he rfl

/-! ### Attempts -/

/-- How an attempt came to the stage at which it is after a move. -/
inductive Progress (s : Scene) (mv : Move) (generation : Nat) (a : Attempt) : Prop
  | entered {requested : List String} : mv = .entered generation a.service a.path requested →
      generation = s.hub.registry.generation + 1 → a.stage = .entered → Progress s mv generation a
  | kept : s.attempts generation = some a → (∀ result, mv ≠ .ended generation result) →
      Progress s mv generation a
  | unasked {b : Attempt} {cause : LinkError} : s.attempts generation = some b →
      b.stage = .entered → mv = .unasked generation cause → a = { b with stage := .unasked cause } →
      Progress s mv generation a
  | asked {b : Attempt} {now : Nat} {receipt : Receipt} : s.attempts generation = some b →
      b.stage = .entered → mv = .asked generation now receipt →
      a = { b with stage := .asked receipt.ticket } → Progress s mv generation a
  | answered {b : Attempt} {ticket : Ticket} {outcome : Outcome} :
      s.attempts generation = some b → b.stage = .asked ticket →
      (s.hub.link.calls.take ticket).1 = some outcome →
      mv = .answered generation ticket outcome → a = { b with stage := .answered outcome } →
      Progress s mv generation a

theorem progress_of_update {generation g : Nat} {a b : Attempt}
    (h : Function.update s.attempts generation (some b) g = some a)
    (hown : g = generation → b = a → Progress s mv g a) (hends : ∀ g result, mv ≠ .ended g result) :
    Progress s mv g a := by
  by_cases hg : g = generation
  · subst hg
    rw [Function.update_self] at h
    exact hown rfl (Option.some.inj h)
  · rw [Function.update_of_ne hg] at h
    exact .kept h (hends g)

theorem progress_of_dismiss {generation g : Nat} {a : Attempt}
    {result : Except SubscriptionError SubscriptionInfo}
    (h : Function.update s.attempts generation none g = some a) :
    Progress s (.ended generation result) g a := by
  by_cases hg : g = generation
  · rw [hg, Function.update_self] at h
    cases h
  · rw [Function.update_of_ne hg] at h
    refine .kept h fun result heq => ?_
    cases heq
    exact hg rfl

theorem Step.progress (h : Step timeout s mv s') {generation : Nat} {a : Attempt}
    (ha : s'.attempts generation = some a) : Progress s mv generation a := by
  cases h with
  | @entered service path requested hpath hnone =>
    refine progress_of_update ha (fun hg hb => ?_) fun _ _ => Move.noConfusion
    subst hb hg
    exact .entered rfl rfl rfl
  | unasked hb hstage =>
    refine progress_of_update ha (fun hg heq => ?_) fun _ _ => Move.noConfusion
    subst hg
    exact .unasked hb hstage rfl heq.symm
  | asked hb hstage =>
    refine progress_of_update ha (fun hg heq => ?_) fun _ _ => Move.noConfusion
    subst hg
    exact .asked hb hstage rfl heq.symm
  | answered hb hstage htake =>
    refine progress_of_update ha (fun hg heq => ?_) fun _ _ => Move.noConfusion
    subst hg
    exact .answered hb hstage htake rfl heq.symm
  | failed => exact progress_of_dismiss ha
  | closed => exact progress_of_dismiss ha
  | concluded => exact progress_of_dismiss ha
  | _ => exact .kept ha fun _ => Move.noConfusion

theorem Step.generation_le (h : Step timeout s mv s') :
    s.hub.registry.generation ≤ s'.hub.registry.generation := by
  have hdiscard : ∀ (r : Registry) service g, (r.discard service g).generation = r.generation := by
    intro r service g
    unfold Registry.discard
    split <;> rfl
  have hmove := h
  cases h with
  | entered => exact Nat.le_succ _
  | failed => exact Nat.le_of_eq (hdiscard _ _ _).symm
  | concluded _ _ hconcluded =>
    cases hconcluded with
    | rejected => exact Nat.le_of_eq (hdiscard _ _ _).symm
    | unversioned => exact Nat.le_of_eq (hdiscard _ _ _).symm
    | closed => exact Nat.le_refl _
    | established => exact Nat.le_refl _
  | disconnected => exact Nat.le_of_eq (congrArg (·.generation) hmove.registry_of_disconnected).symm
  | _ => exact Nat.le_refl _

theorem generation_le_of_trace {moves : List Move} (h : Trace (Step timeout) s moves s') :
    s.hub.registry.generation ≤ s'.hub.registry.generation := by
  induction h with
  | start => exact Nat.le_refl _
  | step _ hstep ih => exact Nat.le_trans ih hstep.generation_le

theorem Step.generation_entered {generation : Nat} {service path : String} {requested : List String}
    (h : Step timeout s (.entered generation service path requested) s') :
    s'.hub.registry.generation = generation ∧ generation = s.hub.registry.generation + 1 := by
  cases h with
  | entered => exact ⟨rfl, rfl⟩

theorem Step.stream_of_ended {generation : Nat} {info : SubscriptionInfo}
    (h : Step timeout s (.ended generation (.ok info)) s') : info.stream = generation := by
  cases h with
  | concluded _ _ hconcluded =>
    cases hconcluded with
    | established => rfl

/-- Generations are given once, and an attempt that is under way has no live entry. -/
structure Numbered (s : Scene) : Prop where
  entry : ∀ service e, s.subscription? service = some e → e.generation ≤ s.hub.registry.generation
  unique : ∀ k k' e e', s.subscription? k = some e → s.subscription? k' = some e' →
    e.generation = e'.generation → k = k'
  attempt : ∀ g a, s.attempts g = some a → g ≤ s.hub.registry.generation
  own : ∀ g a service e, s.attempts g = some a → s.subscription? service = some e → e.generation = g →
    service = a.service ∧ e.path = a.path ∧ e.live = none

theorem numbered_start (settings : Link.Settings) : (start settings).Numbered where
  entry _ _ he := by cases he
  unique _ _ _ _ he := by cases he
  attempt _ _ ha := by cases ha
  own _ _ _ _ ha := by cases ha

theorem Origin.generation {service : String} {e : Entry} (h : Origin s mv service e) :
    (∃ f, s.subscription? service = some f ∧ f.generation = e.generation) ∨
      mv = .entered e.generation service e.path e.requested ∧
        e.generation = s.hub.registry.generation + 1 := by
  cases h with
  | entered hmv hg => exact .inr ⟨hmv, hg⟩
  | kept hf he => exact .inl ⟨_, hf, he ▸ rfl⟩
  | established hf he => exact .inl ⟨_, hf, he ▸ rfl⟩

theorem Progress.attempt {g : Nat} {a : Attempt} (h : Progress s mv g a) :
    (∃ b, s.attempts g = some b ∧ b.service = a.service ∧ b.path = a.path ∧
        ∀ result, mv ≠ .ended g result) ∨
      ∃ requested, mv = .entered g a.service a.path requested ∧
        g = s.hub.registry.generation + 1 := by
  cases h with
  | entered hmv hg => exact .inr ⟨_, hmv, hg⟩
  | kept hb hends => exact .inl ⟨a, hb, rfl, rfl, hends⟩
  | unasked hb _ hmv ha => exact .inl ⟨_, hb, ha ▸ rfl, ha ▸ rfl, hmv ▸ fun _ => Move.noConfusion⟩
  | asked hb _ hmv ha => exact .inl ⟨_, hb, ha ▸ rfl, ha ▸ rfl, hmv ▸ fun _ => Move.noConfusion⟩
  | answered hb _ _ hmv ha => exact .inl ⟨_, hb, ha ▸ rfl, ha ▸ rfl, hmv ▸ fun _ => Move.noConfusion⟩

theorem Step.own (h : Step timeout s mv s') (hn : s.Numbered) {g : Nat} {a : Attempt}
    {service : String} {e : Entry} (ha : s'.attempts g = some a) (he : s'.subscription? service = some e)
    (hg : e.generation = g) : service = a.service ∧ e.path = a.path ∧ e.live = none := by
  subst hg
  rcases (h.progress ha).attempt with ⟨b, hb, hservice, hpath, hends⟩ | ⟨requested, hmv, hnew⟩
  · have hle := hn.attempt _ b hb
    cases h.origin he with
    | entered _ hg => omega
    | kept hf heq =>
      subst heq
      obtain ⟨hs, hp, hl⟩ := hn.own _ b service _ hb hf rfl
      exact ⟨hs.trans hservice, hp.trans hpath, by simp [Entry.hear, hl]⟩
    | established _ heq _ _ _ _ hmv =>
      subst heq
      exact absurd hmv (hends _)
  · cases h.origin he with
    | entered hmv' _ hl =>
      rw [hmv] at hmv'
      injection hmv' with _ hs hp
      exact ⟨hs.symm, hp.symm, hl⟩
    | kept hf heq =>
      subst heq
      have hle := hn.entry service _ hf
      exact absurd hnew (Nat.ne_of_lt (Nat.lt_succ_of_le hle))
    | established _ _ _ _ _ _ hmv' =>
      rw [hmv] at hmv'
      cases hmv'

theorem Step.numbered (h : Step timeout s mv s') (hn : s.Numbered) : s'.Numbered where
  entry service e he := by
    rcases (h.origin he).generation with ⟨f, hf, hg⟩ | ⟨hmv, hg⟩
    · exact hg ▸ Nat.le_trans (hn.entry service f hf) h.generation_le
    · subst hmv
      exact Nat.le_of_eq h.generation_entered.1.symm
  unique k k' e e' he he' hgg := by
    rcases (h.origin he).generation with ⟨f, hf, hg⟩ | ⟨hmv, hg⟩ <;>
      rcases (h.origin he').generation with ⟨f', hf', hg'⟩ | ⟨hmv', hg'⟩
    · exact hn.unique k k' f f' hf hf' (hg.trans (hgg.trans hg'.symm))
    · have := hn.entry k f hf
      omega
    · have := hn.entry k' f' hf'
      omega
    · rw [hmv] at hmv'
      injection hmv'
  attempt g a ha := by
    rcases (h.progress ha).attempt with ⟨b, hb, -⟩ | ⟨requested, hmv, -⟩
    · exact Nat.le_trans (hn.attempt g b hb) h.generation_le
    · subst hmv
      exact Nat.le_of_eq h.generation_entered.1.symm
  own _ _ _ _ ha he hg := h.own hn ha he hg

/-! ### Failures -/

/-- What a failed attempt leaves: all entries but its own, the listeners and the catalog. -/
structure Abandoned (s : Scene) (generation : Nat) (s' : Scene) : Prop where
  entry : ∀ service e,
    s'.subscription? service = some e ↔ s.subscription? service = some e ∧ e.generation ≠ generation
  listeners : s'.hub.link.listeners = s.hub.link.listeners
  services : s'.hub.registry.services = s.hub.registry.services

theorem abandoned_discard (hn : s.Numbered) {generation : Nat} {a : Attempt}
    (ha : s.attempts generation = some a) (attempts : Nat → Option Attempt) :
    Abandoned s generation
      { hub := { s.hub with registry := s.hub.registry.discard a.service generation }, attempts } where
  entry service e := Registry.entry?_discard fun k e he hg => (hn.own generation a k e ha he hg).1
  listeners := rfl
  services := by
    show (s.hub.registry.discard a.service generation).services = s.hub.registry.services
    unfold Registry.discard
    split <;> rfl

theorem abandoned_closed (hn : s.Numbered) {generation : Nat} {a : Attempt}
    (ha : s.attempts generation = some a)
    (hclosed : s.hub.registry.current? a.service generation = none)
    (attempts : Nat → Option Attempt) : Abandoned s generation { hub := s.hub, attempts } where
  entry service e := by
    refine ⟨fun he => ⟨he, fun hg => ?_⟩, fun he => he.1⟩
    obtain ⟨hservice, -⟩ := hn.own generation a service e ha he hg
    subst hservice
    exact Registry.ne_of_current?_eq_none hclosed he hg
  listeners := rfl
  services := rfl

theorem Step.abandoned {generation : Nat} {cause : SubscriptionError}
    (h : Step timeout s (.ended generation (.error cause)) s') (hn : s.Numbered) :
    s.Abandoned generation s' := by
  cases h with
  | failed ha => exact abandoned_discard hn ha _
  | closed ha _ hclosed => exact abandoned_closed hn ha hclosed _
  | concluded ha _ hconcluded =>
    cases hconcluded with
    | rejected => exact abandoned_discard hn ha _
    | unversioned => exact abandoned_discard hn ha _
    | closed hclosed => exact abandoned_closed hn ha hclosed _

theorem Step.others {generation : Nat} (h : Step timeout s mv s') (hn : s.Numbered)
    (hmv : mv.attempt? = some generation) {service : String} {e : Entry}
    (hne : e.generation ≠ generation) :
    s'.subscription? service = some e ↔ s.subscription? service = some e := by
  have hfailed : ∀ {cause}, mv = .ended generation (.error cause) →
      (s'.subscription? service = some e ↔ s.subscription? service = some e) := by
    rintro cause rfl
    rw [(h.abandoned hn).entry]
    exact and_iff_left hne
  cases h with
  | unasked => exact Iff.rfl
  | asked => exact Iff.rfl
  | answered => exact Iff.rfl
  | failed => exact hfailed (by cases hmv; rfl)
  | closed => exact Iff.rfl
  | concluded ha hstage hconcluded =>
    cases hmv
    cases hconcluded with
    | rejected => exact hfailed rfl
    | unversioned => exact hfailed rfl
    | closed => exact Iff.rfl
    | @established ack version f hversion hcurrent =>
      obtain ⟨hf, hg⟩ := Registry.entry?_of_current? hcurrent
      show Registry.entry? (Registry.establish _ _ _ _ _).2.1 service = some e ↔ _
      rw [Registry.entry?_establish]
      split
      · rename_i hk
        subst hk
        rw [show s.subscription? _ = some f from hf]
        refine ⟨fun heq => ?_, fun heq => ?_⟩
        · cases heq
          exact absurd hg hne
        · cases heq
          exact absurd hg hne
      · exact Iff.rfl
  | _ => cases hmv

/-- A generation that was given and stands no longer does not come back. -/
theorem Step.gone (h : Step timeout s mv s') {generation : Nat}
    (hle : generation ≤ s.hub.registry.generation)
    (hgone : ∀ service e, s.subscription? service = some e → e.generation ≠ generation) (service : String)
    (e : Entry) (he : s'.subscription? service = some e) : e.generation ≠ generation := by
  rcases (h.origin he).generation with ⟨f, hf, hg⟩ | ⟨-, hg⟩
  · exact hg ▸ hgone service f hf
  · omega

end Scene
end ServiceLink
