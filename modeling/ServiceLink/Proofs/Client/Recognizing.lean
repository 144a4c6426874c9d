import ServiceLink.Proofs.Client.Deeds
import ServiceLink.Proofs.Client.Pushing
import ServiceLink.Proofs.Link.AllOrNothing

/-! Which calls a client recognizes, and what it sends for them. A call, a notification and a batch go by
the same rule, and a batch puts its receipts where the recognized calls stand. -/

namespace ServiceLink

namespace Registry

variable {r : Registry} {service method target : String}

/-- The acknowledgement of the subscription to a service, at a path, advertises a method. -/
def Advertises (r : Registry) (service method path : String) : Prop :=
  ∃ e live signature, r.entry? service = some e ∧ e.live = some live ∧ e.path = path ∧
    live.schema.methods.find? method = some signature

/-- A method of a service is recognized under an outbound name: at the path of the subscription that
advertises it, or, where none does, at the path in the service list. -/
inductive Recognizes (r : Registry) (service method : String) : String → Prop
  | advertised {path : String} :
      r.Advertises service method path → Recognizes r service method (path ++ method)
  | listed {d : ServiceDescriptor} :
      (∀ path, ¬ r.Advertises service method path) → r.services.find? service = some d →
      Recognizes r service method (d.path ++ method)

theorem advertises_iff {path : String} : r.Advertises service method path ↔
    ∃ e, (r.entry? service).filter (·.hasMethod method) = some e ∧ e.path = path := by
  constructor
  · rintro ⟨e, live, signature, he, hlive, hpath, hmethod⟩
    have hhas : e.hasMethod method := by
      simp [Entry.hasMethod, hlive, Schema.hasMethod, Dict.contains, hmethod]
    exact ⟨e, Option.filter_eq_some_iff.2 ⟨he, hhas⟩, hpath⟩
  · rintro ⟨e, he, hpath⟩
    obtain ⟨he, hhas⟩ := Option.filter_eq_some_iff.1 he
    obtain ⟨live, hlive, hmethod⟩ : ∃ live, e.live = some live ∧ live.schema.hasMethod method := by
      simpa [Entry.hasMethod, Option.any_eq_true] using hhas
    obtain ⟨signature, hmethod⟩ := Option.isSome_iff_exists.1 hmethod
    exact ⟨e, live, signature, he, hlive, hpath, hmethod⟩

theorem target?_eq_some_iff :
    r.target? service method = some target ↔ r.Recognizes service method target := by
  have hadvertises := @advertises_iff r service method
  unfold target?
  cases hfilter : (r.entry? service).filter (·.hasMethod method) with
  | some e =>
    have he : r.Advertises service method e.path := hadvertises.2 ⟨e, hfilter, rfl⟩
    refine ⟨?_, ?_⟩
    · rintro ⟨⟩
      exact .advertised he
    · rintro (h | ⟨hnone, -⟩)
      · obtain ⟨f, hf, rfl⟩ := hadvertises.1 h
        cases hfilter.symm.trans hf
        rfl
      · exact absurd he (hnone _)
  | none =>
    have hnone : ∀ path, ¬ r.Advertises service method path := by
      intro path h
      obtain ⟨e, he, -⟩ := hadvertises.1 h
      cases hfilter.symm.trans he
    refine ⟨fun h => ?_, ?_⟩
    · obtain ⟨d, hd, rfl⟩ := Option.map_eq_some_iff.1 h
      exact .listed hnone hd
    · rintro (h | ⟨-, hd⟩)
      · exact absurd h (hnone _)
      · exact Option.map_eq_some_iff.2 ⟨_, hd, rfl⟩

theorem target?_eq_none_iff :
    r.target? service method = none ↔ ∀ target, ¬ r.Recognizes service method target := by
  simp only [Option.eq_none_iff_forall_ne_some, ne_eq, target?_eq_some_iff]

end Registry

namespace Client

open Registry (Recognizes target?_eq_some_iff target?_eq_none_iff)

variable {c : Client}

/-- The entries that a batch of calls makes: one for each call that is recognized, in their order. -/
inductive Sifts (r : Registry) : List ServiceCall → List BatchEntry → Prop
  | nil : Sifts r [] []
  | recognized {call : ServiceCall} {calls : List ServiceCall} {target : String}
      {entries : List BatchEntry} : r.Recognizes call.service call.method target →
      Sifts r calls entries →
      Sifts r (call :: calls) ({ method := target, params := call.params } :: entries)
  | unrecognized {call : ServiceCall} {calls : List ServiceCall} {entries : List BatchEntry} :
      (∀ target, ¬ r.Recognizes call.service call.method target) → Sifts r calls entries →
      Sifts r (call :: calls) entries

def targets (r : Registry) (calls : List ServiceCall) : List (Option String) :=
  calls.map fun call => r.target? call.service call.method

def sifted (r : Registry) (calls : List ServiceCall) : List BatchEntry :=
  calls.filterMap fun call =>
    (r.target? call.service call.method).map fun method => { method, params := call.params }

theorem sifts_sifted (r : Registry) (calls : List ServiceCall) : Sifts r calls (sifted r calls) := by
  induction calls with
  | nil => exact .nil
  | cons call calls ih =>
    cases htarget : r.target? call.service call.method with
    | none =>
      have hsifted : sifted r (call :: calls) = sifted r calls := by simp [sifted, htarget]
      rw [hsifted]
      exact .unrecognized (target?_eq_none_iff.1 htarget) ih
    | some target =>
      have hsifted : sifted r (call :: calls) =
          { method := target, params := call.params } :: sifted r calls := by simp [sifted, htarget]
      rw [hsifted]
      exact .recognized (target?_eq_some_iff.1 htarget) ih

theorem Sifts.eq_sifted {r : Registry} {calls : List ServiceCall} {entries : List BatchEntry}
    (h : Sifts r calls entries) : entries = sifted r calls := by
  induction h with
  | nil => rfl
  | recognized htarget _ ih => simp [sifted, target?_eq_some_iff.2 htarget, ih]
  | unrecognized hnone _ ih => simp [sifted, target?_eq_none_iff.2 hnone, ih]

theorem length_sifted (r : Registry) (calls : List ServiceCall) :
    (sifted r calls).length = (targets r calls).countP (·.isSome) := by
  simp [sifted, targets, List.length_filterMap_eq_countP, List.countP_map, Function.comp_def]

theorem isNotification_sifted {r : Registry} {calls : List ServiceCall} {e : BatchEntry}
    (h : e ∈ sifted r calls) : e.isNotification = false := by
  obtain ⟨call, -, hcall⟩ := List.mem_filterMap.1 h
  obtain ⟨target, -, rfl⟩ := Option.map_eq_some_iff.1 hcall
  rfl

/-! ### The places of receipts -/

theorem placeReceipts_places (targets : List (Option String)) (receipts : List Receipt)
    (h : receipts.length = targets.countP (·.isSome)) :
    (placeReceipts targets (receipts.map some)).filterMap id = receipts ∧
      List.Forall₂ (fun target slot => slot.isSome = target.isSome) targets
        (placeReceipts targets (receipts.map some)) := by
  induction targets generalizing receipts with
  | nil => exact ⟨(List.length_eq_zero_iff.1 h).symm, .nil⟩
  | cons target targets ih =>
    cases target with
    | none =>
      obtain ⟨hreceipts, hplaces⟩ := ih receipts (by simpa using h)
      exact ⟨hreceipts, .cons rfl hplaces⟩
    | some target =>
      cases receipts with
      | nil => simp at h
      | cons receipt receipts =>
        obtain ⟨hreceipts, hplaces⟩ := ih receipts (by simpa using h)
        exact ⟨congrArg (receipt :: ·) hreceipts, .cons rfl hplaces⟩

theorem receipts_of_places {receipts : List (Option Receipt)} {entries : List BatchEntry}
    (h : receipts.map (·.isSome) = entries.map (! ·.isNotification))
    (hcalls : ∀ e ∈ entries, e.isNotification = false) :
    receipts = (receipts.filterMap id).map some ∧ (receipts.filterMap id).length = entries.length := by
  have hsome : ∀ receipt ∈ receipts, receipt.isSome := by
    intro receipt hmem
    have hplace : receipt.isSome ∈ entries.map (! ·.isNotification) := h ▸ List.mem_map_of_mem hmem
    obtain ⟨e, he, heq⟩ := List.mem_map.1 hplace
    rw [← heq, hcalls e he]
    rfl
  have hreceipts : (receipts.filterMap id).map some = receipts := by
    rw [List.map_filterMap_some_eq_filter_map_isSome, List.map_id, List.filter_eq_self.2 hsome]
  refine ⟨hreceipts.symm, ?_⟩
  have hlength := congrArg List.length hreceipts
  rw [List.length_map] at hlength
  rw [hlength]
  simpa using congrArg List.length h

/-! ### Sending -/

/-- A send of entries is all that becomes of a client, and it is all or nothing. -/
def Sends (c : Client) (entries : List BatchEntry) (frames : List Rpc.Request → List OutboundFrame)
    (result : Except LinkError (List (Option Receipt))) (c' : Client) : Prop :=
  c' = c.mapLink (fun _ => c'.link) ∧ c.link.AllOrNothing c.now entries frames result c'.link

/-- What becomes of a call of a service and of its notification. -/
structure OneByOne (c : Client) (service method : String) (params : Option Json) : Prop where
  call : ∀ target, c.registry.Recognizes service method target →
    c.Sends [{ method := target, params }] Link.separate
      ((c.call service method params).1.map fun receipt => [some receipt])
      (c.call service method params).2
  notify : ∀ target, c.registry.Recognizes service method target →
    c.Sends [{ method := target, params, isNotification := true }] Link.separate
      ((c.notify service method params).1.map fun _ => [none]) (c.notify service method params).2
  unrecognized : (∀ target, ¬ c.registry.Recognizes service method target) →
    c.call service method params = (.error (.unrecognizedCall service method), c) ∧
      c.notify service method params = (.error (.unrecognizedCall service method), c)

/-- What becomes of a batch of calls to services. -/
structure Together (c : Client) (calls : List ServiceCall) (entries : List BatchEntry) : Prop where
  sifts : Sifts c.registry calls entries
  sends : c.Sends entries Link.together
    ((c.batch calls).1.map fun slots => (slots.filterMap id).map some) (c.batch calls).2
  slots : ∀ slots, (c.batch calls).1 = .ok slots →
    List.Forall₂ (fun call slot =>
      slot.isSome ↔ ∃ target, c.registry.Recognizes call.service call.method target) calls slots

theorem oneByOne (hs : c.link.calls.Sound) (service method : String) (params : Option Json) :
    c.OneByOne service method params where
  call target htarget := by
    have hcall : c.call service method params = c.onLink (·.call c.now target params) := by
      unfold Client.call
      rw [target?_eq_some_iff.2 htarget]
    rw [hcall]
    exact ⟨rfl, (Link.call_settles c.link c.now target params).allOrNothing hs (Link.singleFrame_eq _)⟩
  notify target htarget := by
    have hnotify : c.notify service method params = c.onLink (·.notify target params) := by
      unfold Client.notify
      rw [target?_eq_some_iff.2 htarget]
    rw [hnotify]
    exact ⟨rfl, (Link.notify_settles c.link c.now target params).allOrNothing hs (Link.singleFrame_eq _)⟩
  unrecognized hnone := by
    have htarget := target?_eq_none_iff.2 hnone
    unfold Client.call Client.notify
    rw [htarget]
    exact ⟨rfl, rfl⟩

theorem batch_eq (c : Client) (calls : List ServiceCall) :
    c.batch calls =
      ((c.link.batch c.now (sifted c.registry calls)).1.map (placeReceipts (targets c.registry calls)),
        c.mapLink fun _ => (c.link.batch c.now (sifted c.registry calls)).2) := rfl

theorem together_sifted (hs : c.link.calls.Sound) (calls : List ServiceCall) :
    c.Together calls (sifted c.registry calls) := by
  let entries := sifted c.registry calls
  have hsends := (Link.batch_settles c.link c.now entries).allOrNothing hs (Link.batchFrame_eq entries)
  have hbatch := batch_eq c calls
  cases hresult : (c.link.batch c.now entries).1 with
  | error cause =>
    have herror : (c.batch calls).1 = .error cause := by
      rw [hbatch]
      exact congrArg (Except.map _) hresult
    refine ⟨sifts_sifted _ _, ⟨by rw [hbatch]; rfl, ?_⟩, fun slots hslots => ?_⟩
    · rw [herror, hbatch]
      rwa [hresult] at hsends
    · cases herror.symm.trans hslots
  | ok receipts =>
    rw [hresult] at hsends
    have hsent : c.link.Dispatched c.now entries Link.together receipts _ := hsends
    obtain ⟨hsome, hlength⟩ := receipts_of_places hsent.places fun e => isNotification_sifted
    rw [length_sifted] at hlength
    obtain ⟨hreceipts, hplaces⟩ := placeReceipts_places _ _ hlength
    rw [← hsome] at hreceipts hplaces
    let placed := placeReceipts (targets c.registry calls) receipts
    have hok : (c.batch calls).1 = .ok placed := by
      rw [hbatch]
      exact congrArg (Except.map _) hresult
    have hplaced : (placed.filterMap id).map some = receipts := by rw [hreceipts, ← hsome]
    refine ⟨sifts_sifted _ _, ⟨by rw [hbatch]; rfl, ?_⟩, fun slots hslots => ?_⟩
    · rw [hok, hbatch]
      show c.link.Dispatched c.now entries Link.together ((placed.filterMap id).map some) _
      rw [hplaced]
      exact hsent
    · cases hok.symm.trans hslots
      refine (List.forall₂_map_left_iff.1 hplaces).imp fun call slot hslot => ?_
      rw [hslot, Option.isSome_iff_exists]
      exact exists_congr fun target => target?_eq_some_iff

/-- In every state that a client reaches, in whatever order its tasks take turns, `call`, `notify` and `batch`
recognize methods by one rule and send them under the same names; a method that is not recognized leaves nothing but
its empty place. -/
theorem calls_recognized_alike {endpoint : String} {options : Options} {c₀ : Client}
    (hnew : Client.new endpoint options = .ok c₀) (inBackground : Bool) :
    let start := c₀.started inBackground
    (∀ before opening, start.Performs (before.flatten ++ opening) ((start.bursts before).burst opening)) ∧
      ∀ log c, Trace Does start log c →
        (∀ service method params, c.OneByOne service method params) ∧
          ∀ calls, ∃ entries, c.Together calls entries := by
  intro start
  refine ⟨fun before opening => (performs_bursts start before).trans (performs_burst _ opening),
    fun log c htrace => ?_⟩
  have htracked : IsTracked (options.linkSettings endpoint).callTimeout c [] :=
    isTracked_of_trace htrace (isTracked_of_new hnew inBackground)
  exact ⟨oneByOne htracked.sound, fun calls => ⟨_, together_sifted htracked.sound calls⟩⟩

theorem calls_recognized_alike_unlisted :
    let c := (AtOnce.start.started false).burst [.openSocket]
    let calls : List ServiceCall :=
      [⟨ServiceList.discoveryName, "Subscribe", none⟩, ⟨"power", "on", none⟩,
        ⟨ServiceList.discoveryName, "list", none⟩]
    c.Together calls
        [{ method := "/services/Subscribe", params := none }, { method := "/services/list", params := none }] ∧
      (c.batch calls).1 = .ok [some ⟨1, 0⟩, none, some ⟨2, 1⟩] ∧
        (c.call "power" "on" none).1 = .error (.unrecognizedCall "power" "on") := by
  intro c calls
  have hnew : Client.new "ws://h/" {} = .ok AtOnce.start := rfl
  have hopened : Does (AtOnce.start.started false) (.acted .openSocket []) c := .acted nofun
  obtain ⟨hone, hbatches⟩ := (calls_recognized_alike hnew false).2 _ c (.one hopened)
  obtain ⟨entries, htogether⟩ := hbatches calls
  have hentries : entries = sifted c.registry calls := htogether.sifts.eq_sifted
  have hunlisted : ∀ target, ¬ c.registry.Recognizes "power" "on" target := target?_eq_none_iff.1 rfl
  refine ⟨?_, rfl, congrArg Prod.fst ((hone "power" "on" none).unrecognized hunlisted).1⟩
  rw [hentries] at htogether
  exact htogether

end Client
end ServiceLink
