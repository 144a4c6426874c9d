import ServiceLink.Proofs.Link.Dispatching

/-! Feeds on one link, and their reference: one list of bindings in the order in which they were made. What a
board holds and hands on in any run is what its bindings say. -/

namespace ServiceLink

/-- A bound property of a feed, the method under which it is pushed, and the stream that is told. -/
structure Binding where
  feed : Nat
  property : String
  method : String
  stream : Nat
deriving DecidableEq, Repr

namespace Binding

def tap (b : Binding) : Tap := ⟨b.feed, b.property, b.stream⟩

def key (b : Binding) : Nat × String := (b.feed, b.property)

end Binding

namespace FeedBoard

/-! ### Runs -/

/-- What can be done with the feeds of a board, and what can come to them. -/
inductive Action
  | bind (feed stream : Nat) (properties : List String)
  | unbind (feed : Nat)
  | frame (text : String)
  /-- The receiving end of a stream goes. -/
  | release (stream : Nat)

def act (b : FeedBoard) : Action → FeedBoard
  | .bind i stream properties => b.bind i stream properties
  | .unbind i => b.unbind i
  | .frame text => b.handleFrame text
  | .release stream => b.release stream

def run (b : FeedBoard) (as : List Action) : FeedBoard := as.foldl act b

abbrev Offer := String × Dict PropertyDescriptor

def start (settings : Link.Settings) (offers : List Offer) (streams : Nat) : FeedBoard :=
  { FeedBoard.new settings offers with streams := (List.range streams).map fun id => { id } }

/-! ### The reference -/

namespace Action

def pushes : Action → List Rpc.Notification
  | .frame text => (Rpc.Frame.read text).messages.filterMap Rpc.Message.push?
  | _ => []

def binds (i : Nat) : Action → Bool
  | .bind j _ _ => j = i
  | _ => false

def releases (stream : Nat) : Action → Bool
  | .release s => s = stream
  | _ => false

end Action

/-- The binding of an advertised property: it is pushed under the path and its own name for pushes. -/
def binding? (offers : List Offer) (i stream : Nat) (property : String) : Option Binding :=
  offers[i]?.bind fun offer =>
    (offer.2.find? property).map fun d => ⟨i, property, offer.1 ++ d.pushName property, stream⟩

def isBoundIn (bs : List Binding) (i : Nat) (property : String) : Bool :=
  bs.any fun b => b.feed = i ∧ b.property = property

def unbound (bs : List Binding) (i : Nat) (properties : List String) : List String :=
  (properties.filter (!isBoundIn bs i ·)).eraseDups

/-- The bindings after an action. A bind adds one for each property that is asked for, not bound and advertised. -/
def rebound (offers : List Offer) (bs : List Binding) : Action → List Binding
  | .bind i stream properties => bs ++ (unbound bs i properties).filterMap (binding? offers i stream)
  | .unbind i => bs.filter (·.feed ≠ i)
  | _ => bs

def bindings (offers : List Offer) (as : List Action) : List Binding := as.foldl (rebound offers) []

/-- A push comes through the bindings to its method, in the order of binding. -/
def through (bs : List Binding) (n : Rpc.Notification) : List (Binding × Rpc.Notification) :=
  (bs.filter (·.method = n.method)).map (·, n)

/-- The pushes that come through in a run, each with its binding. -/
def deliveries (offers : List Offer) (bs : List Binding) : List Action → List (Binding × Rpc.Notification)
  | [] => []
  | a :: as => a.pushes.flatMap (through bs) ++ deliveries offers (rebound offers bs a) as

def eventsFor (stream : Nat) (ds : List (Binding × Rpc.Notification)) : List Event :=
  (ds.filter (·.1.stream = stream)).map fun d => .changed d.1.property (Tap.pushedValue d.2)

def valueAfter (ds : List (Binding × Rpc.Notification)) (i : Nat) (property : String) (value : Json) : Json :=
  ((ds.filter fun d => d.1.feed = i ∧ d.1.property = property).getLast?.map fun d =>
    Tap.pushedValue d.2).getD value

def streamAfter (as : List Action) (ds : List (Binding × Rpc.Notification)) (stream : Nat) : Stream :=
  if as.any (·.releases stream) then { id := stream, isHeld := false }
  else { id := stream, events := eventsFor stream ds }

/-- The value that a push carries: its member `value`, else its parameters as a whole, else nothing. -/
inductive Carries (n : Rpc.Notification) : Json → Prop
  | member {members : List (String × Json)} {value : Json} :
      n.params = some (.object members) → Entries.find? "value" members = some value → Carries n value
  | whole {params : Json} :
      n.params = some params →
      (∀ members, params = .object members → Entries.find? "value" members = none) → Carries n params
  | nothing : n.params = none → Carries n .null

def bindOne (offers : List Offer) (i stream : Nat) (bs : List Binding) (property : String) : List Binding :=
  if isBoundIn bs i property then bs else bs ++ (binding? offers i stream property).toList

section

variable {offers : List Offer} {bs : List Binding} {i stream : Nat} {property : String}

theorem eq_of_binding? {b : Binding} (h : binding? offers i stream property = some b) :
    b.feed = i ∧ b.property = property ∧ b.stream = stream := by
  obtain ⟨offer, -, h⟩ := Option.bind_eq_some_iff.1 h
  obtain ⟨d, -, rfl⟩ := Option.map_eq_some_iff.1 h
  exact ⟨rfl, rfl, rfl⟩

theorem isBoundIn_append {bs' : List Binding} :
    isBoundIn (bs ++ bs') i property = (isBoundIn bs i property || isBoundIn bs' i property) :=
  List.any_append

theorem isBoundIn_filterMap {properties : List String} :
    isBoundIn (properties.filterMap (binding? offers i stream)) i property ↔
      property ∈ properties ∧ (binding? offers i stream property).isSome := by
  simp only [isBoundIn, List.any_eq_true, List.mem_filterMap, decide_eq_true_eq]
  constructor
  · rintro ⟨b, ⟨p, hp, hb⟩, -, rfl⟩
    obtain ⟨-, rfl, -⟩ := eq_of_binding? hb
    exact ⟨hp, hb ▸ rfl⟩
  · rintro ⟨hp, hb⟩
    obtain ⟨b, hb⟩ := Option.isSome_iff_exists.1 hb
    obtain ⟨hfeed, hproperty, -⟩ := eq_of_binding? hb
    exact ⟨b, ⟨property, hp, hb⟩, hfeed, hproperty⟩

theorem unbound_append {properties : List String} :
    unbound bs i (properties ++ [property]) =
      if isBoundIn bs i property ∨ property ∈ unbound bs i properties then unbound bs i properties
      else unbound bs i properties ++ [property] := by
  simp only [unbound, List.filter_append, List.eraseDups_append]
  by_cases hold : isBoundIn bs i property
  · simp [hold, List.removeAll]
  · by_cases hmem : property ∈ properties <;> simp [hold, hmem, List.removeAll, List.eraseDups_cons]

theorem rebound_bind (offers : List Offer) (bs : List Binding) (i stream : Nat) (properties : List String) :
    rebound offers bs (.bind i stream properties) = properties.foldl (bindOne offers i stream) bs := by
  induction properties using List.reverseRecOn with
  | nil => simp [rebound, unbound]
  | append_singleton properties p ih =>
    rw [List.foldl_concat, ← ih]
    simp only [rebound, bindOne, unbound_append, isBoundIn_append, Bool.or_eq_true, isBoundIn_filterMap]
    by_cases hold : isBoundIn bs i p
    · simp [hold]
    · cases hb : binding? offers i stream p with
      | none => by_cases hp : p ∈ unbound bs i properties <;> simp [hold, hp, hb]
      | some b => by_cases hp : p ∈ unbound bs i properties <;> simp [hold, hp, hb]

end

theorem bindings_append (offers : List Offer) (as : List Action) (a : Action) :
    bindings offers (as ++ [a]) = rebound offers (bindings offers as) a := List.foldl_concat ..

theorem deliveries_append (offers : List Offer) (bs : List Binding) (as : List Action) (a : Action) :
    deliveries offers bs (as ++ [a]) =
      deliveries offers bs as ++ a.pushes.flatMap (through (as.foldl (rebound offers) bs)) := by
  induction as generalizing bs with
  | nil => simp [deliveries]
  | cons a' as ih => simp [deliveries, ih]

theorem deliveries_of_silent (offers : List Offer) (as : List Action) {a : Action} (h : a.pushes = []) :
    deliveries offers [] (as ++ [a]) = deliveries offers [] as := by
  rw [deliveries_append, h, List.flatMap_nil, List.append_nil]

theorem streamAfter_of_held {a : Action} {stream : Nat} (h : a.releases stream = false) (as : List Action)
    (ds : List (Binding × Rpc.Notification)) : streamAfter (as ++ [a]) ds stream = streamAfter as ds stream := by
  simp [streamAfter, h]

/-! ### Values -/

section

variable {ds : List (Binding × Rpc.Notification)} {i : Nat} {property : String} {value : Json}

theorem valueAfter_append (ds' : List (Binding × Rpc.Notification)) :
    valueAfter (ds ++ ds') i property value = valueAfter ds' i property (valueAfter ds i property value) := by
  unfold valueAfter
  rw [List.filter_append, List.getLast?_append]
  cases (ds'.filter fun d => d.1.feed = i ∧ d.1.property = property).getLast? <;> rfl

theorem valueAfter_singleton (d : Binding × Rpc.Notification) :
    valueAfter [d] i property value =
      if d.1.feed = i ∧ d.1.property = property then Tap.pushedValue d.2 else value := by
  unfold valueAfter
  rw [List.filter_singleton]
  by_cases h : d.1.feed = i ∧ d.1.property = property <;> simp [h]

theorem eventsFor_append (stream : Nat) (ds' : List (Binding × Rpc.Notification)) :
    eventsFor stream (ds ++ ds') = eventsFor stream ds ++ eventsFor stream ds' := by
  simp [eventsFor]

end

/-- What a link hands on of deliveries. -/
def pushed (d : Binding × Rpc.Notification) : Push := (d.1.tap, d.2)

theorem hear_pushed (f : Feed) (ds : List (Binding × Rpc.Notification)) :
    (f.hear (ds.map pushed)).taps = f.taps ∧ (f.hear (ds.map pushed)).path = f.path ∧
      (f.hear (ds.map pushed)).id = f.id ∧ (f.hear (ds.map pushed)).properties.keys = f.properties.keys ∧
      ∀ p, (f.hear (ds.map pushed)).properties.find? p =
        (f.properties.find? p).map fun d => { d with value := valueAfter ds f.id p d.value } := by
  induction ds using List.reverseRecOn with
  | nil => exact ⟨rfl, rfl, rfl, rfl, fun p => by cases h : f.properties.find? p <;> simp [Feed.hear, valueAfter, h]⟩
  | append_singleton ds d ih =>
    obtain ⟨htaps, hpath, hid, hkeys, hfind⟩ := ih
    rw [List.map_append, Feed.hear_append]
    generalize f.hear (ds.map pushed) = g at htaps hpath hid hkeys hfind
    have hstep : g.hear [pushed d] =
        if d.1.feed = f.id then g.observe d.1.property (Tap.pushedValue d.2) else g := by rw [← hid]; rfl
    rw [List.map_singleton, hstep]
    by_cases hown : d.1.feed = f.id
    · rw [if_pos hown]
      refine ⟨htaps, hpath, hid, Dict.keys_modify.trans hkeys, fun p => ?_⟩
      rw [Feed.observe, Dict.find?_modify, hfind]
      simp only [valueAfter_append, valueAfter_singleton, hown, true_and, Option.map_map]
      refine congrArg (Option.map · _) (funext fun d' => ?_)
      by_cases hp : p = d.1.property <;> simp [hp, eq_comm]
    · rw [if_neg hown]
      refine ⟨htaps, hpath, hid, hkeys, fun p => ?_⟩
      simp only [hfind, valueAfter_append, valueAfter_singleton, hown, false_and, if_false]

/-! ### Listeners and bindings -/

/-- The listeners of a link are those of bindings, in their order. -/
structure Wired (l : Link Handler) (bs : List Binding) : Prop where
  listeners : l.listeners.map (fun x => (x.method, x.handler)) = bs.map fun b => (b.method, .tap b.tap)
  ids : (l.listeners.map (·.id)).Nodup
  fresh : ∀ x ∈ l.listeners, x.id < l.nextListener
  quiet : l.deliveries = []

def propertyOf? (i : Nat) : Handler → Option String
  | .tap t => if t.feed = i then some t.property else none
  | .caller => none

def tapsOf (l : Link Handler) (i : Nat) : List (String × Nat) :=
  l.listeners.filterMap fun x => (propertyOf? i x.handler).map (·, x.id)

section

variable {l : Link Handler} {bs : List Binding} {i : Nat}

theorem mem_tapsOf {tap : String × Nat} :
    tap ∈ tapsOf l i ↔ ∃ x ∈ l.listeners, propertyOf? i x.handler = some tap.1 ∧ x.id = tap.2 := by
  simp only [tapsOf, List.mem_filterMap, Option.map_eq_some_iff, Prod.ext_iff]
  refine exists_congr fun x => and_congr_right fun _ => ⟨?_, ?_⟩
  · rintro ⟨p, hp, rfl, hid⟩
    exact ⟨hp, hid⟩
  · rintro ⟨hp, hid⟩
    exact ⟨_, hp, rfl, hid⟩

theorem Wired.bound (h : Wired l bs) (i : Nat) :
    (tapsOf l i).map (·.1) = (bs.filter (·.feed = i)).map (·.property) := by
  calc (tapsOf l i).map (·.1)
      = l.listeners.filterMap fun x => propertyOf? i x.handler := by
        simp [tapsOf, List.map_filterMap, Function.comp_def]
    _ = (l.listeners.map fun x => (x.method, x.handler)).filterMap fun y => propertyOf? i y.2 := by
        rw [List.filterMap_map]
        rfl
    _ = bs.filterMap fun b => if b.feed = i then some b.property else none := by
        rw [h.listeners, List.filterMap_map]
        rfl
    _ = (bs.filter (·.feed = i)).map (·.property) := by
        rw [← List.filterMap_eq_map, ← List.filterMap_eq_filter, List.filterMap_filterMap]
        refine List.filterMap_congr fun b _ => ?_
        by_cases hb : b.feed = i <;> simp [Option.guard, hb]

theorem Wired.handlersFor (h : Wired l bs) (method : String) :
    l.handlersFor method = (bs.filter (·.method = method)).map (.tap ·.tap) := by
  have hpairs := congrArg
    (fun ys => (ys.filter fun y : String × Handler => y.1 = method).map (·.2)) h.listeners
  simpa [Link.handlersFor, List.filter_map, Function.comp_def] using hpairs

theorem Wired.listen (h : Wired l bs) (b : Binding) :
    Wired (l.listen b.method (.tap b.tap)).2 (bs ++ [b]) where
  listeners := by simp [Link.listen, h.listeners]
  ids := by
    simp only [Link.listen, List.map_append, List.map_cons, List.map_nil]
    refine h.ids.append (List.nodup_singleton _) fun id hold hnew => ?_
    obtain ⟨x, hx, rfl⟩ := List.mem_map.1 hold
    exact absurd (List.mem_singleton.1 hnew) (Nat.ne_of_lt (h.fresh x hx))
  fresh x hx := by
    rcases List.mem_append.1 hx with hx | hx
    · exact Nat.lt_succ_of_lt (h.fresh x hx)
    · rw [List.mem_singleton.1 hx]
      exact Nat.lt_succ_self _
  quiet := h.quiet

theorem tapsOf_listen (l : Link Handler) (b : Binding) (i : Nat) :
    tapsOf (l.listen b.method (.tap b.tap)).2 i =
      tapsOf l i ++ if b.feed = i then [(b.property, l.nextListener)] else [] := by
  unfold tapsOf
  rw [Link.listen, List.filterMap_append]
  by_cases hb : b.feed = i <;> simp [propertyOf?, Binding.tap, hb]

theorem Wired.mem_ids (h : Wired l bs) {x : Listener Handler} (hx : x ∈ l.listeners) (i : Nat) :
    x.id ∈ (tapsOf l i).map (·.2) ↔ (propertyOf? i x.handler).isSome := by
  rw [List.mem_map]
  constructor
  · rintro ⟨tap, htap, hid⟩
    obtain ⟨y, hy, hp, hyid⟩ := mem_tapsOf.1 htap
    obtain rfl : y = x := List.inj_on_of_nodup_map h.ids hy hx (hyid.trans hid)
    exact hp ▸ rfl
  · intro hown
    obtain ⟨p, hp⟩ := Option.isSome_iff_exists.1 hown
    exact ⟨(p, x.id), mem_tapsOf.2 ⟨x, hx, hp, rfl⟩, rfl⟩

theorem Wired.filter {l' : Link Handler} (h : Wired l bs) (i : Nat)
    (hlisteners : l'.listeners = l.listeners.filter (·.id ∉ (tapsOf l i).map (·.2)))
    (hnext : l'.nextListener = l.nextListener) (hquiet : l'.deliveries = []) :
    Wired l' (bs.filter (·.feed ≠ i)) ∧ tapsOf l' i = [] ∧ ∀ j, j ≠ i → tapsOf l' j = tapsOf l j := by
  have hkept : l'.listeners = l.listeners.filter fun x => (propertyOf? i x.handler).isNone := by
    rw [hlisteners]
    refine List.filter_congr fun x hx => ?_
    simp only [h.mem_ids hx i]
    cases propertyOf? i x.handler <;> rfl
  have hsub : l'.listeners.Sublist l.listeners := hkept ▸ List.filter_sublist
  refine ⟨⟨?_, h.ids.sublist (hsub.map _), fun x hx => hnext ▸ h.fresh x (hsub.subset hx), hquiet⟩, ?_, fun j hj => ?_⟩
  · have hpairs := congrArg
      (List.filter fun y : String × Handler => (propertyOf? i y.2).isNone) h.listeners
    rw [List.filter_map, List.filter_map] at hpairs
    rw [hkept]
    refine hpairs.trans (congrArg _ (List.filter_congr fun b _ => ?_))
    by_cases hb : b.feed = i <;> simp [propertyOf?, Binding.tap, hb]
  · refine List.eq_nil_iff_forall_not_mem.2 fun tap htap => ?_
    obtain ⟨x, hx, hp, -⟩ := mem_tapsOf.1 htap
    rw [hkept] at hx
    simpa [hp] using (List.mem_filter.1 hx).2
  · unfold tapsOf
    rw [hkept, ← List.filterMap_eq_filter, List.filterMap_filterMap]
    refine List.filterMap_congr fun x _ => ?_
    cases hx : x.handler with
    | caller => simp [Option.guard, propertyOf?, hx]
    | tap t =>
      by_cases ht : t.feed = i
      · simp [Option.guard, propertyOf?, hx, ht, hj.symm]
      · simp [Option.guard, propertyOf?, hx, ht]

end

/-! ### Feeds and their offers -/

/-- A feed holds what was offered at its place, with the values that were pushed to it since, and it taps the link
for its bound properties. -/
structure Keeps (offers : List Offer) (ds : List (Binding × Rpc.Notification)) (l : Link Handler) (i : Nat)
    (f : Feed) : Prop where
  id : f.id = i
  offer : ∃ offer, offers[i]? = some offer ∧ f.path = offer.1 ∧ f.properties.keys = offer.2.keys ∧
    ∀ p, f.properties.find? p =
      (offer.2.find? p).map fun d => { d with value := valueAfter ds i p d.value }
  taps : f.taps = tapsOf l i

section

variable {offers : List Offer} {bs : List Binding} {ds : List (Binding × Rpc.Notification)}
  {l l' : Link Handler} {i : Nat} {f : Feed}

theorem Keeps.of_taps (h : Keeps offers ds l i f) (htaps : tapsOf l' i = tapsOf l i) : Keeps offers ds l' i f :=
  ⟨h.id, h.offer, h.taps.trans htaps.symm⟩

theorem Keeps.bound (h : Keeps offers ds l i f) (hw : Wired l bs) :
    f.bound = (bs.filter (·.feed = i)).map (·.property) := by
  rw [Feed.bound, h.taps, hw.bound]

theorem Keeps.isBound (h : Keeps offers ds l i f) (hw : Wired l bs) (p : String) :
    f.isBound p = isBoundIn bs i p := by
  rw [Bool.eq_iff_iff, Feed.isBound_iff, h.bound hw]
  simp [isBoundIn, and_assoc]

/-- The feed at a place has bindings made or unmade; the taps of the others stay. -/
structure Rebinds (offers : List Offer) (ds : List (Binding × Rpc.Notification)) (i : Nat) (l : Link Handler)
    (bs' : List Binding) (f' : Feed) (l' : Link Handler) : Prop where
  wired : Wired l' bs'
  keeps : Keeps offers ds l' i f'
  others : ∀ j, j ≠ i → tapsOf l' j = tapsOf l j

theorem Keeps.bindOne (h : Keeps offers ds l i f) (hw : Wired l bs) (stream : Nat) (p : String) :
    Rebinds offers ds i l (FeedBoard.bindOne offers i stream bs p) (Feed.bindOne stream (f, l) p).1
      (Feed.bindOne stream (f, l) p).2 := by
  obtain ⟨offer, hoffer, hpath, hkeys, hfind⟩ := h.offer
  unfold Feed.bindOne FeedBoard.bindOne
  dsimp only
  rw [h.isBound hw, hfind p]
  by_cases hold : isBoundIn bs i p
  · rw [if_pos hold, if_pos hold]
    exact ⟨hw, h, fun _ _ => rfl⟩
  · rw [if_neg hold, if_neg hold, binding?, hoffer, Option.bind_some]
    cases hd : offer.2.find? p with
    | none =>
      rw [Option.map_none, Option.map_none, Option.toList_none, List.append_nil]
      exact ⟨hw, h, fun _ _ => rfl⟩
    | some d =>
      let b : Binding := ⟨i, p, offer.1 ++ d.pushName p, stream⟩
      have hlisten (value : Json) : l.listen (f.pushMethod p { d with value }) (.tap ⟨f.id, p, stream⟩) =
          l.listen b.method (.tap b.tap) := by
        rw [Feed.pushMethod, hpath, h.id]
        rfl
      dsimp only [Option.map_some, Option.toList_some]
      rw [hlisten]
      refine ⟨hw.listen b, ⟨h.id, ⟨offer, hoffer, hpath, hkeys, hfind⟩, ?_⟩, fun j hj => ?_⟩
      · rw [tapsOf_listen, if_pos rfl, ← h.taps]
        rfl
      · rw [tapsOf_listen, if_neg hj.symm, List.append_nil]

theorem Keeps.bind (h : Keeps offers ds l i f) (hw : Wired l bs) (stream : Nat) (properties : List String) :
    Rebinds offers ds i l (rebound offers bs (.bind i stream properties)) (f.bind l stream properties).1
      (f.bind l stream properties).2 := by
  rw [rebound_bind]
  unfold Feed.bind
  induction properties using List.reverseRecOn with
  | nil => exact ⟨hw, h, fun _ _ => rfl⟩
  | append_singleton properties p ih =>
    rw [List.foldl_concat, List.foldl_concat]
    have hnext := ih.keeps.bindOne ih.wired stream p
    exact ⟨hnext.wired, hnext.keeps, fun j hj => (hnext.others j hj).trans (ih.others j hj)⟩

theorem Keeps.unbind (h : Keeps offers ds l i f) (hw : Wired l bs) :
    Rebinds offers ds i l (rebound offers bs (.unbind i)) (f.unbind l).1 (f.unbind l).2 := by
  have hlisteners := f.listeners_unbind l
  rw [h.taps] at hlisteners
  obtain ⟨hwired, hnone, hothers⟩ := hw.filter i hlisteners (f.nextListener_unbind l)
    ((f.rewired_unbind l).deliveries.trans hw.quiet)
  exact ⟨hwired, ⟨h.id, h.offer, hnone.symm⟩, hothers⟩

theorem Keeps.hear (h : Keeps offers ds l i f) (htaps : tapsOf l' i = tapsOf l i)
    (ds' : List (Binding × Rpc.Notification)) : Keeps offers (ds ++ ds') l' i (f.hear (ds'.map pushed)) := by
  obtain ⟨offer, hoffer, hpath, hkeys, hfind⟩ := h.offer
  obtain ⟨htaps', hpath', hid', hkeys', hfind'⟩ := hear_pushed f ds'
  refine ⟨hid'.trans h.id, ⟨offer, hoffer, hpath'.trans hpath, hkeys'.trans hkeys, fun p => ?_⟩,
    htaps'.trans (h.taps.trans htaps.symm)⟩
  rw [hfind', hfind, h.id, Option.map_map]
  refine congrArg (Option.map · _) (funext fun d => ?_)
  simp [valueAfter_append]

end

/-! ### Frames -/

section

variable {l : Link Handler} {bs : List Binding}

theorem Wired.deliveries_handleFrame (h : Wired l bs) (text : String) :
    (l.handleFrame text).deliveries =
      ((Action.frame text).pushes.flatMap (through bs)).map fun d => (.tap d.1.tap, d.2) := by
  have hframe := (Link.Doing.lists_frame l 0 text).deliveries
  rw [h.quiet, List.nil_append] at hframe
  rw [hframe, List.map_flatMap]
  refine List.flatMap_congr fun n _ => ?_
  rw [h.handlersFor, through, List.map_map, List.map_map]
  rfl

theorem Wired.pushes_handleFrame (h : Wired l bs) (text : String) :
    (l.handleFrame text).pushes = ((Action.frame text).pushes.flatMap (through bs)).map pushed := by
  rw [Link.pushes, h.deliveries_handleFrame, List.filterMap_map, ← List.filterMap_eq_map]
  rfl

theorem listeners_handleFrame (l : Link Handler) (text : String) :
    (l.handleFrame text).listeners = l.listeners ∧ (l.handleFrame text).nextListener = l.nextListener := by
  obtain ⟨hlisteners, hnext, -⟩ := Link.Doing.lists_frame l 0 text
  simpa [Link.Doing.removes, Link.Doing.registers?] using And.intro hlisteners hnext

theorem Wired.handleFrame (h : Wired l bs) (text : String) : Wired (l.handleFrame text).withoutPushes bs := by
  obtain ⟨hlisteners, hnext⟩ := listeners_handleFrame l text
  refine ⟨?_, ?_, ?_, ?_⟩
  · exact hlisteners ▸ h.listeners
  · exact hlisteners ▸ h.ids
  · exact hnext ▸ hlisteners ▸ h.fresh
  · simp [Link.withoutPushes, h.deliveries_handleFrame, List.filter_map, Function.comp_def, Handler.isCaller]

end

/-! ### Whole runs -/

/-- What a board holds after a run: its listeners are those of the bindings, its feeds keep their offers current,
and its streams have what they were told. -/
structure Follows (offers : List Offer) (streams : Nat) (as : List Action) (b : FeedBoard) : Prop where
  wired : Wired b.link (bindings offers as)
  places : b.feeds.length = offers.length
  keeps : ∀ i f, b.feeds[i]? = some f → Keeps offers (deliveries offers [] as) b.link i f
  streams : b.streams = (List.range streams).map (streamAfter as (deliveries offers [] as))

section

variable {offers : List Offer}

theorem mem_bindings {as : List Action} {b : Binding} (hb : b ∈ bindings offers as) :
    binding? offers b.feed b.stream b.property = some b := by
  induction as using List.reverseRecOn with
  | nil => cases hb
  | append_singleton as a ih =>
    rw [bindings_append] at hb
    cases a with
    | bind i stream properties =>
      rcases List.mem_append.1 hb with hb | hb
      · exact ih hb
      · obtain ⟨p, -, hp⟩ := List.mem_filterMap.1 hb
        obtain ⟨rfl, rfl, rfl⟩ := eq_of_binding? hp
        exact hp
    | unbind i => exact ih (List.mem_filter.1 hb).1
    | frame | release => exact ih hb

theorem rebound_of_none {i : Nat} (h : offers[i]? = none) (as : List Action) :
    (∀ stream properties,
        rebound offers (bindings offers as) (.bind i stream properties) = bindings offers as) ∧
      rebound offers (bindings offers as) (.unbind i) = bindings offers as := by
  have hnone (stream : Nat) (p : String) : binding? offers i stream p = none := by rw [binding?, h]; rfl
  refine ⟨fun stream properties => ?_, List.filter_eq_self.2 fun b hb => decide_eq_true ?_⟩
  · rw [rebound, List.filterMap_eq_nil_iff.2 fun p _ => hnone stream p, List.append_nil]
  · rintro rfl
    exact absurd ((hnone _ _).symm.trans (mem_bindings hb)) nofun

theorem hear_streamAfter (as : List Action) (ds ds' : List (Binding × Rpc.Notification)) (stream : Nat) :
    (streamAfter as ds stream).hear (ds'.map pushed) = streamAfter as (ds ++ ds') stream := by
  rw [Stream.hear_eq]
  unfold streamAfter
  split
  · rfl
  · rw [if_pos rfl, eventsFor_append, List.filter_map, List.map_map]
    rfl

variable {streams : Nat} {as : List Action} {b : FeedBoard}

theorem Follows.rebinds (h : Follows offers streams as b) {a : Action} {i : Nat} {f : Feed} {l : Link Handler}
    (hreleases : ∀ stream, a.releases stream = false) (hpushes : a.pushes = [])
    (hrebinds : Rebinds offers (deliveries offers [] as) i b.link (rebound offers (bindings offers as) a) f l) :
    Follows offers streams (as ++ [a]) { b with link := l, feeds := b.feeds.set i f } := by
  have hds := deliveries_of_silent offers as hpushes
  refine ⟨?_, by simpa using h.places, fun j g hg => ?_, ?_⟩
  · rw [bindings_append]
    exact hrebinds.wired
  · rw [hds]
    dsimp only at hg ⊢
    rw [List.getElem?_set] at hg
    split at hg
    · rename_i hij
      split at hg
      · cases hg
        exact hij ▸ hrebinds.keeps
      · cases hg
    · rename_i hij
      exact (h.keeps j g hg).of_taps (hrebinds.others j (Ne.symm hij))
  · rw [hds]
    exact h.streams.trans (List.map_congr_left fun stream _ => (streamAfter_of_held (hreleases stream) as _).symm)

theorem Follows.idle (h : Follows offers streams as b) {a : Action}
    (hreleases : ∀ stream, a.releases stream = false) (hpushes : a.pushes = [])
    (hrebound : rebound offers (bindings offers as) a = bindings offers as) :
    Follows offers streams (as ++ [a]) b := by
  have hds := deliveries_of_silent offers as hpushes
  refine ⟨?_, h.places, hds ▸ h.keeps, ?_⟩
  · rw [bindings_append, hrebound]
    exact h.wired
  · rw [hds]
    exact h.streams.trans (List.map_congr_left fun stream _ => (streamAfter_of_held (hreleases stream) as _).symm)

theorem Follows.act (h : Follows offers streams as b) (a : Action) :
    Follows offers streams (as ++ [a]) (b.act a) := by
  have hnone {i : Nat} (hf : b.feeds[i]? = none) : offers[i]? = none := by
    rw [List.getElem?_eq_none_iff] at hf ⊢
    exact h.places ▸ hf
  cases a with
  | bind i stream properties =>
    dsimp only [FeedBoard.act, FeedBoard.bind]
    cases hf : b.feeds[i]? with
    | none => exact h.idle (fun _ => rfl) rfl ((rebound_of_none (hnone hf) as).1 stream properties)
    | some f => exact h.rebinds (fun _ => rfl) rfl ((h.keeps i f hf).bind h.wired stream properties)
  | unbind i =>
    dsimp only [FeedBoard.act, FeedBoard.unbind]
    cases hf : b.feeds[i]? with
    | none => exact h.idle (fun _ => rfl) rfl (rebound_of_none (hnone hf) as).2
    | some f => exact h.rebinds (fun _ => rfl) rfl ((h.keeps i f hf).unbind h.wired)
  | frame text =>
    have hpushes := h.wired.pushes_handleFrame text
    have hds : deliveries offers [] (as ++ [.frame text]) = deliveries offers [] as ++
        (Action.frame text).pushes.flatMap (through (bindings offers as)) := deliveries_append ..
    dsimp only [FeedBoard.act, FeedBoard.handleFrame, FeedBoard.hear]
    rw [hpushes]
    refine ⟨?_, by simpa using h.places, fun i f hf => ?_, ?_⟩
    · rw [bindings_append]
      exact h.wired.handleFrame text
    · rw [hds]
      rw [List.getElem?_map, Option.map_eq_some_iff] at hf
      obtain ⟨g, hg, rfl⟩ := hf
      refine (h.keeps i g hg).hear ?_ _
      exact congrArg (List.filterMap _) (listeners_handleFrame b.link text).1
    · rw [hds, h.streams, List.map_map]
      refine List.map_congr_left fun stream _ => ?_
      rw [Function.comp_apply, hear_streamAfter]
      exact (streamAfter_of_held rfl as _).symm
  | release stream =>
    have hds : deliveries offers [] (as ++ [.release stream]) = deliveries offers [] as :=
      deliveries_of_silent offers as rfl
    refine ⟨?_, h.places, hds ▸ h.keeps, ?_⟩
    · rw [bindings_append]
      exact h.wired
    · rw [hds, FeedBoard.act, FeedBoard.release, Stream.update, h.streams, List.map_map]
      refine List.map_congr_left fun s _ => ?_
      have hid : (streamAfter as (deliveries offers [] as) s).id = s := by
        unfold streamAfter
        split <;> rfl
      rw [Function.comp_apply, hid]
      by_cases hs : s = stream
      · subst hs
        have hgone : (as ++ [Action.release s]).any (·.releases s) = true := by simp [Action.releases]
        rw [if_pos rfl]
        unfold streamAfter
        rw [hgone, if_pos rfl]
        split <;> rfl
      · rw [if_neg hs]
        have hheld : (Action.release stream).releases s = false := decide_eq_false (Ne.symm hs)
        exact (streamAfter_of_held hheld as _).symm

end

/-! ### What a board distributes -/

end FeedBoard
end ServiceLink
