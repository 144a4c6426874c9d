import ServiceLink.Proofs.Subscription.Hearing
import ServiceLink.Proofs.Subscription.Rewiring

/-! What a feed binds, and what comes of a push through its listeners: one event for each bound property
that is pushed so, and the properties kept current with these events. -/

namespace ServiceLink

namespace Rpc.Message

def push? : Rpc.Message → Option Rpc.Notification
  | .notification n => some n
  | _ => none

end Rpc.Message

namespace Event

def enter (properties : Dict PropertyDescriptor) : Event → Dict PropertyDescriptor
  | .changed property value => properties.modify property fun d => { d with value }
  | .ended => properties

end Event

namespace Schema

/-- The properties bound for a subscriber: those he asks for and the service advertises, each once. -/
def bound (s : Schema) (requested : List String) : List String :=
  (requested.filter s.hasProperty).eraseDups

def pushMethod (s : Schema) (path property : String) : String :=
  path ++ ((s.properties.find? property).getD default).pushName property

/-- What a subscriber is to be told of a push. -/
def tidings (s : Schema) (path : String) (requested : List String) (n : Rpc.Notification) :
    List Event :=
  ((s.bound requested).filter fun p => s.pushMethod path p = n.method).map fun p =>
    .changed p (Tap.pushedValue n)

def news (s : Schema) (path : String) (requested : List String) (m : Rpc.Message) : List Event :=
  m.push?.toList.flatMap (s.tidings path requested)

theorem bound_append (s : Schema) (requested : List String) (property : String) :
    s.bound (requested ++ [property]) =
      if s.hasProperty property ∧ property ∉ s.bound requested then
        s.bound requested ++ [property]
      else s.bound requested := by
  unfold bound
  rw [List.filter_append, List.eraseDups_append]
  by_cases hp : s.hasProperty property
  · by_cases hmem : property ∈ requested
    · simp [hp, hmem, List.removeAll]
    · simp [hp, hmem, List.removeAll, List.eraseDups_cons]
  · simp [hp, List.removeAll]

end Schema

namespace Feed

/-- The listeners of a feed that was bound for a stream. -/
def listeners (f : Feed) (schema : Schema) (path : String) (stream : Nat) : List (Listener Handler) :=
  f.taps.map fun tap => ⟨tap.2, schema.pushMethod path tap.1, .tap ⟨f.id, tap.1, stream⟩⟩

/-- What binding does: the listeners of the bound properties stand behind all others, with the next
ids. -/
structure Binds (schema : Schema) (path : String) (id stream : Nat) (requested : List String)
    (l : Link Handler) (f : Feed) (l' : Link Handler) : Prop where
  feed : f = { id, path, properties := schema.properties, taps := f.taps }
  bound : f.bound = schema.bound requested
  ids : f.taps.map (·.2) = List.range' l.nextListener f.taps.length
  listeners : l'.listeners = l.listeners ++ f.listeners schema path stream
  next : l'.nextListener = l.nextListener + f.taps.length

theorem isBound_iff {f : Feed} {property : String} : f.isBound property ↔ property ∈ f.bound := by
  simp [isBound, bound]

theorem Binds.one {schema : Schema} {path : String} {id stream : Nat} {requested : List String}
    {l l' : Link Handler} {f : Feed} (h : Binds schema path id stream requested l f l')
    (property : String) :
    Binds schema path id stream (requested ++ [property]) l (bindOne stream (f, l') property).1
      (bindOne stream (f, l') property).2 := by
  have hbound := schema.bound_append requested property
  unfold bindOne
  dsimp only
  by_cases hold : f.isBound property
  · have hmem : property ∈ schema.bound requested := h.bound ▸ isBound_iff.1 hold
    rw [if_pos hold]
    rw [if_neg (fun hnew => hnew.2 hmem)] at hbound
    exact ⟨h.feed, h.bound.trans hbound.symm, h.ids, h.listeners, h.next⟩
  · have hmem : property ∉ schema.bound requested := fun hmem => hold (isBound_iff.2 (h.bound ▸ hmem))
    have hproperties : f.properties = schema.properties := by rw [h.feed]
    have hpath : f.path = path := by rw [h.feed]
    rw [if_neg hold, hproperties]
    cases hd : schema.properties.find? property with
    | none =>
      have hno : ¬ schema.hasProperty property := by simp [Schema.hasProperty, Dict.contains, hd]
      rw [if_neg (fun hnew => hno hnew.1)] at hbound
      exact ⟨h.feed, h.bound.trans hbound.symm, h.ids, h.listeners, h.next⟩
    | some d =>
      have hyes : schema.hasProperty property := by simp [Schema.hasProperty, Dict.contains, hd]
      have hmethod : f.pushMethod property d = schema.pushMethod path property := by
        simp [Feed.pushMethod, Schema.pushMethod, hd, hpath]
      rw [if_pos ⟨hyes, hmem⟩] at hbound
      refine ⟨?_, ?_, ?_, ?_, ?_⟩
      · dsimp only
        rw [h.feed]
      · simp only [Feed.bound, List.map_append, List.map_cons, List.map_nil] at hbound ⊢
        rw [hbound, ← h.bound]
        rfl
      · simp only [Link.listen, List.map_append, List.map_cons, List.map_nil, List.length_append,
          List.length_cons, List.length_nil, h.ids, h.next]
        rw [List.range'_concat]
        simp
      · simp only [Link.listen, h.listeners, Feed.listeners, List.map_append, List.map_cons,
          List.map_nil, List.append_assoc, hmethod]
      · simp only [Link.listen, h.next, List.length_append, List.length_cons, List.length_nil]
        omega

theorem binds (schema : Schema) (path : String) (id stream : Nat) (requested : List String)
    (l : Link Handler) :
    Binds schema path id stream requested l
      (bind { id, path, properties := schema.properties } l stream requested).1
      (bind { id, path, properties := schema.properties } l stream requested).2 := by
  unfold bind
  induction requested using List.reverseRecOn with
  | nil => exact ⟨rfl, rfl, rfl, (List.append_nil _).symm, rfl⟩
  | append_singleton requested property ih =>
    rw [List.foldl_append]
    exact ih.one property

section

variable {schema : Schema} {path : String} {id stream : Nat} {requested : List String}
  {l l' : Link Handler} {f : Feed}

theorem Binds.mem (h : Binds schema path id stream requested l f l') {x : Listener Handler}
    (hx : x ∈ l'.listeners) : x ∈ l.listeners ∨ x ∈ f.listeners schema path stream := by
  rw [h.listeners] at hx
  exact List.mem_append.1 hx

theorem Binds.tap (h : Binds schema path id stream requested l f l') {x : Listener Handler}
    (hx : x ∈ f.listeners schema path stream) {t : Tap} (ht : x.handler = .tap t) :
    t.stream = stream ∧ t.feed = id := by
  have hid : f.id = id := by rw [h.feed]
  obtain ⟨tap, -, rfl⟩ := List.mem_map.1 hx
  cases ht
  exact ⟨rfl, hid⟩

theorem Binds.listener_ids (h : Binds schema path id stream requested l f l') :
    (f.listeners schema path stream).map (·.id) = List.range' l.nextListener f.taps.length := by
  rw [← h.ids]
  simp [Feed.listeners]

theorem Binds.nodup (h : Binds schema path id stream requested l f l')
    (hids : (l.listeners.map (·.id)).Nodup) (hfresh : ∀ x ∈ l.listeners, x.id < l.nextListener) :
    (l'.listeners.map (·.id)).Nodup := by
  rw [h.listeners, List.map_append, h.listener_ids]
  refine hids.append List.nodup_range' fun id hold hnew => ?_
  obtain ⟨x, hx, rfl⟩ := List.mem_map.1 hold
  exact absurd (hfresh x hx) (Nat.not_lt.2 (List.mem_range'_1.1 hnew).1)

theorem Binds.fresh (h : Binds schema path id stream requested l f l')
    (hfresh : ∀ x ∈ l.listeners, x.id < l.nextListener) {x : Listener Handler}
    (hx : x ∈ l'.listeners) : x.id < l'.nextListener := by
  rw [h.next]
  rcases h.mem hx with hx | hx
  · exact Nat.lt_add_right _ (hfresh x hx)
  · have hmem : x.id ∈ List.range' l.nextListener f.taps.length :=
      h.listener_ids ▸ List.mem_map_of_mem hx
    exact (List.mem_range'_1.1 hmem).2

end

theorem listeners_unbind (f : Feed) (l : Link Handler) :
    (f.unbind l).2.listeners = l.listeners.filter (·.id ∉ f.taps.map (·.2)) := by
  unfold unbind
  dsimp only
  induction f.taps generalizing l with
  | nil => simp
  | cons tap taps ih =>
    rw [List.foldl_cons, ih]
    show (l.listeners.filter _).filter _ = _
    rw [List.filter_filter]
    refine List.filter_congr fun x _ => ?_
    by_cases hx : x.id = tap.2 <;> simp [hx]

theorem nextListener_unbind (f : Feed) (l : Link Handler) :
    (f.unbind l).2.nextListener = l.nextListener := by
  unfold unbind
  dsimp only
  induction f.taps generalizing l with
  | nil => rfl
  | cons tap taps ih => exact ih (l.unlisten tap.2)

theorem hear_eq (f : Feed) (pushes : List Push) :
    f.hear pushes = { f with
      properties := ((pushes.filter (·.1.feed = f.id)).map fun push => push.1.event push.2).foldl
        Event.enter f.properties } := by
  unfold hear
  induction pushes generalizing f with
  | nil => rfl
  | cons push pushes ih =>
    rw [List.foldl_cons]
    by_cases hown : push.1.feed = f.id
    · rw [if_pos hown, ih]
      simp only [observe, List.filter_cons, hown, decide_true, if_true, List.map_cons,
        List.foldl_cons]
      rfl
    · rw [if_neg hown, ih]
      simp [hown]

end Feed

namespace Stream

theorem hear_eq (s : Stream) (pushes : List Push) :
    s.hear pushes =
      if s.isHeld then
        { s with events := s.events ++
            (pushes.filter (·.1.stream = s.id)).map fun push => push.1.event push.2 }
      else s := by
  unfold hear
  induction pushes generalizing s with
  | nil => simp
  | cons push pushes ih =>
    rw [List.foldl_cons]
    by_cases hown : push.1.stream = s.id
    · rw [if_pos hown, ih]
      by_cases hheld : s.isHeld
      · simp [send, hheld, hown]
      · simp [send, hheld]
    · rw [if_neg hown, ih]
      simp [hown]

end Stream
end ServiceLink
