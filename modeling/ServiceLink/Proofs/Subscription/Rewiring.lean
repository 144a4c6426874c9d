import ServiceLink.Subscription.Hub

/-! Binding and unbinding touch the listeners of a link and nothing else of it. -/

namespace ServiceLink

/-- A change of the listeners alone. -/
structure Link.Rewired {κ : Type} (l l' : Link κ) : Prop where
  others : l' = { l with listeners := l'.listeners, nextListener := l'.nextListener }

namespace Link.Rewired

variable {κ : Type} {l l' l'' : Link κ}

theorem refl (l : Link κ) : l.Rewired l := ⟨rfl⟩

theorem trans (h : l.Rewired l') (h' : l'.Rewired l'') : l.Rewired l'' := by
  refine ⟨?_⟩
  rw [h'.others, h.others]

theorem calls (h : l.Rewired l') : l'.calls = l.calls := by rw [h.others]

theorem settings (h : l.Rewired l') : l'.settings = l.settings := by rw [h.others]

theorem deliveries (h : l.Rewired l') : l'.deliveries = l.deliveries := by rw [h.others]

end Link.Rewired

theorem Link.rewired_listen {κ : Type} (l : Link κ) (method : String) (handler : κ) :
    l.Rewired (l.listen method handler).2 := ⟨rfl⟩

theorem Link.rewired_unlisten {κ : Type} (l : Link κ) (id : Nat) : l.Rewired (l.unlisten id) := ⟨rfl⟩

namespace Feed

theorem rewired_bindOne (stream : Nat) (f : Feed) (l : Link Handler) (property : String) :
    l.Rewired (bindOne stream (f, l) property).2 := by
  unfold bindOne
  dsimp only
  split
  · exact .refl l
  · split
    · exact .refl l
    · exact l.rewired_listen _ _

theorem rewired_bind (f : Feed) (l : Link Handler) (stream : Nat) (properties : List String) :
    l.Rewired (f.bind l stream properties).2 := by
  unfold bind
  induction properties generalizing f l with
  | nil => exact .refl l
  | cons property properties ih =>
    exact (rewired_bindOne stream f l property).trans (ih (bindOne stream (f, l) property).1 _)

theorem rewired_unbind (f : Feed) (l : Link Handler) : l.Rewired (f.unbind l).2 := by
  unfold unbind
  dsimp only
  induction f.taps generalizing l with
  | nil => exact .refl l
  | cons tap taps ih => exact (l.rewired_unlisten tap.2).trans (ih _)

end Feed

namespace Entry

theorem rewired_unbind (e : Entry) (l : Link Handler) : l.Rewired (e.unbind l) := by
  unfold unbind
  split
  · exact Feed.rewired_unbind _ l
  · exact .refl l

end Entry

namespace Hub

theorem rewired_establish (h : Hub) (service : String) (e : Entry) (schema : Schema) :
    h.link.Rewired (h.establish service e schema).link :=
  Feed.rewired_bind _ h.link e.generation e.requested

theorem rewired_closeAll (h : Hub) (entries : List Entry) :
    h.link.Rewired (h.closeAll entries).link := by
  unfold closeAll
  induction entries generalizing h with
  | nil => exact .refl _
  | cons e entries ih => exact (e.rewired_unbind h.link).trans (ih (h.close e true))

theorem registry_closeAll (h : Hub) (entries : List Entry) :
    (h.closeAll entries).registry = h.registry := by
  unfold closeAll
  induction entries generalizing h with
  | nil => rfl
  | cons e entries ih => exact ih (h.close e true)

end Hub
end ServiceLink
