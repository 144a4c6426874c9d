import ServiceLink.Service.Schema
import ServiceLink.Subscription.Tap

/-! Feeds: the properties a service advertises, kept current by its pushes, of which a subscriber hears
those he asked for. A feed taps the link with one listener for each property it is bound to. -/

namespace ServiceLink

structure Feed where
  id : Nat
  path : String
  properties : Dict PropertyDescriptor
  /-- The bound properties and their listeners, in the order of binding. -/
  taps : List (String × Nat) := []
deriving Inhabited

namespace Feed

def isBound (f : Feed) (property : String) : Bool := f.taps.any (·.1 = property)

def bound (f : Feed) : List String := f.taps.map (·.1)

/-- The method under which changes of a property are pushed. -/
def pushMethod (f : Feed) (property : String) (d : PropertyDescriptor) : String :=
  f.path ++ d.pushName property

/-- Bind one property, unless it is bound or not advertised. -/
def bindOne (stream : Nat) (state : Feed × Link Handler) (property : String) :
    Feed × Link Handler :=
  let (f, l) := state
  if f.isBound property then (f, l)
  else
    match f.properties.find? property with
    | none => (f, l)
    | some d =>
      let (listener, l) := l.listen (f.pushMethod property d) (.tap ⟨f.id, property, stream⟩)
      ({ f with taps := f.taps ++ [(property, listener)] }, l)

/-- Bind properties for a stream. -/
def bind (f : Feed) (l : Link Handler) (stream : Nat) (properties : List String) :
    Feed × Link Handler :=
  properties.foldl (bindOne stream) (f, l)

/-- The properties bound since. -/
def boundSince (f before : Feed) : List String := f.bound.drop before.taps.length

/-- Take the listeners off the link. -/
def unbind (f : Feed) (l : Link Handler) : Feed × Link Handler :=
  ({ f with taps := [] }, f.taps.foldl (fun l tap => l.unlisten tap.2) l)

/-- A property takes on a value; one that is not advertised does not. -/
def observe (f : Feed) (property : String) (value : Json) : Feed :=
  { f with properties := f.properties.modify property fun d => { d with value } }

/-- Keep the properties current with the pushes of its taps. -/
def hear (f : Feed) (pushes : List Push) : Feed :=
  pushes.foldl (fun f push =>
    if push.1.feed = f.id then f.observe push.1.property (Tap.pushedValue push.2) else f) f

end Feed

/-- Feeds on one link, each with a place and streams of their subscribers. -/
structure FeedBoard where
  link : Link Handler
  feeds : List Feed
  streams : List Stream

namespace FeedBoard

/-- Feeds with these paths and properties, each with a stream of its own. -/
def new (settings : Link.Settings) (services : List (String × Dict PropertyDescriptor)) :
    FeedBoard :=
  { link := .new settings
    feeds := services.zipIdx.map fun ((path, properties), id) => { id, path, properties }
    streams := services.zipIdx.map fun (_, id) => { id } }

/-- Hand the deliveries of the link to feeds and streams. -/
def hear (b : FeedBoard) : FeedBoard :=
  let pushes := b.link.pushes
  { link := b.link.withoutPushes
    feeds := b.feeds.map (·.hear pushes)
    streams := b.streams.map (·.hear pushes) }

def handleFrame (b : FeedBoard) (text : String) : FeedBoard :=
  { b with link := b.link.handleFrame text }.hear

/-- Bind properties of the feed at a place, for a stream. -/
def bind (b : FeedBoard) (i stream : Nat) (properties : List String) : FeedBoard :=
  match b.feeds[i]? with
  | none => b
  | some f =>
    let (f, link) := f.bind b.link stream properties
    { b with link, feeds := b.feeds.set i f }

def unbind (b : FeedBoard) (i : Nat) : FeedBoard :=
  match b.feeds[i]? with
  | none => b
  | some f =>
    let (f, link) := f.unbind b.link
    { b with link, feeds := b.feeds.set i f }

def release (b : FeedBoard) (stream : Nat) : FeedBoard :=
  { b with streams := Stream.update b.streams stream Stream.release }

def drain (b : FeedBoard) : FeedBoard := { b with streams := b.streams.map Stream.drain }

end FeedBoard
end ServiceLink
