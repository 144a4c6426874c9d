import ServiceLink.Json.Token

/-! The tree of a JSON text, and its value. A tree keeps what a value forgets: the order and repetition of
members, and literals without a value. -/

namespace ServiceLink.Json

inductive Tree
  | leaf (value : Option Json)
  | array (elements : List Tree)
  | object (members : List (Option String × Tree))
deriving Inhabited

namespace Tree

/-- A container whose end has not come, with what it holds so far, last first. -/
inductive Frame
  | array (elements : List Tree)
  | object (members : List (Option String × Tree)) (key : Option String)

/-- What may come next. -/
inductive Expect
  | value
  | valueOrEnd
  | key (members : List (Option String × Tree))
  | keyOrEnd
  | colon (members : List (Option String × Tree)) (key : Option String)
  /-- A finished tree: the end of its container or the next of its siblings. -/
  | after (t : Tree)

structure Builder where
  frames : List Frame := []
  expect : Expect := .value

namespace Builder

def leaf? : Token → Option Tree
  | .null => some (.leaf (some .null))
  | .bool b => some (.leaf (some (.bool b)))
  | .text s => some (.leaf (s.map .text))
  | .number n => some (.leaf (n.map .number))
  | _ => none

/-- The token that starts a value. -/
def begin? (frames : List Frame) (t : Token) : Option Builder :=
  match t with
  | .beginArray => some ⟨frames, .valueOrEnd⟩
  | .beginObject => some ⟨frames, .keyOrEnd⟩
  | t => (leaf? t).map fun leaf => ⟨frames, .after leaf⟩

/-- An open array has its frame from the first element on. -/
def step (b : Builder) (t : Token) : Option Builder :=
  match b.expect, t with
  | .value, t => begin? b.frames t
  | .valueOrEnd, .endArray => some ⟨b.frames, .after (.array [])⟩
  | .valueOrEnd, t => begin? (.array [] :: b.frames) t
  | .keyOrEnd, .endObject => some ⟨b.frames, .after (.object [])⟩
  | .keyOrEnd, .text key => some ⟨b.frames, .colon [] key⟩
  | .key members, .text key => some ⟨b.frames, .colon members key⟩
  | .colon members key, .colon => some ⟨.object members key :: b.frames, .value⟩
  | .after tree, t =>
    match b.frames, t with
    | .array elements :: frames, .comma => some ⟨.array (tree :: elements) :: frames, .value⟩
    | .array elements :: frames, .endArray =>
      some ⟨frames, .after (.array (tree :: elements).reverse)⟩
    | .object members key :: frames, .comma => some ⟨frames, .key ((key, tree) :: members)⟩
    | .object members key :: frames, .endObject =>
      some ⟨frames, .after (.object ((key, tree) :: members).reverse)⟩
    | _, _ => none
  | _, _ => none

def finish (b : Builder) : Option Tree :=
  match b.frames, b.expect with
  | [], .after tree => some tree
  | _, _ => none

end Builder

def ofTokens? (tokens : List Token) : Option Tree :=
  (tokens.foldlM Builder.step {}).bind Builder.finish

mutual

/-- The value of a tree with at most this many levels of containers. Of members with one key the last
counts. -/
def value? (levels : Nat) : Tree → Option Json
  | .leaf v => v
  | .array elements =>
    match levels with
    | 0 => none
    | levels + 1 => (values? levels elements).map .array
  | .object members =>
    match levels with
    | 0 => none
    | levels + 1 => (memberValues? levels members).map (.object ∘ Entries.ofList)

def values? (levels : Nat) : List Tree → Option (List Json)
  | [] => some []
  | t :: rest => do return (← value? levels t) :: (← values? levels rest)

def memberValues? (levels : Nat) : List (Option String × Tree) → Option (List (String × Json))
  | [] => some []
  | (key, t) :: rest => do return (← key, ← value? levels t) :: (← memberValues? levels rest)

end

end Tree

def tree? (text : String) : Option Tree := (tokens? text).bind Tree.ofTokens?

/-- Containers may be nested this deep. -/
def maxLevels : Nat := 127

/-- Read a JSON text. -/
def parse? (text : String) : Option Json := (tree? text).bind (Tree.value? maxLevels)

end ServiceLink.Json
