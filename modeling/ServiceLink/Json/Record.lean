import ServiceLink.Json.Tree

/-! Records in JSON: a fixed list of named fields, written as an object with these members or as an array
with the fields in order. Reading straight from text keeps to the fields: what stands under another
name is not even required to have a value, and a field given twice is refused. -/

namespace ServiceLink.Json

/-- What a JSON value offers for a field of a record. -/
inductive Offer
  | value (j : Json)
  /-- An object without the member. -/
  | absent
  /-- An array that ends before the field. -/
  | cut

namespace Offer

variable {α : Type}

def required (read : Json → Option α) : Offer → Option α
  | .value j => read j
  | _ => none

/-- A field that may be absent or null, but not cut off. -/
def optional (read : Json → Option α) : Offer → Option (Option α)
  | .value .null => some none
  | .value j => (read j).map some
  | .absent => some none
  | .cut => none

/-- A field that may be absent, null or cut off. -/
def optionalLast (read : Json → Option α) : Offer → Option (Option α)
  | .cut => some none
  | offer => offer.optional read

def orDefault (default : α) (read : Json → Option α) : Offer → Option α
  | .value j => read j
  | _ => some default

end Offer

/-- What a value offers for the fields of a record, in their order. -/
def offers (fields : List String) : Json → Option (List Offer)
  | .object members =>
    some (fields.map fun f =>
      match Entries.find? f members with
      | some j => .value j
      | none => .absent)
  | .array elements =>
    if elements.length ≤ fields.length then
      some (elements.map .value ++ List.replicate (fields.length - elements.length) .cut)
    else none
  | _ => none

def unsigned? : Json → Option Nat
  | .number n => n.unsigned?
  | _ => none

def signed? : Json → Option Int
  | .number n => n.signed?
  | _ => none

def texts? (j : Json) : Option (List String) := j.elements?.bind (·.mapM text?)

/-- What a reader looks at: a whole value, or the fields of a record alone. -/
inductive Shape
  | whole
  | record (fields : List (String × Shape))

namespace Tree

mutual

/-- The value of a tree as far as a shape looks at it. -/
def valueAs? (levels : Nat) (shape : Shape) : Tree → Option Json
  | .leaf v => v
  | .array elements =>
    match shape, levels with
    | _, 0 => none
    | .whole, levels + 1 => (values? levels elements).map .array
    | .record fields, levels + 1 => (placeValues? levels fields elements).map .array
  | .object members =>
    match shape, levels with
    | _, 0 => none
    | .whole, levels + 1 => (memberValues? levels members).map (.object ∘ Entries.ofList)
    | .record fields, levels + 1 => do
      let known ← fieldValues? levels fields members
      if (known.map (·.1)).Nodup then some (.object (Entries.ofList known)) else none

def placeValues? (levels : Nat) (fields : List (String × Shape)) : List Tree → Option (List Json)
  | [] => some []
  | t :: rest => do
    let shape := match fields with | [] => .whole | f :: _ => f.2
    return (← valueAs? levels shape t) :: (← placeValues? levels fields.tail rest)

def fieldValues? (levels : Nat) (fields : List (String × Shape)) :
    List (Option String × Tree) → Option (List (String × Json))
  | [] => some []
  | (key, t) :: rest => do
    let key ← key
    let others ← fieldValues? levels fields rest
    match Entries.find? key fields with
    | none => some others
    | some shape => return (key, ← valueAs? levels shape t) :: others

end

end Tree

/-- Read a JSON text as far as a shape looks at it. -/
def parseAs? (shape : Shape) (text : String) : Option Json :=
  (tree? text).bind (Tree.valueAs? maxLevels shape)

end ServiceLink.Json
