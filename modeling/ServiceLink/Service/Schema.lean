import ServiceLink.Service.Descriptor

/-! Service descriptions: the version, methods and properties a service advertises. -/

namespace ServiceLink

structure MethodSignature where
  params : List String := []
  returns : Option String := none
deriving DecidableEq, Repr, Inhabited

namespace MethodSignature

def fields : List String := ["params", "returns"]

def toJson (m : MethodSignature) : Json :=
  .record [("params", some (.array (m.params.map .text))), ("returns", m.returns.map .text)]

def ofJson? (j : Json) : Option MethodSignature := do
  match ← j.offers fields with
  | [params, returns] =>
    return { params := ← params.orDefault [] Json.texts?
             returns := ← returns.optionalLast Json.text? }
  | _ => none

end MethodSignature

structure PropertyDescriptor where
  /-- The name under which changes are pushed. -/
  notification : Option String := none
  read : Option String := none
  write : Option String := none
  value : Json := .null
deriving Inhabited

namespace PropertyDescriptor

def fields : List String := ["notification", "read", "write", "value"]

def toJson (p : PropertyDescriptor) : Json :=
  .record [("notification", p.notification.map .text), ("read", p.read.map .text),
    ("write", p.write.map .text), ("value", some p.value)]

def ofJson? (j : Json) : Option PropertyDescriptor := do
  match ← j.offers fields with
  | [notification, read, write, value] =>
    return { notification := ← notification.optionalLast Json.text?
             read := ← read.optionalLast Json.text?
             write := ← write.optionalLast Json.text?
             value := ← value.orDefault .null some }
  | _ => none

/-- The push name of a property; without one of its own the property's name serves. -/
def pushName (p : PropertyDescriptor) (property : String) : String := p.notification.getD property

def isWritable (p : PropertyDescriptor) : Bool := p.write.isSome

end PropertyDescriptor

structure Schema where
  version : Option String := none
  methods : Dict MethodSignature := .empty
  properties : Dict PropertyDescriptor := .empty
deriving Inhabited

namespace Schema

/-- The property that names the version where the description itself does not. -/
def versionProperty : String := "serviceVersion"

/-- A version is a text or a number. -/
def versionText? : Json → Option String
  | .text s => some s
  | .number n => some n.render
  | _ => none

/-- Methods by name, whatever their signatures look like, or a bare list of names. -/
def readMethods : Option Json → Dict MethodSignature
  | some (.object members) =>
    Dict.ofList (members.map fun m => (m.1, (MethodSignature.ofJson? m.2).getD {}))
  | some (.array elements) =>
    Dict.ofList ((elements.filterMap Json.text?).map (·, {}))
  | _ => .empty

/-- Properties by name; malformed ones are left out. -/
def readProperties : Option Json → Dict PropertyDescriptor
  | some (.object members) =>
    Dict.ofList (members.filterMap fun m => (PropertyDescriptor.ofJson? m.2).map (m.1, ·))
  | _ => .empty

/-- Read a description. A version of its own counts before the version property. -/
def read (j : Json) : Schema :=
  let properties := readProperties (j.get? "properties")
  { version :=
      ((j.get? "version").bind versionText?).or
        ((properties.find? versionProperty).bind fun p => versionText? p.value)
    methods := readMethods (j.get? "methods")
    properties }

def hasMethod (s : Schema) (method : String) : Bool := s.methods.contains method

def hasProperty (s : Schema) (property : String) : Bool := s.properties.contains property

def methodsToJson (methods : Dict MethodSignature) : Json :=
  .object (methods.map MethodSignature.toJson).entries

def propertiesToJson (properties : Dict PropertyDescriptor) : Json :=
  .object (properties.map PropertyDescriptor.toJson).entries

end Schema
end ServiceLink
