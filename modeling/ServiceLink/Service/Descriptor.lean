import ServiceLink.Json.Record

/-! What the discovery service tells: the services, the return formats and the socket protocols. -/

namespace ServiceLink

structure ServiceDescriptor where
  name : String
  /-- Stands before every method name of the service. -/
  path : String
deriving DecidableEq, Repr, Inhabited

/-- Services by id. -/
abbrev ServiceList := Dict ServiceDescriptor

namespace ServiceDescriptor

def fields : List String := ["name", "path"]

def toJson (d : ServiceDescriptor) : Json :=
  .record [("name", some (.text d.name)), ("path", some (.text d.path))]

def ofJson? (j : Json) : Option ServiceDescriptor := do
  match ← j.offers fields with
  | [name, path] =>
    return { name := ← name.required Json.text?, path := ← path.required Json.text? }
  | _ => none

/-- Lenient reading of an entry of the service list: without a path there is no service, without a
name the id serves. -/
def read? (id : String) (j : Json) : Option ServiceDescriptor := do
  let path ← (j.get? "path").bind Json.text?
  return { name := ((j.get? "name").bind Json.text?).getD id, path }

end ServiceDescriptor

namespace ServiceList

/-- The discovery service, known from the start. -/
def discoveryName : String := "services"

def discoveryPath : String := "/services/"

/-- The list every connection starts from. -/
def bootstrap : ServiceList :=
  Dict.empty.insert discoveryName { name := discoveryName, path := discoveryPath }

def read (j : Json) : ServiceList :=
  Dict.ofList ((j.members?.getD []).filterMap fun m =>
    (ServiceDescriptor.read? m.1 m.2).map (m.1, ·))

def toJson (l : ServiceList) : Json := .object (l.map ServiceDescriptor.toJson).entries

end ServiceList

structure ReturnFormat where
  name : String
  contentType : String
deriving DecidableEq, Repr, Inhabited

namespace ReturnFormat

def fields : List String := ["name", "type"]

def toJson (f : ReturnFormat) : Json :=
  .record [("name", some (.text f.name)), ("type", some (.text f.contentType))]

def ofJson? (j : Json) : Option ReturnFormat := do
  match ← j.offers fields with
  | [name, contentType] =>
    return { name := ← name.required Json.text?
             contentType := ← contentType.required Json.text? }
  | _ => none

/-- Malformed elements are left out. -/
def readList (j : Json) : List ReturnFormat := (j.elements?.getD []).filterMap ofJson?

def listToJson (fs : List ReturnFormat) : Json := .array (fs.map toJson)

end ReturnFormat

structure SocketProtocol where
  name : String
  description : String
deriving DecidableEq, Repr, Inhabited

namespace SocketProtocol

def fields : List String := ["name", "description"]

def toJson (p : SocketProtocol) : Json :=
  .record [("name", some (.text p.name)), ("description", some (.text p.description))]

def ofJson? (j : Json) : Option SocketProtocol := do
  match ← j.offers fields with
  | [name, description] =>
    return { name := ← name.required Json.text?
             description := ← description.orDefault "" Json.text? }
  | _ => none

/-- Malformed elements are left out. -/
def readList (j : Json) : List SocketProtocol := (j.elements?.getD []).filterMap ofJson?

def listToJson (ps : List SocketProtocol) : Json := .array (ps.map toJson)

end SocketProtocol
end ServiceLink
