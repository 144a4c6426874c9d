import ServiceLink.Rpc.ErrorObject

/-! Outbound requests. A request without an id is a notification. -/

namespace ServiceLink.Rpc

structure Request where
  version : String := Rpc.version
  method : String
  params : Option Json := none
  id : Option Nat := none
deriving Inhabited

namespace Request

/-- A notification; parameters that are neither an array nor an object are left out. -/
def notification (method : String) (params : Option Json) : Request :=
  { method, params := params.filter Json.isStructured }

def call (method : String) (params : Option Json) (id : Nat) : Request :=
  { notification method params with id := some id }

def isNotification (r : Request) : Bool := r.id.isNone

def fields : List String := ["jsonrpc", "method", "params", "id"]

def toJson (r : Request) : Json :=
  .record [("jsonrpc", some (.text r.version)), ("method", some (.text r.method)),
    ("params", r.params), ("id", r.id.map fun n => .integer n)]

def ofJson? (j : Json) : Option Request := do
  match ← j.offers fields with
  | [version, method, params, id] =>
    return { version := ← version.required Json.text?
             method := ← method.required Json.text?
             params := ← params.optional some
             id := ← id.optional Json.unsigned? }
  | _ => none

end Request
end ServiceLink.Rpc
