import ServiceLink.Json.Record
import ServiceLink.Json.Writer
import ServiceLink.Text.Integer

/-! Error objects of JSON-RPC and the replies that carry them. -/

namespace ServiceLink.Rpc

/-- The protocol version every message names. -/
def version : String := "2.0"

structure ErrorObject where
  code : Int
  message : String
  data : Option Json := none
deriving Inhabited

namespace ErrorObject

def parseError : ErrorObject := { code := -32700, message := "Parse error" }

def invalidRequest : ErrorObject := { code := -32600, message := "Invalid request" }

def methodNotFound : ErrorObject := { code := -32601, message := "Method not found" }

def fields : List String := ["code", "message", "data"]

def toJson (e : ErrorObject) : Json :=
  .record [("code", some (.integer e.code)), ("message", some (.text e.message)), ("data", e.data)]

/-- Strict reading: an integer code within 64 bits and a text message. -/
def ofJson? (j : Json) : Option ErrorObject := do
  match ← j.offers fields with
  | [code, message, data] =>
    return { code := ← code.required Json.signed?
             message := ← message.required Json.text?
             data := ← data.optionalLast some }
  | _ => none

/-- Read what a server sent as an error. Where the strict reading fails, a code written as text counts
too, any other code is zero, and a missing message is empty. -/
def read (j : Json) : ErrorObject :=
  (ofJson? j).getD
    { code :=
        match j.get? "code" with
        | some (.number n) => n.signed?.getD 0
        | some (.text s) => (Text.signed? (Text.trim s.toList)).getD 0
        | _ => 0
      message := ((j.get? "message").bind Json.text?).getD ""
      data := j.get? "data" }

end ErrorObject

/-- The reply to a message that is not accepted. -/
structure ErrorReply where
  version : String := Rpc.version
  error : ErrorObject
  id : Json
deriving Inhabited

namespace ErrorReply

def fields : List String := ["jsonrpc", "error", "id"]

def toJson (r : ErrorReply) : Json :=
  .record [("jsonrpc", some (.text r.version)), ("error", some r.error.toJson), ("id", some r.id)]

def ofJson? (j : Json) : Option ErrorReply := do
  match ← j.offers fields with
  | [version, error, id] =>
    return { version := ← version.required Json.text?
             error := ← error.required ErrorObject.ofJson?
             id := ← id.required some }
  | _ => none

/-- The error object inside is a record too. -/
def shape : Json.Shape :=
  .record [("jsonrpc", .whole), ("error", .record (ErrorObject.fields.map (·, .whole))),
    ("id", .whole)]

end ErrorReply
end ServiceLink.Rpc
