import ServiceLink.Rpc.Request

/-! Inbound messages, told apart by their members. -/

namespace ServiceLink.Rpc

/-- A server push. -/
structure Notification where
  method : String
  params : Option Json
deriving Inhabited

inductive Message
  /-- Completes a call; an unusable id completes none. -/
  | response (id : Option Nat) (result : Json)
  | error (id : Option Nat) (object : ErrorObject)
  | notification (n : Notification)
  /-- The server calls the client, which is never accepted. -/
  | call (id : Json) (method : String)
  /-- No object, or another protocol version. -/
  | invalid (id : Json)
  | unknown
deriving Inhabited

namespace Message

/-- A call id is an unsigned integer; a server may echo it as text. -/
def callId? : Json → Option Nat
  | .number n => n.unsigned?
  | .text s => Text.unsigned? (Text.trim s.toList)
  | _ => none

/-- A result with an id is a response before all else, and a method makes a call or a notification
before an error is looked for. -/
def classify (j : Json) : Message :=
  if j.members?.isNone then .invalid .null
  else if (j.get? "jsonrpc").bind Json.text? ≠ some version then
    .invalid ((j.get? "id").getD .null)
  else
    match j.get? "result", j.get? "id", (j.get? "method").bind Json.text?, j.get? "error" with
    | some result, some id, _, _ => .response (callId? id) result
    | _, some id, some method, _ => .call id method
    | _, none, some method, _ => .notification { method, params := j.get? "params" }
    | none, some id, none, some object => .error (callId? id) (.read object)
    | _, _, _, _ => .unknown

/-- The reply owed to the server: a call is refused, and so is what is no message. -/
def reply? : Message → Option ErrorReply
  | .call id _ => some { error := .methodNotFound, id }
  | .invalid id => some { error := .invalidRequest, id }
  | _ => none

end Message

/-- What a text frame holds. -/
inductive Frame
  | single (message : Message)
  | batch (messages : List Message)
  /-- No JSON text, or a bare scalar. -/
  | unreadable

namespace Frame

def read (text : String) : Frame :=
  match Json.parse? text with
  | some (.array elements) => .batch (elements.map .classify)
  | some (.object members) => .single (.classify (.object members))
  | _ => .unreadable

def messages : Frame → List Message
  | .single message => [message]
  | .batch messages => messages
  | .unreadable => []

/-- The text of the reply frame, if one is owed: the replies to a batch form one array. -/
def reply? : Frame → Option String
  | .single message => message.reply?.map fun r => r.toJson.render
  | .batch messages =>
    let replies := messages.filterMap Message.reply?
    if replies.isEmpty then none
    else some (Json.array (replies.map ErrorReply.toJson)).render
  | .unreadable => some (ErrorReply.toJson { error := .parseError, id := .null }).render

end Frame
end ServiceLink.Rpc
