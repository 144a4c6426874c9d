/-! The life of the socket as callers see it. -/

namespace ServiceLink

/-- A connection is `ready` once the service list is known. -/
inductive Status
  | notConnected
  | connecting
  | connected
  | ready
  | disconnecting
deriving DecidableEq, Repr, Inhabited

namespace Status

def text : Status → String
  | .notConnected => "Not connected"
  | .connecting => "Connecting"
  | .connected => "Connected"
  | .ready => "Ready"
  | .disconnecting => "Disconnecting"

/-- A socket exists or is being opened. -/
def isActive : Status → Bool
  | .connecting | .connected | .ready => true
  | _ => false

/-- The socket is open. -/
def isOpen : Status → Bool
  | .connected | .ready => true
  | _ => false

end Status
end ServiceLink
