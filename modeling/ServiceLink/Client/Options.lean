import ServiceLink.Link.Monitor

/-! The options of a client and their check. -/

namespace ServiceLink.Client

structure Options where
  servicesPath : String := ServiceList.discoveryPath
  accessToken : Option String := none
  callTimeout : Option Nat := none
  expiryInterval : Option Nat := none
  reconnectInterval : Option Nat := none
  /-- Whether the host is visible from the start. -/
  visible : Bool := true
deriving Inhabited

namespace Options

/-- The durations that must not be zero, in the order of their check. -/
def durations (o : Options) : List (String × Option Nat) :=
  [("call_timeout", o.callTimeout), ("expiry_interval", o.expiryInterval),
    ("reconnect_interval", o.reconnectInterval)]

/-- The endpoint is checked before the services path, and that before the durations. -/
def check (o : Options) (endpoint : String) : Except LinkError Unit := do
  let _ ← Endpoint.socket endpoint
  let path := o.servicesPath.toList
  if path.head? ≠ some '/' ∨ path.getLast? ≠ some '/' then
    throw (.connection (.servicesPath o.servicesPath))
  match o.durations.find? (·.2 = some 0) with
  | some (name, _) => throw (.connection (.zeroDuration name))
  | none => return

def linkSettings (o : Options) (endpoint : String) : Link.Settings :=
  let base : Link.Settings :=
    { endpoint, servicesPath := o.servicesPath, accessToken := o.accessToken }
  { base with
    callTimeout := o.callTimeout.getD base.callTimeout
    expiryInterval := o.expiryInterval.getD base.expiryInterval }

def reconnectEvery (o : Options) : Nat := o.reconnectInterval.getD Link.Monitor.defaultInterval

end Options
end ServiceLink.Client
