import ServiceLink.Error
import ServiceLink.Url.Reader

/-! Addresses of a server: its endpoint in either family of schemes, where a token is to be had, and the
socket address that carries the token. -/

namespace ServiceLink.Endpoint

/-- The endpoint without query and fragment, under the scheme that matches its own in security. -/
def withScheme (secure plain endpoint : String) : Except LinkError Url := do
  let u ← (Url.read none endpoint).mapError .url
  let scheme ←
    if u.scheme = "https" ∨ u.scheme = "wss" then pure secure
    else if u.scheme = "http" ∨ u.scheme = "ws" then pure plain
    else throw (.connection (.unsupportedScheme u.scheme))
  return { u with scheme, query := none, fragment := none }

def http (endpoint : String) : Except LinkError Url := withScheme "https" "http" endpoint

def socket (endpoint : String) : Except LinkError Url := withScheme "wss" "ws" endpoint

def tokenMethod : String := "GetWebSocketToken"

/-- Where the discovery service hands out tokens. -/
def token (endpoint servicesPath : String) : Except LinkError Url := do
  let base ← http endpoint
  (Url.read (some base) (servicesPath ++ tokenMethod)).mapError .url

def tokenParameter : String := "accesstoken"

/-- The socket address with a token. -/
def socketWithToken (endpoint token : String) : Except LinkError Url := do
  let u ← socket endpoint
  return { u with query := some (String.ofList (Url.formPair tokenParameter token)) }

end ServiceLink.Endpoint
