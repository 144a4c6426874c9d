import ServiceLink.Endpoint
import ServiceLink.Service.Descriptor

/-! The settings of a link, and what its opening of a socket meets before any network is reached.
Durations are in milliseconds. -/

namespace ServiceLink.Link

structure Settings where
  endpoint : String := "http://localhost:4840/"
  servicesPath : String := ServiceList.discoveryPath
  callTimeout : Nat := 60000
  expiryInterval : Nat := 10000
  /-- A token given beforehand; without one the discovery service is asked. -/
  accessToken : Option String := none
deriving Inhabited

/-- How an opening fails. A quiet failure is not told to those who watch the status. -/
inductive OpeningFailure
  | quiet (cause : LinkError)
  | loud (cause : LinkError)

/-- A request line can hold an address of at most this many bytes. -/
def maxAddressBytes : Nat := 65534

namespace Settings

/-- The token request needs an address that can be read and is not too long. -/
def tokenFailure? (s : Settings) : Option OpeningFailure :=
  match Endpoint.token s.endpoint s.servicesPath with
  | .error e => some (.quiet e)
  | .ok u =>
    let address := u.withoutCredentials.text
    if maxAddressBytes < address.utf8ByteSize then
      some (.quiet (.connection (.tokenRequest address)))
    else none

/-- So does the socket, whose address carries the token. -/
def socketFailure? (s : Settings) (token : String) : Option OpeningFailure :=
  match Endpoint.socketWithToken s.endpoint token with
  | .error e => some (.quiet e)
  | .ok u => if maxAddressBytes < u.text.utf8ByteSize then some (.loud .addressTooLong) else none

/-- The failure that an opening meets before it reaches a network, if it does. -/
def openingFailure? (s : Settings) : Option OpeningFailure :=
  match s.accessToken with
  | none => s.tokenFailure?
  | some token => s.socketFailure? token

end Settings
end ServiceLink.Link
