import ServiceLink.Rpc.ErrorObject
import ServiceLink.Url.Error

/-! What can go wrong, and how it is told. -/

namespace ServiceLink

/-- The end of a call without a result. -/
inductive CallError
  | remote (object : Rpc.ErrorObject)
  | expired
  /-- The link went away first. -/
  | dropped
  | invalidResponse (text : String)
deriving Inhabited

def CallError.message : CallError → String
  | .remote object => "Remote error " ++ toString object.code ++ ": " ++ object.message
  | .expired => "Call expired without a response"
  | .dropped => "Call dropped"
  | .invalidResponse text => "Invalid response: " ++ text

/-- The outcome of a call. -/
abbrev Outcome := Except CallError Json

inductive ConnectionError
  | unsupportedScheme (scheme : String)
  | servicesPath (path : String)
  | zeroDuration (option : String)
  /-- No request can be made for the address. -/
  | tokenRequest (address : String)
  | other (text : String)

def ConnectionError.message : ConnectionError → String
  | .unsupportedScheme scheme => "Unsupported endpoint scheme '" ++ scheme ++ "'"
  | .servicesPath path => "Services path must start and end with '/': " ++ path
  | .zeroDuration option => option ++ " must be greater than zero"
  | .tokenRequest address => "Token request failed: builder error for url (" ++ address ++ ")"
  | .other text => text

inductive LinkError
  /-- The socket address is longer than a request line can hold. -/
  | addressTooLong
  | connection (cause : ConnectionError)
  | authentication (text : String)
  | url (cause : UrlError)
  | notConnected
  | unrecognizedCall (service method : String)
  | callIdsExhausted (ceiling : Nat)
  | call (cause : CallError)

def LinkError.message : LinkError → String
  | .addressTooLong => "WebSocket error: HTTP format error: uri too long"
  | .connection cause => "Connection error: " ++ cause.message
  | .authentication text => "Authentication error: " ++ text
  | .url cause => "URL parse error: " ++ cause.message
  | .notConnected => "Not connected"
  | .unrecognizedCall service method => "Unrecognized call: " ++ service ++ "/" ++ method
  | .callIdsExhausted ceiling => "All " ++ toString ceiling ++ " call ids are in flight"
  | .call cause => "Call failed: " ++ cause.message

inductive SubscriptionError
  | unknownService (service : String)
  | alreadySubscribed (service : String)
  | rejected (service : String) (cause : CallError)
  /-- The connection closed before the acknowledgement. -/
  | closed (service : String)
  | link (service : String) (cause : LinkError)

namespace SubscriptionError

def service : SubscriptionError → String
  | .unknownService s | .alreadySubscribed s | .rejected s _ | .closed s | .link s _ => s

def message : SubscriptionError → String
  | .unknownService s => "Cannot subscribe to unknown service '" ++ s ++ "'"
  | .alreadySubscribed s => "Already subscribed to '" ++ s ++ "'"
  | .rejected s cause => "Subscription to '" ++ s ++ "' rejected: " ++ cause.message
  | .closed s => "Subscription to '" ++ s ++ "' closed before acknowledgement"
  | .link s cause => "Subscription to '" ++ s ++ "' failed: " ++ cause.message

end SubscriptionError
end ServiceLink
