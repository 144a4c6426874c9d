import ServiceLink.Url.Address
import ServiceLink.Url.Error
import ServiceLink.Url.Label

/-! Hosts of URLs. In a special scheme a host is a domain name or a numeric address; in any other it is
a name whose characters are taken as they come. -/

namespace ServiceLink.Url

inductive Host
  | name (text : String)
  | ipv4 (address : Nat)
  | ipv6 (pieces : List Nat)
deriving DecidableEq, Repr

open Text

namespace Host

def text : Host → String
  | .name text => text
  | .ipv4 address => ipv4Text address
  | .ipv6 pieces => "[" ++ ipv6Text pieces ++ "]"

/-- An address in brackets. -/
def bracketed (cs : List Char) : Except UrlError Host :=
  if cs.getLast? = some ']' then
    match ipv6? cs.tail.dropLast with
    | some pieces => .ok (.ipv6 pieces)
    | none => .error .ipv6Address
  else .error .ipv6Address

/-- Characters that stand in no domain name. -/
def deniedInDomain (c : Char) : Bool :=
  c.toNat ≤ 0x20 ∨ c.toNat = 0x7f
    ∨ c ∈ ['%', '#', '/', ':', '<', '>', '?', '@', '[', '\\', ']', '^', '|']

/-- The ASCII form of a domain name given by its bytes. -/
def domain? (bytes : List UInt8) : Option (List Char) := do
  let folded ← fold? (← String.fromUTF8? ⟨bytes.toArray⟩).toList
  if folded.any deniedInDomain then none
  let labels ← (pieces (· = '.') folded).mapM Label.read?
  if labels.all Label.isSound ∧ Label.allKeepDirection labels then
    some (['.'].intercalate (labels.map Label.text))
  else none

/-- The host of a special scheme. -/
def special (cs : List Char) : Except UrlError Host :=
  if cs.head? = some '[' then bracketed cs
  else
    match domain? (percentDecode cs) with
    | none => .error .internationalName
    | some [] => .error .emptyHost
    | some domain =>
      if endsInNumber domain then
        match ipv4? domain with
        | some address => .ok (.ipv4 address)
        | none => .error .ipv4Address
      else .ok (.name (String.ofList domain))

def deniedInName (c : Char) : Bool :=
  c ∈ ['\x00', '\t', '\n', '\r', ' ', '#', '/', ':', '<', '>', '?', '@', '[', '\\', ']', '^', '|']

/-- The host of any other scheme. -/
def plain (cs : List Char) : Except UrlError Host :=
  if cs.head? = some '[' then bracketed cs
  else if cs.any deniedInName then .error .domainCharacter
  else .ok (.name (String.ofList (percentEncode controlSet cs)))

end Host
end ServiceLink.Url
