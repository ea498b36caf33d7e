import InAppMessaging.Url.Address
import InAppMessaging.Url.DomainName

/-!
# Hosts

The host of a URL: a name, or a numeric address.  Where the scheme has rules of its own, a
name is percent-decoded and written as a domain name in ASCII, and one that ends in a number
has to be an address.  Elsewhere a name stands as it is.
-/

namespace InAppMessaging.Url

/-- Why a text is no URL. -/
inductive Fault where
  | relative
  | emptyHost
  | port
  | ipv4
  | ipv6
  | domain
  | hostCharacter
deriving DecidableEq, Repr

/-- The text of a fault. -/
def Fault.text : Fault → String
  | relative => "relative URL without a base"
  | emptyHost => "empty host"
  | port => "invalid port number"
  | ipv4 => "invalid IPv4 address"
  | ipv6 => "invalid IPv6 address"
  | domain => "invalid international domain name"
  | hostCharacter => "invalid domain character"

/-- A host. -/
inductive HostName where
  | name (text : String)
  | ipv4 (address : Nat)
  | ipv6 (groups : List Nat)
deriving DecidableEq, Repr

/-- The text of a host. -/
def HostName.text : HostName → String
  | name s => s
  | ipv4 n => ipv4Text n
  | ipv6 groups => "[" ++ ipv6Text groups ++ "]"

/-- The host has no name at all. -/
def HostName.isEmpty : HostName → Bool
  | name s => s.isEmpty
  | _ => false

/-- The bytes as text. -/
def textOfBytes? (bytes : List Nat) : Option String :=
  String.fromUTF8? ⟨(bytes.map UInt8.ofNat).toArray⟩

/-- A host in brackets. -/
def bracketed? (cs : List Char) : Except Fault HostName :=
  match cs.reverse with
  | ']' :: inner =>
      match ipv6? inner.reverse with
      | some groups => .ok (.ipv6 groups)
      | none => .error .ipv6
  | _ => .error .ipv6

/-- Reads a host where the scheme has rules of its own. -/
def folded? (cs : List Char) : Except Fault HostName :=
  match (textOfBytes? (percentDecode cs)).bind fun s => domainName? s.toList with
  | none => .error .domain
  | some [] => .error .emptyHost
  | some name =>
      if endsInNumber name then
        match ipv4? name with
        | some address => .ok (.ipv4 address)
        | none => .error .ipv4
      else .ok (.name (String.ofList name))

/-- A character that a host cannot hold, whatever the scheme. -/
def isForbiddenInHost (c : Char) : Bool :=
  c = '\x00' || c = '\t' || c = '\n' || c = '\r' || c = ' ' ||
    ['#', '/', ':', '<', '>', '?', '@', '[', '\\', ']', '^', '|'].contains c

/-- Reads a host where the scheme has no rules of its own. -/
def plain? (cs : List Char) : Except Fault HostName :=
  if cs.any isForbiddenInHost then .error .hostCharacter
  else .ok (.name (String.ofList (percentEncode keptInRawPath cs)))

/-- Reads a host. -/
def HostName.ofText (special : Bool) : List Char → Except Fault HostName
  | '[' :: rest => bracketed? rest
  | cs => if special then folded? cs else plain? cs

end InAppMessaging.Url
