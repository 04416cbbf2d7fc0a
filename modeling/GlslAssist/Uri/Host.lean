import GlslAssist.Uri.Address
import GlslAssist.Uri.Domain
import GlslAssist.Uri.Escape

/-!
# Hosts

Between brackets a host is an address of eight groups. The hosts of the special schemes are domain
names otherwise, or addresses of four bytes where their last part is a number. Those of other
schemes are names that are kept as they are.
-/

namespace GlslAssist.Uri

/-- Why a text is no URI. -/
inductive Problem where
  | noScheme
  | emptyHost
  | badDomain
  | badHostCharacter
  | badPort
  | badIpv4
  | badIpv6
  deriving DecidableEq, Repr

def Problem.message : Problem → String
  | noScheme => "relative URL without a base"
  | emptyHost => "empty host"
  | badDomain => "invalid international domain name"
  | badHostCharacter => "invalid domain character"
  | badPort => "invalid port number"
  | badIpv4 => "invalid IPv4 address"
  | badIpv6 => "invalid IPv6 address"

inductive Host where
  | name (text : String)
  | ipv4 (address : Nat)
  | ipv6 (groups : List Nat)
  deriving DecidableEq, Repr

namespace Host

def text : Host → String
  | name text => text
  | ipv4 address => ipv4Text address
  | ipv6 groups => "[" ++ ipv6Text groups ++ "]"

/-- The address between brackets. -/
def ofBrackets (s : List Char) : Except Problem Host :=
  if s.getLast? ≠ some ']' then .error .badIpv6
  else
    match ipv6? (s.drop 1).dropLast with
    | some groups => .ok (.ipv6 groups)
    | none => .error .badIpv6

/-- The characters that no host can hold. -/
def isRefused (c : Char) : Bool :=
  [Char.ofNat 0, '\t', '\n', '\r', ' ', '#', '/', ':', '<', '>', '?', '@', '[', '\\', ']', '^',
    '|'].contains c

/-- The host of a special scheme. -/
def ofDomain (s : List Char) : Except Problem Host :=
  if s.head? = some '[' then ofBrackets s
  else
    match domain? (percentDecoded s) with
    | none => .error .badDomain
    | some [] => .error .emptyHost
    | some domain =>
      if !endsInNumber domain then .ok (.name (String.ofList domain))
      else
        match ipv4? domain with
        | some address => .ok (.ipv4 address)
        | none => .error .badIpv4

/-- The host of any other scheme, which is not empty. -/
def ofName (s : List Char) : Except Problem Host :=
  if s.head? = some '[' then ofBrackets s
  else if s.any isRefused then .error .badHostCharacter
  else .ok (.name (String.ofList (Part.host.encode s)))

end Host

end GlslAssist.Uri
