import Courier.Config
import Courier.Log
import Courier.Url.Address

/-!
# Resolver — from host names to addresses

A host that is an address in numbers is its own address. What a resolver finds is handed to
connections as addresses with port zero, in the order found: the port comes from the URL.
-/

namespace Courier

/-- An internet address. -/
inductive Address where
  | v4 (number : Nat)
  | v6 (pieces : List Nat)
  deriving Repr, DecidableEq, Inhabited

namespace Address

/-- The IPv4 address of four plain numbers. -/
def v4? (cs : List Char) : Option Nat :=
  match (Url.splitAtChar '.' cs).mapM Url.plainByte? with
  | some [a, b, c, d] => some (((a * 256 + b) * 256 + c) * 256 + d)
  | _ => none

/-- The address that a text spells in numbers. -/
def parse? (text : String) : Option Address :=
  match v4? text.toList with
  | some n => some (.v4 n)
  | none => (Url.ipv6? text.toList).map .v6

/-- The text of an address. The last two pieces of an IPv6 address that stands for an IPv4 address
are written as such. -/
def chars : Address → List Char
  | .v4 n => Url.ipv4Chars n
  | .v6 [0, 0, 0, 0, 0, 0xFFFF, a, b] =>
    [':', ':', 'f', 'f', 'f', 'f', ':'] ++ Url.ipv4Chars (a * 65536 + b)
  | .v6 pieces => Url.ipv6Chars pieces

/-- The text of an address. -/
def print (a : Address) : String :=
  String.ofList a.chars

/-- The text of an address with port zero. -/
def socketText : Address → String
  | .v4 n => String.ofList (Url.ipv4Chars n ++ [':', '0'])
  | .v6 pieces => String.ofList ('[' :: (Address.v6 pieces).chars ++ [']', ':', '0'])

end Address

/-- What looking up a host gives: its addresses in order, or why there are none. -/
abbrev Resolution := Except String (List Address)

namespace ResolverKind

/-- Looks a host up. An address in numbers is its own address; other names are left to the network,
which this function does not ask. -/
def resolve (_ : ResolverKind) (host : String) : Resolution × List Log :=
  match Address.parse? host with
  | some a => (.ok [a], [.hostResolved host 1])
  | none => (.error ("no addresses found for " ++ host), [])

end ResolverKind

/-- The addresses that connections are handed. -/
def Resolution.sockets (r : Resolution) : Except String (List String) :=
  r.map fun addresses => addresses.map Address.socketText

end Courier
