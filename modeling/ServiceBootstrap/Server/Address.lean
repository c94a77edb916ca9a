/-!
Addresses a server listens on: an IPv4 address and a port.
-/

namespace ServiceBootstrap

structure Ipv4 where
  a : UInt8
  b : UInt8
  c : UInt8
  d : UInt8
  deriving DecidableEq, Repr, Inhabited

namespace Ipv4

def text (ip : Ipv4) : String :=
  String.intercalate "." ([ip.a, ip.b, ip.c, ip.d].map fun n => toString n.toNat)

def octet? (s : String) : Option UInt8 := do
  guard (s.length ≤ 3 ∧ s.all Char.isDigit ∧ (s = "0" ∨ !s.startsWith "0"))
  let n ← s.toNat?
  guard (n < 256)
  return UInt8.ofNat n

/-- Reads four decimal octets without leading zeros. -/
def ofText? (s : String) : Option Ipv4 :=
  match s.splitOn "." with
  | [a, b, c, d] => do return ⟨← octet? a, ← octet? b, ← octet? c, ← octet? d⟩
  | _ => none

def loopback : Ipv4 := ⟨127, 0, 0, 1⟩

end Ipv4

structure SocketAddress where
  ip : Ipv4
  port : UInt16
  deriving DecidableEq, Repr, Inhabited

namespace SocketAddress

def text (s : SocketAddress) : String := s.ip.text ++ ":" ++ toString s.port.toNat

end SocketAddress

end ServiceBootstrap
