import Mathlib.Algebra.Ring.Int.Defs
import Mathlib.Algebra.Ring.Nat
import Mathlib.Data.List.Basic

namespace VpnUi.Address

/-- A /24 prefix, written "A.B.C" by the panel.  The id-derived prefixes are
formatted from an inbound id without a bound, so the octets are not bounded
here; `Subnet.Valid` says when the text denotes a network. -/
structure Subnet where
  first : Nat
  second : Nat
  third : Nat
  deriving DecidableEq, Repr

structure Ipv4 where
  subnet : Subnet
  host : Nat
  deriving DecidableEq, Repr

namespace Subnet

def Valid (subnet : Subnet) : Prop :=
  subnet.first < 256 ∧ subnet.second < 256 ∧ subnet.third < 256

instance (subnet : Subnet) : Decidable subnet.Valid :=
  inferInstanceAs (Decidable (_ ∧ _))

def withHost (subnet : Subnet) (host : Nat) : Ipv4 := ⟨subnet, host⟩

@[simp] theorem withHost_subnet (subnet : Subnet) (host : Nat) :
    (subnet.withHost host).subnet = subnet := rfl

@[simp] theorem withHost_host (subnet : Subnet) (host : Nat) :
    (subnet.withHost host).host = host := rfl

@[simp] theorem withHost_inj {left right : Subnet} {first second : Nat} :
    left.withHost first = right.withHost second ↔ left = right ∧ first = second := by
  simp [Subnet.withHost]

end Subnet

namespace Ipv4

def Valid (ip : Ipv4) : Prop := ip.subnet.Valid ∧ ip.host < 256

instance (ip : Ipv4) : Decidable ip.Valid :=
  inferInstanceAs (Decidable (_ ∧ _))

def text (ip : Ipv4) : String :=
  toString ip.subnet.first ++ "." ++ toString ip.subnet.second ++ "." ++
    toString ip.subnet.third ++ "." ++ toString ip.host

/-- `net.ParseIP(text).To4()` of an address the panel formatted itself: nil
exactly when an octet does not fit a byte. -/
def parsed? (ip : Ipv4) : Option Ipv4 :=
  if ip.Valid then some ip else none

theorem parsed?_eq_some {ip found : Ipv4} :
    ip.parsed? = some found ↔ ip.Valid ∧ found = ip := by
  unfold parsed?
  split <;> simp_all [eq_comm]

end Ipv4

end VpnUi.Address
