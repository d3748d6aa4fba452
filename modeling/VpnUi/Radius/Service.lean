import VpnUi.Foundation.KeyMap
import VpnUi.Panel.Protocol
import VpnUi.Address.Ipv4

namespace VpnUi.Radius

open Foundation Panel Address

/-! The in-memory state of the embedded RADIUS server.  Times are nanoseconds
of the monotonic clock. -/

def second : Nat := 1000000000

def pendingLeaseTTL : Nat := 90 * second

def pendingReclaimGrace : Nat := 15 * second

def ocStaleReclaimGrace : Nat := 15 * second

structure RadiusSession where
  email : String
  ip : Ipv4
  protocol : VpnProtocol
  started : Nat
  deriving DecidableEq

/-- The text "proto:inbound:idx:station:port" is injective in its five parts:
the first three and the last contain no colon. -/
structure StationKey where
  protocol : VpnProtocol
  inboundId : Nat
  clientIndex : Nat
  station : String
  nasPort : Nat
  deriving DecidableEq

structure RadiusService where
  sessions : KeyMap String RadiusSession
  pending : KeyMap Ipv4 Nat
  stationIP : KeyMap StationKey Ipv4
  stationSeen : KeyMap StationKey Nat

namespace RadiusService

def empty : RadiusService := ⟨∅, ∅, ∅, ∅⟩

end RadiusService

def ocSessionKey (ip : Ipv4) : String := "oc:" ++ ip.text

inductive UserLimitStrategy
  | accept
  | reject
  deriving DecidableEq

def normUserLimitStrategy (text : String) : UserLimitStrategy :=
  if text = "reject" then .reject else .accept

/-- What a handler asks of the nft counters, the database and the daemons, in
the order in which it asks.  `fold` reads and zeroes the counters of an address
and adds the deltas to the row of a non-empty e-mail. -/
inductive Effect
  | fold (email : String) (protocol : VpnProtocol) (ip : Ipv4)
  | addAccounting (protocol : VpnProtocol) (ip : Ipv4)
  | removeAccounting (protocol : VpnProtocol) (ip : Ipv4)
  -- `killPPPByIP`, `killOcservByIP` or `KillClientIP`, by protocol
  | disconnect (protocol : VpnProtocol) (inboundId : Nat) (ip : Ipv4)
  deriving DecidableEq

end VpnUi.Radius
