import VpnUi.Foundation.Json
import VpnUi.Foundation.Table
import VpnUi.Panel.Protocol

namespace VpnUi.Panel

open Foundation

/-- A row of the inbounds table. -/
structure Inbound where
  id : Int
  listen : String
  port : Int
  protocol : Protocol
  settings : JsonText
  enable : Bool
  tag : String

abbrev Inbounds := Table Inbound.id

/-- `db.Where("protocol = ?", ..)`, in the order of the rows. -/
def Inbounds.ofProtocol (inbounds : Inbounds) (protocol : Protocol) :
    List Inbound :=
  inbounds.rows.filter (·.protocol = protocol)

theorem Inbounds.mem_ofProtocol {inbounds : Inbounds} {protocol : Protocol}
    {inbound : Inbound} :
    inbound ∈ inbounds.ofProtocol protocol ↔
      inbound ∈ inbounds ∧ inbound.protocol = protocol := by
  simp [ofProtocol, Table.mem_def]

end VpnUi.Panel
