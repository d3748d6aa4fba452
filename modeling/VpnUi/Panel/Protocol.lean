import Mathlib.Data.List.Basic

namespace VpnUi.Panel

inductive VpnProtocol
  | l2tp
  | pptp
  | openvpn
  | openconnect
  | sstp
  deriving DecidableEq, Repr

namespace VpnProtocol

def name : VpnProtocol → String
  | l2tp => "l2tp"
  | pptp => "pptp"
  | openvpn => "openvpn"
  | openconnect => "openconnect"
  | sstp => "sstp"

/-- The second octet of the protocol's /16; 3 is the TCP mirror of OpenVPN. -/
def protocolBase : VpnProtocol → Nat
  | l2tp => 0
  | pptp => 1
  | openvpn => 2
  | openconnect => 4
  | sstp => 5

end VpnProtocol

/-- The panel stores any string here; the ones its code tells apart are
constructors. -/
inductive Protocol
  | vmess
  | vless
  | trojan
  | shadowsocks
  | hysteria
  | hysteria2
  | vpn (backend : VpnProtocol)
  | other (name : String)
  deriving DecidableEq, Repr

namespace Protocol

def name : Protocol → String
  | vmess => "vmess"
  | vless => "vless"
  | trojan => "trojan"
  | shadowsocks => "shadowsocks"
  | hysteria => "hysteria"
  | hysteria2 => "hysteria2"
  | vpn backend => backend.name
  | other name => name

def isVpnProtocol : Protocol → Bool
  | vpn _ => true
  | _ => false

theorem vpn_or_not (protocol : Protocol) :
    (∃ backend, protocol = vpn backend) ∨ protocol.isVpnProtocol = false := by
  cases protocol with
  | vpn backend => exact .inl ⟨backend, rfl⟩
  | _ => exact .inr rfl

end Protocol

end VpnUi.Panel
