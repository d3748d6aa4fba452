import VpnUi.Address.UserLimit
import VpnUi.Panel.Protocol

namespace VpnUi.Address

open Panel

/-! The allocator of /24s: validation and growth of the ranges of a PPP
inbound, and the aligned block of an OpenVPN or OpenConnect inbound.  An
occupancy set is the list of its /24s. -/

/-- `%q` of a text. -/
def quote (text : String) : String :=
  let escape (letter : Char) : List Char :=
    match letter with
    | '"' => ['\\', '"']
    | '\\' => ['\\', '\\']
    | '\n' => ['\\', 'n']
    | '\r' => ['\\', 'r']
    | '\t' => ['\\', 't']
    | letter => [letter]
  "\"" ++ String.ofList (text.toList.flatMap escape) ++ "\""

inductive RangeError
  | invalid (range : String)
  | overlaps (range : String) (subnet : Subnet)
  | noFreeSubnet (protocol : VpnProtocol)
  | noFreeBlock (num24 base : Nat)
  deriving DecidableEq

def RangeError.text : RangeError → String
  | invalid range =>
      "invalid IP range " ++ quote range ++
        " (expected e.g. 10.0.5.2-10.0.5.254 within one /24)"
  | overlaps range subnet =>
      "IP range " ++ quote range ++ " overlaps another inbound (subnet " ++
        (subnet.withHost 0).text ++ "/24 is already in use)"
  | noFreeSubnet protocol =>
      "no free /24 subnet available for " ++ protocol.name
  | noFreeBlock num24 base =>
      "no free aligned block of " ++ toString num24 ++
        " /24s available in 10." ++ toString base ++ ".0.0/16"

/-- The /24s from 10.base.2 to 10.base.254. -/
def candidateSubnets (protocol : VpnProtocol) : List Subnet :=
  (List.range' 2 253).map fun third => ⟨10, protocol.protocolBase, third⟩

def nextFreeSubnet (protocol : VpnProtocol) (used : List Subnet) :
    Option Subnet :=
  (candidateSubnets protocol).find? (· ∉ used)

def mirrorOvpnSubnet (subnet : Subnet) : Subnet :=
  if subnet.first = 10 ∧ subnet.second = 2 then ⟨10, 3, subnet.third⟩
  else if subnet.first = 10 ∧ subnet.second = 3 then ⟨10, 2, subnet.third⟩
  else subnet

def validateRange (used : List Subnet) (text : String) :
    Except RangeError String :=
  match parseRange text with
  | none => .error (.invalid text)
  | some range =>
      if range.subnet ∈ used then .error (.overlaps text range.subnet)
      else .ok range.text

def haveCapacity (valid : List String) (clientCount userLimit : Nat) : Bool :=
  if userLimit ≤ 1 then clientCount ≤ rangeCapacity valid
  else clientCount ≤ vpnAccountsCapacity (subnetsOf valid) userLimit

/-- The loop that appends free /24s; `own` of the source is
`subnetsOf valid`. -/
def expandRanges (protocol : VpnProtocol) (clientCount userLimit : Nat)
    (used : List Subnet) : Nat → List String → List String
  | 0, valid => valid
  | fuel + 1, valid =>
      if haveCapacity valid clientCount userLimit then valid
      else
        match nextFreeSubnet protocol (used ++ subnetsOf valid) with
        | none => valid
        | some subnet =>
            expandRanges protocol clientCount userLimit used fuel
              (valid ++ [defaultRange subnet])

/-- The ranges the loop starts from. -/
def seedRanges (protocol : VpnProtocol) (ranges : List String)
    (used : List Subnet) : Except RangeError (List String) := do
  let valid ← ranges.mapM (validateRange used)
  if valid = [] then
    match nextFreeSubnet protocol used with
    | none => .error (.noFreeSubnet protocol)
    | some subnet => .ok [defaultRange subnet]
  else .ok valid

/-- There are 253 candidates, and each round takes one. -/
def normalizePppRanges (protocol : VpnProtocol) (ranges : List String)
    (clientCount userLimit : Nat) (used : List Subnet) :
    Except RangeError (List String) := do
  let valid ← seedRanges protocol ranges used
  .ok (expandRanges protocol clientCount userLimit used 254 valid)

/-- Every /24 of the aligned block from `start`, and its mirror, is free. -/
def blockFree (num24 base : Nat) (mirrorBase : Option Nat)
    (used : List Subnet) (start : Nat) : Bool :=
  start + num24 - 1 ≤ 254 ∧
    ∀ third ∈ List.range' start num24,
      (⟨10, base, third⟩ : Subnet) ∉ used ∧
        ∀ mirror ∈ mirrorBase, (⟨10, mirror, third⟩ : Subnet) ∉ used

/-- The start of a free aligned block: the one of the inbound id if it is
free, else the first.  A negative quotient is no candidate. -/
def allocateAlignedBlock (id : Int) (num24 base : Nat)
    (mirrorBase : Option Nat) (used : List Subnet) : Option Nat :=
  let own := id.tdiv num24 * num24
  if 0 ≤ own ∧ blockFree num24 base mirrorBase used own.toNat then
    some own.toNat
  else
    ((List.range (255 / num24)).map (· * num24)).find?
      (blockFree num24 base mirrorBase used)

/-- The doubling of `num24` up to the number of accounts. -/
def blockSpan (per needed : Nat) : Nat → Nat → Nat
  | 0, num24 => num24
  | fuel + 1, num24 =>
      if num24 * per < needed then blockSpan per needed fuel (num24 * 2)
      else num24

def normalizeBlockRanges (inboundId : Int) (clientCount userLimit base : Nat)
    (mirrorBase : Option Nat) (used : List Subnet) :
    Except RangeError (List String) :=
  let needed := max clientCount 1
  let num24 := min (blockSpan (accountsPerSubnet userLimit) needed needed 1) 64
  match allocateAlignedBlock inboundId num24 base mirrorBase used with
  | none => .error (.noFreeBlock num24 base)
  | some start =>
      .ok ((List.range' start num24).map fun third =>
        ovpnRangeForSubnet ⟨10, base, third⟩)

def normalizeOvpnRanges (inboundId : Int) (clientCount userLimit : Nat)
    (used : List Subnet) : Except RangeError (List String) :=
  normalizeBlockRanges inboundId clientCount userLimit 2 (some 3) used

end VpnUi.Address
