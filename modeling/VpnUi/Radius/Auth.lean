import VpnUi.Radius.Lookup

namespace VpnUi.Radius

open Foundation Panel

/-! The answer to an Access-Request: the password check, PAP or MS-CHAPv2, and
the user-limit gate after it. -/

abbrev Octets := List UInt8

/-- The attributes of an Access-Request that decide the answer; `nas` is the
parsed NAS-Identifier. -/
structure AccessRequest where
  username : String
  nas : Option (VpnProtocol × Int)
  userPassword : String
  challenge : Octets
  response : Octets

inductive AccessReply
  | accept
  | reject
  deriving DecidableEq

/-- `rfc2759.GenerateNTResponse`: the response to two challenges of a user
name with a password. -/
abbrev NtResponse := Octets → Octets → String → String → Option Octets

/-- A request whose answer to the challenge, or whose plain password, comes
from this password. -/
def ComputedFrom (ntResponse : NtResponse) (request : AccessRequest)
    (password : String) : Prop :=
  (request.userPassword ≠ "" ∧ request.userPassword = password) ∨
    (request.userPassword = "" ∧
      ntResponse request.challenge ((request.response.drop 2).take 16)
        request.username password = some ((request.response.drop 26).take 24))

instance (ntResponse : NtResponse) (request : AccessRequest)
    (password : String) : Decidable (ComputedFrom ntResponse request password) :=
  inferInstanceAs (Decidable ((_ ∧ _) ∨ (_ ∧ _)))

/-- OpenVPN's own hook enforces the user limit, so only the other protocols
are denied here after a plain password. -/
def gated (request : AccessRequest) (backend : VpnProtocol) : Bool :=
  request.userPassword = "" || backend = .openconnect

/-- `deny` is the refusal of `getClientIP`. -/
def handleAuth (ntResponse : NtResponse) (inbounds : Inbounds)
    (trafficEnable : String → Option Bool) (deny : Bool)
    (request : AccessRequest) : AccessReply :=
  match request.nas with
  | none => .reject
  | some (backend, inboundId) =>
      if request.username = "" then .reject
      else
        match lookupClient inbounds trafficEnable backend inboundId
            request.username with
        | .error _ => .reject
        | .ok password =>
            if request.userPassword = "" ∧
                (request.challenge.length ≠ 16 ∨ request.response.length ≠ 50)
            then .reject
            else if ¬ ComputedFrom ntResponse request password then .reject
            else if gated request backend ∧ deny then .reject
            else .accept

/-- An accepted request comes from the password of a client. -/
theorem handleAuth_eq_accept {ntResponse : NtResponse} {inbounds : Inbounds}
    {trafficEnable : String → Option Bool} {deny : Bool}
    {request : AccessRequest}
    (accepted : handleAuth ntResponse inbounds trafficEnable deny request =
      .accept) :
    ∃ backend inboundId password,
      lookupClient inbounds trafficEnable backend inboundId
        request.username = .ok password ∧
      ComputedFrom ntResponse request password := by
  unfold handleAuth at accepted
  split at accepted
  · cases accepted
  next backend inboundId _ =>
    split at accepted
    · cases accepted
    split at accepted
    · cases accepted
    next password found =>
      split at accepted
      · cases accepted
      split at accepted
      · cases accepted
      next computed =>
        exact ⟨backend, inboundId, password, found, not_not.mp computed⟩

end VpnUi.Radius
