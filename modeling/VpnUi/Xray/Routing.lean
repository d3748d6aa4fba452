import VpnUi.Address.Range
import VpnUi.Foundation.FirstMatch
import VpnUi.Foundation.Json
import VpnUi.Foundation.KeyMap

namespace VpnUi.Xray

open Foundation Address

/-! The routing rules of the operator, rewritten from the e-mails of the VPN
clients to their addresses. -/

/-- The addresses of the VPN accounts by e-mail. -/
abbrev VpnMap := KeyMap String (List Ipv4)

namespace VpnMap

/-- The addresses that a user of a rule stands for. -/
def addressesOf (vpnMap : VpnMap) : Json → List Ipv4
  | .str email => (vpnMap.lookup email).getD []
  | _ => []

/-- A user of a rule that is no VPN account. -/
def isRegular (vpnMap : VpnMap) : Json → Bool
  | .str email => (vpnMap.lookup email).isNone
  | _ => true

end VpnMap

def addressList (addresses : List Ipv4) : Json :=
  .arr (addresses.map fun address => .str address.text)

/-- The rule that the addresses of its VPN accounts get. -/
def sourceRule (rule : JsonObject) (addresses : List Ipv4) : JsonObject :=
  (JsonObject.remove rule "user").set "source" (addressList addresses)

/-- The rule as it stays for the other users. -/
def userRule (rule : JsonObject) (users : List Json) : JsonObject :=
  JsonObject.set rule "user" (.arr users)

def translateRule (vpnMap : VpnMap) (ruleRaw : Json) : List Json :=
  match ruleRaw with
  | .obj rule =>
      match JsonObject.get rule "user" with
      | .arr users =>
          let vpnIPs := users.flatMap vpnMap.addressesOf
          let regularEmails := users.filter vpnMap.isRegular
          if vpnIPs = [] then [ruleRaw]
          else .obj (sourceRule rule vpnIPs) ::
            if regularEmails = [] then []
            else [.obj (userRule rule regularEmails)]
      | _ => [ruleRaw]
  | _ => [ruleRaw]

/-- The rules of `translateVpnRoutingRules` before the backstop. -/
def translateRules (vpnMap : VpnMap) (rules : List Json) : List Json :=
  rules.flatMap (translateRule vpnMap)

/-! How the core routes. -/

structure Packet (Attributes : Type*) where
  source : Ipv4
  /-- Empty if the inbound knows none. -/
  user : String
  attributes : Attributes

/-- How the core reads a field of a rule, and an entry of its users. -/
structure Router (Attributes : Type*) where
  condition : String → Json → Packet Attributes → Bool
  names : String → Json → Bool

structure Outbound where
  tag : Option Json
  balancer : Option Json

section Routing

variable {Attributes : Type*} (router : Router Attributes)

/-- All the fields of the rule are met. -/
def matchesRule (rule : JsonObject) (packet : Packet Attributes) : Bool :=
  rule.all fun field =>
    router.condition field.1 (JsonObject.get rule field.1) packet

/-- The fields that the translation leaves alone are met. -/
def MetBesides (rule : JsonObject) (packet : Packet Attributes) : Prop :=
  ∀ key value, JsonObject.get? rule key = some value → key ≠ "user" →
    key ≠ "source" → router.condition key value packet = true

def outboundOf (rule : JsonObject) : Outbound where
  tag := JsonObject.get? rule "outboundTag"
  balancer := JsonObject.get? rule "balancerTag"

def applyRule (packet : Packet Attributes) : Json → Option Outbound
  | .obj rule =>
      if matchesRule router rule packet then some (outboundOf rule) else none
  | _ => none

def route (packet : Packet Attributes) (rules : List Json) : Option Outbound :=
  firstMatch (applyRule router packet) rules

/-- What the core documents of its fields. -/
structure Documented : Prop where
  /-- Only the field of the users looks at the user. -/
  userBlind : ∀ key, key ≠ "user" → ∀ value packet user,
    router.condition key value { packet with user := user } =
      router.condition key value packet
  noUsers : ∀ packet, router.condition "user" (.arr []) packet = true
  users : ∀ users, users ≠ [] → ∀ packet,
    router.condition "user" (.arr users) packet =
      users.any (router.names packet.user)
  /-- Nobody is named where the inbound knows no user. -/
  nobody : ∀ entry, router.names "" entry = false
  addresses : ∀ addresses, addresses ≠ [] → ∀ packet,
    router.condition "source" (addressList addresses) packet =
      decide (packet.source ∈ addresses)

end Routing

/-- The account that an address belongs to. -/
def VpnMap.owner (vpnMap : VpnMap) (source : Ipv4) : Option String :=
  (vpnMap.entries.find? fun entry => source ∈ entry.2).map Sigma.fst

/-- The packet as the core gets it: the inbound of the VPN clients knows no
user. -/
def VpnMap.arriving {Attributes : Type*} (vpnMap : VpnMap)
    (packet : Packet Attributes) : Packet Attributes :=
  match vpnMap.owner packet.source with
  | none => packet
  | some _ => { packet with user := "" }

/-- The packet as sent by the account that its source belongs to. -/
def VpnMap.attributed {Attributes : Type*} (vpnMap : VpnMap)
    (packet : Packet Attributes) : Packet Attributes :=
  match vpnMap.owner packet.source with
  | none => packet
  | some email => { packet with user := email }

/-- No address belongs to two accounts. -/
def VpnMap.Disjoint (vpnMap : VpnMap) : Prop :=
  ∀ email addresses other otherAddresses,
    vpnMap.lookup email = some addresses →
    vpnMap.lookup other = some otherAddresses →
    ∀ address ∈ addresses, address ∈ otherAddresses → email = other

/-- What the translation of a rule takes for granted.  The users are a list; a
packet of no VPN account is not named by the e-mail of one; and one of a VPN
account is named by its e-mail alone, and a rule that names it has no condition
on the source that keeps the packet out. -/
structure Carried {Attributes : Type*} (router : Router Attributes)
    (vpnMap : VpnMap) (packet : Packet Attributes) (rule : JsonObject) :
    Prop where
  listed : ∀ value, JsonObject.get? rule "user" = some value → ∃ users, value = .arr users
  unowned : vpnMap.owner packet.source = none → ∀ users,
    JsonObject.get? rule "user" = some (.arr users) → ∀ email, .str email ∈ users →
      vpnMap.lookup email ≠ none → router.names packet.user (.str email) = false
  owned : ∀ email, vpnMap.owner packet.source = some email → ∀ users,
    JsonObject.get? rule "user" = some (.arr users) → ∀ entry ∈ users,
      (router.names email entry = true ↔ entry = .str email)
  source : ∀ email, vpnMap.owner packet.source = some email → ∀ users,
    JsonObject.get? rule "user" = some (.arr users) → .str email ∈ users →
      MetBesides router rule packet →
      ∀ value, JsonObject.get? rule "source" = some value →
        router.condition "source" value packet = true

section Matching

variable {Attributes : Type*} {router : Router Attributes}
  {rule : JsonObject} {packet : Packet Attributes} {users : List Json}
  {addresses : List Ipv4} {user : String}

theorem matchesRule_iff :
    matchesRule router rule packet = true ↔
      ∀ key value, JsonObject.get? rule key = some value →
        router.condition key value packet = true := by
  rw [matchesRule, List.all_eq_true]
  constructor
  · intro met key value found
    have present : (rule.reverse.lookup key).isSome = true := by
      rw [← JsonObject.get?, found]
      rfl
    obtain ⟨field, member, same⟩ := List.lookup_isSome_iff.mp present
    obtain rfl := eq_of_beq same
    have condition := met field (List.mem_reverse.mp member)
    rw [JsonObject.get, found] at condition
    exact condition
  · intro met field member
    have present : (rule.reverse.lookup field.1).isSome = true :=
      List.lookup_isSome_iff.mpr
        ⟨field, List.mem_reverse.mpr member, beq_self_eq_true _⟩
    obtain ⟨value, found⟩ := Option.isSome_iff_exists.mp present
    rw [JsonObject.get, JsonObject.get?, found]
    exact met field.1 value found

/-- A rule is met in its users, in its sources and in all else. -/
theorem matchesRule_iff_parts :
    matchesRule router rule packet = true ↔
      MetBesides router rule packet ∧
        (∀ value, JsonObject.get? rule "user" = some value →
          router.condition "user" value packet = true) ∧
        (∀ value, JsonObject.get? rule "source" = some value →
          router.condition "source" value packet = true) := by
  rw [matchesRule_iff]
  constructor
  · intro met
    exact ⟨fun key value found _ _ => met key value found, met "user",
      met "source"⟩
  · rintro ⟨besides, users, sources⟩ key value found
    by_cases ofUser : key = "user"
    · subst ofUser
      exact users value found
    · by_cases ofSource : key = "source"
      · subst ofSource
        exact sources value found
      · exact besides key value found ofUser ofSource

theorem metBesides_congr {other : JsonObject}
    (same : ∀ key, key ≠ "user" → key ≠ "source" →
      JsonObject.get? other key = JsonObject.get? rule key) :
    MetBesides router other packet ↔ MetBesides router rule packet := by
  constructor <;> intro met key value found ofUser ofSource <;>
    apply met key value _ ofUser ofSource
  · rw [same key ofUser ofSource, found]
  · rw [← same key ofUser ofSource, found]

theorem get?_sourceRule {key : String} (ofUser : key ≠ "user")
    (ofSource : key ≠ "source") :
    JsonObject.get? (sourceRule rule addresses) key =
      JsonObject.get? rule key := by
  rw [sourceRule, JsonObject.get?_set_ne ofSource,
    JsonObject.get?_remove_ne ofUser]

theorem outboundOf_sourceRule :
    outboundOf (sourceRule rule addresses) = outboundOf rule := by
  rw [outboundOf, outboundOf, get?_sourceRule (by decide) (by decide),
    get?_sourceRule (by decide) (by decide)]

theorem outboundOf_userRule :
    outboundOf (userRule rule users) = outboundOf rule := by
  rw [outboundOf, outboundOf, userRule, JsonObject.get?_set_ne (by decide),
    JsonObject.get?_set_ne (by decide)]

variable (documented : Documented router)

include documented

theorem metBesides_user :
    MetBesides router rule { packet with user := user } ↔
      MetBesides router rule packet := by
  constructor <;> intro met key value found ofUser ofSource <;>
    have condition := met key value found ofUser ofSource
  · rwa [documented.userBlind key ofUser] at condition
  · rwa [documented.userBlind key ofUser]

theorem matches_sourceRule (present : addresses ≠ []) :
    matchesRule router (sourceRule rule addresses) packet = true ↔
      MetBesides router rule packet ∧ packet.source ∈ addresses := by
  have users : JsonObject.get? (sourceRule rule addresses) "user" = none := by
    rw [sourceRule, JsonObject.get?_set_ne (by decide),
      JsonObject.get?_remove_self]
  have sources : JsonObject.get? (sourceRule rule addresses) "source" =
      some (addressList addresses) := JsonObject.get?_set_self
  rw [matchesRule_iff_parts, users, sources,
    metBesides_congr fun _ => get?_sourceRule]
  simp [documented.addresses addresses present]

theorem matches_userRule (present : users ≠ []) :
    matchesRule router (userRule rule users) packet = true ↔
      MetBesides router rule packet ∧
        users.any (router.names packet.user) = true ∧
        (∀ value, JsonObject.get? rule "source" = some value →
          router.condition "source" value packet = true) := by
  have found : JsonObject.get? (userRule rule users) "user" =
      some (.arr users) := JsonObject.get?_set_self
  have sources : JsonObject.get? (userRule rule users) "source" =
      JsonObject.get? rule "source" := JsonObject.get?_set_ne (by decide)
  have besides : MetBesides router (userRule rule users) packet ↔
      MetBesides router rule packet :=
    metBesides_congr fun _ ofUser _ => JsonObject.get?_set_ne ofUser
  rw [matchesRule_iff_parts, found, sources, besides]
  simp [documented.users users present]

end Matching

section Owners

variable {vpnMap : VpnMap} {source : Ipv4} {email : String}

theorem VpnMap.addresses_of_owner (owned : vpnMap.owner source = some email) :
    ∃ addresses, vpnMap.lookup email = some addresses ∧ source ∈ addresses := by
  obtain ⟨entry, found, rfl⟩ := Option.map_eq_some_iff.mp owned
  have member := List.find?_some found
  exact ⟨entry.2, KeyMap.mem_entries_iff.mp (List.mem_of_find?_eq_some found),
    of_decide_eq_true member⟩

theorem VpnMap.not_mem_of_unowned (unowned : vpnMap.owner source = none)
    {addresses : List Ipv4} (found : vpnMap.lookup email = some addresses) :
    source ∉ addresses := by
  intro member
  have missed := List.find?_eq_none.mp (Option.map_eq_none_iff.mp unowned)
    ⟨email, addresses⟩ (KeyMap.mem_entries_iff.mpr found)
  exact missed (decide_eq_true member)

theorem VpnMap.mem_addressesOf {entry : Json} :
    source ∈ vpnMap.addressesOf entry ↔
      ∃ email addresses, entry = .str email ∧
        vpnMap.lookup email = some addresses ∧ source ∈ addresses := by
  constructor
  · intro member
    cases entry with
    | str email =>
        cases found : vpnMap.lookup email with
        | none =>
            rw [addressesOf, found] at member
            cases member
        | some addresses =>
            rw [addressesOf, found] at member
            exact ⟨email, addresses, rfl, found, member⟩
    | _ => cases member
  · intro named
    obtain ⟨email, addresses, rfl, found, member⟩ := named
    rw [addressesOf, found]
    exact member

/-- The sources of a rule for VPN accounts are theirs. -/
theorem VpnMap.mem_sources_iff (disjoint : vpnMap.Disjoint)
    (owned : vpnMap.owner source = some email) {users : List Json} :
    source ∈ users.flatMap vpnMap.addressesOf ↔ .str email ∈ users := by
  obtain ⟨addresses, found, member⟩ := VpnMap.addresses_of_owner owned
  rw [List.mem_flatMap]
  constructor
  · intro listed
    obtain ⟨entry, entryMember, inEntry⟩ := listed
    obtain ⟨other, otherAddresses, rfl, otherFound, otherMember⟩ :=
      VpnMap.mem_addressesOf.mp inEntry
    rw [disjoint email addresses other otherAddresses found otherFound source
      member otherMember]
    exact entryMember
  · intro listed
    exact ⟨.str email, listed,
      VpnMap.mem_addressesOf.mpr ⟨email, addresses, rfl, found, member⟩⟩

theorem VpnMap.not_mem_sources (unowned : vpnMap.owner source = none)
    {users : List Json} : source ∉ users.flatMap vpnMap.addressesOf := by
  intro listed
  obtain ⟨entry, -, inEntry⟩ := List.mem_flatMap.mp listed
  obtain ⟨other, addresses, -, found, member⟩ :=
    VpnMap.mem_addressesOf.mp inEntry
  exact VpnMap.not_mem_of_unowned unowned found member

end Owners

section Translation

variable {Attributes : Type*} {router : Router Attributes} {vpnMap : VpnMap}
  {packet : Packet Attributes} {rule : JsonObject} {users : List Json}

/-- The rules that a rule with users is translated to. -/
theorem translateRule_users
    (found : JsonObject.get? rule "user" = some (.arr users)) :
    translateRule vpnMap (.obj rule) =
      if users.flatMap vpnMap.addressesOf = [] then [.obj rule]
      else .obj (sourceRule rule (users.flatMap vpnMap.addressesOf)) ::
        if users.filter vpnMap.isRegular = [] then []
        else [.obj (userRule rule (users.filter vpnMap.isRegular))] := by
  have read : JsonObject.get rule "user" = .arr users := by
    rw [JsonObject.get, found]
    rfl
  rw [translateRule, read]

theorem translateRule_without
    (found : JsonObject.get? rule "user" = none) :
    translateRule vpnMap (.obj rule) = [.obj rule] := by
  have read : JsonObject.get rule "user" = .null := by
    rw [JsonObject.get, found]
    rfl
  rw [translateRule, read]

theorem firstMatch_singleton {raw : Json} :
    firstMatch (applyRule router packet) [raw] = applyRule router packet raw := by
  rw [firstMatch, List.findSome?_singleton]

/-- The translated rules select what the rule does where one of them matches. -/
theorem firstMatch_translated :
    firstMatch (applyRule router packet)
        (.obj (sourceRule rule (users.flatMap vpnMap.addressesOf)) ::
          if users.filter vpnMap.isRegular = [] then []
          else [.obj (userRule rule (users.filter vpnMap.isRegular))]) =
      if matchesRule router
            (sourceRule rule (users.flatMap vpnMap.addressesOf)) packet = true ∨
          users.filter vpnMap.isRegular ≠ [] ∧
            matchesRule router
              (userRule rule (users.filter vpnMap.isRegular)) packet = true then
        some (outboundOf rule)
      else none := by
  rw [firstMatch, List.findSome?_cons, applyRule, outboundOf_sourceRule]
  by_cases bySource : matchesRule router
      (sourceRule rule (users.flatMap vpnMap.addressesOf)) packet = true
  · simp [bySource]
  · by_cases regular : users.filter vpnMap.isRegular = []
    · simp [regular, bySource]
    · simp [regular, bySource, applyRule, outboundOf_userRule]

theorem any_filter_isRegular {names : Json → Bool}
    (unnamed : ∀ email, .str email ∈ users → vpnMap.lookup email ≠ none →
      names (.str email) = false) :
    (users.filter vpnMap.isRegular).any names = users.any names := by
  rw [Bool.eq_iff_iff, List.any_eq_true, List.any_eq_true]
  constructor
  · intro named
    obtain ⟨entry, member, named⟩ := named
    exact ⟨entry, (List.mem_filter.mp member).1, named⟩
  · intro named
    obtain ⟨entry, member, named⟩ := named
    refine ⟨entry, List.mem_filter.mpr ⟨member, ?_⟩, named⟩
    cases entry with
    | str email =>
        rw [VpnMap.isRegular, Option.isNone_iff_eq_none]
        by_contra account
        rw [unnamed email member account] at named
        cases named
    | _ => rfl

/-- For a packet of no VPN account the rules match where the rule does. -/
theorem translated_of_unowned (documented : Documented router)
    (carried : Carried router vpnMap packet rule)
    (unowned : vpnMap.owner packet.source = none)
    (found : JsonObject.get? rule "user" = some (.arr users))
    (present : users.flatMap vpnMap.addressesOf ≠ []) :
    (matchesRule router (sourceRule rule (users.flatMap vpnMap.addressesOf))
        packet = true ∨
      users.filter vpnMap.isRegular ≠ [] ∧
        matchesRule router
          (userRule rule (users.filter vpnMap.isRegular)) packet = true) ↔
      matchesRule router rule packet = true := by
  have nonempty : users ≠ [] := by
    rintro rfl
    exact present rfl
  have regular := any_filter_isRegular (carried.unowned unowned users found)
  rw [matches_sourceRule documented present,
    @matchesRule_iff_parts _ router rule, found]
  have whole : (∀ value, some (Json.arr users) = some value →
      router.condition "user" value packet = true) ↔
      users.any (router.names packet.user) = true := by
    simp [documented.users users nonempty]
  rw [whole, ← regular]
  constructor
  · rintro (⟨-, source⟩ | ⟨others, matched⟩)
    · exact absurd source (VpnMap.not_mem_sources unowned)
    · exact (matches_userRule documented others).mp matched
  · intro matched
    have others : users.filter vpnMap.isRegular ≠ [] := by
      intro none
      rw [none] at matched
      cases matched.2.1
    exact .inr ⟨others, (matches_userRule documented others).mpr matched⟩

/-- For a packet of a VPN account, which arrives without a user, they match where
the rule matches the packet as sent by the account. -/
theorem translated_of_owned (documented : Documented router)
    (disjoint : vpnMap.Disjoint) (carried : Carried router vpnMap packet rule)
    {email : String} (owned : vpnMap.owner packet.source = some email)
    (found : JsonObject.get? rule "user" = some (.arr users))
    (present : users.flatMap vpnMap.addressesOf ≠ []) :
    (matchesRule router (sourceRule rule (users.flatMap vpnMap.addressesOf))
        { packet with user := "" } = true ∨
      users.filter vpnMap.isRegular ≠ [] ∧
        matchesRule router (userRule rule (users.filter vpnMap.isRegular))
          { packet with user := "" } = true) ↔
      matchesRule router rule { packet with user := email } = true := by
  have nonempty : users ≠ [] := by
    rintro rfl
    exact present rfl
  have nobody : ∀ others : List Json, others.any (router.names "") = false := by
    intro others
    simp [documented.nobody]
  have sources : ∀ user value, router.condition "source" value
      { packet with user := user } = router.condition "source" value packet :=
    fun user value => documented.userBlind "source" (by decide) value packet user
  rw [matches_sourceRule documented present,
    @matchesRule_iff_parts _ router rule, found,
    @metBesides_user _ router rule packet "" documented,
    @metBesides_user _ router rule packet email documented]
  simp only [VpnMap.mem_sources_iff disjoint owned, sources]
  have named : (∀ value, some (Json.arr users) = some value →
      router.condition "user" value { packet with user := email } = true) ↔
      .str email ∈ users := by
    simp only [Option.some.injEq, forall_eq', documented.users users nonempty,
      List.any_eq_true]
    constructor
    · intro any
      obtain ⟨entry, member, named⟩ := any
      exact (carried.owned email owned users found entry member).mp named ▸ member
    · intro member
      exact ⟨.str email, member,
        (carried.owned email owned users found _ member).mpr rfl⟩
  rw [named]
  constructor
  · rintro (⟨besides, member⟩ | ⟨others, matched⟩)
    · exact ⟨besides, member,
        carried.source email owned users found member besides⟩
    · have any := ((matches_userRule documented others).mp matched).2.1
      rw [nobody] at any
      cases any
  · intro matched
    exact .inl ⟨matched.1, matched.2.1⟩

/-- A rule that asks for none of the VPN accounts does not tell the two packets
apart. -/
theorem matches_of_no_account (documented : Documented router)
    (carried : Carried router vpnMap packet rule)
    (without : ∀ users, JsonObject.get? rule "user" = some (.arr users) →
      users.flatMap vpnMap.addressesOf = []) :
    matchesRule router rule (vpnMap.arriving packet) = true ↔
      matchesRule router rule (vpnMap.attributed packet) = true := by
  unfold VpnMap.arriving VpnMap.attributed
  cases owned : vpnMap.owner packet.source with
  | none => rfl
  | some email =>
      dsimp only
      obtain ⟨addresses, account, member⟩ := VpnMap.addresses_of_owner owned
      rw [matchesRule_iff_parts, matchesRule_iff_parts,
        @metBesides_user _ router rule packet "" documented,
        @metBesides_user _ router rule packet email documented]
      have sources : ∀ user value, router.condition "source" value
          { packet with user := user } =
            router.condition "source" value packet := fun user value =>
        documented.userBlind "source" (by decide) value packet user
      have users : ∀ value, JsonObject.get? rule "user" = some value →
          (router.condition "user" value { packet with user := "" } = true ↔
            router.condition "user" value
              { packet with user := email } = true) := by
        intro value found
        obtain ⟨users, rfl⟩ := carried.listed value found
        by_cases empty : users = []
        · rw [empty, documented.noUsers, documented.noUsers]
        · rw [documented.users users empty, documented.users users empty]
          have unnamed : users.any (router.names email) = false := by
            apply Bool.eq_false_iff.mpr
            intro named
            obtain ⟨entry, listed, named⟩ := List.any_eq_true.mp named
            obtain rfl := (carried.owned email owned users found entry
              listed).mp named
            have source : packet.source ∈
                users.flatMap vpnMap.addressesOf :=
              List.mem_flatMap.mpr ⟨.str email, listed,
                VpnMap.mem_addressesOf.mpr
                  ⟨email, addresses, rfl, account, member⟩⟩
            rw [without users found] at source
            cases source
          simp [documented.nobody, unnamed]
      constructor
      · rintro ⟨besides, ofUser, ofSource⟩
        exact ⟨besides, fun value found =>
            (users value found).mp (ofUser value found),
          fun value found => (sources email value).trans
            ((sources "" value).symm.trans (ofSource value found))⟩
      · rintro ⟨besides, ofUser, ofSource⟩
        exact ⟨besides, fun value found =>
            (users value found).mpr (ofUser value found),
          fun value found => (sources "" value).trans
            ((sources email value).symm.trans (ofSource value found))⟩

/-- The rules that a rule is translated to select of the arriving packet what the
rule selects of the attributed one. -/
theorem firstMatch_translateRule (documented : Documented router)
    (disjoint : vpnMap.Disjoint)
    (carried : Carried router vpnMap packet rule) :
    firstMatch (applyRule router (vpnMap.arriving packet))
        (translateRule vpnMap (.obj rule)) =
      applyRule router (vpnMap.attributed packet) (.obj rule) := by
  have kept : (∀ users, JsonObject.get? rule "user" = some (.arr users) →
      users.flatMap vpnMap.addressesOf = []) →
      firstMatch (applyRule router (vpnMap.arriving packet)) [.obj rule] =
        applyRule router (vpnMap.attributed packet) (.obj rule) := by
    intro without
    rw [firstMatch_singleton, applyRule, applyRule]
    simp only [matches_of_no_account documented carried without]
  cases found : JsonObject.get? rule "user" with
  | none =>
      rw [translateRule_without found]
      apply kept
      intro users other
      rw [found] at other
      cases other
  | some value =>
      obtain ⟨users, rfl⟩ := carried.listed value found
      rw [translateRule_users found]
      by_cases present : users.flatMap vpnMap.addressesOf = []
      · rw [if_pos present]
        apply kept
        intro others other
        rw [found] at other
        cases other
        exact present
      · rw [if_neg present, firstMatch_translated, applyRule]
        unfold VpnMap.arriving VpnMap.attributed
        cases owned : vpnMap.owner packet.source with
        | none =>
            simp only [translated_of_unowned documented carried owned found
              present]
        | some email =>
            simp only [translated_of_owned documented disjoint carried owned
              found present]

end Translation

section Example

/-- Entries are e-mails, sources are addresses, and the one attribute is the tag
of the inbound. -/
def plainRouter : Router String where
  condition key value packet :=
    if key = "user" then
      match value with
      | .arr [] => true
      | .arr users => users.any fun
          | .str email => packet.user ≠ "" && email = packet.user
          | _ => false
      | _ => false
    else if key = "source" then
      match value with
      | .arr sources => sources.any fun
          | .str text => text = packet.source.text
          | _ => false
      | _ => false
    else if key = "inboundTag" then
      match value with
      | .arr tags => tags.any fun
          | .str tag => tag = packet.attributes
          | _ => false
      | _ => false
    else true
  names user
    | .str email => user ≠ "" && email = user
    | _ => false

theorem plainRouter_documented : Documented plainRouter where
  userBlind key other value packet user := by
    simp only [plainRouter, if_neg other]
  noUsers _ := rfl
  users users present packet := by
    cases users with
    | nil => exact absurd rfl present
    | cons first rest => rfl
  nobody entry := by cases entry <;> rfl
  addresses addresses _ packet := by
    change (addresses.map _).any _ = _
    rw [Bool.eq_iff_iff, List.any_eq_true, decide_eq_true_iff]
    constructor
    · intro found
      obtain ⟨_, listed, same⟩ := found
      obtain ⟨address, member, rfl⟩ := List.mem_map.mp listed
      rw [← Ipv4.text_injective (of_decide_eq_true same)]
      exact member
    · intro member
      exact ⟨.str packet.source.text, List.mem_map_of_mem member,
        decide_eq_true rfl⟩

def annAddress : Ipv4 := ⟨⟨10, 0, 1⟩, 2⟩

def annMap : VpnMap := (∅ : VpnMap).insert "ann" [annAddress]

theorem annMap_lookup {email : String} {addresses : List Ipv4}
    (found : annMap.lookup email = some addresses) : email = "ann" := by
  rcases KeyMap.lookup_insert_eq_some.mp found with ⟨same, -⟩ | ⟨-, other⟩
  · exact same
  · cases other

theorem annMap_disjoint : annMap.Disjoint := by
  intro email addresses other otherAddresses found otherFound _ _ _
  rw [annMap_lookup found, annMap_lookup otherFound]

def annPacket : Packet String where
  source := annAddress
  user := ""
  attributes := "l2tp"

def annAndBobRule : JsonObject :=
  [("user", .arr [.str "ann", .str "bob"]), ("inboundTag", .arr [.str "l2tp"]),
    ("outboundTag", .str "exit")]

/-- A rule for ann from elsewhere. -/
def restrictedRule : JsonObject :=
  [("user", .arr [.str "ann"]), ("source", .arr [.str "192.0.2.1"]),
    ("outboundTag", .str "exit")]

end Example

end VpnUi.Xray
