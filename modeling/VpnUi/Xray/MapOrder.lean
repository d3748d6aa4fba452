import Mathlib.Data.List.Perm.Basic
import VpnUi.Xray.Generate
import VpnUi.Xray.Service

namespace VpnUi.Xray

open Foundation Address

/-! The loops over a client and over a rule do not depend on their order; the one
over the accounts does, for the order of the addresses in the rule that accepts
them. -/

/-! The keys of a client. -/

section Clients

variable {client : JsonObject} {key name : String} {names others : List String}

def fixFlow (flow : Option Json) : Option Json :=
  if Json.isText flow "xtls-rprx-vision-udp443" then
    some (.str "xtls-rprx-vision")
  else flow

theorem fixFlow_fixFlow (flow : Option Json) :
    fixFlow (fixFlow flow) = fixFlow flow := by
  unfold fixFlow
  split
  · rfl
  · rfl

theorem get?_clearKey_flow :
    (clearKey client key).get? "flow" = fixFlow (client.get? "flow") := by
  have cleared : (if key ∈ coreKeys then client
      else JsonObject.remove client key).get? "flow" = client.get? "flow" := by
    split
    · rfl
    · next dropped =>
        refine JsonObject.get?_remove_ne ?_
        rintro rfl
        exact dropped (by decide)
  unfold clearKey fixFlow
  generalize (if key ∈ coreKeys then client
    else JsonObject.remove client key) = rest at cleared
  dsimp only
  rw [cleared]
  split
  · exact JsonObject.get?_set_self
  · exact cleared

theorem get?_clearKey (other : name ≠ "flow") :
    (clearKey client key).get? name =
      if name = key ∧ key ∉ coreKeys then none else client.get? name := by
  have cleared : (if key ∈ coreKeys then client
      else JsonObject.remove client key).get? name =
        if name = key ∧ key ∉ coreKeys then none else client.get? name := by
    by_cases kept : key ∈ coreKeys
    · rw [if_pos kept, if_neg fun both => both.2 kept]
    · rw [if_neg kept]
      by_cases same : name = key
      · rw [if_pos ⟨same, kept⟩, same, JsonObject.get?_remove_self]
      · rw [if_neg fun both => same both.1, JsonObject.get?_remove_ne same]
  rw [← cleared]
  unfold clearKey
  generalize (if key ∈ coreKeys then client
    else JsonObject.remove client key) = rest
  dsimp only
  split
  · exact JsonObject.get?_set_ne other
  · rfl

theorem get?_foldl_clearKey_flow (given : names ≠ []) :
    (names.foldl clearKey client).get? "flow" =
      fixFlow (client.get? "flow") := by
  induction names generalizing client with
  | nil => exact absurd rfl given
  | cons key names induction =>
      rw [List.foldl_cons]
      by_cases last : names = []
      · subst last
        exact get?_clearKey_flow
      · rw [induction last, get?_clearKey_flow, fixFlow_fixFlow]

theorem get?_foldl_clearKey (other : name ≠ "flow") :
    (names.foldl clearKey client).get? name =
      if name ∈ names ∧ name ∉ coreKeys then none else client.get? name := by
  induction names generalizing client with
  | nil => simp
  | cons key names induction =>
      rw [List.foldl_cons, induction, get?_clearKey other]
      by_cases same : name = key
      · subst same
        by_cases kept : name ∈ coreKeys
        · simp [kept]
        · simp [kept]
      · simp [same]

/-- The order of the keys does not count. -/
theorem get?_clear_perm (permuted : names.Perm others) (name : String) :
    (names.foldl clearKey client).get? name =
      (others.foldl clearKey client).get? name := by
  by_cases flow : name = "flow"
  · subst flow
    by_cases empty : names = []
    · subst empty
      rw [permuted.symm.eq_nil]
    · have given : others ≠ [] := fun none =>
        empty (none ▸ permuted).eq_nil
      rw [get?_foldl_clearKey_flow empty, get?_foldl_clearKey_flow given]
  · rw [get?_foldl_clearKey flow, get?_foldl_clearKey flow]
    simp only [permuted.mem_iff]

end Clients

/-! The copy of a rule. -/

section Rules

variable {rule copy : JsonObject} {name : String} {names others : List String}

theorem get?_copyField {key : String} :
    (copyField rule copy key).get? name =
      if name = key ∧ name ≠ "user" then some (JsonObject.get rule name)
      else copy.get? name := by
  unfold copyField
  by_cases user : key = "user"
  · rw [if_pos user, if_neg fun both => both.2 (both.1.trans user)]
  · rw [if_neg user]
    by_cases same : name = key
    · rw [if_pos ⟨same, same ▸ user⟩, same, JsonObject.get?_set_self]
    · rw [if_neg fun both => same both.1, JsonObject.get?_set_ne same]

theorem get?_foldl_copyField :
    (names.foldl (copyField rule) copy).get? name =
      if name ∈ names ∧ name ≠ "user" then some (JsonObject.get rule name)
      else copy.get? name := by
  induction names generalizing copy with
  | nil => simp
  | cons key names induction =>
      rw [List.foldl_cons, induction, get?_copyField]
      by_cases same : name = key
      · subst same
        by_cases user : name = "user"
        · simp [user]
        · simp [user]
      · simp [same]

theorem get?_copy_perm (permuted : names.Perm others) (name : String) :
    (names.foldl (copyField rule) copy).get? name =
      (others.foldl (copyField rule) copy).get? name := by
  rw [get?_foldl_copyField, get?_foldl_copyField]
  simp only [permuted.mem_iff]

end Rules

/-! What the runs agree on. -/

section Runs

variable (orders other : Orders) (unmarshal : RawMessage → JsonText)

theorem normal_finalClient (row : InboundRow) (index : Nat) (client : Json) :
    (row.finalClient orders index client).map Json.normal =
      (row.finalClient other index client).map Json.normal := by
  cases client with
  | obj client =>
      unfold InboundRow.finalClient
      dsimp only
      split
      · rfl
      · refine congrArg some (Json.normal_obj_congr fun name => ?_)
        rw [get?_clear_perm ((orders.client_perm row.id index client).trans
          (other.client_perm row.id index client).symm)]
  | _ => rfl

theorem normal_finalClients (row : InboundRow) (clients : List Json) :
    (row.finalClients orders clients).normal =
      (row.finalClients other clients).normal := by
  have alike : (clients.zipIdx.filterMap fun item =>
        row.finalClient orders item.2 item.1).map Json.normal =
      (clients.zipIdx.filterMap fun item =>
        row.finalClient other item.2 item.1).map Json.normal := by
    rw [List.map_filterMap, List.map_filterMap]
    simp only [normal_finalClient orders other]
  unfold InboundRow.finalClients
  generalize clients.zipIdx.filterMap (fun item =>
    row.finalClient orders item.2 item.1) = final at alike ⊢
  generalize clients.zipIdx.filterMap (fun item =>
    row.finalClient other item.2 item.1) = otherFinal at alike ⊢
  dsimp only
  cases final with
  | nil => rw [List.map_eq_nil_iff.mp alike.symm]
  | cons head tail =>
      cases otherFinal with
      | nil => cases alike
      | cons otherHead otherTail =>
          rw [List.isEmpty_cons, List.isEmpty_cons,
            if_neg Bool.false_ne_true, if_neg Bool.false_ne_true,
            Json.normal_arr, Json.normal_arr, alike]

theorem normal_set_congr {object : JsonObject} {key : String}
    {value otherValue : Json} (same : value.normal = otherValue.normal) :
    (Json.obj (object.set key value)).normal =
      (Json.obj (object.set key otherValue)).normal := by
  refine Json.normal_obj_congr fun name => ?_
  by_cases here : name = key
  · subst here
    rw [JsonObject.get?_set_self, JsonObject.get?_set_self, Option.map_some,
      Option.map_some, same]
  · rw [JsonObject.get?_set_ne here, JsonObject.get?_set_ne here]

theorem coreSettings_eq (row : InboundRow) :
    row.coreSettings unmarshal orders = row.coreSettings unmarshal other := by
  unfold InboundRow.coreSettings
  dsimp only
  split
  · exact Json.marshal_congr
      (normal_set_congr (normal_finalClients orders other row _))
  · rfl

theorem coreInbound_eq :
    InboundRow.coreInbound unmarshal orders =
      InboundRow.coreInbound unmarshal other := by
  funext row
  unfold InboundRow.coreInbound
  rw [coreSettings_eq orders other]

theorem normal_vpnRule (index : Nat) (rule : JsonObject)
    (addresses : List Ipv4) :
    (Json.obj (orders.vpnRule index rule addresses)).normal =
      (Json.obj (other.vpnRule index rule addresses)).normal := by
  refine Json.normal_obj_congr fun name => ?_
  unfold Orders.vpnRule
  by_cases source : name = "source"
  · subst source
    rw [JsonObject.get?_set_self, JsonObject.get?_set_self]
  · rw [JsonObject.get?_set_ne source, JsonObject.get?_set_ne source,
      get?_copy_perm ((orders.rule_perm index rule).trans
        (other.rule_perm index rule).symm)]

theorem normal_splitRule? (vpnMap : VpnMap) (index : Nat) (ruleRaw : Json) :
    (orders.splitRule? vpnMap index ruleRaw).map (List.map Json.normal) =
      (other.splitRule? vpnMap index ruleRaw).map (List.map Json.normal) := by
  cases ruleRaw with
  | obj rule =>
      unfold Orders.splitRule?
      dsimp only
      split
      · split
        · rfl
        · rw [Option.map_some, Option.map_some, List.map_cons, List.map_cons,
            normal_vpnRule orders other]
      · rfl
  | _ => rfl

theorem normal_newRules (vpnMap : VpnMap) (rules : List Json) :
    (orders.newRules vpnMap rules).map Json.normal =
      (other.newRules vpnMap rules).map Json.normal := by
  unfold Orders.newRules
  rw [List.map_flatMap, List.map_flatMap]
  congr 1
  funext ⟨ruleRaw, index⟩
  have alike := normal_splitRule? orders other vpnMap index ruleRaw
  dsimp only
  cases split : orders.splitRule? vpnMap index ruleRaw with
  | none =>
      rw [split, Option.map_none] at alike
      rw [Option.map_eq_none_iff.mp alike.symm]
  | some parts =>
      rw [split, Option.map_some] at alike
      obtain ⟨otherParts, otherSplit, same⟩ :=
        Option.map_eq_some_iff.mp alike.symm
      rw [otherSplit]
      exact same.symm

theorem modified_eq (vpnMap : VpnMap) (rules : List Json) :
    orders.modified vpnMap rules = other.modified vpnMap rules := by
  unfold Orders.modified
  congr 1
  funext ⟨ruleRaw, index⟩
  have alike := congrArg Option.isSome
    (normal_splitRule? orders other vpnMap index ruleRaw)
  rwa [Option.isSome_map, Option.isSome_map] at alike

end Runs

/-! The backstop. -/

theorem escapeLetter_of_isDigit {letter : Char} (digit : letter.isDigit = true) :
    Json.escapeLetter letter = [letter] := by
  have bounds : 48 ≤ letter.toNat ∧ letter.toNat ≤ 57 := by
    simpa [Char.isDigit, UInt32.le_iff_toNat_le] using digit
  have plain : letter ∉ ['<', '>', '&'] := by
    intro special
    simp only [List.mem_cons, List.not_mem_nil, or_false] at special
    rcases special with rfl | rfl | rfl <;> exact absurd digit (by decide)
  unfold Json.escapeLetter
  split
  case h_8 =>
    dsimp only
    rw [if_neg]
    rintro (control | special | line | paragraph)
    · omega
    · exact plain special
    · omega
    · omega
  all_goals exact absurd digit (by decide)

theorem isDigit_or_dot_of_mem_text {address : Ipv4} {letter : Char}
    (inside : letter ∈ address.text.toList) :
    letter.isDigit = true ∨ letter = '.' := by
  rw [Ipv4.text_toList] at inside
  simp only [List.intercalate, List.intersperse, List.flatten_cons,
    List.flatten_nil, List.mem_append, List.mem_singleton, List.append_nil]
    at inside
  have digits : ∀ number, letter ∈ Nat.toDigits 10 number →
      letter.isDigit = true := fun number =>
    Nat.isDigit_of_mem_toDigits (by decide) (by decide)
  rcases inside with inside | dot | inside | dot | inside | dot | inside
  · exact .inl (digits _ inside)
  · exact .inr dot
  · exact .inl (digits _ inside)
  · exact .inr dot
  · exact .inl (digits _ inside)
  · exact .inr dot
  · exact .inl (digits _ inside)

theorem plain_text (address : Ipv4) : Json.Plain address.text := by
  intro letter inside
  rcases isDigit_or_dot_of_mem_text inside with digit | rfl
  · exact escapeLetter_of_isDigit digit
  · rfl

theorem normal_addressList (addresses : List Ipv4) :
    (addressList addresses).normal = addressList addresses := by
  rw [addressList, Json.normal_arr, List.map_map]
  rfl

theorem normal_acceptRule (addresses : List Ipv4) (tag : String) :
    (acceptRule addresses tag).normal =
      .obj [("outboundTag", .str tag), ("source", addressList addresses),
        ("type", .str "field")] := by
  have ordered : (JsonObject.keys [("type", .str "field"),
      ("source", addressList addresses), ("outboundTag", .str tag)]).insertionSort
        (· ≤ ·) = ["outboundTag", "source", "type"] := by
    change List.insertionSort (· ≤ ·)
      (["type", "source", "outboundTag"].eraseDups) = _
    decide
  have alike : normalFields [("type", .str "field"),
      ("source", addressList addresses), ("outboundTag", .str tag)] =
        [("type", .str "field"), ("source", addressList addresses),
          ("outboundTag", .str tag)] := by
    rw [normalFields, normalFields, normalFields, normalFields,
      normal_addressList]
    rfl
  rw [acceptRule, Json.normal, alike, JsonObject.sorted, ordered]
  rfl

theorem print_acceptRule_inj {addresses others : List Ipv4} {tag : String}
    {depth : Nat}
    (same : (acceptRule addresses tag).normal.print .compact depth =
      (acceptRule others tag).normal.print .compact depth) :
    addresses = others := by
  rw [normal_acceptRule, normal_acceptRule] at same
  obtain ⟨start, rest, printed⟩ := @Json.print_obj_context .compact depth
    [("outboundTag", .str tag)] [("type", .str "field")] "source"
  have sources := (printed (addressList addresses)).symm.trans
    (same.trans (printed (addressList others)))
  rw [List.append_left_inj, List.append_right_inj] at sources
  have listed : ∀ addresses : List Ipv4, addressList addresses =
      .arr ((addresses.map Ipv4.text).map Json.str) := fun addresses =>
    congrArg Json.arr List.map_map.symm
  have plain : ∀ addresses : List Ipv4, ∀ text ∈ addresses.map Ipv4.text,
      Json.Plain text := by
    intro addresses text member
    obtain ⟨address, -, rfl⟩ := List.mem_map.mp member
    exact plain_text address
  rw [listed, listed] at sources
  have texts := Json.print_texts_inj (plain addresses) (plain others) sources
  exact List.map_injective_iff.mpr (fun _ _ => Ipv4.text_injective) texts

section Backstop

variable (orders other : Orders) (unmarshal : RawMessage → JsonText)
  (vpnMap : VpnMap)

theorem validIPs_eq_nil_iff :
    orders.validIPs vpnMap = [] ↔ ∀ entry ∈ vpnMap.entries, entry.2 = [] := by
  have empty : ∀ addresses : List Ipv4,
      addresses.eraseDups = [] ↔ addresses = [] := by
    intro addresses
    simp only [List.eq_nil_iff_forall_not_mem, List.mem_eraseDups]
  rw [Orders.validIPs, empty, List.flatMap_eq_nil_iff]
  exact forall_congr' fun entry => by
    rw [(orders.accounts_perm vpnMap).mem_iff]

/-- The rules are rewritten and get the backstop. -/
structure HasBackstop (config : Config) : Prop where
  routed : config.routing ≠ ""
  rules : ∃ first others, JsonObject.get
    (viaFloatFields (unmarshal config.routing).fields) "rules" =
      .arr (first :: others)
  blocks : blockTag ((outboundMaps (unmarshal config.outbounds)).getD []) ≠ ""
  assigned : ∃ entry ∈ vpnMap.entries, entry.2 ≠ []

variable {vpnMap} {config : Config}

theorem validIPs_ne_nil (assigned : ∃ entry ∈ vpnMap.entries, entry.2 ≠ []) :
    orders.validIPs vpnMap ≠ [] := by
  obtain ⟨entry, member, given⟩ := assigned
  exact fun empty =>
    given ((validIPs_eq_nil_iff orders vpnMap).mp empty entry member)

theorem backstop_of {outbounds : List JsonObject}
    (blocks : blockTag outbounds ≠ "")
    (assigned : ∃ entry ∈ vpnMap.entries, entry.2 ≠ []) :
    orders.backstop vpnMap outbounds =
      [acceptRule (orders.validIPs vpnMap) (defaultTag outbounds),
        blockRule (blockTag outbounds)] :=
  if_pos ⟨blocks, validIPs_ne_nil orders assigned⟩

theorem backstop_of_not {outbounds : List JsonObject}
    (without : ¬ (blockTag outbounds ≠ "" ∧
      ∃ entry ∈ vpnMap.entries, entry.2 ≠ [])) :
    orders.backstop vpnMap outbounds = [] := by
  refine if_neg fun both => without ⟨both.1, ?_⟩
  by_contra none
  refine both.2 ((validIPs_eq_nil_iff orders vpnMap).mpr ?_)
  intro entry member
  by_contra given
  exact none ⟨entry, member, given⟩

theorem marshal_rules_congr {routing : JsonObject} {rules others : List Json}
    (same : rules.map Json.normal = others.map Json.normal) :
    Json.marshal .compact (.obj (routing.set "rules" (.arr rules))) =
      Json.marshal .compact (.obj (routing.set "rules" (.arr others))) := by
  refine Json.marshal_congr (normal_set_congr ?_)
  rw [Json.normal_arr, Json.normal_arr, same]

/-- With the same accepted addresses the rules are the same text. -/
theorem translate_eq
    (same : HasBackstop unmarshal vpnMap config →
      orders.validIPs vpnMap = other.validIPs vpnMap) :
    orders.translateVpnRoutingRules unmarshal vpnMap config =
      other.translateVpnRoutingRules unmarshal vpnMap config := by
  unfold Orders.translateVpnRoutingRules
  split
  · rfl
  · next present =>
      rw [not_or] at present
      dsimp only
      split
      · next first others rules =>
          have stops : orders.backstop vpnMap
                ((outboundMaps (unmarshal config.outbounds)).getD []) =
              other.backstop vpnMap
                ((outboundMaps (unmarshal config.outbounds)).getD []) := by
            by_cases has : blockTag
                  ((outboundMaps (unmarshal config.outbounds)).getD []) ≠ "" ∧
                ∃ entry ∈ vpnMap.entries, entry.2 ≠ []
            · rw [backstop_of orders has.1 has.2,
                backstop_of other has.1 has.2,
                same ⟨present.1, ⟨first, others, rules⟩, has.1, has.2⟩]
            · rw [backstop_of_not orders has, backstop_of_not other has]
          have alike : (orders.newRules vpnMap (first :: others) ++
                orders.backstop vpnMap
                  ((outboundMaps (unmarshal config.outbounds)).getD [])).map
                    Json.normal =
              (other.newRules vpnMap (first :: others) ++
                other.backstop vpnMap
                  ((outboundMaps (unmarshal config.outbounds)).getD [])).map
                    Json.normal := by
            rw [List.map_append, List.map_append, normal_newRules orders other,
              stops]
          rw [marshal_rules_congr alike, modified_eq orders other, stops]
      · rfl

/-- The text of the rules tells the accepted addresses. -/
theorem validIPs_eq_of_routing_eq (has : HasBackstop unmarshal vpnMap config)
    (same : (orders.translateVpnRoutingRules unmarshal vpnMap config).routing =
      (other.translateVpnRoutingRules unmarshal vpnMap config).routing) :
    orders.validIPs vpnMap = other.validIPs vpnMap := by
  obtain ⟨routed, ⟨first, others, rules⟩, blocks, assigned⟩ := has
  have present : ¬ (config.routing = "" ∨ vpnMap.entries = []) := by
    rintro (empty | none)
    · exact routed empty
    · obtain ⟨entry, member, -⟩ := assigned
      rw [none] at member
      cases member
  have written : ∀ orders : Orders,
      (orders.translateVpnRoutingRules unmarshal vpnMap config).routing =
        Json.marshal .compact (.obj (JsonObject.set
          (viaFloatFields (unmarshal config.routing).fields) "rules"
          (.arr (orders.newRules vpnMap (first :: others) ++
            [acceptRule (orders.validIPs vpnMap)
              (defaultTag ((outboundMaps (unmarshal config.outbounds)).getD [])),
              blockRule (blockTag
                ((outboundMaps (unmarshal config.outbounds)).getD []))])))) := by
    intro orders
    unfold Orders.translateVpnRoutingRules
    rw [if_neg present]
    dsimp only
    rw [rules]
    dsimp only
    rw [backstop_of orders blocks assigned, List.isEmpty_cons, Bool.not_false,
      Bool.or_true, if_pos rfl]
  rw [written, written, Json.marshal_inj, Json.print_set_eq_iff,
    Json.normal_arr, Json.normal_arr, List.map_append, List.map_append,
    normal_newRules orders other, List.map_cons, List.map_cons, List.map_cons,
    List.map_cons, Json.print_arr_eq_iff] at same
  exact print_acceptRule_inj same

end Backstop

/-! Two runs. -/

section Stability

variable (unmarshal : RawMessage → JsonText) (template : Config)
  (rows : InboundRows)

/-- Any two runs generate configurations that are accepted as equal, and a core
that runs with one of them is not stopped for the other. -/
def Stable : Prop :=
  ∀ orders other : Orders,
    (orders.getXrayConfig unmarshal template rows).equals
        (other.getXrayConfig unmarshal template rows) = true ∧
      ∀ (service : XrayService) (process : Process) (older : List Process)
        (started : Bool), service.processes = process :: older →
        process.isRunning = true →
        process.config = orders.getXrayConfig unmarshal template rows →
        service.isNeedXrayRestart = false →
        service.restartXray false
            (some (other.getXrayConfig unmarshal template rows)) started =
          ({ service with isManuallyStopped := false }, true)

/-- Without the backstop no order counts; with it, the lists of the accounts have
to be nested. -/
def OrderFree : Prop :=
  let vpnMap := Radius.buildVpnEmailToIPMap (toInbounds unmarshal rows)
  HasBackstop unmarshal vpnMap template →
    ∀ entry ∈ vpnMap.entries, ∀ other ∈ vpnMap.entries,
      Nested entry.2 other.2

/-- Only the rules are rewritten, whatever the inbounds are. -/
theorem translate_inbounds (orders : Orders) (vpnMap : VpnMap) (config : Config)
    (inbounds : List InboundConfig) :
    orders.translateVpnRoutingRules unmarshal vpnMap
        { config with inbounds := inbounds } =
      { config with
        inbounds := inbounds
        routing := (orders.translateVpnRoutingRules unmarshal vpnMap
          config).routing } := by
  unfold Orders.translateVpnRoutingRules
  dsimp only
  split
  · rfl
  · split
    · split
      · rfl
      · rfl
    · rfl

variable {unmarshal template rows}

theorem getXrayConfig_shape (orders : Orders) :
    orders.getXrayConfig unmarshal template rows =
      { template with
        inbounds := template.inbounds ++
          (nativeInbounds rows).map (InboundRow.coreInbound unmarshal orders) ++
          (vpnServices.flatMap (dokodemoInbounds rows)).map InboundRow.dokodemo
        routing := (orders.translateVpnRoutingRules unmarshal
          (Radius.buildVpnEmailToIPMap (toInbounds unmarshal rows))
            template).routing } :=
  translate_inbounds unmarshal orders _ template _

theorem getXrayConfig_eq (orders other : Orders)
    (same : (orders.translateVpnRoutingRules unmarshal
        (Radius.buildVpnEmailToIPMap (toInbounds unmarshal rows))
          template).routing =
      (other.translateVpnRoutingRules unmarshal
        (Radius.buildVpnEmailToIPMap (toInbounds unmarshal rows))
          template).routing) :
    orders.getXrayConfig unmarshal template rows =
      other.getXrayConfig unmarshal template rows := by
  rw [getXrayConfig_shape, getXrayConfig_shape, same,
    coreInbound_eq orders other unmarshal]

theorem stable_of_eq
    (same : ∀ orders other : Orders,
      orders.getXrayConfig unmarshal template rows =
        other.getXrayConfig unmarshal template rows) :
    Stable unmarshal template rows := by
  intro orders other
  have equals : (orders.getXrayConfig unmarshal template rows).equals
      (other.getXrayConfig unmarshal template rows) = true := by
    rw [same orders other]
    exact Config.equals_iff.mpr rfl
  refine ⟨equals, ?_⟩
  intro service process older started known running config clear
  unfold XrayService.restartXray
  dsimp only
  rw [if_pos]
  unfold XrayService.skips
  rw [known]
  dsimp only
  rw [running, config, equals, clear]
  rfl

/-- A run that goes through the accounts of one map in a given order. -/
def Orders.arranged (vpnMap : VpnMap) (accounts : Accounts)
    (permuted : accounts.Perm vpnMap.entries) : Orders where
  client _ _ fields := JsonObject.keys fields
  rule _ fields := JsonObject.keys fields
  accounts other := if other = vpnMap then accounts else other.entries
  client_perm _ _ _ := List.Perm.refl _
  rule_perm _ _ := List.Perm.refl _
  accounts_perm other := by
    by_cases same : other = vpnMap
    · rw [if_pos same, same]
      exact permuted
    · rw [if_neg same]

theorem validIPs_arranged {vpnMap : VpnMap} {accounts : Accounts}
    {permuted : accounts.Perm vpnMap.entries} :
    (Orders.arranged vpnMap accounts permuted).validIPs vpnMap =
      (accounts.map Sigma.snd).flatten.eraseDups := by
  rw [Orders.validIPs, Orders.arranged]
  dsimp only
  rw [if_pos rfl, List.flatMap]

theorem validIPs_nested {vpnMap : VpnMap}
    (nested : ∀ entry ∈ vpnMap.entries, ∀ other ∈ vpnMap.entries,
      Nested entry.2 other.2) (orders other : Orders) :
    orders.validIPs vpnMap = other.validIPs vpnMap := by
  have lists : ∀ items ∈ vpnMap.entries.map Sigma.snd,
      ∀ others ∈ vpnMap.entries.map Sigma.snd, Nested items others := by
    intro items member others otherMember
    obtain ⟨entry, inside, rfl⟩ := List.mem_map.mp member
    obtain ⟨other, otherInside, rfl⟩ := List.mem_map.mp otherMember
    exact nested entry inside other otherInside
  have gathered : ∀ orders : Orders, orders.validIPs vpnMap =
      (vpnMap.entries.map Sigma.snd).flatten.eraseDups := fun orders =>
    eraseDups_flatten_perm_iff.mpr lists _
      ((orders.accounts_perm vpnMap).map Sigma.snd)
  rw [gathered, gathered]

theorem orderFree_of_stable (unmarshal : RawMessage → JsonText)
    (template : Config) (rows : InboundRows) :
    Stable unmarshal template rows → OrderFree unmarshal template rows := by
  intro stable has entry member other otherMember
  have alike : ∀ orders other : Orders,
      orders.validIPs (Radius.buildVpnEmailToIPMap
          (toInbounds unmarshal rows)) =
        other.validIPs (Radius.buildVpnEmailToIPMap
          (toInbounds unmarshal rows)) := by
    intro orders other
    refine validIPs_eq_of_routing_eq orders other unmarshal has ?_
    have equals := Config.equals_iff.mp (stable orders other).1
    rw [getXrayConfig_shape, getXrayConfig_shape] at equals
    exact (congrArg Config.routing equals).symm
  generalize Radius.buildVpnEmailToIPMap (toInbounds unmarshal rows) = vpnMap
    at alike member otherMember
  have gathered : ∀ arranged : List (List Ipv4),
      arranged.Perm (vpnMap.entries.map Sigma.snd) →
      arranged.flatten.eraseDups =
        (vpnMap.entries.map Sigma.snd).flatten.eraseDups := by
    intro arranged permuted
    have split := congrFun (congrFun
      (List.eq_map_comp_perm Sigma.snd) arranged) vpnMap.entries
    obtain ⟨accounts, rfl, ordered⟩ := split.mpr permuted
    have plain := alike (.arranged vpnMap accounts ordered)
      (.arranged vpnMap vpnMap.entries (List.Perm.refl _))
    rwa [validIPs_arranged, validIPs_arranged] at plain
  exact eraseDups_flatten_perm_iff.mp gathered entry.2
    (List.mem_map_of_mem member) other.2 (List.mem_map_of_mem otherMember)

theorem stable_of_orderFree (unmarshal : RawMessage → JsonText)
    (template : Config) (rows : InboundRows) :
    OrderFree unmarshal template rows → Stable unmarshal template rows := by
  intro free
  refine stable_of_eq fun orders other => getXrayConfig_eq orders other ?_
  rw [translate_eq orders other unmarshal fun has =>
    validIPs_nested (free has) orders other]

/-- The configuration is a function of the stored state exactly when no order of
the accounts counts. -/
theorem stable_iff (unmarshal : RawMessage → JsonText) (template : Config)
    (rows : InboundRows) :
    Stable unmarshal template rows ↔ OrderFree unmarshal template rows :=
  ⟨orderFree_of_stable unmarshal template rows,
    stable_of_orderFree unmarshal template rows⟩

end Stability

/-! Two accounts of one inbound. -/

section Example

def blockingRouting : RawMessage := "\x7b\"rules\":[\x7b\"type\":\"field\"\x7d]\x7d"

def blockingOutbounds : RawMessage :=
  "[\x7b\"tag\":\"blocked\",\"protocol\":\"blackhole\"\x7d]"

def twoClients : RawMessage :=
  "\x7b\"ipRanges\":[\"10.0.1.2-10.0.1.254\"],\"clients\":" ++
    "[\x7b\"id\":\"ann\",\"email\":\"ann\"\x7d,\x7b\"id\":\"bob\",\"email\":\"bob\"\x7d]\x7d"

/-- The values of the three texts. -/
def readTexts (text : RawMessage) : JsonText :=
  if text = blockingRouting then
    .parsed (.obj [("rules", .arr [.obj [("type", .str "field")]])])
  else if text = blockingOutbounds then
    .parsed (.arr [.obj [("tag", .str "blocked"),
      ("protocol", .str "blackhole")]])
  else if text = twoClients then
    .parsed (.obj [("ipRanges", .arr [.str "10.0.1.2-10.0.1.254"]),
      ("clients", .arr [.obj [("id", .str "ann"), ("email", .str "ann")],
        .obj [("id", .str "bob"), ("email", .str "bob")]])])
  else .malformed

def blockingTemplate : Config :=
  { Config.blank with
    routing := blockingRouting
    outbounds := blockingOutbounds }

def twoClientRows : InboundRows :=
  Table.empty.save {
    id := 1
    enable := true
    listen := ""
    port := 1701
    protocol := .vpn .l2tp
    settings := twoClients
    streamSettings := ""
    tag := "inbound-1701"
    sniffing := ""
    clientStats := [] }

/-- The accepted addresses come in one order or in the other. -/
theorem two_accounts_unstable :
    ¬ Stable readTexts blockingTemplate twoClientRows := by
  intro stable
  have entries : (Radius.buildVpnEmailToIPMap
      (toInbounds readTexts twoClientRows)).entries =
        [⟨"bob", [⟨⟨10, 0, 1⟩, 3⟩]⟩, ⟨"ann", [⟨⟨10, 0, 1⟩, 2⟩]⟩] := by
    decide +kernel
  have free := orderFree_of_stable _ _ _ stable
  unfold OrderFree at free
  dsimp only at free
  rw [entries] at free
  have nested := free ⟨by decide, ⟨_, _, rfl⟩, by decide +kernel, ?_⟩
    _ List.mem_cons_self _ (List.mem_cons_of_mem _ List.mem_cons_self)
  · unfold Nested at nested
    exact absurd nested (by decide)
  · rw [entries]
    exact ⟨_, List.mem_cons_self, List.cons_ne_nil _ _⟩

end Example

end VpnUi.Xray
