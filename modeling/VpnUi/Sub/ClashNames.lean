import Mathlib.Data.List.Nodup
import VpnUi.Sub.ClashProfile

namespace VpnUi.Sub

open Foundation

/-! When the names of a Clash profile tell its proxies apart. -/

/-! The name of a proxy. -/

section Name

variable {proxy : Fields} {key name text : String} {value : Json}

def Named (name : String) (proxy : Fields) : Prop :=
  proxy "name" = some (.str name)

theorem Named.set (named : Named name proxy) (other : "name" ≠ key) :
    Named name (proxy.set key value) :=
  (Fields.set_of_ne other).trans named

theorem Named.setText (named : Named name proxy) (other : "name" ≠ key) :
    Named name (proxy.setText key text) := named.set other

theorem Named.setNonempty (named : Named name proxy) (other : "name" ≠ key) :
    Named name (proxy.setNonempty key text) := by
  unfold Fields.setNonempty
  split
  · exact named
  · exact named.setText other

theorem Named.setObject {object : JsonObject} (named : Named name proxy)
    (other : "name" ≠ key) : Named name (proxy.setObject key object) := by
  unfold Fields.setObject
  split
  · exact named
  · exact named.set other

theorem Named.ite {condition : Prop} [Decidable condition] {other : Fields}
    (yes : Named name proxy) (no : Named name other) :
    Named name (if condition then proxy else other) := by
  split
  · exact yes
  · exact no

theorem Named.nameOf (named : Named name proxy) : nameOf proxy = name := by
  unfold Sub.nameOf
  rw [named]
  rfl

variable {style : RemarkStyle} {inbound : EntryInbound} {client : EntryClient}
  {entry : ExternalEntry} {stream next : Fields}

theorem named_proxyStart :
    Named (proxyName style inbound client entry)
      (proxyStart style inbound client entry) := by
  unfold proxyStart
  refine Named.set (Named.set (Named.setText ?_ (by decide)) (by decide))
    (by decide)
  exact Fields.set_self

theorem Named.applyClashTransport (named : Named name proxy)
    (applied : applyClashTransport stream proxy = some next) :
    Named name next := by
  unfold Sub.applyClashTransport at applied
  dsimp only at applied
  split at applied
  · split at applied
    · obtain rfl := Option.some.inj applied
      exact named.setText (by decide)
    · cases applied
  · split at applied
    · obtain rfl := Option.some.inj applied
      exact (named.setText (by decide)).setObject (by decide)
    · split at applied
      · obtain rfl := Option.some.inj applied
        exact (named.setText (by decide)).setObject (by decide)
      · cases applied

theorem Named.applyClashCredential (named : Named name proxy)
    (applied : applyClashCredential inbound client stream proxy = some next) :
    Named name next := by
  unfold Sub.applyClashCredential at applied
  dsimp only at applied
  split at applied
  · obtain rfl := Option.some.inj applied
    exact (((named.setText (by decide)).setText (by decide)).set
      (by decide)).setText (by decide)
  · obtain rfl := Option.some.inj applied
    have typed : Named name
        ((proxy.setText "type" "vless").setText "uuid" client.id) :=
      (named.setText (by decide)).setText (by decide)
    exact (Named.ite (typed.setNonempty (by decide)) typed).setNonempty
      (by decide)
  · obtain rfl := Option.some.inj applied
    exact (named.setText (by decide)).setText (by decide)
  · split at applied
    · cases applied
    · obtain rfl := Option.some.inj applied
      exact ((named.setText (by decide)).setText (by decide)).setText
        (by decide)
  · cases applied
  · cases applied

theorem Named.applyClashSecurity (named : Named name proxy)
    (applied : applyClashSecurity stream proxy = some next) :
    Named name next := by
  unfold Sub.applyClashSecurity at applied
  dsimp only at applied
  split at applied
  · obtain rfl := Option.some.inj applied
    exact named.set (by decide)
  · split at applied
    · obtain rfl := Option.some.inj applied
      have shown : Named name ((proxy.set "tls" (.bool true)).setNonempty
          "servername" (settingText (settingsOf stream "tlsSettings")
            "serverName")) :=
        (named.set (by decide)).setNonempty (by decide)
      exact (Named.ite (shown.setNonempty (by decide)) shown).setNonempty
        (by decide)
    · split at applied
      · obtain ⟨reality, -, rfl⟩ := Option.map_eq_some_iff.mp applied
        exact (((named.set (by decide)).setNonempty (by decide)).setObject
          (by decide)).setNonempty (by decide)
      · cases applied

theorem Named.applyHysteriaTls (named : Named name proxy) :
    Named name (applyHysteriaTls stream proxy) := by
  unfold Sub.applyHysteriaTls
  dsimp only
  have shown : Named name (proxy.setNonempty "sni"
      (settingText (settingsOf stream "tlsSettings") "serverName")) :=
    named.setNonempty (by decide)
  have listed := @Named.ite _ _ (alpnTexts (settingsOf stream "tlsSettings") = [])
    _ _ shown (@Named.set _ "alpn" _
      (.arr (alpnTexts (settingsOf stream "tlsSettings"))) shown (by decide))
  exact (Named.ite (listed.set (by decide)) listed).setNonempty (by decide)

theorem Named.applySalamander (named : Named name proxy) :
    Named name (applySalamander stream proxy) :=
  Named.ite named ((named.setText (by decide)).setText (by decide))

theorem named_hysteria :
    Named (proxyName style inbound client entry)
      (buildHysteriaProxy style inbound client entry) := by
  unfold buildHysteriaProxy
  refine Named.applySalamander (Named.applyHysteriaTls ?_)
  exact (named_proxyStart.setText (by decide)).setText (by split <;> decide)

/-- A proxy is named by its remark. -/
theorem named_of_built
    (built : buildClashProxy style inbound client entry stream = some proxy) :
    Named (proxyName style inbound client entry) proxy := by
  unfold buildClashProxy at built
  split at built
  · obtain rfl := Option.some.inj built
    exact named_hysteria
  · obtain ⟨carried, transported, built⟩ := Option.bind_eq_some_iff.mp built
    obtain ⟨credited, applied, built⟩ := Option.bind_eq_some_iff.mp built
    exact ((named_proxyStart.applyClashTransport transported).applyClashCredential
      applied).applyClashSecurity built

end Name

/-! Remarks that show something. -/

section Shows

theorem append_ne_empty {first second : String} (shown : second ≠ "") :
    first ++ second ≠ "" := by
  intro empty
  have letters := congrArg String.toList empty
  rw [String.toList_append] at letters
  exact shown (String.toList_inj.mp (List.append_eq_nil_iff.mp letters).2)

theorem append_ne_empty_left {first second : String} (shown : first ≠ "") :
    first ++ second ≠ "" := by
  intro empty
  have letters := congrArg String.toList empty
  rw [String.toList_append] at letters
  exact shown (String.toList_inj.mp (List.append_eq_nil_iff.mp letters).1)

theorem intercalate_eq_empty_iff {separator : String} {texts : List String}
    (shown : ∀ text ∈ texts, text ≠ "") :
    separator.intercalate texts = "" ↔ texts = [] := by
  cases texts with
  | nil => simp
  | cons first rest =>
      have head := shown first List.mem_cons_self
      refine ⟨fun empty => ?_, nofun⟩
      by_cases last : rest = []
      · subst last
        rw [String.intercalate_singleton] at empty
        exact absurd empty head
      · rw [String.intercalate_cons_of_ne_nil last, String.append_assoc] at empty
        exact absurd empty (append_ne_empty_left head)

theorem formatTime_ne_empty {days hours minutes : Int} :
    formatTime days hours minutes ≠ "" := by
  unfold formatTime
  split_ifs <;> exact append_ne_empty (by decide)

theorem info_ne_empty {now : Int} {stat : ClientStat} :
    ∀ text ∈ stat.info now, text ≠ "" := by
  intro text member
  rcases List.mem_append.mp member with volume | expiry
  · split at volume
    · obtain rfl := List.mem_singleton.mp volume
      exact append_ne_empty (by decide)
    · cases volume
  · have made := Option.mem_toList.mp expiry
    unfold formatExpiry at made
    dsimp only at made
    split_ifs at made
    · obtain rfl := Option.some.inj made
      exact formatTime_ne_empty
    · obtain rfl := Option.some.inj made
      exact formatTime_ne_empty

/-- The row has something left to tell. -/
def ClientStat.Tells (stat : ClientStat) : Prop :=
  0 < stat.volume ∨ stat.expiryTime.tdiv 1000 ≠ 0

theorem info_eq_nil_iff {now : Int} {stat : ClientStat} :
    stat.info now = [] ↔ ¬ stat.Tells := by
  unfold ClientStat.info ClientStat.Tells formatExpiry
  rw [List.append_eq_nil_iff, not_or, not_not]
  refine and_congr ?_ ?_
  · split <;> simp_all
  · dsimp only
    split_ifs <;> simp <;> omega

/-- A text of the model is not empty, or a statistic is shown. -/
def RemarkTexts.Show (style : RemarkStyle) (texts : RemarkTexts) : Prop :=
  (∃ char ∈ style.model.orders, texts.order char ≠ "") ∨
    style.showInfo = true ∧
      ∃ stat ∈ texts.stat, stat.enable = false ∨ stat.Tells

theorem shown_ne_empty {model : RemarkModel} {texts : RemarkTexts} :
    ∀ text ∈ texts.shown model, text ≠ "" := by
  intro text member
  simpa using (List.mem_filter.mp member).2

theorem shown_eq_nil_iff {model : RemarkModel} {texts : RemarkTexts} :
    texts.shown model = [] ↔
      ¬ ∃ char ∈ model.orders, texts.order char ≠ "" := by
  simp [RemarkTexts.shown]

theorem genRemark_ne_empty_iff {style : RemarkStyle} {texts : RemarkTexts} :
    genRemark style texts ≠ "" ↔ texts.Show style := by
  unfold genRemark RemarkTexts.Show
  dsimp only
  split
  next info =>
    cases found : texts.stat with
    | none =>
        simp only
        rw [ne_eq, intercalate_eq_empty_iff shown_ne_empty, shown_eq_nil_iff]
        simp
    | some stat =>
        simp only
        split
        next enabled =>
          have each : ∀ text ∈ texts.shown style.model ++ stat.info style.now,
              text ≠ "" := by
            intro text member
            rcases List.mem_append.mp member with first | second
            · exact shown_ne_empty text first
            · exact info_ne_empty text second
          rw [ne_eq, intercalate_eq_empty_iff each, List.append_eq_nil_iff,
            shown_eq_nil_iff, info_eq_nil_iff]
          simp only [info, true_and, Option.mem_def, Option.some.injEq,
            exists_eq_left', enabled, Bool.true_eq_false, false_or]
          rw [not_and_or, not_not, not_not]
        next disabled =>
          have marked : "⛔️N/A" ++ style.model.separationChar ++
              style.model.separationChar.intercalate
                (texts.shown style.model) ≠ "" := by
            rw [String.append_assoc]
            exact append_ne_empty_left (by decide)
          simp [marked, info, disabled]
  next plain =>
    rw [ne_eq, intercalate_eq_empty_iff shown_ne_empty, shown_eq_nil_iff]
    simp [plain]

end Shows

/-! Profiles. -/

/-- Every entry of the group but the one for no proxy stands for one proxy. -/
structure ClashConfig.WellFormed (config : ClashConfig) : Prop where
  distinct : (config.proxies.map nameOf).Nodup
  named : ∀ proxy ∈ config.proxies, nameOf proxy ≠ ""
  free : ∀ proxy ∈ config.proxies,
    nameOf proxy ≠ "PROXY" ∧ nameOf proxy ≠ "DIRECT"
  listed : ∀ proxy ∈ config.proxies, config.group.count (nameOf proxy) = 1
  selects : ∀ name ∈ config.group, name ≠ "DIRECT" →
    (config.proxies.map nameOf).count name = 1

def Offer.texts (offer : Offer) : RemarkTexts :=
  ⟨offer.inbound.remark, offer.client.email, offer.entry.remark,
    offer.inbound.clientStats⟩

/-- The offers that Clash has a proxy for. -/
def supported (style : RemarkStyle) (offers : List Offer) : List Offer :=
  offers.filter fun offer => (offer.proxy style).isSome

/-- The remarks of the offers tell them apart. -/
structure Distinguished (style : RemarkStyle) (offers : List Offer) : Prop where
  show_text : ∀ offer ∈ offers, offer.texts.Show style
  free : ∀ offer ∈ offers, genRemark style offer.texts ≠ "PROXY" ∧
    genRemark style offer.texts ≠ "DIRECT"
  apart : offers.Pairwise fun first second =>
    genRemark style first.texts ≠ genRemark style second.texts

section Profiles

variable {style : RemarkStyle}

theorem nameOf_of_proxy {offer : Offer} {proxy : Fields}
    (built : offer.proxy style = some proxy) :
    nameOf proxy = genRemark style offer.texts :=
  (named_of_built built).nameOf

theorem map_nameOf (offers : List Offer) :
    (offers.filterMap (Offer.proxy style)).map nameOf =
      (supported style offers).map fun offer => genRemark style offer.texts := by
  unfold supported
  induction offers with
  | nil => rfl
  | cons offer rest induction =>
      cases built : offer.proxy style with
      | none =>
          rw [List.filterMap_cons_none built, List.filter_cons_of_neg
            (by simp [built])]
          exact induction
      | some proxy =>
          rw [List.filterMap_cons_some built, List.filter_cons_of_pos
            (by simp [built]), List.map_cons, List.map_cons, induction,
            nameOf_of_proxy built]

theorem wellFormed_of_names {proxies : List Fields}
    (distinct : (proxies.map nameOf).Nodup)
    (named : ∀ name ∈ proxies.map nameOf, name ≠ "")
    (free : ∀ name ∈ proxies.map nameOf, name ≠ "PROXY" ∧ name ≠ "DIRECT") :
    (clashConfig proxies).WellFormed := by
  have kept : (proxies.map nameOf).filter (· ≠ "") = proxies.map nameOf :=
    List.filter_eq_self.mpr fun name member => by simpa using named name member
  have group : (clashConfig proxies).group =
      proxies.map nameOf ++ ["DIRECT"] := by
    unfold clashConfig
    rw [kept]
  refine ⟨distinct, fun proxy member => named _ (List.mem_map_of_mem member),
    fun proxy member => free _ (List.mem_map_of_mem member), ?_, ?_⟩
  · intro proxy member
    have here := List.mem_map_of_mem (f := nameOf) member
    rw [group, List.count_append, List.count_eq_one_of_mem distinct here,
      List.count_eq_zero_of_not_mem (by simpa using (free _ here).2)]
  · intro name member other
    rw [group, List.mem_append, List.mem_singleton, or_iff_left other] at member
    exact List.count_eq_one_of_mem distinct member

theorem wellFormed_iff {offers : List Offer} :
    (clashConfig (offers.filterMap (Offer.proxy style))).WellFormed ↔
      Distinguished style (supported style offers) := by
  have names := @map_nameOf style offers
  constructor
  · intro formed
    have named (offer : Offer) (member : offer ∈ supported style offers) :
        ∃ proxy ∈ offers.filterMap (Offer.proxy style),
          nameOf proxy = genRemark style offer.texts := by
      have here := List.mem_map_of_mem (f := fun offer : Offer =>
        genRemark style offer.texts) member
      rwa [← names, List.mem_map] at here
    refine ⟨fun offer member => ?_, fun offer member => ?_, ?_⟩
    · obtain ⟨proxy, built, name⟩ := named offer member
      exact genRemark_ne_empty_iff.mp (name ▸ formed.named proxy built)
    · obtain ⟨proxy, built, name⟩ := named offer member
      exact name ▸ formed.free proxy built
    · have distinct : ((offers.filterMap (Offer.proxy style)).map nameOf).Nodup :=
        formed.distinct
      rw [names] at distinct
      exact List.pairwise_map.mp distinct
  · intro apart
    refine wellFormed_of_names ?_ ?_ ?_
    · rw [names]
      exact List.pairwise_map.mpr apart.apart
    · rw [names]
      exact List.forall_mem_map.mpr fun offer member =>
        genRemark_ne_empty_iff.mpr (apart.show_text offer member)
    · rw [names]
      exact List.forall_mem_map.mpr apart.free

variable (style) (getFallbackMaster : String → Option MasterInbound)
  (subId host : String) (inbounds : List SubInbound)

/-- The names are the remarks, so the profile is well formed exactly when the
remarks tell its entries apart. -/
theorem profile_wellFormed_iff :
    ∀ config ∈ getClashProfile style getFallbackMaster subId host inbounds,
      config.WellFormed ↔
        Distinguished style
          (supported style (offers getFallbackMaster subId host inbounds)) := by
  intro config returned
  unfold getClashProfile at returned
  dsimp only at returned
  split at returned
  · cases returned
  · obtain rfl := Option.some.inj returned
    exact wellFormed_iff

end Profiles

/-! A trojan inbound with two domains, under the default model. -/

def defaultStyle : RemarkStyle := ⟨⟨45, [105, 101, 111]⟩, false, 0⟩

def twoDomains (first second : String) : SubInbound where
  entry :=
    { protocol := .trojan
      port := 443
      remark := "home"
      clientStats := []
      encryption := none
      method := none
      password := none
      version := 0
      streamSettings := Fields.empty
      externalProxy :=
        [⟨.same, "a.example", 443, first⟩, ⟨.same, "b.example", 443, second⟩] }
  listen := ""
  clients := [⟨⟨"ann", "", "secret", "", "", ""⟩, "sub", true⟩]

theorem profile_wellFormed_two_remarks :
    ∃ config ∈ getClashProfile defaultStyle (fun _ => none) "sub" "panel.example"
        [twoDomains "a" "b"],
      config.WellFormed := by
  refine ⟨_, rfl, (profile_wellFormed_iff defaultStyle (fun _ => none) "sub"
    "panel.example" [twoDomains "a" "b"] _ rfl).mpr ?_⟩
  have offered : supported defaultStyle (offers (fun _ => none) "sub"
      "panel.example" [twoDomains "a" "b"]) =
        offers (fun _ => none) "sub" "panel.example" [twoDomains "a" "b"] := rfl
  rw [offered]
  refine ⟨fun offer member => Or.inl ⟨101, by decide, ?_⟩, ?_, ?_⟩
  · rcases List.mem_cons.mp member with rfl | member
    · decide
    · obtain rfl := List.mem_singleton.mp member
      decide
  · intro offer member
    rcases List.mem_cons.mp member with rfl | member
    · decide +kernel
    · obtain rfl := List.mem_singleton.mp member
      decide +kernel
  · exact List.pairwise_pair.mpr (by decide +kernel)

theorem two_domains_one_name :
    ∃ config ∈ getClashProfile defaultStyle (fun _ => none) "sub"
        "panel.example" [twoDomains "" ""],
      ¬ config.WellFormed := by
  refine ⟨_, rfl, fun formed => ?_⟩
  have names := formed.distinct
  exact absurd names (by decide +kernel)

end VpnUi.Sub
