import VpnUi.Foundation.Float64

namespace VpnUi.Sub

open Foundation

/-! The remark of an entry, which is its name in a profile. -/

/-- The first byte separates, the others say which texts are shown. -/
structure RemarkModel where
  separator : UInt8
  orders : List UInt8
  deriving DecidableEq

def RemarkModel.parse : List UInt8 → Option RemarkModel
  | [] => none
  | separator :: orders => some ⟨separator, orders⟩

/-- A byte becomes the character with its number. -/
def RemarkModel.separationChar (model : RemarkModel) : String :=
  String.singleton (Char.ofNat model.separator.toNat)

/-! Amounts of traffic. -/

def trafficUnits : List String := ["B", "KB", "MB", "GB", "TB", "PB"]

/-- The loop: the divisor and the unit. -/
def scaleTraffic (size : Nat) : Nat → List String → Nat × String
  | divisor, unit :: next :: units =>
      if 1024 * divisor ≤ size then
        scaleTraffic size (1024 * divisor) (next :: units)
      else (divisor, unit)
  | divisor, units => (divisor, units.headD "")

def formatTraffic (trafficBytes : Nat) : String :=
  let size := toFloat64 trafficBytes
  let (divisor, unit) := scaleTraffic size 1 trafficUnits
  let hundredths := roundHalfEven (100 * size) divisor
  toString (hundredths / 100) ++ "." ++ toString (hundredths / 10 % 10) ++
    toString (hundredths % 10) ++ unit

example : formatTraffic 1536 = "1.50KB" := by decide +kernel

/-! Times. -/

def formatTime (days hours minutes : Int) : String :=
  if 0 < days then
    if 0 < hours then toString days ++ "D," ++ toString hours ++ "H⏳"
    else toString days ++ "D⏳"
  else if 0 < hours then toString hours ++ "H⏳"
  else toString minutes ++ "M⏳"

/-- An expiry below zero is a length of time. -/
def formatExpiry (now expiryTime : Int) : Option String :=
  let exp := expiryTime.tdiv 1000
  if 0 < exp then
    let remainingSeconds := exp - now
    some (formatTime (remainingSeconds.tdiv 86400)
      ((remainingSeconds.tmod 86400).tdiv 3600)
      ((remainingSeconds.tmod 3600).tdiv 60))
  else if exp < 0 then
    some (formatTime (exp.tdiv (-86400)) ((exp.tmod (-86400)).tdiv 3600)
      ((exp.tmod (-3600)).tdiv 60))
  else none

/-! Remarks. -/

/-- What the remark reads of a row of the traffic table. -/
structure ClientStat where
  email : String
  enable : Bool
  up : Int
  down : Int
  total : Int
  expiryTime : Int
  deriving DecidableEq

/-- The settings of the service, and the time. -/
structure RemarkStyle where
  model : RemarkModel
  showInfo : Bool
  now : Int
  deriving DecidableEq

/-- The texts that a model can show. -/
structure RemarkTexts where
  inbound : String
  email : String
  extra : String
  stats : List ClientStat
  deriving DecidableEq

/-- The bytes of `i`, `e` and `o`. -/
def RemarkTexts.order (texts : RemarkTexts) (char : UInt8) : String :=
  if char = 105 then texts.inbound
  else if char = 101 then texts.email
  else if char = 111 then texts.extra
  else ""

def RemarkTexts.shown (model : RemarkModel) (texts : RemarkTexts) :
    List String :=
  (model.orders.map texts.order).filter (· ≠ "")

def RemarkTexts.stat (texts : RemarkTexts) : Option ClientStat :=
  texts.stats.find? (·.email = texts.email)

def ClientStat.volume (stat : ClientStat) : Int :=
  stat.total - (stat.up + stat.down)

/-- What is left to the client. -/
def ClientStat.info (now : Int) (stat : ClientStat) : List String :=
  (if 0 < stat.volume then [formatTraffic stat.volume.toNat ++ "📊"] else []) ++
    (formatExpiry now stat.expiryTime).toList

def genRemark (style : RemarkStyle) (texts : RemarkTexts) : String :=
  let separationChar := style.model.separationChar
  let remark := texts.shown style.model
  if style.showInfo then
    match texts.stat with
    | some stat =>
        if stat.enable then
          separationChar.intercalate (remark ++ stat.info style.now)
        else
          "⛔️N/A" ++ separationChar ++ separationChar.intercalate remark
    | none => separationChar.intercalate remark
  else separationChar.intercalate remark

example : genRemark
    ⟨⟨45, [105, 101, 111]⟩, true, 0⟩
    ⟨"home", "ann", "", [⟨"ann", true, 512, 0, 2048, 90000000⟩]⟩ =
      "home-ann-1.50KB📊-1D,1H⏳" := by decide +kernel

end VpnUi.Sub
