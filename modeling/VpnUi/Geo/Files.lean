import VpnUi.Foundation.Table
import VpnUi.Foundation.Transition
import VpnUi.Geo.Guard

namespace VpnUi.Geo

open Foundation

/-! The custom geo resources: their rows, and their files in the bin folder. -/

inductive CustomGeoError
  | invalidType
  | aliasRequired
  | aliasPattern
  | aliasReserved
  | url (error : GeoError)
  | duplicateAlias
  | notFound
  | download
  | database
  deriving DecidableEq

/-! Resources. -/

structure CustomGeoResource where
  id : Nat
  type : String
  aliasName : String
  url : String
  localPath : String
  lastUpdatedAt : Int
  lastModified : String
  deriving DecidableEq

/-- The fields of a form. -/
structure GeoForm where
  type : String
  aliasName : String
  url : String
  deriving DecidableEq

def fileNameFor (type aliasName : String) : String :=
  if type = "geoip" then "geoip_" ++ aliasName ++ ".dat"
  else "geosite_" ++ aliasName ++ ".dat"

def validateType (type : String) : Except CustomGeoError Unit :=
  if type ≠ "geosite" ∧ type ≠ "geoip" then .error .invalidType else .ok ()

def aliasLetter (letter : Char) : Bool :=
  letter.isLower || letter.isDigit || letter = '_' || letter = '-'

def normalizeAliasKey (aliasName : String) : String :=
  String.ofList (aliasName.toList.map fun letter =>
    if letter = '-' then '_' else letter.toLower)

def reservedCustomAliases : List String :=
  ["geoip", "geosite", "geoip_ir", "geosite_ir", "geoip_ru", "geosite_ru"]

def validateAlias (aliasName : String) : Except CustomGeoError Unit :=
  if aliasName = "" then .error .aliasRequired
  else if ¬ aliasName.toList.all aliasLetter then .error .aliasPattern
  else if normalizeAliasKey aliasName ∈ reservedCustomAliases then
    .error .aliasReserved
  else .ok ()

/-! Files. -/

structure GeoFile where
  content : List UInt8
  modTime : Int

/-- The zero time, in seconds. -/
def zeroTime : Int := -62135596800

/-- The files of the bin folder, by their names. -/
abbrev BinFolder := String → Option GeoFile

namespace BinFolder

variable (bin : BinFolder)

def put (name : String) (file : Option GeoFile) : BinFolder :=
  fun other => if other = name then file else bin other

def content (name : String) : Option (List UInt8) :=
  (bin name).map GeoFile.content

/-- `os.Chtimes`, unless the time is zero. -/
def touch (name : String) (time : Int) : BinFolder :=
  if time = zeroTime then bin
  else bin.put name ((bin name).map fun file => { file with modTime := time })

end BinFolder

def minDatBytes : Nat := 64

def localDatFileNeedsRepair (bin : BinFolder) (name : String) : Bool :=
  match bin name with
  | none => true
  | some file => file.content.length < minDatBytes

/-! What happens around a call. -/

/-- The answer to a request, with its header `Last-Modified`.  A `200` comes
with what the URL serves. -/
inductive Reply
  | failure
  | status (code : Nat)
  | notModified (lastModified : String)
  | ok (lastModified : String)
  deriving DecidableEq

/-- Which steps of a call succeed, and what the servers answer.  The replies are
to the first request, which may ask for changes only, and to the second.  A
cleaned URL is clean. -/
structure Surroundings where
  now : Int
  sanitizeURL : String → Except GeoError String
  cleaned : ∀ raw url again, sanitizeURL raw = .ok url →
    sanitizeURL url = .ok again → again = url
  served : String → List UInt8
  firstReply : Option Int → Reply
  secondReply : Reply
  parseTime : String → Option Int
  stores : Bool → Bool
  removes : Bool
  reads : Bool
  counts : Bool
  writes : Bool

/-! Downloads. -/

section Download

variable (around : Surroundings)

def serverModTime (lastModified : String) : Option Int :=
  if lastModified = "" then none else around.parseTime lastModified

/-- `updateModTime`. -/
def updateModTime (name lastModified : String) (bin : BinFolder) : BinFolder :=
  bin.touch name ((serverModTime around lastModified).getD zeroTime)

/-- The time a request names is that of the file that is there, if it can be
kept. -/
def ifModifiedSince (name lastModifiedHeader : String) (bin : BinFolder) :
    Option Int :=
  match bin name with
  | none => none
  | some file =>
      if localDatFileNeedsRepair bin name then none
      else if file.modTime ≠ zeroTime then some file.modTime
      else if lastModifiedHeader ≠ "" then around.parseTime lastModifiedHeader
      else none

/-- The temporary file is written and renamed, unless it is too small. -/
def storeBody (url name : String) (forceFull : Bool) (lastModified : String)
    (bin : BinFolder) : Except CustomGeoError (Bool × String) × BinFolder :=
  if ¬ around.stores forceFull ∨ (around.served url).length < minDatBytes then
    (.error .download, bin)
  else
    (.ok (false, lastModified),
      updateModTime around name lastModified
        (bin.put name (some ⟨around.served url, around.now⟩)))

def downloadToPathOnce (resourceURL name lastModifiedHeader : String)
    (forceFull : Bool) (bin : BinFolder) :
    Except CustomGeoError (Bool × String) × BinFolder :=
  match around.sanitizeURL resourceURL with
  | .error _ => (.error .download, bin)
  | .ok url =>
      let reply :=
        if forceFull then around.secondReply
        else around.firstReply (ifModifiedSince around name lastModifiedHeader bin)
      match reply with
      | .failure | .status _ => (.error .download, bin)
      | .notModified lastModified =>
          if forceFull then (.error .download, bin)
          else
            (.ok (true,
                if (serverModTime around lastModified).isSome then lastModified
                else ""),
              updateModTime around name lastModified bin)
      | .ok lastModified => storeBody around url name forceFull lastModified bin

/-- A file that is not modified has to be there. -/
def downloadToPath (url name lastModifiedHeader : String) (bin : BinFolder) :
    Except CustomGeoError (Bool × String) × BinFolder :=
  match downloadToPathOnce around url name lastModifiedHeader false bin with
  | (.error error, bin) => (.error error, bin)
  | (.ok (false, lastModified), bin) => (.ok (false, lastModified), bin)
  | (.ok (true, lastModified), bin) =>
      if localDatFileNeedsRepair bin name then
        downloadToPathOnce around url name lastModifiedHeader true bin
      else (.ok (true, lastModified), bin)

def removeSafePathIfExists (name : String) (bin : BinFolder) : BinFolder :=
  if around.removes then bin.put name none else bin

end Download

/-! Calls. -/

/-- The ids count up and are not used again. -/
structure GeoState where
  rows : Table CustomGeoResource.id
  nextId : Nat
  bin : BinFolder

namespace GeoState

/-- Another row has the type and the aliasName. -/
def taken (state : GeoState) (id : Nat) (type aliasName : String) : Bool :=
  state.rows.rows.any fun row =>
    row.type = type && row.aliasName = aliasName && row.id ≠ id

def withBin (state : GeoState) (bin : BinFolder) : GeoState :=
  { state with bin := bin }

end GeoState

def resolveDestPath (row : CustomGeoResource) : String :=
  if row.localPath ≠ "" then row.localPath else fileNameFor row.type row.aliasName

section Calls

variable (around : Surroundings) (state : GeoState)

/-- The checks that `Create` and `Update` begin with; the URL is cleaned. -/
def checkForm (form : GeoForm) : Except CustomGeoError String := do
  validateType form.type
  validateAlias form.aliasName
  match around.sanitizeURL form.url with
  | .error error => .error (.url error)
  | .ok url => .ok url

/-- A count that fails is zero; the unique index is left. -/
def create (form : GeoForm) : Except CustomGeoError Unit × GeoState :=
  match checkForm around form with
  | .error error => (.error error, state)
  | .ok url =>
      if around.counts ∧ state.taken state.nextId form.type form.aliasName then
        (.error .duplicateAlias, state)
      else
        let name := fileNameFor form.type form.aliasName
        match downloadToPath around url name "" state.bin with
        | (.error error, bin) => (.error error, state.withBin bin)
        | (.ok (_, lastModified), bin) =>
            if ¬ around.writes ∨
                state.taken state.nextId form.type form.aliasName then
              (.error .database,
                state.withBin (removeSafePathIfExists around name bin))
            else
              (.ok (),
                { rows := state.rows.save ⟨state.nextId, form.type, form.aliasName,
                    url, name, around.now, lastModified⟩
                  nextId := state.nextId + 1
                  bin := bin })

/-- The read of a row. -/
def firstRow (id : Nat) : Except CustomGeoError CustomGeoResource :=
  if ¬ around.reads then .error .database
  else
    match state.rows.find? id with
    | none => .error .notFound
    | some row => .ok row

/-- The file of the old name is gone before the download. -/
def update (id : Nat) (form : GeoForm) : Except CustomGeoError Unit × GeoState :=
  match firstRow around state id with
  | .error error => (.error error, state)
  | .ok cur =>
      match checkForm around form with
      | .error error => (.error error, state)
      | .ok url =>
          if (cur.type ≠ form.type ∨ cur.aliasName ≠ form.aliasName) ∧ around.counts ∧
              state.taken id form.type form.aliasName then
            (.error .duplicateAlias, state)
          else
            let oldPath := resolveDestPath cur
            let name := fileNameFor form.type form.aliasName
            let bin :=
              if oldPath ≠ name then
                removeSafePathIfExists around oldPath state.bin
              else state.bin
            match downloadToPath around url name cur.lastModified bin with
            | (.error error, bin) => (.error error, state.withBin bin)
            | (.ok (_, lastModified), bin) =>
                if ¬ around.writes ∨ state.taken id form.type form.aliasName then
                  (.error .database, state.withBin bin)
                else
                  (.ok (),
                    { state with
                      rows := state.rows.save ⟨id, form.type, form.aliasName, url,
                        name, around.now, lastModified⟩
                      bin := bin })

/-- A file that can not be removed stays. -/
def delete (id : Nat) : Except CustomGeoError Unit × GeoState :=
  match firstRow around state id with
  | .error error => (.error error, state)
  | .ok row =>
      if ¬ around.writes then (.error .database, state)
      else
        (.ok (),
          { state with
            rows := state.rows.delete id
            bin := removeSafePathIfExists around (resolveDestPath row)
              state.bin })

def applyDownloadAndPersist (id : Nat) : Except CustomGeoError Unit × GeoState :=
  match firstRow around state id with
  | .error error => (.error error, state)
  | .ok row =>
      let name := fileNameFor row.type row.aliasName
      match around.sanitizeURL row.url with
      | .error error => (.error (.url error), state)
      | .ok url =>
          match downloadToPath around url name row.lastModified state.bin with
          | (.error error, bin) => (.error error, state.withBin bin)
          | (.ok (_, lastModified), bin) =>
              if ¬ around.writes then (.error .database, state.withBin bin)
              else
                (.ok (),
                  { state with
                    rows := state.rows.save { row with
                      lastModified := lastModified
                      localPath := name
                      lastUpdatedAt := around.now }
                    bin := bin })

end Calls

inductive GeoCall
  | create (form : GeoForm)
  | update (id : Nat) (form : GeoForm)
  | delete (id : Nat)
  | triggerUpdate (id : Nat)
  deriving DecidableEq

def GeoCall.perform (around : Surroundings) (state : GeoState) :
    GeoCall → Except CustomGeoError Unit × GeoState
  | .create form => Geo.create around state form
  | .update id form => Geo.update around state id form
  | .delete id => Geo.delete around state id
  | .triggerUpdate id => applyDownloadAndPersist around state id

/-- The calls, one after the other. -/
def geoMachine : Machine GeoState (GeoCall × Surroundings) where
  step state event := some (event.1.perform event.2 state).2

end VpnUi.Geo
