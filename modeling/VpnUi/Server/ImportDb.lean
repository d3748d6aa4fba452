import Mathlib.Data.List.Basic

namespace VpnUi.Server

/-! The import of a database: what each of its file operations does to the
three files and to the global handle, and which of them may fail. -/

/-- What a file holds: the database the panel ran on, the upload, nothing yet,
or something left behind earlier. -/
inductive Content
  | old
  | imported
  | blank
  | stray
  deriving DecidableEq

/-- The global handle; a failed open leaves one that can not be used. -/
inductive Handle
  | on (content : Option Content)
  | closed
  | unusable
  deriving DecidableEq

/-- `dbPath`, `dbPath.temp`, `dbPath.backup` and the handle. -/
structure World where
  db : Option Content
  temp : Option Content
  backup : Option Content
  handle : Handle
  deriving DecidableEq

structure Upload where
  isSQLite : Bool
  sound : Bool
  deriving DecidableEq

/-- The operations that can fail. -/
inductive Step
  | readSignature
  | seek
  | removeTemp
  | createTemp
  | copyUpload
  | closeTemp
  | validate
  | closeDb
  | removeBackup
  | moveToBackup
  | moveToDb
  | restore
  | makeDir
  | openDb
  | migrate
  | startXray
  | cleanBackup
  | cleanTemp
  deriving DecidableEq

inductive ImportError
  | checkFormat
  | invalidFormat
  | resetReader
  | removeTemp
  | createTemp
  | saving
  | closeTemp
  | corrupt
  | removeFallback
  | backingUp
  | movingAndRestoring
  | moving
  | migratingAndRestoring
  | migrating
  | startXray
  deriving DecidableEq

/-- The text in front of the cause. -/
def ImportError.text : ImportError → String
  | .checkFormat => "Error checking db file format"
  | .invalidFormat => "Invalid db file format"
  | .resetReader => "Error resetting file reader"
  | .removeTemp => "Error removing existing temporary db file"
  | .createTemp => "Error creating temporary db file"
  | .saving => "Error saving db"
  | .closeTemp => "Error closing temporary db file"
  | .corrupt => "Invalid or corrupt db file"
  | .removeFallback => "Error removing existing fallback db file"
  | .backingUp => "Error backing up current db file"
  | .movingAndRestoring => "Error moving db file and restoring fallback"
  | .moving => "Error moving db file"
  | .migratingAndRestoring => "Error migrating db and restoring fallback"
  | .migrating => "Error migrating db"
  | .startXray => "Imported DB but failed to start Xray"

/-- The world now, and all the worlds so far. -/
structure Run where
  world : World
  visited : List World

def Run.next (change : World → World) (run : Run) : Run :=
  ⟨change run.world, change run.world :: run.visited⟩

abbrev Outcome := Run × Option ImportError

def Outcome.andThen (outcome : Outcome) (next : Run → Outcome) : Outcome :=
  match outcome.2 with
  | some _ => outcome
  | none => next outcome.1

/-- A deferred call runs on every path. -/
def Outcome.defer (cleanup : Run → Run) (outcome : Outcome) : Outcome :=
  (cleanup outcome.1, outcome.2)

section Steps

variable (fails : Step → Bool)

/-- A step whose failure is returned. -/
def must (step : Step) (change : World → World) (error : ImportError)
    (run : Run) : Outcome :=
  if fails step then (run, some error) else (run.next change, none)

/-- A step whose failure is only logged. -/
def attempt (step : Step) (change : World → World) (run : Run) : Run :=
  if fails step then run else run.next change

def require (holds : Bool) (error : ImportError) (run : Run) : Outcome :=
  (run, if holds then none else some error)

/-- Remove a file that is in the way. -/
def mustRemove (step : Step) (present : World → Option Content)
    (change : World → World) (error : ImportError) (run : Run) : Outcome :=
  if (present run.world).isSome then must fails step change error run
  else (run, none)

def cleanUp (step : Step) (present : World → Option Content)
    (change : World → World) (run : Run) : Run :=
  if (present run.world).isSome then attempt fails step change run else run

end Steps

namespace World

def setTemp (content : Option Content) (world : World) : World :=
  { world with temp := content }

def dropBackup (world : World) : World := { world with backup := none }

def closeDB (world : World) : World := { world with handle := .closed }

def moveToBackup (world : World) : World :=
  { world with backup := world.db, db := none }

def moveToDb (world : World) : World :=
  { world with db := world.temp, temp := none }

def restore (world : World) : World :=
  { world with db := world.backup, backup := none }

def openDb (world : World) : World :=
  { world with handle := .on world.db }

def spoil (world : World) : World := { world with handle := .unusable }

end World

/-- The file is in place, so no legacy database is looked for.  The handle is
assigned whether or not the open fails. -/
def initDB (fails : Step → Bool) (run : Run) : Run × Bool :=
  if fails .makeDir then (run, false)
  else if fails .openDb then (run.next World.spoil, false)
  else (run.next World.openDb, !fails .migrate)

/-- Put the old database back, after `error`. -/
def fallBack (fails : Step → Bool) (error lost : ImportError) (run : Run) :
    Outcome :=
  if fails .restore then (run, some lost)
  else (run.next World.restore, some error)

/-- From the move of the upload on, with the old database at the fallback. -/
def replaceDb (fails : Step → Bool) (run : Run) : Outcome :=
  if fails .moveToDb then fallBack fails .moving .movingAndRestoring run
  else
    let (opened, migrated) := initDB fails (run.next World.moveToDb)
    if migrated then must fails .startXray id .startXray opened
    else fallBack fails .migrating .migratingAndRestoring opened

/-- From the closing of the handle on. -/
def swapDb (fails : Step → Bool) (run : Run) : Outcome :=
  ((mustRemove fails .removeBackup World.backup World.dropBackup
      .removeFallback (attempt fails .closeDb World.closeDB run)).andThen
    (must fails .moveToBackup World.moveToBackup .backingUp)).andThen
    fun moved =>
      (replaceDb fails moved).defer
        (cleanUp fails .cleanBackup World.backup World.dropBackup)

/-- The upload is saved to the temporary file and checked there. -/
def saveUpload (fails : Step → Bool) (upload : Upload) (run : Run) : Outcome :=
  (((must fails .copyUpload (World.setTemp (some .imported)) .saving run).andThen
    (must fails .closeTemp id .closeTemp)).andThen
    (must fails .validate id .corrupt)).andThen
    (require upload.sound .corrupt)

/-- Up to the creation of the temporary file. -/
def openTemp (fails : Step → Bool) (upload : Upload) (run : Run) : Outcome :=
  ((((must fails .readSignature id .checkFormat run).andThen
    (require upload.isSQLite .invalidFormat)).andThen
    (must fails .seek id .resetReader)).andThen
    (mustRemove fails .removeTemp World.temp (World.setTemp none)
      .removeTemp)).andThen
    (must fails .createTemp (World.setTemp (some .blank)) .createTemp)

def importDB (fails : Step → Bool) (upload : Upload) (world : World) :
    Outcome :=
  (openTemp fails upload ⟨world, [world]⟩).andThen fun created =>
    ((saveUpload fails upload created).andThen (swapDb fails)).defer
      (cleanUp fails .cleanTemp World.temp (World.setTemp none))

end VpnUi.Server
