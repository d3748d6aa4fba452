import Mathlib.Algebra.Ring.Nat
import Mathlib.Data.List.Nodup
import Mathlib.Data.List.TakeWhile
import VpnUi.Foundation.Transition

namespace VpnUi.Server.Seeder

open Foundation

/-! The start of the database: the first user, and the seeder that replaces
plaintext passwords by their hashes, over starts any of whose calls may fail and
which may end after any call. -/

/-- The hash of a salt and a password, and the check that is relied on to accept
it. -/
structure Bcrypt (Salt : Type) where
  hash : Salt → String → String
  check : String → String → Bool
  check_hash : ∀ salt password, check (hash salt password) password = true

/-- `HashPasswordAsBcrypt`: a password of more than 72 bytes is refused. -/
def Bcrypt.hashPassword {Salt : Type} (bcrypt : Bcrypt Salt) (salt : Salt)
    (password : String) : Option String :=
  if password.utf8ByteSize ≤ 72 then some (bcrypt.hash salt password) else none

/-- The ids count from 1. -/
structure User where
  id : Nat
  username : String
  password : String
  deriving DecidableEq

structure Db where
  users : List User
  /-- The id that the next user gets. -/
  nextId : Nat
  historyOfSeeders : List String
  deriving DecidableEq

def seederName : String := "UserPasswordHash"

namespace Db

def createUser (username password : String) (db : Db) : Db where
  users := db.users ++ [⟨db.nextId, username, password⟩]
  nextId := db.nextId + 1
  historyOfSeeders := db.historyOfSeeders

def updatePassword (id : Nat) (password : String) (db : Db) : Db :=
  { db with
    users := db.users.map fun user =>
      if user.id = id then { user with password := password } else user }

def createSeeder (db : Db) : Db :=
  { db with historyOfSeeders := db.historyOfSeeders ++ [seederName] }

end Db

/-- What becomes of one call of the database: it fails without effect, or the
process ends when it is done. -/
inductive Fault
  | none
  | failed
  | crashed
  deriving DecidableEq

inductive Outcome
  | ok
  | error
  | crashed
  deriving DecidableEq

/-- One start: the fate of its calls, how many rows a failing query has read by
then, and the salts that are drawn. -/
structure Start (Salt : Type) where
  countUsers : Fault
  countUsersAgain : Fault
  createUser : Fault
  countHistory : Fault
  pluck : Fault
  pluckedRows : Nat
  find : Fault
  foundRows : Nat
  updates : Nat → Fault
  createSeeder : Fault
  salts : Nat → Salt

/-- A call whose error ends the start. -/
def call (fault : Fault) (effect : Db → Db) (next : Db → Db × Outcome) (db : Db) :
    Db × Outcome :=
  match fault with
  | .none => next (effect db)
  | .failed => (db, .error)
  | .crashed => (effect db, .crashed)

/-- A call whose error is ignored. -/
def ignoringError (fault : Fault) (effect : Db → Db) (next : Db → Db × Outcome)
    (db : Db) : Db × Outcome :=
  match fault with
  | .none => next (effect db)
  | .failed => next db
  | .crashed => (effect db, .crashed)

section InitDB

variable {Salt : Type} (bcrypt : Bcrypt Salt) (start : Start Salt)

/-- The rows that a query ends up with. -/
def rowsRead {Row : Type} (fault : Fault) (read : Nat) (rows : List Row) :
    List Row :=
  if fault = .failed then rows.take read else rows

def recordSeeder (db : Db) : Db × Outcome :=
  call start.createSeeder Db.createSeeder (fun db => (db, .ok)) db

/-- The loop over the users that were found, from the one at `place` on. -/
def hashPasswords (place : Nat) : List User → Db → Db × Outcome
  | [], db => recordSeeder start db
  | user :: users, db =>
      match bcrypt.hashPassword (start.salts place) user.password with
      | none => (db, .error)
      | some hashedPassword =>
          ignoringError (start.updates place)
            (Db.updatePassword user.id hashedPassword)
            (hashPasswords (place + 1) users) db

def runSeeders (isUsersEmpty : Bool) (db : Db) : Db × Outcome :=
  call start.countHistory id (fun db =>
    if db.historyOfSeeders.isEmpty && isUsersEmpty then recordSeeder start db
    else
      ignoringError start.pluck id (fun db =>
        let seedersHistory :=
          rowsRead start.pluck start.pluckedRows db.historyOfSeeders
        if seederName ∉ seedersHistory ∧ isUsersEmpty = false then
          ignoringError start.find id (fun db =>
            let users := rowsRead start.find start.foundRows db.users
            hashPasswords bcrypt start 0 users db) db
        else (db, .ok)) db) db

/-- `initUser`, and what follows it.  The salt of the default password is drawn
before all others. -/
def initUser (next : Db → Db × Outcome) (db : Db) : Db × Outcome :=
  call start.countUsersAgain id (fun db =>
    if db.users.isEmpty then
      match bcrypt.hashPassword (start.salts 0) "admin" with
      | none => (db, .error)
      | some hashedPassword =>
          call start.createUser (Db.createUser "admin" hashedPassword) next db
    else next db) db

/-- The end of `InitDB`, from its own call of the database on. -/
def initDB (db : Db) : Db × Outcome :=
  call start.countUsers id (fun db =>
    let isUsersEmpty := db.users.isEmpty
    initUser bcrypt start (runSeeders bcrypt start isUsersEmpty) db) db

end InitDB

/-- The database, and whether a start has come to its end without an error. -/
structure Service where
  db : Db
  opened : Bool

def serviceMachine {Salt : Type} (bcrypt : Bcrypt Salt) :
    Machine Service (Start Salt) where
  step service start :=
    let (db, outcome) := initDB bcrypt start service.db
    some ⟨db, service.opened || outcome = .ok⟩

/-! What the passwords have to be. -/

section Requirements

variable {Salt : Type} (bcrypt : Bcrypt Salt)

/-- The users whose passwords are hashed.  Without any, the default one is
created. -/
def originals (first : Db) : List User :=
  if first.users = [] then [⟨first.nextId, "admin", "admin"⟩] else first.users

/-- A user whose password is a hash of the original one, and is accepted with
it. -/
structure Hashed (original user : User) : Prop where
  id : user.id = original.id
  username : user.username = original.username
  hashed : ∃ salt,
    bcrypt.hashPassword salt original.password = some user.password
  accepted : bcrypt.check user.password original.password = true

def Seeded (first db : Db) : Prop :=
  List.Forall₂ (Hashed bcrypt) (originals first) db.users

/-- A table of plaintext passwords: no seeder has run on it. -/
structure Plaintext (first : Db) : Prop where
  primaryKey : (first.users.map User.id).Nodup
  unseeded : seederName ∉ first.historyOfSeeders

end Requirements

/-! When a start does all of its work or none. -/

section Condition

variable {Salt : Type} (start : Start Salt) (db : Db)

def Start.found : List User :=
  rowsRead start.find start.foundRows db.users

/-- A password that is not refused. -/
def fits (user : User) : Bool := user.password.utf8ByteSize ≤ 72

/-- The users that the loop comes to: those before the first password that is
too long. -/
def Start.hashable : List User := (start.found db).takeWhile fits

/-- The start goes over the users, for it has read of no seeder. -/
structure Start.Seeds : Prop where
  countUsers : start.countUsers = .none
  countUsersAgain : start.countUsersAgain = .none
  countHistory : start.countHistory = .none
  pluck : start.pluck ≠ .crashed
  unread : seederName ∉
    rowsRead start.pluck start.pluckedRows db.historyOfSeeders
  find : start.find ≠ .crashed

/-- No password is written. -/
def Start.Idle : Prop :=
  ∀ place < (start.hashable db).length, start.updates place = .failed

/-- The loop ends, and the seeder is recorded. -/
def Start.Records : Prop :=
  start.hashable db = start.found db ∧ start.createSeeder ≠ .failed

/-- Every user is read, and every password and the seeder are written. -/
structure Start.Complete : Prop where
  found : start.found db = db.users
  updated : ∀ place < db.users.length, start.updates place = .none
  records : start.Records db

/-- A start that creates the default user records the seeder.  One that goes over
the users writes everything, or no password; and no seeder unless there is one
already. -/
def Start.Sound : Prop :=
  if db.users = [] then
    start.countUsers = .none → start.countUsersAgain = .none →
      start.createUser ≠ .failed →
        start.createUser = .none ∧ start.countHistory = .none ∧
          db.historyOfSeeders = [] ∧ start.createSeeder ≠ .failed
  else
    start.Seeds db →
      start.Idle db ∧
          (seederName ∈ db.historyOfSeeders ∨ ¬ start.Records db) ∨
        seederName ∉ db.historyOfSeeders ∧ start.Complete db

end Condition

section Loop

variable {Salt : Type} {bcrypt : Bcrypt Salt} {start : Start Salt} {db : Db}
  {users done : List User} {place : Nat}

theorem hashPassword_of_fits {salt : Salt} {user : User}
    (short : fits user = true) :
    bcrypt.hashPassword salt user.password =
      some (bcrypt.hash salt user.password) :=
  if_pos (of_decide_eq_true short)

theorem hashPassword_of_long {salt : Salt} {user : User}
    (long : fits user = false) :
    bcrypt.hashPassword salt user.password = none :=
  if_neg (of_decide_eq_false long)

/-- Without an update the loop leads to the record or to a password that is too
long. -/
theorem hashPasswords_of_idle
    (idle : ∀ index < (users.takeWhile fits).length,
      start.updates (place + index) = .failed) :
    hashPasswords bcrypt start place users db =
      if users.takeWhile fits = users then recordSeeder start db
      else (db, .error) := by
  induction users generalizing place with
  | nil => rfl
  | cons user users induction =>
      cases short : fits user with
      | false =>
          rw [hashPasswords, hashPassword_of_long short,
            List.takeWhile_cons_of_neg (by simp [short]), if_neg (by simp)]
      | true =>
          rw [List.takeWhile_cons_of_pos short] at idle ⊢
          have failed := idle 0 (Nat.zero_lt_succ _)
          rw [hashPasswords, hashPassword_of_fits short]
          simp only [Nat.add_zero] at failed
          simp only [failed, ignoringError, List.cons.injEq, true_and]
          apply induction
          intro index inside
          have later := idle (index + 1) (Nat.succ_lt_succ inside)
          rwa [show place + 1 + index = place + (index + 1) by omega]

theorem Hashed.of_hash {salt : Salt} {user : User} (short : fits user = true) :
    Hashed bcrypt user
      { user with password := bcrypt.hash salt user.password } :=
  ⟨rfl, rfl, ⟨salt, hashPassword_of_fits short⟩, bcrypt.check_hash _ _⟩

/-- An update reaches one row. -/
theorem users_updatePassword {user : User} {password : String}
    (split : db.users = done ++ user :: users)
    (primaryKey : (db.users.map User.id).Nodup) :
    (db.updatePassword user.id password).users =
      done ++ { user with password := password } :: users := by
  rw [split, List.map_append, List.map_cons, List.nodup_middle,
    List.nodup_cons, List.mem_append, not_or] at primaryKey
  obtain ⟨⟨before, after⟩, -⟩ := primaryKey
  have others : ∀ rows : List User, user.id ∉ rows.map User.id →
      rows.map (fun row => if row.id = user.id then
        { row with password := password } else row) = rows := by
    intro rows absent
    refine (List.map_congr_left ?_).trans (List.map_id rows)
    intro row member
    apply if_neg
    intro same
    exact absent (same ▸ List.mem_map_of_mem member)
  rw [Db.updatePassword, split]
  simp only [List.map_append, List.map_cons, others done before,
    others users after, if_true]

/-- A loop whose updates all take effect hashes every password it comes to, and
leads to the record. -/
theorem hashPasswords_of_updated (split : db.users = done ++ users)
    (primaryKey : (db.users.map User.id).Nodup)
    (short : ∀ user ∈ users, fits user = true)
    (updated : ∀ index < users.length,
      start.updates (place + index) = .none) :
    ∃ hashed, List.Forall₂ (Hashed bcrypt) users hashed ∧
      hashPasswords bcrypt start place users db =
        recordSeeder start { db with users := done ++ hashed } := by
  induction users generalizing place db done with
  | nil =>
      refine ⟨[], .nil, ?_⟩
      rw [hashPasswords, ← split]
  | cons user users induction =>
      rw [List.forall_mem_cons] at short
      have first := updated 0 (Nat.zero_lt_succ _)
      rw [Nat.add_zero] at first
      let password := bcrypt.hash (start.salts place) user.password
      let next : User := { user with password := password }
      let after := db.updatePassword user.id password
      have written : after.users = done ++ next :: users :=
        users_updatePassword split primaryKey
      have unchanged : (after.users.map User.id).Nodup := by
        rw [split] at primaryKey
        rw [written]
        simpa [next] using primaryKey
      have rest : after.users = (done ++ [next]) ++ users := by
        rw [written, List.append_assoc]
        rfl
      obtain ⟨hashed, all, loop⟩ :=
        @induction after (done ++ [next]) (place + 1) rest unchanged short.2 (by
          intro index inside
          have later := updated (index + 1) (Nat.succ_lt_succ inside)
          rwa [show place + 1 + index = place + (index + 1) by omega])
      refine ⟨next :: hashed, .cons (.of_hash short.1) all, ?_⟩
      rw [hashPasswords, hashPassword_of_fits short.1]
      simp only [first, ignoringError]
      rw [loop, List.append_assoc]
      rfl

theorem recordSeeder_cases :
    start.createSeeder = .failed ∧ recordSeeder start db = (db, .error) ∨
      start.createSeeder ≠ .failed ∧ ∃ outcome,
        recordSeeder start db = (db.createSeeder, outcome) := by
  rw [recordSeeder]
  cases start.createSeeder with
  | none => exact .inr ⟨by decide, .ok, rfl⟩
  | failed => exact .inl ⟨rfl, rfl⟩
  | crashed => exact .inr ⟨by decide, .crashed, rfl⟩

end Loop

section Step

variable {Salt : Type} {bcrypt : Bcrypt Salt} {start : Start Salt}
  {first db : Db}

theorem mem_of_mem_rowsRead {Row : Type} {fault : Fault} {read : Nat}
    {rows : List Row} {row : Row} (member : row ∈ rowsRead fault read rows) :
    row ∈ rows := by
  rw [rowsRead] at member
  split at member
  · exact List.mem_of_mem_take member
  · exact member

/-- A query without a fault leads on, and else it ends the start. -/
theorem call_query {fault : Fault} {next : Db → Db × Outcome} :
    fault = .none ∧ call fault id next db = next db ∨
      ∃ outcome, outcome ≠ .ok ∧ call fault id next db = (db, outcome) := by
  cases fault with
  | none => exact .inl ⟨rfl, rfl⟩
  | failed => exact .inr ⟨.error, by decide, rfl⟩
  | crashed => exact .inr ⟨.crashed, by decide, rfl⟩

theorem ignoringError_query {fault : Fault} {next : Db → Db × Outcome} :
    fault ≠ .crashed ∧ ignoringError fault id next db = next db ∨
      ∃ outcome, outcome ≠ .ok ∧
        ignoringError fault id next db = (db, outcome) := by
  cases fault with
  | none => exact .inl ⟨by decide, rfl⟩
  | failed => exact .inl ⟨by decide, rfl⟩
  | crashed => exact .inr ⟨.crashed, by decide, rfl⟩

/-- The start leaves the database alone, and ends well only if it has read of the
seeder. -/
def Stops (db : Db) (result : Db × Outcome) : Prop :=
  result.1 = db ∧ (result.2 = .ok → seederName ∈ db.historyOfSeeders)

theorem Stops.of_fault {result : Db × Outcome}
    (fault : ∃ outcome, outcome ≠ .ok ∧ result = (db, outcome)) :
    Stops db result := by
  obtain ⟨outcome, bad, rfl⟩ := fault
  exact ⟨rfl, fun ok => absurd ok bad⟩

/-- With users a start changes nothing before the loop over them. -/
theorem initDB_of_users (given : db.users ≠ []) :
    Stops db (initDB bcrypt start db) ∨
      start.Seeds db ∧ initDB bcrypt start db =
        hashPasswords bcrypt start 0 (start.found db) db := by
  have users : db.users.isEmpty = false := by simpa using given
  rw [initDB]
  rcases call_query with ⟨countUsers, reached⟩ | fault
  swap
  · exact .inl (.of_fault fault)
  rw [reached, initUser]
  rcases call_query with ⟨again, reached⟩ | fault
  swap
  · exact .inl (.of_fault fault)
  rw [reached]
  simp only [users, Bool.false_eq_true, if_false]
  rw [runSeeders]
  rcases call_query with ⟨history, reached⟩ | fault
  swap
  · exact .inl (.of_fault fault)
  rw [reached]
  simp only [Bool.and_false, Bool.false_eq_true, if_false]
  rcases ignoringError_query with ⟨pluck, reached⟩ | fault
  swap
  · exact .inl (.of_fault fault)
  rw [reached]
  by_cases read : seederName ∈
      rowsRead start.pluck start.pluckedRows db.historyOfSeeders
  · simp only [read, not_true, false_and, if_false]
    exact .inl ⟨rfl, fun _ => mem_of_mem_rowsRead read⟩
  · simp only [read, not_false_eq_true, and_self, if_true]
    rcases ignoringError_query with ⟨find, reached⟩ | fault
    swap
    · exact .inl (.of_fault fault)
    rw [reached]
    exact .inr ⟨⟨countUsers, again, history, pluck, read, find⟩, rfl⟩

/-- Without users a start creates the default one, or changes nothing. -/
theorem initDB_of_no_users (empty : db.users = []) :
    (∃ outcome, outcome ≠ .ok ∧ initDB bcrypt start db = (db, outcome)) ∨
      start.countUsers = .none ∧ start.countUsersAgain = .none ∧
        ∃ password, bcrypt.hashPassword (start.salts 0) "admin" =
            some password ∧
          initDB bcrypt start db =
            call start.createUser (Db.createUser "admin" password)
              (runSeeders bcrypt start true) db := by
  rw [initDB]
  rcases call_query with ⟨countUsers, reached⟩ | fault
  swap
  · exact .inl fault
  rw [reached, initUser]
  rcases call_query with ⟨again, reached⟩ | fault
  swap
  · exact .inl fault
  rw [reached]
  simp only [empty, List.isEmpty_nil, if_true]
  cases hashed : bcrypt.hashPassword (start.salts 0) "admin" with
  | none => exact .inl ⟨.error, by decide, rfl⟩
  | some password => exact .inr ⟨countUsers, again, password, rfl, rfl⟩

/-- What starts can leave behind: the first database, or one whose passwords are
hashed and recorded. -/
inductive Settled (bcrypt : Bcrypt Salt) (first : Db) : Service → Prop
  | untouched : Settled bcrypt first ⟨first, false⟩
  | seeded {db : Db} {opened : Bool} (recorded : seederName ∈ db.historyOfSeeders)
      (hashed : Seeded bcrypt first db) : Settled bcrypt first ⟨db, opened⟩

theorem recorded_createSeeder : seederName ∈ db.createSeeder.historyOfSeeders :=
  List.mem_append_right _ List.mem_cons_self

/-- The start that creates the default user records the seeder with it. -/
theorem settled_of_no_users (empty : first.users = [])
    (sound : start.Sound first) :
    Settled bcrypt first ⟨(initDB bcrypt start first).1,
      (initDB bcrypt start first).2 = .ok⟩ := by
  rw [Start.Sound, if_pos empty] at sound
  rcases initDB_of_no_users empty with
    ⟨outcome, bad, stops⟩ | ⟨countUsers, again, password, hashed, reached⟩
  · rw [stops]
    simp only [bad, decide_false]
    exact .untouched
  · by_cases missing : start.createUser = .failed
    · rw [reached, missing]
      exact .untouched
    · obtain ⟨create, history, unrecorded, record⟩ :=
        sound countUsers again missing
      let created := first.createUser "admin" password
      have seeders : runSeeders bcrypt start true created =
          recordSeeder start created := by
        rw [runSeeders, history]
        simp [call, created, Db.createUser, unrecorded]
      rw [create] at reached
      rw [reached.trans seeders]
      rcases recordSeeder_cases with ⟨failed, -⟩ | ⟨-, outcome, recorded⟩
      · exact absurd failed record
      · rw [recorded]
        refine .seeded recorded_createSeeder ?_
        have users : created.createSeeder.users =
            [⟨first.nextId, "admin", password⟩] := by
          simp [created, Db.createUser, Db.createSeeder, empty]
        rw [Seeded, originals, if_pos empty, users]
        refine .cons ⟨rfl, rfl, ⟨_, hashed⟩, ?_⟩ .nil
        rw [hashPassword_of_fits
          (by decide : fits ⟨0, "admin", "admin"⟩ = true)]
          at hashed
        rw [← Option.some.inj hashed]
        exact bcrypt.check_hash _ _

/-- What an idle loop does: it may record the seeder. -/
theorem loop_of_idle (idle : start.Idle db) :
    hashPasswords bcrypt start 0 (start.found db) db =
      if start.hashable db = start.found db then recordSeeder start db
      else (db, .error) := by
  apply hashPasswords_of_idle
  intro index inside
  rw [Nat.zero_add]
  exact idle index inside

theorem settled_of_plaintext (given : first.users ≠ [])
    (plaintext : Plaintext first) (sound : start.Sound first) :
    Settled bcrypt first ⟨(initDB bcrypt start first).1,
      (initDB bcrypt start first).2 = .ok⟩ := by
  rw [Start.Sound, if_neg given] at sound
  rcases initDB_of_users given with ⟨same, stopped⟩ | ⟨seeds, loop⟩
  · have bad : (initDB bcrypt start first).2 ≠ .ok :=
      fun ok => plaintext.unseeded (stopped ok)
    rw [same]
    simp only [bad, decide_false]
    exact .untouched
  · rw [loop]
    rcases sound seeds with ⟨idle, recorded | silent⟩ | ⟨-, complete⟩
    · exact absurd recorded plaintext.unseeded
    · rw [loop_of_idle idle]
      by_cases short : start.hashable first = start.found first
      · have failed : start.createSeeder = .failed := by
          by_contra record
          exact silent ⟨short, record⟩
        rcases recordSeeder_cases with ⟨-, stops⟩ | ⟨record, -⟩
        · rw [if_pos short, stops]
          exact .untouched
        · exact absurd failed record
      · rw [if_neg short]
        exact .untouched
    · have short : ∀ user ∈ first.users, fits user = true := by
        have kept := complete.records.1
        rw [Start.hashable, complete.found, List.takeWhile_eq_self_iff] at kept
        exact kept
      rw [complete.found]
      obtain ⟨hashed, all, updated⟩ :=
        @hashPasswords_of_updated _ bcrypt start first first.users [] 0 rfl
          plaintext.primaryKey short (by
            intro index inside
            rw [Nat.zero_add]
            exact complete.updated index inside)
      rw [updated]
      rcases recordSeeder_cases with ⟨failed, -⟩ | ⟨-, outcome, recorded⟩
      · exact absurd failed complete.records.2
      · rw [recorded]
        refine .seeded recorded_createSeeder ?_
        rw [Seeded, originals, if_neg given]
        exact all

theorem originals_ne_nil : originals first ≠ [] := by
  rw [originals]
  split
  · exact List.cons_ne_nil _ _
  next given => exact given

theorem settled_of_seeded {opened : Bool}
    (recorded : seederName ∈ db.historyOfSeeders)
    (hashed : Seeded bcrypt first db) (sound : start.Sound db) :
    Settled bcrypt first ⟨(initDB bcrypt start db).1, opened⟩ := by
  have given : db.users ≠ [] := by
    intro empty
    rw [Seeded, empty, List.forall₂_nil_right_iff] at hashed
    exact originals_ne_nil hashed
  rw [Start.Sound, if_neg given] at sound
  rcases initDB_of_users given with ⟨same, -⟩ | ⟨seeds, loop⟩
  · rw [same]
    exact .seeded recorded hashed
  · rw [loop]
    rcases sound seeds with ⟨idle, -⟩ | ⟨unrecorded, -⟩
    · rw [loop_of_idle idle]
      split
      · rcases recordSeeder_cases with ⟨-, stops⟩ | ⟨-, outcome, again⟩
        · rw [stops]
          exact .seeded recorded hashed
        · rw [again]
          exact .seeded recorded_createSeeder hashed
      · exact .seeded recorded hashed
    · exact absurd recorded unrecorded

theorem settled_step {service next : Service} (plaintext : Plaintext first)
    (settled : Settled bcrypt first service) (sound : start.Sound service.db)
    (stepped : (serviceMachine bcrypt).step service start = some next) :
    Settled bcrypt first next := by
  obtain rfl := Option.some.inj stepped
  cases settled with
  | untouched =>
      rw [Bool.false_or]
      by_cases empty : first.users = []
      · exact settled_of_no_users empty sound
      · exact settled_of_plaintext empty plaintext sound
  | seeded recorded hashed => exact settled_of_seeded recorded hashed sound

end Step

/-- Over starts that each do all of the seeder's work or none, a database that has
once been opened has its passwords hashed once, from then on. -/
theorem passwords_hashed_once {Salt : Type} (bcrypt : Bcrypt Salt) (first : Db)
    (starts : List (Start Salt)) (plaintext : Plaintext first)
    (sound : (serviceMachine bcrypt).Guarded
      (fun service start => start.Sound service.db) ⟨first, false⟩ starts) :
    (serviceMachine bcrypt).Throughout
      (fun service => service.opened = true → Seeded bcrypt first service.db)
      ⟨first, false⟩ starts := by
  have settled := (serviceMachine bcrypt).throughout_of_guarded
    (fun service start next settled sound stepped =>
      settled_step plaintext settled sound stepped) .untouched sound
  apply Machine.Throughout.imp _ _ settled
  intro service settled opened
  cases settled with
  | untouched => exact absurd opened Bool.false_ne_true
  | seeded recorded hashed => exact hashed

/-- The hashes of "secret" and of its hash, each with one salt; the runs below
hash nothing else. -/
def hashTwice (password : String) : String :=
  if password = "secret" then
    "$2a$10$abcdefghijklmnopqrstuuqflPDzB6gcMhKa1rZqKiun2YGL5sa2u"
  else if password =
      "$2a$10$abcdefghijklmnopqrstuuqflPDzB6gcMhKa1rZqKiun2YGL5sa2u" then
    "$2a$10$ABCDEFGHIJKLMNOPQRSTUOriVndoeh0zh1vHwrRvJnGNoyM8REx32"
  else "$2a$10$" ++ password

def bcryptTwice : Bcrypt Unit where
  hash _ password := hashTwice password
  check hash password := hash = hashTwice password
  check_hash _ _ := decide_eq_true rfl

def faultless : Start Unit where
  countUsers := .none
  countUsersAgain := .none
  createUser := .none
  countHistory := .none
  pluck := .none
  pluckedRows := 0
  find := .none
  foundRows := 0
  updates _ := .none
  createSeeder := .none
  salts _ := ()

/-- The record of the first start fails, so the second one hashes the hash. -/
theorem hash_of_hash :
    ¬ ∀ (bcrypt : Bcrypt Unit) (first : Db) (starts : List (Start Unit)),
      Plaintext first →
        (serviceMachine bcrypt).Throughout
          (fun service => service.opened = true →
            Seeded bcrypt first service.db)
          ⟨first, false⟩ starts := by
  intro always
  let first : Db := ⟨[⟨1, "admin", "secret"⟩], 2, []⟩
  have holds := always bcryptTwice first
    [{ faultless with createSeeder := .failed }, faultless]
    ⟨by decide, by decide⟩
  have seeded := (holds.2 _ rfl).2 _ rfl (by decide +kernel)
  cases seeded with
  | cons hashed _ => exact absurd hashed.accepted (by decide +kernel)

theorem passwords_hashed_once_after_error :
    (serviceMachine bcryptTwice).Throughout
      (fun service => service.opened = true →
        Seeded bcryptTwice ⟨[⟨1, "admin", "secret"⟩], 2, []⟩ service.db)
      ⟨⟨[⟨1, "admin", "secret"⟩], 2, []⟩, false⟩
      [{ faultless with find := .crashed }, faultless,
        { faultless with pluck := .failed, pluckedRows := 1 }] :=
  passwords_hashed_once bcryptTwice _ _ ⟨by decide, by decide⟩ (by
    refine ⟨?_, fun next stepped => ?_⟩
    · change Start.Sound { faultless with find := .crashed }
        ⟨[⟨1, "admin", "secret"⟩], 2, []⟩
      rw [Start.Sound, if_neg (by decide)]
      exact fun seeds => absurd rfl seeds.find
    obtain rfl := Option.some.inj stepped
    refine ⟨?_, fun next stepped => ?_⟩
    · change Start.Sound faultless ⟨[⟨1, "admin", "secret"⟩], 2, []⟩
      rw [Start.Sound, if_neg (by decide)]
      exact fun _ => .inr ⟨by decide, rfl, fun _ _ => rfl, rfl, by decide⟩
    obtain rfl := Option.some.inj stepped
    refine ⟨?_, fun _ _ => trivial⟩
    change Start.Sound { faultless with pluck := .failed, pluckedRows := 1 } _
    rw [Start.Sound, if_neg (by decide +kernel)]
    exact fun seeds => absurd seeds.unread (by decide +kernel))

end VpnUi.Server.Seeder
