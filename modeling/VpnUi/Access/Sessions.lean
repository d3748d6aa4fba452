import VpnUi.Access.Routes
import VpnUi.Server.Seeder
import VpnUi.Settings.Runs

namespace VpnUi.Access

open Foundation
open Panel (bind_eq_ok)
open Server.Seeder (User Bcrypt)
open Settings (Install Rows defaultValueMap)

/-! The login of the panel: a session lives in a cookie that the panel signs and
keeps no record of. -/

/-- What is taken from the libraries: password hashes, one-time codes, and the
cookies, which are read with the secret they were signed with until they are
too old. -/
structure Library (Salt Cookie : Type) where
  bcrypt : Bcrypt Salt
  totp : String → Int → String
  encode : String → Int → Option User → Cookie
  decode : String → Int → Cookie → Option (Option User)
  maxAge : Int
  decode_encode : ∀ secret issued now session, issued ≤ now →
    now - issued ≤ maxAge →
      decode secret now (encode secret issued session) = some session

/-- An LDAP server, and how the library writes a name into a filter. -/
structure Directory where
  dialURL : String → Bool
  bind : String → String → Bool
  /-- The names of the entries that a search finds. -/
  search : String → String → Option (List String)
  escapeFilter : String → String

structure LdapConfig where
  host : String
  port : Int
  useTLS : Bool
  bindDN : String
  password : String
  baseDN : String
  userFilter : String
  userAttr : String

/-- `AuthenticateUser`, which has no result when the server cannot be asked. -/
def authenticateUser (directory : Directory) (cfg : LdapConfig)
    (username password : String) : Option Bool :=
  let scheme := if cfg.useTLS then "ldaps" else "ldap"
  let addr := cfg.host ++ ":" ++ toString cfg.port
  if directory.dialURL (scheme ++ "://" ++ addr) = false then none
  else if cfg.bindDN ≠ "" ∧ directory.bind cfg.bindDN cfg.password = false then
    none
  else
    let userFilter :=
      if cfg.userFilter = "" then "(objectClass=person)" else cfg.userFilter
    let userAttr := if cfg.userAttr = "" then "uid" else cfg.userAttr
    let filter := "(&" ++ userFilter ++ "(" ++ userAttr ++ "=" ++
      directory.escapeFilter username ++ "))"
    match directory.search cfg.baseDN filter with
    | none => none
    | some [] => some false
    | some (userDN :: _) => some (directory.bind userDN password)

section Settings

variable (rows : Rows) (defaults : List (String × String))

def getBool (key : String) : Except String Bool :=
  rows.getString defaults key >>= Settings.parseBool

def getInt (key : String) : Except String Settings.GoInt :=
  rows.getString defaults key >>= Settings.parseInt

/-- The value of a getter whose error is not looked at. -/
def valueOr {Value : Type} (zero : Value) : Except String Value → Value
  | .ok value => value
  | .error _ => zero

def ldapConfig : LdapConfig where
  host := valueOr "" (rows.getString defaults "ldapHost")
  port := valueOr 0 ((getInt rows defaults "ldapPort").map Subtype.val)
  useTLS := valueOr false (getBool rows defaults "ldapUseTLS")
  bindDN := valueOr "" (rows.getString defaults "ldapBindDN")
  password := valueOr "" (rows.getString defaults "ldapPassword")
  baseDN := valueOr "" (rows.getString defaults "ldapBaseDN")
  userFilter := valueOr "" (rows.getString defaults "ldapUserFilter")
  userAttr := valueOr "" (rows.getString defaults "ldapUserAttr")

def ldapEnabled : Bool := valueOr false (getBool rows defaults "ldapEnable")

end Settings

structure LoginForm where
  username : String
  password : String
  twoFactorCode : String

structure UpdateUserForm where
  oldUsername : String
  oldPassword : String
  newUsername : String
  newPassword : String

/-- What a login finds outside: the time, the fate of the query and of the
session's save, and the LDAP server. -/
structure Outside where
  now : Int
  queryErr : Option String
  saveFails : Bool
  directory : Directory

/-- What a change of the credentials finds outside. -/
structure Writes (Salt : Type) where
  salt : Salt
  twoFactorEnableFails : Bool
  twoFactorTokenFails : Bool
  updatesErr : Option String

/-- The settings, the users in the order of their ids, the secret that the
running server has read, and every cookie that was ever issued, with the secret
and the session in it. -/
structure Panel (Cookie : Type) where
  install : Install
  users : List User
  secret : Option String
  issued : List (String × Option User × Cookie)

def Panel.start {Cookie : Type} (install : Install) (users : List User) :
    Panel Cookie :=
  ⟨install, users, none, []⟩

inductive LoginAnswer (Cookie : Type)
  | emptyUsername
  | emptyPassword
  | wrongUsernameOrPassword
  | notSaved
  | successLogin (cookie : Cookie)

inductive UpdateAnswer
  | loginAgain
  | originalUserPassIncorrect
  | userPassMustBeNotEmpty
  | modifyUser (err : Option String)

section Requests

variable {Salt Cookie : Type} (library : Library Salt Cookie)
  (template : String) (panel : Panel Cookie)

def Panel.rows : Rows := panel.install.rows

def Panel.defaults : List (String × String) :=
  defaultValueMap panel.install.secret template

def Panel.withRows (rows : Rows) : Panel Cookie :=
  { panel with install := { panel.install with rows := rows } }

/-- The password of the user, or one that LDAP takes. -/
def Panel.acceptsPassword (form : LoginForm) (outside : Outside) (user : User) :
    Bool :=
  library.bcrypt.check user.password form.password ||
    ldapEnabled panel.rows (panel.defaults template) &&
      authenticateUser outside.directory
        (ldapConfig panel.rows (panel.defaults template))
        form.username form.password == some true

def Panel.checkTwoFactor (form : LoginForm) (outside : Outside) :
    Except String Unit := do
  let twoFactorEnable ←
    getBool panel.rows (panel.defaults template) "twoFactorEnable"
  if twoFactorEnable then
    let twoFactorToken ←
      panel.rows.getString (panel.defaults template) "twoFactorToken"
    if library.totp twoFactorToken outside.now = form.twoFactorCode then .ok ()
    else .error "invalid 2fa code"
  else .ok ()

def Panel.checkUser (form : LoginForm) (outside : Outside) :
    Except String User :=
  match outside.queryErr,
      panel.users.find? fun user => user.username = form.username with
  | some err, _ => .error err
  | none, none => .error "invalid credentials"
  | none, some user =>
      if panel.acceptsPassword library template form outside user then
        (panel.checkTwoFactor library template form outside).map fun _ => user
      else .error "invalid credentials"

def Panel.login (form : LoginForm) (outside : Outside) :
    Panel Cookie × LoginAnswer Cookie :=
  if form.username = "" then (panel, .emptyUsername)
  else if form.password = "" then (panel, .emptyPassword)
  else
    match panel.checkUser library template form outside, panel.secret with
    | .ok user, some secret =>
        if outside.saveFails then (panel, .notSaved)
        else
          let cookie := library.encode secret outside.now (some user)
          ({ panel with
              issued := panel.issued ++ [(secret, some user, cookie)] },
            .successLogin cookie)
    | _, _ => (panel, .wrongUsernameOrPassword)

/-- `GetLoginUser`: a cookie that does not decode is an empty session. -/
def Panel.getLoginUser (now : Int) (cookie : Option Cookie) : Option User :=
  match panel.secret, cookie with
  | some secret, some cookie => (library.decode secret now cookie).getD none
  | _, _ => none

def Panel.isLogin (now : Int) (cookie : Option Cookie) : Bool :=
  (panel.getLoginUser library now cookie).isSome

/-- The browser is told to drop its cookie, and gets an empty session. -/
def Panel.logout (now : Int) : Panel Cookie :=
  match panel.secret with
  | none => panel
  | some secret =>
      { panel with
        issued := panel.issued ++
          [(secret, none, library.encode secret now none)] }

/-- The errors of the two setters are not looked at. -/
def Panel.disableTwoFactor (writes : Writes Salt) : Panel Cookie :=
  let rows := panel.rows
  let rows := if writes.twoFactorEnableFails then rows
    else rows.saveSetting "twoFactorEnable" "false"
  panel.withRows (if writes.twoFactorTokenFails then rows
    else rows.saveSetting "twoFactorToken" "")

/-- `UserService.UpdateUser`. -/
def Panel.updateUserRow (id : Nat) (username password : String)
    (writes : Writes Salt) : Panel Cookie × Option String :=
  match library.bcrypt.hashPassword writes.salt password with
  | none => (panel, some "bcrypt: password length exceeds 72 bytes")
  | some hashedPassword =>
      match getBool panel.rows (panel.defaults template) "twoFactorEnable" with
      | .error err => (panel, some err)
      | .ok twoFactorEnable =>
          let panel :=
            if twoFactorEnable then panel.disableTwoFactor writes else panel
          match writes.updatesErr with
          | some err => (panel, some err)
          | none =>
              ({ panel with
                  users := panel.users.map fun user =>
                    if user.id = id then ⟨id, username, hashedPassword⟩
                    else user },
                none)

/-- `updateUser`: the old credentials are those of the session, and the new ones
are set in a session that is not saved. -/
def Panel.updateUser (now : Int) (cookie : Option Cookie)
    (form : UpdateUserForm) (writes : Writes Salt) :
    Panel Cookie × UpdateAnswer :=
  match panel.getLoginUser library now cookie with
  | none => (panel, .loginAgain)
  | some user =>
      if user.username ≠ form.oldUsername ∨
          library.bcrypt.check user.password form.oldPassword = false then
        (panel, .originalUserPassIncorrect)
      else if form.newUsername = "" ∨ form.newPassword = "" then
        (panel, .userPassMustBeNotEmpty)
      else
        let (next, err) := panel.updateUserRow library template user.id
          form.newUsername form.newPassword writes
        (next, .modifyUser err)

/-- `UpdateFirstUser`; a first user is created under `id`. -/
def updateFirstUser (users : List User) (username password : String)
    (salt : Salt) (id : Nat) : Except String (List User) :=
  if username = "" then .error "username can not be empty"
  else if password = "" then .error "password can not be empty"
  else
    match library.bcrypt.hashPassword salt password, users with
    | none, _ => .error "bcrypt: password length exceeds 72 bytes"
    | some hashedPassword, [] => .ok [⟨id, username, hashedPassword⟩]
    | some hashedPassword, user :: rest =>
        .ok (⟨user.id, username, hashedPassword⟩ :: rest)

def setFirstUsername (users : List User) (username : String) :
    Except String (List User) :=
  if username = "" then .error "username can not be empty"
  else
    match users with
    | [] => .error "record not found"
    | user :: rest => .ok ({ user with username := username } :: rest)

/-- The server starts with the secret that is stored, or stores its own. -/
def Panel.initRouter (saveFails : Bool) : Panel Cookie :=
  let (secret, rows) := panel.rows.getSecret (panel.defaults template) saveFails
  { panel.withRows rows with secret := secret.toOption }

end Requests

section Machine

inductive Event (Salt Cookie : Type)
  | login (form : LoginForm) (outside : Outside)
  | logout (now : Int)
  | updateUser (now : Int) (cookie : Option Cookie) (form : UpdateUserForm)
      (writes : Writes Salt)
  | updateFirstUser (username password : String) (salt : Salt) (id : Nat)
  | setFirstUsername (username : String)
  | setting (event : Settings.Event)
  /-- The server of the same process starts again. -/
  | serve (saveFails : Bool)
  /-- A new process, which draws a secret in case none is stored. -/
  | restart (secret : String) (saveFails : Bool)
  | importDB (rows : Rows) (users : List User)

variable {Salt Cookie : Type} (library : Library Salt Cookie)
  (template : String)

/-- The settings change by their own requests; the server's start is not one. -/
def settingStep (install : Install) : Settings.Event → Option Install
  | .getSecret _ | .restart _ => none
  | event => Settings.step template install event

def step (panel : Panel Cookie) : Event Salt Cookie → Option (Panel Cookie)
  | .login form outside => some (panel.login library template form outside).1
  | .logout now => some (panel.logout library now)
  | .updateUser now cookie form writes =>
      some (panel.updateUser library template now cookie form writes).1
  | .updateFirstUser username password salt id =>
      match updateFirstUser library panel.users username password salt id with
      | .ok users => some { panel with users := users }
      | .error _ => some panel
  | .setFirstUsername username =>
      match setFirstUsername panel.users username with
      | .ok users => some { panel with users := users }
      | .error _ => some panel
  | .setting event =>
      (settingStep template panel.install event).map fun install =>
        { panel with install := install }
  | .serve saveFails => some (panel.initRouter template saveFails)
  | .restart secret saveFails =>
      let install := { panel.install with secret := secret, forms := [] }
      some ({ panel with install := install }.initRouter template saveFails)
  | .importDB rows users =>
      some { panel.withRows rows with users := users }

def machine : Machine (Panel Cookie) (Event Salt Cookie) where
  step := step library template

/-- Cookies are signed: one that decodes is one that was issued with the
session it decodes to. -/
def Panel.Unforged (panel : Panel Cookie) (now : Int)
    (cookie : Option Cookie) : Prop :=
  ∀ secret value session, panel.secret = some secret → cookie = some value →
    library.decode secret now value = some session →
      (secret, session, value) ∈ panel.issued

/-- What a login has shown: the name and password of a stored user, or a
password that LDAP takes, and the code of the moment if codes are asked for. -/
structure Verified (panel : Panel Cookie) (form : LoginForm)
    (outside : Outside) (user : User) : Prop where
  given : form.username ≠ "" ∧ form.password ≠ ""
  stored : user ∈ panel.users ∧ user.username = form.username
  password : panel.acceptsPassword library template form outside user = true
  twoFactor : ∃ enabled,
    getBool panel.rows (panel.defaults template) "twoFactorEnable" =
      .ok enabled ∧
    (enabled = true → ∃ token,
      panel.rows.getString (panel.defaults template) "twoFactorToken" =
        .ok token ∧
      library.totp token outside.now = form.twoFactorCode)

/-- Some login of the run was by this user. -/
def LoggedIn (start : Panel Cookie) (events : List (Event Salt Cookie))
    (user : User) : Prop :=
  ∃ before form outside later panel,
    events = before ++ .login form outside :: later ∧
    (machine library template).run start before = some panel ∧
    Verified library template panel form outside user

end Machine

section Logins

variable {Salt Cookie : Type} {library : Library Salt Cookie}
  {template : String} {panel next : Panel Cookie} {form : LoginForm}
  {outside : Outside} {user : User} {cookie : Cookie}

theorem twoFactor_of_checkTwoFactor
    (passed : panel.checkTwoFactor library template form outside = .ok ()) :
    ∃ enabled,
      getBool panel.rows (panel.defaults template) "twoFactorEnable" =
        .ok enabled ∧
      (enabled = true → ∃ token,
        panel.rows.getString (panel.defaults template) "twoFactorToken" =
          .ok token ∧
        library.totp token outside.now = form.twoFactorCode) := by
  obtain ⟨enabled, read, passed⟩ := bind_eq_ok passed
  refine ⟨enabled, read, ?_⟩
  intro asked
  rw [if_pos asked] at passed
  obtain ⟨token, readToken, passed⟩ := bind_eq_ok passed
  refine ⟨token, readToken, ?_⟩
  split at passed
  next same => exact same
  next => cases passed

theorem user_of_checkUser
    (passed : panel.checkUser library template form outside = .ok user) :
    (user ∈ panel.users ∧ user.username = form.username) ∧
      panel.acceptsPassword library template form outside user = true ∧
      panel.checkTwoFactor library template form outside = .ok () := by
  unfold Panel.checkUser at passed
  split at passed
  next => cases passed
  next => cases passed
  next stored _ found =>
    split at passed
    next accepted =>
      cases checked : panel.checkTwoFactor library template form outside with
      | error err =>
          rw [checked] at passed
          cases passed
      | ok _ =>
          rw [checked] at passed
          obtain rfl := Except.ok.inj passed
          have named := List.find?_some found
          exact ⟨⟨List.mem_of_find?_eq_some found, of_decide_eq_true named⟩,
            accepted, rfl⟩
    next => cases passed

/-- A login that succeeds issues one cookie, for the user it has verified. -/
theorem login_cases :
    (panel.login library template form outside).1 = panel ∧
        (∀ cookie, (panel.login library template form outside).2 ≠
          .successLogin cookie) ∨
      ∃ user secret, panel.secret = some secret ∧
        Verified library template panel form outside user ∧
        panel.login library template form outside =
          ({ panel with
              issued := panel.issued ++ [(secret, some user,
                library.encode secret outside.now (some user))] },
            .successLogin
              (library.encode secret outside.now (some user))) := by
  unfold Panel.login
  split
  next => exact Or.inl ⟨rfl, fun _ same => by cases same⟩
  next named =>
    split
    next => exact Or.inl ⟨rfl, fun _ same => by cases same⟩
    next worded =>
      split
      next user secret passed serving =>
        split
        next => exact Or.inl ⟨rfl, fun _ same => by cases same⟩
        next =>
          obtain ⟨stored, password, twoFactor⟩ := user_of_checkUser passed
          exact Or.inr ⟨user, secret, serving, ⟨⟨named, worded⟩, stored,
            password, twoFactor_of_checkTwoFactor twoFactor⟩, rfl⟩
      next => exact Or.inl ⟨rfl, fun _ same => by cases same⟩

end Logins

section Plain

/-- Cookies that show what is in them, with the secret in place of a signature,
and hashes that show the password. -/
def plainLibrary : Library Unit (String × Int × Option User) where
  bcrypt :=
    { hash := fun _ password => "$" ++ password
      check := fun hash password => hash = "$" ++ password
      check_hash := fun _ _ => decide_eq_true rfl }
  totp := fun _ _ => "000000"
  encode := fun secret issued session => (secret, issued, session)
  decode := fun secret now cookie =>
    if cookie.1 = secret ∧ now - cookie.2.1 ≤ 2592000 then some cookie.2.2
    else none
  maxAge := 2592000
  decode_encode := fun _ _ _ _ _ young => if_pos ⟨rfl, young⟩

def admin : User := ⟨1, "admin", "$secret"⟩

def noDirectory : Directory :=
  ⟨fun _ => false, fun _ _ => false, fun _ _ => none, id⟩

def noon : Outside := ⟨1000, none, false, noDirectory⟩

def adminLogin : LoginForm := ⟨"admin", "secret", ""⟩

def firstStart : Panel (String × Int × Option User) :=
  Panel.start ⟨∅, "", []⟩ [admin]

end Plain

section Issued

variable {Salt Cookie : Type} {library : Library Salt Cookie}
  {template : String} {panel next start final : Panel Cookie}
  {event : Event Salt Cookie} {events : List (Event Salt Cookie)} {user : User}

theorem issued_updateUserRow {id : Nat} {username password : String}
    {writes : Writes Salt} :
    (panel.updateUserRow library template id username password writes).1.issued =
      panel.issued := by
  unfold Panel.updateUserRow
  split
  next => rfl
  next =>
    split
    next => rfl
    next enabled _ => cases enabled <;> cases writes.updatesErr <;> rfl

theorem issued_updateUser {now : Int} {cookie : Option Cookie}
    {form : UpdateUserForm} {writes : Writes Salt} :
    (panel.updateUser library template now cookie form writes).1.issued =
      panel.issued := by
  unfold Panel.updateUser
  split
  next => rfl
  next =>
    split
    next => rfl
    next =>
      split
      next => rfl
      next => exact issued_updateUserRow

/-- Only a login issues a cookie with a user in it. -/
theorem issued_step (stepped : step library template panel event = some next)
    {secret : String} {cookie : Cookie}
    (issued : (secret, some user, cookie) ∈ next.issued) :
    (secret, some user, cookie) ∈ panel.issued ∨
      ∃ form outside, event = .login form outside ∧
        Verified library template panel form outside user := by
  cases event with
  | login form outside =>
      obtain rfl := Option.some.inj stepped
      rcases @login_cases _ _ library template panel form outside with
        ⟨kept, -⟩ | ⟨verifiedUser, _, -, verified, answer⟩
      · rw [kept] at issued
        exact Or.inl issued
      · rw [answer] at issued
        rcases List.mem_append.mp issued with old | new
        · exact Or.inl old
        · right
          simp only [List.mem_singleton, Prod.mk.injEq,
            Option.some.injEq] at new
          obtain ⟨-, rfl, -⟩ := new
          exact ⟨form, outside, rfl, verified⟩
  | logout now =>
      obtain rfl := Option.some.inj stepped
      left
      unfold Panel.logout at issued
      split at issued
      next => exact issued
      next => simpa using issued
  | updateUser now cookie form writes =>
      obtain rfl := Option.some.inj stepped
      rw [issued_updateUser] at issued
      exact Or.inl issued
  | updateFirstUser username password salt id =>
      left
      unfold step at stepped
      dsimp only at stepped
      split at stepped <;> obtain rfl := Option.some.inj stepped <;>
        exact issued
  | setFirstUsername username =>
      left
      unfold step at stepped
      dsimp only at stepped
      split at stepped <;> obtain rfl := Option.some.inj stepped <;>
        exact issued
  | setting change =>
      obtain ⟨install, -, rfl⟩ := Option.map_eq_some_iff.mp stepped
      exact Or.inl issued
  | serve saveFails =>
      obtain rfl := Option.some.inj stepped
      exact Or.inl issued
  | restart secret saveFails =>
      obtain rfl := Option.some.inj stepped
      exact Or.inl issued
  | importDB rows users =>
      obtain rfl := Option.some.inj stepped
      exact Or.inl issued

theorem LoggedIn.cons (stepped : step library template panel event = some next)
    (loggedIn : LoggedIn library template next events user) :
    LoggedIn library template panel (event :: events) user := by
  obtain ⟨before, form, outside, later, earlier, rfl, reached, verified⟩ :=
    loggedIn
  refine ⟨event :: before, form, outside, later, earlier, rfl, ?_, verified⟩
  exact (Machine.run_cons_eq_some _).mpr ⟨next, stepped, reached⟩

theorem issued_run
    (reached : (machine library template).run panel events = some final)
    {secret : String} {cookie : Cookie}
    (issued : (secret, some user, cookie) ∈ final.issued) :
    (secret, some user, cookie) ∈ panel.issued ∨
      LoggedIn library template panel events user := by
  induction events generalizing panel with
  | nil =>
      obtain rfl := Option.some.inj reached
      exact Or.inl issued
  | cons event events induction =>
      obtain ⟨next, stepped, rest⟩ := (Machine.run_cons_eq_some _).mp reached
      rcases induction rest with earlier | later
      · rcases issued_step stepped earlier with
          older | ⟨form, outside, rfl, verified⟩
        · exact Or.inl older
        · exact Or.inr ⟨[], form, outside, events, panel, rfl, rfl, verified⟩
      · exact Or.inr (LoggedIn.cons stepped later)

theorem getLoginUser_eq_some {now : Int} {cookie : Option Cookie}
    (found : panel.getLoginUser library now cookie = some user) :
    ∃ secret value, panel.secret = some secret ∧ cookie = some value ∧
      library.decode secret now value = some (some user) := by
  unfold Panel.getLoginUser at found
  split at found
  next secret value serving =>
    refine ⟨secret, value, serving, rfl, ?_⟩
    cases decoded : library.decode secret now value with
    | none =>
        rw [decoded] at found
        cases found
    | some session =>
        rw [decoded] at found
        exact congrArg some found
  next => cases found

/-- Whatever the panel has been through, a request that reaches the handler of
a route that is not public comes from a login of the run. -/
theorem handled_after_login (library : Library Salt Cookie) (template : String)
    (install : Install) (users : List User)
    (events : List (Event Salt Cookie)) (panel : Panel Cookie)
    (reached : (machine library template).run (Panel.start install users)
      events = some panel)
    (now : Int) (cookie : Option Cookie)
    (unforged : panel.Unforged library now cookie)
    (basePath : List String) (request : Request) (route : Route)
    (chosen : route ∈ matching basePath request)
    (handled : route.refusal (panel.isLogin library now cookie)
      request.isAjax = none) :
    route ∈ publicRoutes basePath ∨
      ∃ user, panel.getLoginUser library now cookie = some user ∧
        LoggedIn library template (Panel.start install users) events user := by
  rcases public_of_no_refusal (List.mem_filter.mp chosen).1 handled with
    free | isLogin
  · exact Or.inl free
  · right
    obtain ⟨user, found⟩ := Option.isSome_iff_exists.mp isLogin
    obtain ⟨secret, value, serving, given, decoded⟩ :=
      getLoginUser_eq_some found
    refine ⟨user, found, ?_⟩
    have issued := unforged secret value (some user) serving given decoded
    rcases issued_run reached issued with none | loggedIn
    · cases none
    · exact loggedIn

/-- A request for the list of inbounds, with the cookie of a login. -/
theorem handled_after_login_admin :
    ∃ panel, (machine plainLibrary "{}").run firstStart
        [.restart "first" false, .login adminLogin noon] = some panel ∧
      ∃ user, panel.getLoginUser plainLibrary 2000
          (some ("first", 1000, some admin)) = some user ∧
        LoggedIn plainLibrary "{}" firstStart
          [.restart "first" false, .login adminLogin noon] user := by
  refine ⟨_, rfl, ?_⟩
  have handled := handled_after_login plainLibrary "{}" ⟨∅, "", []⟩ [admin]
    [.restart "first" false, .login adminLogin noon] _ rfl 2000
    (some ("first", 1000, some admin)) ?_ []
    ⟨.get, "/panel/api/inbounds/list", false⟩
    ⟨.get, segments "/panel/api/inbounds/list", [.checkAPIAuth]⟩
    (by decide +kernel) rfl
  · exact handled.resolve_left (by decide +kernel)
  · intro secret value session running given decoded
    obtain rfl := Option.some.inj running
    obtain rfl := Option.some.inj given
    have same : some admin = session := Option.some.inj decoded
    rw [← same]
    exact List.mem_singleton.mpr rfl

end Issued

section Lasting

variable {Salt Cookie : Type} {library : Library Salt Cookie}
  {template : String} {panel next final : Panel Cookie}
  {event : Event Salt Cookie} {events : List (Event Salt Cookie)}
  {handed : String}

/-- All but what takes the stored secret away. -/
def Event.keepsSecret : Event Salt Cookie → Bool
  | .setting .resetSettings | .importDB _ _ => false
  | _ => true

/-- The server runs with the secret that is stored. -/
structure Serving (handed : String) (panel : Panel Cookie) : Prop where
  stored : panel.rows.lookup "secret" = some handed
  running : panel.secret = some handed

theorem lookup_saveSetting_of_ne {rows : Rows} {key value : String}
    (apart : "secret" ≠ key) :
    (rows.saveSetting key value).lookup "secret" = rows.lookup "secret" :=
  AList.lookup_insert_ne apart

theorem lookup_disableTwoFactor {writes : Writes Salt} :
    (panel.disableTwoFactor writes).rows.lookup "secret" =
      panel.rows.lookup "secret" := by
  unfold Panel.disableTwoFactor
  cases writes.twoFactorEnableFails <;> cases writes.twoFactorTokenFails
  · exact (lookup_saveSetting_of_ne (by decide)).trans
      (lookup_saveSetting_of_ne (by decide))
  · exact lookup_saveSetting_of_ne (by decide)
  · exact lookup_saveSetting_of_ne (by decide)
  · rfl

theorem serving_updateUserRow {id : Nat} {username password : String}
    {writes : Writes Salt} (serving : Serving handed panel) :
    Serving handed
      (panel.updateUserRow library template id username password writes).1 := by
  unfold Panel.updateUserRow
  split
  next => exact serving
  next =>
    split
    next => exact serving
    next enabled _ =>
      have cleared : Serving handed
          (if enabled then panel.disableTwoFactor writes else panel) := by
        cases enabled with
        | false => exact serving
        | true =>
            exact ⟨lookup_disableTwoFactor.trans serving.stored,
              serving.running⟩
      dsimp only
      split
      next => exact cleared
      next => exact ⟨cleared.stored, cleared.running⟩

theorem serving_initRouter {saveFails : Bool}
    (stored : panel.rows.lookup "secret" = some handed) :
    Serving handed (panel.initRouter template saveFails) := by
  have given := @Settings.getSecret_of_row panel.rows (panel.defaults template)
    handed saveFails stored
  have kept : ((panel.rows.getSecret (panel.defaults template)
      saveFails).2).lookup "secret" = some handed :=
    @Settings.secret_step template (.getSecret saveFails)
      (panel.install, Settings.AllSetting.initial) _ handed
      (fun same => by cases same) stored rfl
  refine ⟨kept, ?_⟩
  exact congrArg Except.toOption given

/-- A process that can store its secret serves with the stored one. -/
theorem serving_restart {draw : String}
    (stepped : step library template panel (.restart draw false) =
      some next) : ∃ handed, Serving handed next := by
  obtain rfl := Option.some.inj stepped
  obtain ⟨handed, given⟩ : ∃ handed, (panel.rows.getSecret
      (defaultValueMap draw template) false).1 = .ok handed := by
    cases found : panel.rows.lookup "secret" with
    | some secret => exact ⟨secret, Settings.getSecret_of_row found⟩
    | none =>
        refine ⟨draw, ?_⟩
        have drawn : panel.rows.getString (defaultValueMap draw template)
            "secret" = .ok draw := by
          unfold Settings.Rows.getString defaultValueMap
          rw [found, List.find?_cons_of_pos (by rfl)]
        unfold Settings.Rows.getSecret
        rw [drawn]
        dsimp only
        split <;> rfl
  refine ⟨handed, Settings.lookup_getSecret given, ?_⟩
  exact congrArg Except.toOption given

theorem serving_step (keeps : event.keepsSecret = true)
    (serving : Serving handed panel)
    (stepped : step library template panel event = some next) :
    Serving handed next := by
  cases event with
  | login form outside =>
      obtain rfl := Option.some.inj stepped
      rcases @login_cases _ _ library template panel form outside with
        ⟨kept, -⟩ | ⟨_, _, -, -, answer⟩
      · rw [kept]
        exact serving
      · rw [answer]
        exact ⟨serving.stored, serving.running⟩
  | logout now =>
      obtain rfl := Option.some.inj stepped
      unfold Panel.logout
      split
      next => exact serving
      next => exact ⟨serving.stored, serving.running⟩
  | updateUser now cookie form writes =>
      obtain rfl := Option.some.inj stepped
      unfold Panel.updateUser
      split
      next => exact serving
      next =>
        split
        next => exact serving
        next =>
          split
          next => exact serving
          next => exact serving_updateUserRow serving
  | updateFirstUser username password salt id =>
      unfold step at stepped
      dsimp only at stepped
      split at stepped <;> obtain rfl := Option.some.inj stepped <;>
        exact ⟨serving.stored, serving.running⟩
  | setFirstUsername username =>
      unfold step at stepped
      dsimp only at stepped
      split at stepped <;> obtain rfl := Option.some.inj stepped <;>
        exact ⟨serving.stored, serving.running⟩
  | setting change =>
      obtain ⟨install, changed, rfl⟩ := Option.map_eq_some_iff.mp stepped
      refine ⟨?_, serving.running⟩
      have unreset : change ≠ .resetSettings := by
        intro same
        rw [same] at keeps
        cases keeps
      have taken : Settings.step template panel.install change =
          some install := by
        cases change <;> first | exact changed | cases changed
      exact @Settings.secret_step template change
        (panel.install, Settings.AllSetting.initial) _ handed unreset
        serving.stored (Option.map_eq_some_iff.mpr ⟨install, taken, rfl⟩)
  | serve saveFails =>
      obtain rfl := Option.some.inj stepped
      exact serving_initRouter serving.stored
  | restart secret saveFails =>
      obtain rfl := Option.some.inj stepped
      exact serving_initRouter serving.stored
  | importDB rows users => cases keeps

theorem serving_run (keeps : ∀ event ∈ events, event.keepsSecret = true)
    (serving : Serving handed panel)
    (reached : (machine library template).run panel events = some final) :
    Serving handed final := by
  induction events generalizing panel with
  | nil =>
      obtain rfl := Option.some.inj reached
      exact serving
  | cons event events induction =>
      obtain ⟨next, stepped, rest⟩ := (Machine.run_cons_eq_some _).mp reached
      exact induction (fun later member =>
          keeps later (List.mem_cons_of_mem event member))
        (serving_step (keeps event List.mem_cons_self) serving stepped) rest

theorem updateUser_incorrect_iff {now : Int} {cookie : Option Cookie}
    {user : User} {form : UpdateUserForm} {writes : Writes Salt}
    (found : panel.getLoginUser library now cookie = some user) :
    (panel.updateUser library template now cookie form writes).2 =
        .originalUserPassIncorrect ↔
      ¬ (user.username = form.oldUsername ∧
        library.bcrypt.check user.password form.oldPassword = true) := by
  unfold Panel.updateUser
  rw [found]
  dsimp only
  split
  next wrong =>
    refine ⟨fun _ both => ?_, fun _ => rfl⟩
    rcases wrong with other | refused
    · exact other both.1
    · rw [both.2] at refused
      cases refused
  next right =>
    rw [not_or, Decidable.not_not, Bool.not_eq_false] at right
    refine ⟨fun answer => ?_, fun wrong => absurd right wrong⟩
    split at answer <;> cases answer

/-- A cookie outlives whatever happens to the credentials it was issued for:
until it is too old or the secret is lost it opens every route, and the old
credentials that a change asks for stay those of its login. -/
theorem login_outlives (library : Library Salt Cookie) (template draw : String)
    (state loggedIn final : Panel Cookie)
    (before later : List (Event Salt Cookie))
    (keeps : ∀ event ∈ before ++ later, event.keepsSecret = true)
    (reached : (machine library template).run state
      (.restart draw false :: before) = some loggedIn)
    (form : LoginForm) (outside : Outside) (cookie : Cookie)
    (given : (loggedIn.login library template form outside).2 =
      .successLogin cookie)
    (ended : (machine library template).run loggedIn
      (.login form outside :: later) = some final)
    (now : Int) (after : outside.now ≤ now)
    (young : now - outside.now ≤ library.maxAge) :
    ∃ user, Verified library template loggedIn form outside user ∧
      final.getLoginUser library now (some cookie) = some user ∧
      (∀ (route : Route) isAjax, route.refusal
        (final.isLogin library now (some cookie)) isAjax = none) ∧
      ∀ change writes,
        (final.updateUser library template now (some cookie) change writes).2 =
            .originalUserPassIncorrect ↔
          ¬ (user.username = change.oldUsername ∧
            library.bcrypt.check user.password change.oldPassword = true) := by
  obtain ⟨first, restarted, rest⟩ := (Machine.run_cons_eq_some _).mp reached
  obtain ⟨handed, serving⟩ :=
    @serving_restart _ _ library template state first draw restarted
  have atLogin := serving_run
    (fun event member => keeps event (List.mem_append_left _ member))
    serving rest
  obtain ⟨next, stepped, rest⟩ := (Machine.run_cons_eq_some _).mp ended
  have afterLogin : Serving handed next :=
    @serving_step _ _ library template loggedIn next (.login form outside)
      handed rfl atLogin stepped
  have atEnd := serving_run
    (fun event member => keeps event (List.mem_append_right _ member))
    afterLogin rest
  rcases @login_cases _ _ library template loggedIn form outside with
    ⟨-, none⟩ | ⟨user, secret, running, verified, answer⟩
  · exact absurd given (none cookie)
  · obtain rfl := Option.some.inj (atLogin.running.symm.trans running)
    rw [answer] at given
    injection given with sealed
    subst sealed
    have found : final.getLoginUser library now
        (some (library.encode handed outside.now (some user))) = some user := by
      unfold Panel.getLoginUser
      rw [atEnd.running]
      dsimp only
      rw [library.decode_encode handed outside.now now (some user) after young]
      rfl
    refine ⟨user, verified, found, ?_, ?_⟩
    · intro route isAjax
      have isLogin : final.isLogin library now
          (some (library.encode handed outside.now (some user))) = true := by
        rw [Panel.isLogin, found]
        rfl
      rw [isLogin]
      exact refusal_of_login isAjax
    · intro change writes
      exact updateUser_incorrect_iff found

/-- The password is changed, and the cookie that was issued before it works. -/
theorem login_outlives_change :
    ∃ loggedIn final, (machine plainLibrary "{}").run firstStart
        (.restart "first" false :: []) = some loggedIn ∧
      (machine plainLibrary "{}").run loggedIn
        (.login adminLogin noon ::
          [.updateFirstUser "root" "other" () 1, .restart "second" true]) =
            some final ∧
      final.users = [⟨1, "root", "$other"⟩] ∧
      ∃ user, Verified plainLibrary "{}" loggedIn adminLogin noon user ∧
        final.getLoginUser plainLibrary 2000
          (some ("first", 1000, some admin)) = some user := by
  refine ⟨_, _, rfl, rfl, rfl, ?_⟩
  obtain ⟨user, verified, found, -⟩ := login_outlives plainLibrary "{}" "first"
    firstStart _ _ [] [.updateFirstUser "root" "other" () 1,
      .restart "second" true] (by decide) rfl adminLogin noon
    ("first", 1000, some admin) rfl rfl 2000 (by decide) (by decide)
  exact ⟨user, verified, found⟩

end Lasting

end VpnUi.Access
