import VpnUi.BackEnd.Generators

namespace VpnUi.BackEnd

open Foundation Panel Address

/-! The daemons of the VPN services, and the refresh of one protocol that a
handler calls after a change. -/

/-- A child of the process manager. -/
inductive DaemonName
  | xl2tpd
  | pptpd
  /-- The bundled libreswan. -/
  | pluto
  | openvpn (id : Int) (transport : Transport)
  | ocserv (id : Int)
  | sstp (id : Int)
  deriving DecidableEq

namespace DaemonName

def backend : DaemonName → VpnProtocol
  | xl2tpd | pluto => .l2tp
  | pptpd => .pptp
  | openvpn _ _ => .openvpn
  | ocserv _ => .openconnect
  | sstp _ => .sstp

/-- The files a daemon reads when it is started. -/
def files : DaemonName → List FileName
  | xl2tpd => [etc .l2tp "xl2tpd.conf", etc .l2tp (pppOptions .l2tp)]
  | pptpd => [etc .pptp "pptpd.conf", etc .pptp (pppOptions .pptp)]
  | pluto => [etc .l2tp "ipsec.conf", etc .l2tp "ipsec.secrets"]
  | openvpn id transport =>
      [serverConf transport, "ca.crt", "server.crt", "server.key",
        "tc.key"].map (configDir .openvpn id)
  | ocserv id =>
      ["ocserv.conf", "server.crt", "server.key", "ca.crt"].map
        (configDir .openconnect id)
  | sstp id =>
      ["accel-ppp.conf", "server.crt", "server.key", "ca.crt"].map
        (configDir .sstp id)

theorem backend_of_mem_files {daemon : DaemonName} {name : FileName}
    (member : name ∈ daemon.files) : name.backend = daemon.backend := by
  cases daemon with
  | openvpn id transport | ocserv id | sstp id =>
      obtain ⟨_, _, rfl⟩ := List.mem_map.mp member
      rfl
  | xl2tpd | pptpd | pluto =>
      simp only [files, List.mem_cons, List.not_mem_nil, or_false] at member
      rcases member with rfl | rfl <;> rfl

end DaemonName

abbrev DaemonConfig := List (Option FileContent)

/-- The configuration a daemon has if it is started now. -/
def configOf (files : ConfigFiles) (daemon : DaemonName) : DaemonConfig :=
  daemon.files.map files

/-- `hasUsableCert`. -/
def hasUsableCert (host : Host) (files : ConfigFiles) (backend : VpnProtocol)
    (id : Int) (reading : Reading) : Bool :=
  match certPaths reading with
  | .operator paths => paths.all host.fileExists
  | .configDir => ["server.crt", "server.key"].all fun name =>
      (files (configDir backend id name)).isSome

def usesIpsec (row : Served) : Bool :=
  row.reading.elim false (·.view.ipsec.isSome)

/-- The daemons that the rows of a protocol call for when its services are
restarted.  The shared ones are started whether a row is enabled or not. -/
def desired (host : Host) (files : ConfigFiles) (rows : List Served) :
    VpnProtocol → List DaemonName
  | .l2tp =>
      (if rows = [] then [] else [.xl2tpd]) ++
      if host.bundledIpsec && rows.any usesIpsec then [.pluto] else []
  | .pptp => if rows = [] then [] else [.pptpd]
  | .openvpn => rows.flatMap fun row =>
      match row.enable, row.reading with
      | true, some reading => reading.view.sockets.map fun socket =>
          .openvpn row.id (transport socket)
      | _, _ => []
  | .openconnect => rows.flatMap fun row =>
      match row.enable, row.reading with
      | true, some reading =>
          if hasUsableCert host files .openconnect row.id reading then
            [.ocserv row.id]
          else []
      | _, _ => []
  | .sstp => rows.flatMap fun row =>
      match row.enable, row.reading with
      | true, some reading =>
          if hasUsableCert host files .sstp row.id reading then [.sstp row.id]
          else []
      | _, _ => []

/-- The IPsec files are written again before libreswan is restarted. -/
def restartWrites (rows : List Served) : VpnProtocol → List Write
  | .l2tp => if rows.any usesIpsec then generateIPsecConfig rows else []
  | _ => []

abbrev Daemons := DaemonName → Option DaemonConfig

/-- `RestartServices`: what the rows call for is started anew, the other
daemons of the protocol are stopped, and pluto never is. -/
def restartServices (host : Host) (files : ConfigFiles) (rows : List Served)
    (backend : VpnProtocol) (daemons : Daemons) : Daemons := fun daemon =>
  if daemon.backend ≠ backend then daemons daemon
  else if daemon ∈ desired host files rows backend then
    some (configOf files daemon)
  else if daemon = .pluto then daemons daemon
  else none

/-- The database and what runs on the host. -/
structure State where
  database : Store.Database
  files : ConfigFiles
  daemons : Daemons
  /-- None where the table is not loaded. -/
  prerouting : Option (List NftRule)

/-- `Update("settings", ..)` of the row with an id. -/
def setSettings (settings : JsonText) (id : Int) (row : Store.StoredInbound) :
    Store.StoredInbound :=
  if row.id = id then { row with settings := settings } else row

theorem setSettings_id {settings : JsonText} {id : Int}
    (row : Store.StoredInbound) :
    (setSettings settings id row).id = row.id := by
  unfold setSettings
  split <;> rfl

def expandInbound (database : Store.Database) (row : Store.StoredInbound) :
    Store.Database :=
  match normalizeRanges database.inbounds.view row.toInbound row.id with
  | .error _ => database
  | .ok expanded =>
      { database with
        inbounds := database.inbounds.mapRows
          (setSettings expanded.settings row.id) setSettings_id }

/-- `AutoExpandVpnRanges`. -/
def expandVpnRanges (database : Store.Database) (backend : VpnProtocol) :
    Store.Database :=
  (database.inbounds.rows.filter (·.protocol = .vpn backend)).foldl
    expandInbound database

/-- The refresh of one protocol: the files and the daemons of this protocol, and
the rules of all. -/
def refresh (host : Host) (backend : VpnProtocol) (state : State) : State :=
  let database := expandVpnRanges state.database backend
  let served := servedRows host database
  let rows := served backend
  let generated := state.files.writeAll (generateAllConfigs rows backend)
  let files := generated.writeAll (restartWrites rows backend)
  { database := database
    files := files
    daemons := restartServices host files rows backend state.daemons
    prerouting := applyNftRules served }

/-! What the back end is to be: for the enabled inbounds alone the daemons they
call for, each started on what the generators make of the database. -/

/-- The files as a run of the generators would leave them. -/
def generatedFiles (host : Host) (state : State) : ConfigFiles := fun name =>
  state.files.writeAll (generateAllConfigs
    (servedRows host state.database name.backend) name.backend) name

def requiredDaemons (host : Host) (state : State) (backend : VpnProtocol) :
    List DaemonName :=
  desired host (generatedFiles host state)
    ((servedRows host state.database backend).filter Served.enable) backend

/-- The daemons of one protocol run where they are required, on their generated
configuration. -/
def MirrorsDaemons (host : Host) (state : State) (backend : VpnProtocol) :
    Prop :=
  ∀ daemon : DaemonName, daemon.backend = backend →
    state.daemons daemon =
      if daemon ∈ requiredDaemons host state backend then
        some (configOf (generatedFiles host state) daemon)
      else none

structure Mirrors (host : Host) (state : State) : Prop where
  daemons : ∀ backend, MirrorsDaemons host state backend
  prerouting : state.prerouting =
    applyNftRules (servedRows host state.database)

/-! Writing. -/

variable {host : Host}

theorem backend_of_pemWrites {backend : VpnProtocol} {id : Int}
    {texts : List (String × String)} {entry : Write}
    (member : entry ∈ pemWrites backend id texts) :
    entry.1.backend = backend := by
  obtain ⟨_, _, rfl⟩ := List.mem_map.mp member
  rfl

theorem backend_of_generatePPPOptions {backend : VpnProtocol}
    {rows : List Served} {entry : Write}
    (member : entry ∈ generatePPPOptions backend rows) :
    entry.1 = etc backend (pppOptions backend) := by
  unfold generatePPPOptions at member
  split at member
  · cases member
  · rw [List.mem_singleton.mp member]

theorem names_of_generateIPsecConfig {rows : List Served} {entry : Write}
    (member : entry ∈ generateIPsecConfig rows) :
    entry.1 = etc .l2tp "ipsec.conf" ∨ entry.1 = etc .l2tp "ipsec.secrets" := by
  unfold generateIPsecConfig at member
  split at member
  · cases member
  · simp only [List.mem_cons, List.not_mem_nil, or_false] at member
    rcases member with rfl | rfl
    · exact .inl rfl
    · exact .inr rfl

/-- A protocol writes its own files. -/
theorem backend_of_generateAllConfigs {rows : List Served}
    {backend : VpnProtocol} {entry : Write}
    (member : entry ∈ generateAllConfigs rows backend) :
    entry.1.backend = backend := by
  cases backend with
  | l2tp =>
      simp only [generateAllConfigs] at member
      split at member
      · cases member
      · simp only [List.mem_cons, List.cons_append, List.mem_append] at member
        rcases member with rfl | member | member
        · rfl
        · rcases names_of_generateIPsecConfig member with same | same <;>
            rw [same] <;> rfl
        · rw [backend_of_generatePPPOptions member]
          rfl
  | pptp =>
      simp only [generateAllConfigs] at member
      split at member
      · cases member
      · rcases List.mem_cons.mp member with rfl | member
        · rfl
        · rw [backend_of_generatePPPOptions member]
          rfl
  | openvpn =>
      obtain ⟨row, -, listed⟩ := List.mem_flatMap.mp member
      unfold openvpnWrites at listed
      split at listed
      · cases listed
      · rcases List.mem_append.mp listed with listed | listed
        · obtain ⟨_, _, rfl⟩ := List.mem_map.mp listed
          rfl
        · unfold ovpnCertFiles at listed
          split at listed
          · cases listed
          · exact backend_of_pemWrites listed
  | openconnect =>
      obtain ⟨row, -, listed⟩ := List.mem_flatMap.mp member
      unfold ocservWrites at listed
      split at listed
      · cases listed
      · rcases List.mem_cons.mp listed with rfl | listed
        · rfl
        · unfold certFiles at listed
          split at listed
          · cases listed
          · exact backend_of_pemWrites listed
  | sstp =>
      obtain ⟨row, -, listed⟩ := List.mem_flatMap.mp member
      unfold sstpWrites at listed
      split at listed
      · cases listed
      · rcases List.mem_cons.mp listed with rfl | listed
        · rfl
        · unfold certFiles at listed
          split at listed
          · cases listed
          · exact backend_of_pemWrites listed

/-- The second writing of the IPsec files changes nothing. -/
theorem writeAll_restartWrites {rows : List Served} {backend : VpnProtocol}
    {files : ConfigFiles} :
    (files.writeAll (generateAllConfigs rows backend)).writeAll
        (restartWrites rows backend) =
      files.writeAll (generateAllConfigs rows backend) := by
  cases backend with
  | l2tp =>
      simp only [restartWrites]
      split
      next used =>
        simp only [generateAllConfigs]
        split
        next empty =>
          subst empty
          simp at used
        next =>
          rw [show generateXl2tpdConfig rows :: generateIPsecConfig rows ++
            generatePPPOptions .l2tp rows = [generateXl2tpdConfig rows] ++
              generateIPsecConfig rows ++ generatePPPOptions .l2tp rows from rfl]
          apply Files.writeAll_again
          intro entry member later listed
          rw [backend_of_generatePPPOptions listed]
          rcases names_of_generateIPsecConfig member with same | same <;>
            rw [same] <;> decide
      · rfl
  | _ => rfl

end VpnUi.BackEnd
