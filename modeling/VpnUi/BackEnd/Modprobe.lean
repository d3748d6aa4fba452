import Mathlib.Data.List.Sort
import Mathlib.Data.String.Basic
import VpnUi.Address.Text
import VpnUi.Foundation.KeyMap
import VpnUi.Foundation.Url

namespace VpnUi.BackEnd.Modprobe

open Foundation Address

/-! The four modprobe.d folders: the rules that keep modules from loading, and the
rewriting of the files that have them. -/

abbrev Text := List Char

inductive Folder
  | etc
  | run
  | usrLib
  | lib
  deriving DecidableEq

def Folder.path : Folder → String
  | etc => "/etc/modprobe.d"
  | run => "/run/modprobe.d"
  | usrLib => "/usr/lib/modprobe.d"
  | lib => "/lib/modprobe.d"

/-- In the order in which they are scanned, and in that of precedence. -/
def folders : List Folder := [.etc, .run, .usrLib, .lib]

/-- The regular files of each folder. -/
abbrev Files := Folder → KeyMap String Text

/-- `strings.Fields`. -/
def fields (line : Text) : List String :=
  ((line.splitOnP isSpace).filter (· ≠ [])).map String.ofList

/-- The modules that the back ends need. -/
def vpnKernelModules : List String :=
  ["ppp_generic", "l2tp_ppp", "nf_conntrack_pptp", "ip_gre", "ppp_mppe",
    "nf_tproxy_ipv4", "tun"]

def vpnOptionalKernelModules : List String := ["af_key"]

/-- `filepath.Base` of a path that is not empty. -/
def base (path : List Char) : List Char :=
  match path.reverse.dropWhile (· = '/') with
  | [] => ['/']
  | kept => (kept.takeWhile (· ≠ '/')).reverse

/-- The modules that the output of `modprobe --show-depends` names. -/
def shownDepends (output : Text) : List String :=
  (output.splitOn '\n').filterMap fun line =>
    match fields line with
    | "insmod" :: path :: _ =>
        let name := (base path.toList).takeWhile (· ≠ '.')
        if name = [] then none else some (String.ofList name)
    | _ => none

/-- Without an output, `modprobe` has failed. -/
def vpnModuleEnableSet (showDepends : String → Option Text) : List String :=
  (vpnKernelModules ++ vpnOptionalKernelModules).flatMap fun name =>
    name :: (showDepends name).elim [] shownDepends

def isModuleDisableCommand (cmd : String) : Bool :=
  cmd ∈ ["/bin/false", "/bin/true", "/usr/bin/false", "/usr/bin/true", "false",
    "true", ":", "/bin/:"]

/-- A line with these fields is commented out. -/
def offends (need : List String) : List String → Bool
  | directive :: name :: rest =>
      name ∈ need &&
        (directive = "blacklist" ||
          directive = "install" &&
            (rest.head?.elim false isModuleDisableCommand))
  | _ => false

def clearLine (need : List String) (line : Text) : Text :=
  if offends need (fields line) then
    "# ".toList ++ line ++ "    # vpn-ui: required VPN module".toList
  else line

def clearText (need : List String) (text : Text) : Text :=
  ['\n'].intercalate ((text.splitOn '\n').map (clearLine need))

/-- Whether a line of the file is commented out. -/
def modified (need : List String) (text : Text) : Bool :=
  (text.splitOn '\n').any fun line => offends need (fields line)

/-- The modules whose rules a file has, each as often as a rule. -/
def clearedIn (need : List String) (text : Text) : List String :=
  ((text.splitOn '\n').filter fun line => offends need (fields line)).map
    fun line => (fields line).getD 1 ""

/-- Package-owned rules are overridden in /etc. -/
def Folder.target : Folder → Folder
  | etc => etc
  | run => run
  | usrLib => etc
  | lib => etc

structure Scan where
  files : Files
  cleared : List String
  log : String

def isConf (name : String) : Bool := ".conf".toList.isSuffixOf name.toList

/-- The body of the inner loop; every write succeeds. -/
def scanFile (need : List String) (folder : Folder) (scan : Scan)
    (name : String) : Scan :=
  match (scan.files folder).lookup name with
  | none => scan
  | some text =>
      if isConf name && modified need text then
        { files := Function.update scan.files folder.target
            ((scan.files folder.target).insert name (clearText need text))
          cleared := (scan.cleared ++ clearedIn need text).eraseDups
          log := scan.log ++ "cleared deny-list/disable in " ++
            folder.target.path ++ "/" ++ name ++ "\n" }
      else scan

/-- The names come in the order of `os.ReadDir`. -/
def scanFolder (need : List String) (scan : Scan) (folder : Folder) : Scan :=
  ((scan.files folder).keys.insertionSort (· ≤ ·)).foldl
    (scanFile need folder) scan

def unblacklistVpnModules (need : List String) (files : Files) : Scan :=
  folders.foldl (scanFolder need) ⟨files, [], ""⟩

/-! What kmod makes of the folders. -/

/-- A line that is no comment, by its fields. -/
def isRule : List String → Bool
  | [] => false
  | directive :: _ => !("#".toList.isPrefixOf directive.toList)

def rules (text : Text) : List (List String) :=
  ((text.splitOn '\n').map fields).filter isRule

/-- In the name of a module - and _ are the same. -/
def moduleName (name : String) : List Char :=
  name.toList.map fun letter => if letter = '-' then '_' else letter

/-- A blacklist or no-op install rule of a needed module. -/
def forbids (need : List String) : List String → Bool
  | directive :: name :: rest =>
      (need.map moduleName).contains (moduleName name) &&
        (directive = "blacklist" ||
          directive = "install" &&
            (rest.head?.elim false isModuleDisableCommand))
  | _ => false

/-- The copies of one file. -/
abbrev Copies := Folder → Option Text

def copies (files : Files) (name : String) : Copies :=
  fun folder => (files folder).lookup name

/-- The copy of highest precedence. -/
def effective (copies : Copies) : Option Text :=
  folders.findSome? copies

/-- The rules in effect, by the name of their file. -/
def config (files : Files) (name : String) : Option (List (List String)) :=
  if isConf name then (effective (copies files name)).map rules else none

/-- A module whose dependencies are not found is still needed. -/
theorem mem_vpnModuleEnableSet {showDepends : String → Option Text}
    {name : String}
    (member : name ∈ vpnKernelModules ++ vpnOptionalKernelModules) :
    name ∈ vpnModuleEnableSet showDepends :=
  List.mem_flatMap.mpr ⟨name, member, List.mem_cons_self⟩

section Text

variable {need : List String} {line text : Text} {words : List String}

theorem fields_comment : fields ("# ".toList ++ line) = "#" :: fields line := by
  have split : ("# ".toList ++ line).splitOnP isSpace =
      ['#'] :: line.splitOnP isSpace := by
    have apart := @List.splitOnP_append_cons_of_forall_mem Char isSpace ['#']
      (List.forall_mem_singleton.mpr (by decide)) ' ' (by decide) line
    exact apart
  rw [fields, split]
  rfl

/-- A cleared line holds no rule. -/
theorem fields_clearLine_of_offends (found : offends need (fields line) = true) :
    ∃ rest, fields (clearLine need line) = "#" :: rest := by
  rw [clearLine, if_pos found, List.append_assoc, fields_comment]
  exact ⟨_, rfl⟩

theorem fields_clearLine_of_not_offends
    (kept : offends need (fields line) = false) :
    fields (clearLine need line) = fields line := by
  rw [clearLine, if_neg (by simp [kept])]

theorem offends_comment {rest : List String} :
    offends need ("#" :: rest) = false := by
  cases rest <;> simp [offends]

theorem offends_clearLine : offends need (fields (clearLine need line)) = false := by
  cases found : offends need (fields line) with
  | true =>
      obtain ⟨rest, comment⟩ := fields_clearLine_of_offends found
      rw [comment, offends_comment]
  | false => rw [fields_clearLine_of_not_offends found, found]

theorem clearLine_clearLine :
    clearLine need (clearLine need line) = clearLine need line := by
  rw [clearLine, if_neg (by simp [offends_clearLine])]

theorem splitOn_clearText : (clearText need text).splitOn '\n' =
    (text.splitOn '\n').map (clearLine need) := by
  refine List.splitOn_intercalate _ ?_ (by simp [List.splitOn_ne_nil])
  intro line member inside
  obtain ⟨old, part, rfl⟩ := List.mem_map.mp member
  rw [List.splitOn_eq_splitOnP] at part
  have plain : '\n' ∉ old := by
    intro newline
    have apart := not_separator_of_mem_splitOnP part _ newline
    simp at apart
  rw [clearLine] at inside
  split at inside
  · simp only [List.mem_append, plain, or_false] at inside
    exact absurd inside (by decide)
  · exact plain inside

theorem clearText_of_not_modified (same : modified need text = false) :
    clearText need text = text := by
  have kept : (text.splitOn '\n').map (clearLine need) = text.splitOn '\n' := by
    refine (List.map_congr_left ?_).trans (List.map_id _)
    intro line member
    have clean := List.any_eq_false.mp same line member
    exact if_neg clean
  rw [clearText, kept, List.intercalate_splitOn]

theorem modified_clearText : modified need (clearText need text) = false := by
  rw [modified, splitOn_clearText, List.any_map]
  simp [Function.comp_def, offends_clearLine]

theorem clearText_clearText :
    clearText need (clearText need text) = clearText need text :=
  clearText_of_not_modified modified_clearText

/-- The rules that are not looked for stay, and no other. -/
theorem rules_clearText :
    rules (clearText need text) =
      (rules text).filter fun words => !offends need words := by
  rw [rules, splitOn_clearText, rules]
  induction text.splitOn '\n' with
  | nil => rfl
  | cons line lines induction =>
      simp only [List.map_cons, List.filter_cons] at induction ⊢
      cases found : offends need (fields line) with
      | true =>
          obtain ⟨rest, comment⟩ := fields_clearLine_of_offends found
          have none : isRule ("#" :: rest) = false := rfl
          rw [comment, none, induction]
          cases isRule (fields line) <;> simp [found]
      | false =>
          rw [fields_clearLine_of_not_offends found, induction]
          cases isRule (fields line) <;> simp [found]

/-- A rule that is looked for forbids a needed module. -/
theorem forbids_of_offends (found : offends need words = true) :
    forbids need words = true := by
  match words, found with
  | directive :: name :: rest, found =>
      rw [offends, Bool.and_eq_true, decide_eq_true_iff] at found
      rw [forbids, Bool.and_eq_true, List.contains_iff_mem]
      exact ⟨List.mem_map_of_mem found.1, found.2⟩

end Text

/-- What the scan of a folder does to the copies of one file. -/
def copyStep (need : List String) (copies : Copies) (folder : Folder) : Copies :=
  match copies folder with
  | none => copies
  | some text =>
      if modified need text then
        Function.update copies folder.target (some (clearText need text))
      else copies

section Scan

variable {need : List String} {folder : Folder} {scan : Scan} {files : Files}
  {name other : String} {names : List String}

theorem copies_update {text : Text} :
    copies (Function.update files folder ((files folder).insert name text))
        other =
      if other = name then
        Function.update (copies files other) folder (some text)
      else copies files other := by
  funext place
  rw [copies]
  by_cases here : place = folder
  · rw [here, Function.update_self]
    by_cases same : other = name
    · rw [if_pos same, same, Function.update_self, AList.lookup_insert]
    · rw [if_neg same, AList.lookup_insert_ne same]
      rfl
  · rw [Function.update_of_ne here]
    by_cases same : other = name
    · rw [if_pos same, Function.update_of_ne here]
      rfl
    · rw [if_neg same]
      rfl

theorem copies_scanFile :
    copies (scanFile need folder scan name).files other =
      if other = name ∧ isConf name = true then
        copyStep need (copies scan.files other) folder
      else copies scan.files other := by
  rw [scanFile, copyStep]
  by_cases same : other = name
  · subst same
    cases found : (scan.files folder).lookup other with
    | none =>
        have missing : copies scan.files other folder = none := found
        simp [missing]
    | some text =>
        have present : copies scan.files other folder = some text := found
        cases conf : isConf other with
        | false => simp
        | true =>
            cases change : modified need text with
            | false => simp [present, change]
            | true => simp [present, change, copies_update]
  · rw [if_neg fun both => same both.1]
    cases (scan.files folder).lookup name with
    | none => rfl
    | some text =>
        dsimp only
        split
        · rw [copies_update, if_neg same]
        · rfl

/-- The other files of the folder do not count. -/
theorem copies_foldl_scanFile (distinct : names.Nodup) :
    copies (names.foldl (scanFile need folder) scan).files other =
      if other ∈ names ∧ isConf other = true then
        copyStep need (copies scan.files other) folder
      else copies scan.files other := by
  induction names generalizing scan with
  | nil => simp
  | cons name names induction =>
      obtain ⟨absent, distinct⟩ := List.nodup_cons.mp distinct
      rw [List.foldl_cons, induction distinct, copies_scanFile]
      by_cases same : other = name
      · subst same
        simp [absent]
      · simp [same]

theorem copies_scanFolder :
    copies (scanFolder need scan folder).files name =
      if isConf name then copyStep need (copies scan.files name) folder
      else copies scan.files name := by
  have distinct : ((scan.files folder).keys.insertionSort (· ≤ ·)).Nodup :=
    (List.perm_insertionSort _ _).nodup_iff.mpr (scan.files folder).nodupKeys
  rw [scanFolder, copies_foldl_scanFile distinct]
  simp only [List.mem_insertionSort]
  by_cases present : name ∈ (scan.files folder).keys
  · simp [present]
  · have missing : copies scan.files name folder = none :=
      AList.lookup_eq_none.mpr present
    rw [if_neg fun both => present both.1, copyStep, missing]
    simp

theorem copies_unblacklist :
    copies (unblacklistVpnModules need files).files name =
      if isConf name then folders.foldl (copyStep need) (copies files name)
      else copies files name := by
  simp only [unblacklistVpnModules, folders, List.foldl_cons, List.foldl_nil,
    copies_scanFolder]
  cases isConf name <;> rfl

end Scan

/-- The copy that is in effect afterwards, before its lines are cleared: one that
is written to /etc, or else the one that is in effect. -/
def overriding (need : List String) (copies : Copies) : Option Text :=
  ((copies .lib).filter (modified need)).or
    (((copies .usrLib).filter (modified need)).or (effective copies))

/-- Every rule that forbids a needed module is spelled the way it is looked for,
and the other rules of the copy are those in effect. -/
def Spared (need : List String) (copies : Copies) : Prop :=
  ∀ current ∈ effective copies, ∀ kept ∈ overriding need copies,
    (∀ rule ∈ rules kept, forbids need rule = true →
      offends need rule = true) ∧
      (rules kept).filter (fun rule => !forbids need rule) =
        (rules current).filter fun rule => !forbids need rule

section Copies

variable {need : List String} {folder : Folder} {file : Copies}
  {copy : Option Text}

/-- What is written over a copy. -/
def cleared (need : List String) (copy : Option Text) : Option Text :=
  (copy.filter (modified need)).map (clearText need)

theorem copyStep_eq :
    copyStep need file folder = Function.update file folder.target
      ((cleared need (file folder)).or (file folder.target)) := by
  rw [copyStep, cleared]
  cases file folder with
  | none => exact (Function.update_eq_self _ _).symm
  | some text =>
      cases change : modified need text with
      | false =>
          simp only [Option.filter_some, change, Bool.false_eq_true, if_false]
          exact (Function.update_eq_self _ _).symm
      | true =>
          simp [Option.filter_some, change]

/-- A copy that is overwritten in place. -/
theorem cleared_or_self : (cleared need copy).or copy =
    copy.map (clearText need) := by
  cases copy with
  | none => rfl
  | some text =>
      cases change : modified need text with
      | false =>
          simp [cleared, Option.filter_some, change,
            clearText_of_not_modified change]
      | true => simp [cleared, Option.filter_some, change]

theorem map_clearText_of_clean (clean : copy.filter (modified need) = none) :
    copy.map (clearText need) = copy := by
  have kept := @cleared_or_self need copy
  rw [cleared, clean] at kept
  exact kept.symm

/-- The copies of a file after the four folders. -/
structure Swept (need : List String) (before after : Copies) : Prop where
  etc : after .etc = (cleared need (before .lib)).or
    ((cleared need (before .usrLib)).or ((before .etc).map (clearText need)))
  run : after .run = (before .run).map (clearText need)
  usrLib : after .usrLib = before .usrLib
  lib : after .lib = before .lib

theorem swept : Swept need file (folders.foldl (copyStep need) file) := by
  simp only [folders, List.foldl_cons, List.foldl_nil, copyStep_eq]
  constructor <;>
    simp [Folder.target, Function.update_of_ne, cleared_or_self]

variable {before after : Copies}

theorem effective_eq : effective file =
    (file .etc).or ((file .run).or ((file .usrLib).or (file .lib))) := by
  rw [effective, folders]
  cases etc : file .etc <;> cases run : file .run <;>
    cases usrLib : file .usrLib <;> cases lib : file .lib <;>
    simp [etc, run, usrLib, lib]

theorem Swept.effective (sweep : Swept need before after) :
    effective after = (overriding need before).map (clearText need) := by
  rw [effective_eq, sweep.etc, sweep.run, sweep.usrLib, sweep.lib, overriding,
    cleared, cleared]
  cases lib : (before .lib).filter (modified need) with
  | some text => simp
  | none =>
      cases usrLib : (before .usrLib).filter (modified need) with
      | some text => simp
      | none =>
          rw [Option.map_none, Option.none_or, Option.none_or, Option.none_or,
            Option.none_or, effective_eq, Option.map_or, Option.map_or,
            Option.map_or, map_clearText_of_clean lib,
            map_clearText_of_clean usrLib]

/-- A second sweep finds nothing to change. -/
theorem Swept.again {twice : Copies} (sweep : Swept need before after)
    (second : Swept need after twice) : twice = after := by
  have clean : ∀ copy : Option Text,
      (copy.map (clearText need)).map (clearText need) =
        copy.map (clearText need) := by
    intro copy
    rw [Option.map_map]
    congr 1
    funext text
    exact clearText_clearText
  funext folder
  cases folder with
  | etc =>
      rw [second.etc, sweep.usrLib, sweep.lib, sweep.etc, cleared, cleared]
      cases (before .lib).filter (modified need) with
      | some text => simp
      | none =>
          cases (before .usrLib).filter (modified need) with
          | some text => simp
          | none => simp [Function.comp_def, clearText_clearText]
  | run => rw [second.run, sweep.run, clean]
  | usrLib => exact second.usrLib
  | lib => exact second.lib

theorem filter_forbids_of_spelled {found : List (List String)}
    (spelled : ∀ rule ∈ found, forbids need rule = true →
      offends need rule = true) :
    found.filter (fun rule => !forbids need rule) =
      found.filter fun rule => !offends need rule := by
  apply List.filter_congr
  intro rule member
  rw [Bool.not_inj_iff, Bool.eq_iff_iff]
  exact ⟨spelled rule member, forbids_of_offends⟩

/-- The rules in effect are those from before without the ones that forbid a
needed module. -/
theorem Swept.rules_iff (sweep : Swept need before after) :
    (Modprobe.effective after).map rules =
        ((Modprobe.effective before).map rules).map
          (fun found => found.filter fun rule => !forbids need rule) ↔
      Spared need before := by
  rw [sweep.effective, Spared]
  cases current : Modprobe.effective before with
  | none =>
      have missing : overriding need before = none := by
        rw [effective_eq] at current
        simp only [Option.or_eq_none_iff] at current
        rw [overriding, effective_eq]
        simp [current]
      simp [missing]
  | some text =>
      obtain ⟨kept, found⟩ : ∃ kept, overriding need before = some kept := by
        rw [overriding, current]
        cases (before .lib).filter (modified need) <;>
          cases (before .usrLib).filter (modified need) <;> simp
      simp only [found, Option.map_some, Option.some.injEq, Option.mem_def,
        forall_eq', rules_clearText]
      constructor
      · intro same
        have spelled : ∀ rule ∈ rules kept, forbids need rule = true →
            offends need rule = true := by
          intro rule member forbidden
          by_contra missed
          have stays : rule ∈ (rules kept).filter
              fun rule => !offends need rule :=
            List.mem_filter.mpr ⟨member, by simpa using missed⟩
          rw [same] at stays
          have allowed := (List.mem_filter.mp stays).2
          rw [forbidden] at allowed
          exact Bool.false_ne_true allowed
        refine ⟨spelled, ?_⟩
        rw [← same, filter_forbids_of_spelled spelled]
      · rintro ⟨spelled, same⟩
        rw [← same, filter_forbids_of_spelled spelled]

end Copies

/-- What a run that changes `before` to `after` is relied on for. -/
structure Unblacklisted (need : List String) (before after : Files) : Prop where
  config : ∀ name, config after name = (config before name).map fun found =>
    found.filter fun rule => !forbids need rule
  loadable : ∀ name, ∀ found ∈ Modprobe.config after name, ∀ rule ∈ found,
    forbids need rule = false
  steady : ∀ folder name,
    ((unblacklistVpnModules need after).files folder).lookup name =
      (after folder).lookup name

section Unblacklist

variable {need : List String} {files : Files} {name : String}

theorem config_unblacklist_iff :
    config (unblacklistVpnModules need files).files name =
        (config files name).map (fun found =>
          found.filter fun rule => !forbids need rule) ↔
      (isConf name = true → Spared need (copies files name)) := by
  rw [config, config, copies_unblacklist]
  cases isConf name with
  | false => simp
  | true => simpa using swept.rules_iff

theorem unblacklist_unblacklist (folder : Folder) :
    ((unblacklistVpnModules need
        (unblacklistVpnModules need files).files).files folder).lookup name =
      ((unblacklistVpnModules need files).files folder).lookup name := by
  change copies _ name folder = copies _ name folder
  rw [copies_unblacklist, copies_unblacklist]
  cases isConf name with
  | false => rfl
  | true => exact congrFun (Swept.again swept swept) folder

end Unblacklist

/-- The run clears the rules of the needed modules and nothing else exactly when
the copies that are in effect afterwards spell them as the run looks for them, and
have the other rules of the copies in effect before. -/
theorem unblacklisted_iff (need : List String) (files : Files) :
    Unblacklisted need files (unblacklistVpnModules need files).files ↔
      ∀ name, isConf name = true → Spared need (copies files name) := by
  constructor
  · intro run name
    exact config_unblacklist_iff.mp (run.config name)
  · intro spared
    have config := fun name => config_unblacklist_iff.mpr (spared name)
    refine ⟨config, ?_, fun folder name => unblacklist_unblacklist folder⟩
    intro name found inEffect rule member
    rw [Option.mem_def, config, Option.map_eq_some_iff] at inEffect
    obtain ⟨before, -, rfl⟩ := inEffect
    simpa using (List.mem_filter.mp member).2

/-- A package file that forbids a module overwrites the file of the same name that
forbids another one. -/
theorem hardening_overwritten :
    ¬ ∀ (showDepends : String → Option Text) (files : Files),
      Unblacklisted (vpnModuleEnableSet showDepends) files
        (unblacklistVpnModules (vpnModuleEnableSet showDepends) files).files := by
  intro always
  let files : Files := fun folder =>
    match folder with
    | .etc => AList.singleton "hardening.conf"
        "install usb-storage /bin/false".toList
    | .usrLib => AList.singleton "hardening.conf" "blacklist l2tp_ppp".toList
    | _ => ∅
  have spared := config_unblacklist_iff.mp
    ((always (fun _ => none) files).config "hardening.conf") (by decide +kernel)
  have same := (spared "install usb-storage /bin/false".toList
    (by decide +kernel) "blacklist l2tp_ppp".toList (by decide +kernel)).2
  exact absurd same (by decide +kernel)

end VpnUi.BackEnd.Modprobe
