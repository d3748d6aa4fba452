import VpnUi.Foundation.KeyMap
import VpnUi.Foundation.Transition

namespace VpnUi.Telegram

open Foundation

/-! The buttons of the bot: what is sent with a button, and what a press of it
leads to. -/

/-- The hash is the key. -/
structure HashEntry where
  value : String
  timestamp : Nat

abbrev HashStorage := KeyMap String HashEntry

/-- `len(text)`. -/
def byteLength (text : String) : Nat :=
  (text.toList.map Char.utf8Size).sum

def isHexLetter (letter : Char) : Bool :=
  (97 ≤ letter.toNat && letter.toNat ≤ 102) ||
    (48 ≤ letter.toNat && letter.toNat ≤ 57)

/-- The expression `^[a-f0-9]{32}$`. -/
def isMD5 (hash : String) : Bool :=
  hash.toList.length = 32 && hash.toList.all isHexLetter

namespace HashStorage

variable (storage : HashStorage)

def getValue (hash : String) : Option String :=
  (storage.lookup hash).map HashEntry.value

/-- Twenty minutes, in nanoseconds. -/
def expiration : Nat := 1200000000000

def removeExpiredHashes (now : Nat) : HashStorage :=
  storage.retain fun _ entry => !(expiration < now - entry.timestamp)

/-- `md5` is the sum in hexadecimal. -/
def saveHash (md5 : String → String) (now : Nat) (query : String) :
    String × HashStorage :=
  (md5 query, storage.insert (md5 query) ⟨query, now⟩)

def encodeQuery (md5 : String → String) (now : Nat) (query : String) :
    String × HashStorage :=
  if byteLength query ≤ 64 then (query, storage)
  else storage.saveHash md5 now query

def decodeQuery (query : String) : Except String String :=
  if isMD5 query = false then .ok query
  else
    match storage.getValue query with
    | none => .error "hash not found in storage!"
    | some decoded => .ok decoded

/-- What `answerCallback` makes of the data of a button. -/
def dataArray (data : String) : Except String (List String) :=
  (storage.decodeQuery data).map fun decoded =>
    (decoded.toList.splitOn ' ').map String.ofList

end HashStorage

/-- A command with its arguments, as the buttons are given them. -/
def queryOf (words : List String) : String := " ".intercalate words

/-- A button that was sent, and when: the clock and the start of the bot. -/
structure Button where
  words : List String
  data : String
  sent : Nat
  start : Nat

structure Bot where
  storage : HashStorage
  now : Nat
  start : Nat
  /-- On the screens of the admins; they stay there when the bot starts anew. -/
  buttons : List Button

inductive Event
  | send (words : List String)
  | pass (nanoseconds : Nat)
  | checkHashStorage
  | start

section Machine

variable (md5 : String → String)

def step (bot : Bot) : Event → Option Bot
  | .send words =>
      let encoded := bot.storage.encodeQuery md5 bot.now (queryOf words)
      some { bot with
        storage := encoded.2
        buttons := ⟨words, encoded.1, bot.now, bot.start⟩ :: bot.buttons }
  | .pass nanoseconds => some { bot with now := bot.now + nanoseconds }
  | .checkHashStorage =>
      some { bot with storage := bot.storage.removeExpiredHashes bot.now }
  | .start => some { bot with storage := ∅, start := bot.start + 1 }

def machine : Machine Bot Event := ⟨step md5⟩

def started : Bot := ⟨∅, 0, 0, []⟩

end Machine

section Texts

variable {words : List String} {query : String}

theorem splitOn_queryOf (given : words ≠ [])
    (plain : ∀ word ∈ words, ' ' ∉ word.toList) :
    ((queryOf words).toList.splitOn ' ').map String.ofList = words := by
  rw [queryOf, String.toList_intercalate]
  change ((List.intercalate [' '] _).splitOn ' ').map _ = _
  rw [List.splitOn_intercalate]
  · rw [List.map_map]
    exact List.map_id'' (fun _ => String.ofList_toList) words
  · intro letters member
    obtain ⟨word, listed, rfl⟩ := List.mem_map.mp member
    exact plain word listed
  · simpa using given

/-- A command that has an argument is no hash. -/
theorem isMD5_queryOf {command argument : String} {rest : List String} :
    isMD5 (queryOf (command :: argument :: rest)) = false := by
  have blank : ' ' ∈ (queryOf (command :: argument :: rest)).toList := by
    rw [queryOf, String.toList_intercalate, List.map_cons, List.map_cons,
      List.intercalate_cons_cons]
    exact List.mem_append_left _ (List.mem_append_right _
      (List.mem_singleton_self ' '))
  rw [isMD5, Bool.and_eq_false_iff, List.all_eq_false]
  exact .inr ⟨' ', blank, by decide⟩

theorem utf8Size_of_isHexLetter {letter : Char}
    (hex : isHexLetter letter = true) : letter.utf8Size = 1 := by
  have small : letter.toNat ≤ 127 := by
    simp only [isHexLetter, Bool.or_eq_true, Bool.and_eq_true,
      decide_eq_true_eq] at hex
    omega
  exact Char.utf8Size_eq_one_iff.mpr (UInt32.le_iff_toNat_le.mpr small)

theorem byteLength_of_isMD5 {hash : String} (hex : isMD5 hash = true) :
    byteLength hash = 32 := by
  obtain ⟨length, letters⟩ := Bool.and_eq_true_iff.mp hex
  have ones : hash.toList.map Char.utf8Size =
      List.replicate hash.toList.length 1 := by
    apply List.map_eq_replicate_iff.mpr
    intro letter member
    exact utf8Size_of_isHexLetter (List.all_eq_true.mp letters letter member)
  rw [byteLength, ones, List.sum_replicate_nat, of_decide_eq_true length]

end Texts

section Storage

variable {md5 : String → String} {storage : HashStorage} {query hash : String}
  {now : Nat} {entry : HashEntry}

theorem decodeQuery_plain (plain : isMD5 query = false) :
    storage.decodeQuery query = .ok query :=
  if_pos plain

theorem decodeQuery_of_entry (hex : isMD5 hash = true)
    (found : storage.lookup hash = some entry) :
    storage.decodeQuery hash = .ok entry.value := by
  rw [HashStorage.decodeQuery, if_neg (by simp [hex]), HashStorage.getValue,
    found]
  rfl

theorem decodeQuery_of_none (hex : isMD5 hash = true)
    (absent : storage.lookup hash = none) :
    storage.decodeQuery hash = .error "hash not found in storage!" := by
  rw [HashStorage.decodeQuery, if_neg (by simp [hex]), HashStorage.getValue,
    absent]
  rfl

theorem lookup_removeExpiredHashes :
    (storage.removeExpiredHashes now).lookup hash = some entry ↔
      storage.lookup hash = some entry ∧
        now ≤ entry.timestamp + HashStorage.expiration := by
  rw [HashStorage.removeExpiredHashes, KeyMap.lookup_retain_eq_some,
    Nat.add_comm entry.timestamp]
  simp

end Storage

section Runs

variable {md5 : String → String} {bot next : Bot} {event : Event}

/-- What was sent with a button. -/
def Sent (md5 : String → String) (button : Button) : Prop :=
  button.data = if byteLength (queryOf button.words) ≤ 64 then
    queryOf button.words else md5 (queryOf button.words)

/-- The storage holds queries of buttons, each under its hash, and a long query
for as long as its last button is fresh. -/
structure Kept (md5 : String → String) (bot : Bot) : Prop where
  stored : ∀ hash entry, bot.storage.lookup hash = some entry →
    ∃ button ∈ bot.buttons, entry.value = queryOf button.words ∧
      md5 entry.value = hash
  sent : ∀ button ∈ bot.buttons, Sent md5 button ∧ button.sent ≤ bot.now ∧
    button.start ≤ bot.start
  fresh : ∀ button ∈ bot.buttons, button.start = bot.start →
    ¬ byteLength (queryOf button.words) ≤ 64 →
      bot.now ≤ button.sent + HashStorage.expiration →
        ∃ entry, bot.storage.lookup (md5 (queryOf button.words)) = some entry ∧
          button.sent ≤ entry.timestamp

theorem kept_started : Kept md5 started where
  stored := by
    intro hash entry found
    cases found
  sent := by
    intro button member
    cases member
  fresh := by
    intro button member
    cases member

theorem Kept.send (kept : Kept md5 bot) {words : List String}
    (stepped : (machine md5).step bot (.send words) = some next) :
    Kept md5 next := by
  obtain rfl := Option.some.inj stepped
  by_cases short : byteLength (queryOf words) ≤ 64
  · rw [HashStorage.encodeQuery, if_pos short]
    refine ⟨?_, ?_, ?_⟩
    · intro hash entry found
      obtain ⟨button, member, same⟩ := kept.stored hash entry found
      exact ⟨button, List.mem_cons_of_mem _ member, same⟩
    · intro button member
      rcases List.mem_cons.mp member with rfl | old
      · exact ⟨(if_pos short).symm, le_rfl, le_rfl⟩
      · exact kept.sent button old
    · intro button member start long
      rcases List.mem_cons.mp member with rfl | old
      · exact absurd short long
      · exact kept.fresh button old start long
  · rw [HashStorage.encodeQuery, if_neg short]
    refine ⟨?_, ?_, ?_⟩
    · intro hash entry found
      rcases KeyMap.lookup_insert_eq_some.mp found with ⟨rfl, rfl⟩ | ⟨-, old⟩
      · exact ⟨_, List.mem_cons_self, rfl, rfl⟩
      · obtain ⟨button, member, same⟩ := kept.stored hash entry old
        exact ⟨button, List.mem_cons_of_mem _ member, same⟩
    · intro button member
      rcases List.mem_cons.mp member with rfl | old
      · exact ⟨(if_neg short).symm, le_rfl, le_rfl⟩
      · exact kept.sent button old
    · intro button member start long within
      rcases List.mem_cons.mp member with rfl | old
      · exact ⟨_, AList.lookup_insert _, le_rfl⟩
      · by_cases same : md5 (queryOf button.words) = md5 (queryOf words)
        · refine ⟨⟨queryOf words, bot.now⟩, ?_, (kept.sent button old).2.1⟩
          rw [same]
          exact AList.lookup_insert _
        · obtain ⟨entry, found, later⟩ :=
            kept.fresh button old start long within
          exact ⟨entry, (AList.lookup_insert_ne same).trans found, later⟩

theorem Kept.step (kept : Kept md5 bot)
    (stepped : (machine md5).step bot event = some next) : Kept md5 next := by
  cases event with
  | send words => exact kept.send stepped
  | pass nanoseconds =>
      obtain rfl := Option.some.inj stepped
      refine ⟨kept.stored, ?_, ?_⟩
      · intro button member
        obtain ⟨sent, before, start⟩ := kept.sent button member
        exact ⟨sent, Nat.le_add_right_of_le before, start⟩
      · intro button member start long within
        exact kept.fresh button member start long
          (le_trans (Nat.le_add_right _ _) within)
  | checkHashStorage =>
      obtain rfl := Option.some.inj stepped
      refine ⟨?_, kept.sent, ?_⟩
      · intro hash entry found
        exact kept.stored hash entry (lookup_removeExpiredHashes.mp found).1
      · intro button member start long within
        obtain ⟨entry, found, later⟩ :=
          kept.fresh button member start long within
        refine ⟨entry, lookup_removeExpiredHashes.mpr ⟨found, ?_⟩, later⟩
        exact le_trans within (Nat.add_le_add_right later _)
  | start =>
      obtain rfl := Option.some.inj stepped
      refine ⟨?_, ?_, ?_⟩
      · intro hash entry found
        cases found
      · intro button member
        obtain ⟨sent, before, start⟩ := kept.sent button member
        exact ⟨sent, before, Nat.le_succ_of_le start⟩
      · intro button member start
        have earlier := (kept.sent button member).2.2
        exact absurd start (by dsimp only; omega)

/-- A query of more than 64 letters. -/
def longWords : List String :=
  ["reset_traffic_c", "a.client.with.a.very.long.name.for.an.account" ++
    "@subdomain.example"]

/-- The sums of this query and of the empty one. -/
def sampleMd5 (query : String) : String :=
  if query = queryOf longWords then "8eaf08b213525cc2e73e58540625c336"
  else "d41d8cd98f00b204e9800998ecf8427e"

end Runs

end VpnUi.Telegram
