import VpnUi.Address.Text
import VpnUi.Foundation.Regex
import VpnUi.Foundation.TextSearch

namespace VpnUi.BackEnd.Bootloader

open Foundation Address

/-! The menu of GRUB as the text of grub.cfg, the search for a kernel's entry in
that text, and where the path that it finds leads in the menu. -/

abbrev Text := List Char

/-- `\s` of a pattern. -/
def isBlank (letter : Char) : Bool :=
  letter ∈ ['\t', '\n', '\x0c', '\r', ' ']

inductive Keyword
  | menuentry
  | submenu
  deriving DecidableEq

def Keyword.text : Keyword → Text
  | menuentry => "menuentry".toList
  | submenu => "submenu".toList

/-- The text up to a quote.  A backslash takes the letter behind it along. -/
def quoted? : Text → Option Text
  | [] => none
  | '\'' :: _ => some []
  | ['\\'] => none
  | '\\' :: letter :: rest =>
      (quoted? rest).map fun title => '\\' :: letter :: title
  | letter :: rest => (quoted? rest).map (letter :: ·)

/-- The keyword that a text begins with, and what follows it. -/
def keyword? (text : Text) : Option (Keyword × Text) :=
  if Keyword.menuentry.text <+: text then
    some (.menuentry, text.drop Keyword.menuentry.text.length)
  else if Keyword.submenu.text <+: text then
    some (.submenu, text.drop Keyword.submenu.text.length)
  else none

/-- `grubKeywordRe`: the keyword and the title of a line. -/
def grubKeyword? (line : Text) : Option (Keyword × Text) := do
  let (keyword, rest) ← keyword? (line.dropWhile isBlank)
  if rest.head?.elim false isBlank then
    match rest.dropWhile isBlank with
    | '\'' :: title => (quoted? title).map fun title => (keyword, title)
    | _ => none
  else none

def grubEntryIDRe : Regex :=
  .followed (.text "$menuentry_id_option".toList)
    (.followed (.many isBlank)
      (.followed (.text ['\''])
        (.followed (.group (.many (· ≠ '\''))) (.text ['\'']))))

/-- Without an id the title is one. -/
def entryID (line title : Text) : Text :=
  match grubEntryIDRe.findStringSubmatch line with
  | some [id] => id
  | _ => title

def saysRecovery (title : Text) : Bool :=
  hasPart "recovery".toList (title.map Char.toLower)

/-- A title that the search stops at. -/
def mentions (version title : Text) : Bool :=
  hasPart version title && !saysRecovery title

def joinPath (submenuID id : Text) : Text :=
  if submenuID = [] then id else submenuID ++ '>' :: id

/-- The loop over the lines, with the submenu that is remembered. -/
def parseLines (version : Text) (submenuID : Text) : List Text → Option Text
  | [] => none
  | line :: lines =>
      match grubKeyword? line with
      | none => parseLines version submenuID lines
      | some (.submenu, title) =>
          parseLines version
            (if submenuID = [] then entryID line title else submenuID) lines
      | some (.menuentry, title) =>
          if mentions version title then
            some (joinPath submenuID (entryID line title))
          else parseLines version submenuID lines

/-- Without a value where it fails. -/
def parseGrubEntryID (cfg version : Text) : Option Text :=
  parseLines version [] (cfg.splitOn '\n')

/-! A menu and its text. -/

/-- A line that begins no entry and no submenu. -/
structure Filler where
  text : Text
  oneLine : '\n' ∉ text
  plain : grubKeyword? text = none

/-- The beginning of an entry or a submenu.  Title and id stand between single
quotes, and a path is split at a sign that no id has. -/
structure Header where
  indent : Text
  title : Text
  options : Text
  id? : Option Text
  ending : Text
  indented : ∀ letter ∈ indent, isBlank letter = true ∧ letter ≠ '\n'
  titled : ∀ letter ∈ title, letter ∉ ['\'', '\\', '$', '\n']
  optionsPlain : ∀ letter ∈ options, letter ∉ ['$', '\n']
  idPlain : ∀ id ∈ id?, ∀ letter ∈ id, letter ∉ ['\'', '\n']
  endingPlain : ∀ letter ∈ ending, letter ∉ ['$', '\n']
  named : id?.getD title ≠ []
  unescaped : '>' ∉ id?.getD title

namespace Header

def id (header : Header) : Text := header.id?.getD header.title

theorem id_ne_nil (header : Header) : header.id ≠ [] := header.named

theorem id_unescaped (header : Header) : '>' ∉ header.id := header.unescaped

def option (header : Header) : Text :=
  match header.id? with
  | none => []
  | some id => "$menuentry_id_option '".toList ++ id ++ ['\'']

def line (keyword : Keyword) (header : Header) : Text :=
  header.indent ++ keyword.text ++ " '".toList ++ header.title ++ ['\''] ++
    header.options ++ header.option ++ header.ending

end Header

/-- What the title of an entry says of its kernel. -/
structure Kernel where
  name : Text
  version : Text
  recovery : Bool

/-- An entry of a kernel has a title that ends in its version; only one that is
for recovery says so. -/
structure Entry where
  header : Header
  kernel : Option Kernel
  body : List Filler
  versioned : ∀ known ∈ kernel, header.title = known.name ++ known.version ++
    if known.recovery then " (recovery mode)".toList else []
  normal : ∀ known ∈ kernel, known.recovery = false →
    saysRecovery header.title = false

/-- A normal entry of exactly the version. -/
def Entry.Boots (entry : Entry) (version : Text) : Prop :=
  ∃ known ∈ entry.kernel, known.version = version ∧ known.recovery = false

structure Submenu where
  header : Header
  entries : List Entry
  /-- Between the header and the entries, and behind them. -/
  opening : List Filler
  closing : List Filler

inductive Item
  | entry (entry : Entry)
  | submenu (submenu : Submenu)

def Item.id : Item → Text
  | .entry single => single.header.id
  | .submenu nested => nested.header.id

def Item.entries : Item → List Entry
  | .entry single => [single]
  | .submenu nested => nested.entries

structure Menu where
  top : List Filler
  items : List Item

def Entry.lines (entry : Entry) : List Text :=
  entry.header.line .menuentry :: entry.body.map Filler.text

def Item.lines : Item → List Text
  | .entry single => single.lines
  | .submenu nested =>
      nested.header.line .submenu :: (nested.opening.map Filler.text ++
        nested.entries.flatMap Entry.lines ++ nested.closing.map Filler.text)

def Menu.lines (menu : Menu) : List Text :=
  menu.top.map Filler.text ++ menu.items.flatMap Item.lines

def Menu.text (menu : Menu) : Text := ['\n'].intercalate menu.lines

/-- The entry that a path leads to: the first item with its id, and in a submenu
the first entry with the second id. -/
def follow (items : List Item) (path : Text) : Option Entry :=
  match cutAt '>' path with
  | none =>
      match items.find? (·.id = path) with
      | some (.entry entry) => some entry
      | _ => none
  | some (submenuID, id) =>
      match items.find? (·.id = submenuID) with
      | some (.submenu submenu) => submenu.entries.find? (·.header.id = id)
      | _ => none

/-- A path leads to a normal entry of the version; there is none only if the menu
has no such entry. -/
def Pinned (items : List Item) (version : Text) : Option Text → Prop
  | some path => ∃ entry, follow items path = some entry ∧ entry.Boots version
  | none => ∀ item ∈ items, ∀ entry ∈ item.entries, ¬ entry.Boots version

/-- The first entry whose title mentions the version is a normal one of exactly
that version; it stands before every submenu or in the first one, and neither its
id nor that of the submenu is `taken` by an earlier item of the same menu. -/
def Pinnable (version : Text) (taken : List Text) : List Item → Prop
  | [] => True
  | .entry entry :: items =>
      if mentions version entry.header.title then
        entry.Boots version ∧ entry.header.id ∉ taken
      else Pinnable version (entry.header.id :: taken) items
  | .submenu submenu :: items =>
      match submenu.entries.find? (mentions version ·.header.title) with
      | some entry =>
          entry.Boots version ∧ submenu.header.id ∉ taken ∧
            ∀ other ∈ submenu.entries.takeWhile
              (!mentions version ·.header.title),
              other.header.id ≠ entry.header.id
      | none => ∀ item ∈ items, ∀ entry ∈ item.entries,
          mentions version entry.header.title = false

section Lines

variable {header : Header} {keyword : Keyword} {title rest before after : Text}
  {version submenuID : Text} {lines : List Text}

theorem quoted?_append
    (plain : ∀ letter ∈ title, letter ≠ '\'' ∧ letter ≠ '\\') :
    quoted? (title ++ '\'' :: rest) = some title := by
  induction title with
  | nil => rfl
  | cons letter title induction =>
      rw [List.forall_mem_cons] at plain
      rw [List.cons_append, quoted?, induction plain.2]
      · rfl
      · exact plain.1.1
      · exact fun backslash _ => plain.1.2 backslash
      · exact fun _ _ backslash _ => plain.1.2 backslash

theorem keyword?_append : keyword? (keyword.text ++ rest) =
    some (keyword, rest) := by
  cases keyword with
  | menuentry => rfl
  | submenu => rfl

theorem Keyword.not_blank {letter : Char} {letters : Text}
    (begins : keyword.text = letter :: letters) : isBlank letter = false := by
  cases keyword <;> obtain ⟨rfl, -⟩ := List.cons.inj begins <;> decide

theorem Header.grubKeyword?_line :
    grubKeyword? (header.line keyword) = some (keyword, header.title) := by
  have blanks : (header.line keyword).dropWhile isBlank = keyword.text ++
      (" '".toList ++ (header.title ++ '\'' ::
        (header.options ++ header.option ++ header.ending))) := by
    rw [Header.line]
    simp only [List.append_assoc]
    rw [List.dropWhile_append_of_pos fun letter member =>
      (header.indented letter member).1]
    cases begins : keyword.text with
    | nil => cases keyword <;> exact absurd begins (by decide)
    | cons letter letters =>
        rw [List.cons_append, List.dropWhile_cons_of_neg
          (by simp [Keyword.not_blank begins])]
        rfl
  have plain : ∀ letter ∈ header.title, letter ≠ '\'' ∧ letter ≠ '\\' := by
    intro letter member
    have marks := header.titled letter member
    simp only [List.mem_cons, not_or] at marks
    exact ⟨marks.1, marks.2.1⟩
  rw [grubKeyword?, blanks, keyword?_append]
  change (quoted? (header.title ++ '\'' :: _)).map _ = _
  rw [quoted?_append plain]
  rfl

theorem newline_not_mem_line : '\n' ∉ header.line keyword := by
  have word : '\n' ∉ keyword.text := by cases keyword <;> decide
  have indent : '\n' ∉ header.indent :=
    fun inside => (header.indented _ inside).2 rfl
  have title : '\n' ∉ header.title :=
    fun inside => header.titled _ inside (by decide)
  have options : '\n' ∉ header.options :=
    fun inside => header.optionsPlain _ inside (by decide)
  have ending : '\n' ∉ header.ending :=
    fun inside => header.endingPlain _ inside (by decide)
  have option : '\n' ∉ header.option := by
    rw [Header.option]
    cases given : header.id? with
    | none => exact List.not_mem_nil
    | some id =>
        have plain : '\n' ∉ id :=
          fun inside => header.idPlain id given _ inside (by decide)
        simp [plain]
  simp [Header.line, word, indent, title, options, ending, option]

/-- A match of the pattern, and what it captures. -/
theorem mem_ways_grubEntryIDRe {input : Text} {way : Regex.Way} :
    way ∈ grubEntryIDRe.ways input ↔ ∃ blanks id,
      (blanks ≠ [] ∧ ∀ letter ∈ blanks, isBlank letter = true) ∧
        (id ≠ [] ∧ ∀ letter ∈ id, letter ≠ '\'') ∧
          input = "$menuentry_id_option".toList ++ (blanks ++ '\'' ::
            (id ++ '\'' :: way.rest)) ∧ way.groups = [id] := by
  obtain ⟨groups, rest⟩ := way
  simp only [grubEntryIDRe, Regex.mem_ways_followed, Regex.mem_ways_text,
    Regex.mem_ways_many, Regex.mem_ways_group]
  constructor
  · rintro ⟨_, _, afterOption, rfl, ⟨rfl, rfl⟩, _, _, afterBlanks, rfl,
      ⟨rfl, blanks, some', allBlank, rfl⟩, _, _, afterQuote, rfl, ⟨rfl, rfl⟩, _,
      _, afterId, rfl, ⟨id, others, rfl, rfl, rfl, run, given, plain, same⟩,
      rfl, rfl⟩
    obtain rfl := List.append_cancel_right same
    refine ⟨blanks, id, ⟨some', allBlank⟩, ⟨given, ?_⟩, ?_, by simp⟩
    · intro letter member
      simpa using plain letter member
    · simp
  · rintro ⟨blanks, id, ⟨some', allBlank⟩, ⟨given, plain⟩, rfl, rfl⟩
    refine ⟨[], [id], _, rfl, ⟨rfl, rfl⟩, [], [id], _, rfl,
      ⟨rfl, blanks, some', allBlank, rfl⟩, [], [id], _, rfl, ⟨rfl, rfl⟩, [id],
      [], _, rfl, ⟨id, [], rfl, rfl, rfl, id, given, ?_, rfl⟩, rfl, rfl⟩
    intro letter member
    simpa using plain letter member

theorem startSubmatch_of_not_dollar {letter : Char} (other : letter ≠ '$') :
    grubEntryIDRe.startSubmatch (letter :: rest) = none := by
  rw [Regex.startSubmatch_eq_none, List.eq_nil_iff_forall_not_mem]
  intro way member
  obtain ⟨blanks, id, -, -, same, -⟩ := mem_ways_grubEntryIDRe.mp member
  exact other (List.cons.inj same).1

theorem findStringSubmatch_append (absent : '$' ∉ before) :
    grubEntryIDRe.findStringSubmatch (before ++ rest) =
      grubEntryIDRe.findStringSubmatch rest := by
  induction before with
  | nil => rfl
  | cons letter before induction =>
      rw [List.mem_cons, not_or] at absent
      rw [← induction absent.2, List.cons_append, Regex.findStringSubmatch,
        List.tails_cons, List.findSome?_cons,
        startSubmatch_of_not_dollar (Ne.symm absent.1)]
      rfl

/-- The id that is read from a header is its own. -/
theorem Header.entryID_line :
    entryID (header.line keyword) header.title = header.id := by
  have word : '$' ∉ keyword.text := by cases keyword <;> decide
  have indent : '$' ∉ header.indent := by
    intro inside
    exact absurd (header.indented _ inside).1 (by decide)
  have title : '$' ∉ header.title :=
    fun inside => header.titled _ inside (by decide)
  have options : '$' ∉ header.options :=
    fun inside => header.optionsPlain _ inside (by decide)
  have ending : '$' ∉ header.ending :=
    fun inside => header.endingPlain _ inside (by decide)
  have front : '$' ∉ header.indent ++ keyword.text ++ " '".toList ++
      header.title ++ ['\''] ++ header.options := by
    simp [indent, word, title, options]
  have found : grubEntryIDRe.findStringSubmatch (header.line keyword) =
      header.id?.map fun id => [id] := by
    rw [Header.line, List.append_assoc, findStringSubmatch_append front,
      Header.option]
    cases given : header.id? with
    | none =>
        have none := @findStringSubmatch_append [] header.ending ending
        rw [List.append_nil] at none
        rw [List.nil_append, none]
        rfl
    | some id =>
        have plain : ∀ letter ∈ id, letter ≠ '\'' := by
          intro letter member quote
          exact header.idPlain id given letter member (by simp [quote])
        have nonempty : id ≠ [] := by
          have named := header.named
          rwa [given] at named
        apply Regex.findStringSubmatch_of_start
        apply Regex.startSubmatch_of_unique
        · exact ⟨⟨[id], header.ending⟩, mem_ways_grubEntryIDRe.mpr
            ⟨[' '], id, ⟨by decide, List.forall_mem_singleton.mpr (by decide)⟩,
              ⟨nonempty, plain⟩, by simp, rfl⟩⟩
        · intro way member
          obtain ⟨blanks, other, ⟨-, blank⟩, ⟨-, otherPlain⟩, same, groups⟩ :=
            mem_ways_grubEntryIDRe.mp member
          have tails : [' '] ++ '\'' :: (id ++ '\'' :: header.ending) =
              blanks ++ '\'' :: (other ++ '\'' :: way.rest) := by
            apply @List.append_cancel_left _ "$menuentry_id_option".toList
            rw [← same]
            simp
          have blankPlain : '\'' ∉ blanks :=
            fun quote => absurd (blank _ quote) (by decide)
          have rests := (separated_inj (by decide) blankPlain tails).2
          have ids := (separated_inj (fun quote => plain _ quote rfl)
            (fun quote => otherPlain _ quote rfl) rests).1
          rw [groups, ids]
  rw [entryID, found, Header.id]
  cases header.id? <;> rfl

/-! The loop goes over the items as it goes over their lines. -/

theorem parseLines_fillers {fillers : List Filler} :
    parseLines version submenuID (fillers.map Filler.text ++ lines) =
      parseLines version submenuID lines := by
  induction fillers with
  | nil => rfl
  | cons filler fillers induction =>
      rw [List.map_cons, List.cons_append, parseLines, filler.plain]
      exact induction

theorem parseLines_entry {entry : Entry} :
    parseLines version submenuID (entry.lines ++ lines) =
      if mentions version entry.header.title then
        some (joinPath submenuID entry.header.id)
      else parseLines version submenuID lines := by
  rw [Entry.lines, List.cons_append, parseLines, Header.grubKeyword?_line]
  simp only [Header.entryID_line]
  split
  · rfl
  · exact parseLines_fillers

theorem parseLines_entries {entries : List Entry} :
    parseLines version submenuID (entries.flatMap Entry.lines ++ lines) =
      match entries.find? (mentions version ·.header.title) with
      | some entry => some (joinPath submenuID entry.header.id)
      | none => parseLines version submenuID lines := by
  induction entries with
  | nil => rfl
  | cons entry entries induction =>
      rw [List.flatMap_cons, List.append_assoc, parseLines_entry,
        List.find?_cons]
      cases mentions version entry.header.title with
      | true => rfl
      | false => exact induction

theorem parseLines_submenu {submenu : Submenu} :
    parseLines version submenuID ((Item.submenu submenu).lines ++ lines) =
      let remembered :=
        if submenuID = [] then submenu.header.id else submenuID
      match submenu.entries.find? (mentions version ·.header.title) with
      | some entry => some (joinPath remembered entry.header.id)
      | none => parseLines version remembered lines := by
  rw [Item.lines, List.cons_append, parseLines, Header.grubKeyword?_line]
  simp only [Header.entryID_line, List.append_assoc]
  rw [parseLines_fillers, parseLines_entries]
  cases submenu.entries.find? (mentions version ·.header.title) with
  | none => exact parseLines_fillers
  | some entry => rfl

end Lines

section Path

variable {version : Text} {items : List Item} {seen : List Entry}
  {taken : List Text}

theorem newline_not_mem_entry {entry : Entry} {line : Text}
    (member : line ∈ entry.lines) : '\n' ∉ line := by
  rcases List.mem_cons.mp member with rfl | inside
  · exact newline_not_mem_line
  · obtain ⟨filler, -, rfl⟩ := List.mem_map.mp inside
    exact filler.oneLine

theorem newline_not_mem_item {item : Item} {line : Text}
    (member : line ∈ item.lines) : '\n' ∉ line := by
  have fillers : ∀ fillers : List Filler, line ∈ fillers.map Filler.text →
      '\n' ∉ line := by
    intro fillers inside
    obtain ⟨filler, -, rfl⟩ := List.mem_map.mp inside
    exact filler.oneLine
  cases item with
  | entry single => exact newline_not_mem_entry member
  | submenu nested =>
      rcases List.mem_cons.mp member with rfl | inside
      · exact newline_not_mem_line
      · simp only [List.mem_append, List.mem_flatMap] at inside
        rcases inside with (inside | ⟨entry, -, inside⟩) | inside
        · exact fillers _ inside
        · exact newline_not_mem_entry inside
        · exact fillers _ inside

theorem parseGrubEntryID_text {menu : Menu} :
    parseGrubEntryID menu.text version =
      parseLines version [] (menu.items.flatMap Item.lines) := by
  have loop : parseLines version [] menu.lines =
      parseLines version [] (menu.items.flatMap Item.lines) := by
    rw [Menu.lines]
    exact parseLines_fillers
  rw [← loop, parseGrubEntryID, Menu.text]
  cases empty : menu.lines with
  | nil => rfl
  | cons first rest =>
      rw [List.splitOn_intercalate]
      · rw [← empty]
        intro line member
        rcases List.mem_append.mp member with inside | inside
        · obtain ⟨filler, -, rfl⟩ := List.mem_map.mp inside
          exact filler.oneLine
        · obtain ⟨item, -, inside⟩ := List.mem_flatMap.mp inside
          exact newline_not_mem_item inside
      · exact List.cons_ne_nil _ _

/-- An entry of the version mentions it. -/
theorem Entry.mentions_of_boots {entry : Entry} (boots : entry.Boots version) :
    mentions version entry.header.title = true := by
  obtain ⟨known, given, rfl, normal⟩ := boots
  have quiet := entry.normal known given normal
  have title := entry.versioned known given
  rw [normal, if_neg Bool.false_ne_true, List.append_nil] at title
  have has : hasPart known.version entry.header.title = true := by
    rw [hasPart_iff, title]
    exact (List.suffix_append _ _).isInfix
  rw [mentions, has, quiet]
  rfl

/-- Once a submenu is remembered its id is put before that of any entry. -/
theorem parseLines_remembered {submenuID : Text} (given : submenuID ≠ []) :
    parseLines version submenuID (items.flatMap Item.lines) =
      ((items.flatMap Item.entries).find?
        (mentions version ·.header.title)).map fun entry =>
          submenuID ++ '>' :: entry.header.id := by
  induction items with
  | nil => rfl
  | cons item items induction =>
      rw [List.flatMap_cons, List.flatMap_cons, List.find?_append]
      cases item with
      | entry single =>
          rw [Item.lines, parseLines_entry, induction, joinPath, if_neg given,
            Item.entries, List.find?_singleton]
          cases mentions version single.header.title <;> rfl
      | submenu nested =>
          rw [parseLines_submenu, if_neg given, Item.entries]
          cases nested.entries.find? (mentions version ·.header.title) with
          | some entry => simp [joinPath, given]
          | none => simpa using induction

theorem joinPath_of_ne {submenuID id : Text} (given : submenuID ≠ []) :
    joinPath submenuID id = submenuID ++ '>' :: id := if_neg given

theorem follow_id {header : Header} :
    follow items header.id =
      match items.find? (·.id = header.id) with
      | some (.entry entry) => some entry
      | _ => none := by
  rw [follow, cutAt_eq_none header.id_unescaped]

theorem follow_path {header : Header} {id : Text} :
    follow items (header.id ++ '>' :: id) =
      match items.find? (·.id = header.id) with
      | some (.submenu submenu) => submenu.entries.find? (·.header.id = id)
      | _ => none := by
  rw [follow, cutAt_append header.id_unescaped]

/-- The first item with an id, behind entries. -/
theorem find?_behind_entries {item : Item} :
    (seen.map Item.entry ++ item :: items).find? (·.id = item.id) =
      ((seen.find? (·.header.id = item.id)).map Item.entry).or
        (some item) := by
  induction seen with
  | nil => simp
  | cons entry seen induction =>
      rw [List.map_cons, List.cons_append, List.find?_cons, List.find?_cons]
      by_cases same : entry.header.id = item.id
      · simp [Item.id, same]
      · have other : decide ((Item.entry entry).id = item.id) = false :=
          decide_eq_false same
        rw [other, induction, decide_eq_false same]

/-- What an entry behind entries is reached by. -/
theorem follow_entry {entry : Entry} :
    follow (seen.map Item.entry ++ .entry entry :: items) entry.header.id =
      (seen.find? fun other : Entry =>
        other.header.id = entry.header.id).or (some entry) := by
  have reached := @find?_behind_entries items seen (.entry entry)
  rw [Item.id] at reached
  rw [follow_id, reached]
  cases seen.find? (·.header.id = entry.header.id) <;> rfl

theorem follow_submenu {submenu : Submenu} {id : Text} :
    follow (seen.map Item.entry ++ .submenu submenu :: items)
        (submenu.header.id ++ '>' :: id) =
      if (seen.find? (·.header.id = submenu.header.id)).isSome then none
      else submenu.entries.find? (·.header.id = id) := by
  have reached := @find?_behind_entries items seen (.submenu submenu)
  rw [Item.id] at reached
  rw [follow_path, reached]
  cases seen.find? (·.header.id = submenu.header.id) <;> rfl

/-- An entry that does not mention the version is none of it. -/
theorem not_boots {entry : Entry}
    (silent : mentions version entry.header.title = false) :
    ¬ entry.Boots version := by
  intro boots
  rw [Entry.mentions_of_boots boots] at silent
  exact Bool.noConfusion silent

theorem pinned_entry {entry : Entry}
    (silent : ∀ other ∈ seen, mentions version other.header.title = false) :
    Pinned (seen.map Item.entry ++ .entry entry :: items) version
        (some entry.header.id) ↔
      entry.Boots version ∧ ∀ other ∈ seen,
        other.header.id ≠ entry.header.id := by
  rw [Pinned, follow_entry]
  cases found : seen.find? (·.header.id = entry.header.id) with
  | none =>
      have fresh : ∀ other ∈ seen, other.header.id ≠ entry.header.id := by
        simpa using found
      simp [and_iff_left fresh]
  | some other =>
      have member := List.mem_of_find?_eq_some found
      have same : other.header.id = entry.header.id := by
        simpa using List.find?_some found
      constructor
      · rintro ⟨reached, here, boots⟩
        obtain rfl : other = reached := Option.some.inj here
        exact absurd boots (not_boots (silent other member))
      · rintro ⟨-, fresh⟩
        exact absurd same (fresh other member)

theorem pinned_submenu {submenu : Submenu} {entry : Entry}
    (found : submenu.entries.find? (mentions version ·.header.title) =
      some entry) :
    Pinned (seen.map Item.entry ++ .submenu submenu :: items) version
        (some (submenu.header.id ++ '>' :: entry.header.id)) ↔
      entry.Boots version ∧
        (∀ other ∈ seen, other.header.id ≠ submenu.header.id) ∧
        ∀ other ∈ submenu.entries.takeWhile
          (!mentions version ·.header.title),
          other.header.id ≠ entry.header.id := by
  obtain ⟨mention, first, rest, split, silent⟩ :=
    List.find?_eq_some_iff_append.mp found
  have silent : ∀ other ∈ first,
      mentions version other.header.title = false := by
    simpa using silent
  have before : submenu.entries.takeWhile
      (!mentions version ·.header.title) = first := by
    rw [split, List.takeWhile_append_of_pos (by simpa using silent),
      List.takeWhile_cons_of_neg (by simp [mention]), List.append_nil]
  rw [Pinned, follow_submenu, before, split]
  cases hidden : seen.find? (·.header.id = submenu.header.id) with
  | some other =>
      have member := List.mem_of_find?_eq_some hidden
      have same : other.header.id = submenu.header.id := by
        simpa using List.find?_some hidden
      constructor
      · rintro ⟨reached, here, -⟩
        exact absurd here (by simp)
      · rintro ⟨-, fresh, -⟩
        exact absurd same (fresh other member)
  | none =>
      have fresh : ∀ other ∈ seen, other.header.id ≠ submenu.header.id := by
        simpa using hidden
      rw [Option.isSome_none, if_neg Bool.false_ne_true, List.find?_append]
      cases earlier : first.find? (·.header.id = entry.header.id) with
      | none =>
          have own : ∀ other ∈ first, other.header.id ≠ entry.header.id := by
            simpa using earlier
          rw [Option.none_or, List.find?_cons_of_pos (by simp)]
          constructor
          · rintro ⟨reached, here, boots⟩
            obtain rfl : entry = reached := Option.some.inj here
            exact ⟨boots, fresh, own⟩
          · rintro ⟨boots, -, -⟩
            exact ⟨entry, rfl, boots⟩
      | some other =>
          have member := List.mem_of_find?_eq_some earlier
          have same : other.header.id = entry.header.id := by
            simpa using List.find?_some earlier
          constructor
          · rintro ⟨reached, here, boots⟩
            obtain rfl : other = reached := Option.some.inj here
            exact absurd boots (not_boots (silent other member))
          · rintro ⟨-, -, own⟩
            exact absurd same (own other member)

/-- Behind a submenu that is remembered and does not have the version. -/
theorem pinned_closed {submenu : Submenu}
    (silent : ∀ other ∈ seen, mentions version other.header.title = false)
    (absent : submenu.entries.find? (mentions version ·.header.title) = none) :
    Pinned (seen.map Item.entry ++ .submenu submenu :: items) version
        (parseLines version submenu.header.id (items.flatMap Item.lines)) ↔
      ∀ item ∈ items, ∀ entry ∈ item.entries,
        mentions version entry.header.title = false := by
  have inside : ∀ entry ∈ submenu.entries,
      mentions version entry.header.title = false := by
    simpa using absent
  rw [parseLines_remembered submenu.header.id_ne_nil]
  cases found : (items.flatMap Item.entries).find?
    (mentions version ·.header.title) with
  | none =>
      have later : ∀ item ∈ items, ∀ entry ∈ item.entries,
          mentions version entry.header.title = false := by
        intro item member entry listed
        have none := List.find?_eq_none.mp found entry
          (List.mem_flatMap.mpr ⟨item, member, listed⟩)
        simpa using none
      refine iff_of_true ?_ later
      intro item member entry listed
      apply not_boots
      rcases List.mem_append.mp member with before | after
      · obtain ⟨other, known, rfl⟩ := List.mem_map.mp before
        obtain rfl := List.mem_singleton.mp listed
        exact silent entry known
      · rcases List.mem_cons.mp after with rfl | behind
        · exact inside entry listed
        · exact later item behind entry listed
  | some entry =>
      apply iff_of_false
      · rintro ⟨reached, here, boots⟩
        rw [follow_submenu] at here
        split at here
        · exact absurd here (by simp)
        · exact not_boots (inside reached (List.mem_of_find?_eq_some here)) boots
      · intro later
        obtain ⟨item, member, listed⟩ :=
          List.mem_flatMap.mp (List.mem_of_find?_eq_some found)
        have mention := List.find?_some found
        rw [later item member entry listed] at mention
        exact Bool.noConfusion mention

/-- With earlier entries that do not mention the version. -/
theorem pinned_behind_entries
    (silent : ∀ other ∈ seen, mentions version other.header.title = false)
    (known : ∀ id, id ∈ taken ↔ ∃ other ∈ seen, other.header.id = id) :
    Pinned (seen.map Item.entry ++ items) version
        (parseLines version [] (items.flatMap Item.lines)) ↔
      Pinnable version taken items := by
  induction items generalizing seen taken with
  | nil =>
      rw [List.flatMap_nil, parseLines, List.append_nil, Pinned, Pinnable,
        iff_true]
      intro item member entry inside
      obtain ⟨other, listed, rfl⟩ := List.mem_map.mp member
      obtain rfl := List.mem_singleton.mp inside
      exact not_boots (silent entry listed)
  | cons item items induction =>
      have free : ∀ id, (∀ other ∈ seen, other.header.id ≠ id) ↔
          id ∉ taken := by
        intro id
        rw [known]
        simp
      cases item with
      | entry single =>
          rw [List.flatMap_cons, Item.lines, parseLines_entry, Pinnable]
          cases mention : mentions version single.header.title with
          | true =>
              rw [if_pos rfl, if_pos rfl, joinPath, if_pos rfl,
                pinned_entry silent, free]
          | false =>
              rw [if_neg Bool.false_ne_true, if_neg Bool.false_ne_true]
              have later := @induction (seen ++ [single])
                (single.header.id :: taken)
                (by simpa [or_imp, forall_and] using ⟨silent, mention⟩)
                (by
                  intro id
                  rw [List.mem_cons, known]
                  simp only [List.mem_append, List.mem_singleton, or_and_right,
                    exists_or, exists_eq_left]
                  rw [or_comm, eq_comm])
              rw [List.map_append, List.append_assoc] at later
              exact later
      | submenu nested =>
          rw [List.flatMap_cons, parseLines_submenu, if_pos rfl, Pinnable]
          cases found : nested.entries.find? (mentions version ·.header.title) with
          | some entry =>
              dsimp only
              rw [joinPath_of_ne nested.header.id_ne_nil, pinned_submenu found,
                free]
          | none =>
              exact pinned_closed silent found

end Path

/-- The path of the search is right exactly when the first title that mentions the
version is the version's own, in the first submenu or before it, and its ids are
not taken. -/
theorem grubEntry_pinned_iff (menu : Menu) (version : Text) :
    Pinned menu.items version (parseGrubEntryID menu.text version) ↔
      Pinnable version [] menu.items := by
  rw [parseGrubEntryID_text]
  exact @pinned_behind_entries version menu.items [] [] (by simp) (by simp)

/-- The entry of a kernel without options. -/
def plainEntry (name version : Text)
    (title : (name ++ version).all
      (fun letter => letter ∉ ['\'', '\\', '$', '\n', '>']) = true)
    (named : name ++ version ≠ [])
    (normal : saysRecovery (name ++ version) = false) : Entry where
  header := {
    indent := []
    title := name ++ version
    options := []
    id? := none
    ending := []
    indented := by simp
    titled := fun letter member mark =>
      of_decide_eq_true (List.all_eq_true.mp title letter member)
        (by simp only [List.mem_cons] at mark ⊢; tauto)
    optionsPlain := by simp
    idPlain := by simp
    endingPlain := by simp
    named
    unescaped := fun member =>
      of_decide_eq_true (List.all_eq_true.mp title _ member) (by simp) }
  kernel := some ⟨name, version, false⟩
  body := []
  versioned := by
    rintro known ⟨⟩
    simp
  normal := by
    rintro known - -
    exact normal

/-- Kernel 6.1.10 stands before kernel 6.1.1. -/
def neighbours : Menu where
  top := []
  items := [
    .entry (plainEntry "Void Linux, with Linux ".toList "6.1.10".toList
      (by decide) (by decide) (by decide +kernel)),
    .entry (plainEntry "Void Linux, with Linux ".toList "6.1.1".toList
      (by decide) (by decide) (by decide +kernel))]

theorem shorter_version_unpinned :
    ¬ ∀ (menu : Menu) (version : Text),
      Pinned menu.items version (parseGrubEntryID menu.text version) := by
  intro claim
  have pinned := claim neighbours "6.1.1".toList
  rw [parseGrubEntryID_text] at pinned
  have pinnable := (@pinned_behind_entries _ neighbours.items [] []
    (by simp) (by simp)).mp pinned
  have mention : mentions "6.1.1".toList
      ("Void Linux, with Linux ".toList ++ "6.1.10".toList) = true := by
    decide +kernel
  rw [neighbours, Pinnable, plainEntry, if_pos mention] at pinnable
  obtain ⟨⟨known, given, same, -⟩, -⟩ := pinnable
  obtain rfl := Option.some.inj given
  exact absurd same (by decide)

end VpnUi.BackEnd.Bootloader
