import VpnUi.Foundation.JsonReader

namespace VpnUi.Foundation.JsonSyntax

open Json (hexDigit escapeLetter)

/-! The compact form of a text, as the encoder embeds it: without blanks, and with
the letters escaped that HTML knows. -/

theorem hexValue?_hexDigit {number : Nat} :
    hexValue? (hexDigit number) = some (number % 16) := by
  have digits : ∀ digit : Fin 16,
      hexValue? (Nat.digitChar digit) = some digit.val := by
    decide
  exact digits ⟨number % 16, Nat.mod_lt _ (by decide)⟩

/-- The four digits of a code unit. -/
theorem codeUnit?_hexDigits {number : Nat} (small : number < 65536) :
    codeUnit? [hexDigit (number / 4096), hexDigit (number / 256),
      hexDigit (number / 16), hexDigit number] = some number := by
  simp only [codeUnit?, List.foldlM_cons, List.foldlM_nil, hexValue?_hexDigit,
    Option.bind_eq_bind, Option.bind_some, Option.pure_def, Option.some.injEq]
  omega

def unitOf (number : Nat) (small : number < 65536) : Letter :=
  .unit (hexDigit (number / 4096)) (hexDigit (number / 256))
    (hexDigit (number / 16)) (hexDigit number)
    (by rw [codeUnit?_hexDigits small]; rfl)

theorem code_unitOf {number : Nat} (small : number < 65536) :
    (unitOf number small).code = number := by
  unfold unitOf Letter.code
  simp only [codeUnit?_hexDigits small, Option.get_some]

/-- What HTML or JavaScript could take for a mark of its own. -/
def isHtmlMark (letter : Char) : Bool :=
  letter ∈ ['<', '>', '&', '\u2028', '\u2029']

theorem toNat_lt_of_isHtmlMark {letter : Char}
    (mark : isHtmlMark letter = true) : letter.toNat < 65536 := by
  have marks : ['<', '>', '&', '\u2028', '\u2029'].all
      (·.toNat < 65536) = true := by
    decide
  exact of_decide_eq_true
    (List.all_eq_true.mp marks letter (of_decide_eq_true mark))

def Letter.compact : Letter → Letter
  | .plain letter bare =>
      if mark : isHtmlMark letter = true then
        unitOf letter.toNat (toNat_lt_of_isHtmlMark mark)
      else .plain letter bare
  | letter => letter

def Quoted.compact (string : Quoted) : Quoted :=
  ⟨string.letters.map Letter.compact⟩

def compactLabel : (shape : Shape) → shape.Label → shape.Label
  | .array, _ => ()
  | .object, key => Key.mk .empty key.string.compact .empty

mutual

def Node.compact : Node → Node
  | .scalar scalar => .scalar scalar
  | .string string => .string string.compact
  | .hollow shape _ => .hollow shape .empty
  | .filled shape entries => .filled shape entries.compact

def Entries.compact {shape : Shape} : Entries shape → Entries shape
  | .one label _ value _ =>
      .one (compactLabel shape label) .empty value.compact .empty
  | .more label _ value _ entries =>
      .more (compactLabel shape label) .empty value.compact .empty
        entries.compact

end

/-- `Marshal` of a text that is embedded as it is. -/
def compact? (text : Text) : Option Text :=
  (unmarshal? text).map fun node => node.compact.text

section Compact

variable {shape : Shape} {text : Text} {node : Node}

theorem Letter.code_compact (letter : Letter) :
    letter.compact.code = letter.code := by
  cases letter with
  | plain letter bare =>
      rw [compact]
      split_ifs
      · exact code_unitOf _
      · rfl
  | escaped letter known => rfl
  | unit a b c d hex => rfl

theorem Quoted.value_compact (string : Quoted) :
    string.compact.value = string.value := by
  rw [value, compact, List.map_map]
  exact congrArg fromUnits (List.map_congr_left fun letter _ =>
    letter.code_compact)

theorem collect_compact {entries : List (shape.Label × Json)} :
    collect shape (entries.map (Prod.map (compactLabel shape) id)) =
      collect shape entries := by
  cases shape with
  | array =>
      rw [collect, List.map_map]
      rfl
  | object =>
      rw [collect, List.map_map]
      refine congrArg Json.obj (List.map_congr_left fun entry _ => ?_)
      exact congrArg (fun name => (String.ofList name, entry.2))
        (Quoted.value_compact _)

mutual

theorem Node.json_compact : ∀ node : Node, node.compact.json = node.json
  | .scalar scalar => rfl
  | .string string => by
      rw [Node.compact, Node.json, Node.json, Quoted.value_compact]
  | .hollow shape inside => rfl
  | .filled shape entries => by
      rw [Node.compact, Node.json, Node.json, entries.json_compact,
        collect_compact]

theorem Entries.json_compact : ∀ {shape : Shape} (entries : Entries shape),
    entries.compact.json =
      entries.json.map (Prod.map (compactLabel shape) id)
  | _, .one label before value after => by
      rw [Entries.compact, Entries.json, Entries.json, value.json_compact]
      rfl
  | _, .more label before value after entries => by
      rw [Entries.compact, Entries.json, Entries.json, value.json_compact,
        entries.json_compact]
      rfl

end

theorem Entries.list_compact : ∀ {shape : Shape} (entries : Entries shape),
    entries.compact.list =
      entries.list.map (Prod.map (compactLabel shape) Node.compact)
  | _, .one label before value after => rfl
  | _, .more label before value after entries => by
      rw [compact, list, list, entries.list_compact]
      rfl

theorem compact?_of_spells (spells : Spells text node) :
    compact? text =
      if node.depth ≤ maxNestingDepth then some node.compact.text else none := by
  rw [compact?, unmarshal?_of_spells spells]
  split_ifs <;> rfl

/-- A letter as the encoder writes it. -/
theorem exists_letter (letter : Char) :
    ∃ written : Letter, written.text = escapeLetter letter := by
  unfold escapeLetter
  split
  case h_8 quote backslash _ _ _ _ _ =>
    dsimp only
    split
    · next special =>
        have small : letter.toNat < 65536 := by
          rcases special with low | mark | line | paragraph
          · omega
          · have marks : ['<', '>', '&'].all (·.toNat < 65536) = true := by
              decide
            exact of_decide_eq_true (List.all_eq_true.mp marks letter mark)
          · omega
          · omega
        exact ⟨unitOf letter.toNat small, rfl⟩
    · next ordinary =>
        refine ⟨.plain letter ?_, rfl⟩
        have visible : 32 ≤ letter.toNat :=
          Nat.le_of_not_lt fun low => ordinary (.inl low)
        simp only [isPlain, Bool.and_eq_true, decide_eq_true_eq]
        exact ⟨⟨quote, backslash⟩, visible⟩
  · exact ⟨.escaped '"' rfl, rfl⟩
  · exact ⟨.escaped '\\' rfl, rfl⟩
  · exact ⟨.escaped 'n' rfl, rfl⟩
  · exact ⟨.escaped 'r' rfl, rfl⟩
  · exact ⟨.escaped 't' rfl, rfl⟩
  · exact ⟨.escaped 'b' rfl, rfl⟩
  · exact ⟨.escaped 'f' rfl, rfl⟩

/-- What the encoder writes for a string is one. -/
theorem exists_quoted (string : String) :
    ∃ written : Quoted, written.text = Json.quoted string := by
  have letters : ∀ letters : Text, ∃ written : List Letter,
      written.flatMap Letter.text = letters.flatMap escapeLetter := by
    intro letters
    induction letters with
    | nil => exact ⟨[], rfl⟩
    | cons letter letters induction =>
        obtain ⟨first, one⟩ := exists_letter letter
        obtain ⟨rest, others⟩ := induction
        refine ⟨first :: rest, ?_⟩
        rw [List.flatMap_cons, List.flatMap_cons, one, others]
  obtain ⟨written, same⟩ := letters string.toList
  refine ⟨⟨written⟩, ?_⟩
  rw [Quoted.text, same]
  rfl

end Compact

/-! Strings of letters that stand for themselves. -/

def Quoted.ofPlain (text : Text) (plain : text.all isPlain = true) : Quoted :=
  ⟨text.pmap Letter.plain (List.all_eq_true.mp plain)⟩

theorem not_surrogate (letter : Char) :
    isHighSurrogate letter.toNat = false ∧
      isLowSurrogate letter.toNat = false := by
  have valid := letter.valid
  simp only [UInt32.isValidChar, Nat.isValidChar] at valid
  simp only [isHighSurrogate, isLowSurrogate, decide_eq_false_iff_not]
  change ¬ (_ ≤ letter.val.toNat ∧ letter.val.toNat < _) ∧
    ¬ (_ ≤ letter.val.toNat ∧ letter.val.toNat < _)
  omega

theorem unitLetter_toNat (letter : Char) : unitLetter letter.toNat = letter := by
  rw [unitLetter, (not_surrogate letter).1, (not_surrogate letter).2,
    Bool.or_false, if_neg Bool.false_ne_true, Char.ofNat_toNat]

theorem fromUnits_toNat : ∀ text : Text, fromUnits (text.map Char.toNat) = text
  | [] => rfl
  | [letter] => congrArg (fun letter => [letter]) (unitLetter_toNat letter)
  | letter :: next :: rest => by
      rw [List.map_cons, List.map_cons, fromUnits, (not_surrogate letter).1,
        Bool.false_and, if_neg Bool.false_ne_true, unitLetter_toNat]
      exact congrArg (letter :: ·) (fromUnits_toNat (next :: rest))

theorem Quoted.text_ofPlain {text : Text} (plain : text.all isPlain = true) :
    (ofPlain text plain).text = '"' :: (text ++ ['"']) := by
  have letters : ∀ (text : Text)
      (plain : ∀ letter ∈ text, isPlain letter = true),
      (text.pmap Letter.plain plain).flatMap Letter.text = text := by
    intro text plain
    induction text with
    | nil => rfl
    | cons letter text induction =>
        rw [List.pmap_cons, List.flatMap_cons, induction]
        rfl
  rw [Quoted.text, ofPlain, letters]

theorem Quoted.value_ofPlain {text : Text} (plain : text.all isPlain = true) :
    (ofPlain text plain).value = text := by
  rw [Quoted.value, ofPlain, List.map_pmap]
  exact (congrArg fromUnits (List.pmap_eq_map _)).trans (fromUnits_toNat text)

/-! Objects as the decoder reads them into a map: of the fields with one key the
last counts. -/

def fieldOf (entry : Shape.object.Label × Node) : Text × Node :=
  (Quoted.value (Key.string entry.1), entry.2)

/-- The fields of an object; null has none. -/
def Node.members? : Node → Option (List (Text × Node))
  | .scalar word => if word.text = "null".toList then some [] else none
  | .string _ => none
  | .hollow .array _ => none
  | .hollow .object _ => some []
  | .filled .array _ => none
  | .filled .object entries => some (entries.list.map fieldOf)

def unmarshalMap? (text : Text) : Option (List (Text × Text)) := do
  let node ← unmarshal? text
  let members ← node.members?
  some (members.map fun (key, value) => (key, value.text))

/-- Null leaves a string as it was. -/
def unmarshalString? (text : Text) : Option Text :=
  match unmarshal? text with
  | some (.string string) => some string.value
  | some (.scalar word) =>
      if word.text = "null".toList then some [] else none
  | _ => none

theorem Node.members?_compact (node : Node) :
    node.compact.members? =
      node.members?.map (List.map (Prod.map id Node.compact)) := by
  cases node with
  | scalar word =>
      rw [compact, members?]
      split_ifs <;> rfl
  | string quoted => rfl
  | hollow shape inside => cases shape <;> rfl
  | filled shape entries =>
      cases shape with
      | array => rfl
      | object =>
          rw [compact, members?, members?, entries.list_compact,
            Option.map_some, List.map_map, List.map_map]
          refine congrArg some (List.map_congr_left fun entry _ => ?_)
          exact congrArg (fun name => (name, entry.2.compact))
            (Quoted.value_compact _)

/-- The keys of an object can be told from its value. -/
theorem mem_of_normal_eq {object other : JsonObject} {key : String}
    (same : (Json.obj object).normal = (Json.obj other).normal)
    (member : key ∈ object.map Prod.fst) : key ∈ other.map Prod.fst := by
  have names : ∀ fields : JsonObject,
      key ∈ (JsonObject.sorted (normalFields fields)).map Prod.fst ↔
        key ∈ fields.map Prod.fst := by
    intro fields
    have unchanged : (normalFields fields).map Prod.fst =
        fields.map Prod.fst := by
      rw [normalFields_eq_map, List.map_map]
      rfl
    have named : (JsonObject.sorted (normalFields fields)).map Prod.fst =
        (JsonObject.keys (normalFields fields)).insertionSort (· ≤ ·) := by
      rw [JsonObject.sorted, List.map_map]
      exact List.map_id _
    rw [named, List.mem_insertionSort, JsonObject.keys, List.mem_eraseDups,
      unchanged]
  rw [Json.normal, Json.normal] at same
  rw [← names, ← Json.obj.inj same, names]
  exact member

theorem Entries.json_eq_map : ∀ {shape : Shape} (entries : Entries shape),
    entries.json = entries.list.map (Prod.map id Node.json)
  | _, .one label before value after => rfl
  | _, .more label before value after entries => by
      rw [Entries.json, list, entries.json_eq_map]
      rfl

/-- Fields are those of a written object. -/
theorem Node.exists_entries {node : Node} {fields : List (Text × Node)}
    (members : node.members? = some fields) (given : fields ≠ []) :
    ∃ entries, node = .filled .object entries ∧
      fields = entries.list.map fieldOf := by
  cases node with
  | scalar word =>
      rw [members?] at members
      split_ifs at members
      exact absurd (Option.some.inj members).symm given
  | string quoted => exact absurd members (by simp [members?])
  | hollow shape inside =>
      cases shape with
      | array => exact absurd members (by simp [members?])
      | object =>
          rw [members?] at members
          exact absurd (Option.some.inj members).symm given
  | filled shape entries =>
      cases shape with
      | array => exact absurd members (by simp [members?])
      | object =>
          rw [members?] at members
          exact ⟨entries, rfl, (Option.some.inj members).symm⟩

/-- The value of an object, by its fields. -/
theorem Node.json_eq_obj {node : Node} {fields : List (Text × Node)}
    (members : node.members? = some fields) (given : fields ≠ []) :
    node.json = .obj (fields.map (Prod.map String.ofList Node.json)) := by
  obtain ⟨entries, rfl, rfl⟩ := node.exists_entries members given
  rw [Node.json, entries.json_eq_map, collect, List.map_map, List.map_map]
  rfl

end VpnUi.Foundation.JsonSyntax
