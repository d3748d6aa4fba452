import Mathlib.Data.List.TakeWhile
import VpnUi.Foundation.JsonSyntax

namespace VpnUi.Foundation.JsonSyntax

/-! The decoder's reading of a text.  It reads every written value back, up to the
depth that it descends to, and so a text is written in one way only. -/

def skipSpace (text : Text) : Text := text.dropWhile isBlank

/-- The blanks that a text begins with. -/
def blankOf (text : Text) : Blank :=
  ⟨text.takeWhile isBlank, fun _ member => List.mem_takeWhile_imp member⟩

/-- A string after its opening quote. -/
def letters? : Text → Option (List Letter × Text)
  | [] => none
  | '"' :: rest => some ([], rest)
  | '\\' :: 'u' :: a :: b :: c :: d :: rest =>
      if hex : (codeUnit? [a, b, c, d]).isSome = true then
        (letters? rest).map fun (letters, rest) =>
          (.unit a b c d hex :: letters, rest)
      else none
  | '\\' :: letter :: rest =>
      if known : (simpleEscape? letter).isSome = true then
        (letters? rest).map fun (letters, rest) =>
          (.escaped letter known :: letters, rest)
      else none
  | letter :: rest =>
      if bare : isPlain letter = true then
        (letters? rest).map fun (letters, rest) =>
          (.plain letter bare :: letters, rest)
      else none

def string? : Text → Option (Quoted × Text)
  | '"' :: rest => (letters? rest).map fun (letters, rest) => (⟨letters⟩, rest)
  | _ => none

/-- A letter of a number or a word. -/
def isPart (letter : Char) : Bool :=
  letter.isAlphanum || letter = '+' || letter = '-' || letter = '.'

def scalar? (text : Text) : Option (Scalar × Text) :=
  let word := text.takeWhile isPart
  if scalar : (words.contains word || isNumber word) = true then
    some (⟨word, scalar⟩, text.dropWhile isPart)
  else none

def leaf? (text : Text) : Option (Node × Text) :=
  match string? text with
  | some (string, rest) => some (.string string, rest)
  | none => (scalar? text).map fun (scalar, rest) => (.scalar scalar, rest)

def label? : (shape : Shape) → Text → Option (shape.Label × Text)
  | .array, text => some ((), text)
  | .object, text => do
      let (string, rest) ← string? (skipSpace text)
      match skipSpace rest with
      | ':' :: behind => some (⟨blankOf text, string, blankOf rest⟩, behind)
      | _ => none

/-- The entries up to the closing sign, each with a value that `value?` reads. -/
def entries? (value? : Text → Option (Node × Text)) (shape : Shape) :
    Nat → Text → Option (Entries shape × Text)
  | 0, _ => none
  | bound + 1, text => do
      let (label, text) ← label? shape text
      let (value, rest) ← value? (skipSpace text)
      match skipSpace rest with
      | [] => none
      | sign :: behind =>
          if sign = ',' then
            (entries? value? shape bound behind).map fun (entries, behind) =>
              (.more label (blankOf text) value (blankOf rest) entries, behind)
          else if sign = shape.closing then
            some (.one label (blankOf text) value (blankOf rest), behind)
          else none

/-- An array or an object after its opening sign. -/
def container? (value? : Text → Option (Node × Text)) (shape : Shape)
    (text : Text) : Option (Node × Text) :=
  match skipSpace text with
  | [] => none
  | sign :: behind =>
      if sign = shape.closing then some (.hollow shape (blankOf text), behind)
      else
        (entries? value? shape text.length text).map fun (entries, rest) =>
          (.filled shape entries, rest)

def shape? : Text → Option (Shape × Text)
  | '[' :: rest => some (.array, rest)
  | '\x7b' :: rest => some (.object, rest)
  | _ => none

/-- A value that nests no deeper than a bound. -/
def value? : Nat → Text → Option (Node × Text)
  | 0, text => leaf? text
  | depth + 1, text =>
      match shape? text with
      | some (shape, rest) => container? (value? depth) shape rest
      | none => leaf? text

/-- The value that a text is, if it nests no deeper than a bound. -/
def readText? (depth : Nat) (text : Text) : Option Node :=
  match value? depth (skipSpace text) with
  | some (node, rest) => if skipSpace rest = [] then some node else none
  | none => none

def maxNestingDepth : Nat := 10000

def unmarshal? (text : Text) : Option Node := readText? maxNestingDepth text

section Reading

variable {text rest : Text} {shape : Shape} {depth : Nat}

/-- Blanks are skipped up to a letter that is none. -/
def Bare (text : Text) : Prop := ∀ letter ∈ text.head?, isBlank letter = false

theorem skipSpace_append {blank : Blank} (bare : Bare text) :
    skipSpace (blank.letters ++ text) = text := by
  rw [skipSpace, List.dropWhile_append_of_pos blank.blank]
  cases text with
  | nil => rfl
  | cons letter text =>
      exact List.dropWhile_cons_of_neg (by simp [bare letter rfl])

theorem blankOf_append {blank : Blank} (bare : Bare text) :
    blankOf (blank.letters ++ text) = blank := by
  ext1
  change (blank.letters ++ text).takeWhile isBlank = blank.letters
  rw [List.takeWhile_append_of_pos blank.blank]
  cases text with
  | nil => exact List.append_nil _
  | cons letter text =>
      rw [List.takeWhile_cons_of_neg (by simp [bare letter rfl]),
        List.append_nil]

theorem letters?_append {letters : List Letter} :
    letters? (letters.flatMap Letter.text ++ '"' :: rest) =
      some (letters, rest) := by
  induction letters with
  | nil => rfl
  | cons letter letters induction =>
      rw [List.flatMap_cons, List.append_assoc]
      cases letter with
      | plain letter bare =>
          have marks := bare
          simp only [isPlain, Bool.and_eq_true, decide_eq_true_eq] at marks
          rw [Letter.text, List.singleton_append, letters?, dif_pos bare,
            induction]
          · rfl
          · exact marks.1.1
          · exact fun _ _ _ _ _ slash _ => marks.1.2 slash
          · exact fun _ _ slash _ => marks.1.2 slash
      | escaped letter known =>
          change letters? ('\\' :: letter ::
            (letters.flatMap Letter.text ++ '"' :: rest)) = _
          rw [letters?, dif_pos known, induction]
          · rfl
          · rintro a b c d after rfl -
            exact absurd known (by decide)
      | unit a b c d hex =>
          change letters? ('\\' :: 'u' :: a :: b :: c :: d ::
            (letters.flatMap Letter.text ++ '"' :: rest)) = _
          rw [letters?, dif_pos hex, induction]
          rfl

theorem string?_append {string : Quoted} :
    string? (string.text ++ rest) = some (string, rest) := by
  rw [Quoted.text, List.cons_append, List.append_assoc, string?]
  exact congrArg _ letters?_append

theorem NumberState.isPart_of_begin? {letter : Char} {state : NumberState}
    (begins : begin? letter = some state) : isPart letter = true := by
  unfold begin? at begins
  split_ifs at begins with minus zero digit
  · simp [isPart, minus]
  · simp [isPart, zero]
  · simp [isPart, Char.isAlphanum, digit]

theorem NumberState.isPart_of_step? {letter : Char} {state next : NumberState}
    (steps : step? state letter = some next) : isPart letter = true := by
  have digits (digit : letter.isDigit = true) : isPart letter = true := by
    simp [isPart, Char.isAlphanum, digit]
  have marks := List.all_eq_true.mp
    (by decide : ['0', '.', 'e', 'E', '+', '-'].all isPart = true)
  cases state <;> simp only [step?, whole?, power?] at steps <;>
    split_ifs at steps <;> grind

theorem isPart_of_foldlM {state final : NumberState} {letters : Text}
    (steps : letters.foldlM NumberState.step? state = some final) :
    ∀ letter ∈ letters, isPart letter = true := by
  induction letters generalizing state with
  | nil => exact List.forall_mem_nil _
  | cons letter letters induction =>
      rw [List.foldlM_cons, Option.bind_eq_bind, Option.bind_eq_some_iff]
        at steps
      obtain ⟨next, step, steps⟩ := steps
      rw [List.forall_mem_cons]
      exact ⟨NumberState.isPart_of_step? step, induction steps⟩

theorem Scalar.isPart_of_mem {scalar : Scalar} {letter : Char}
    (member : letter ∈ scalar.text) : isPart letter = true := by
  rcases Bool.or_eq_true_iff.mp scalar.scalar with word | number
  · have parts : words.all (·.all isPart) = true := by decide
    exact List.all_eq_true.mp (List.all_eq_true.mp parts _
      (List.contains_iff_mem.mp word)) letter member
  · cases given : scalar.text with
    | nil => rw [given] at member; exact absurd member List.not_mem_nil
    | cons first letters =>
        rw [given, isNumber, Option.any_eq_true] at number
        obtain ⟨final, reached, -⟩ := number
        obtain ⟨state, begins, steps⟩ := Option.bind_eq_some_iff.mp reached
        rw [given] at member
        rcases List.mem_cons.mp member with rfl | inside
        · exact NumberState.isPart_of_begin? begins
        · exact isPart_of_foldlM steps letter inside

theorem Scalar.text_ne_nil {scalar : Scalar} : scalar.text ≠ [] := by
  intro empty
  have scalar := scalar.scalar
  rw [empty] at scalar
  exact absurd scalar (by decide)

/-- No word goes on into a text. -/
def Ends (text : Text) : Prop := ∀ letter ∈ text.head?, isPart letter = false

theorem scalar?_append {scalar : Scalar} (ends : Ends rest) :
    scalar? (scalar.text ++ rest) = some (scalar, rest) := by
  have parts : ∀ letter ∈ scalar.text, isPart letter = true :=
    fun _ => Scalar.isPart_of_mem
  have word : (scalar.text ++ rest).takeWhile isPart = scalar.text := by
    rw [List.takeWhile_append_of_pos parts]
    cases rest with
    | nil => exact List.append_nil _
    | cons letter rest =>
        rw [List.takeWhile_cons_of_neg (by simp [ends letter rfl]),
          List.append_nil]
  have behind : (scalar.text ++ rest).dropWhile isPart = rest := by
    rw [List.dropWhile_append_of_pos parts]
    cases rest with
    | nil => rfl
    | cons letter rest =>
        exact List.dropWhile_cons_of_neg (by simp [ends letter rfl])
  unfold scalar?
  simp only [word, behind, scalar.scalar, dif_pos]

theorem leaf?_string {string : Quoted} :
    leaf? (string.text ++ rest) = some (.string string, rest) := by
  rw [leaf?, string?_append]

theorem leaf?_scalar {scalar : Scalar} (ends : Ends rest) :
    leaf? (scalar.text ++ rest) = some (.scalar scalar, rest) := by
  have noString : string? (scalar.text ++ rest) = none := by
    cases given : scalar.text with
    | nil => exact absurd given Scalar.text_ne_nil
    | cons letter letters =>
        have part : isPart letter = true :=
          Scalar.isPart_of_mem (by rw [given]; exact List.mem_cons_self)
        rw [List.cons_append, string?]
        rintro _ same
        rw [(List.cons.inj same).1] at part
        exact absurd part (by decide)
  rw [leaf?, noString, scalar?_append ends]
  rfl

theorem not_isPart_of_isBlank {letter : Char} (blank : isBlank letter = true) :
    isPart letter = false := by
  simp only [isBlank, Bool.or_eq_true, decide_eq_true_eq] at blank
  rcases blank with ((rfl | rfl) | rfl) | rfl <;> decide

theorem ends_append {blank : Blank} (ends : Ends rest) :
    Ends (blank.letters ++ rest) := by
  cases given : blank.letters with
  | nil => exact ends
  | cons letter letters =>
      rintro _ ⟨⟩
      exact not_isPart_of_isBlank
        (blank.blank letter (by rw [given]; exact List.mem_cons_self))

theorem ends_closing : Ends (shape.closing :: rest) := by
  rintro _ ⟨⟩
  cases shape <;> decide

theorem Node.exists_head (node : Node) : ∃ letter letters,
    node.text = letter :: letters ∧ isBlank letter = false ∧
      ∀ shape : Shape, letter ≠ shape.closing := by
  cases node with
  | scalar scalar =>
      cases given : scalar.text with
      | nil => exact absurd given Scalar.text_ne_nil
      | cons letter letters =>
          have part : isPart letter = true :=
            Scalar.isPart_of_mem (by rw [given]; exact List.mem_cons_self)
          refine ⟨letter, letters, given, ?_, ?_⟩
          · apply Bool.eq_false_iff.mpr
            intro blank
            rw [not_isPart_of_isBlank blank] at part
            exact Bool.noConfusion part
          · rintro shape rfl
            cases shape <;> exact absurd part (by decide)
  | string string =>
      refine ⟨'"', _, rfl, by decide, fun shape => ?_⟩
      cases shape <;> decide
  | hollow opened inside =>
      refine ⟨opened.opening, _, rfl, ?_, fun shape => ?_⟩
      · cases opened <;> decide
      · cases opened <;> cases shape <;> decide
  | filled opened entries =>
      refine ⟨opened.opening, _, rfl, ?_, fun shape => ?_⟩
      · cases opened <;> decide
      · cases opened <;> cases shape <;> decide

theorem Node.bare_text (node : Node) : Bare (node.text ++ rest) := by
  obtain ⟨letter, letters, given, bare, -⟩ := node.exists_head
  rw [given]
  rintro _ ⟨⟩
  exact bare

theorem bare_closing : Bare (shape.closing :: rest) := by
  rintro _ ⟨⟩
  cases shape <;> decide

theorem labelText_append {key : Key} :
    labelText .object key ++ rest = key.before.letters ++ (key.string.text ++
      (key.after.letters ++ ':' :: rest)) := by
  change key.before.letters ++ key.string.text ++ key.after.letters ++ [':'] ++
    rest = _
  simp only [List.append_assoc]
  rfl

theorem label?_append {label : shape.Label} :
    label? shape (labelText shape label ++ rest) = some (label, rest) := by
  cases shape with
  | array => rfl
  | object =>
      change Key at label
      have quote : Bare (label.string.text ++
          (label.after.letters ++ ':' :: rest)) := by
        rintro _ ⟨⟩
        decide
      have colon : Bare (':' :: rest) := by
        rintro _ ⟨⟩
        decide
      rw [label?, labelText_append, skipSpace_append quote, string?_append,
        blankOf_append quote]
      simp only [Option.bind_eq_bind, Option.bind_some, skipSpace_append colon,
        blankOf_append colon]

/-- What the entries of an array or an object begin with does not close it. -/
theorem Entries.exists_head (entries : Entries shape) : ∃ sign behind,
    skipSpace (entries.text ++ rest) = sign :: behind ∧
      sign ≠ shape.closing := by
  have head : ∀ (label : shape.Label) (before : Blank) (value : Node) text,
      ∃ sign behind,
        skipSpace (labelText shape label ++ (before.letters ++
          (value.text ++ text))) = sign :: behind ∧ sign ≠ shape.closing := by
    intro label before value text
    cases shape with
    | array =>
        obtain ⟨letter, letters, given, -, opens⟩ := value.exists_head
        refine ⟨letter, letters ++ text, ?_, opens _⟩
        rw [labelText, List.nil_append, skipSpace_append value.bare_text, given]
        rfl
    | object =>
        change Key at label
        rw [labelText_append, skipSpace_append]
        · exact ⟨'"', _, rfl, by decide⟩
        · rintro _ ⟨⟩
          decide
  cases entries with
  | one label before value after =>
      simpa only [Entries.text, List.append_assoc] using head label before value _
  | more label before value after entries =>
      simpa only [Entries.text, List.append_assoc] using head label before value _

theorem Node.text_length_pos (node : Node) : 0 < node.text.length := by
  obtain ⟨letter, letters, given, -⟩ := node.exists_head
  rw [given]
  exact Nat.zero_lt_succ _

theorem Entries.length_list_le : ∀ {shape : Shape} (entries : Entries shape),
    entries.list.length ≤ entries.text.length
  | _, .one label before value after => by
      have := value.text_length_pos
      simp only [list, text, List.length_append, List.length_singleton]
      omega
  | _, .more label before value after entries => by
      have := value.text_length_pos
      have := entries.length_list_le
      simp only [list, text, List.length_append, List.length_cons]
      omega

theorem value?_leaf {read : Option (Node × Text)} (open? : shape? text = none)
    (leaf : leaf? text = read) : value? depth text = read := by
  cases depth with
  | zero => exact leaf
  | succ depth => rw [value?, open?, leaf]

theorem shape?_scalar {scalar : Scalar} :
    shape? (scalar.text ++ rest) = none := by
  cases given : scalar.text with
  | nil => exact absurd given Scalar.text_ne_nil
  | cons letter letters =>
      have part : isPart letter = true :=
        Scalar.isPart_of_mem (by rw [given]; exact List.mem_cons_self)
      rw [List.cons_append, shape?]
      · rintro _ same
        rw [(List.cons.inj same).1] at part
        exact absurd part (by decide)
      · rintro _ same
        rw [(List.cons.inj same).1] at part
        exact absurd part (by decide)

theorem Shape.closing_ne_comma : shape.closing ≠ ',' := by
  cases shape <;> decide

theorem bare_comma : Bare (',' :: rest) := by
  rintro _ ⟨⟩
  decide

theorem ends_comma : Ends (',' :: rest) := by
  rintro _ ⟨⟩
  decide

theorem shape?_opening : shape? (shape.opening :: rest) = some (shape, rest) := by
  cases shape <;> rfl

/-- Nothing is opened where the reader may not descend. -/
theorem leaf?_opening : leaf? (shape.opening :: rest) = none := by
  cases shape <;> rfl

section Entry

variable {value : Node} {label : shape.Label} {before after : Blank}
  {bound : Nat}

/-- An entry up to the sign behind it. -/
theorem entries?_entry {sign : Char} (bare : Bare (sign :: rest))
    (ends : Ends (sign :: rest))
    (read : ∀ {rest}, Ends rest → value? depth (value.text ++ rest) =
      if value.depth ≤ depth then some (value, rest) else none) :
    entries? (value? depth) shape (bound + 1) (labelText shape label ++
        before.letters ++ value.text ++ after.letters ++ sign :: rest) =
      if value.depth ≤ depth then
        if sign = ',' then
          (entries? (value? depth) shape bound rest).map
            fun (entries, behind) =>
              (.more label before value after entries, behind)
        else if sign = shape.closing then
          some (.one label before value after, rest)
        else none
      else none := by
  simp only [List.append_assoc]
  rw [entries?, label?_append]
  simp only [Option.bind_eq_bind, Option.bind_some]
  rw [skipSpace_append value.bare_text, read (ends_append ends)]
  by_cases shallow : value.depth ≤ depth
  · rw [if_pos shallow, if_pos shallow]
    simp only [Option.bind_some]
    rw [skipSpace_append bare, blankOf_append bare,
      blankOf_append value.bare_text]
  · rw [if_neg shallow, if_neg shallow, Option.bind_none]

end Entry

mutual

/-- Any value is read back if the reader descends deep enough, and else none. -/
theorem value?_text : ∀ (node : Node) {depth : Nat} {rest : Text}, Ends rest →
    value? depth (node.text ++ rest) =
      if node.depth ≤ depth then some (node, rest) else none
  | .scalar scalar, depth, rest, ends => by
      rw [Node.depth, if_pos (Nat.zero_le _)]
      exact value?_leaf shape?_scalar (leaf?_scalar ends)
  | .string string, depth, rest, ends => by
      rw [Node.depth, if_pos (Nat.zero_le _)]
      exact value?_leaf rfl leaf?_string
  | .hollow shape inside, depth, rest, ends => by
      rw [Node.text, Node.depth, List.cons_append, List.append_assoc]
      cases depth with
      | zero => exact leaf?_opening
      | succ depth =>
          rw [value?, shape?_opening, if_pos (Nat.le_add_left _ _)]
          change container? _ shape (inside.letters ++ shape.closing :: rest) = _
          rw [container?, skipSpace_append bare_closing,
            blankOf_append bare_closing]
          exact if_pos rfl
  | .filled shape entries, depth, rest, ends => by
      have inside := fun depth => @entries?_text shape entries depth
      rw [Node.text, Node.depth, List.cons_append, List.append_assoc]
      cases depth with
      | zero => exact leaf?_opening
      | succ depth =>
          obtain ⟨sign, behind, starts, opens⟩ :=
            @Entries.exists_head (shape.closing :: rest) shape entries
          rw [value?, shape?_opening]
          change container? _ shape (entries.text ++ shape.closing :: rest) = _
          rw [container?, starts]
          dsimp only
          rw [if_neg opens, inside]
          · simp only [Nat.add_le_add_iff_right]
            split_ifs <;> rfl
          · have := entries.length_list_le
            rw [List.length_append]
            omega

theorem entries?_text : ∀ {shape : Shape} (entries : Entries shape)
    {depth bound : Nat} {rest : Text}, entries.list.length ≤ bound →
    entries? (value? depth) shape bound
        (entries.text ++ shape.closing :: rest) =
      if entries.depth ≤ depth then some (entries, rest) else none
  | shape, .one label before value after, depth, bound, rest, fits => by
      have read := fun rest => @value?_text value depth rest
      cases bound with
      | zero => exact absurd fits (by simp [Entries.list])
      | succ bound =>
          rw [Entries.text, entries?_entry bare_closing ends_closing (read _),
            if_neg shape.closing_ne_comma, if_pos rfl]
          rfl
  | shape, .more label before value after entries, depth, bound, rest, fits => by
      have read := fun rest => @value?_text value depth rest
      have behind := @entries?_text shape entries depth
      cases bound with
      | zero => exact absurd fits (by simp [Entries.list])
      | succ bound =>
          have fits : entries.list.length ≤ bound := Nat.le_of_succ_le_succ fits
          rw [Entries.text, List.append_assoc, List.cons_append,
            entries?_entry bare_comma ends_comma (read _), if_pos rfl,
            behind fits, Entries.depth]
          simp only [Nat.max_le]
          split_ifs <;> simp_all

end

theorem spells_text (node : Node) : Spells node.text node :=
  ⟨.empty, .empty, by simp [Blank.empty]⟩

theorem readText?_of_spells {node : Node} (spells : Spells text node) :
    readText? depth text = if node.depth ≤ depth then some node else none := by
  obtain ⟨before, after, rfl⟩ := spells
  have ends : Ends (after.letters ++ []) := ends_append (by simp [Ends])
  have skipped : skipSpace (after.letters ++ []) = [] :=
    skipSpace_append (by simp [Bare])
  rw [List.append_nil] at ends skipped
  rw [readText?, List.append_assoc, skipSpace_append node.bare_text,
    value?_text node ends]
  by_cases shallow : node.depth ≤ depth
  · simp only [if_pos shallow, if_pos skipped]
  · simp only [if_neg shallow]

theorem unmarshal?_of_spells {node : Node} (spells : Spells text node) :
    unmarshal? text =
      if node.depth ≤ maxNestingDepth then some node else none :=
  readText?_of_spells spells

/-- A text is one value only. -/
theorem Spells.unique {first second : Node} (one : Spells text first)
    (other : Spells text second) : first = second := by
  have deep := @readText?_of_spells text (max first.depth second.depth)
  have same := (deep one).symm.trans (deep other)
  rw [if_pos (Nat.le_max_left _ _), if_pos (Nat.le_max_right _ _)] at same
  exact Option.some.inj same

end Reading

end VpnUi.Foundation.JsonSyntax
