import VpnUi.Foundation.JsonCompact

namespace VpnUi.Xray.Template

open Foundation JsonSyntax

/-! The stored template of the core's configuration.  A response that was stored
in its place holds the template under a key of its own, as an object or as a
string, and is peeled off again. -/

def xraySetting : Text := "xraySetting".toList

/-- The keys that a configuration is told by. -/
def recognised : List Text :=
  ["inbounds", "outbounds", "routing", "api", "dns", "log", "policy",
    "stats"].map String.toList

/-- Of the fields with a key the last is in the map. -/
def field? {Value : Type} (fields : List (Text × Value)) (key : Text) :
    Option Value :=
  fields.reverse.lookup key

/-- One turn of the loop, without a value where it returns. -/
def peel? (raw : Text) : Option Text := do
  let top ← unmarshalMap? raw
  let inner ← field? top xraySetting
  if recognised.any fun key => (field? top key).isSome then none
  else some ((unmarshalString? inner).getD inner)

def unwrapLoop : Nat → Text → Text
  | 0, raw => raw
  | turns + 1, raw =>
      match peel? raw with
      | none => raw
      | some inner => unwrapLoop turns inner

def maxDepth : Nat := 8

def unwrapXrayTemplateConfig (raw : Text) : Text := unwrapLoop maxDepth raw

/-- The panel's own template, and what the configuration of the core takes from a
value. -/
structure Panel where
  defaultTemplate : Text
  fits : Node → Bool

/-- A response and its way back: which accesses of the database succeed, and what
else the response is made of. -/
structure Round where
  found : Bool
  healed : Bool
  saved : Bool
  inboundTags : Option Text
  outboundTestUrl : String

namespace Panel

variable (panel : Panel)

/-- The value of the row, or the default without a row. -/
def template (row : Option Text) : Text := row.getD panel.defaultTemplate

def checkXrayConfig (text : Text) : Bool := (unmarshal? text).any panel.fits

/-- The row that a request leaves. -/
def saveXraySetting (writes : Bool) (row : Option Text) (text : Text) :
    Option Text :=
  let unwrapped := unwrapXrayTemplateConfig text
  if panel.checkXrayConfig unwrapped && writes then some unwrapped else row

end Panel

def defaultTestUrl : String := "https://www.google.com/generate_204"

/-- The map of the response in the order of its keys, without a value if a part is
malformed. -/
def marshalResponse (inboundTags : Text) (outboundTestUrl : String)
    (setting : Text) : Option Text := do
  let inboundTags ← compact? inboundTags
  let setting ← compact? setting
  some ("\x7b\"inboundTags\":".toList ++ inboundTags ++
    ",\"outboundTestUrl\":".toList ++ Json.quoted outboundTestUrl ++
    ",\"xraySetting\":".toList ++ setting ++ ['\x7d'])

namespace Panel

variable (panel : Panel)

/-- The row, with the template written back where it was wrapped. -/
def heal (writes : Bool) (row : Option Text) : Option Text :=
  let setting := unwrapXrayTemplateConfig (panel.template row)
  if setting ≠ panel.template row then
    panel.saveXraySetting writes row setting
  else row

/-- The row that the request leaves, and the response unless it fails. -/
def getXraySetting (row : Option Text) (access : Round) :
    Option Text × Option Text :=
  if access.found then
    (panel.heal access.healed row, access.inboundTags.bind fun inboundTags =>
      marshalResponse inboundTags
        (if access.outboundTestUrl = "" then defaultTestUrl
          else access.outboundTestUrl)
        (unwrapXrayTemplateConfig (panel.template row)))
  else (row, none)

/-- The response is sent back whole. -/
def round (row : Option Text) (access : Round) : Option Text :=
  match panel.getXraySetting row access with
  | (row, none) => row
  | (row, some response) => panel.saveXraySetting access.saved row response

def run (row : Option Text) (rounds : List Round) : Option Text :=
  rounds.foldl panel.round row

end Panel

/-- An object with a recognised key. -/
def IsTemplate (node : Node) : Prop :=
  ∃ top, node.members? = some top ∧ ∃ key ∈ recognised, key ∈ top.map Prod.fst

/-- The other keys of a wrapper. -/
def Unrecognised (fields : List (Text × Node)) : Prop :=
  ∀ field ∈ fields, field.1 ≠ xraySetting ∧ field.1 ∉ recognised

def IsObject (node : Node) : Prop :=
  (∃ inside, node = .hollow .object inside) ∨
    ∃ entries, node = .filled .object entries

/-- A response-shaped wrapper and what it embeds. -/
inductive Wraps : Node → Node → Prop
  | object {outer inner : Node} {before behind : List (Text × Node)}
      (fields : outer.members? =
        some (before ++ (xraySetting, inner) :: behind))
      (others : Unrecognised (before ++ behind)) (embedded : IsObject inner) :
      Wraps outer inner
  | string {outer inner : Node} {text : Quoted}
      {before behind : List (Text × Node)}
      (fields : outer.members? =
        some (before ++ (xraySetting, .string text) :: behind))
      (others : Unrecognised (before ++ behind))
      (spells : Spells text.value inner) : Wraps outer inner

/-- A template in any number of wrappers, listed from the outside. -/
inductive Stack (template : Node) : List Node → Node → Prop
  | bare : Stack template [] template
  | wrap {layers : List Node} {outer inner : Node} (wraps : Wraps outer inner)
      (stack : Stack template layers inner) :
      Stack template (outer :: layers) outer

section Peel

variable {text : Text} {node outer inner template : Node} {layers : List Node}

theorem unmarshalMap?_of_spells (spells : Spells text node) :
    unmarshalMap? text =
      if node.depth ≤ maxNestingDepth then
        node.members?.map (List.map (Prod.map id Node.text))
      else none := by
  rw [unmarshalMap?, unmarshal?_of_spells spells]
  split_ifs
  · rw [Option.bind_eq_bind, Option.bind_some]
    cases node.members? <;> rfl
  · rfl

theorem field?_isSome {Value : Type} {fields : List (Text × Value)}
    {key : Text} : (field? fields key).isSome = true ↔
      key ∈ fields.map Prod.fst := by
  rw [field?, List.lookup_isSome_iff, List.mem_map]
  constructor
  · rintro ⟨field, member, same⟩
    exact ⟨field, List.mem_reverse.mp member, (eq_of_beq same).symm⟩
  · rintro ⟨field, member, rfl⟩
    exact ⟨field, List.mem_reverse.mpr member, beq_self_eq_true _⟩

theorem peel?_of_template (isTemplate : IsTemplate node)
    (spells : Spells text node) : peel? text = none := by
  obtain ⟨top, members, key, known, has⟩ := isTemplate
  rw [peel?, unmarshalMap?_of_spells spells, members]
  by_cases shallow : node.depth ≤ maxNestingDepth
  · have hit : (recognised.any fun key => (field?
        (top.map (Prod.map id Node.text)) key).isSome) = true := by
      refine List.any_eq_true.mpr ⟨key, known, field?_isSome.mpr ?_⟩
      rw [List.map_map]
      exact has
    rw [if_pos shallow]
    simp only [Option.map_some, Option.bind_eq_bind, Option.bind_some, hit,
      if_true, Option.bind_fun_none]
  · rw [if_neg shallow]
    rfl

theorem field?_append {Value : Type} {before behind : List (Text × Value)}
    {key : Text} {value : Value} (last : ∀ field ∈ behind, field.1 ≠ key) :
    field? (before ++ (key, value) :: behind) key = some value := by
  have none : behind.reverse.lookup key = none :=
    List.lookup_eq_none_iff.mpr fun field member =>
      bne_iff_ne.mpr (last field (List.mem_reverse.mp member)).symm
  rw [field?, List.reverse_append, List.reverse_cons, List.append_assoc,
    List.lookup_append, none, Option.none_or, List.singleton_append,
    List.lookup_cons_self]

/-- No field of a wrapper is recognised. -/
theorem Unrecognised.not_recognised {before behind : List (Text × Node)}
    {value : Node} (others : Unrecognised (before ++ behind)) :
    ∀ field ∈ before ++ (xraySetting, value) :: behind,
      field.1 ∉ recognised := by
  intro field member
  rcases List.mem_append.mp member with first | rest
  · exact (others field (List.mem_append_left _ first)).2
  · rcases List.mem_cons.mp rest with rfl | last
    · have alien : xraySetting ∉ recognised := by decide
      exact alien
    · exact (others field (List.mem_append_right _ last)).2

/-- What is peeled off a text with a wrapper's fields. -/
theorem peel?_of_fields {before behind : List (Text × Node)} {value : Node}
    (fields : outer.members? =
      some (before ++ (xraySetting, value) :: behind))
    (others : Unrecognised (before ++ behind)) (spells : Spells text outer)
    (shallow : outer.depth ≤ maxNestingDepth) :
    peel? text = some ((unmarshalString? value.text).getD value.text) := by
  have found : field? ((before ++ (xraySetting, value) :: behind).map
      (Prod.map id Node.text)) xraySetting = some value.text := by
    rw [List.map_append, List.map_cons]
    refine field?_append fun field member => ?_
    obtain ⟨other, listed, rfl⟩ := List.mem_map.mp member
    exact (others other (List.mem_append_right _ listed)).1
  have miss : (recognised.any fun key =>
      (field? ((before ++ (xraySetting, value) :: behind).map
        (Prod.map id Node.text)) key).isSome) = false := by
    refine List.any_eq_false.mpr fun key known hit => ?_
    rw [field?_isSome, List.map_map] at hit
    obtain ⟨field, member, rfl⟩ := List.mem_map.mp hit
    exact others.not_recognised field member known
  rw [peel?, unmarshalMap?_of_spells spells, if_pos shallow, fields]
  simp only [Option.map_some, Option.bind_eq_bind, Option.bind_some, found, miss]
  rfl

theorem unmarshalString?_string {string : Quoted} :
    unmarshalString? (Node.string string).text = some string.value := by
  have leaf : (Node.string string).depth ≤ maxNestingDepth := by
    rw [Node.depth]
    exact Nat.zero_le _
  rw [unmarshalString?, unmarshal?_of_spells (spells_text _), if_pos leaf]

theorem unmarshalString?_object (isObject : IsObject node) :
    unmarshalString? node.text = none := by
  rw [unmarshalString?, unmarshal?_of_spells (spells_text node)]
  split_ifs
  · rcases isObject with ⟨inside, rfl⟩ | ⟨entries, rfl⟩ <;> rfl
  · rfl

/-- One turn peels one wrapper off. -/
theorem peel?_of_wraps (wraps : Wraps outer inner) (spells : Spells text outer)
    (shallow : outer.depth ≤ maxNestingDepth) :
    ∃ next, peel? text = some next ∧ Spells next inner := by
  cases wraps with
  | object fields others embedded =>
      refine ⟨inner.text, ?_, spells_text inner⟩
      rw [peel?_of_fields fields others spells shallow,
        unmarshalString?_object embedded, Option.getD_none]
  | string fields others embedded =>
      refine ⟨_, ?_, embedded⟩
      rw [peel?_of_fields fields others spells shallow, unmarshalString?_string,
        Option.getD_some]

theorem unwrapLoop_of_peel? {turns : Nat} (peeled : peel? text = none) :
    unwrapLoop turns text = text := by
  cases turns with
  | zero => rfl
  | succ turns => rw [unwrapLoop, peeled]

/-- A text that nests too deep is left as it is. -/
theorem peel?_of_deep (spells : Spells text node)
    (deep : ¬ node.depth ≤ maxNestingDepth) : peel? text = none := by
  rw [peel?, unmarshalMap?_of_spells spells, if_neg deep]
  rfl

/-- Over the wrappers, with a turn for each: they all come off, or one is too
deep. -/
theorem unwrapLoop_of_stack {turns : Nat} (isTemplate : IsTemplate template)
    (stack : Stack template layers outer) (spells : Spells text outer)
    (few : layers.length ≤ turns) :
    peel? (unwrapLoop turns text) = none ∧
      if ∀ layer ∈ layers, layer.depth ≤ maxNestingDepth then
        Spells (unwrapLoop turns text) template
      else ∃ outer inner, Wraps outer inner ∧
        Spells (unwrapLoop turns text) outer := by
  induction stack generalizing text turns with
  | bare =>
      have settled := peel?_of_template isTemplate spells
      rw [unwrapLoop_of_peel? settled, if_pos (List.forall_mem_nil _)]
      exact ⟨settled, spells⟩
  | @wrap layers outer inner wraps stack induction =>
      by_cases shallow : outer.depth ≤ maxNestingDepth
      · cases turns with
        | zero => exact absurd few (Nat.not_succ_le_zero _)
        | succ turns =>
            obtain ⟨next, peeled, inside⟩ := peel?_of_wraps wraps spells shallow
            rw [unwrapLoop, peeled]
            simpa only [List.forall_mem_cons, shallow, true_and] using
              induction inside (Nat.le_of_succ_le_succ few)
      · have settled := peel?_of_deep spells shallow
        rw [unwrapLoop_of_peel? settled,
          if_neg fun all => shallow (all outer List.mem_cons_self)]
        exact ⟨settled, outer, inner, wraps, spells⟩

theorem unwrap_of_template (isTemplate : IsTemplate node)
    (spells : Spells text node) : unwrapXrayTemplateConfig text = text :=
  unwrapLoop_of_peel? (peel?_of_template isTemplate spells)

end Peel

section Rounds

variable {panel : Panel} {row : Option Text} {text : Text}
  {node template : Node}

theorem saveXraySetting_cases {writes : Bool} :
    panel.saveXraySetting writes row text = row ∨
      panel.saveXraySetting writes row text =
        some (unwrapXrayTemplateConfig text) ∧
        unmarshal? (unwrapXrayTemplateConfig text) ≠ none := by
  rw [Panel.saveXraySetting]
  split
  · next stored =>
      refine .inr ⟨rfl, fun unread => ?_⟩
      rw [Panel.checkXrayConfig, unread] at stored
      exact absurd stored (by simp)
  · exact .inl rfl

/-- The template of the row is one of a text's, up to spacing and spelling. -/
def Same (template : Node) (text : Text) : Prop :=
  ∃ node, Spells text node ∧ IsTemplate node ∧ node.json = template.json

theorem Same.unwrap (same : Same template text) :
    unwrapXrayTemplateConfig text = text := by
  obtain ⟨node, spells, isTemplate, -⟩ := same
  exact unwrap_of_template isTemplate spells

theorem IsTemplate.compact (isTemplate : IsTemplate node) :
    IsTemplate node.compact := by
  obtain ⟨top, members, key, known, has⟩ := isTemplate
  refine ⟨top.map (Prod.map id Node.compact), ?_, key, known, ?_⟩
  · rw [Node.members?_compact, members]
    rfl
  · rw [List.map_map]
    exact has

theorem IsTemplate.isObject (isTemplate : IsTemplate node) : IsObject node := by
  obtain ⟨top, members, key, -, has⟩ := isTemplate
  have given : top ≠ [] := by
    rintro rfl
    exact absurd has List.not_mem_nil
  obtain ⟨entries, rfl, -⟩ := node.exists_entries members given
  exact .inr ⟨entries, rfl⟩

/-- A key as the encoder writes it. -/
def plainKey (name : Text) (plain : name.all isPlain = true) : Key :=
  ⟨.empty, .ofPlain name plain, .empty⟩

def responseNode (inboundTags : Node) (outboundTestUrl : Quoted)
    (setting : Node) : Node :=
  .filled .object
    (.more (plainKey "inboundTags".toList (by decide)) .empty inboundTags .empty
      (.more (plainKey "outboundTestUrl".toList (by decide)) .empty
        (.string outboundTestUrl) .empty
        (.one (plainKey xraySetting (by decide)) .empty setting .empty)))

theorem labelText_plainKey {name : Text} (plain : name.all isPlain = true) :
    labelText .object (plainKey name plain) = '"' :: (name ++ ['"', ':']) := by
  change [] ++ (Quoted.ofPlain name plain).text ++ [] ++ [':'] = _
  rw [Quoted.text_ofPlain]
  simp

theorem responseNode_text {inboundTags setting : Node} {url : Quoted} :
    (responseNode inboundTags url setting).text =
      "\x7b\"inboundTags\":".toList ++ inboundTags.text ++
        ",\"outboundTestUrl\":".toList ++ url.text ++
        ",\"xraySetting\":".toList ++ setting.text ++ ['\x7d'] := by
  have tags : "\x7b\"inboundTags\":".toList =
      '\x7b' :: '"' :: ("inboundTags".toList ++ ['"', ':']) := by decide
  have address : ",\"outboundTestUrl\":".toList =
      ',' :: '"' :: ("outboundTestUrl".toList ++ ['"', ':']) := by decide
  have template : ",\"xraySetting\":".toList =
      ',' :: '"' :: (xraySetting ++ ['"', ':']) := by decide
  rw [responseNode, tags, address, template]
  simp only [Node.text, Entries.text, labelText_plainKey, Blank.empty,
    Shape.opening, Shape.closing, List.append_assoc, List.cons_append,
    List.nil_append, List.append_nil]

theorem responseNode_wraps {inboundTags setting : Node} {url : Quoted}
    (isObject : IsObject setting) :
    Wraps (responseNode inboundTags url setting) setting := by
  have fields : (responseNode inboundTags url setting).members? =
      some ([("inboundTags".toList, inboundTags),
        ("outboundTestUrl".toList, .string url)] ++
          (xraySetting, setting) :: []) := by
    have name : ∀ {name : Text} (plain : name.all isPlain = true)
        (value : Node),
        fieldOf (plainKey name plain, value) = (name, value) :=
      fun plain value =>
        congrArg (fun name => (name, value)) (Quoted.value_ofPlain plain)
    change some [fieldOf _, fieldOf _, fieldOf _] = _
    rw [name, name, name]
    rfl
  refine .object fields ?_ isObject
  have others : ["inboundTags".toList, "outboundTestUrl".toList].all
      (fun name => name ≠ xraySetting ∧ name ∉ recognised) = true := by
    decide
  intro field member
  rw [List.append_nil] at member
  exact of_decide_eq_true
    (List.all_eq_true.mp others field.1 (List.mem_map_of_mem member))

/-- The response is a wrapper around the compact template. -/
theorem marshalResponse_wraps {inboundTags response : Text}
    {outboundTestUrl : String} (spells : Spells text node)
    (isTemplate : IsTemplate node)
    (written : marshalResponse inboundTags outboundTestUrl text =
      some response) :
    ∃ outer, Spells response outer ∧ Wraps outer node.compact := by
  rw [marshalResponse] at written
  cases tagged : compact? inboundTags with
  | none => exact absurd written (by simp [tagged])
  | some tagsText =>
      obtain ⟨tags, -, rfl⟩ := Option.map_eq_some_iff.mp tagged
      obtain ⟨url, quoted⟩ := exists_quoted outboundTestUrl
      rw [tagged, compact?_of_spells spells] at written
      by_cases shallow : node.depth ≤ maxNestingDepth
      · rw [if_pos shallow, ← quoted] at written
        obtain rfl := Option.some.inj written
        refine ⟨responseNode tags.compact url node.compact, ?_,
          responseNode_wraps isTemplate.compact.isObject⟩
        have text := spells_text (responseNode tags.compact url node.compact)
        rw [responseNode_text] at text
        exact text
      · exact absurd written (by simp [shallow])

/-- The stored response is refused or is the template again. -/
theorem same_of_response {inboundTags response : Text}
    {outboundTestUrl : String} (same : Same template text)
    (written : marshalResponse inboundTags outboundTestUrl text =
      some response)
    (read : unmarshal? (unwrapXrayTemplateConfig response) ≠ none) :
    Same template (unwrapXrayTemplateConfig response) := by
  obtain ⟨node, spells, isTemplate, json⟩ := same
  obtain ⟨outer, spelled, wraps⟩ :=
    marshalResponse_wraps spells isTemplate written
  by_cases shallow : outer.depth ≤ maxNestingDepth
  · obtain ⟨next, peeled, inside⟩ := peel?_of_wraps wraps spelled shallow
    have unwrapped : unwrapXrayTemplateConfig response = next := by
      rw [unwrapXrayTemplateConfig, maxDepth, unwrapLoop, peeled]
      exact unwrapLoop_of_peel? (peel?_of_template isTemplate.compact inside)
    rw [unwrapped]
    exact ⟨node.compact, inside, isTemplate.compact,
      (node.json_compact).trans json⟩
  · rw [unwrapXrayTemplateConfig,
      unwrapLoop_of_peel? (peel?_of_deep spelled shallow),
      unmarshal?_of_spells spelled, if_neg shallow] at read
    exact absurd rfl read

theorem heal_cases {writes : Bool}
    (same : Same template (unwrapXrayTemplateConfig (panel.template row))) :
    panel.heal writes row = row ∨
      ∃ stored, panel.heal writes row = some stored ∧ Same template stored := by
  rw [Panel.heal]
  split_ifs
  · rcases saveXraySetting_cases with kept | ⟨stored, -⟩
    · exact .inl kept
    · rw [same.unwrap] at stored
      exact .inr ⟨_, stored, same⟩
  · exact .inl rfl

/-- What a round stores, where the template can be read. -/
theorem round_cases {access : Round}
    (same : Same template (unwrapXrayTemplateConfig (panel.template row))) :
    panel.round row access = row ∨
      ∃ stored, panel.round row access = some stored ∧
        Same template stored := by
  have healed := @heal_cases panel row template access.healed same
  rw [Panel.round, Panel.getXraySetting]
  cases access.found with
  | false => exact .inl rfl
  | true =>
      rw [if_pos rfl]
      cases answered : access.inboundTags.bind _ with
      | none => exact healed
      | some response =>
          obtain ⟨inboundTags, -, written⟩ :=
            Option.bind_eq_some_iff.mp answered
          dsimp only
          rcases saveXraySetting_cases with kept | ⟨stored, read⟩
          · rw [kept]
            exact healed
          · exact .inr ⟨_, stored, same_of_response same written read⟩

/-- Over a run a template that can be read stays so, and one that is stored bare
stays bare. -/
theorem run_preserves {rounds : List Round}
    (same : Same template (unwrapXrayTemplateConfig (panel.template row))) :
    Same template
        (unwrapXrayTemplateConfig (panel.template (panel.run row rounds))) ∧
      (Same template (panel.template row) →
        Same template (panel.template (panel.run row rounds))) := by
  induction rounds generalizing row with
  | nil => exact ⟨same, id⟩
  | cons access rounds induction =>
      rw [Panel.run, List.foldl_cons]
      rcases @round_cases panel row template access same with
        kept | ⟨stored, next, again⟩
      · rw [kept]
        exact induction same
      · rw [next]
        have bare : Same template (panel.template (some stored)) := again
        have through := bare
        rw [← bare.unwrap] at through
        have later := induction through
        exact ⟨later.1, fun _ => later.2 bare⟩

theorem Same.jsonEqual {original : Text} (same : Same template text)
    (spells : Spells original template) : JsonEqual text original := by
  obtain ⟨node, spelled, -, json⟩ := same
  exact ⟨node, template, spelled, spells, by rw [json]⟩

end Rounds

/-- A wrapper is another value than a template. -/
theorem not_jsonEqual_of_wraps {text original : Text}
    {template outer inner : Node} (isTemplate : IsTemplate template)
    (wraps : Wraps outer inner) (first : Spells original template)
    (spells : Spells text outer) : ¬ JsonEqual text original := by
  have fields : ∃ fields, outer.members? = some fields ∧ fields ≠ [] ∧
      ∀ field ∈ fields, field.1 ∉ recognised := by
    cases wraps with
    | object fields others _ => exact ⟨_, fields, by simp, others.not_recognised⟩
    | string fields others _ => exact ⟨_, fields, by simp, others.not_recognised⟩
  obtain ⟨fields, members, given, alien⟩ := fields
  obtain ⟨top, topMembers, key, known, has⟩ := isTemplate
  have topGiven : top ≠ [] := by
    rintro rfl
    exact absurd has List.not_mem_nil
  rintro ⟨one, other, spellsOne, spellsOther, same⟩
  rw [spellsOne.unique spells, spellsOther.unique first,
    outer.json_eq_obj members given, template.json_eq_obj topMembers topGiven]
    at same
  have listed : String.ofList key ∈
      (top.map (Prod.map String.ofList Node.json)).map Prod.fst := by
    obtain ⟨field, member, rfl⟩ := List.mem_map.mp has
    exact List.mem_map_of_mem (List.mem_map_of_mem member)
  have shared := mem_of_normal_eq same.symm listed
  rw [List.map_map] at shared
  obtain ⟨field, member, named⟩ := List.mem_map.mp shared
  have here : field.1 = key := String.ofList_injective named
  exact alien field member (here ▸ known)

/-- Wrappers of at most eight layers come off exactly if none of them nests too
deep to be read. -/
theorem unwrap_stack {template outer : Node} {layers : List Node}
    {original text : Text} (isTemplate : IsTemplate template)
    (stack : Stack template layers outer) (few : layers.length ≤ 8)
    (first : Spells original template) (spells : Spells text outer) :
    (JsonEqual (unwrapXrayTemplateConfig text) original ↔
      ∀ layer ∈ layers, layer.depth ≤ maxNestingDepth) ∧
      (layers = [] → unwrapXrayTemplateConfig text = text) ∧
      unwrapXrayTemplateConfig (unwrapXrayTemplateConfig text) =
        unwrapXrayTemplateConfig text ∧
      ∀ (panel : Panel) (row : Option Text), panel.template row = text →
        ∀ rounds : List Round,
          ((∀ layer ∈ layers, layer.depth ≤ maxNestingDepth) →
            JsonEqual (unwrapXrayTemplateConfig
              (panel.template (panel.run row rounds))) original) ∧
          (layers = [] →
            JsonEqual (panel.template (panel.run row rounds)) original) := by
  obtain ⟨settled, reached⟩ := unwrapLoop_of_stack isTemplate stack spells few
  change peel? (unwrapXrayTemplateConfig text) = none at settled
  have same (shallow : ∀ layer ∈ layers, layer.depth ≤ maxNestingDepth) :
      Same template (unwrapXrayTemplateConfig text) := by
    rw [if_pos shallow] at reached
    exact ⟨template, reached, isTemplate, rfl⟩
  have bare (none : layers = []) : Same template text := by
    subst none
    cases stack
    exact ⟨template, spells, isTemplate, rfl⟩
  refine ⟨⟨fun equal => ?_, fun shallow => (same shallow).jsonEqual first⟩,
    fun none => (bare none).unwrap, unwrapLoop_of_peel? settled, ?_⟩
  · by_contra deep
    rw [if_neg deep] at reached
    obtain ⟨outer, inner, wraps, spelled⟩ := reached
    exact not_jsonEqual_of_wraps isTemplate wraps first spelled equal
  · rintro panel row rfl rounds
    have kept (shallow : ∀ layer ∈ layers, layer.depth ≤ maxNestingDepth) :=
      @run_preserves panel row template rounds (same shallow)
    refine ⟨fun shallow => (kept shallow).1.jsonEqual first, ?_⟩
    rintro rfl
    exact ((kept (List.forall_mem_nil _)).2 (bare rfl)).jsonEqual first

/-- An object of one field. -/
def single (name : Text) (plain : name.all isPlain = true) (value : Node) :
    Node :=
  .filled .object (.one (plainKey name plain) .empty value .empty)

def nested : Nat → Node
  | 0 => .hollow .array .empty
  | levels + 1 => .filled .array (.one () .empty (nested levels) .empty)

def logTemplate (value : Node) : Node := single "log".toList (by decide) value

def wrapped (value : Node) : Node := single xraySetting (by decide) value

section Samples

variable {value : Node}

theorem members?_single {name : Text} (plain : name.all isPlain = true) :
    (single name plain value).members? = some [(name, value)] :=
  congrArg (fun name => some [(name, value)]) (Quoted.value_ofPlain plain)

theorem depth_single {name : Text} (plain : name.all isPlain = true) :
    (single name plain value).depth = value.depth + 1 := by
  simp only [single, Node.depth, Entries.depth]

theorem depth_nested (levels : Nat) : (nested levels).depth = levels + 1 := by
  induction levels with
  | zero => rfl
  | succ levels induction =>
      simp only [nested, Node.depth, Entries.depth, induction]

theorem isTemplate_logTemplate : IsTemplate (logTemplate value) :=
  ⟨_, members?_single _, "log".toList, by decide, List.mem_singleton.mpr rfl⟩

theorem wraps_wrapped (isObject : IsObject value) :
    Wraps (wrapped value) value :=
  @Wraps.object _ _ [] [] (members?_single _) (List.forall_mem_nil _) isObject

end Samples

theorem unwrap_stack_single :
    JsonEqual (unwrapXrayTemplateConfig
        (wrapped (logTemplate (nested 0))).text)
      (logTemplate (nested 0)).text :=
  (unwrap_stack isTemplate_logTemplate
    (.wrap (wraps_wrapped isTemplate_logTemplate.isObject) .bare) (by decide)
    (spells_text _) (spells_text _)).1.mpr
      (List.forall_mem_singleton.mpr (by
        rw [wrapped, logTemplate, depth_single, depth_single, depth_nested]
        decide))

/-- A template that is read by itself, but not in a wrapper. -/
theorem deep_wrapper_kept :
    ¬ ∀ (template outer : Node) (layers : List Node) (original text : Text),
      IsTemplate template → Stack template layers outer → layers.length ≤ 8 →
        Spells original template → Spells text outer →
          JsonEqual (unwrapXrayTemplateConfig text) original := by
  intro claim
  have isTemplate : IsTemplate (logTemplate (nested 9998)) :=
    isTemplate_logTemplate
  have wraps := wraps_wrapped isTemplate.isObject
  have deep : ¬ (wrapped (logTemplate (nested 9998))).depth ≤
      maxNestingDepth := by
    rw [wrapped, logTemplate, depth_single, depth_single, depth_nested]
    decide
  have equal := claim _ _ _ _ _ isTemplate (.wrap wraps .bare) (by simp)
    (spells_text _) (spells_text _)
  rw [unwrapXrayTemplateConfig,
    unwrapLoop_of_peel? (peel?_of_deep (spells_text _) deep)] at equal
  exact not_jsonEqual_of_wraps isTemplate wraps (spells_text _) (spells_text _)
    equal

end VpnUi.Xray.Template
