import Mathlib.Data.String.Basic
import VpnUi.Address.Text
import VpnUi.Foundation.Regex
import VpnUi.Foundation.Table

namespace VpnUi.Xray

open Foundation Address

/-! The counters of the core, joined by their names into the traffic of the
inbounds, the outbounds and the clients. -/

/-- Whose traffic a counter counts. -/
inductive Counted
  | bound (isInbound : Bool) (tag : String)
  | user (email : String)
  deriving DecidableEq

structure Counter where
  counted : Counted
  isDown : Bool
  deriving DecidableEq

structure Stat where
  counter : Counter
  value : Int
  deriving DecidableEq

def boundWord (isInbound : Bool) : List Char :=
  if isInbound then "inbound".toList else "outbound".toList

def linkWord (isDown : Bool) : List Char :=
  if isDown then "downlink".toList else "uplink".toList

def separator : List Char := ">>>".toList

def trafficMark : List Char := ">>>traffic>>>".toList

/-- The name under which the core keeps the counter. -/
def Counter.name (counter : Counter) : List Char :=
  match counter.counted with
  | .bound isInbound tag =>
      boundWord isInbound ++ separator ++ tag.toList ++ trafficMark ++
        linkWord counter.isDown
  | .user email =>
      "user".toList ++ separator ++ email.toList ++ trafficMark ++
        linkWord counter.isDown

def eitherWord (first second : List Char) : Regex :=
  .group (.either (.text first) (.text second))

/-- `([^>]+)>>>traffic>>>(downlink|uplink)` -/
def namedTraffic : Regex :=
  .followed (.group (.many (· ≠ '>'))) (.followed (.text trafficMark)
    (eitherWord (linkWord true) (linkWord false)))

def trafficRegex : Regex :=
  .followed (eitherWord (boundWord true) (boundWord false))
    (.followed (.text separator) namedTraffic)

def clientTrafficRegex : Regex :=
  .followed (.text ("user".toList ++ separator)) namedTraffic

structure Traffic where
  isInbound : Bool
  isOutbound : Bool
  tag : String
  up : Int
  down : Int
  deriving DecidableEq

/-- One of the two values of an entry. -/
def Traffic.put (isDown : Bool) (value : Int) (traffic : Traffic) : Traffic :=
  if isDown then { traffic with down := value }
  else { traffic with up := value }

structure ClientTraffic where
  email : String
  up : Int
  down : Int
  deriving DecidableEq

def ClientTraffic.put (isDown : Bool) (value : Int) (traffic : ClientTraffic) :
    ClientTraffic :=
  if isDown then { traffic with down := value }
  else { traffic with up := value }

/-- The two maps that are filled while the stats are read. -/
structure Traffics where
  bounds : Table Traffic.tag
  clients : Table ClientTraffic.email

def processTraffic (isInbound : Bool) (tag : String) (isDown : Bool)
    (value : Int) (trafficMap : Table Traffic.tag) : Table Traffic.tag :=
  if tag = "api" then trafficMap
  else
    let traffic := (trafficMap.find? tag).getD
      ⟨isInbound, !isInbound, tag, 0, 0⟩
    trafficMap.save (traffic.put isDown value)

def processClientTraffic (email : String) (isDown : Bool) (value : Int)
    (clientTrafficMap : Table ClientTraffic.email) :
    Table ClientTraffic.email :=
  let traffic := (clientTrafficMap.find? email).getD ⟨email, 0, 0⟩
  clientTrafficMap.save (traffic.put isDown value)

/-- One turn of the loop over the stats. -/
def readStat (traffics : Traffics) (name : List Char) (value : Int) :
    Traffics :=
  match trafficRegex.findStringSubmatch name with
  | some [bound, tag, link] =>
      { traffics with
        bounds := processTraffic (bound = "inbound".toList) (String.ofList tag)
          (link = "downlink".toList) value traffics.bounds }
  | _ =>
      match clientTrafficRegex.findStringSubmatch name with
      | some [email, link] =>
          { traffics with
            clients := processClientTraffic (String.ofList email)
              (link = "downlink".toList) value traffics.clients }
      | _ => traffics

def getTraffic (stats : List Stat) : Traffics :=
  stats.foldl (fun traffics stat =>
    readStat traffics stat.counter.name stat.value) ⟨Table.empty, Table.empty⟩

/-- The value of the last stat of such a counter, zero without one. -/
def lastWhere (stats : List Stat) (which : Counter → Bool) : Int :=
  ((stats.reverse.find? fun stat => which stat.counter).map Stat.value).getD 0

def valueOf (stats : List Stat) (counted : Counted) (isDown : Bool) : Int :=
  lastWhere stats (· = ⟨counted, isDown⟩)

/-- Exactly one entry for this traffic, with its own two values. -/
def BoundAttributed (stats : List Stat) (isInbound : Bool) (tag : String) :
    Prop :=
  ∃ entry ∈ (getTraffic stats).bounds,
    entry = ⟨isInbound, !isInbound, tag,
      valueOf stats (.bound isInbound tag) false,
      valueOf stats (.bound isInbound tag) true⟩ ∧
    ∀ other ∈ (getTraffic stats).bounds,
      other.isInbound = isInbound → other.tag = tag → other = entry

def ClientAttributed (stats : List Stat) (email : String) : Prop :=
  ∃ entry ∈ (getTraffic stats).clients,
    entry = ⟨email, valueOf stats (.user email) false,
      valueOf stats (.user email) true⟩ ∧
    ∀ other ∈ (getTraffic stats).clients, other.email = email → other = entry

/-- The traffic of the stats ends up under its own direction and name. -/
def Attributed (stats : List Stat) : Prop :=
  ∀ stat ∈ stats,
    match stat.counter.counted with
    | .bound isInbound tag => tag ≠ "api" → BoundAttributed stats isInbound tag
    | .user email => ClientAttributed stats email

/-- A name that the patterns read. -/
def Plain (name : String) : Prop := name ≠ "" ∧ '>' ∉ name.toList

instance (name : String) : Decidable (Plain name) :=
  inferInstanceAs (Decidable (_ ∧ _))

def Counted.PlainName : Counted → Prop
  | bound _ tag => tag = "api" ∨ Plain tag
  | user email => Plain email

/-- The names are plain, and no tag but the one of the api is in both
directions. -/
structure Attributable (stats : List Stat) : Prop where
  plain : ∀ stat ∈ stats, stat.counter.counted.PlainName
  unshared : ∀ inbound ∈ stats, ∀ outbound ∈ stats, ∀ tag,
    inbound.counter.counted = .bound true tag →
      outbound.counter.counted = .bound false tag → tag = "api"

section Names

variable {input tag email before after : List Char} {first second : List Char}
  {way : Regex.Way} {groups : List (List Char)}

theorem mem_ways_eitherWord :
    way ∈ (eitherWord first second).ways input ↔
      ∃ word, (word = first ∨ word = second) ∧ way.groups = [word] ∧
        input = word ++ way.rest := by
  simp only [eitherWord, Regex.mem_ways_group, Regex.mem_ways_either,
    Regex.mem_ways_text]
  constructor
  · intro captured
    obtain ⟨word, inner, groups, split, matched⟩ := captured
    rcases matched with ⟨rfl, other⟩ | ⟨rfl, other⟩
    · have same := List.append_cancel_right (split.symm.trans other)
      exact ⟨word, .inl same, groups, split⟩
    · have same := List.append_cancel_right (split.symm.trans other)
      exact ⟨word, .inr same, groups, split⟩
  · intro chosen
    obtain ⟨word, named, groups, split⟩ := chosen
    refine ⟨word, [], groups, split, ?_⟩
    rcases named with rfl | rfl
    · exact .inl ⟨rfl, split⟩
    · exact .inr ⟨rfl, split⟩

theorem mem_ways_namedTraffic :
    way ∈ namedTraffic.ways input ↔
      ∃ name isDown, name ≠ [] ∧ '>' ∉ name ∧
        way.groups = [name, linkWord isDown] ∧
        input = name ++ trafficMark ++ linkWord isDown ++ way.rest := by
  simp only [namedTraffic, Regex.mem_ways_followed, Regex.mem_ways_group,
    Regex.mem_ways_many, Regex.mem_ways_text, mem_ways_eitherWord]
  constructor
  · intro matched
    obtain ⟨_, _, middle, groups, ⟨name, _, first, split, rfl, run, nonempty,
      plain, same⟩, _, _, linked, later, ⟨rfl, marked⟩, link, which, captured,
      last⟩ := matched
    obtain rfl : name = run := List.append_cancel_right (split.symm.trans same)
    have whole : input = name ++ trafficMark ++ link ++ way.rest := by
      rw [split, marked, last, List.append_assoc, List.append_assoc]
    have listed : way.groups = [name, link] := by
      rw [groups, first, later, captured]
      rfl
    have noMark : '>' ∉ name := fun member =>
      of_decide_eq_true (plain '>' member) rfl
    rcases which with rfl | rfl
    · exact ⟨name, true, nonempty, noMark, listed, whole⟩
    · exact ⟨name, false, nonempty, noMark, listed, whole⟩
  · intro split
    obtain ⟨name, isDown, nonempty, noMark, groups, whole⟩ := split
    refine ⟨[name], [linkWord isDown], _, groups,
      ⟨name, [], rfl, ?_, rfl, name, nonempty, ?_, ?_⟩, [], [linkWord isDown],
      linkWord isDown ++ way.rest, rfl, ⟨rfl, rfl⟩, linkWord isDown, ?_, rfl,
      rfl⟩
    · rw [whole, List.append_assoc, List.append_assoc]
    · intro letter member
      exact decide_eq_true fun marked => noMark (marked ▸ member)
    · rw [whole, List.append_assoc, List.append_assoc]
    · cases isDown
      · exact .inr rfl
      · exact .inl rfl

theorem mem_ways_trafficRegex :
    way ∈ trafficRegex.ways input ↔
      ∃ isInbound tag isDown, tag ≠ [] ∧ '>' ∉ tag ∧
        way.groups = [boundWord isInbound, tag, linkWord isDown] ∧
        input = boundWord isInbound ++ separator ++ tag ++ trafficMark ++
          linkWord isDown ++ way.rest := by
  simp only [trafficRegex, Regex.mem_ways_followed, Regex.mem_ways_text,
    mem_ways_eitherWord, mem_ways_namedTraffic]
  constructor
  · intro matched
    obtain ⟨_, _, middle, groups, ⟨bound, which, first, split⟩, _, _, named,
      later, ⟨rfl, separated⟩, tag, isDown, nonempty, plain, captured,
      whole⟩ := matched
    have all : input = bound ++ separator ++ tag ++ trafficMark ++
        linkWord isDown ++ way.rest := by
      rw [split, separated, whole]
      simp only [List.append_assoc]
    have listed : way.groups = [bound, tag, linkWord isDown] := by
      rw [groups, first, later, captured]
      rfl
    rcases which with rfl | rfl
    · exact ⟨true, tag, isDown, nonempty, plain, listed, all⟩
    · exact ⟨false, tag, isDown, nonempty, plain, listed, all⟩
  · intro split
    obtain ⟨isInbound, tag, isDown, nonempty, plain, groups, whole⟩ := split
    refine ⟨[boundWord isInbound], [tag, linkWord isDown], _, groups,
      ⟨boundWord isInbound, ?_, rfl, ?_⟩, [], [tag, linkWord isDown], _, rfl,
      ⟨rfl, rfl⟩, tag, isDown, nonempty, plain, rfl, rfl⟩
    · cases isInbound
      · exact .inr rfl
      · exact .inl rfl
    · rw [whole]
      simp only [List.append_assoc]

theorem mem_ways_clientTrafficRegex :
    way ∈ clientTrafficRegex.ways input ↔
      ∃ email isDown, email ≠ [] ∧ '>' ∉ email ∧
        way.groups = [email, linkWord isDown] ∧
        input = "user".toList ++ separator ++ email ++ trafficMark ++
          linkWord isDown ++ way.rest := by
  simp only [clientTrafficRegex, Regex.mem_ways_followed, Regex.mem_ways_text,
    mem_ways_namedTraffic]
  constructor
  · intro matched
    obtain ⟨_, _, middle, groups, ⟨rfl, first⟩, email, isDown, nonempty, plain,
      captured, whole⟩ := matched
    refine ⟨email, isDown, nonempty, plain, groups.trans captured, ?_⟩
    rw [first, whole]
    simp only [List.append_assoc]
  · intro split
    obtain ⟨email, isDown, nonempty, plain, groups, whole⟩ := split
    refine ⟨[], [email, linkWord isDown], _, groups, ⟨rfl, ?_⟩, email, isDown,
      nonempty, plain, rfl, rfl⟩
    rw [whole]
    simp only [List.append_assoc]

theorem plain_boundWord (isInbound : Bool) : '>' ∉ boundWord isInbound := by
  cases isInbound <;> decide

theorem plain_linkWord (isDown : Bool) : '>' ∉ linkWord isDown := by
  cases isDown <;> decide

/-- A name splits in one way. -/
theorem marked_name_inj {word other tag name link rest : List Char}
    (plainWord : '>' ∉ word) (plainOther : '>' ∉ other) (plainTag : '>' ∉ tag)
    (plainName : '>' ∉ name)
    (same : word ++ separator ++ tag ++ trafficMark ++ link =
      other ++ separator ++ name ++ trafficMark ++ rest) :
    word = other ∧ tag = name ∧ link = rest := by
  have spread : ∀ word tag link : List Char,
      word ++ separator ++ tag ++ trafficMark ++ link =
        word ++ '>' :: ('>' :: '>' :: (tag ++ '>' ::
          (">>traffic>>>".toList ++ link))) := by
    intro word tag link
    have separatorSplit : separator = ['>', '>', '>'] := by decide
    have markSplit : trafficMark = '>' :: ">>traffic>>>".toList := by decide
    simp [separatorSplit, markSplit]
  rw [spread, spread] at same
  obtain ⟨sameWord, rest'⟩ := separated_inj plainWord plainOther same
  obtain ⟨sameTag, ends⟩ := separated_inj plainTag plainName
    (List.cons.inj (List.cons.inj rest').2).2
  exact ⟨sameWord, sameTag, List.append_cancel_left ends⟩

theorem linkWord_of_append {isDown other : Bool} {rest : List Char}
    (same : linkWord isDown = linkWord other ++ rest) :
    linkWord other = linkWord isDown := by
  cases isDown <;> cases other <;> first | rfl | simp [linkWord] at same

theorem find_bound {isInbound isDown : Bool} {tag : String} (plain : Plain tag) :
    trafficRegex.findStringSubmatch
        (Counter.name ⟨.bound isInbound tag, isDown⟩) =
      some [boundWord isInbound, tag.toList, linkWord isDown] := by
  apply Regex.findStringSubmatch_of_start
  have nonempty : tag.toList ≠ [] := fun empty =>
    plain.1 (String.toList_eq_nil_iff.mp empty)
  apply Regex.startSubmatch_of_unique
  · refine ⟨⟨[boundWord isInbound, tag.toList, linkWord isDown], []⟩,
      mem_ways_trafficRegex.mpr
        ⟨isInbound, tag.toList, isDown, nonempty, plain.2, rfl, ?_⟩⟩
    rw [List.append_nil]
    rfl
  · intro way member
    obtain ⟨bound, name, link, -, noMark, groups, whole⟩ :=
      mem_ways_trafficRegex.mp member
    rw [List.append_assoc _ (linkWord link)] at whole
    obtain ⟨sameBound, sameTag, sameLink⟩ := marked_name_inj
      (plain_boundWord isInbound) (plain_boundWord bound) plain.2 noMark whole
    rw [groups, sameBound, sameTag, linkWord_of_append sameLink]

theorem find_user {isDown : Bool} {email : String} (plain : Plain email) :
    clientTrafficRegex.findStringSubmatch
        (Counter.name ⟨.user email, isDown⟩) =
      some [email.toList, linkWord isDown] := by
  apply Regex.findStringSubmatch_of_start
  have nonempty : email.toList ≠ [] := fun empty =>
    plain.1 (String.toList_eq_nil_iff.mp empty)
  have plainUser : '>' ∉ "user".toList := by decide
  apply Regex.startSubmatch_of_unique
  · refine ⟨⟨[email.toList, linkWord isDown], []⟩,
      mem_ways_clientTrafficRegex.mpr
        ⟨email.toList, isDown, nonempty, plain.2, rfl, ?_⟩⟩
    rw [List.append_nil]
    rfl
  · intro way member
    obtain ⟨name, link, -, noMark, groups, whole⟩ :=
      mem_ways_clientTrafficRegex.mp member
    rw [List.append_assoc _ (linkWord link)] at whole
    obtain ⟨-, sameEmail, sameLink⟩ := marked_name_inj plainUser plainUser
      plain.2 noMark whole
    rw [groups, sameEmail, linkWord_of_append sameLink]

/-- The name of a client's counter has too few marks to hold the name of a
bound behind its start. -/
theorem find_bound_of_user {isDown : Bool} {email : String}
    (plain : Plain email) :
    trafficRegex.findStringSubmatch
      (Counter.name ⟨.user email, isDown⟩) = none := by
  apply Regex.findStringSubmatch_eq_none.mpr
  intro before after split
  apply List.eq_nil_iff_forall_not_mem.mpr
  intro way member
  obtain ⟨bound, tag, link, -, noMark, -, whole⟩ :=
    mem_ways_trafficRegex.mp member
  rw [whole] at split
  have counted := congrArg (List.count '>') split
  have separators : separator.count '>' = 3 := by decide
  have marks : trafficMark.count '>' = 6 := by decide
  have none : ∀ text : List Char, '>' ∉ text → text.count '>' = 0 :=
    fun text => List.count_eq_zero.mpr
  simp only [Counter.name, List.count_append, separators, marks,
    none _ plain.2, none _ (plain_linkWord _), none _ noMark,
    none _ (plain_boundWord _), none "user".toList (by decide)] at counted
  have unmarked : '>' ∉ before := List.count_eq_zero.mp (by omega)
  have regrouped : Counter.name ⟨.user email, isDown⟩ =
      (before ++ boundWord bound) ++ separator ++ tag ++ trafficMark ++
        (linkWord link ++ way.rest) := by
    rw [split]
    simp only [List.append_assoc]
  have fits : '>' ∉ before ++ boundWord bound := by
    rw [List.mem_append, not_or]
    exact ⟨unmarked, plain_boundWord bound⟩
  obtain ⟨same, -⟩ := marked_name_inj (by decide) fits plain.2 noMark regrouped
  have length := congrArg List.length same
  rw [List.length_append] at length
  cases bound <;> simp [boundWord] at length

/-- Whatever is found is plain. -/
theorem plain_of_find {name bound tag link : List Char}
    (found : trafficRegex.findStringSubmatch name = some [bound, tag, link]) :
    Plain (String.ofList tag) := by
  obtain ⟨before, after, -, way, member, captured⟩ :=
    Regex.findStringSubmatch_eq_some found
  obtain ⟨isInbound, matched, isDown, nonempty, noMark, groups, -⟩ :=
    mem_ways_trafficRegex.mp member
  rw [captured] at groups
  obtain ⟨-, rfl, -⟩ : bound = _ ∧ tag = _ ∧ link = _ := by
    simpa using groups
  refine ⟨?_, by rwa [String.toList_ofList]⟩
  intro empty
  exact nonempty (by simpa using congrArg String.toList empty)

theorem plain_of_findClient {name email link : List Char}
    (found : clientTrafficRegex.findStringSubmatch name = some [email, link]) :
    Plain (String.ofList email) := by
  obtain ⟨before, after, -, way, member, captured⟩ :=
    Regex.findStringSubmatch_eq_some found
  obtain ⟨matched, isDown, nonempty, noMark, groups, -⟩ :=
    mem_ways_clientTrafficRegex.mp member
  rw [captured] at groups
  obtain ⟨rfl, -⟩ : email = _ ∧ link = _ := by
    simpa using groups
  refine ⟨?_, by rwa [String.toList_ofList]⟩
  intro empty
  exact nonempty (by simpa using congrArg String.toList empty)

end Names

section Stats

variable {stats init : List Stat} {stat : Stat} {traffics : Traffics}
  {tag email : String} {isInbound isDown : Bool} {value : Int}

theorem readStat_bound (plain : Plain tag) :
    readStat traffics (Counter.name ⟨.bound isInbound tag, isDown⟩) value =
      { traffics with
        bounds := processTraffic isInbound tag isDown value
          traffics.bounds } := by
  have word : decide (boundWord isInbound = "inbound".toList) = isInbound := by
    cases isInbound <;> decide
  have link : decide (linkWord isDown = "downlink".toList) = isDown := by
    cases isDown <;> decide
  rw [readStat, find_bound plain]
  simp only [word, link, String.ofList_toList]

theorem readStat_user (plain : Plain email) :
    readStat traffics (Counter.name ⟨.user email, isDown⟩) value =
      { traffics with
        clients := processClientTraffic email isDown value
          traffics.clients } := by
  have link : decide (linkWord isDown = "downlink".toList) = isDown := by
    cases isDown <;> decide
  rw [readStat, find_bound_of_user plain, find_user plain]
  simp only [link, String.ofList_toList]

theorem getTraffic_append :
    getTraffic (init ++ [stat]) =
      readStat (getTraffic init) stat.counter.name stat.value := by
  rw [getTraffic, List.foldl_append]
  rfl

theorem lastWhere_append {which : Counter → Bool} :
    lastWhere (init ++ [stat]) which =
      if which stat.counter then stat.value else lastWhere init which := by
  rw [lastWhere, List.reverse_append, List.reverse_singleton,
    List.singleton_append, List.find?_cons]
  cases which stat.counter <;> rfl

theorem plain_of_plainTag
    (plain : Counted.PlainName (.bound isInbound tag)) : Plain tag := by
  rcases plain with rfl | plain
  · decide
  · exact plain

@[simp] theorem tag_put {entry : Traffic} :
    (entry.put isDown value).tag = entry.tag := by
  cases isDown <;> rfl

/-- An entry has the tag it is stored under. -/
theorem tag_getD_find? {trafficMap : Table Traffic.tag} :
    ((trafficMap.find? tag).getD ⟨isInbound, !isInbound, tag, 0, 0⟩).tag =
      tag := by
  cases found : trafficMap.find? tag with
  | none => rfl
  | some entry => exact (Table.find?_eq_some.mp found).2

theorem find?_processTraffic_ne {trafficMap : Table Traffic.tag}
    {other : String} (differs : tag ≠ other) :
    (processTraffic isInbound tag isDown value trafficMap).find? other =
      trafficMap.find? other := by
  unfold processTraffic
  split
  · rfl
  · apply Table.find?_save_ne
    rw [tag_put, tag_getD_find?]
    exact differs.symm

theorem find?_processTraffic_self {trafficMap : Table Traffic.tag}
    (notApi : tag ≠ "api") :
    (processTraffic isInbound tag isDown value trafficMap).find? tag =
      some (((trafficMap.find? tag).getD
        ⟨isInbound, !isInbound, tag, 0, 0⟩).put isDown value) := by
  rw [processTraffic, if_neg notApi]
  apply Table.find?_eq_some.mpr
  refine ⟨Table.mem_save.mpr (.inl rfl), ?_⟩
  rw [tag_put, tag_getD_find?]

theorem lastWhere_eq_zero {which : Counter → Bool}
    (none : ∀ stat ∈ stats, which stat.counter = false) :
    lastWhere stats which = 0 := by
  have missed : (stats.reverse.find? fun stat => which stat.counter) =
      Option.none := by
    apply List.find?_eq_none.mpr
    intro stat member
    rw [none stat (List.mem_reverse.mp member)]
    exact Bool.false_ne_true
  rw [lastWhere, missed]
  rfl

/-- The direction of the first stat of a tag. -/
def directionOf (tag : String) (stat : Stat) : Option Bool :=
  match stat.counter.counted with
  | .bound isInbound name => if name = tag then some isInbound else none
  | .user _ => none

def ofTag (tag : String) (isDown : Bool) (counter : Counter) : Bool :=
  counter = ⟨.bound true tag, isDown⟩ || counter = ⟨.bound false tag, isDown⟩

theorem ofTag_of_directionOf (missed : directionOf tag stat = none) :
    ofTag tag isDown stat.counter = false := by
  obtain ⟨⟨counted, link⟩, value⟩ := stat
  cases counted with
  | user email => simp [ofTag]
  | bound isInbound name =>
      have differs : name ≠ tag := by
        intro same
        simp [directionOf, same] at missed
      simp [ofTag, differs]

/-- The entry of a tag: the direction is that of its first stat, and the values
are the last ones of both directions. -/
theorem find?_bounds (plain : ∀ stat ∈ stats, stat.counter.counted.PlainName)
    (notApi : tag ≠ "api") :
    (getTraffic stats).bounds.find? tag =
      (stats.findSome? (directionOf tag)).map fun isInbound =>
        ⟨isInbound, !isInbound, tag, lastWhere stats (ofTag tag false),
          lastWhere stats (ofTag tag true)⟩ := by
  induction stats using List.reverseRecOn with
  | nil => rfl
  | append_singleton init stat induction =>
      have before := induction fun other member =>
        plain other (List.mem_append_left _ member)
      have plainStat := plain stat (by simp)
      obtain ⟨⟨counted, isDown⟩, value⟩ := stat
      rw [getTraffic_append, List.findSome?_append, List.findSome?_singleton,
        lastWhere_append, lastWhere_append]
      cases counted with
      | user email =>
          rw [readStat_user plainStat, before]
          simp [directionOf, ofTag]
      | bound isInbound name =>
          rw [readStat_bound (plain_of_plainTag plainStat)]
          by_cases same : name = tag
          · subst same
            rw [find?_processTraffic_self notApi, before]
            cases known : init.findSome? (directionOf name) with
            | none =>
                have zero : ∀ isDown,
                    lastWhere init (ofTag name isDown) = 0 := fun isDown =>
                  lastWhere_eq_zero fun stat member => ofTag_of_directionOf
                    (List.findSome?_eq_none_iff.mp known stat member)
                cases isInbound <;> cases isDown <;>
                  simp [directionOf, ofTag, Traffic.put, zero]
            | some direction =>
                cases isInbound <;> cases isDown <;>
                  simp [directionOf, ofTag, Traffic.put]
          · rw [find?_processTraffic_ne same, before]
            simp [directionOf, ofTag, same]

theorem lastWhere_congr {which other : Counter → Bool}
    (same : ∀ stat ∈ stats, which stat.counter = other stat.counter) :
    lastWhere stats which = lastWhere stats other := by
  induction stats using List.reverseRecOn with
  | nil => rfl
  | append_singleton init stat induction =>
      rw [lastWhere_append, lastWhere_append, same stat (by simp),
        induction fun other member => same other (List.mem_append_left _ member)]

@[simp] theorem email_put {entry : ClientTraffic} :
    (entry.put isDown value).email = entry.email := by
  cases isDown <;> rfl

theorem email_getD_find? {clientTrafficMap : Table ClientTraffic.email} :
    ((clientTrafficMap.find? email).getD ⟨email, 0, 0⟩).email = email := by
  cases found : clientTrafficMap.find? email with
  | none => rfl
  | some entry => exact (Table.find?_eq_some.mp found).2

theorem find?_processClientTraffic_self
    {clientTrafficMap : Table ClientTraffic.email} :
    (processClientTraffic email isDown value clientTrafficMap).find? email =
      some (((clientTrafficMap.find? email).getD ⟨email, 0, 0⟩).put isDown
        value) := by
  rw [processClientTraffic]
  apply Table.find?_eq_some.mpr
  refine ⟨Table.mem_save.mpr (.inl rfl), ?_⟩
  rw [email_put, email_getD_find?]

theorem find?_processClientTraffic_ne
    {clientTrafficMap : Table ClientTraffic.email} {other : String}
    (differs : email ≠ other) :
    (processClientTraffic email isDown value clientTrafficMap).find? other =
      clientTrafficMap.find? other := by
  unfold processClientTraffic
  apply Table.find?_save_ne
  rw [email_put, email_getD_find?]
  exact differs.symm

theorem find?_clients (plain : ∀ stat ∈ stats, stat.counter.counted.PlainName) :
    (getTraffic stats).clients.find? email =
      if ∃ stat ∈ stats, stat.counter.counted = .user email then
        some ⟨email, valueOf stats (.user email) false,
          valueOf stats (.user email) true⟩
      else none := by
  induction stats using List.reverseRecOn with
  | nil => rfl
  | append_singleton init stat induction =>
      have before := induction fun other member =>
        plain other (List.mem_append_left _ member)
      have plainStat := plain stat (by simp)
      obtain ⟨⟨counted, isDown⟩, value⟩ := stat
      simp only [valueOf] at before ⊢
      rw [getTraffic_append, lastWhere_append, lastWhere_append]
      simp only [List.mem_append, List.mem_singleton, or_and_right, exists_or,
        exists_eq_left]
      cases counted with
      | bound isInbound tag =>
          rw [readStat_bound (plain_of_plainTag plainStat), before]
          simp
      | user name =>
          rw [readStat_user plainStat]
          by_cases same : name = email
          · subst same
            rw [find?_processClientTraffic_self, before]
            split
            next known =>
              cases isDown <;> simp [ClientTraffic.put]
            next unknown =>
              have zero : ∀ isDown, lastWhere init
                  (· = ⟨.user name, isDown⟩) = 0 := fun isDown =>
                lastWhere_eq_zero fun stat member =>
                  decide_eq_false fun named =>
                    unknown ⟨stat, member, by rw [named]⟩
              cases isDown <;> simp [ClientTraffic.put, zero]
          · rw [find?_processClientTraffic_ne same, before]
            simp [same]

/-- Every stat there is has left only plain names. -/
theorem plain_entries (stats : List Stat) :
    (∀ entry ∈ (getTraffic stats).bounds, Plain entry.tag) ∧
      ∀ entry ∈ (getTraffic stats).clients, Plain entry.email := by
  induction stats using List.reverseRecOn with
  | nil => exact ⟨fun _ => nofun, fun _ => nofun⟩
  | append_singleton init stat induction =>
      obtain ⟨bounds, clients⟩ := induction
      rw [getTraffic_append, readStat]
      split
      next bound tag link found =>
        refine ⟨?_, clients⟩
        intro entry member
        unfold processTraffic at member
        split at member
        · exact bounds entry member
        · rcases Table.mem_save.mp member with rfl | ⟨old, -⟩
          · rw [tag_put, tag_getD_find?]
            exact plain_of_find found
          · exact bounds entry old
      next =>
        split
        next email link found =>
          refine ⟨bounds, ?_⟩
          intro entry member
          rcases Table.mem_save.mp member with rfl | ⟨old, -⟩
          · rw [email_put, email_getD_find?]
            exact plain_of_findClient found
          · exact clients entry old
        next => exact ⟨bounds, clients⟩

theorem boundAttributed (attributable : Attributable stats)
    (member : stat ∈ stats)
    (counted : stat.counter.counted = .bound isInbound tag)
    (notApi : tag ≠ "api") : BoundAttributed stats isInbound tag := by
  have direction : ∀ other ∈ stats, ∀ outbound,
      other.counter.counted = .bound outbound tag → outbound = isInbound := by
    intro other otherMember outbound named
    cases outbound <;> cases isInbound
    · rfl
    · exact absurd (attributable.unshared stat member other otherMember tag
        counted named) notApi
    · exact absurd (attributable.unshared other otherMember stat member tag
        named counted) notApi
    · rfl
  have first : stats.findSome? (directionOf tag) = some isInbound := by
    cases found : stats.findSome? (directionOf tag) with
    | none =>
        have missed := List.findSome?_eq_none_iff.mp found stat member
        simp [directionOf, counted] at missed
    | some other =>
        obtain ⟨witness, witnessMember, known⟩ :=
          List.exists_of_findSome?_eq_some found
        unfold directionOf at known
        split at known
        next outbound name named =>
          split at known
          next same =>
            subst same
            rw [← Option.some.inj known,
              direction witness witnessMember outbound named]
          next => cases known
        next => cases known
  have values : ∀ isDown, lastWhere stats (ofTag tag isDown) =
      valueOf stats (.bound isInbound tag) isDown := by
    intro isDown
    apply lastWhere_congr
    intro other otherMember
    have same := direction other otherMember
    obtain ⟨⟨otherCounted, link⟩, value⟩ := other
    cases otherCounted with
    | user email => simp [ofTag]
    | bound outbound name =>
        by_cases named : name = tag
        · subst named
          obtain rfl := same outbound rfl
          cases outbound <;> simp [ofTag]
        · simp [ofTag, named]
  have found := @find?_bounds stats tag attributable.plain notApi
  rw [first, Option.map_some, values, values] at found
  obtain ⟨listed, -⟩ := Table.find?_eq_some.mp found
  refine ⟨_, listed, rfl, ?_⟩
  intro other otherListed _ named
  exact Table.eq_of_key_eq otherListed listed named

theorem clientAttributed (attributable : Attributable stats)
    (member : stat ∈ stats) (counted : stat.counter.counted = .user email) :
    ClientAttributed stats email := by
  have found := @find?_clients stats email attributable.plain
  rw [if_pos ⟨stat, member, counted⟩] at found
  obtain ⟨listed, -⟩ := Table.find?_eq_some.mp found
  refine ⟨_, listed, rfl, ?_⟩
  intro other otherListed named
  exact Table.eq_of_key_eq otherListed listed named

end Stats

/-- Traffic ends up under its own direction and name exactly if the patterns
read every name and no tag is shared by an inbound and an outbound. -/
theorem attributed_iff (stats : List Stat) :
    Attributed stats ↔ Attributable stats := by
  constructor
  · intro attributed
    refine ⟨?_, ?_⟩
    · intro stat member
      have entry := attributed stat member
      cases counted : stat.counter.counted with
      | bound isInbound tag =>
          rw [counted] at entry
          by_cases isApi : tag = "api"
          · exact .inl isApi
          · obtain ⟨_, listed, rfl, -⟩ := entry isApi
            exact .inr ((plain_entries stats).1 _ listed)
      | user email =>
          rw [counted] at entry
          obtain ⟨_, listed, rfl, -⟩ := entry
          exact (plain_entries stats).2 _ listed
    · intro inbound inboundMember outbound outboundMember tag inCounted
        outCounted
      by_contra notApi
      have first := attributed inbound inboundMember
      have second := attributed outbound outboundMember
      rw [inCounted] at first
      rw [outCounted] at second
      obtain ⟨_, firstListed, rfl, -⟩ := first notApi
      obtain ⟨_, secondListed, rfl, -⟩ := second notApi
      have same := Table.eq_of_key_eq firstListed secondListed rfl
      cases congrArg Traffic.isInbound same
  · intro attributable stat member
    split
    next isInbound tag counted =>
      exact boundAttributed attributable member counted
    next email counted => exact clientAttributed attributable member counted

/-- An inbound and an outbound of one tag become one entry. -/
theorem shared_tag_merges :
    (getTraffic [⟨⟨.bound true "proxy", false⟩, 5⟩,
        ⟨⟨.bound false "proxy", false⟩, 7⟩]).bounds.rows =
      [⟨true, false, "proxy", 7, 0⟩] ∧
    ¬ Attributed [⟨⟨.bound true "proxy", false⟩, 5⟩,
        ⟨⟨.bound false "proxy", false⟩, 7⟩] := by
  have merged : (getTraffic [⟨⟨.bound true "proxy", false⟩, 5⟩,
        ⟨⟨.bound false "proxy", false⟩, 7⟩]).bounds.rows =
      [⟨true, false, "proxy", 7, 0⟩] := by decide +kernel
  refine ⟨merged, ?_⟩
  intro attributed
  obtain ⟨entry, listed, rfl, -⟩ :=
    attributed ⟨⟨.bound false "proxy", false⟩, 7⟩ (by simp) (by decide)
  rw [Table.mem_def, merged] at listed
  cases congrArg Traffic.isInbound (List.mem_singleton.mp listed)

end VpnUi.Xray
