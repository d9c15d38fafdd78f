import SpringTemplate.Job.Statements

/-!
# The assembled texts

Both statements of `getGroupsAndTriggers` put the same optional sections
behind their own head.  Which sections there are decides the text, so the
text is read section by section: `Sections.tokens` lists the tokens and
`Sections.condition` the condition they parse to, with the positions of the
placeholders.
-/

namespace SpringTemplate.Job

open Hql

/-- Which of the optional conditions a text contains. -/
structure Sections where
  active : Bool
  named : Bool
  grouped : Bool

namespace Sections

def of (instanceId : Option String) (isActive : Option Bool)
    (groupIds : Option (List (Option String))) : Sections :=
  { active := isActive.isSome
    named := trimmedInstance instanceId ≠ ""
    grouped := match groupIds with
      | some (_ :: _) => true
      | _ => false }

def instancePosition : Sections → Nat
  | ⟨false, _, _⟩ => 1
  | ⟨true, _, _⟩ => 2

def groupPosition : Sections → Nat
  | ⟨false, false, _⟩ => 1
  | ⟨true, true, _⟩ => 3
  | _ => 2

@[simp] theorem instancePosition_inactive (named grouped : Bool) :
    instancePosition ⟨false, named, grouped⟩ = 1 := rfl

@[simp] theorem instancePosition_active (named grouped : Bool) :
    instancePosition ⟨true, named, grouped⟩ = 2 := rfl

@[simp] theorem groupPosition_neither (grouped : Bool) :
    groupPosition ⟨false, false, grouped⟩ = 1 := rfl

@[simp] theorem groupPosition_named (grouped : Bool) :
    groupPosition ⟨false, true, grouped⟩ = 2 := rfl

@[simp] theorem groupPosition_active (grouped : Bool) :
    groupPosition ⟨true, false, grouped⟩ = 2 := rfl

@[simp] theorem groupPosition_both (grouped : Bool) :
    groupPosition ⟨true, true, grouped⟩ = 3 := rfl

variable (sections : Sections)

def activeText : String :=
  if sections.active then
    "and a.isActive=?" ++ toString 1 ++
      " and c.isActive=?" ++ toString 1 ++ " "
  else ""

def instanceText : String :=
  "and (a.instance.instanceId is null " ++
    (if sections.named then
      "or a.instance.instanceId=?" ++ toString sections.instancePosition
    else "") ++ ") "

def groupText : String :=
  if sections.grouped then
    "and c.groupId in (?" ++ toString sections.groupPosition ++ ") "
  else ""

def text : String :=
  "where 1=1 " ++ sections.activeText ++ sections.instanceText ++
    sections.groupText

def activeTokens : List Token :=
  if sections.active then
    [.keyword .and, .name ["a", "isActive"], .symbol '=', .symbol '?',
      .number 1, .keyword .and, .name ["c", "isActive"], .symbol '=',
      .symbol '?', .number 1]
  else []

def instanceTokens : List Token :=
  [.keyword .and, .symbol '(', .name ["a", "instance", "instanceId"],
    .keyword .is, .keyword .null] ++
    (if sections.named then
      [.keyword .or, .name ["a", "instance", "instanceId"], .symbol '=',
        .symbol '?', .number sections.instancePosition]
    else []) ++ [.symbol ')']

def groupTokens : List Token :=
  if sections.grouped then
    [.keyword .and, .name ["c", "groupId"], .keyword .in, .symbol '(',
      .symbol '?', .number sections.groupPosition, .symbol ')']
  else []

def tokens : List Token :=
  [.keyword .where, .number 1, .symbol '=', .number 1] ++
    sections.activeTokens ++ sections.instanceTokens ++ sections.groupTokens

def instanceCondition : Condition :=
  if sections.named then
    .either (.isNull (.path ["a", "instance", "instanceId"]))
      (.equal (.path ["a", "instance", "instanceId"])
        (.parameter sections.instancePosition))
  else .isNull (.path ["a", "instance", "instanceId"])

def groupCondition : Condition :=
  if sections.grouped then
    .both sections.instanceCondition
      (.member (.path ["c", "groupId"]) sections.groupPosition)
  else sections.instanceCondition

def condition : Condition :=
  .both (.equal (.number 1) (.number 1))
    (if sections.active then
      .both (.equal (.path ["a", "isActive"]) (.parameter 1))
        (.both (.equal (.path ["c", "isActive"]) (.parameter 1))
          sections.groupCondition)
    else sections.groupCondition)

end Sections

/-- The triggers with their types and groups. -/
def triggerSource : Source :=
  { entity := "JobTrigger"
    label := "a"
    joins := [⟨["a", "type"], "b"⟩, ⟨["a", "group"], "c"⟩] }

def triggerQuery (condition : Condition) : Query :=
  { select := [["a"], ["b"], ["c"]]
    source := triggerSource
    condition := some condition }

def configurationSource : Source :=
  { entity := "JobTriggerConfiguration"
    label := ""
    joins := [] }

def configurationQuery (condition : Condition) : Query :=
  { select := []
    source := configurationSource
    condition := some condition }

/-! ## The builders -/

section Builders

variable (instanceId : Option String) (isActive : Option Bool)
  (groupIds : Option (List (Option String)))

/-- What the parameter list holds in the end. -/
def sectionParameters : List (Parameter Value) :=
  (if isActive.isSome then
    [.single (some (.flag (yesOrNo isActive)))]
  else []) ++
  (if trimmedInstance instanceId ≠ "" then
    [.single (some (.text (trimmedInstance instanceId)))]
  else []) ++
  (match groupIds with
    | some (groupId :: rest) =>
        [.collection ((groupId :: rest).map (Option.map .text))]
    | _ => [])

theorem triggerStatement_eq :
    JobServiceImpl.triggerStatement instanceId isActive groupIds =
      { text :=
          "select a, b, c " ++ "from JobTrigger a " ++ "join a.type b " ++
            "join a.group c " ++ (Sections.of instanceId isActive groupIds).text
        bindings :=
          positioned (sectionParameters instanceId isActive groupIds) } := by
  unfold JobServiceImpl.triggerStatement Sections.of sectionParameters
    Sections.text Sections.activeText Sections.instanceText Sections.groupText
  cases isActive <;> by_cases named : trimmedInstance instanceId = "" <;>
    rcases groupIds with _ | _ | ⟨groupId, rest⟩ <;>
    simp [named, Id.run, pure, -String.reduceAppend, String.append_assoc]

theorem configurationStatement_eq :
    JobServiceImpl.configurationStatement instanceId isActive groupIds =
      { text :=
          "from JobTriggerConfiguration " ++ "where id.triggerId IN (" ++
            "select a.triggerId " ++ "from JobTrigger a " ++
            "join a.type b " ++ "join a.group c " ++
            (Sections.of instanceId isActive groupIds).text ++ ")"
        bindings :=
          positioned (sectionParameters instanceId isActive groupIds) } := by
  unfold JobServiceImpl.configurationStatement Sections.of sectionParameters
    Sections.text Sections.activeText Sections.instanceText Sections.groupText
  cases isActive <;> by_cases named : trimmedInstance instanceId = "" <;>
    rcases groupIds with _ | _ | ⟨groupId, rest⟩ <;>
    simp [named, Id.run, pure, -String.reduceAppend, String.append_assoc]

end Builders

/-! ## From text to tokens -/

theorem tokens_empty : Hql.tokens "" = [] :=
  Hql.tokens_ofList []

theorem endsBlank_close : EndsBlank ") " :=
  ⟨[')'], String.toList_ofList⟩

section Tokens

variable (sections : Sections)

theorem tokens_activeText :
    Hql.tokens sections.activeText = sections.activeTokens := by
  unfold Sections.activeText Sections.activeTokens
  split
  · rw [Hql.tokens]
    simp only [String.toList_append,
      (String.toList_ofList : "and a.isActive=?".toList = _),
      (String.toList_ofList : " and c.isActive=?".toList = _),
      (String.toList_ofList : " ".toList = _)]
    rfl
  · exact tokens_empty

theorem tokens_instanceText :
    Hql.tokens sections.instanceText = sections.instanceTokens := by
  obtain ⟨active, named, grouped⟩ := sections
  unfold Sections.instanceText Sections.instanceTokens
  rw [Hql.tokens]
  cases named with
  | false =>
      simp only [String.toList_append, Bool.false_eq_true, if_false,
        (String.toList_ofList :
          "and (a.instance.instanceId is null ".toList = _),
        (String.toList_ofList : ") ".toList = _), String.toList_empty]
      rfl
  | true =>
      simp only [String.toList_append, if_true,
        (String.toList_ofList :
          "and (a.instance.instanceId is null ".toList = _),
        (String.toList_ofList : "or a.instance.instanceId=?".toList = _),
        (String.toList_ofList : ") ".toList = _)]
      cases active with
      | false =>
          rw [Sections.instancePosition_inactive]
          rfl
      | true =>
          rw [Sections.instancePosition_active]
          rfl

theorem tokens_groupText :
    Hql.tokens sections.groupText = sections.groupTokens := by
  obtain ⟨active, named, grouped⟩ := sections
  unfold Sections.groupText Sections.groupTokens
  cases grouped with
  | false => exact tokens_empty
  | true =>
      rw [Hql.tokens]
      simp only [String.toList_append, if_true,
        (String.toList_ofList : "and c.groupId in (?".toList = _),
        (String.toList_ofList : ") ".toList = _)]
      cases named with
      | false =>
          cases active with
          | false =>
              rw [Sections.groupPosition_neither]
              rfl
          | true =>
              rw [Sections.groupPosition_active]
              rfl
      | true =>
          cases active with
          | false =>
              rw [Sections.groupPosition_named]
              rfl
          | true =>
              rw [Sections.groupPosition_both]
              rfl

theorem endsBlank_start : EndsBlank "where 1=1 " :=
  ⟨"where 1=1".toList, by
    simp only [(String.toList_ofList : "where 1=1 ".toList = _),
      (String.toList_ofList : "where 1=1".toList = _)]
    rfl⟩

theorem endsBlank_activeText {left : String} (blank : EndsBlank left) :
    EndsBlank (left ++ sections.activeText) := by
  unfold Sections.activeText
  split
  · apply EndsBlank.append
    apply EndsBlank.append
    exact ⟨[], String.toList_ofList⟩
  · rwa [String.append_empty]

theorem endsBlank_instanceText : EndsBlank sections.instanceText :=
  endsBlank_close.append _

theorem endsBlank_text : EndsBlank sections.text := by
  unfold Sections.text Sections.groupText
  split
  · exact (endsBlank_close.append _).append _
  · rw [String.append_empty]
    exact (endsBlank_instanceText sections).append _

theorem tokens_start : Hql.tokens "where 1=1 " =
    [.keyword .where, .number 1, .symbol '=', .number 1] := by
  rw [Hql.tokens, (String.toList_ofList : "where 1=1 ".toList = _)]
  rfl

theorem tokens_text : Hql.tokens sections.text = sections.tokens := by
  have active := endsBlank_activeText sections endsBlank_start
  unfold Sections.text Sections.tokens
  rw [((endsBlank_instanceText sections).append _).tokens_append,
    active.tokens_append, endsBlank_start.tokens_append, tokens_start,
    tokens_activeText, tokens_instanceText, tokens_groupText]

end Tokens

/-! ## From tokens to queries -/

def triggerHead : List Token :=
  [.keyword .select, .name ["a"], .symbol ',', .name ["b"], .symbol ',',
    .name ["c"], .keyword .from, .name ["JobTrigger"], .name ["a"],
    .keyword .join, .name ["a", "type"], .name ["b"],
    .keyword .join, .name ["a", "group"], .name ["c"]]

def configurationHead : List Token :=
  [.keyword .from, .name ["JobTriggerConfiguration"], .keyword .where,
    .name ["id", "triggerId"], .keyword .in, .symbol '(',
    .keyword .select, .name ["a", "triggerId"],
    .keyword .from, .name ["JobTrigger"], .name ["a"],
    .keyword .join, .name ["a", "type"], .name ["b"],
    .keyword .join, .name ["a", "group"], .name ["c"]]

theorem queryOf_trigger (sections : Sections) :
    queryOf (triggerHead ++ sections.tokens) =
      some (triggerQuery sections.condition) := by
  obtain ⟨active, named, grouped⟩ := sections
  cases active <;> cases named <;> cases grouped <;> rfl

theorem queryOf_configuration (sections : Sections) :
    queryOf (configurationHead ++ sections.tokens ++ [.symbol ')']) =
      some (configurationQuery (.within (.path ["id", "triggerId"])
        (.path ["a", "triggerId"]) triggerSource sections.condition)) := by
  obtain ⟨active, named, grouped⟩ := sections
  cases active <;> cases named <;> cases grouped <;> rfl

theorem tokens_triggerHead :
    Hql.tokens ("select a, b, c " ++ "from JobTrigger a " ++
      "join a.type b " ++ "join a.group c ") = triggerHead := by
  rw [Hql.tokens]
  simp only [String.toList_append,
    (String.toList_ofList : "select a, b, c ".toList = _),
    (String.toList_ofList : "from JobTrigger a ".toList = _),
    (String.toList_ofList : "join a.type b ".toList = _),
    (String.toList_ofList : "join a.group c ".toList = _)]
  rfl

theorem endsBlank_group : EndsBlank "join a.group c " :=
  ⟨"join a.group c".toList, by
    simp only [(String.toList_ofList : "join a.group c ".toList = _),
      (String.toList_ofList : "join a.group c".toList = _)]
    rfl⟩

set_option maxRecDepth 1000 in
theorem tokens_configurationHead :
    Hql.tokens ("from JobTriggerConfiguration " ++
      "where id.triggerId IN (" ++ "select a.triggerId " ++
      "from JobTrigger a " ++ "join a.type b " ++ "join a.group c ") =
      configurationHead := by
  rw [Hql.tokens]
  simp only [String.toList_append,
    (String.toList_ofList : "from JobTriggerConfiguration ".toList = _),
    (String.toList_ofList : "where id.triggerId IN (".toList = _),
    (String.toList_ofList : "select a.triggerId ".toList = _),
    (String.toList_ofList : "from JobTrigger a ".toList = _),
    (String.toList_ofList : "join a.type b ".toList = _),
    (String.toList_ofList : "join a.group c ".toList = _)]
  rfl

theorem tokens_closing : Hql.tokens ")" = [.symbol ')'] :=
  Hql.tokens_ofList [')']

section Parsed

variable (instanceId : Option String) (isActive : Option Bool)
  (groupIds : Option (List (Option String)))

theorem parse_triggerStatement :
    parseQuery (JobServiceImpl.triggerStatement instanceId isActive
      groupIds).text =
      some (triggerQuery
        (Sections.of instanceId isActive groupIds).condition) := by
  rw [triggerStatement_eq, parseQuery,
    (endsBlank_group.append _).tokens_append, tokens_triggerHead,
    tokens_text, queryOf_trigger]

theorem parse_configurationStatement :
    parseQuery (JobServiceImpl.configurationStatement instanceId isActive
      groupIds).text =
      some (configurationQuery (.within (.path ["id", "triggerId"])
        (.path ["a", "triggerId"]) triggerSource
        (Sections.of instanceId isActive groupIds).condition)) := by
  rw [configurationStatement_eq, parseQuery,
    ((endsBlank_text _).append _).tokens_append,
    (endsBlank_group.append _).tokens_append, tokens_configurationHead,
    tokens_text, tokens_closing, queryOf_configuration]

end Parsed

end SpringTemplate.Job
