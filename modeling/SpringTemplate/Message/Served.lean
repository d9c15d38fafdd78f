import SpringTemplate.Message.Reload

/-!
# What requests are served

`answerOf` is the answer of `getResource` when its one Redis command finds a
given content.  The key it reads is a resource key, and at every stage of a
reload such a key holds what it held before, nothing, or what the reload has
loaded under it.
-/

namespace SpringTemplate.Message

variable {Node : Type}

def noFiles : Directories := fun _ => .ok []

def answerOf (dataMapper : DataMapper Node) (redis : Redis)
    (requested : Option String) (type : String) :
    Except MessageException (MessageServiceImpl.ResourceAnswer Node) :=
  ((environment noFiles).replay (fun _ => answered)
    (Environment.start redis)
    ((deployed dataMapper).getResource requested type)).2

/-- The key `getResource` reads. -/
def requestedKey (requested : Option String) (type : String) : String :=
  Keys.resource type (MessageServiceImpl.getRequestLanguage requested)

def answerWith (requested : Option String) (message : Option Node) :
    MessageServiceImpl.ResourceAnswer Node :=
  { languages := activeLanguages
    active := MessageServiceImpl.getRequestLanguage requested
    message := message }

section Answers

variable {dataMapper : DataMapper Node} {redis : Redis}
  {requested : Option String} {type : String}

theorem answerOf_absent
    (absent : redis (requestedKey requested type) = none) :
    answerOf dataMapper redis requested type =
      .ok (answerWith requested none) := by
  unfold requestedKey at absent
  simp [answerOf, MessageServiceImpl.getResource, bind, Program.bind,
    Program.perform, Environment.replay, environment, answered, absent, pure,
    answerWith]

theorem answerOf_present {bytes : Bytes}
    (present : redis (requestedKey requested type) = some bytes) :
    answerOf dataMapper redis requested type =
      (dataMapper.readNode bytes).map
        (fun message => answerWith requested (some message)) := by
  unfold requestedKey at present
  cases read : dataMapper.readNode bytes with
  | error error =>
      simp [answerOf, MessageServiceImpl.getResource, bind, Program.bind,
        Program.perform, Environment.replay, environment, answered, present,
        ofExcept, deployed, read, Except.map]
  | ok message =>
      simp [answerOf, MessageServiceImpl.getResource, bind, Program.bind,
        Program.perform, Environment.replay, environment, answered, present,
        ofExcept, deployed, read, pure, Except.map, answerWith]

/-- The answer depends on the requested key alone. -/
theorem answerOf_congr {other : Redis}
    (same : redis (requestedKey requested type) =
      other (requestedKey requested type)) :
    answerOf dataMapper redis requested type =
      answerOf dataMapper other requested type := by
  cases content : other (requestedKey requested type) with
  | none => rw [answerOf_absent (same.trans content), answerOf_absent content]
  | some bytes =>
      rw [answerOf_present (same.trans content), answerOf_present content]

end Answers

/-! ## The keys a reload loads -/

theorem readResource_ok {service : MessageServiceImpl Node} {type : String}
    {map values : OrderedMap String Bytes} {resource : Resource}
    (read : service.readResource type map resource = .ok values) :
    ∃ bytes node, resource.content = .ok bytes ∧
      service.dataMapper.readNode bytes = .ok node ∧
      values = map.put
        (Keys.resource type (JavaText.replace resource.filename ".json" ""))
        (service.dataMapper.writeNode node) := by
  cases content : resource.content with
  | error error =>
      simp [MessageServiceImpl.readResource, content, bind, Except.bind]
        at read
  | ok bytes =>
      cases nodeResult : service.dataMapper.readNode bytes with
      | error error =>
          simp [MessageServiceImpl.readResource, content, nodeResult, bind,
            Except.bind] at read
      | ok node =>
          simp only [MessageServiceImpl.readResource, content, nodeResult,
            bind, Except.bind, pure, Except.pure, Except.ok.injEq] at read
          exact ⟨bytes, node, rfl, nodeResult, read.symm⟩

/-- An entry as `loadResource` makes it: a resource key with a document
written by the mapper. -/
def LoadedEntry (dataMapper : DataMapper Node) (type key : String)
    (bytes : Bytes) : Prop :=
  (∃ language, key = Keys.resource type language) ∧
    ∃ node, bytes = dataMapper.writeNode node

theorem foldlM_readResource_entries {service : MessageServiceImpl Node}
    {type : String} {resources : List Resource}
    {map values : OrderedMap String Bytes}
    (formed : ∀ key bytes, map.get? key = some bytes →
      LoadedEntry service.dataMapper type key bytes)
    (read : resources.foldlM (service.readResource type) map =
      .ok values) :
    ∀ key bytes, values.get? key = some bytes →
      LoadedEntry service.dataMapper type key bytes := by
  induction resources generalizing map with
  | nil =>
      simp only [List.foldlM_nil, pure, Except.pure, Except.ok.injEq] at read
      exact read ▸ formed
  | cons resource resources induction =>
      rw [List.foldlM_cons] at read
      cases first : service.readResource type map resource with
      | error error => simp [first, bind, Except.bind] at read
      | ok stored =>
          simp only [first, bind, Except.bind] at read
          obtain ⟨fileBytes, node, _, _, rfl⟩ := readResource_ok first
          apply induction _ read
          intro key bytes found
          rw [OrderedMap.get?_put] at found
          split at found
          · rename_i same
            cases found
            exact ⟨⟨_, same⟩, node, rfl⟩
          · exact formed key bytes found

section Loaded

variable {dataMapper : DataMapper Node} {directories : Directories}

theorem contents_entries {type key : String}
    {values : OrderedMap String Bytes} {bytes : Bytes}
    (read : contents dataMapper directories type = .ok values)
    (found : values.get? key = some bytes) :
    LoadedEntry dataMapper type key bytes := by
  cases resources : directories type with
  | error error => simp [contents, resources, bind, Except.bind] at read
  | ok files =>
      simp only [contents, resources, bind, Except.bind] at read
      exact foldlM_readResource_entries (by simp) read key bytes found

theorem loaded_keys {type key : String}
    (member : key ∈ (loaded dataMapper directories type).keys) :
    ∃ language, key = Keys.resource type language := by
  cases read : contents dataMapper directories type with
  | error error => simp [loaded, read] at member
  | ok values =>
      simp only [loaded, read] at member
      obtain ⟨bytes, found⟩ := (values.mem_keys_iff key).mp member
      exact (contents_entries read found).1

variable (dataMapper directories) in
theorem loaded_other_type {type other : String}
    (client : type = "mobile" ∨ type = "portal")
    (otherClient : other = "mobile" ∨ other = "portal")
    (different : type ≠ other) (language : String) :
    (loaded dataMapper directories other).get?
      (Keys.resource type language) = none := by
  rw [OrderedMap.get?_eq_none_iff]
  intro member
  obtain ⟨otherLanguage, equality⟩ := loaded_keys member
  rcases client with rfl | rfl <;> rcases otherClient with rfl | rfl
  · exact different rfl
  · exact Keys.mobile_ne_portal _ _ equality
  · exact Keys.mobile_ne_portal _ _ equality.symm
  · exact different rfl

variable {before : Redis}

/-- What a resource key holds at a stage. -/
theorem Stage.redis_resource (stage : Stage) {type : String}
    (client : type = "mobile" ∨ type = "portal") (language : String) :
    stage.redis dataMapper directories before (Keys.resource type language) =
      if type ∈ stage.stored then
        ((loaded dataMapper directories type).get?
          (Keys.resource type language)).or
          (before.delete (listed dataMapper before)
            (Keys.resource type language))
      else if stage = .untouched then before (Keys.resource type language)
      else before.delete (listed dataMapper before)
        (Keys.resource type language) := by
  have notIndex := Ne.symm (Keys.resourceKeys_ne_resource client language)
  rcases client with rfl | rfl
  · have notPortal := loaded_other_type dataMapper directories
      (.inl rfl) (.inr rfl) (by decide) language
    cases stage <;>
      simp [Stage.redis, Stage.stored, Redis.multiSet, Redis.set, notIndex,
        notPortal]
  · have notMobile := loaded_other_type dataMapper directories
      (.inr rfl) (.inl rfl) (by decide) language
    cases stage <;>
      simp [Stage.redis, Stage.stored, Redis.multiSet, Redis.set, notIndex,
        notMobile]

end Loaded

end SpringTemplate.Message
