import SpringTemplate.Message.ReloadFailure

/-!
# Requests during a reload

`getResource` reads one key and takes no lock, so it may meet any Redis state
the reload passes through.  Between the delete of `clear` and the multi-set
of a client type the messages of that type are missing.  At every other point
of the reload the answer has the old messages or the new ones.
-/

namespace SpringTemplate.Message

variable {Node : Type} {dataMapper : DataMapper Node}
  {directories : Directories} {before : Redis} {stage : Stage}
  {allowed : (call : Call) → Outcome call → Prop}

theorem loaded_of_contents {type : String} {values : OrderedMap String Bytes}
    (loads : contents dataMapper directories type = .ok values) :
    loaded dataMapper directories type = values := by
  simp [loaded, loads]

/-- Files that hold a key of `type` are stored by the multi-set of `type`. -/
theorem At.type_stored {trace : ServiceTrace} {type language : String}
    {bytes : Bytes}
    (reached : At dataMapper directories before stage trace)
    (client : type = "mobile" ∨ type = "portal")
    {values : OrderedMap String Bytes}
    (found : values.get? (Keys.resource type language) = some bytes)
    (stored : StoredIn trace values) : type ∈ stage.stored := by
  obtain ⟨other, member, equality⟩ := reached.stored values stored
  have otherClient : other = "mobile" ∨ other = "portal" := by
    cases stage <;> simp [Stage.stored] at member <;> simp [member]
  by_cases same : type = other
  · exact same ▸ member
  · have absent := loaded_other_type dataMapper directories client
      otherClient same language
    rw [← equality, found] at absent
    simp at absent

/-- What a request is served in the middle of a reload, when its key held
readable messages before and is among the files being loaded. -/
theorem getResource_during_reload {rest : ServiceProgram Bool}
    {later : ServiceTrace} {type : String} {requested : Option String}
    {old new : Bytes} {oldNode : Node} {values : OrderedMap String Bytes}
    (lawful : dataMapper.Lawful)
    (client : type = "mobile" ∨ type = "portal")
    (held : before (requestedKey requested type) = some old)
    (readable : dataMapper.readNode old = .ok oldNode)
    (loads : contents dataMapper directories type = .ok values)
    (found : values.get? (requestedKey requested type) = some new)
    (runs : (environment directories).Runs allowed (Environment.start before)
      (deployed dataMapper).reloadBean later rest) :
    ∃ newNode, dataMapper.readNode new = .ok newNode ∧
      (answerOf dataMapper later.state requested type =
          .ok (answerWith requested (some oldNode)) ∨
        answerOf dataMapper later.state requested type =
          .ok (answerWith requested (some newNode)) ∨
        (ClearedIn later ∧ ¬ StoredIn later values ∧
          answerOf dataMapper later.state requested type =
            .ok (answerWith requested none))) := by
  obtain ⟨_, newNode, rfl⟩ := contents_entries loads found
  refine ⟨newNode, lawful.readNode_writeNode newNode, ?_⟩
  obtain ⟨stage, reached⟩ := reloadBean_staged runs
  have content := reached.requested client requested
  have served : ∀ {bytes : Bytes} {node : Node},
      later.state (requestedKey requested type) = some bytes →
      dataMapper.readNode bytes = .ok node →
      answerOf dataMapper later.state requested type =
        .ok (answerWith requested (some node)) := by
    intro bytes node holds reads
    rw [answerOf_present holds, reads]
    rfl
  unfold requestedKey at held found content served
  rw [Stage.redis_resource stage client, loaded_of_contents loads, found,
    Option.some_or, held] at content
  by_cases storedType : type ∈ stage.stored
  · rw [if_pos storedType] at content
    exact .inr (.inl (served content (lawful.readNode_writeNode newNode)))
  · rw [if_neg storedType] at content
    have notStored : ¬ StoredIn later values :=
      fun stored => storedType (reached.type_stored client found stored)
    split at content
    · exact .inl (served content readable)
    · rename_i touched
      by_cases named : Keys.resource type
          (MessageServiceImpl.getRequestLanguage requested) ∈
            listed dataMapper before
      · rw [Redis.delete_member before named] at content
        exact .inr (.inr ⟨reached.cleared touched (List.ne_nil_of_mem named),
          notStored, answerOf_absent content⟩)
      · rw [Redis.delete_other before named, held] at content
        exact .inl (served content readable)

/-! ## A request between the delete and the multi-set -/

/-- A new version of the mobile file in the default language. -/
def renewedMobile : Directories := fun type =>
  if type = "mobile" then
    .ok [⟨"id.json", .ok (textMapper.writeNode "Hai")⟩]
  else .ok []

/-- A mobile file in another language instead. -/
def englishMobile : Directories := fun type =>
  if type = "mobile" then
    .ok [⟨"en.json", .ok (textMapper.writeNode "Hello")⟩]
  else .ok []

/-- What the reload makes of the new file. -/
def renewedValues : OrderedMap String Bytes :=
  OrderedMap.empty.put (Keys.resource "mobile" "id")
    (textMapper.writeNode "Hai")

theorem renewedMobile_read :
    (deployed textMapper).readResources "mobile"
      [⟨"id.json", .ok (textMapper.writeNode "Hai")⟩] =
      .ok renewedValues := by
  have name : JavaText.replace "id.json" ".json" "" = "id" := by decide
  have reads : (deployed textMapper).dataMapper.readNode
      (textMapper.writeNode "Hai") = .ok "Hai" :=
    TextMapper.readNode_writeNode "Hai"
  simp [MessageServiceImpl.readResources, MessageServiceImpl.readResource,
    name, reads, bind, Except.bind, pure, Except.pure]
  rfl

theorem renewedMobile_loads :
    contents textMapper renewedMobile "mobile" = .ok renewedValues :=
  renewedMobile_read

theorem renewedMobile_portal :
    contents textMapper renewedMobile "portal" = .ok .empty :=
  rfl

theorem storedRedis_renewed (redis : Redis) (keys : List String) :
    storedRedis redis keys renewedValues .empty
      (Keys.resource "mobile" "id") = some (textMapper.writeNode "Hai") := by
  rw [storedRedis, Redis.multiSet_empty]
  exact Redis.multiSet_stored _ (by simp [renewedValues])

theorem renewedMobile_ends :
    ∃ final, (environment renewedMobile).replay (fun _ => answered)
        (Environment.start servedRedis) (deployed textMapper).reloadBean =
          (final, .ok true) ∧
      final.state (Keys.resource "mobile" "id") =
        some (textMapper.writeNode "Hai") := by
  obtain ⟨final, replayed, state, _⟩ := reload_answered servedRedis_lock
    servedRedis_index renewedMobile_loads renewedMobile_portal
  refine ⟨final, replayed, ?_⟩
  rw [state, Redis.delete_other _ (by decide), Redis.set_other _ _ (by decide)]
  exact storedRedis_renewed _ _

theorem renewedMobile_cleared :
    ∃ later rest, (environment renewedMobile).advance (fun _ => answered) 6
        (Environment.start servedRedis) (deployed textMapper).reloadBean =
          (later, rest) ∧
      later.state (Keys.resource "mobile" "id") = none := by
  have unlocked : Keys.resourceKeys ≠ Keys.lock := by decide
  have flag : (deployed textMapper).isMessageImplemented = false := rfl
  simp [MessageServiceImpl.reloadBean, MessageServiceImpl.reloadBody,
    MessageServiceImpl.clear, MessageServiceImpl.loadResource, lock,
    synchronized, lockBody, environment, answered, ofExcept, write, flag,
    servedRedis_lock, servedRedis_index, Redis.set, Redis.delete, unlocked,
    Environment.advance, bind, Program.bind, Program.perform,
    Program.tryFinally, pure]

/-- The first six calls of the reload and the rest of it. -/
theorem renewedMobile_interrupted :
    ∃ later rest final,
      (environment renewedMobile).Runs
        (fun call outcome => outcome = answered call)
        (Environment.start servedRedis) (deployed textMapper).reloadBean
        later rest ∧
      (environment renewedMobile).Ends
        (fun call outcome => outcome = answered call) later rest (.ok true)
        final ∧
      later.state (Keys.resource "mobile" "id") = none ∧
      final.state (Keys.resource "mobile" "id") =
        some (textMapper.writeNode "Hai") := by
  obtain ⟨final, replayed, renewed⟩ := renewedMobile_ends
  obtain ⟨later, rest, advanced, absent⟩ := renewedMobile_cleared
  have runs := (environment renewedMobile).advance_runs
    (fun call outcome => outcome = answered call) (fun _ => answered)
    (fun _ _ => rfl) 6 (Environment.start servedRedis)
    (deployed textMapper).reloadBean
  have resumed := (environment renewedMobile).replay_advance
    (fun _ => answered) 6 (Environment.start servedRedis)
    (deployed textMapper).reloadBean
  have ends := (environment renewedMobile).replay_ends
    (fun call outcome => outcome = answered call) (fun _ => answered)
    (fun _ _ => rfl) later rest
  rw [advanced] at runs resumed
  rw [resumed, replayed] at ends
  exact ⟨later, rest, final, runs, ends, absent, renewed⟩

/-- In a reload without faults that replaces the served file, a request
between the delete and the multi-set is answered without messages. -/
theorem getResource_without_messages :
    ∃ later rest final,
      (environment renewedMobile).Runs
        (fun call outcome => outcome = answered call)
        (Environment.start servedRedis) (deployed textMapper).reloadBean
        later rest ∧
      (environment renewedMobile).Ends
        (fun call outcome => outcome = answered call) later rest (.ok true)
        final ∧
      answerOf textMapper servedRedis none "mobile" =
        .ok (answerWith none (some "Halo")) ∧
      answerOf textMapper final.state none "mobile" =
        .ok (answerWith none (some "Hai")) ∧
      answerOf textMapper later.state none "mobile" =
        .ok (answerWith none none) := by
  obtain ⟨later, rest, final, runs, ends, absent, renewed⟩ :=
    renewedMobile_interrupted
  refine ⟨later, rest, final, runs, ends, ?_, ?_, answerOf_absent absent⟩
  · rw [answerOf_present servedRedis_resource, TextMapper.readNode_writeNode]
    rfl
  · have served : final.state (requestedKey none "mobile") =
        some (textMapper.writeNode "Hai") := renewed
    rw [answerOf_present served, TextMapper.readNode_writeNode]
    rfl

theorem getResource_during_renewal :
    ∃ later rest,
      (environment renewedMobile).Runs
        (fun call outcome => outcome = answered call)
        (Environment.start servedRedis) (deployed textMapper).reloadBean
        later rest ∧
      ∃ newNode, textMapper.readNode (textMapper.writeNode "Hai") =
          .ok newNode ∧
        (answerOf textMapper later.state none "mobile" =
            .ok (answerWith none (some "Halo")) ∨
          answerOf textMapper later.state none "mobile" =
            .ok (answerWith none (some newNode)) ∨
          (ClearedIn later ∧ ¬ StoredIn later renewedValues ∧
            answerOf textMapper later.state none "mobile" =
              .ok (answerWith none none))) := by
  obtain ⟨later, rest, _, runs, _⟩ := renewedMobile_interrupted
  exact ⟨later, rest, runs,
    getResource_during_reload textMapper_lawful (.inl rfl)
      servedRedis_resource (TextMapper.readNode_writeNode "Halo")
      renewedMobile_loads (by simp [renewedValues, requestedKey,
        MessageServiceImpl.getRequestLanguage, defaultLanguage]) runs⟩

end SpringTemplate.Message
