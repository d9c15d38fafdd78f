import SpringTemplate.Message.ReloadReaders

/-!
# Reloads one after another

The delete of `clear` relies on the index that an earlier reload has written.
`Indexed` is the invariant it needs: every resource key in Redis is named by
the index.  A reload that stores files and stops before the write of the
index breaks it, and no later reload finds those files again.  In a history
without such a reload, every successful reload leaves its own files and
nothing else.
-/

namespace SpringTemplate.Message

variable {Node : Type} {dataMapper : DataMapper Node}
  {directories : Directories} {before : Redis} {stage : Stage}

/-- Redis without any key of the service. -/
def Fresh (redis : Redis) : Prop :=
  ∀ rest, redis (Keys.servicePrefix ++ rest) = none

/-- One call of `reloadBean`: the files it finds, and how it went. -/
structure ReloadCall where
  directories : Directories
  result : Except MessageException Bool
  trace : ServiceTrace

/-- Calls of `reloadBean` one after another, with any faults. -/
inductive Reloads (dataMapper : DataMapper Node) (start : Redis) :
    List ReloadCall → Redis → Prop where
  | nil : Reloads dataMapper start [] start
  | snoc {calls : List ReloadCall} {redis : Redis} (call : ReloadCall) :
      Reloads dataMapper start calls redis →
      (environment call.directories).Ends (fun _ _ => True)
        (Environment.start redis) (deployed dataMapper).reloadBean
        call.result call.trace →
      Reloads dataMapper start (calls ++ [call]) call.trace.state

/-- A reload that has stored files has written its index. -/
def KeepsIndex (trace : ServiceTrace) : Prop :=
  ∀ values, StoredIn trace values → IndexedIn trace

/-- Redis holds the files of these directories and their index. -/
structure Renewed (dataMapper : DataMapper Node) (directories : Directories)
    (redis : Redis) : Prop where
  loads : ∀ type, type = "mobile" ∨ type = "portal" →
    contents dataMapper directories type =
      .ok (loaded dataMapper directories type)
  resources : ∀ type, type = "mobile" ∨ type = "portal" → ∀ language,
    redis (Keys.resource type language) =
      (loaded dataMapper directories type).get? (Keys.resource type language)
  index : ∃ bytes keys, redis Keys.resourceKeys = some bytes ∧
    dataMapper.readKeys bytes = .ok keys ∧
    ∀ key, key ∈ keys ↔
      key ∈ (loaded dataMapper directories "mobile").keys ∨
        key ∈ (loaded dataMapper directories "portal").keys
  unserved : ∀ type, type = "mobile" ∨ type = "portal" → ∀ requested,
    (loaded dataMapper directories type).get?
        (requestedKey requested type) = none →
      answerOf dataMapper redis requested type =
        .ok (answerWith requested none)

/-! ## The index names every resource key -/

/-- Every resource key in Redis is one the delete of `clear` names. -/
def Indexed (dataMapper : DataMapper Node) (redis : Redis) : Prop :=
  ∀ type, type = "mobile" ∨ type = "portal" → ∀ language,
    redis (Keys.resource type language) ≠ none →
      Keys.resource type language ∈ listed dataMapper redis

theorem Fresh.indexed (fresh : Fresh before) : Indexed dataMapper before := by
  intro type client language present
  have key : Keys.resource type language =
      Keys.servicePrefix ++ ("-" ++ type ++ "-" ++ language) := by
    simp [Keys.resource, String.append_assoc]
  rw [key] at present
  exact absurd (fresh _) present

theorem listed_congr {redis other : Redis}
    (same : redis Keys.resourceKeys = other Keys.resourceKeys) :
    listed dataMapper redis = listed dataMapper other := by
  simp [listed, same]

theorem listed_index (lawful : dataMapper.Lawful) {redis : Redis}
    {keys : List String}
    (stored : redis Keys.resourceKeys = some (dataMapper.writeKeys keys))
    {key : String} (member : key ∈ keys) :
    key ∈ listed dataMapper redis := by
  obtain ⟨read, reads, same⟩ := lawful.readKeys_writeKeys keys
  have reads' : (deployed dataMapper).dataMapper.readKeys
      (dataMapper.writeKeys keys) = .ok read := reads
  simp only [listed, MessageServiceImpl.indexedKeys, stored, reads', bind,
    Except.bind, pure, Except.pure]
  exact List.mem_insert_of_mem ((same key).mpr member)

/-- What a resource key holds at a stage, when the index was complete. -/
theorem Indexed.redis_resource (indexed : Indexed dataMapper before)
    (touched : stage ≠ .untouched) {type : String}
    (client : type = "mobile" ∨ type = "portal") (language : String) :
    stage.redis dataMapper directories before (Keys.resource type language) =
      if type ∈ stage.stored then
        (loaded dataMapper directories type).get? (Keys.resource type language)
      else none := by
  have deleted : before.delete (listed dataMapper before)
      (Keys.resource type language) = none := by
    by_cases named : Keys.resource type language ∈ listed dataMapper before
    · exact Redis.delete_member before named
    · rw [Redis.delete_other before named]
      by_contra present
      exact named (indexed type client language present)
  rw [Stage.redis_resource stage client, deleted, if_neg touched,
    Option.or_none]

theorem At.index_stored {trace : ServiceTrace}
    (reached : At dataMapper directories before .indexed trace) :
    trace.state Keys.resourceKeys =
      some (Message.index dataMapper directories) := by
  rw [reached.content _ (Ne.symm Keys.lock_ne_resourceKeys)]
  exact Redis.set_same _ _ _

/-- A reload that keeps its index hands a complete index on. -/
theorem At.indexed {trace : ServiceTrace} (lawful : dataMapper.Lawful)
    (indexed : Indexed dataMapper before)
    (reached : At dataMapper directories before stage trace)
    (keeps : KeepsIndex trace) : Indexed dataMapper trace.state := by
  intro type client language present
  have content := reached.content (Keys.resource type language)
    (Ne.symm (Keys.lock_ne_resource client language))
  rw [content] at present
  by_cases touched : stage = .untouched
  · subst touched
    have named := indexed type client language present
    have index : trace.state Keys.resourceKeys = before Keys.resourceKeys :=
      reached.content _ (Ne.symm Keys.lock_ne_resourceKeys)
    rwa [listed_congr index]
  · rw [indexed.redis_resource touched client] at present
    have storedType : type ∈ stage.stored := by
      by_contra notStored
      simp [notStored] at present
    rw [if_pos storedType] at present
    have member : Keys.resource type language ∈
        (loaded dataMapper directories type).keys := by
      rw [OrderedMap.mem_keys_iff]
      exact Option.ne_none_iff_exists'.mp present
    have stored := reached.storing type storedType
      (List.ne_nil_of_mem member)
    have last := reached.indexing (keeps _ stored)
    subst last
    apply listed_index lawful reached.index_stored
    rcases client with rfl | rfl
    · exact List.mem_union_iff.mpr (.inl member)
    · exact List.mem_union_iff.mpr (.inr member)

/-- A successful reload that found a complete index renews Redis. -/
theorem At.renewed {trace : ServiceTrace} (lawful : dataMapper.Lawful)
    (indexed : Indexed dataMapper before)
    (reached : At dataMapper directories before .indexed trace) :
    Renewed dataMapper directories trace.state := by
  have resources : ∀ type, type = "mobile" ∨ type = "portal" →
      ∀ language, trace.state (Keys.resource type language) =
        (loaded dataMapper directories type).get?
          (Keys.resource type language) := by
    intro type client language
    have storedType : type ∈ Stage.indexed.stored := by
      rcases client with rfl | rfl <;> simp [Stage.stored]
    rw [reached.content _ (Ne.symm (Keys.lock_ne_resource client language)),
      indexed.redis_resource (by simp) client, if_pos storedType]
  refine ⟨?_, resources, ?_, ?_⟩
  · intro type client
    exact reached.loads (by simp [Stage.stored]) type client
  · obtain ⟨keys, reads, same⟩ := lawful.readKeys_writeKeys
      ((loaded dataMapper directories "mobile").keys ∪
        (loaded dataMapper directories "portal").keys)
    refine ⟨_, keys, reached.index_stored, reads, ?_⟩
    intro key
    rw [same, List.mem_union_iff]
  · intro type client requested absent
    apply answerOf_absent
    exact (resources type client _).trans absent

/-! ## Whole histories -/

/-- After every history whose reloads all keep their index, the index is
complete and every successful reload has renewed Redis. -/
theorem reloads_indexed {start final : Redis} {calls : List ReloadCall}
    (lawful : dataMapper.Lawful) (indexed : Indexed dataMapper start)
    (history : Reloads dataMapper start calls final)
    (keeps : ∀ call ∈ calls, KeepsIndex call.trace) :
    Indexed dataMapper final ∧
      ∀ call ∈ calls, call.result = .ok true →
        Renewed dataMapper call.directories call.trace.state := by
  induction history with
  | nil => exact ⟨indexed, by simp⟩
  | snoc call _ ends induction =>
      obtain ⟨complete, renewed⟩ := induction
        (fun earlier member => keeps earlier (List.mem_append_left _ member))
      have kept := keeps call
        (List.mem_append_right _ (List.mem_singleton_self call))
      obtain ⟨stage, reached⟩ := (reloadBean_ends ends).staged
      refine ⟨reached.indexed lawful complete kept, ?_⟩
      intro other member success
      rcases List.mem_append.mp member with earlier | last
      · exact renewed other earlier success
      · rw [List.mem_singleton.mp last] at success ⊢
        rw [success] at ends
        exact (reloadBean_ends ends).1.renewed lawful complete

/-- From a Redis without keys of the service, each successful call of a
history whose calls all keep their index leaves exactly its own files. -/
theorem reloads_renewed {start final : Redis} {calls : List ReloadCall}
    (lawful : dataMapper.Lawful) (fresh : Fresh start)
    (history : Reloads dataMapper start calls final)
    (keeps : ∀ call ∈ calls, KeepsIndex call.trace) :
    ∀ call ∈ calls, call.result = .ok true →
      Renewed dataMapper call.directories call.trace.state :=
  (reloads_indexed lawful fresh.indexed history keeps).2

/-! ## A file that is removed after a reload without index -/

def noKeys : Redis := fun _ => none

/-- The write of the index is refused, everything else is answered. -/
def indexRefused (call : Call) : Outcome call :=
  match call with
  | .set key _ => if key = Keys.resourceKeys then .refused else .answered
  | other => answered other

theorem answering_indexRefused : Answering (fun _ => indexRefused) := by
  refine ⟨fun _ _ => rfl, ?_, fun _ _ => rfl, fun _ _ => rfl⟩
  intro n value
  simp [indexRefused, Keys.lock_ne_resourceKeys]

theorem noKeys_lock : noKeys Keys.lock = none :=
  rfl

theorem noKeys_index :
    (deployed textMapper).indexedKeys (noKeys Keys.resourceKeys) = .ok [] :=
  rfl

theorem renewedMobile_unindexed :
    ∃ later, (environment renewedMobile).replay (fun _ => indexRefused)
        (Environment.start noKeys) (deployed textMapper).reloadBean =
          (later, .error .redis) ∧
      later.state Keys.lock = none ∧
      later.state Keys.resourceKeys = none ∧
      later.state (Keys.resource "mobile" "id") =
        some (textMapper.writeNode "Hai") := by
  have indexing : ∀ stored : ServiceTrace,
      stored.state = storedRedis noKeys [] renewedValues .empty →
      ∃ ended, (environment renewedMobile).replay (fun _ => indexRefused)
          stored (do
            send (.set Keys.resourceKeys (textMapper.writeKeys
              (renewedValues.keys ∪
                (OrderedMap.empty : OrderedMap String Bytes).keys)))
            send .loadMessage) = (ended, .error .redis) ∧
        ended.state = storedRedis noKeys [] renewedValues .empty := by
    intro stored storedState
    simp [environment, indexRefused, write, storedState]
  obtain ⟨ended, later, replayed, endedState, laterState, _⟩ :=
    replay_indexing answering_indexRefused noKeys_lock noKeys_index
      renewedMobile_loads renewedMobile_portal indexing
  rw [endedState] at laterState
  refine ⟨later, replayed, ?_, ?_, ?_⟩
  · rw [laterState]
    exact Redis.delete_member _ (List.mem_singleton_self _)
  · rw [laterState, Redis.delete_other _ (by decide)]
    rw [storedRedis, Redis.multiSet_empty, Redis.multiSet_other]
    · rfl
    · have other := Keys.resourceKeys_ne_resource (.inl rfl) "id"
      simpa [renewedValues] using other
  · rw [laterState, Redis.delete_other _ (by decide)]
    exact storedRedis_renewed _ _

/-- Without an index and without files, a reload leaves resource keys alone. -/
theorem noFiles_reloaded {redis : Redis} (unlocked : redis Keys.lock = none)
    (unindexed : redis Keys.resourceKeys = none) :
    ∃ later, (environment noFiles).replay (fun _ => answered)
        (Environment.start redis) (deployed textMapper).reloadBean =
          (later, .ok true) ∧
      later.state (Keys.resource "mobile" "id") =
        redis (Keys.resource "mobile" "id") := by
  have unlisted : (deployed textMapper).indexedKeys
      (redis Keys.resourceKeys) = .ok [] := by
    rw [unindexed]
    rfl
  have mobileLoads : contents textMapper noFiles "mobile" = .ok .empty := rfl
  have portalLoads : contents textMapper noFiles "portal" = .ok .empty := rfl
  obtain ⟨later, replayed, state, _⟩ :=
    reload_answered unlocked unlisted mobileLoads portalLoads
  refine ⟨later, replayed, ?_⟩
  rw [state, Redis.delete_other _ (by decide),
    Redis.set_other _ _ (by decide), storedRedis, Redis.multiSet_empty,
    Redis.multiSet_empty, Redis.delete_nil, Redis.set_other _ _ (by decide)]

/-- The file is stored without index by the first call.  The second call
finds no files and succeeds, and the file is still served. -/
theorem reloads_serve_removed_file :
    ∃ first second : ReloadCall, ∃ final, Fresh noKeys ∧
      Reloads textMapper noKeys [first, second] final ∧
      first.directories = renewedMobile ∧ first.result = .error .redis ∧
      second.directories = noFiles ∧ second.result = .ok true ∧
      answerOf textMapper second.trace.state none "mobile" =
        .ok (answerWith none (some "Hai")) ∧
      ¬ Renewed textMapper second.directories second.trace.state := by
  obtain ⟨middle, stored, unlocked, unindexed, present⟩ :=
    renewedMobile_unindexed
  obtain ⟨last, reloaded, same⟩ := noFiles_reloaded unlocked unindexed
  have storedEnds := (environment renewedMobile).replay_ends
    (fun _ _ => True) (fun _ => indexRefused) (fun _ _ => trivial)
    (Environment.start noKeys) (deployed textMapper).reloadBean
  have reloadedEnds := (environment noFiles).replay_ends
    (fun _ _ => True) (fun _ => answered) (fun _ _ => trivial)
    (Environment.start middle.state) (deployed textMapper).reloadBean
  rw [stored] at storedEnds
  rw [reloaded] at reloadedEnds
  have kept : last.state (Keys.resource "mobile" "id") =
      some (textMapper.writeNode "Hai") := same.trans present
  have served : last.state (requestedKey none "mobile") =
      some (textMapper.writeNode "Hai") := kept
  refine ⟨⟨renewedMobile, .error .redis, middle⟩, ⟨noFiles, .ok true, last⟩,
    last.state, fun _ => rfl, .snoc _ (.snoc _ .nil storedEnds) reloadedEnds,
    rfl, rfl, rfl, rfl, ?_, ?_⟩
  · rw [answerOf_present served, TextMapper.readNode_writeNode]
    rfl
  · intro renewed
    have content := renewed.resources "mobile" (.inl rfl) "id"
    have noneLoaded : loaded textMapper noFiles "mobile" = .empty := rfl
    rw [kept, noneLoaded] at content
    simp at content

/-- The file of the first reload is gone after the second. -/
theorem twoFiles_reloaded :
    ∃ first second : ServiceTrace,
      (environment renewedMobile).replay (fun _ => answered)
          (Environment.start noKeys) (deployed textMapper).reloadBean =
        (first, .ok true) ∧
      (environment englishMobile).replay (fun _ => answered)
          (Environment.start first.state) (deployed textMapper).reloadBean =
        (second, .ok true) ∧
      IndexedIn first ∧ IndexedIn second ∧
      first.state (Keys.resource "mobile" "id") =
        some (textMapper.writeNode "Hai") ∧
      second.state (Keys.resource "mobile" "id") = none ∧
      second.state (Keys.resource "mobile" "en") =
        some (textMapper.writeNode "Hello") := by
  refine ⟨_, _, rfl, rfl, ?_, ?_, rfl, rfl, rfl⟩
  · exact ⟨_, .answered, by simp [Fault.Executed],
      List.mem_of_getElem? (i := 8) rfl⟩
  · exact ⟨_, .answered, by simp [Fault.Executed],
      List.mem_of_getElem? (i := 9) rfl⟩

/-- Two reloads with a file each, in different languages. -/
theorem reloads_renewed_mobile :
    ∃ first second : ReloadCall,
      Reloads textMapper noKeys [first, second] second.trace.state ∧
      first.directories = renewedMobile ∧ first.result = .ok true ∧
      second.directories = englishMobile ∧ second.result = .ok true ∧
      first.trace.state (Keys.resource "mobile" "id") =
        some (textMapper.writeNode "Hai") ∧
      second.trace.state (Keys.resource "mobile" "id") = none ∧
      second.trace.state (Keys.resource "mobile" "en") =
        some (textMapper.writeNode "Hello") ∧
      Renewed textMapper first.directories first.trace.state ∧
      Renewed textMapper second.directories second.trace.state := by
  obtain ⟨first, second, stored, replaced, indexed, reindexed, found, removed,
    renewed⟩ := twoFiles_reloaded
  have storedEnds := (environment renewedMobile).replay_ends
    (fun _ _ => True) (fun _ => answered) (fun _ _ => trivial)
    (Environment.start noKeys) (deployed textMapper).reloadBean
  have replacedEnds := (environment englishMobile).replay_ends
    (fun _ _ => True) (fun _ => answered) (fun _ _ => trivial)
    (Environment.start first.state) (deployed textMapper).reloadBean
  rw [stored] at storedEnds
  rw [replaced] at replacedEnds
  have history : Reloads textMapper noKeys
      [⟨renewedMobile, .ok true, first⟩, ⟨englishMobile, .ok true, second⟩]
      second.state :=
    .snoc ⟨englishMobile, .ok true, second⟩
      (.snoc ⟨renewedMobile, .ok true, first⟩ .nil storedEnds) replacedEnds
  have keeps : ∀ call ∈ [(⟨renewedMobile, .ok true, first⟩ : ReloadCall),
      ⟨englishMobile, .ok true, second⟩], KeepsIndex call.trace := by
    intro call member
    rcases List.mem_cons.mp member with rfl | member
    · exact fun _ _ => indexed
    · rw [List.mem_singleton.mp member]
      exact fun _ _ => reindexed
  have left := reloads_renewed textMapper_lawful (fun _ => rfl) history keeps
  exact ⟨_, _, history, rfl, rfl, rfl, rfl, found, removed, renewed,
    left _ (by simp) rfl, left _ (by simp) rfl⟩

end SpringTemplate.Message
