import SpringTemplate.Message.Abandoned
import SpringTemplate.Message.ReloadFailure
import SpringTemplate.Message.WriteContract

/-!
# Where the messages come from

Whatever becomes of the reloads (commands fail, instances crash, two of them
are in the section), a key holds what it held in the beginning, or it is owned
by the service and holds nothing or a document of a file that some reload has
found.  The lock and the index aside, that is all Redis can hold.
-/

namespace SpringTemplate.Message

variable {Node ι Instance : Type} {dataMapper : DataMapper Node}

/-- What Redis holds once a command has been executed. -/
def Call.effect : Call → Redis → Redis
  | .set key value, redis => redis.set key value
  | .multiSet values, redis => redis.multiSet values
  | .delete keys, redis => redis.delete keys
  | _, redis => redis

section Sourced

variable (dataMapper) (deployment : Deployment ι Instance)
  (owned : String → Prop)

/-- The bytes are the document of a file that some call finds. -/
def FromDirectory (key : String) (bytes : Bytes) : Prop :=
  ∃ (i : ι) (type : ClientType) (language : String) (files : List Resource),
    key = Keys.resource type language ∧
    deployment.directories i type = .ok files ∧
    FileDocument dataMapper files language bytes

/-- What a key holds: what it held before; or, if it is owned, nothing or the
document of a file. -/
def Sourced (before : Redis) (key : String) (value : Option Bytes) : Prop :=
  value = before key ∨ owned key ∧ ∀ bytes, value = some bytes →
    FromDirectory dataMapper deployment key bytes

/-- The index lists owned keys, the calls know the files as they are, and all
other keys hold what they may. -/
structure Written (before : Redis) (state : Shared ι Instance)
    (histories : ι → ReloadHistory) : Prop where
  index : ListsOnly dataMapper owned (state.redis Keys.resourceKeys)
  found : ∀ i type files, ⟨.getResources type, .ok files⟩ ∈ histories i →
    deployment.directories i type = .ok files
  content : ∀ key, key ≠ Keys.lock → key ≠ Keys.resourceKeys →
    Sourced dataMapper deployment owned before key (state.redis key)

end Sourced

/-! ## What one step writes -/

section Step

variable {deployment : Deployment ι Instance}
  {owned : String → Prop} {before redis : Redis} {history : ReloadHistory}
  {i : ι}

theorem listsOnly_none : ListsOnly dataMapper owned none := by
  intro keys indexed
  cases indexed
  simp

theorem Deployment.shared_effect [DecidableEq Instance]
    (state : Shared ι Instance) (call : Call) (outcome : Outcome call) :
    (deployment.shared i state call outcome).1.redis = state.redis ∨
      (deployment.shared i state call outcome).1.redis =
        call.effect state.redis := by
  cases call with
  | get key => cases outcome <;> exact .inl rfl
  | multiGet keys => cases outcome <;> exact .inl rfl
  | loadMessage => cases outcome <;> exact .inl rfl
  | set key value =>
      cases outcome with
      | refused => exact .inl rfl
      | _ => exact .inr rfl
  | multiSet values =>
      cases outcome with
      | refused => exact .inl rfl
      | _ => exact .inr rfl
  | delete keys =>
      cases outcome with
      | refused => exact .inl rfl
      | _ => exact .inr rfl
  | _ => exact .inl rfl

theorem fromFiles_not_index {values : OrderedMap String Bytes}
    (fromFiles : FromFiles dataMapper history values) :
    Keys.resourceKeys ∉ values.keys := by
  intro member
  obtain ⟨bytes, stored⟩ := (values.mem_keys_iff _).mp member
  obtain ⟨type, language, _, equality, _⟩ := fromFiles _ _ stored
  have same : ServiceKey.resourceKeys = .resource type language :=
    ServiceKey.text_injective equality
  cases same

theorem ListsOnly.effect {call : Call}
    (index : ListsOnly dataMapper owned (redis Keys.resourceKeys))
    (guaranteed : (writeContract dataMapper owned).guarantees history call) :
    ListsOnly dataMapper owned (call.effect redis Keys.resourceKeys) := by
  cases call with
  | set key value =>
      rcases guaranteed with rfl | ⟨rfl, written⟩
      · have different := Ne.symm Keys.lock_ne_resourceKeys
        rwa [Call.effect, Redis.set_other _ _ different]
      · rwa [Call.effect, Redis.set_same]
  | multiSet values =>
      rwa [Call.effect, Redis.multiSet_other _ (fromFiles_not_index guaranteed)]
  | delete keys =>
      rw [Call.effect]
      by_cases member : Keys.resourceKeys ∈ keys
      · rw [Redis.delete_member _ member]
        exact listsOnly_none
      · rwa [Redis.delete_other _ member]
  | _ => exact index

theorem Sourced.effect {call : Call} {key : String}
    (ofService : ∀ key, OfService key → owned key)
    (found : ∀ (type : ClientType) files,
      ⟨.getResources type, .ok files⟩ ∈ history →
        deployment.directories i type = .ok files)
    (notLock : key ≠ Keys.lock) (notIndex : key ≠ Keys.resourceKeys)
    (sourced : Sourced dataMapper deployment owned before key (redis key))
    (guaranteed : (writeContract dataMapper owned).guarantees history call) :
    Sourced dataMapper deployment owned before key
      (call.effect redis key) := by
  cases call with
  | set other value =>
      have different : key ≠ other := by
        rcases guaranteed with rfl | ⟨rfl, _⟩
        · exact notLock
        · exact notIndex
      rwa [Call.effect, Redis.set_other _ _ different]
  | multiSet values =>
      have fromFiles : FromFiles dataMapper history values := guaranteed
      rw [Call.effect]
      cases stored : values.get? key with
      | none =>
          have absent := (values.get?_eq_none_iff key).mp stored
          rwa [Redis.multiSet_other _ absent]
      | some bytes =>
          rw [Redis.multiSet_stored _ stored]
          obtain ⟨type, language, files, rfl, known, document⟩ :=
            fromFiles key bytes stored
          refine .inr ⟨ofService _ (ofService_resource type language), ?_⟩
          rintro other ⟨⟩
          exact ⟨i, type, language, files, rfl, found type files known,
            document⟩
  | delete keys =>
      rw [Call.effect]
      by_cases member : key ∈ keys
      · rw [Redis.delete_member _ member]
        exact .inr ⟨guaranteed key member, nofun⟩
      · rwa [Redis.delete_other _ member]
  | _ => exact sourced

/-- A listing that is answered tells the files of the directory. -/
theorem Deployment.shared_found [DecidableEq Instance]
    {state : Shared ι Instance} {call : Call} {outcome : Outcome call}
    {type : String} {files : List Resource}
    (listed : (⟨.getResources type, .ok files⟩ :
        Exchange Call Answer MessageException) =
      ⟨call, (deployment.shared i state call outcome).2⟩) :
    deployment.directories i type = .ok files := by
  have same : Call.getResources type = call := congrArg Exchange.op listed
  subst same
  simp only [Exchange.mk.injEq, heq_eq_eq, true_and] at listed
  exact listed.symm

theorem Deployment.faulty_written [DecidableEq ι] [DecidableEq Instance]
    (ofService : ∀ key, OfService key → owned key) :
    deployment.faulty.Preserves (writeContract dataMapper owned)
      (Written dataMapper deployment owned before) where
  relied := by
    intro state histories i call outcome written _ _
    cases call with
    | get key =>
        rintro rfl value answered
        cases outcome with
        | answered =>
            cases answered
            exact written.index
        | refused => cases answered
        | lost => cases answered
    | _ => trivial
  kept := by
    intro state histories i call outcome written _ _ guaranteed
    have effect : (deployment.faulty.environment i state call
        outcome).1.redis = state.redis ∨
      (deployment.faulty.environment i state call outcome).1.redis =
        call.effect state.redis :=
      deployment.shared_effect state call outcome
    refine ⟨?_, ?_, ?_⟩
    · rcases effect with same | executed
      · rw [same]
        exact written.index
      · rw [executed]
        exact written.index.effect guaranteed
    · intro j type files known
      by_cases own : j = i
      · subst own
        rw [Function.update_self] at known
        rcases List.mem_append.mp known with earlier | last
        · exact written.found j type files earlier
        · exact Deployment.shared_found (List.mem_singleton.mp last)
      · rw [Function.update_of_ne own] at known
        exact written.found j type files known
    · intro key notLock notIndex
      have sourced := written.content key notLock notIndex
      rcases effect with same | executed
      · rw [same]
        exact sourced
      · rw [executed]
        exact sourced.effect ofService (fun type => written.found i type)
          notLock notIndex guaranteed

end Step

/-! ## Whole runs -/

/-- The first instance serves its file and crashes then.  The second one
crashes after it has deleted what the index lists. -/
theorem servingInstances_crash :
    ∃ middle last, servingInstances.faulty.CrashReaches
        servingInstances.instanceOf
        ⟨Deployment.start textMapper codeRedis, ∅⟩ middle ∧
      middle.pool.state.redis (Keys.resource "mobile" "id") =
        some (textMapper.writeNode "Hai") ∧
      servingInstances.faulty.CrashReaches servingInstances.instanceOf
        middle last ∧
      last.pool.state.redis (Keys.resource "mobile" "id") = none := by
  have alive :
      servingInstances.instanceOf true ∉ (insert false ∅ : Set Bool) := by
    simp [servingInstances]
  refine ⟨_, _,
    .next false (answered _) (by simp) rfl rfl trivial <|
    .next false (answered _) (by simp) rfl trivial trivial <|
    .next false (answered _) (by simp) rfl trivial trivial <|
    .next false (answered _) (by simp) rfl trivial trivial <|
    .next false (answered _) (by simp) rfl trivial trivial <|
    .next false (answered _) (by simp) rfl trivial trivial <|
    .next false (answered _) (by simp) rfl trivial trivial <|
    .next false (answered _) (by simp) rfl trivial trivial <|
    .next false (answered _) (by simp) rfl trivial trivial <|
    .next false (answered _) (by simp) rfl trivial trivial <|
    .next false (answered _) (by simp) rfl rfl trivial <|
    .next false (answered _) (by simp) rfl trivial trivial <|
    .next false (answered _) (by simp) rfl trivial trivial <|
    .single (.crash false), rfl,
    .next true (answered _) alive rfl rfl trivial <|
    .next true (answered _) alive rfl trivial trivial <|
    .next true (answered _) alive rfl trivial trivial <|
    .next true (answered _) alive rfl trivial trivial <|
    .next true (answered _) alive rfl trivial trivial <|
    .next true (answered _) alive rfl trivial trivial <|
    .single (.crash true), rfl⟩

section Runs

variable [DecidableEq ι] [DecidableEq Instance]
  {deployment : Deployment ι Instance} {redis : Redis}
  {last : CrashPool Instance ι (Shared ι Instance) Call Answer
    MessageException Bool}

theorem written_of_crashReaches (owned : String → Prop)
    (lawful : dataMapper.Lawful)
    (ofService : ∀ key, OfService key → owned key)
    (index : ListsOnly dataMapper owned (redis Keys.resourceKeys))
    (reached : deployment.faulty.CrashReaches deployment.instanceOf
      ⟨Deployment.start dataMapper redis, ∅⟩ last) :
    Written dataMapper deployment owned redis last.pool.state
      last.pool.history := by
  have begins : Written dataMapper deployment owned redis
      (Deployment.start dataMapper redis : ReloadPool ι Instance).state
      (fun _ => []) :=
    ⟨index, by simp, fun _ _ _ => .inl rfl⟩
  exact (System.Reaches.sound (Deployment.faulty_written ofService) begins
    (fun _ => reloadBean_writes ofService lawful) reached.reaches).1

/-- What is served in one language to one client type: what was served in the
beginning; or no messages; or the messages of a file of that language which
lies in the directory of that type. -/
theorem messages_from_files (lawful : dataMapper.Lawful)
    (reached : deployment.faulty.CrashReaches deployment.instanceOf
      ⟨Deployment.start dataMapper redis, ∅⟩ last)
    (requested : Option String) (type : ClientType) :
    answerOf dataMapper last.pool.state.redis requested type =
        answerOf dataMapper redis requested type ∨
      answerOf dataMapper last.pool.state.redis requested type =
        .ok (answerWith requested none) ∨
      ∃ i files file content node,
        deployment.directories i type = .ok files ∧ file ∈ files ∧
        JavaText.replace file.filename ".json" "" =
          MessageServiceImpl.getRequestLanguage requested ∧
        file.content = .ok content ∧
        dataMapper.readNode content = .ok node ∧
        answerOf dataMapper last.pool.state.redis requested type =
          .ok (answerWith requested (some node)) := by
  have written := written_of_crashReaches (fun _ => True) lawful
    (fun _ _ => trivial) (fun _ _ _ _ => trivial) reached
  have key : requestedKey requested type =
      (ServiceKey.resource type
        (MessageServiceImpl.getRequestLanguage requested)).text := rfl
  have notLock : requestedKey requested type ≠ Keys.lock := by
    intro equality
    have same : ServiceKey.resource type _ = .lock :=
      ServiceKey.text_injective equality
    cases same
  have notIndex : requestedKey requested type ≠ Keys.resourceKeys := by
    intro equality
    have same : ServiceKey.resource type _ = .resourceKeys :=
      ServiceKey.text_injective equality
    cases same
  rcases written.content _ notLock notIndex with same | ⟨_, documents⟩
  · exact .inl (answerOf_congr same)
  · cases stored : last.pool.state.redis (requestedKey requested type) with
    | none => exact .inr (.inl (answerOf_absent stored))
    | some bytes =>
        obtain ⟨i, found, language, files, equality, listed, document⟩ :=
          documents bytes stored
        have same : ServiceKey.resource type
            (MessageServiceImpl.getRequestLanguage requested) =
              .resource found language :=
          ServiceKey.text_injective equality
        cases same
        obtain ⟨file, member, named, content, node, contentRead, nodeRead,
          rfl⟩ := document
        refine .inr (.inr ⟨i, files, file, content, node, listed, member,
          named, contentRead, nodeRead, ?_⟩)
        rw [answerOf_present stored, lawful.readNode_writeNode node]
        rfl

/-- The file of the first instance is served after its crash. -/
theorem messages_from_files_crash :
    ∃ last, servingInstances.faulty.CrashReaches servingInstances.instanceOf
        ⟨Deployment.start textMapper codeRedis, ∅⟩ last ∧
      answerOf textMapper last.pool.state.redis none "mobile" =
        .ok (answerWith none (some "Hai")) ∧
      (answerOf textMapper last.pool.state.redis none "mobile" =
          answerOf textMapper codeRedis none "mobile" ∨
        answerOf textMapper last.pool.state.redis none "mobile" =
          .ok (answerWith none none) ∨
        ∃ i files file content node,
          servingInstances.directories i "mobile" = .ok files ∧
          file ∈ files ∧
          JavaText.replace file.filename ".json" "" =
            MessageServiceImpl.getRequestLanguage none ∧
          file.content = .ok content ∧
          textMapper.readNode content = .ok node ∧
          answerOf textMapper last.pool.state.redis none "mobile" =
            .ok (answerWith none (some node))) := by
  obtain ⟨last, _, reached, stored, _⟩ := servingInstances_crash
  have served : last.pool.state.redis (requestedKey none "mobile") =
      some (textMapper.writeNode "Hai") := stored
  refine ⟨last, reached, ?_, messages_from_files textMapper_lawful reached
    none ⟨"mobile", by decide⟩⟩
  rw [answerOf_present served, TextMapper.readNode_writeNode]
  rfl

/-- A key of somebody else stays as it is, unless the index has listed it
before the first reload. -/
theorem foreign_keys_kept (lawful : dataMapper.Lawful)
    (reached : deployment.faulty.CrashReaches deployment.instanceOf
      ⟨Deployment.start dataMapper redis, ∅⟩ last)
    {key : String} (foreign : ¬ OfService key)
    (unlisted : ∀ keys, (deployed dataMapper).indexedKeys
      (redis Keys.resourceKeys) = .ok keys → key ∉ keys) :
    last.pool.state.redis key = redis key := by
  have written := written_of_crashReaches (· ≠ key) lawful
    (by rintro other own rfl; exact foreign own)
    (by rintro keys indexed other member rfl
        exact unlisted keys indexed member) reached
  have notLock : key ≠ Keys.lock := by
    rintro rfl
    exact foreign ofService_lock
  have notIndex : key ≠ Keys.resourceKeys := by
    rintro rfl
    exact foreign (ofService_append "--RESOURCE_KEYS--")
  rcases written.content key notLock notIndex with same | ⟨own, _⟩
  · exact same
  · exact absurd rfl own

/-- The key `id` of another handler outlives the delete of the stored file. -/
theorem foreign_keys_kept_crash :
    ∃ middle last, servingInstances.faulty.CrashReaches
        servingInstances.instanceOf
        ⟨Deployment.start textMapper codeRedis, ∅⟩ middle ∧
      middle.pool.state.redis (Keys.resource "mobile" "id") =
        some (textMapper.writeNode "Hai") ∧
      servingInstances.faulty.CrashReaches servingInstances.instanceOf
        middle last ∧
      last.pool.state.redis (Keys.resource "mobile" "id") = none ∧
      last.pool.state.redis "id" = codeRedis "id" := by
  obtain ⟨middle, last, reached, stored, continued, deleted⟩ :=
    servingInstances_crash
  refine ⟨middle, last, reached, stored, continued, deleted,
    foreign_keys_kept textMapper_lawful (reached.trans continued) (by decide)
      ?_⟩
  intro keys indexed
  rw [codeRedis_resourceKeys] at indexed
  cases indexed
  simp

end Runs

end SpringTemplate.Message
