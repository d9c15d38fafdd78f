import SpringTemplate.Message.Replays
import SpringTemplate.Message.Served
import SpringTemplate.Message.TextMapper

/-!
# A reload that ends with an exception

`clear` runs before the new files are read, and nothing restores what it has
deleted.  After an exception a request may therefore be answered without
messages, or with the messages stored so far.  The `finally` block releases
the lock, so the lock stays only when a command on the lock key itself has
failed, and then each of its three commands can leave it there.
-/

namespace SpringTemplate.Message

variable {Node : Type} {dataMapper : DataMapper Node}
  {directories : Directories} {before : Redis} {stage : Stage}

theorem At.requested {trace : ServiceTrace}
    (reached : At dataMapper directories before stage trace) {type : String}
    (client : type = "mobile" ∨ type = "portal")
    (requested : Option String) :
    trace.state (requestedKey requested type) =
      stage.redis dataMapper directories before
        (requestedKey requested type) :=
  reached.content _ (Ne.symm (Keys.lock_ne_resource client _))

/-- After `clear` a key the reload has not stored is unchanged, or it was
listed and is gone. -/
theorem answerOf_deleted {trace : ServiceTrace} {requested : Option String}
    {type : String}
    (content : trace.state (requestedKey requested type) =
      before.delete (listed dataMapper before) (requestedKey requested type)) :
    answerOf dataMapper trace.state requested type =
        answerOf dataMapper before requested type ∨
      (requestedKey requested type ∈ listed dataMapper before ∧
        answerOf dataMapper trace.state requested type =
          .ok (answerWith requested none)) := by
  by_cases named : requestedKey requested type ∈ listed dataMapper before
  · rw [Redis.delete_member before named] at content
    exact .inr ⟨named, answerOf_absent content⟩
  · rw [Redis.delete_other before named] at content
    exact .inl (answerOf_congr content)

/-- The answer for one client type and language at any stage of a reload: the
one from before, the one without messages once `clear` has deleted the listed
key, or the one with the messages the reload has stored. -/
theorem At.answer_cases {trace : ServiceTrace}
    (reached : At dataMapper directories before stage trace) {type : String}
    (client : type = "mobile" ∨ type = "portal")
    (requested : Option String) :
    answerOf dataMapper trace.state requested type =
        answerOf dataMapper before requested type ∨
      (ClearedIn trace ∧
        requestedKey requested type ∈ listed dataMapper before ∧
        answerOf dataMapper trace.state requested type =
          .ok (answerWith requested none)) ∨
      (∃ values bytes, contents dataMapper directories type = .ok values ∧
        values.get? (requestedKey requested type) = some bytes ∧
        StoredIn trace values ∧
        answerOf dataMapper trace.state requested type =
          (dataMapper.readNode bytes).map
            (fun message => answerWith requested (some message))) := by
  have content := reached.requested client requested
  have deleted : stage ≠ .untouched →
      trace.state (requestedKey requested type) =
        before.delete (listed dataMapper before)
          (requestedKey requested type) →
      answerOf dataMapper trace.state requested type =
          answerOf dataMapper before requested type ∨
        (ClearedIn trace ∧
          requestedKey requested type ∈ listed dataMapper before ∧
          answerOf dataMapper trace.state requested type =
            .ok (answerWith requested none)) := by
    intro touched same
    rcases answerOf_deleted same with unchanged | ⟨named, absent⟩
    · exact .inl unchanged
    · exact .inr ⟨reached.cleared touched (List.ne_nil_of_mem named), named,
        absent⟩
  unfold requestedKey at content deleted ⊢
  rw [Stage.redis_resource stage client] at content
  by_cases storedType : type ∈ stage.stored
  · rw [if_pos storedType] at content
    have touched : stage ≠ .untouched := by
      rintro rfl
      simp [Stage.stored] at storedType
    cases found : (loaded dataMapper directories type).get?
        (Keys.resource type
          (MessageServiceImpl.getRequestLanguage requested)) with
    | none =>
        rw [found, Option.none_or] at content
        rcases deleted touched content with unchanged | absent
        · exact .inl unchanged
        · exact .inr (.inl absent)
    | some bytes =>
        rw [found, Option.some_or] at content
        have notEmpty : (loaded dataMapper directories type).keys ≠ [] := by
          apply List.ne_nil_of_mem
          exact ((loaded dataMapper directories type).mem_keys_iff _).mpr
            ⟨bytes, found⟩
        exact .inr (.inr ⟨_, bytes,
          reached.loads (List.ne_nil_of_mem storedType) type client, found,
          reached.storing type storedType notEmpty,
          answerOf_present content⟩)
  · rw [if_neg storedType] at content
    split at content
    · exact .inl (answerOf_congr content)
    · rename_i touched
      rcases deleted touched content with unchanged | absent
      · exact .inl unchanged
      · exact .inr (.inl absent)

/-- What is left of the answers and of the lock when a reload ends with an
exception, whichever calls have failed. -/
theorem reloadBean_exception {error : MessageException}
    {later : ServiceTrace}
    (ends : (environment directories).Ends (fun _ _ => True)
      (Environment.start before) (deployed dataMapper).reloadBean
      (.error error) later) :
    (∀ type, type = "mobile" ∨ type = "portal" →
      ∀ requested : Option String,
        answerOf dataMapper later.state requested type =
            answerOf dataMapper before requested type ∨
          (ClearedIn later ∧
            requestedKey requested type ∈ listed dataMapper before ∧
            answerOf dataMapper later.state requested type =
              .ok (answerWith requested none)) ∨
          (∃ values bytes,
            contents dataMapper directories type = .ok values ∧
            values.get? (requestedKey requested type) = some bytes ∧
            StoredIn later values ∧
            answerOf dataMapper later.state requested type =
              (dataMapper.readNode bytes).map
                (fun message => answerWith requested (some message)))) ∧
      (later.state Keys.lock = none ∨ LockKeptIn before later) := by
  obtain ⟨⟨stage, reached⟩, lock⟩ := reloadBean_ends ends
  refine ⟨?_, lock⟩
  intro type client requested
  exact reached.answer_cases client requested

/-! ## A file that cannot be read -/

/-- One mobile message file in the default language, stored and indexed. -/
def servedRedis : Redis :=
  (Redis.set (fun _ => none) (Keys.resource "mobile" "id")
    (textMapper.writeNode "Halo")).set Keys.resourceKeys
    (textMapper.writeKeys [Keys.resource "mobile" "id"])

def unreadableMobile : Directories := fun type =>
  if type = "mobile" then .ok [⟨"id.json", .error .file⟩] else .ok []

theorem servedRedis_lock : servedRedis Keys.lock = none := by
  have notIndex : Keys.lock ≠ Keys.resourceKeys := by decide
  have notResource : Keys.lock ≠ Keys.resource "mobile" "id" := by decide
  simp [servedRedis, Redis.set, notIndex, notResource]

theorem servedRedis_resource :
    servedRedis (Keys.resource "mobile" "id") =
      some (textMapper.writeNode "Halo") := by
  have notIndex : Keys.resource "mobile" "id" ≠ Keys.resourceKeys := by decide
  simp [servedRedis, Redis.set, notIndex]

theorem servedRedis_answer :
    answerOf textMapper servedRedis none "mobile" =
      .ok (answerWith none (some "Halo")) := by
  rw [answerOf_present servedRedis_resource, TextMapper.readNode_writeNode]
  rfl

theorem servedRedis_index :
    (deployed textMapper).indexedKeys (servedRedis Keys.resourceKeys) =
      .ok [Keys.resourceKeys, Keys.resource "mobile" "id"] := by
  have stored : servedRedis Keys.resourceKeys =
      some (textMapper.writeKeys [Keys.resource "mobile" "id"]) := by
    simp [servedRedis, Redis.set]
  rw [stored]
  exact TextMapper.indexedKeys_writeKeys [Keys.resource "mobile" "id"]

theorem unreadableMobile_ends :
    ∃ later, (environment unreadableMobile).Ends (fun _ _ => True)
        (Environment.start servedRedis) (deployed textMapper).reloadBean
        (.error .file) later ∧
      later.state (Keys.resource "mobile" "id") = none ∧
      later.state Keys.lock = none := by
  have body : ∀ locked : ServiceTrace,
      locked.state = servedRedis.set Keys.lock "1".toUTF8 →
      ∃ ended, (environment unreadableMobile).replay (fun _ => answered)
          locked (deployed textMapper).reloadBody = (ended, .error .file) ∧
        ended.state (Keys.resource "mobile" "id") = none := by
    intro locked lockedState
    have indexed := servedRedis_index
    rw [← Redis.set_other servedRedis "1".toUTF8
      (Ne.symm Keys.lock_ne_resourceKeys), ← lockedState] at indexed
    obtain ⟨cleared, clears, clearedState⟩ :=
      replay_clear unreadableMobile locked answering_answered indexed
    obtain ⟨ended, loads, endedState⟩ :=
      replay_loadResource textMapper unreadableMobile (fun _ => answered)
        cleared "mobile"
    have unreadable : contents textMapper unreadableMobile "mobile" =
        .error .file := rfl
    rw [unreadable] at loads
    refine ⟨ended, ?_, ?_⟩
    · simp only [MessageServiceImpl.reloadBody, Environment.replay_bind,
        clears, loads]
    · rw [endedState, clearedState]
      exact Redis.delete_member _ (by simp)
  obtain ⟨ended, later, replayed, absent, laterState, _⟩ :=
    replay_reloadBean answering_answered servedRedis_lock body
  have ends := (environment unreadableMobile).replay_ends
    (fun _ _ => True) (fun _ => answered) (fun _ _ => trivial)
    (Environment.start servedRedis) (deployed textMapper).reloadBean
  rw [replayed] at ends
  refine ⟨later, ends, ?_, ?_⟩
  · rw [laterState, Redis.delete_other _ (by decide)]
    exact absent
  · rw [laterState]
    exact Redis.delete_member _ (List.mem_singleton_self _)

/-! ## A command on the lock key that fails -/

/-- The calls are answered, save the given faults on the lock key. -/
def lockFaults (get set delete : Fault) :
    Nat → (call : Call) → Outcome call
  | _, .get key => if key = Keys.lock then get else .answered
  | _, .set key _ => if key = Keys.lock then set else .answered
  | _, .delete keys => if keys = [Keys.lock] then delete else .answered
  | _, call => answered call

def unreadableDirectories : Directories := fun _ => .error .file

def lockedRedis : Redis :=
  Redis.set (fun _ => none) Keys.lock "1".toUTF8

theorem lockFaults_ends (get set delete : Fault) (before : Redis) :
    (environment unreadableDirectories).Ends (fun _ _ => True)
      (Environment.start before) (deployed textMapper).reloadBean
      ((environment unreadableDirectories).replay (lockFaults get set delete)
        (Environment.start before) (deployed textMapper).reloadBean).2
      ((environment unreadableDirectories).replay (lockFaults get set delete)
        (Environment.start before) (deployed textMapper).reloadBean).1 :=
  (environment unreadableDirectories).replay_ends _ _ (fun _ _ => trivial)
    _ _

/-- A reload with this event fails and leaves the lock. -/
def LeavesLock (before : Redis) (event : Event Outcome) : Prop :=
  ∃ later, (environment unreadableDirectories).Ends (fun _ _ => True)
      (Environment.start before) (deployed textMapper).reloadBean
      (.error .redis) later ∧
    event ∈ later.events ∧ later.state Keys.lock ≠ none

theorem leavesLock_get :
    LeavesLock lockedRedis ⟨.get Keys.lock, Fault.refused⟩ :=
  ⟨_, lockFaults_ends .refused .answered .answered lockedRedis,
    List.mem_of_getElem? (i := 1) rfl, by rintro ⟨⟩⟩

theorem leavesLock_set :
    LeavesLock (fun _ => none) ⟨.set Keys.lock "1".toUTF8, Fault.lost⟩ :=
  ⟨_, lockFaults_ends .answered .lost .answered (fun _ => none),
    List.mem_of_getElem? (i := 2) rfl, by rintro ⟨⟩⟩

theorem leavesLock_delete :
    LeavesLock (fun _ => none) ⟨.delete [Keys.lock], Fault.refused⟩ :=
  ⟨_, lockFaults_ends .answered .answered .refused (fun _ => none),
    List.mem_of_getElem? (i := 7) rfl, by rintro ⟨⟩⟩

/-! ## Both halves -/

/-- The reload ends with the exception of the unreadable file, and the
messages served before are gone; a lock that cannot be read, one that is set
without an answer and one whose delete is refused stay. -/
theorem reloadBean_loses_messages :
    (∃ later, (environment unreadableMobile).Ends (fun _ _ => True)
        (Environment.start servedRedis) (deployed textMapper).reloadBean
        (.error .file) later ∧
      answerOf textMapper servedRedis none "mobile" =
        .ok (answerWith none (some "Halo")) ∧
      answerOf textMapper later.state none "mobile" =
        .ok (answerWith none none)) ∧
    LeavesLock lockedRedis ⟨.get Keys.lock, Fault.refused⟩ ∧
    LeavesLock (fun _ => none) ⟨.set Keys.lock "1".toUTF8, Fault.lost⟩ ∧
    LeavesLock (fun _ => none) ⟨.delete [Keys.lock], Fault.refused⟩ := by
  obtain ⟨later, ends, absent, _⟩ := unreadableMobile_ends
  exact ⟨⟨later, ends, servedRedis_answer, answerOf_absent absent⟩,
    leavesLock_get, leavesLock_set, leavesLock_delete⟩

/-- The delete of `clear` has taken the messages, and the lock is free. -/
theorem reloadBean_exception_unreadable :
    ∃ later, (environment unreadableMobile).Ends (fun _ _ => True)
        (Environment.start servedRedis) (deployed textMapper).reloadBean
        (.error .file) later ∧
      ClearedIn later ∧
      answerOf textMapper servedRedis none "mobile" =
        .ok (answerWith none (some "Halo")) ∧
      answerOf textMapper later.state none "mobile" =
        .ok (answerWith none none) ∧
      later.state Keys.lock = none := by
  obtain ⟨later, ends, absent, unlocked⟩ := unreadableMobile_ends
  have gone : answerOf textMapper later.state none "mobile" =
      .ok (answerWith none none) := answerOf_absent absent
  refine ⟨later, ends, ?_, servedRedis_answer, gone, unlocked⟩
  rcases (reloadBean_exception ends).1 "mobile" (.inl rfl) none with
    same | ⟨cleared, _⟩ | ⟨_, _, loads, _⟩
  · rw [servedRedis_answer] at same
    exact absurd (gone.symm.trans same) (by rintro ⟨⟩)
  · exact cleared
  · cases loads

end SpringTemplate.Message
