import SpringTemplate.Message.Stages

/-!
# A reload call by call

Where the calls of a method are answered, the method returns, and what it
leaves in Redis is known.  The runs of particular reloads are put together
from these facts, up to the calls that differ.
-/

namespace SpringTemplate.Message

variable {Node : Type} {dataMapper : DataMapper Node}
  {directories : Directories} {outcomes : Nat → (call : Call) → Outcome call}

/-- The calls a reload makes before it writes its index are answered. -/
structure Answering (outcomes : Nat → (call : Call) → Outcome call) :
    Prop where
  get : ∀ n key, outcomes n (.get key) = .answered
  lock : ∀ n value, outcomes n (.set Keys.lock value) = .answered
  multiSet : ∀ n values, outcomes n (.multiSet values) = .answered
  delete : ∀ n keys, outcomes n (.delete keys) = .answered

theorem answering_answered : Answering (fun _ => answered) :=
  ⟨fun _ _ => rfl, fun _ _ => rfl, fun _ _ => rfl, fun _ _ => rfl⟩

section Methods

variable (directories) (trace : ServiceTrace)

theorem replay_get (answering : Answering outcomes) (key : String) :
    ∃ later, (environment directories).replay outcomes trace
        (send (.get key)) = (later, .ok (trace.state key)) ∧
      later.state = trace.state := by
  simp [environment, answering.get]

theorem replay_lock (answering : Answering outcomes)
    (unlocked : trace.state Keys.lock = none) :
    ∃ later, (environment directories).replay outcomes trace (lock true) =
        (later, .ok true) ∧
      later.state = trace.state.set Keys.lock "1".toUTF8 := by
  simp [lock, synchronized, lockBody, environment, write, answering.get,
    answering.lock, unlocked]

theorem replay_lock_refused (answering : Answering outcomes) {bytes : Bytes}
    (locked : trace.state Keys.lock = some bytes) :
    ∃ later, (environment directories).replay outcomes trace (lock true) =
      (later, .ok false) := by
  simp [lock, synchronized, lockBody, environment, answering.get, locked]

theorem replay_unlock (answering : Answering outcomes) :
    ∃ later, (environment directories).replay outcomes trace (lock false) =
        (later, .ok true) ∧
      later.state = trace.state.delete [Keys.lock] ∧
      ∀ event ∈ trace.events, event ∈ later.events := by
  simp +contextual [lock, synchronized, lockBody, environment, write,
    answering.delete]

theorem replay_clear (answering : Answering outcomes) {keys : List String}
    (indexed : (deployed dataMapper).indexedKeys
      (trace.state Keys.resourceKeys) = .ok keys) :
    ∃ later, (environment directories).replay outcomes trace
        (deployed dataMapper).clear = (later, .ok ()) ∧
      later.state = trace.state.delete keys := by
  have flag : (deployed dataMapper).isMessageImplemented = false := rfl
  cases keys with
  | nil =>
      simp [MessageServiceImpl.clear, environment, answering.get, ofExcept,
        indexed, flag]
  | cons first rest =>
      simp [MessageServiceImpl.clear, environment, answering.get, ofExcept,
        indexed, flag, write, answering.delete]

variable (dataMapper outcomes) in
theorem replay_loadResource (type : String) :
    ∃ later, (environment directories).replay outcomes trace
        ((deployed dataMapper).loadResource type) =
          (later, contents dataMapper directories type) ∧
      later.state = trace.state := by
  rw [contents]
  cases listing : directories type <;>
    simp [MessageServiceImpl.loadResource, environment, ofExcept, listing]
  · rfl
  · rfl

theorem replay_multiSet (answering : Answering outcomes)
    (values : OrderedMap String Bytes) :
    ∃ later, (environment directories).replay outcomes trace
        (MessageServiceImpl.multiSet values) = (later, .ok ()) ∧
      later.state = trace.state.multiSet values := by
  rw [MessageServiceImpl.multiSet]
  split
  · rename_i empty
    refine ⟨trace, rfl, ?_⟩
    ext1 key
    have absent : key ∉ values.keys := by
      rw [List.isEmpty_iff.mp empty]
      exact List.not_mem_nil
    exact (Redis.multiSet_other _ absent).symm
  · simp [environment, write, answering.multiSet]

end Methods

/-- The body up to the write of the index. -/
theorem replay_reloadBody (trace : ServiceTrace)
    (answering : Answering outcomes) {keys : List String}
    {mobile portal : OrderedMap String Bytes}
    (indexed : (deployed dataMapper).indexedKeys
      (trace.state Keys.resourceKeys) = .ok keys)
    (mobileLoads : contents dataMapper directories "mobile" = .ok mobile)
    (portalLoads : contents dataMapper directories "portal" = .ok portal) :
    ∃ stored : ServiceTrace,
      (environment directories).replay outcomes trace
        (deployed dataMapper).reloadBody =
        (environment directories).replay outcomes stored (do
          send (.set Keys.resourceKeys
            (dataMapper.writeKeys (mobile.keys ∪ portal.keys)))
          send .loadMessage) ∧
      stored.state =
        ((trace.state.delete keys).multiSet mobile).multiSet portal := by
  obtain ⟨cleared, clears, clearedState⟩ :=
    replay_clear directories trace answering indexed
  obtain ⟨first, loadsMobile, firstState⟩ :=
    replay_loadResource dataMapper directories outcomes cleared "mobile"
  obtain ⟨second, loadsPortal, secondState⟩ :=
    replay_loadResource dataMapper directories outcomes first "portal"
  obtain ⟨third, storesMobile, thirdState⟩ :=
    replay_multiSet directories second answering mobile
  obtain ⟨stored, storesPortal, storedState⟩ :=
    replay_multiSet directories third answering portal
  rw [mobileLoads] at loadsMobile
  rw [portalLoads] at loadsPortal
  refine ⟨stored, ?_, ?_⟩
  · simp only [MessageServiceImpl.reloadBody, Environment.replay_bind,
      clears, loadsMobile, loadsPortal, storesMobile, storesPortal]
    rfl
  · rw [storedState, thirdState, secondState, firstState, clearedState]

/-- A reload whose lock is free, from what its body does. -/
theorem replay_reloadBean (answering : Answering outcomes) {redis : Redis}
    {result : Except MessageException Unit} {after : ServiceTrace → Prop}
    (unlocked : redis Keys.lock = none)
    (body : ∀ locked : ServiceTrace,
      locked.state = redis.set Keys.lock "1".toUTF8 →
      ∃ ended, (environment directories).replay outcomes locked
        (deployed dataMapper).reloadBody = (ended, result) ∧ after ended) :
    ∃ ended final, (environment directories).replay outcomes
        (Environment.start redis) (deployed dataMapper).reloadBean =
        (final, result.map (fun _ => true)) ∧ after ended ∧
      final.state = ended.state.delete [Keys.lock] ∧
      ∀ event ∈ ended.events, event ∈ final.events := by
  obtain ⟨locked, locks, lockedState⟩ :=
    replay_lock directories (Environment.start redis) answering unlocked
  obtain ⟨ended, runs, reached⟩ := body locked lockedState
  obtain ⟨final, unlocks, finalState, events⟩ :=
    replay_unlock directories ended answering
  refine ⟨ended, final, ?_, reached, finalState, events⟩
  simp only [MessageServiceImpl.reloadBean, Environment.replay_bind, locks,
    if_true, Environment.replay_tryFinally, runs, unlocks]
  cases result <;> rfl

section Reloads

variable {redis : Redis} {keys : List String}
  {mobile portal : OrderedMap String Bytes}

/-- What Redis holds before the index is written. -/
def storedRedis (redis : Redis) (keys : List String)
    (mobile portal : OrderedMap String Bytes) : Redis :=
  (((redis.set Keys.lock "1".toUTF8).delete keys).multiSet mobile).multiSet
    portal

/-- A reload of files that can be read, up to the write of the index. -/
theorem replay_indexing (answering : Answering outcomes)
    (unlocked : redis Keys.lock = none)
    (indexed : (deployed dataMapper).indexedKeys
      (redis Keys.resourceKeys) = .ok keys)
    (mobileLoads : contents dataMapper directories "mobile" = .ok mobile)
    (portalLoads : contents dataMapper directories "portal" = .ok portal)
    {result : Except MessageException Unit} {after : ServiceTrace → Prop}
    (indexing : ∀ stored : ServiceTrace,
      stored.state = storedRedis redis keys mobile portal →
      ∃ ended, (environment directories).replay outcomes stored (do
          send (.set Keys.resourceKeys
            (dataMapper.writeKeys (mobile.keys ∪ portal.keys)))
          send .loadMessage) = (ended, result) ∧ after ended) :
    ∃ ended final, (environment directories).replay outcomes
        (Environment.start redis) (deployed dataMapper).reloadBean =
        (final, result.map (fun _ => true)) ∧ after ended ∧
      final.state = ended.state.delete [Keys.lock] ∧
      ∀ event ∈ ended.events, event ∈ final.events := by
  apply replay_reloadBean answering unlocked
  intro locked lockedState
  have kept : locked.state Keys.resourceKeys = redis Keys.resourceKeys := by
    rw [lockedState, Redis.set_other _ _ (Ne.symm Keys.lock_ne_resourceKeys)]
  rw [← kept] at indexed
  obtain ⟨stored, runs, storedState⟩ :=
    replay_reloadBody locked answering indexed mobileLoads portalLoads
  rw [lockedState] at storedState
  rw [runs]
  exact indexing stored storedState

/-- Without faults, and with files that can be read, a reload succeeds. -/
theorem reload_answered (unlocked : redis Keys.lock = none)
    (indexed : (deployed dataMapper).indexedKeys
      (redis Keys.resourceKeys) = .ok keys)
    (mobileLoads : contents dataMapper directories "mobile" = .ok mobile)
    (portalLoads : contents dataMapper directories "portal" = .ok portal) :
    ∃ final : ServiceTrace,
      (environment directories).replay (fun _ => answered)
        (Environment.start redis) (deployed dataMapper).reloadBean =
          (final, .ok true) ∧
      final.state = ((storedRedis redis keys mobile portal).set
        Keys.resourceKeys
        (dataMapper.writeKeys (mobile.keys ∪ portal.keys))).delete
          [Keys.lock] ∧
      IndexedIn final := by
  have indexing : ∀ stored : ServiceTrace,
      stored.state = storedRedis redis keys mobile portal →
      ∃ ended, (environment directories).replay (fun _ => answered) stored (do
          send (.set Keys.resourceKeys
            (dataMapper.writeKeys (mobile.keys ∪ portal.keys)))
          send .loadMessage) = (ended, .ok ()) ∧
        ended.state = (storedRedis redis keys mobile portal).set
          Keys.resourceKeys
          (dataMapper.writeKeys (mobile.keys ∪ portal.keys)) ∧
        IndexedIn ended := by
    intro stored storedState
    simp only [Environment.replay_bind, Environment.replay_perform, environment,
      answered, write, storedState, Environment.record_state]
    refine ⟨_, rfl, ?_,
      dataMapper.writeKeys (mobile.keys ∪ portal.keys), .answered,
      by simp [Fault.Executed], ?_⟩
    · simp [environment, write, storedState]
    · exact List.mem_append_left _ (Environment.mem_record_events _ _ _ _)
  obtain ⟨ended, final, runs, ⟨endedState, written⟩, finalState, events⟩ :=
    replay_indexing answering_answered unlocked indexed mobileLoads
      portalLoads indexing
  refine ⟨final, runs, ?_, ?_⟩
  · rw [finalState, endedState]
  · obtain ⟨value, fault, executed, event⟩ := written
    exact ⟨value, fault, executed, events _ event⟩

end Reloads

end SpringTemplate.Message
