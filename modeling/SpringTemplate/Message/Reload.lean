import SpringTemplate.Message.Stages

/-!
# What a reload does to Redis

One specification for each method of the service, in the order of
`reloadBean`.  Each starts from a trace at one stage and says at which stages
the method can end, with which result.  `Staged` is the invariant that holds
before every call of the reload, and so in every intermediate Redis state.
-/

namespace SpringTemplate.Message

variable {Node : Type} {dataMapper : DataMapper Node}
  {directories : Directories} {before : Redis} {stage : Stage}
  {allowed : (call : Call) → Outcome call → Prop}

/-! ## Recording one more call -/

section Record

variable {trace : ServiceTrace} {call : Call} {outcome : Outcome call}
  {values : OrderedMap String Bytes}

theorem ClearedIn.record (cleared : ClearedIn trace) (call : Call)
    (outcome : Outcome call) :
    ClearedIn ((environment directories).record trace call outcome) := by
  obtain ⟨keys, fault, named, executed, member⟩ := cleared
  exact ⟨keys, fault, named, executed, List.mem_append_left _ member⟩

theorem StoredIn.record (stored : StoredIn trace values) (call : Call)
    (outcome : Outcome call) :
    StoredIn ((environment directories).record trace call outcome)
      values := by
  obtain ⟨fault, executed, member⟩ := stored
  exact ⟨fault, executed, List.mem_append_left _ member⟩

theorem StoredIn.of_record
    (stored : StoredIn
      ((environment directories).record trace call outcome) values)
    (otherCall : call ≠ .multiSet values) : StoredIn trace values := by
  obtain ⟨fault, executed, member⟩ := stored
  rcases List.mem_append.mp member with earlier | last
  · exact ⟨fault, executed, earlier⟩
  · have same := List.mem_singleton.mp last
    exact absurd (congrArg Event.op same).symm otherCall

theorem StoredIn.of_refused {written : OrderedMap String Bytes}
    (stored : StoredIn ((environment directories).record trace
      (.multiSet written) Fault.refused) values) : StoredIn trace values := by
  obtain ⟨fault, executed, member⟩ := stored
  rcases List.mem_append.mp member with earlier | last
  · exact ⟨fault, executed, earlier⟩
  · have same := List.mem_singleton.mp last
    cases same
    exact absurd rfl executed

theorem IndexedIn.of_record
    (indexed : IndexedIn
      ((environment directories).record trace call outcome))
    (otherCall : ∀ value, call ≠ .set Keys.resourceKeys value) :
    IndexedIn trace := by
  obtain ⟨value, fault, executed, member⟩ := indexed
  rcases List.mem_append.mp member with earlier | last
  · exact ⟨value, fault, executed, earlier⟩
  · have same := List.mem_singleton.mp last
    exact absurd (congrArg Event.op same).symm (otherCall value)

theorem IndexedIn.of_refused {written : Bytes}
    (indexed : IndexedIn ((environment directories).record trace
      (.set Keys.resourceKeys written) Fault.refused)) :
    IndexedIn trace := by
  obtain ⟨value, fault, executed, member⟩ := indexed
  rcases List.mem_append.mp member with earlier | last
  · exact ⟨value, fault, executed, earlier⟩
  · have same := List.mem_singleton.mp last
    cases same
    exact absurd rfl executed

theorem At.record_quiet
    (reached : At dataMapper directories before stage trace)
    (unchanged : ∀ key, key ≠ Keys.lock →
      (environment directories trace.state call outcome).1 key =
        trace.state key)
    (noStore : ∀ values,
      StoredIn ((environment directories).record trace call outcome) values →
      StoredIn trace values)
    (noIndex :
      IndexedIn ((environment directories).record trace call outcome) →
      IndexedIn trace) :
    At dataMapper directories before stage
      ((environment directories).record trace call outcome) where
  content := by
    intro key notLock
    exact (unchanged key notLock).trans (reached.content key notLock)
  loads := reached.loads
  cleared := by
    intro touched named
    exact (reached.cleared touched named).record call outcome
  stored := by
    intro values stored
    exact reached.stored values (noStore values stored)
  storing := by
    intro type member notEmpty
    exact (reached.storing type member notEmpty).record call outcome
  indexing := by
    intro indexed
    exact reached.indexing (noIndex indexed)

/-- A call that is neither a multi-set nor a write of the index, and leaves
every key but the lock alone. -/
theorem At.record_other
    (reached : At dataMapper directories before stage trace)
    (unchanged : ∀ key, key ≠ Keys.lock →
      (environment directories trace.state call outcome).1 key =
        trace.state key)
    (noStore : ∀ values, call ≠ .multiSet values)
    (noIndex : ∀ value, call ≠ .set Keys.resourceKeys value) :
    At dataMapper directories before stage
      ((environment directories).record trace call outcome) :=
  reached.record_quiet unchanged
    (fun values stored => stored.of_record (noStore values))
    (fun indexed => indexed.of_record noIndex)

theorem At.record_clear {fault : Fault}
    (reached : At dataMapper directories before .untouched trace)
    (named : Keys.resourceKeys ∈ listed dataMapper before)
    (executed : fault.Executed) :
    At dataMapper directories before .cleared
      ((environment directories).record trace
        (.delete (listed dataMapper before)) fault) where
  content := by
    intro key notLock
    have content := reached.content key notLock
    have deleted :
        (environment directories trace.state
          (.delete (listed dataMapper before)) fault).1 =
          trace.state.delete (listed dataMapper before) := by
      cases fault with
      | answered => rfl
      | refused => exact absurd rfl executed
      | lost => rfl
    simp only [Environment.record_state, deleted, Redis.delete, content,
      Stage.redis]
  loads := by simp [Stage.stored]
  cleared := by
    intro _ _
    exact ⟨_, fault, named, executed, by simp⟩
  stored := by
    intro values stored
    obtain ⟨type, member, _⟩ := reached.stored values
      (stored.of_record (by simp))
    simp [Stage.stored] at member
  storing := by simp [Stage.stored]
  indexing := by
    intro indexed
    have impossible := reached.indexing (indexed.of_record (by simp))
    simp at impossible

theorem At.cleared_of_unlisted
    (reached : At dataMapper directories before .untouched trace)
    (unlisted : listed dataMapper before = []) :
    At dataMapper directories before .cleared trace where
  content := by
    intro key notLock
    rw [reached.content key notLock]
    simp [Stage.redis, unlisted]
  loads := by simp [Stage.stored]
  cleared := by
    intro _ named
    exact absurd unlisted named
  stored := reached.stored
  storing := by simp [Stage.stored]
  indexing := by
    intro indexed
    have impossible := reached.indexing indexed
    simp at impossible

end Record

/-- `later` is the stage after `stage` that stores the files of `type`, which
have been read. -/
structure StoresNext (dataMapper : DataMapper Node)
    (directories : Directories) (before : Redis) (stage later : Stage)
    (type : String) : Prop where
  loads : ∀ type, type = "mobile" ∨ type = "portal" →
    contents dataMapper directories type =
      .ok (loaded dataMapper directories type)
  stored : later.stored = stage.stored ++ [type]
  written : later.redis dataMapper directories before =
    (stage.redis dataMapper directories before).multiSet
      (loaded dataMapper directories type)
  touched : stage ≠ .untouched
  unindexed : stage ≠ .indexed

section Store

variable {later : Stage} {type : String} {trace : ServiceTrace}

theorem At.record_multiSet {fault : Fault}
    (reached : At dataMapper directories before stage trace)
    (next : StoresNext dataMapper directories before stage later type)
    (executed : fault.Executed) :
    At dataMapper directories before later
      ((environment directories).record trace
        (.multiSet (loaded dataMapper directories type)) fault) where
  content := by
    intro key notLock
    have content := reached.content key notLock
    have multiSet :
        (environment directories trace.state
          (.multiSet (loaded dataMapper directories type)) fault).1 =
          trace.state.multiSet (loaded dataMapper directories type) := by
      cases fault with
      | answered => rfl
      | refused => exact absurd rfl executed
      | lost => rfl
    simp only [Environment.record_state, multiSet, Redis.multiSet, content,
      next.written]
  loads := fun _ => next.loads
  cleared := by
    intro _ named
    exact (reached.cleared next.touched named).record _ _
  stored := by
    intro values storedLater
    rw [next.stored]
    by_cases same : values = loaded dataMapper directories type
    · exact ⟨type, by simp, same⟩
    · have otherCall :
          Call.multiSet (loaded dataMapper directories type) ≠
            .multiSet values := by
        intro equality
        exact same (Call.multiSet.inj equality).symm
      obtain ⟨earlier, member, equality⟩ := reached.stored values
        (storedLater.of_record otherCall)
      exact ⟨earlier, List.mem_append_left _ member, equality⟩
  storing := by
    intro other member notEmpty
    rw [next.stored] at member
    rcases List.mem_append.mp member with earlier | last
    · exact (reached.storing other earlier notEmpty).record _ _
    · rw [List.mem_singleton.mp last]
      exact ⟨fault, executed, by simp⟩
  indexing := by
    intro indexed
    exact absurd (reached.indexing (indexed.of_record (by simp))) next.unindexed

theorem At.multiSet_of_empty
    (reached : At dataMapper directories before stage trace)
    (next : StoresNext dataMapper directories before stage later type)
    (empty : (loaded dataMapper directories type).keys = []) :
    At dataMapper directories before later trace where
  content := by
    intro key notLock
    rw [reached.content key notLock, next.written, Redis.multiSet_other]
    simp [empty]
  loads := fun _ => next.loads
  cleared := fun _ => reached.cleared next.touched
  stored := by
    intro values storedEarlier
    obtain ⟨earlier, member, equality⟩ := reached.stored values storedEarlier
    exact ⟨earlier, by rw [next.stored]; exact List.mem_append_left _ member,
      equality⟩
  storing := by
    intro other member notEmpty
    rw [next.stored] at member
    rcases List.mem_append.mp member with earlier | last
    · exact reached.storing other earlier notEmpty
    · rw [List.mem_singleton.mp last] at notEmpty
      exact absurd empty notEmpty
  indexing := fun indexed => absurd (reached.indexing indexed) next.unindexed

theorem At.record_index {fault : Fault}
    (reached : At dataMapper directories before .portalStored trace)
    (executed : fault.Executed) :
    At dataMapper directories before .indexed
      ((environment directories).record trace
        (.set Keys.resourceKeys (index dataMapper directories)) fault) where
  content := by
    intro key notLock
    have content := reached.content key notLock
    have set :
        (environment directories trace.state
          (.set Keys.resourceKeys (index dataMapper directories)) fault).1 =
          trace.state.set Keys.resourceKeys
            (index dataMapper directories) := by
      cases fault with
      | answered => rfl
      | refused => exact absurd rfl executed
      | lost => rfl
    simp only [Environment.record_state, set, Redis.set, content,
      Stage.redis]
  loads := fun _ => reached.loads (by simp [Stage.stored])
  cleared := by
    intro _ named
    exact (reached.cleared (by simp) named).record _ _
  stored := by
    intro values stored
    exact reached.stored values (stored.of_record (by simp))
  storing := by
    intro type member notEmpty
    exact (reached.storing type member notEmpty).record _ _
  indexing := fun _ => rfl

end Store

/-! ## One method of the service after another -/

def Staged (dataMapper : DataMapper Node) (directories : Directories)
    (before : Redis) (trace : ServiceTrace) : Prop :=
  ∃ stage, At dataMapper directories before stage trace

/-- The call rules of a reload, with `Staged` to show before every call. -/
abbrev reloadRules (dataMapper : DataMapper Node) (directories : Directories)
    (before : Redis) (allowed : (call : Call) → Outcome call → Prop) :
    CallRules Call Answer MessageException ServiceTrace :=
  (environment directories).guarded allowed
    (Staged dataMapper directories before)

theorem resourceKeys_mem_indexedKeys {value : Option Bytes}
    {keys : List String}
    (indexed : (deployed dataMapper).indexedKeys value = .ok keys)
    (notEmpty : keys ≠ []) : Keys.resourceKeys ∈ keys := by
  cases value with
  | none =>
      simp only [MessageServiceImpl.indexedKeys, Except.ok.injEq] at indexed
      exact absurd indexed.symm notEmpty
  | some bytes =>
      simp only [MessageServiceImpl.indexedKeys] at indexed
      cases read : (deployed dataMapper).dataMapper.readKeys bytes with
      | error error => simp [read, bind, Except.bind] at indexed
      | ok resources =>
          simp only [read, bind, Except.bind, pure, Except.pure,
            Except.ok.injEq] at indexed
          rw [← indexed]
          exact List.mem_insert_self

theorem clear_spec {trace : ServiceTrace}
    {post : Except MessageException Unit → ServiceTrace → Prop}
    (reached : At dataMapper directories before .untouched trace)
    (ends : ∀ later, At dataMapper directories before .cleared later →
      post (.ok ()) later)
    (fails : ∀ stage error later,
      At dataMapper directories before stage later →
      post (.error error) later) :
    (deployed dataMapper).clear.wp
      (reloadRules dataMapper directories before allowed) post trace := by
  have read : trace.state Keys.resourceKeys = before Keys.resourceKeys :=
    reached.content _ (Ne.symm Keys.lock_ne_resourceKeys)
  have afterGet : ∀ fault : Fault,
      At dataMapper directories before .untouched
        ((environment directories).record trace
          (.get Keys.resourceKeys) fault) := by
    intro fault
    apply reached.record_other
    · intro key _
      cases fault <;> rfl
    · simp
    · simp
  simp only [MessageServiceImpl.clear, Program.wp_bind, Program.wp_perform]
  refine ⟨⟨_, reached⟩, ?_⟩
  intro fault permitted
  cases fault with
  | refused => exact fails _ _ _ (afterGet .refused)
  | lost => exact fails _ _ _ (afterGet .lost)
  | answered =>
      have got := afterGet .answered
      simp only [environment, Program.andThen_ok, Program.wp_bind,
        wp_ofExcept, read]
      cases keysResult : (deployed dataMapper).indexedKeys
          (before Keys.resourceKeys) with
      | error error => exact fails _ _ _ got
      | ok keys =>
          have names : listed dataMapper before = keys := by
            simp [listed, keysResult]
          simp only [Program.andThen_ok, deployed, Bool.false_eq_true,
            if_false, Program.wp_bind, Program.wp_pure]
          cases empty : keys.isEmpty with
          | true =>
              have unlisted : keys = [] := List.isEmpty_iff.mp empty
              simp only [if_true, Program.wp_pure]
              exact ends _ (got.cleared_of_unlisted (names.trans unlisted))
          | false =>
              have notEmpty : keys ≠ [] := by
                intro unlisted
                simp [unlisted] at empty
              have named : Keys.resourceKeys ∈ listed dataMapper before := by
                rw [names]
                exact resourceKeys_mem_indexedKeys keysResult notEmpty
              simp only [Bool.false_eq_true, if_false, Program.wp_perform]
              refine ⟨⟨_, got⟩, ?_⟩
              intro fault permitted
              subst names
              cases fault with
              | answered =>
                  exact ends _ (got.record_clear named (by simp [Fault.Executed]))
              | refused =>
                  exact fails _ _ _ (got.record_other (fun _ _ => rfl)
                    (by simp) (by simp))
              | lost =>
                  exact fails _ _ _ (got.record_clear named
                    (by simp [Fault.Executed]))

theorem loadResource_spec {trace : ServiceTrace} {type : String}
    {post : Except MessageException (OrderedMap String Bytes) →
      ServiceTrace → Prop}
    (reached : At dataMapper directories before stage trace)
    (ends : ∀ later, At dataMapper directories before stage later →
      post (contents dataMapper directories type) later) :
    ((deployed dataMapper).loadResource type).wp
      (reloadRules dataMapper directories before allowed) post trace := by
  simp only [MessageServiceImpl.loadResource, Program.wp_bind,
    Program.wp_perform]
  refine ⟨⟨_, reached⟩, ?_⟩
  intro outcome permitted
  have recorded : At dataMapper directories before stage
      ((environment directories).record trace (.getResources type)
        outcome) :=
    reached.record_other (fun _ _ => rfl) (by simp) (by simp)
  have after := ends _ recorded
  cases resources : directories type with
  | error error =>
      simp only [contents, resources] at after
      simp only [environment, resources, Program.andThen_error]
      exact after
  | ok files =>
      simp only [contents, resources] at after
      simp only [environment, resources, Program.andThen_ok, wp_ofExcept]
      exact after

theorem multiSet_spec {trace : ServiceTrace} {later : Stage} {type : String}
    {post : Except MessageException Unit → ServiceTrace → Prop}
    (reached : At dataMapper directories before stage trace)
    (next : StoresNext dataMapper directories before stage later type)
    (ends : ∀ after, At dataMapper directories before later after →
      post (.ok ()) after)
    (fails : ∀ stage error after,
      At dataMapper directories before stage after →
      post (.error error) after) :
    (MessageServiceImpl.multiSet (loaded dataMapper directories type)).wp
      (reloadRules dataMapper directories before allowed) post trace := by
  unfold MessageServiceImpl.multiSet
  cases empty : (loaded dataMapper directories type).keys.isEmpty with
  | true =>
      simp only [if_true, Program.wp_pure]
      exact ends _ (reached.multiSet_of_empty next
        (List.isEmpty_iff.mp empty))
  | false =>
      simp only [Bool.false_eq_true, if_false, Program.wp_perform]
      refine ⟨⟨_, reached⟩, ?_⟩
      intro fault permitted
      cases fault with
      | answered =>
          exact ends _ (reached.record_multiSet next
            (by simp [Fault.Executed]))
      | refused =>
          exact fails _ _ _ (reached.record_quiet (fun _ _ => rfl)
            (fun _ stored => stored.of_refused)
            (fun indexed => indexed.of_record (by simp)))
      | lost =>
          exact fails _ _ _ (reached.record_multiSet next
            (by simp [Fault.Executed]))

theorem index_spec {trace : ServiceTrace}
    {post : Except MessageException Unit → ServiceTrace → Prop}
    (reached : At dataMapper directories before .portalStored trace)
    (ends : ∀ after, At dataMapper directories before .indexed after →
      post (.ok ()) after)
    (fails : ∀ stage error after,
      At dataMapper directories before stage after →
      post (.error error) after) :
    (send (.set Keys.resourceKeys (index dataMapper directories))).wp
      (reloadRules dataMapper directories before allowed) post trace := by
  simp only [Program.wp_perform]
  refine ⟨⟨_, reached⟩, ?_⟩
  intro fault permitted
  cases fault with
  | answered => exact ends _ (reached.record_index (by simp [Fault.Executed]))
  | refused =>
      exact fails _ _ _ (reached.record_quiet (fun _ _ => rfl)
        (fun _ stored => stored.of_record (by simp))
        (fun indexed => indexed.of_refused))
  | lost =>
      exact fails _ _ _ (reached.record_index (by simp [Fault.Executed]))

theorem loadMessage_spec {trace : ServiceTrace}
    {post : Except MessageException Unit → ServiceTrace → Prop}
    (reached : At dataMapper directories before stage trace)
    (ends : ∀ after, At dataMapper directories before stage after →
      post (.ok ()) after)
    (fails : ∀ stage error after,
      At dataMapper directories before stage after →
      post (.error error) after) :
    (send .loadMessage).wp
      (reloadRules dataMapper directories before allowed) post trace := by
  simp only [Program.wp_perform]
  refine ⟨⟨_, reached⟩, ?_⟩
  intro fault permitted
  have after : At dataMapper directories before stage
      ((environment directories).record trace .loadMessage fault) := by
    apply reached.record_other
    · intro key _
      cases fault <;> rfl
    · simp
    · simp
  cases fault with
  | answered => exact ends _ after
  | refused => exact fails _ _ _ after
  | lost => exact fails _ _ _ after

/-- The body of a reload ends with the index written, or with an exception at
some stage. -/
theorem reloadBody_spec {trace : ServiceTrace}
    {post : Except MessageException Unit → ServiceTrace → Prop}
    (reached : At dataMapper directories before .untouched trace)
    (ends : ∀ after, At dataMapper directories before .indexed after →
      post (.ok ()) after)
    (fails : ∀ stage error after,
      At dataMapper directories before stage after →
      post (.error error) after) :
    (deployed dataMapper).reloadBody.wp
      (reloadRules dataMapper directories before allowed) post trace := by
  simp only [MessageServiceImpl.reloadBody, Program.wp_bind]
  refine clear_spec reached ?_ fails
  intro cleared atCleared
  simp only [Program.andThen_ok, Program.wp_bind]
  apply loadResource_spec atCleared
  intro mobileRead atMobileRead
  cases mobileResult : contents dataMapper directories "mobile" with
  | error error => exact fails _ _ _ atMobileRead
  | ok mobile =>
      simp only [Program.andThen_ok, Program.wp_bind]
      apply loadResource_spec atMobileRead
      intro portalRead atPortalRead
      cases portalResult : contents dataMapper directories "portal" with
      | error error => exact fails _ _ _ atPortalRead
      | ok portal =>
          have mobileLoaded : mobile =
              loaded dataMapper directories "mobile" := by
            simp [loaded, mobileResult]
          have portalLoaded : portal =
              loaded dataMapper directories "portal" := by
            simp [loaded, portalResult]
          have loads : ∀ type, type = "mobile" ∨ type = "portal" →
              contents dataMapper directories type =
                .ok (loaded dataMapper directories type) := by
            rintro type (rfl | rfl)
            · rw [← mobileLoaded, mobileResult]
            · rw [← portalLoaded, portalResult]
          simp only [Program.andThen_ok, Program.wp_bind]
          rw [mobileLoaded, portalLoaded]
          have mobileNext : StoresNext dataMapper directories before
              .cleared .mobileStored "mobile" :=
            ⟨loads, rfl, rfl, by simp, by simp⟩
          have portalNext : StoresNext dataMapper directories before
              .mobileStored .portalStored "portal" :=
            ⟨loads, rfl, rfl, by simp, by simp⟩
          refine multiSet_spec atPortalRead mobileNext ?_ fails
          intro mobileAfter atMobile
          simp only [Program.andThen_ok, Program.wp_bind]
          refine multiSet_spec atMobile portalNext ?_ fails
          intro portalAfter atPortal
          simp only [Program.andThen_ok, Program.wp_bind]
          refine index_spec atPortal ?_ fails
          intro indexAfter atIndex
          exact loadMessage_spec atIndex ends fails

/-! ## The lock around the body -/

/-- How a lock outlives a reload that fails: it was there before and could not
be read, its set has been executed without an answer, or its delete has been
refused. -/
def LockKeptIn (before : Redis) (trace : ServiceTrace) : Prop :=
  (before Keys.lock ≠ none ∧ ∃ fault : Fault, fault ≠ .answered ∧
      ⟨.get Keys.lock, fault⟩ ∈ trace.events) ∨
    ⟨.set Keys.lock "1".toUTF8, Fault.lost⟩ ∈ trace.events ∨
    ⟨.delete [Keys.lock], Fault.refused⟩ ∈ trace.events

theorem At.record_monitor {trace : ServiceTrace} {call : Call}
    (reached : At dataMapper directories before stage trace)
    (outcome : Outcome call)
    (monitor : call = .enter ∨ call = .exit) :
    At dataMapper directories before stage
        ((environment directories).record trace call outcome) ∧
      ((environment directories).record trace call outcome).state =
        trace.state := by
  rcases monitor with rfl | rfl
  · exact ⟨reached.record_other (fun _ _ => rfl) (by simp) (by simp), rfl⟩
  · exact ⟨reached.record_other (fun _ _ => rfl) (by simp) (by simp), rfl⟩

/-- `synchronized` adds the two monitor calls and nothing else. -/
theorem synchronized_spec {α : Type} {trace : ServiceTrace}
    {body : ServiceProgram α}
    {post : Except MessageException α → ServiceTrace → Prop}
    (reached : At dataMapper directories before stage trace)
    (inside : ∀ entered : ServiceTrace,
      At dataMapper directories before stage entered →
      entered.state = trace.state →
      body.wp (reloadRules dataMapper directories before allowed)
        (fun result after =>
          (∃ stage, At dataMapper directories before stage after) ∧
            post result ((environment directories).record after .exit ()))
        entered) :
    (synchronized body).wp
      (reloadRules dataMapper directories before allowed) post trace := by
  simp only [synchronized, Program.wp_bind, Program.wp_perform]
  refine ⟨⟨_, reached⟩, ?_⟩
  intro outcome permitted
  obtain ⟨entered, same⟩ := reached.record_monitor outcome (.inl rfl)
  simp only [environment, Program.andThen_ok, Program.wp_tryFinally,
    Program.wp_perform]
  refine Environment.guarded_mono ?_ (inside _ entered same)
  rintro result after ⟨staged, holds⟩
  refine ⟨staged, ?_⟩
  intro outcome permitted
  exact holds

theorem lock_spec {trace : ServiceTrace}
    {post : Except MessageException Bool → ServiceTrace → Prop}
    (reached : At dataMapper directories before stage trace)
    (refused : ∀ later, At dataMapper directories before stage later →
      trace.state Keys.lock ≠ none → later.state = trace.state →
      post (.ok false) later)
    (acquired : ∀ later, At dataMapper directories before stage later →
      trace.state Keys.lock = none → post (.ok true) later)
    (fails : ∀ error later, At dataMapper directories before stage later →
      (later.state Keys.lock = none ∨ LockKeptIn trace.state later) →
      post (.error error) later) :
    (lock true).wp
      (reloadRules dataMapper directories before allowed) post trace := by
  apply synchronized_spec reached
  intro entered atEntered same
  have exits : ∀ {after : ServiceTrace},
      At dataMapper directories before stage after →
      At dataMapper directories before stage
        ((environment directories).record after .exit ()) :=
    fun atAfter => (atAfter.record_monitor _ (.inr rfl)).1
  simp only [lockBody, if_true, Program.wp_bind, Program.wp_perform]
  refine ⟨⟨_, atEntered⟩, ?_⟩
  intro fault permitted
  have got : At dataMapper directories before stage
      ((environment directories).record entered (.get Keys.lock) fault) := by
    apply atEntered.record_other
    · intro key _
      cases fault <;> rfl
    · simp
    · simp
  by_cases answered : fault = .answered
  · subst answered
    simp only [environment, Program.andThen_ok, same]
    cases held : trace.state Keys.lock with
    | some value =>
        simp only [Program.wp_pure]
        exact ⟨⟨_, got⟩, refused _ (exits got) (by simp [held]) same⟩
    | none =>
        simp only [Program.wp_bind, Program.wp_perform]
        refine ⟨⟨_, got⟩, ?_⟩
        intro fault permitted
        have set : At dataMapper directories before stage
            ((environment directories).record
              ((environment directories).record entered
                (.get Keys.lock) Fault.answered)
              (.set Keys.lock "1".toUTF8) fault) := by
          apply got.record_other
          · intro key notLock
            cases fault with
            | answered => exact Redis.set_other _ _ notLock
            | refused => rfl
            | lost => exact Redis.set_other _ _ notLock
          · simp
          · intro value equality
            exact Keys.lock_ne_resourceKeys (Call.set.inj equality).1
        cases fault with
        | answered => exact ⟨⟨_, set⟩, acquired _ (exits set) held⟩
        | refused =>
            have unlocked : entered.state Keys.lock = none := by
              rw [same, held]
            exact ⟨⟨_, set⟩, fails _ _ (exits set) (.inl unlocked)⟩
        | lost =>
            exact ⟨⟨_, set⟩, fails _ _ (exits set)
              (.inr (.inr (.inl (List.mem_append_left _
                (Environment.mem_record_events _ _ _ _)))))⟩
  · have kept : entered.state Keys.lock = none ∨
        LockKeptIn trace.state ((environment directories).record
          ((environment directories).record entered (.get Keys.lock) fault)
          .exit ()) := by
      rw [same]
      refine or_iff_not_imp_left.mpr fun held => .inl ⟨held, fault, answered,
        List.mem_append_left _ (Environment.mem_record_events _ _ _ _)⟩
    cases fault with
    | answered => exact absurd rfl answered
    | refused => exact ⟨⟨_, got⟩, fails _ _ (exits got) kept⟩
    | lost => exact ⟨⟨_, got⟩, fails _ _ (exits got) kept⟩

theorem unlock_spec {trace : ServiceTrace}
    {post : Except MessageException Bool → ServiceTrace → Prop}
    (reached : At dataMapper directories before stage trace)
    (released : ∀ later, At dataMapper directories before stage later →
      later.state Keys.lock = none → post (.ok true) later)
    (fails : ∀ error later, At dataMapper directories before stage later →
      (later.state Keys.lock = none ∨ LockKeptIn before later) →
      post (.error error) later) :
    (lock false).wp
      (reloadRules dataMapper directories before allowed) post trace := by
  apply synchronized_spec reached
  intro entered atEntered same
  have exits : ∀ {after : ServiceTrace},
      At dataMapper directories before stage after →
      At dataMapper directories before stage
        ((environment directories).record after .exit ()) :=
    fun atAfter => (atAfter.record_monitor _ (.inr rfl)).1
  simp only [lockBody, Bool.false_eq_true, if_false, Program.wp_bind,
    Program.wp_perform]
  refine ⟨⟨_, atEntered⟩, ?_⟩
  intro fault permitted
  have deleted : At dataMapper directories before stage
      ((environment directories).record entered (.delete [Keys.lock])
        fault) := by
    apply atEntered.record_other
    · intro key notLock
      have absent : key ∉ [Keys.lock] := by simpa using notLock
      cases fault with
      | answered => exact Redis.delete_other _ absent
      | refused => rfl
      | lost => exact Redis.delete_other _ absent
    · simp
    · simp
  have unlocked : entered.state.delete [Keys.lock] Keys.lock = none :=
    Redis.delete_member _ (List.mem_singleton_self _)
  cases fault with
  | answered => exact ⟨⟨_, deleted⟩, released _ (exits deleted) unlocked⟩
  | refused =>
      exact ⟨⟨_, deleted⟩, fails _ _ (exits deleted)
        (.inr (.inr (.inr (List.mem_append_left _
          (Environment.mem_record_events _ _ _ _)))))⟩
  | lost => exact ⟨⟨_, deleted⟩, fails _ _ (exits deleted) (.inl unlocked)⟩

/-! ## The whole reload -/

theorem at_start (dataMapper : DataMapper Node) (directories : Directories)
    (before : Redis) :
    At dataMapper directories before .untouched (Environment.start before) where
  content := fun _ _ => rfl
  loads := by simp [Stage.stored]
  cleared := by simp
  stored := by
    rintro values ⟨fault, executed, member⟩
    simp at member
  storing := by simp [Stage.stored]
  indexing := by
    rintro ⟨value, fault, executed, member⟩
    simp at member

/-- How a reload that began with the content `before` can end. -/
def ReloadEnds (dataMapper : DataMapper Node) (directories : Directories)
    (before : Redis) :
    Except MessageException Bool → ServiceTrace → Prop
  | .ok true, later =>
      At dataMapper directories before .indexed later ∧
        before Keys.lock = none ∧ later.state Keys.lock = none
  | .ok false, later =>
      At dataMapper directories before .untouched later ∧
        before Keys.lock ≠ none ∧ later.state = before
  | .error _, later =>
      Staged dataMapper directories before later ∧
        (later.state Keys.lock = none ∨ LockKeptIn before later)

theorem ReloadEnds.staged {result : Except MessageException Bool}
    {later : ServiceTrace}
    (ends : ReloadEnds dataMapper directories before result later) :
    Staged dataMapper directories before later := by
  cases result with
  | error error => exact ends.1
  | ok reloaded =>
      cases reloaded with
      | false => exact ⟨_, ends.1⟩
      | true => exact ⟨_, ends.1⟩

theorem reloadBean_spec (dataMapper : DataMapper Node)
    (directories : Directories) (before : Redis)
    (allowed : (call : Call) → Outcome call → Prop) :
    (deployed dataMapper).reloadBean.wp
      (reloadRules dataMapper directories before allowed)
      (ReloadEnds dataMapper directories before)
      (Environment.start before) := by
  simp only [MessageServiceImpl.reloadBean, Program.wp_bind]
  refine lock_spec (at_start dataMapper directories before) ?_ ?_ ?_
  · intro later reached held same
    exact ⟨reached, held, same⟩
  · intro later reached free
    simp only [Program.andThen_ok, if_true, Program.wp_bind,
      Program.wp_tryFinally]
    refine reloadBody_spec reached ?_ ?_
    · intro after indexed
      refine unlock_spec indexed ?_ ?_
      · intro released atReleased unlocked
        exact ⟨atReleased, free, unlocked⟩
      · intro error failed atFailed kept
        exact ⟨⟨_, atFailed⟩, kept⟩
    · intro stage error after staged
      refine unlock_spec staged ?_ ?_
      · intro released atReleased unlocked
        exact ⟨⟨_, atReleased⟩, .inl unlocked⟩
      · intro error failed atFailed kept
        exact ⟨⟨_, atFailed⟩, kept⟩
  · intro error later reached kept
    exact ⟨⟨_, reached⟩, kept⟩

/-- Every complete run of a reload ends as `ReloadEnds` says. -/
theorem reloadBean_ends {result : Except MessageException Bool}
    {later : ServiceTrace}
    (ends : (environment directories).Ends allowed (Environment.start before)
      (deployed dataMapper).reloadBean result later) :
    ReloadEnds dataMapper directories before result later :=
  Environment.wp_sound
    (Environment.wp_of_guarded
      (reloadBean_spec dataMapper directories before allowed)) ends

/-- Every trace a reload passes through is at some stage. -/
theorem reloadBean_staged {rest : ServiceProgram Bool} {later : ServiceTrace}
    (runs : (environment directories).Runs allowed (Environment.start before)
      (deployed dataMapper).reloadBean later rest) :
    Staged dataMapper directories before later :=
  Environment.guarded_sound
    (Environment.guarded_mono (fun _ _ ends => ends.staged)
      (reloadBean_spec dataMapper directories before allowed)) runs

end SpringTemplate.Message
