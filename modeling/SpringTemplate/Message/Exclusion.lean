import SpringTemplate.Message.LockContract
import SpringTemplate.Message.ReloadRuns

/-!
# Mutual exclusion of reloads

`Exclusive` holds in every run of careful steps, and a step that is not
careful breaks it.  The first half needs that nobody is in the section while
the lock is absent; the second, `Owned`, that a lock somebody could still
write over belongs to a call in the section.
-/

namespace SpringTemplate.Message

variable {Node ι Instance : Type}

/-! ## What one step does to the lock -/

namespace Deployment

variable [DecidableEq Instance] (deployment : Deployment ι Instance)

theorem shared_lock_other {i : ι} {state : Shared ι Instance} {call : Call}
    (other : ¬ NamesLock call) (outcome : Outcome call) :
    (deployment.shared i state call outcome).1.redis Keys.lock =
      state.redis Keys.lock := by
  cases call with
  | set key value =>
      have different : Keys.lock ≠ key := Ne.symm other
      cases outcome with
      | refused => rfl
      | answered => exact Redis.set_other _ _ different
      | lost => exact Redis.set_other _ _ different
  | multiSet values =>
      cases outcome with
      | refused => rfl
      | answered => exact Redis.multiSet_other _ other
      | lost => exact Redis.multiSet_other _ other
  | delete keys =>
      cases outcome with
      | refused => rfl
      | answered => exact Redis.delete_other _ other
      | lost => exact Redis.delete_other _ other
  | get key => cases outcome <;> rfl
  | multiGet keys => cases outcome <;> rfl
  | loadMessage => cases outcome <;> rfl
  | _ => rfl

theorem shared_relied {i : ι} {state : Shared ι Instance} {call : Call}
    (outcome : Outcome call) :
    lockContract.relies call (deployment.shared i state call outcome).2 := by
  cases call with
  | enter => rfl
  | exit => rfl
  | _ => trivial

end Deployment

section Step

variable [DecidableEq ι] {histories : ι → ReloadHistory} {i : ι} {call : Call}
  {answer : Except MessageException (Answer call)}

theorem InSection.of_update {j : ι}
    (inside : InSection (Function.update histories i
      (histories i ++ [⟨call, answer⟩]) j))
    (other : ∀ value, call ≠ .set Keys.lock value) :
    InSection (histories j) := by
  by_cases same : j = i
  · subst same
    rw [Function.update_self] at inside
    exact inside.of_record other
  · rwa [Function.update_of_ne same] at inside

theorem Tested.of_update {j : ι}
    (tested : Tested (Function.update histories i
      (histories i ++ [⟨call, answer⟩]) j))
    (other : call ≠ .get Keys.lock) : Tested (histories j) := by
  by_cases same : j = i
  · subst same
    rw [Function.update_self] at tested
    exact tested.of_record other
  · rwa [Function.update_of_ne same] at tested

theorem InSection.update {j : ι} (inside : InSection (histories j))
    (other : call ≠ .delete [Keys.lock]) :
    InSection (Function.update histories i
      (histories i ++ [⟨call, answer⟩]) j) := by
  by_cases same : j = i
  · subst same
    rw [Function.update_self]
    exact inside.record other
  · rwa [Function.update_of_ne same]

variable {state after : Shared ι Instance}

theorem Exclusive.unchanged (exclusive : Exclusive state histories)
    (same : after.redis Keys.lock = state.redis Keys.lock)
    (other : ∀ value, call ≠ .set Keys.lock value) :
    Exclusive after
      (Function.update histories i (histories i ++ [⟨call, answer⟩])) where
  single := by
    intro first second insideFirst insideSecond
    exact exclusive.single first second (insideFirst.of_update other)
      (insideSecond.of_update other)
  present := by
    intro j inside
    rw [same]
    exact exclusive.present j (inside.of_update other)

/-- A write of the lock that finds it absent finds nobody in the section. -/
theorem Exclusive.locked (exclusive : Exclusive state histories)
    (free : state.redis Keys.lock = none) {value : Bytes}
    (written : after.redis Keys.lock = some value) :
    Exclusive after (Function.update histories i
      (histories i ++ [⟨.set Keys.lock value, .ok ()⟩])) := by
  have only : ∀ j, InSection (Function.update histories i
      (histories i ++ [⟨.set Keys.lock value, .ok ()⟩]) j) → j = i := by
    intro j inside
    by_contra different
    rw [Function.update_of_ne different] at inside
    exact exclusive.present j inside free
  refine ⟨?_, ?_⟩
  · intro first second insideFirst insideSecond
    rw [only first insideFirst, only second insideSecond]
  · intro j inside
    simp [written]

/-- The call that deletes the lock was alone, and leaves the section. -/
theorem Exclusive.unlocked (exclusive : Exclusive state histories)
    (inside : InSection (histories i))
    (answer : Except MessageException Unit) :
    Exclusive after (Function.update histories i
      (histories i ++ [⟨.delete [Keys.lock], answer⟩])) := by
  have empty : ∀ j, ¬ InSection (Function.update histories i
      (histories i ++ [⟨.delete [Keys.lock], answer⟩]) j) := by
    intro j insideLater
    have same := exclusive.single j i (insideLater.of_update (by simp)) inside
    subst same
    rw [Function.update_self] at insideLater
    exact insideLater.notUnlocked answer (by simp)
  refine ⟨?_, ?_⟩
  · intro first _ insideFirst
    exact absurd insideFirst (empty first)
  · intro j insideLater
    exact absurd insideLater (empty j)

/-- Where the lock is present, its owner is in the section, or nobody is
about to write it. -/
def Owned (state : Shared ι Instance) (histories : ι → ReloadHistory) :
    Prop :=
  state.redis Keys.lock ≠ none →
    (∃ i, InSection (histories i)) ∨ ∀ j, ¬ Tested (histories j)

theorem Owned.unchanged (owned : Owned state histories)
    (same : after.redis Keys.lock = state.redis Keys.lock)
    (notDelete : call ≠ .delete [Keys.lock])
    (notGet : call ≠ .get Keys.lock) :
    Owned after
      (Function.update histories i (histories i ++ [⟨call, answer⟩])) := by
  intro present
  rw [same] at present
  rcases owned present with ⟨owner, inside⟩ | nobody
  · exact .inl ⟨owner, inside.update notDelete⟩
  · exact .inr fun j tested => nobody j (tested.of_update notGet)

/-- A read of the present lock makes nobody write it. -/
theorem Owned.read (owned : Owned state histories)
    (same : after.redis Keys.lock = state.redis Keys.lock) :
    Owned after (Function.update histories i
      (histories i ++ [⟨.get Keys.lock, .ok (state.redis Keys.lock)⟩])) := by
  intro present
  rw [same] at present
  rcases owned present with ⟨owner, inside⟩ | nobody
  · exact .inl ⟨owner, inside.update (by simp)⟩
  · refine .inr ?_
    intro j tested
    by_cases changed : j = i
    · subst changed
      rw [Function.update_self] at tested
      apply nobody j
      refine ⟨?_, ?_, ?_⟩
      · rcases List.mem_append.mp tested.absent with earlier | last
        · exact earlier
        · simp at last
          exact absurd last.symm present
      · intro value answer member
        exact tested.notLocked value answer (List.mem_append_left _ member)
      · intro answer member
        exact tested.notUnlocked answer (List.mem_append_left _ member)
    · rw [Function.update_of_ne changed] at tested
      exact nobody j tested

end Step

/-! ## Whole runs -/

theorem exclusive_start (state : Shared ι Instance) :
    Exclusive state (fun _ : ι => []) where
  single := by
    rintro i j ⟨⟨value, locked⟩, _⟩
    simp at locked
  present := by
    rintro i ⟨⟨value, locked⟩, _⟩
    simp at locked

namespace Deployment

variable [DecidableEq Instance] [DecidableEq ι]
  (deployment : Deployment ι Instance)

theorem careful_exclusive :
    deployment.careful.Preserves lockContract
      (Exclusive : Shared ι Instance → (ι → ReloadHistory) → Prop) where
  relied := fun _ _ _ => deployment.shared_relied _
  kept := by
    intro state histories i call outcome exclusive ready permitted guaranteed
    obtain ⟨_, careful⟩ := ready
    by_cases named : NamesLock call
    · have answeredCall := permitted named
      subst answeredCall
      cases call with
      | get key => exact exclusive.unchanged rfl (by simp)
      | set key value =>
          cases named
          have written := Redis.set_same state.redis Keys.lock value
          exact exclusive.locked (careful rfl) written
      | multiSet values => exact absurd named guaranteed
      | delete keys =>
          cases careful named
          exact exclusive.unlocked (guaranteed named) _
      | _ => exact named.elim
    · apply exclusive.unchanged (deployment.shared_lock_other named outcome)
      rintro value rfl
      exact named rfl

theorem system_owned :
    deployment.system.Preserves lockContract
      (Owned : Shared ι Instance → (ι → ReloadHistory) → Prop) where
  relied := fun _ _ _ => deployment.shared_relied _
  kept := by
    intro state histories i call outcome owned _ permitted guaranteed
    by_cases named : NamesLock call
    · have answeredCall := permitted named
      subst answeredCall
      cases call with
      | get key =>
          cases named
          exact owned.read rfl
      | set key value =>
          cases named
          intro _
          refine .inl ⟨i, ?_⟩
          rw [Function.update_self]
          exact (guaranteed rfl).inSection value
      | multiSet values => exact absurd named guaranteed
      | delete keys =>
          intro present
          exact absurd (Redis.delete_member _ named) present
      | _ => exact named.elim
    · apply owned.unchanged (deployment.shared_lock_other named outcome)
      · rintro rfl
        exact named (List.mem_singleton_self _)
      · rintro rfl
        exact named rfl

variable {deployment} {dataMapper : DataMapper Node} {redis : Redis}
  {pool later : ReloadPool ι Instance}

theorem careful_step (step : deployment.careful.Step pool later) :
    deployment.system.Step pool later := by
  cases step with
  | call i outcome waiting ready permitted =>
      exact .call i outcome waiting ready.1 permitted

theorem careful_reaches (reached : deployment.careful.Reaches pool later) :
    deployment.system.Reaches pool later := by
  induction reached with
  | refl => exact .refl
  | tail _ step induction => exact .tail induction (careful_step step)

/-- Careful steps keep the reloads apart. -/
theorem exclusive_of_careful
    (reached : deployment.careful.Reaches (start dataMapper redis) pool) :
    Exclusive pool.state pool.history :=
  (System.Reaches.sound deployment.careful_exclusive (exclusive_start _)
    (fun _ => reloadBean_kept dataMapper) reached).1

/-- A step that is not careful breaks the exclusion. -/
theorem careful_of_exclusive
    (reached : deployment.careful.Reaches (start dataMapper redis) pool)
    (step : deployment.system.Step pool later)
    (exclusive : Exclusive later.state later.history) :
    deployment.careful.Step pool later := by
  have owned : Owned pool.state pool.history := by
    refine (System.Reaches.sound deployment.system_owned ?_
      (fun _ => reloadBean_kept dataMapper) (careful_reaches reached)).1
    intro _
    exact .inr fun j tested => by simpa using tested.absent
  have kept := (System.Reaches.sound deployment.careful_exclusive
    (exclusive_start _) (fun _ => reloadBean_kept dataMapper) reached).2
  cases step with
  | call i outcome waiting ready permitted =>
      rename_i call next
      refine .call i outcome waiting ⟨ready, ?_⟩ permitted
      have guaranteed := (waiting ▸ kept i).1
      cases call with
      | set key value =>
          rintro rfl
          have answeredCall := permitted rfl
          subst answeredCall
          have tested : Tested (pool.history i) := guaranteed rfl
          by_contra present
          rcases owned present with ⟨owner, inside⟩ | nobody
          · have different : owner ≠ i := by
              rintro rfl
              obtain ⟨value, locked⟩ := inside.locked
              exact tested.notLocked _ _ locked
            apply different
            apply exclusive.single
            · rwa [Pool.record_history_other _ _ _ _ _ different]
            · rw [Pool.record_history_same]
              exact tested.inSection value
          · exact nobody i tested
      | delete keys =>
          intro named
          have answeredCall := permitted named
          subst answeredCall
          have inside : InSection (pool.history i) := guaranteed named
          by_contra several
          apply exclusive.present i
          · rw [Pool.record_history_same]
            exact inside.record (by simpa using several)
          · exact Redis.delete_member _ named
      | _ => trivial

end Deployment

/-- Exactly when reloads are kept apart.  In a run of careful steps, at most
one call is ever in the section and the lock is present meanwhile; and the
next step keeps this up if and only if it is careful too. -/
theorem reloads_exclusive [DecidableEq ι] [DecidableEq Instance]
    {deployment : Deployment ι Instance} {dataMapper : DataMapper Node}
    {redis : Redis} {pool : ReloadPool ι Instance}
    (reached : deployment.careful.Reaches
      (Deployment.start dataMapper redis) pool) :
    Exclusive pool.state pool.history ∧
      ∀ later, deployment.system.Step pool later →
        (Exclusive later.state later.history ↔
          deployment.careful.Step pool later) := by
  refine ⟨Deployment.exclusive_of_careful reached, ?_⟩
  intro later step
  constructor
  · exact Deployment.careful_of_exclusive reached step
  · intro careful
    exact Deployment.exclusive_of_careful (reached.tail careful)

/-! ## Two instances in the section -/

/-- One call of `reloadBean` on each of two instances. -/
def twoInstances : Deployment Bool Bool :=
  { instanceOf := id
    directories := fun _ => noFiles }

/-- The same with a file each, in different languages. -/
def servingInstances : Deployment Bool Bool :=
  { instanceOf := id
    directories := fun i => if i then englishMobile else renewedMobile }

/-- The calls of a successful `lock(true)`. -/
def acquired : ReloadHistory :=
  [⟨.enter, .ok ()⟩, ⟨.get Keys.lock, .ok none⟩,
    ⟨.set Keys.lock "1".toUTF8, .ok ()⟩, ⟨.exit, .ok ()⟩]

theorem acquired_inSection : InSection acquired :=
  ⟨⟨"1".toUTF8, by simp [acquired]⟩, by simp [acquired]⟩

/-- Both instances find the lock absent before either writes it, and both
return from `lock(true)` with success. -/
theorem twoInstances_acquire :
    ∃ pool, twoInstances.system.Reaches
        (Deployment.start textMapper noKeys) pool ∧
      pool.history false = acquired ∧ pool.history true = acquired := by
  refine ⟨_,
    .next false (answered _) rfl rfl (fun _ => rfl) <|
    .next false (answered _) rfl trivial (fun _ => rfl) <|
    .next true (answered _) rfl rfl (fun _ => rfl) <|
    .next true (answered _) rfl trivial (fun _ => rfl) <|
    .next false (answered _) rfl trivial (fun _ => rfl) <|
    .next false (answered _) rfl trivial (fun _ => rfl) <|
    .next true (answered _) rfl trivial (fun _ => rfl) <|
    .next true (answered _) rfl trivial (fun _ => rfl) .refl, ?_, ?_⟩
  · rfl
  · rfl

theorem twoInstances_not_exclusive :
    ∃ pool, twoInstances.system.Reaches
        (Deployment.start textMapper noKeys) pool ∧
      InSection (pool.history false) ∧ InSection (pool.history true) ∧
      ¬ Exclusive pool.state pool.history := by
  obtain ⟨pool, reached, first, second⟩ := twoInstances_acquire
  have insideFirst : InSection (pool.history false) :=
    first ▸ acquired_inSection
  have insideSecond : InSection (pool.history true) :=
    second ▸ acquired_inSection
  refine ⟨pool, reached, insideFirst, insideSecond, ?_⟩
  intro exclusive
  exact absurd (exclusive.single _ _ insideFirst insideSecond) (by decide)

theorem oneInstance_acquires :
    ∃ pool, twoInstances.careful.Reaches
        (Deployment.start textMapper noKeys) pool ∧
      pool.history false = acquired := by
  refine ⟨_,
    .next false (answered _) rfl ⟨rfl, trivial⟩ (fun _ => rfl) <|
    .next false (answered _) rfl ⟨trivial, trivial⟩ (fun _ => rfl) <|
    .next false (answered _) rfl ⟨trivial, fun _ => rfl⟩ (fun _ => rfl) <|
    .next false (answered _) rfl ⟨trivial, trivial⟩ (fun _ => rfl) .refl, ?_⟩
  rfl

theorem oneInstance_exclusive :
    ∃ pool, twoInstances.careful.Reaches
        (Deployment.start textMapper noKeys) pool ∧
      InSection (pool.history false) ∧
      Exclusive pool.state pool.history ∧
      ∀ later, twoInstances.system.Step pool later →
        (Exclusive later.state later.history ↔
          twoInstances.careful.Step pool later) := by
  obtain ⟨pool, reached, history⟩ := oneInstance_acquires
  obtain ⟨exclusive, exact⟩ := reloads_exclusive reached
  exact ⟨pool, reached, history ▸ acquired_inSection, exclusive, exact⟩

end SpringTemplate.Message
