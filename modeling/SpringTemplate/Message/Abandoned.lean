import SpringTemplate.Library.Crashes
import SpringTemplate.Message.Exclusion
import SpringTemplate.Message.Replays

/-!
# A lock that nobody gives back

A lock that is present belongs to a call in the section, unless its write was
executed but not answered or its delete was refused.  The call in the section
is still running, or it never ran on because its instance crashed.
-/

namespace SpringTemplate.Message

variable {Node ι Instance : Type}

/-- A call has begun and not ended. -/
structure InsideReload (pool : ReloadPool ι Instance) (i : ι) : Prop where
  begun : pool.history i ≠ []
  running : ∀ result, pool.rest i ≠ .done result

/-- A lock that is present belongs to a call in the section. -/
def Held (state : Shared ι Instance) (histories : ι → ReloadHistory) : Prop :=
  state.redis Keys.lock ≠ none → ∃ i, InSection (histories i)

/-- The lock is written without an answer, or its delete is refused. -/
def Abandons : (call : Call) → Outcome call → Prop
  | .set key _, fault => key = Keys.lock ∧ fault = .lost
  | .delete keys, fault => keys = [Keys.lock] ∧ fault = .refused
  | _, _ => False

section Step

variable {history : ReloadHistory} {call : Call}
  {answer : Except MessageException (Answer call)}

theorem InSection.begun (inside : InSection history) : history ≠ [] := by
  obtain ⟨⟨value, written⟩, _⟩ := inside
  rintro rfl
  simp at written

variable [DecidableEq ι] {histories : ι → ReloadHistory} {i : ι}
  {state after : Shared ι Instance}

theorem Held.unchanged (held : Held state histories)
    (same : after.redis Keys.lock = state.redis Keys.lock)
    (other : call ≠ .delete [Keys.lock]) :
    Held after
      (Function.update histories i (histories i ++ [⟨call, answer⟩])) := by
  intro present
  rw [same] at present
  obtain ⟨owner, inside⟩ := held present
  refine ⟨owner, ?_⟩
  by_cases own : owner = i
  · subst own
    rw [Function.update_self]
    exact inside.record other
  · rwa [Function.update_of_ne own]

end Step

namespace Deployment

variable [DecidableEq Instance] (deployment : Deployment ι Instance)

/-- The reloads of all instances, where any command may fail. -/
def faulty : System ι (Shared ι Instance) Call Answer MessageException
    Outcome :=
  { deployment.system with allowed := fun _ _ => True }

/-- The same reloads, of which none abandons the lock. -/
def releasing : System ι (Shared ι Instance) Call Answer MessageException
    Outcome :=
  { deployment.faulty with
    allowed := fun call outcome => ¬ Abandons call outcome }

theorem releasing_held [DecidableEq ι] :
    deployment.releasing.Preserves lockContract
      (Held : Shared ι Instance → (ι → ReloadHistory) → Prop) where
  relied := fun _ _ _ => deployment.shared_relied _
  kept := by
    intro state histories i call outcome held _ permitted guaranteed
    by_cases named : NamesLock call
    · cases call with
      | get key =>
          apply held.unchanged
          · cases outcome <;> rfl
          · simp
      | set key value =>
          cases named
          cases outcome with
          | answered =>
              intro _
              refine ⟨i, ?_⟩
              rw [Function.update_self]
              exact (guaranteed rfl).inSection value
          | refused => exact held.unchanged rfl (by simp)
          | lost => exact absurd ⟨rfl, rfl⟩ permitted
      | multiSet values => exact absurd named guaranteed
      | delete keys =>
          cases outcome with
          | refused =>
              apply held.unchanged rfl
              intro alone
              exact permitted ⟨Call.delete.inj alone, rfl⟩
          | answered =>
              intro present
              exact absurd (Redis.delete_member _ named) present
          | lost =>
              intro present
              exact absurd (Redis.delete_member _ named) present
      | _ => exact named.elim
    · apply held.unchanged (deployment.shared_lock_other named outcome)
      rintro rfl
      exact named (List.mem_singleton_self _)

/-- No live instance is inside `reloadBean`. -/
def Idle (last : CrashPool Instance ι (Shared ι Instance) Call Answer
    MessageException Bool) : Prop :=
  ∀ i, deployment.instanceOf i ∉ last.crashed → ¬ InsideReload last.pool i

/-- Between the two pools a call of a live instance has abandoned the lock. -/
def AbandonedIn [DecidableEq ι] (first last : CrashPool Instance ι
    (Shared ι Instance) Call Answer MessageException Bool) : Prop :=
  ∃ (pool : ReloadPool ι Instance) (crashed : Set Instance) (i : ι)
    (call : Call)
    (next : Except MessageException (Answer call) → ServiceProgram Bool)
    (outcome : Outcome call),
    deployment.faulty.CrashReaches deployment.instanceOf first
        ⟨pool, crashed⟩ ∧
      deployment.instanceOf i ∉ crashed ∧
      pool.rest i = .call call next ∧ Abandons call outcome ∧
      deployment.faulty.CrashReaches deployment.instanceOf
        ⟨pool.record (deployment.shared i) i call next outcome, crashed⟩ last

end Deployment

/-- The lock is absent, so that the next `lock(true)` succeeds. -/
structure Unlocked (redis : Redis) : Prop where
  absent : redis Keys.lock = none
  locks : ∃ later, (environment noFiles).replay (fun _ => answered)
    (Environment.start redis) (lock true) = (later, .ok true)

theorem unlocked_of_absent {redis : Redis} (absent : redis Keys.lock = none) :
    Unlocked redis := by
  obtain ⟨later, runs, _⟩ := replay_lock noFiles (Environment.start redis)
    answering_answered absent
  exact ⟨absent, later, runs⟩

/-- When no live instance is inside a reload, the lock is absent, unless an
instance crashed in the section, or in the run Redis executed a write of the
lock without an answer or refused its delete. -/
theorem reload_unlocked [DecidableEq ι] [DecidableEq Instance]
    {deployment : Deployment ι Instance} {dataMapper : DataMapper Node}
    {redis : Redis}
    {last : CrashPool Instance ι (Shared ι Instance) Call Answer
      MessageException Bool}
    (absent : redis Keys.lock = none)
    (reached : deployment.faulty.CrashReaches deployment.instanceOf
      ⟨Deployment.start dataMapper redis, ∅⟩ last)
    (idle : deployment.Idle last) :
    Unlocked last.pool.state.redis ∨
      (∃ i, deployment.instanceOf i ∈ last.crashed ∧
        InSection (last.pool.history i)) ∨
      deployment.AbandonedIn ⟨Deployment.start dataMapper redis, ∅⟩ last := by
  rcases reached.allows_or (fun call outcome => ¬ Abandons call outcome) with
    releases | ⟨pool, crashed, i, call, next, outcome, before, alive, waiting,
      abandons, after⟩
  · have start : Held (Deployment.start dataMapper redis :
        ReloadPool ι Instance).state (fun _ => []) :=
      fun present => absurd absent present
    obtain ⟨held, leaves⟩ := System.Reaches.meets deployment.releasing_held
      start (fun _ => reloadBean_leaves dataMapper) releases.reaches
    by_cases unlocked : last.pool.state.redis Keys.lock = none
    · exact .inl (unlocked_of_absent unlocked)
    · obtain ⟨i, inSection⟩ := held unlocked
      have running : ∀ result, last.pool.rest i ≠ .done result := by
        intro result ended
        have left := leaves i
        rw [ended] at left
        exact left inSection
      have crashed : deployment.instanceOf i ∈ last.crashed := by
        by_contra alive
        exact idle i alive ⟨inSection.begun, running⟩
      exact .inr (.inl ⟨i, crashed, inSection⟩)
  · exact .inr (.inr ⟨pool, crashed, i, call, next, outcome, before, alive,
      waiting, not_not.mp abandons, after⟩)

/-! ## A crash in the section -/

/-- The first instance crashes after its write of the lock; the second has
not begun, and its reload is refused. -/
theorem crash_keeps_lock :
    ∃ last, twoInstances.system.CrashReaches twoInstances.instanceOf
        ⟨Deployment.start textMapper noKeys, ∅⟩ last ∧
      twoInstances.Idle last ∧
      last.pool.state.redis Keys.lock ≠ none ∧
      ∃ later, (environment noFiles).replay (fun _ => answered)
        (Environment.start last.pool.state.redis) (lock true) =
          (later, .ok false) := by
  have written : noKeys.set Keys.lock "1".toUTF8 Keys.lock =
      some "1".toUTF8 :=
    Redis.set_same noKeys Keys.lock "1".toUTF8
  refine ⟨_,
    .next false (answered _) (by simp) rfl rfl (fun _ => rfl) <|
    .next false (answered _) (by simp) rfl trivial (fun _ => rfl) <|
    .next false (answered _) (by simp) rfl trivial (fun _ => rfl) <|
    .single (.crash false), ?_, ?_, ?_⟩
  · intro i alive inside
    cases i with
    | false => exact alive (Set.mem_insert _ _)
    | true => exact inside.begun rfl
  · intro absent
    cases written.symm.trans absent
  · exact replay_lock_refused noFiles _ answering_answered written

/-- A crash before the write of the lock leaves it absent. -/
theorem crash_before_lock :
    ∃ last, twoInstances.faulty.CrashReaches twoInstances.instanceOf
        ⟨Deployment.start textMapper noKeys, ∅⟩ last ∧
      twoInstances.Idle last ∧
      last.pool.state.redis Keys.lock = none ∧
      (Unlocked last.pool.state.redis ∨
        (∃ i, twoInstances.instanceOf i ∈ last.crashed ∧
          InSection (last.pool.history i)) ∨
        twoInstances.AbandonedIn ⟨Deployment.start textMapper noKeys, ∅⟩
          last) := by
  have reached : ∃ last, twoInstances.faulty.CrashReaches
      twoInstances.instanceOf ⟨Deployment.start textMapper noKeys, ∅⟩ last ∧
      twoInstances.Idle last ∧ last.pool.state.redis Keys.lock = none := by
    refine ⟨_,
      .next false (answered _) (by simp) rfl rfl trivial <|
      .next false (answered _) (by simp) rfl trivial trivial <|
      .single (.crash false), ?_, rfl⟩
    intro i alive inside
    cases i with
    | false => exact alive (Set.mem_insert _ _)
    | true => exact inside.begun rfl
  obtain ⟨last, reached, idle, absent⟩ := reached
  exact ⟨last, reached, idle, absent, reload_unlocked rfl reached idle⟩

end SpringTemplate.Message
