import SpringTemplate.Library.Serial
import SpringTemplate.Message.Exclusion

/-!
# Reloads that run one after another

Careful reloads interleave their Redis commands, but only the one in the
section changes Redis, the lock aside.  The reloads that have written the
lock can therefore be put in the order of these writes: run one after
another, each alone, they get the answers they got and leave the Redis they
left.  The others leave no trace in Redis.
-/

namespace SpringTemplate.Message

variable {Node ι Instance : Type}

/-- A call has written the lock. -/
def Entered (history : ReloadHistory) : Prop :=
  ∃ value, ⟨.set Keys.lock value, .ok ()⟩ ∈ history

/-- What a call has seen that is about to write the lock. -/
def lockTested : ReloadHistory :=
  [⟨.enter, .ok ()⟩, ⟨.get Keys.lock, .ok none⟩]

/-- The calls a reload makes before it has written the lock. -/
def Outside (history : ReloadHistory) (call : Call) : Prop :=
  call = .enter ∨ call = .exit ∨ call = .get Keys.lock ∨
    ∃ value, call = .set Keys.lock value ∧ history = lockTested

/-- Outside the section a reload only looks at the lock and writes it, and
after the section it only leaves the monitor.  The monitor and the writes of
the lock are answered. -/
def sectionContract : Contract Call Answer MessageException :=
  { relies := fun call answer =>
      match call, answer with
      | .enter, answer => answer = .ok ()
      | .exit, answer => answer = .ok ()
      | .set key _, answer => key = Keys.lock → answer = .ok ()
      | .delete keys, answer => keys = [Keys.lock] → answer = .ok ()
      | _, _ => True
    guarantees := fun history call =>
      (¬ Entered history → Outside history call) ∧
        (Entered history → ¬ InSection history → call = .exit) }

theorem InSection.entered {history : ReloadHistory}
    (inside : InSection history) : Entered history :=
  inside.locked

theorem not_entered_nil : ¬ Entered [] := by
  rintro ⟨value, member⟩
  cases member

/-! ## One reload -/

section Kept

variable {history : ReloadHistory} {call : Call} {α : Type}

theorem lockContract_relies {answer : Except MessageException (Answer call)}
    (relied : sectionContract.relies call answer) :
    lockContract.relies call answer := by
  cases call with
  | enter => exact relied
  | exit => exact relied
  | _ => trivial

/-- Some answer is always relied on. -/
theorem exists_relied (call : Call) :
    ∃ answer : Except MessageException (Answer call),
      lockContract.relies call answer := by
  cases call with
  | enter => exact ⟨.ok (), rfl⟩
  | exit => exact ⟨.ok (), rfl⟩
  | _ => exact ⟨.error .redis, trivial⟩

/-- A program that always ends in the section has not left it before. -/
theorem notUnlocked_of_inSection {program : ServiceProgram α}
    (ends : program.wp lockContract.rules (fun _ after => InSection after)
      history)
    (answer : Except MessageException Unit) :
    ⟨.delete [Keys.lock], answer⟩ ∉ history := by
  induction program generalizing history with
  | done result => exact ends.notUnlocked answer
  | call op next induction =>
      obtain ⟨reply, relied⟩ := exists_relied op
      have later := induction reply (ends.2 reply relied)
      exact fun member => later (List.mem_append_left _ member)

/-- In the section a reload may make any call. -/
theorem inSection_rules
    {post : Except MessageException (Answer call) → ReloadHistory → Prop}
    (inside : InSection history)
    (ends : ∀ answer, sectionContract.relies call answer →
      post answer (history ++ [⟨call, answer⟩])) :
    sectionContract.rules history call post :=
  ⟨⟨fun outside => absurd inside.entered outside,
    fun _ left => absurd inside left⟩, ends⟩

/-- A program that stays in the section keeps the contract. -/
theorem section_of_lock {program : ServiceProgram α}
    (inside : InSection history)
    (kept : program.wp lockContract.rules (fun _ after => InSection after)
      history) :
    program.wp sectionContract.rules (fun _ after => InSection after)
      history := by
  induction program generalizing history with
  | done result => exact kept
  | call op next induction =>
      apply inSection_rules inside
      intro answer relied
      have continues := kept.2 answer (lockContract_relies relied)
      apply induction answer _ continues
      apply inside.record
      rintro rfl
      exact notUnlocked_of_inSection continues answer (by simp)

/-- What follows the delete of the lock: the monitor is left. -/
def Exited (history : ReloadHistory) : Prop :=
  Entered history ∧ ¬ InSection history

theorem InSection.exited (inside : InSection history)
    (answer : Except MessageException Unit) :
    Exited (history ++ [⟨.delete [Keys.lock], answer⟩]) := by
  obtain ⟨value, locked⟩ := inside.locked
  refine ⟨⟨value, List.mem_append_left _ locked⟩, ?_⟩
  intro insideLater
  exact insideLater.notUnlocked answer (by simp)

/-- `lock(true)` either gets into the section or never writes the lock. -/
theorem lock_sections
    {post : Except MessageException Bool → ReloadHistory → Prop}
    (locks : ∀ after, InSection after → post (.ok true) after)
    (fails : ∀ result after, result ≠ .ok true → post result after) :
    (lock true).wp sectionContract.rules post [] := by
  have outside : ∀ {history : ReloadHistory} {call : Call},
      ¬ Entered history → Outside history call →
      sectionContract.guarantees history call :=
    fun notEntered guaranteed =>
      ⟨fun _ => guaranteed, fun entered => absurd entered notEntered⟩
  have entering : ¬ Entered ([] ++ [⟨.enter, .ok ()⟩]) := by
    rintro ⟨value, member⟩
    simp at member
  have looking : ∀ answer, ¬ Entered (([] ++ [⟨.enter, .ok ()⟩]) ++
      [⟨.get Keys.lock, answer⟩]) := by
    rintro answer ⟨value, member⟩
    simp at member
  simp only [lock, synchronized, Program.wp_bind, Program.wp_perform]
  refine ⟨outside not_entered_nil (.inl rfl), ?_⟩
  rintro answer rfl
  simp only [Program.andThen_ok, Program.wp_tryFinally, lockBody, if_true,
    Program.wp_bind, Program.wp_perform]
  refine ⟨outside entering (.inr (.inr (.inl rfl))), ?_⟩
  intro answer _
  cases answer with
  | error error =>
      refine ⟨outside (looking _) (.inr (.inl rfl)), ?_⟩
      rintro answer rfl
      exact fails _ _ (by simp)
  | ok lockBytes =>
      cases lockBytes with
      | some bytes =>
          refine ⟨outside (looking _) (.inr (.inl rfl)), ?_⟩
          rintro answer rfl
          exact fails _ _ (by simp)
      | none =>
          simp only [Program.andThen_ok, Program.wp_bind, Program.wp_perform]
          refine ⟨outside (looking _)
            (.inr (.inr (.inr ⟨_, rfl, rfl⟩))), ?_⟩
          intro answer relied
          obtain rfl := relied rfl
          have inside : InSection ((([] ++ [⟨.enter, .ok ()⟩]) ++
              [⟨.get Keys.lock, .ok none⟩]) ++
              [⟨.set Keys.lock "1".toUTF8, .ok ()⟩]) :=
            ⟨⟨"1".toUTF8, by simp⟩, by simp⟩
          apply inSection_rules inside
          rintro answer rfl
          exact locks _ (inside.record (by simp))

/-- `lock(false)` leaves the section and then makes no call but the last. -/
theorem unlock_sections (inside : InSection history) :
    (lock false).wp sectionContract.rules (fun _ _ => True) history := by
  simp only [lock, synchronized, Program.wp_bind, Program.wp_perform]
  apply inSection_rules inside
  rintro answer rfl
  have entered : InSection (history ++ [⟨.enter, .ok ()⟩]) :=
    inside.record (by simp)
  simp only [Program.andThen_ok, Program.wp_tryFinally, lockBody,
    Bool.false_eq_true, if_false, Program.wp_bind, Program.wp_perform]
  apply inSection_rules entered
  intro answer relied
  obtain rfl := relied rfl
  obtain ⟨written, left⟩ := entered.exited (.ok ())
  refine ⟨⟨fun notEntered => absurd written notEntered,
    fun _ _ => rfl⟩, ?_⟩
  rintro answer rfl
  trivial

/-- A reload keeps the contract of the section. -/
theorem reloadBean_sections (dataMapper : DataMapper Node) :
    sectionContract.Kept (deployed dataMapper).reloadBean [] := by
  simp only [Contract.Kept, MessageServiceImpl.reloadBean, Program.wp_bind]
  apply lock_sections
  · intro after inside
    simp only [Program.andThen_ok, if_true, Program.wp_bind,
      Program.wp_tryFinally]
    refine Contract.wp_mono
      (section_of_lock inside (reloadBody_kept inside)) ?_
    intro result later insideLater
    refine Contract.wp_mono (unlock_sections insideLater) ?_
    intro unlocked last _
    cases unlocked <;> cases result <;> trivial
  · intro result after notLocked
    cases result with
    | error error => trivial
    | ok locked =>
        cases locked with
        | false => trivial
        | true => exact absurd rfl notLocked

end Kept

/-! ## All reloads -/

/-- An order of the reloads that have written the lock, in which they might
have run one after another; the one in the section is the last. -/
structure Ordered [DecidableEq Instance] (deployment : Deployment ι Instance)
    (dataMapper : DataMapper Node) (redis : Redis)
    (pool : ReloadPool ι Instance) (order : List ι) : Prop where
  nodup : order.Nodup
  entered : ∀ i, i ∈ order ↔ Entered (pool.history i)
  last : ∀ i, InSection (pool.history i) → ∃ earlier, order = earlier ++ [i]
  serial : Serial (fun i => environment (deployment.directories i))
    deployment.system.allowed (fun _ => (deployed dataMapper).reloadBean)
    pool.rest pool.history redis order pool.state.redis

namespace Deployment

variable [DecidableEq Instance] (deployment : Deployment ι Instance)

/-- The instances share nothing but Redis. -/
theorem shared_solo (i : ι) (state : Shared ι Instance) (call : Call)
    (outcome : Outcome call) :
    (environment (deployment.directories i) state.redis call outcome) =
      ((deployment.shared i state call outcome).1.redis,
        (deployment.shared i state call outcome).2) := by
  cases call <;> rfl

/-- What the contract relies on is so. -/
theorem shared_sectionContract {i : ι} {state : Shared ι Instance}
    {call : Call} {outcome : Outcome call}
    (permitted : deployment.system.allowed call outcome) :
    sectionContract.relies call
      (deployment.shared i state call outcome).2 := by
  cases call with
  | enter => rfl
  | exit => rfl
  | set key value =>
      rintro rfl
      obtain rfl := permitted rfl
      rfl
  | delete keys =>
      rintro rfl
      obtain rfl := permitted (List.mem_singleton_self _)
      rfl
  | _ => trivial

variable [DecidableEq ι]

/-- In every pool the reloads keep the contract of the section. -/
theorem system_sections :
    deployment.system.Preserves sectionContract
      (fun (_ : Shared ι Instance) (_ : ι → ReloadHistory) => True) where
  relied := fun _ _ permitted => deployment.shared_sectionContract permitted
  kept := fun _ _ _ _ => trivial

end Deployment

section Step

variable [DecidableEq ι] {histories : ι → ReloadHistory} {i : ι} {call : Call}
  {answer : Except MessageException (Answer call)}

theorem entered_update_iff {j : ι}
    (known : Entered (histories i) ∨ ∀ value, call ≠ .set Keys.lock value) :
    Entered (Function.update histories i
      (histories i ++ [⟨call, answer⟩]) j) ↔ Entered (histories j) := by
  by_cases same : j = i
  · subst same
    rw [Function.update_self]
    constructor
    · rintro ⟨value, member⟩
      rcases List.mem_append.mp member with earlier | last
      · exact ⟨value, earlier⟩
      · rcases known with entered | other
        · exact entered
        · have equal := List.mem_singleton.mp last
          exact absurd (congrArg Exchange.op equal).symm (other value)
    · rintro ⟨value, member⟩
      exact ⟨value, List.mem_append_left _ member⟩
  · rw [Function.update_of_ne same]

variable [DecidableEq Instance] {deployment : Deployment ι Instance}
  {dataMapper : DataMapper Node} {redis : Redis}
  {pool : ReloadPool ι Instance} {order : List ι}
  {next : Except MessageException (Answer call) → ServiceProgram Bool}
  {outcome : Outcome call}

/-- The reload in the section is the last, and any call of it goes on
there. -/
theorem Ordered.step_inside
    (ordered : Ordered deployment dataMapper redis pool order)
    (inside : InSection (pool.history i))
    (waiting : pool.rest i = .call call next)
    (permitted : deployment.system.allowed call outcome) :
    Ordered deployment dataMapper redis
      (pool.record (deployment.shared i) i call next outcome) order := by
  obtain ⟨earlier, rfl⟩ := ordered.last i inside
  have absent : i ∉ earlier := fun member =>
    (List.nodup_append.mp ordered.nodup).2.2 i member i (by simp) rfl
  have serial := ordered.serial.step_last absent waiting permitted
  rw [deployment.shared_solo i pool.state call outcome] at serial
  refine ⟨ordered.nodup, ?_, ?_, serial⟩
  · intro j
    rw [ordered.entered j]
    exact (entered_update_iff (.inl inside.entered)).symm
  · intro j insideLater
    by_cases same : j = i
    · subst same
      exact ⟨earlier, rfl⟩
    · rw [Pool.record_history_other _ _ _ _ _ same] at insideLater
      exact ordered.last j insideLater

/-- A reload that has left the section only leaves the monitor. -/
theorem Ordered.step_exited {next : Except MessageException Unit →
      ServiceProgram Bool}
    (ordered : Ordered deployment dataMapper redis pool order)
    (waiting : pool.rest i = .call .exit next) :
    Ordered deployment dataMapper redis
      (pool.record (deployment.shared i) i .exit next ()) order := by
  have permitted : deployment.system.allowed .exit () := fun _ => rfl
  have quiet : ∀ state, environment (deployment.directories i) state .exit () =
      (state, .ok ()) := fun _ => rfl
  have serial :=
    ordered.serial.step_quiet ordered.nodup waiting permitted quiet
  refine ⟨ordered.nodup, ?_, ?_, serial⟩
  · intro j
    rw [ordered.entered j]
    exact (entered_update_iff (.inr (by simp))).symm
  · intro j insideLater
    exact ordered.last j (insideLater.of_update (by simp))

/-- A reload outside the order changes nothing in Redis. -/
theorem Ordered.step_looking
    (ordered : Ordered deployment dataMapper redis pool order)
    (outside : ¬ Entered (pool.history i))
    (other : ∀ value, call ≠ .set Keys.lock value)
    (unchanged : (deployment.shared i pool.state call outcome).1.redis =
      pool.state.redis) :
    Ordered deployment dataMapper redis
      (pool.record (deployment.shared i) i call next outcome) order := by
  have absent : i ∉ order := fun member =>
    outside ((ordered.entered i).mp member)
  have serial := ordered.serial.step_outside absent
    (next (deployment.shared i pool.state call outcome).2)
    (pool.history i ++
      [⟨call, (deployment.shared i pool.state call outcome).2⟩])
  rw [← unchanged] at serial
  refine ⟨ordered.nodup, ?_, ?_, serial⟩
  · intro j
    rw [ordered.entered j]
    exact (entered_update_iff (.inr other)).symm
  · intro j insideLater
    exact ordered.last j (insideLater.of_update other)

/-- The reload that writes the absent lock comes last.  It has only looked at
the lock so far, which is still absent. -/
theorem Ordered.step_locking {value : Bytes}
    {next : Except MessageException Unit → ServiceProgram Bool}
    (ordered : Ordered deployment dataMapper redis pool order)
    (exclusive : Exclusive pool.state pool.history)
    (free : pool.state.redis Keys.lock = none)
    (tested : pool.history i = lockTested)
    (follows : (deployed dataMapper).reloadBean.Follows (pool.history i)
      (pool.rest i))
    (waiting : pool.rest i = .call (.set Keys.lock value) next) :
    Ordered deployment dataMapper redis
      (pool.record (deployment.shared i) i (.set Keys.lock value) next
        Fault.answered) (order ++ [i]) := by
  have outside : ¬ Entered (pool.history i) := by
    rw [tested]
    rintro ⟨value, member⟩
    simp [lockTested] at member
  have absent : i ∉ order := fun member =>
    outside ((ordered.entered i).mp member)
  have permitted : deployment.system.allowed (.set Keys.lock value)
      Fault.answered := fun _ => rfl
  have confirms : (environment (deployment.directories i)).Confirms
      deployment.system.allowed pool.state.redis (pool.history i) := by
    rw [tested]
    intro exchange member
    simp only [lockTested, List.mem_cons, List.not_mem_nil, or_false]
      at member
    rcases member with rfl | rfl
    · exact ⟨(), fun _ => rfl, rfl⟩
    · refine ⟨Fault.answered, fun _ => rfl, ?_⟩
      rw [← free]
      rfl
  have serial :=
    ordered.serial.step_join absent waiting follows confirms permitted
  have entering : Entered (pool.history i ++
      [⟨.set Keys.lock value, .ok ()⟩]) :=
    ⟨value, by simp⟩
  refine ⟨?_, ?_, ?_, serial⟩
  · rw [List.nodup_append]
    exact ⟨ordered.nodup, List.nodup_singleton i, by
      rintro j member k last rfl
      obtain rfl := List.mem_singleton.mp last
      exact absent member⟩
  · intro j
    by_cases same : j = i
    · subst same
      rw [Pool.record_history_same]
      exact ⟨fun _ => entering, fun _ => by simp⟩
    · rw [Pool.record_history_other _ _ _ _ _ same, ← ordered.entered j]
      simp [same]
  · intro j insideLater
    by_cases same : j = i
    · subst same
      exact ⟨order, rfl⟩
    · rw [Pool.record_history_other _ _ _ _ _ same] at insideLater
      exact absurd free (exclusive.present j insideLater)

end Step

/-- Reloads kept apart might have run one after another: those that have
written the lock, in the order in which they have, each answered alone as it
was among the others, leave the same Redis. -/
theorem ordered_of_careful [DecidableEq ι] [DecidableEq Instance]
    {deployment : Deployment ι Instance} {dataMapper : DataMapper Node}
    {redis : Redis} {pool : ReloadPool ι Instance}
    (reached : deployment.careful.Reaches
      (Deployment.start dataMapper redis) pool) :
    ∃ order, Ordered deployment dataMapper redis pool order := by
  induction reached with
  | refl =>
      refine ⟨[], List.nodup_nil, ?_, ?_, .nil⟩
      · intro i
        constructor
        · intro member
          cases member
        · intro entered
          exact absurd entered not_entered_nil
      · intro i inside
        exact absurd inside.entered not_entered_nil
  | @tail pool later reached step induction =>
      obtain ⟨order, ordered⟩ := induction
      have exclusive := Deployment.exclusive_of_careful reached
      have reaches := Deployment.careful_reaches reached
      have kept := (System.Reaches.sound deployment.system_sections trivial
        (fun _ => reloadBean_sections dataMapper) reaches).2
      cases step with
      | call i outcome waiting ready permitted =>
          have guaranteed := (waiting ▸ kept i).1
          by_cases inside : InSection (pool.history i)
          · exact ⟨order, ordered.step_inside inside waiting permitted⟩
          · by_cases entered : Entered (pool.history i)
            · obtain rfl := guaranteed.2 entered inside
              exact ⟨order, ordered.step_exited waiting⟩
            · rcases guaranteed.1 entered with
                rfl | rfl | rfl | ⟨value, rfl, tested⟩
              · exact ⟨order, ordered.step_looking entered (by simp) rfl⟩
              · exact ⟨order, ordered.step_looking entered (by simp) rfl⟩
              · obtain rfl := permitted rfl
                exact ⟨order, ordered.step_looking entered (by simp) rfl⟩
              · obtain rfl := permitted rfl
                exact ⟨order ++ [i], ordered.step_locking exclusive
                  (ready.2 rfl) tested (reaches.follows i) waiting⟩

end SpringTemplate.Message
