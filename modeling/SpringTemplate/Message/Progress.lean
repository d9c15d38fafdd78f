import SpringTemplate.Library.CallBounds
import SpringTemplate.Message.Abandoned
import SpringTemplate.Message.Clearing

/-!
# Reloads come to an end

A reload waits for nothing but the monitor of its instance.  Who holds the
monitor does not wait, and a reload makes a bounded number of calls.  So the
reloads of an instance that runs go on until all of them have ended, also
when other instances crash.
-/

namespace SpringTemplate.Message

open Program

variable {Node ι Instance : Type} (dataMapper : DataMapper Node)

/-- A call that is not about the monitor. -/
def Call.Unmonitored (call : Call) : Prop :=
  call ≠ .enter ∧ call ≠ .exit

/-! ## How many calls a reload makes -/

section Number

variable {allowed : Call → Prop}

theorem send_few {call : Call} (other : call.Unmonitored) :
    (send call).CallsAtMost Call.Unmonitored 1 :=
  .perform other

theorem lockBody_few (yes : Bool) :
    (lockBody yes).CallsAtMost Call.Unmonitored (if yes then 2 else 1) := by
  cases yes with
  | false =>
      apply CallsAtMost.bind (send_few (by simp [Call.Unmonitored]))
      intro _
      exact .done _ 0
  | true =>
      apply CallsAtMost.bind (m := 1)
        (send_few (by simp [Call.Unmonitored]))
      intro lockBytes
      cases lockBytes with
      | some _ => exact .done _ 1
      | none =>
          apply CallsAtMost.bind (send_few (by simp [Call.Unmonitored]))
          intro _
          exact .done _ 0

theorem clear_few :
    (deployed dataMapper).clear.CallsAtMost Call.Unmonitored 2 := by
  apply CallsAtMost.bind (m := 1) (send_few (by simp [Call.Unmonitored]))
  intro vResources
  apply CallsAtMost.bind (m := 1) (n := 0) (.done _ 0)
  intro cacheKeys
  apply CallsAtMost.bind (m := 1) (n := 0) (.done _ 0)
  intro cacheKeys
  dsimp only
  split
  · exact .done _ 1
  · exact send_few (by simp [Call.Unmonitored])

theorem loadResource_few (type : String) :
    ((deployed dataMapper).loadResource type).CallsAtMost Call.Unmonitored
      1 := by
  apply CallsAtMost.bind (send_few (by simp [Call.Unmonitored]))
  intro resources
  exact .done _ 0

theorem multiSet_few (values : OrderedMap String Bytes) :
    (MessageServiceImpl.multiSet values).CallsAtMost Call.Unmonitored 1 := by
  rw [MessageServiceImpl.multiSet]
  split
  · exact .done _ 1
  · exact send_few (by simp [Call.Unmonitored])

theorem reloadBody_few :
    (deployed dataMapper).reloadBody.CallsAtMost Call.Unmonitored 8 := by
  apply CallsAtMost.bind (m := 6) (clear_few dataMapper)
  intro _
  apply CallsAtMost.bind (m := 5) (loadResource_few dataMapper "mobile")
  intro mobile
  apply CallsAtMost.bind (m := 4) (loadResource_few dataMapper "portal")
  intro portal
  apply CallsAtMost.bind (m := 3) (multiSet_few mobile)
  intro _
  apply CallsAtMost.bind (m := 2) (multiSet_few portal)
  intro _
  apply CallsAtMost.bind (send_few (by simp [Call.Unmonitored]))
  intro _
  exact send_few (by simp [Call.Unmonitored])

theorem lock_few (yes : Bool) :
    (lock yes).CallsAtMost (fun _ => True)
      ((1 + if yes then 2 else 1) + 1) := by
  apply CallsAtMost.bind (.perform trivial)
  intro _
  exact ((lockBody_few yes).weaken (fun _ _ => trivial)).tryFinally
    (.perform trivial)

theorem reloadBean_few :
    (deployed dataMapper).reloadBean.CallsAtMost (fun _ => True) 15 := by
  apply CallsAtMost.bind (m := 11) (lock_few true)
  intro locked
  split
  · have unlock : (do let _ ← lock false; pure () : ServiceProgram Unit
        ).CallsAtMost (fun _ => True) 3 := by
      apply CallsAtMost.bind (m := 0) (lock_few false)
      intro _
      exact .done _ 0
    have body : (deployed dataMapper).reloadBody.CallsAtMost
        (fun _ => True) 8 :=
      (reloadBody_few dataMapper).weaken (fun _ _ => trivial)
    apply CallsAtMost.bind (m := 0) (body.tryFinally unlock)
    intro _
    exact .done _ 0
  · exact .done _ 11

end Number

/-! ## The monitor -/

/-- The call is inside the monitor of its instance after these calls. -/
def InMonitor (history : ReloadHistory) : Prop :=
  ∃ before after, history = before ++ [⟨.enter, .ok ()⟩] ++ after ∧
    ∀ answer, ⟨.exit, answer⟩ ∉ after

theorem inMonitor_entered (history : ReloadHistory) :
    InMonitor (history ++ [⟨.enter, .ok ()⟩]) :=
  ⟨history, [], by simp, by simp⟩

theorem not_inMonitor_exited (history : ReloadHistory)
    (answer : Except MessageException Unit) :
    ¬ InMonitor (history ++ [⟨.exit, answer⟩]) := by
  rintro ⟨before, after, split, inside⟩
  rcases List.eq_nil_or_concat after with rfl | ⟨after, last, rfl⟩
  · rw [List.append_nil] at split
    have same := (List.append_inj' split rfl).2
    simp at same
  · rw [List.concat_eq_append, ← List.append_assoc] at split
    have same := (List.append_inj' split rfl).2
    apply inside answer
    rw [List.concat_eq_append, ← same]
    exact List.mem_append_right _ (List.mem_singleton_self _)

theorem inMonitor_other {history : ReloadHistory} {call : Call}
    {answer : Except MessageException (Answer call)}
    (other : call.Unmonitored) :
    InMonitor (history ++ [⟨call, answer⟩]) ↔ InMonitor history := by
  constructor
  · rintro ⟨before, after, split, inside⟩
    rcases List.eq_nil_or_concat after with rfl | ⟨after, last, rfl⟩
    · rw [List.append_nil] at split
      have same := List.singleton_inj.mp (List.append_inj' split rfl).2
      exact absurd (congrArg Exchange.op same) other.1
    · rw [List.concat_eq_append, ← List.append_assoc] at split
      refine ⟨before, after, (List.append_inj' split rfl).1, ?_⟩
      intro answer member
      exact inside answer (by simp [member])
  · rintro ⟨before, after, rfl, inside⟩
    refine ⟨before, after ++ [⟨call, answer⟩], by simp, ?_⟩
    intro left member
    rcases List.mem_append.mp member with earlier | last
    · exact inside left earlier
    · have same := List.mem_singleton.mp last
      exact absurd (congrArg Exchange.op same).symm other.2

/-- The monitor is entered from outside and left from inside. -/
def monitorContract : Contract Call Answer MessageException :=
  { relies := lockContract.relies
    guarantees := fun history call =>
      match call with
      | .enter => ¬ InMonitor history
      | .exit => InMonitor history
      | _ => True }

theorem guarantees_unmonitored {history : ReloadHistory} {call : Call}
    (other : call.Unmonitored) : monitorContract.guarantees history call := by
  cases call with
  | enter => exact absurd rfl other.1
  | exit => exact absurd rfl other.2
  | _ => trivial

/-- Other calls change nothing about the monitor. -/
theorem unmonitored_kept {α : Type} {program : ServiceProgram α} {n : Nat}
    (few : program.CallsAtMost Call.Unmonitored n) (history : ReloadHistory) :
    program.wp monitorContract.rules
      (fun _ after => InMonitor after ↔ InMonitor history) history := by
  induction program generalizing n history with
  | done result => exact Iff.rfl
  | call op next induction =>
      cases n with
      | zero => exact few.elim
      | succ n =>
          refine ⟨guarantees_unmonitored few.1, ?_⟩
          intro answer _
          refine Contract.wp_mono (induction answer (few.2 answer) _) ?_
          intro result after same
          exact same.trans (inMonitor_other few.1)

theorem lock_monitored {yes : Bool} {history : ReloadHistory}
    (outside : ¬ InMonitor history) :
    (lock yes).wp monitorContract.rules (fun _ after => ¬ InMonitor after)
      history := by
  simp only [lock, synchronized, Program.wp_bind, Program.wp_perform]
  refine ⟨outside, ?_⟩
  rintro answer rfl
  simp only [Program.andThen_ok, Program.wp_tryFinally, Program.wp_perform]
  refine Contract.wp_mono (unmonitored_kept (lockBody_few yes) _) ?_
  intro result later same
  refine ⟨same.mpr (inMonitor_entered history), ?_⟩
  rintro answer rfl
  exact not_inMonitor_exited later _

/-- A reload that has ended has left the monitor. -/
theorem reloadBean_monitored :
    (deployed dataMapper).reloadBean.wp monitorContract.rules
      (fun _ after => ¬ InMonitor after) [] := by
  have outside : ¬ InMonitor [] := by
    rintro ⟨before, after, split, _⟩
    simp at split
  simp only [MessageServiceImpl.reloadBean, Program.wp_bind]
  refine Contract.wp_mono (lock_monitored outside) ?_
  intro locked later left
  cases locked with
  | error error => exact left
  | ok locked =>
      cases locked with
      | false => exact left
      | true =>
          simp only [Program.andThen_ok, if_true, Program.wp_bind,
            Program.wp_tryFinally]
          refine Contract.wp_mono
            (unmonitored_kept (reloadBody_few dataMapper) later) ?_
          intro result after same
          refine Contract.wp_mono
            (lock_monitored (fun inside => left (same.mp inside))) ?_
          intro unlocked last outside
          cases unlocked <;> cases result <;> exact outside

/-! ## Who holds a monitor -/

/-- Who holds the monitor of an instance belongs to it and is inside. -/
def Monitored (deployment : Deployment ι Instance)
    (state : Shared ι Instance) (histories : ι → ReloadHistory) : Prop :=
  ∀ owned i, state.holder owned = some i →
    deployment.instanceOf i = owned ∧ InMonitor (histories i)

namespace Deployment

variable [DecidableEq Instance] (deployment : Deployment ι Instance)

theorem shared_holder {i : ι} {state : Shared ι Instance} {call : Call}
    (other : call.Unmonitored) (outcome : Outcome call) :
    (deployment.shared i state call outcome).1.holder = state.holder := by
  cases call with
  | enter => exact absurd rfl other.1
  | exit => exact absurd rfl other.2
  | _ => rfl

variable [DecidableEq ι]

theorem faulty_monitored :
    deployment.faulty.Preserves monitorContract (Monitored deployment) where
  relied := fun _ _ _ => deployment.shared_relied _
  kept := by
    intro state histories i call outcome monitored ready _ _ owned j holding
    -- Entering and leaving change the holder of the instance of `i` alone.
    have elsewhere : ∀ answer : Except MessageException (Answer call),
        owned ≠ deployment.instanceOf i → state.holder owned = some j →
        deployment.instanceOf j = owned ∧
          InMonitor (Function.update histories i
            (histories i ++ [⟨call, answer⟩]) j) := by
      intro answer different held
      obtain ⟨here, inside⟩ := monitored owned j held
      have apart : j ≠ i := by
        rintro rfl
        exact different here.symm
      rw [Function.update_of_ne apart]
      exact ⟨here, inside⟩
    by_cases other : call.Unmonitored
    · have held : state.holder owned = some j :=
        (congrFun (deployment.shared_holder other outcome) owned).symm.trans
          holding
      obtain ⟨here, inside⟩ := monitored owned j held
      refine ⟨here, ?_⟩
      by_cases same : j = i
      · subst same
        rw [Function.update_self]
        exact (inMonitor_other other).mpr inside
      · rwa [Function.update_of_ne same]
    · by_cases same : owned = deployment.instanceOf i
      · subst same
        cases call with
        | enter =>
            have entered : some i = some j :=
              (Function.update_self _ _ state.holder).symm.trans holding
            obtain rfl := Option.some.inj entered
            rw [Function.update_self]
            exact ⟨rfl, inMonitor_entered _⟩
        | exit =>
            have left : none = some j :=
              (Function.update_self _ _ state.holder).symm.trans holding
            cases left
        | _ => exact absurd ⟨by simp, by simp⟩ other
      · cases call with
        | enter =>
            exact elsewhere _ same
              ((Function.update_of_ne same _ state.holder).symm.trans holding)
        | exit =>
            exact elsewhere _ same
              ((Function.update_of_ne same _ state.holder).symm.trans holding)
        | _ => exact absurd ⟨by simp, by simp⟩ other

end Deployment

/-! ## Whole runs -/

/-- Who cannot make a call waits for somebody inside the monitor. -/
theorem exists_inMonitor_of_not_ready [DecidableEq Instance]
    {deployment : Deployment ι Instance} {state : Shared ι Instance}
    {histories : ι → ReloadHistory} {i : ι} {call : Call}
    (monitored : Monitored deployment state histories)
    (blocked : ¬ deployment.Ready i state call) :
    ∃ j, deployment.instanceOf j = deployment.instanceOf i ∧
      InMonitor (histories j) := by
  cases call with
  | enter =>
      obtain ⟨j, holding⟩ := Option.ne_none_iff_exists'.mp blocked
      exact ⟨j, monitored _ j holding⟩
  | _ => exact absurd trivial blocked

variable {dataMapper} in
/-- No reload makes more than fifteen calls.  And while a reload of an
instance that runs has not ended, some reload of this instance can make its
next call: reloads never block one another for good. -/
theorem reloads_end [DecidableEq ι] [DecidableEq Instance]
    {deployment : Deployment ι Instance} {redis : Redis}
    {last : CrashPool Instance ι (Shared ι Instance) Call Answer
      MessageException Bool}
    (reached : deployment.faulty.CrashReaches deployment.instanceOf
      ⟨Deployment.start dataMapper redis, ∅⟩ last) :
    (∀ i, (last.pool.history i).length ≤ 15) ∧
      ∀ i, deployment.instanceOf i ∉ last.crashed →
        (∃ result, last.pool.rest i = .done result) ∨
        ∃ j later, deployment.instanceOf j = deployment.instanceOf i ∧
          deployment.faulty.CrashStep deployment.instanceOf last later ∧
          (later.pool.history j).length =
            (last.pool.history j).length + 1 := by
  obtain ⟨pool, crashed⟩ := last
  have begins : Monitored deployment
      (Deployment.start dataMapper redis : ReloadPool ι Instance).state
      (fun _ => []) := by
    rintro owned i ⟨⟩
  obtain ⟨monitored, kept⟩ := System.Reaches.meets
    deployment.faulty_monitored begins
    (fun _ => reloadBean_monitored dataMapper)
    reached.reaches
  have calls : ∀ j {call next}, pool.rest j = .call call next →
      deployment.instanceOf j ∉ crashed →
      deployment.Ready j pool.state call →
      ∃ later, deployment.faulty.CrashStep deployment.instanceOf
          ⟨pool, crashed⟩ later ∧
        (later.pool.history j).length = (pool.history j).length + 1 := by
    intro j call next waiting alive ready
    refine ⟨_, .call j (answered call) alive waiting ready trivial, ?_⟩
    rw [Pool.record_history_same, List.length_append, List.length_singleton]
  refine ⟨?_, ?_⟩
  · intro i
    obtain ⟨left, _, total⟩ := System.Reaches.calls_bounded
      (fun _ => reloadBean_few dataMapper) reached.reaches i
    exact Nat.le.intro total
  · intro i alive
    cases waiting : pool.rest i with
    | done result => exact .inl ⟨result, rfl⟩
    | call call next =>
        refine .inr ?_
        by_cases ready : deployment.Ready i pool.state call
        · obtain ⟨later, step, grown⟩ := calls i waiting alive ready
          exact ⟨i, later, rfl, step, grown⟩
        · obtain ⟨j, here, inside⟩ :=
            exists_inMonitor_of_not_ready monitored ready
          have insideKept := kept j
          -- Whoever is inside the monitor goes on, and does not wait for it.
          cases going : pool.rest j with
          | done result =>
              rw [going] at insideKept
              exact absurd inside insideKept
          | call call next =>
              rw [going] at insideKept
              have readyInside : deployment.Ready j pool.state call := by
                cases call with
                | enter => exact absurd inside insideKept.1
                | _ => trivial
              obtain ⟨later, step, grown⟩ :=
                calls j going (here ▸ alive) readyInside
              exact ⟨j, later, here, step, grown⟩

/-- An instance has crashed inside its monitor; the other one goes on. -/
theorem reloads_end_crash :
    ∃ last, twoInstances.faulty.CrashReaches twoInstances.instanceOf
        ⟨Deployment.start textMapper codeRedis, ∅⟩ last ∧
      InMonitor (last.pool.history false) ∧
      (∀ i, (last.pool.history i).length ≤ 15) ∧
      ∀ i, twoInstances.instanceOf i ∉ last.crashed →
        (∃ result, last.pool.rest i = .done result) ∨
        ∃ j later, twoInstances.instanceOf j = twoInstances.instanceOf i ∧
          twoInstances.faulty.CrashStep twoInstances.instanceOf last later ∧
          (later.pool.history j).length =
            (last.pool.history j).length + 1 := by
  have reached : ∃ last, twoInstances.faulty.CrashReaches
      twoInstances.instanceOf ⟨Deployment.start textMapper codeRedis, ∅⟩
        last ∧ last.pool.history false = [⟨.enter, .ok ()⟩] :=
    ⟨_, .next false (answered _) (by simp) rfl rfl trivial <|
      .single (.crash false), rfl⟩
  obtain ⟨last, reached, entered⟩ := reached
  refine ⟨last, reached, ?_, reloads_end reached⟩
  rw [entered]
  exact inMonitor_entered []

end SpringTemplate.Message
