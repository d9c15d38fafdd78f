import SpringTemplate.Library.CallBounds
import SpringTemplate.Startup.Ready

/-!
# When the application is open

Also without careful steps the flag promises something.  It is never set
before the beans of some refresh have been configured.  And once the latest
refresh has set it, it stays set whatever the tasks of earlier refreshes do,
so that no request is refused until the next event.
-/

namespace SpringTemplate.Startup

open Program

variable {Work Reply Failure ι Request : Type}

/-- A refresh resets the flag before anything else. -/
def resetContract : Contract (Call Work) (Answer Reply) Failure :=
  { relies := readyContract.relies
    guarantees := fun history call =>
      call = .setReady false → history = [] }

/-! ## One refresh -/

theorem runBeanConfigure_calls
    (configuration : Configuration Work Reply Failure) :
    (runBeanConfigure configuration).Calls (· ≠ .setReady false)
      (fun _ => True) := by
  induction configuration with
  | done result =>
      cases result with
      | error failure => exact .result (fun _ same => nomatch same)
      | ok _ => exact .perform (by simp)
  | call work next induction =>
      exact ⟨by simp, fun reply => induction reply⟩

theorem initTask_calls (configuration : Configuration Work Reply Failure) :
    (initTask configuration).Calls (· ≠ .setReady false)
      (fun _ => True) := by
  apply Calls.bind (runBeanConfigure_calls configuration)
  intro _ _
  apply Calls.bind (.perform (by simp))
  intro _ _
  apply Calls.bind (.perform (by simp))
  intro _ _
  apply Calls.bind (.perform (by simp))
  intro _ _
  exact .perform (by simp)

theorem onApplicationEvent_resets
    (configuration : Configuration Work Reply Failure) :
    resetContract.Kept (onApplicationEvent configuration) [] := by
  have later : (do
        send .getTaskHandler
        send .execute
        initTask configuration :
        StartupProgram Work Reply Failure Unit).Calls (· ≠ .setReady false)
          (fun _ => True) := by
    apply Calls.bind (.perform (by simp))
    intro _ _
    apply Calls.bind (.perform (by simp))
    intro _ _
    exact initTask_calls configuration
  refine ⟨fun _ => rfl, ?_⟩
  rintro answer rfl
  refine Contract.wp_mono (later.kept ?_ _) (fun _ _ _ => trivial)
  intro history call other same
  exact absurd same other

/-! ## Whole runs -/

/-- The flag with what the refreshes have done to it. -/
structure Opened (state : Readiness ι)
    (histories : ι → History (Call Work) (Answer Reply) Failure) : Prop where
  configured : ∀ i, ⟨.configured, .ok ()⟩ ∈ histories i →
    state.configured i = true
  latest : ∀ i, state.latest = some i →
    ⟨.setReady true, .ok ()⟩ ∈ histories i → state.ready = true
  begun : state.ready = true → ∃ i, state.configured i = true

section System

variable [DecidableEq ι]
  {histories : ι → History (Call Work) (Answer Reply) Failure}
  {state : Readiness ι} {i : ι}

theorem Opened.unchanged (opened : Opened state histories)
    {last : Exchange (Call Work) (Answer Reply) Failure}
    (notSet : last.op ≠ .setReady true) (notReturn : last.op ≠ .configured) :
    Opened state
      (Function.update histories i (histories i ++ [last])) where
  configured := by
    intro j member
    rcases mem_update member with earlier | ⟨_, same⟩
    · exact opened.configured j earlier
    · exact absurd (congrArg Exchange.op same).symm notReturn
  latest := by
    intro j latest member
    rcases mem_update member with earlier | ⟨_, same⟩
    · exact opened.latest j latest earlier
    · exact absurd (congrArg Exchange.op same).symm notSet
  begun := opened.begun

/-- Who resets the flag has not set it. -/
theorem Opened.reset (opened : Opened state histories)
    (first : histories i = []) :
    Opened { state with ready := false, latest := some i }
      (Function.update histories i
        (histories i ++ [⟨.setReady false, .ok ()⟩])) where
  configured := by
    intro j member
    rcases mem_update member with earlier | ⟨_, same⟩
    · exact opened.configured j earlier
    · cases same
  latest := by
    intro j latest member
    cases latest
    simp [first] at member
  begun := by
    intro ready
    cases ready

theorem Opened.returned (opened : Opened state histories) :
    Opened
      { state with configured := Function.update state.configured i true }
      (Function.update histories i
        (histories i ++ [⟨.configured, .ok ()⟩])) where
  configured := by
    intro j member
    by_cases own : j = i
    · subst own
      exact Function.update_self j _ _
    · rcases mem_update member with earlier | ⟨same, _⟩
      · exact (Function.update_of_ne own _ _).trans
          (opened.configured j earlier)
      · exact absurd same own
  latest := by
    intro j latest member
    rcases mem_update member with earlier | ⟨_, same⟩
    · exact opened.latest j latest earlier
    · cases same
  begun := fun _ => ⟨i, Function.update_self i _ _⟩

theorem Opened.set (opened : Opened state histories)
    (configured : ⟨.configured, .ok ()⟩ ∈ histories i) :
    Opened { state with ready := true }
      (Function.update histories i
        (histories i ++ [⟨.setReady true, .ok ()⟩])) where
  configured := by
    intro j member
    rcases mem_update member with earlier | ⟨_, same⟩
    · exact opened.configured j earlier
    · cases same
  latest := fun _ _ _ => rfl
  begun := fun _ => ⟨i, opened.configured i configured⟩

theorem system_opened :
    (system : System ι (Readiness ι) (Call Work) (Answer Reply) Failure
      (Outcome Reply Failure)).Preserves
        (readyContract.both resetContract) Opened where
  relied := by
    intro state histories i call outcome _ _ _
    cases call with
    | setReady value => cases value <;> exact ⟨rfl, rfl⟩
    | configured => exact ⟨rfl, rfl⟩
    | _ => exact ⟨trivial, trivial⟩
  kept := by
    intro state histories i call outcome opened _ _ guaranteed
    cases call with
    | setReady value =>
        cases value with
        | false => exact opened.reset (guaranteed.2 rfl)
        | true => exact opened.set guaranteed.1
    | configured => exact opened.returned
    | _ => exact opened.unchanged (by simp) (by simp)

end System

theorem preHandle_error {isReady : Bool}
    {interceptor : RequestInterceptor Request} {request : Request}
    {handler : Handler} (ready : isReady = true) :
    (preHandle isReady interceptor request handler).error = none := by
  subst ready
  cases handler with
  | method declaringClass simpleName name =>
      simp only [preHandle, if_true]
      split <;> rfl
  | resource =>
      simp only [preHandle, if_true]
      split <;> rfl
  | other => rfl

/-- In every run, the application is closed until some refresh has configured
its beans; and from when the latest refresh sets the flag until the next
event, no request is refused. -/
theorem open_after_latest [DecidableEq ι]
    {configuration : ι → Configuration Work Reply Failure}
    {pool : Pool ι (Readiness ι) (Call Work) (Answer Reply) Failure Unit}
    (reached : system.Reaches (start configuration) pool) :
    (pool.state.ready = true → ∃ i, pool.state.configured i = true) ∧
      ∀ i, pool.state.latest = some i →
        ⟨.setReady true, .ok ()⟩ ∈ pool.history i →
        ∀ (interceptor : RequestInterceptor Request) (request : Request)
          (handler : Handler),
          (preHandle pool.state.ready interceptor request handler).error =
            none := by
  have nothing : Opened (start configuration).state (fun _ =>
      ([] : List (Exchange (Call Work) (Answer Reply) Failure))) :=
    ⟨by simp, by simp, fun ready => by cases ready⟩
  have opened := (System.Reaches.sound system_opened nothing
    (fun i => (onApplicationEvent_kept (configuration i)).both
      (onApplicationEvent_resets (configuration i))) reached).1
  refine ⟨opened.begun, ?_⟩
  intro i latest opens interceptor request handler
  exact preHandle_error (opened.latest i latest opens)

/-- The second refresh sets the flag while the first one is still at work. -/
theorem open_after_second :
    ∃ pool, system.Reaches (start twoRefreshes) pool ∧
      pool.state.latest = some true ∧
      (pool.state.ready = true → ∃ i, pool.state.configured i = true) ∧
      ∀ (interceptor : RequestInterceptor Unit) (request : Unit)
        (handler : Handler),
        (preHandle pool.state.ready interceptor request handler).error =
          none := by
  have reached : ∃ pool, system.Reaches (start twoRefreshes) pool ∧
      pool.state.latest = some true ∧
      ⟨.setReady true, .ok ()⟩ ∈ pool.history true := by
    refine ⟨_,
      .next false (succeeds _) rfl trivial trivial <|
      .next false (succeeds _) rfl trivial trivial <|
      .next false (succeeds _) rfl trivial trivial <|
      .next false (succeeds _) rfl trivial trivial <|
      .next false (succeeds _) rfl trivial trivial <|
      .next true (succeeds _) rfl trivial trivial <|
      .next true (succeeds _) rfl trivial trivial <|
      .next true (succeeds _) rfl trivial trivial <|
      .next true (succeeds _) rfl trivial trivial <|
      .next true (succeeds _) rfl trivial trivial <|
      .next true (succeeds _) rfl trivial trivial <|
      .next true (succeeds _) rfl trivial trivial <|
      .next true (succeeds _) rfl trivial trivial .refl, rfl, ?_⟩
    exact List.mem_append_right _ (List.mem_singleton_self _)
  obtain ⟨pool, reached, latest, opens⟩ := reached
  obtain ⟨begun, opened⟩ := open_after_latest reached
  exact ⟨pool, reached, latest, begun, opened true latest opens⟩

end SpringTemplate.Startup
