import SpringTemplate.Startup.Application

/-!
# What the ready flag promises

The flag is to be set only when the configuration of the latest refresh has
completed.  Nothing ties a task to the event that started it, so the task of
an earlier refresh can set the flag while the latest is still at work.  When
no event comes between a task's own event and its write of the flag, the
promise is kept.
-/

namespace SpringTemplate.Startup

variable {Work Reply Failure ι Request : Type}

/-- The configuration of the latest refresh has completed. -/
def Readiness.LatestConfigured (state : Readiness ι) : Prop :=
  ∃ i, state.latest = some i ∧ state.configured i = true

def Readiness.Truthful (state : Readiness ι) : Prop :=
  state.ready = true → state.LatestConfigured

/-- The task that sets the flag belongs to the event delivered last. -/
def Careful (i : ι) (state : Readiness ι) : Call Work → Prop
  | .setReady true => state.latest = some i
  | _ => True

section Contract

/-- A refresh sets the flag after its beans were configured.  The flag and the
return are always answered. -/
def readyContract : Contract (Call Work) (Answer Reply) Failure :=
  { relies := fun call answer =>
      match call, answer with
      | .setReady _, answer => answer = .ok ()
      | .configured, answer => answer = .ok ()
      | _, _ => True
    guarantees := fun history call =>
      match call with
      | .setReady true => ⟨.configured, .ok ()⟩ ∈ history
      | _ => True }

variable {history : History (Call Work) (Answer Reply) Failure}
  {post : Except Failure Unit → History (Call Work) (Answer Reply) Failure →
    Prop}

theorem runBeanConfigure_kept
    {configuration : Configuration Work Reply Failure}
    (ends : ∀ after, ⟨.configured, .ok ()⟩ ∈ after → post (.ok ()) after)
    (fails : ∀ failure after, post (.error failure) after) :
    (runBeanConfigure configuration).wp readyContract.rules post history := by
  induction configuration generalizing history with
  | done result =>
      cases result with
      | error failure => exact fails failure history
      | ok _ =>
          refine ⟨trivial, ?_⟩
          rintro answer rfl
          exact ends _ (by simp)
  | call work next induction =>
      refine ⟨trivial, ?_⟩
      intro reply _
      exact induction reply

/-- A call that touches neither the flag nor the record goes through. -/
theorem send_kept {call : Call Work}
    {post : Except Failure (Answer Reply call) →
      History (Call Work) (Answer Reply) Failure → Prop}
    (other : call ≠ .setReady true)
    (ends : ∀ answer, readyContract.relies call answer →
      post answer (history ++ [⟨call, answer⟩])) :
    (send call).wp readyContract.rules post history := by
  refine ⟨?_, ends⟩
  cases call with
  | setReady value =>
      cases value with
      | true => exact absurd rfl other
      | false => trivial
  | _ => trivial

theorem initTask_kept (configuration : Configuration Work Reply Failure) :
    (initTask configuration).wp readyContract.rules (fun _ _ => True)
      history := by
  simp only [initTask, Program.wp_bind]
  apply runBeanConfigure_kept
  · intro after configured
    simp only [Program.andThen_ok, Program.wp_bind]
    apply send_kept (by simp)
    intro found _
    cases found with
    | error failure => trivial
    | ok _ =>
        simp only [Program.andThen_ok, Program.wp_bind]
        apply send_kept (by simp)
        intro submitted _
        cases submitted with
        | error failure => trivial
        | ok _ =>
            simp only [Program.andThen_ok, Program.wp_bind]
            refine ⟨List.mem_append_left _ (List.mem_append_left _ configured),
              ?_⟩
            rintro answer rfl
            exact send_kept (by simp) (fun _ _ => trivial)
  · intro failure after
    trivial

theorem onApplicationEvent_kept
    (configuration : Configuration Work Reply Failure) :
    readyContract.Kept (onApplicationEvent configuration) [] := by
  simp only [Contract.Kept, onApplicationEvent, Program.wp_bind]
  apply send_kept (by simp)
  rintro reset rfl
  simp only [Program.andThen_ok, Program.wp_bind]
  apply send_kept (by simp)
  intro found _
  cases found with
  | error failure => trivial
  | ok _ =>
      simp only [Program.andThen_ok, Program.wp_bind]
      apply send_kept (by simp)
      intro submitted _
      cases submitted with
      | error failure => trivial
      | ok _ => exact initTask_kept configuration

end Contract

/-! ## Whole runs -/

/-- The state records what the refreshes have done. -/
structure Recorded (state : Readiness ι)
    (histories : ι → History (Call Work) (Answer Reply) Failure) : Prop where
  configured : ∀ i, ⟨.configured, .ok ()⟩ ∈ histories i →
    state.configured i = true
  truthful : state.Truthful

section System

variable [DecidableEq ι]
  {histories : ι → History (Call Work) (Answer Reply) Failure}
  {state after : Readiness ι} {i : ι}

/-- The same refreshes, with careful steps only. -/
def careful : System ι (Readiness ι) (Call Work) (Answer Reply) Failure
    (Outcome Reply Failure) :=
  { system with ready := fun i state call => Careful i state call }

theorem mem_update {j : ι} {event : Exchange (Call Work) (Answer Reply) Failure}
    {last : Exchange (Call Work) (Answer Reply) Failure}
    (member : event ∈ Function.update histories i (histories i ++ [last]) j) :
    event ∈ histories j ∨ j = i ∧ event = last := by
  by_cases same : j = i
  · subst same
    rw [Function.update_self] at member
    rcases List.mem_append.mp member with earlier | new
    · exact .inl earlier
    · exact .inr ⟨rfl, List.mem_singleton.mp new⟩
  · rw [Function.update_of_ne same] at member
    exact .inl member

theorem Recorded.unchanged (recorded : Recorded state histories)
    {last : Exchange (Call Work) (Answer Reply) Failure}
    (notReturn : last.op ≠ .configured) :
    Recorded state
      (Function.update histories i (histories i ++ [last])) where
  configured := by
    intro j member
    rcases mem_update member with earlier | ⟨_, same⟩
    · exact recorded.configured j earlier
    · exact absurd (congrArg Exchange.op same).symm notReturn
  truthful := recorded.truthful

theorem Recorded.reset (recorded : Recorded state histories) :
    Recorded { state with ready := false, latest := some i }
      (Function.update histories i
        (histories i ++ [⟨.setReady false, .ok ()⟩])) where
  configured := by
    intro j member
    rcases mem_update member with earlier | ⟨_, same⟩
    · exact recorded.configured j earlier
    · cases same
  truthful := by
    intro ready
    cases ready

theorem Recorded.returned (recorded : Recorded state histories) :
    Recorded
      { state with configured := Function.update state.configured i true }
      (Function.update histories i
        (histories i ++ [⟨.configured, .ok ()⟩])) where
  configured := by
    intro j member
    by_cases own : j = i
    · subst own
      exact Function.update_self j _ _
    · rcases mem_update member with earlier | ⟨same, _⟩
      · have before := recorded.configured j earlier
        exact (Function.update_of_ne own _ _).trans before
      · exact absurd same own
  truthful := by
    intro ready
    obtain ⟨j, latest, done⟩ := recorded.truthful ready
    refine ⟨j, latest, ?_⟩
    by_cases own : j = i
    · subst own
      exact Function.update_self j _ _
    · exact (Function.update_of_ne own _ _).trans done

/-- The flag is set by the latest refresh, which has configured its beans. -/
theorem Recorded.set (recorded : Recorded state histories)
    (configured : ⟨.configured, .ok ()⟩ ∈ histories i)
    (latest : state.latest = some i) :
    Recorded { state with ready := true }
      (Function.update histories i
        (histories i ++ [⟨.setReady true, .ok ()⟩])) where
  configured := by
    intro j member
    rcases mem_update member with earlier | ⟨_, same⟩
    · exact recorded.configured j earlier
    · cases same
  truthful := fun _ => ⟨i, latest, recorded.configured i configured⟩

theorem careful_recorded :
    (careful : System ι (Readiness ι) (Call Work) (Answer Reply) Failure
      (Outcome Reply Failure)).Preserves readyContract Recorded where
  relied := by
    intro state histories i call outcome _ _ _
    cases call with
    | setReady value => cases value <;> rfl
    | configured => rfl
    | _ => trivial
  kept := by
    intro state histories i call outcome recorded ready _ guaranteed
    cases call with
    | setReady value =>
        cases value with
        | false => exact recorded.reset
        | true => exact recorded.set guaranteed ready
    | configured => exact recorded.returned
    | _ => exact recorded.unchanged (by simp)

variable {configuration : ι → Configuration Work Reply Failure}
  {pool : Pool ι (Readiness ι) (Call Work) (Answer Reply) Failure Unit}

/-- Careful steps keep the flag truthful. -/
theorem truthful_of_careful
    (reached : careful.Reaches (start configuration) pool) :
    pool.state.Truthful := by
  have nothing : Recorded (start configuration).state (fun _ =>
      ([] : List (Exchange (Call Work) (Answer Reply) Failure))) :=
    ⟨by simp, fun ready => by cases ready⟩
  exact (System.Reaches.sound careful_recorded nothing
    (fun i => onApplicationEvent_kept (configuration i)) reached).1.truthful

end System

/-- When the flag can be trusted.  In every run in which each task that sets
the flag belongs to the event delivered last, the configuration of the latest
refresh has completed whenever the application is ready, and no request is
let through before. -/
theorem ready_truthful [DecidableEq ι]
    {configuration : ι → Configuration Work Reply Failure}
    {pool : Pool ι (Readiness ι) (Call Work) (Answer Reply) Failure Unit}
    (reached : careful.Reaches (start configuration) pool) :
    (pool.state.ready = true →
      ∃ i, pool.state.latest = some i ∧ pool.state.configured i = true) ∧
    ∀ (interceptor : RequestInterceptor Request) (request : Request)
      (handler : Handler),
      (preHandle pool.state.ready interceptor request handler).proceeds =
          true →
        ∃ i, pool.state.latest = some i ∧ pool.state.configured i = true := by
  have truthful := truthful_of_careful reached
  refine ⟨truthful, ?_⟩
  intro interceptor request handler proceeds
  exact truthful (preHandle_ready proceeds)

/-! ## Two refreshes that overlap -/

/-- Two refreshes, each configuring a single bean. -/
def twoRefreshes : Bool → Configuration Unit Unit Unit :=
  fun _ => Program.perform ()

def succeeds : (call : Call Unit) → Outcome Unit Unit call
  | .setReady _ => ()
  | .getTaskHandler => .ok ()
  | .execute => .ok ()
  | .configure _ => .ok ()
  | .configured => ()
  | .getInitHandler => .ok ()
  | .executeInit => .ok ()
  | .initServlet => .ok ()

def anyRequest : RequestInterceptor Unit :=
  { ignoredHandlerClasses := []
    acceptLanguage := fun _ => ""
    getRedirect := fun _ => none }

/-- The first task sets the flag after the second event was delivered. -/
theorem twoRefreshes_not_truthful :
    ∃ pool, system.Reaches (start twoRefreshes) pool ∧
      pool.state.ready = true ∧ pool.state.latest = some true ∧
      pool.state.configured true = false ∧
      (preHandle pool.state.ready anyRequest () .other).proceeds = true ∧
      ¬ pool.state.Truthful := by
  refine ⟨_,
    .next false (succeeds _) rfl trivial trivial <|
    .next false (succeeds _) rfl trivial trivial <|
    .next false (succeeds _) rfl trivial trivial <|
    .next false (succeeds _) rfl trivial trivial <|
    .next false (succeeds _) rfl trivial trivial <|
    .next false (succeeds _) rfl trivial trivial <|
    .next false (succeeds _) rfl trivial trivial <|
    .next true (succeeds _) rfl trivial trivial <|
    .next false (succeeds _) rfl trivial trivial .refl, rfl, rfl, rfl, rfl, ?_⟩
  intro truthful
  obtain ⟨i, latest, configured⟩ := truthful rfl
  cases latest
  cases configured

/-- One refresh after the other. -/
theorem twoRefreshes_truthful :
    ∃ pool, careful.Reaches (start twoRefreshes) pool ∧
      pool.state.ready = true ∧ pool.state.latest = some true ∧
      pool.state.configured true = true ∧
      (preHandle pool.state.ready anyRequest () .other).proceeds = true := by
  have reached : ∃ pool, careful.Reaches (start twoRefreshes) pool ∧
      pool.state.ready = true ∧ pool.state.latest = some true ∧
      (preHandle pool.state.ready anyRequest () .other).proceeds = true :=
    ⟨_,
      .next false (succeeds _) rfl trivial trivial <|
      .next false (succeeds _) rfl trivial trivial <|
      .next false (succeeds _) rfl trivial trivial <|
      .next false (succeeds _) rfl trivial trivial <|
      .next false (succeeds _) rfl trivial trivial <|
      .next false (succeeds _) rfl trivial trivial <|
      .next false (succeeds _) rfl trivial trivial <|
      .next false (succeeds _) rfl rfl trivial <|
      .next true (succeeds _) rfl trivial trivial <|
      .next true (succeeds _) rfl trivial trivial <|
      .next true (succeeds _) rfl trivial trivial <|
      .next true (succeeds _) rfl trivial trivial <|
      .next true (succeeds _) rfl trivial trivial <|
      .next true (succeeds _) rfl trivial trivial <|
      .next true (succeeds _) rfl trivial trivial <|
      .next true (succeeds _) rfl rfl trivial .refl, rfl, rfl, rfl⟩
  obtain ⟨pool, reached, ready, latest, proceeds⟩ := reached
  obtain ⟨_, refuses⟩ := ready_truthful reached
  obtain ⟨i, same, configured⟩ := refuses anyRequest () .other proceeds
  cases latest.symm.trans same
  exact ⟨pool, reached, ready, latest, configured, proceeds⟩

end SpringTemplate.Startup
