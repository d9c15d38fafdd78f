import SpringTemplate.Library.Interleaving

/-!
# Programs one after another

`Serial` says what programs do that run one after another: each begins in the
state the one before it has left, and is answered there as it has been
answered among the others.  A pool keeps to such an order when its programs
change the state only while they are alone.  The lemmas move a serial order
along with one step of the pool: a step of a program outside the order, of
the last one, of any one when no state notices, and of one that joins.

A program joins late: it may have made calls before, while others ran.  It
can be placed at the end of the order when the state it finds there would
have answered those calls in the same way.
-/

variable {ι τ σ Op : Type} {Ans : Op → Type} {Err α : Type}
  {Outcome : Op → Type}

/-- What is left of a program once its calls have been answered. -/
inductive Program.Follows :
    Program Op Ans Err α → History Op Ans Err → Program Op Ans Err α →
    Prop where
  | nil (program : Program Op Ans Err α) : Follows program [] program
  | cons {op : Op} {next : Except Err (Ans op) → Program Op Ans Err α}
      {history : History Op Ans Err} {rest : Program Op Ans Err α}
      (answer : Except Err (Ans op)) :
      Follows (next answer) history rest →
      Follows (.call op next) (⟨op, answer⟩ :: history) rest

section Follows

variable {program : Program Op Ans Err α} {history : History Op Ans Err}
  {op : Op} {next : Except Err (Ans op) → Program Op Ans Err α}

theorem Program.Follows.snoc
    (follows : program.Follows history (.call op next))
    (answer : Except Err (Ans op)) :
    program.Follows (history ++ [⟨op, answer⟩]) (next answer) := by
  generalize same : Program.call op next = rest at follows
  induction follows with
  | nil program =>
      subst same
      exact .cons answer (.nil _)
  | cons earlier _ induction => exact .cons earlier (induction same)

/-- Every program of a pool is what its history has left of it. -/
theorem System.Reaches.follows [DecidableEq ι]
    {system : System ι σ Op Ans Err Outcome} {state : σ}
    {programs : ι → Program Op Ans Err α} {pool : Pool ι σ Op Ans Err α}
    (reached : system.Reaches (Pool.start state programs) pool) (i : ι) :
    (programs i).Follows (pool.history i) (pool.rest i) := by
  induction reached with
  | refl => exact .nil _
  | tail _ step induction =>
      cases step with
      | call j outcome waiting ready permitted =>
          by_cases same : i = j
          · subst same
            rw [waiting] at induction
            rw [Pool.record_rest_same, Pool.record_history_same]
            exact induction.snoc _
          · rwa [Pool.record_rest_other _ _ _ _ _ same,
              Pool.record_history_other _ _ _ _ _ same]

end Follows

namespace Environment

variable {env : Environment Op Ans Err τ Outcome}
  {allowed : (op : Op) → Outcome op → Prop}

/-- A run goes on by one more call. -/
theorem Runs.snoc {trace later : Trace τ Outcome}
    {program : Program Op Ans Err α} {op : Op}
    {next : Except Err (Ans op) → Program Op Ans Err α}
    (runs : env.Runs allowed trace program later (.call op next))
    {outcome : Outcome op} (permitted : allowed op outcome) :
    env.Runs allowed trace program (env.record later op outcome)
      (next (env later.state op outcome).2) := by
  generalize same : Program.call op next = rest at runs
  induction runs with
  | refl trace program =>
      subst same
      exact .step outcome permitted (.refl _ _)
  | step earlier granted _ induction =>
      exact .step earlier granted (induction same)

/-- More outcomes allow more runs. -/
theorem Runs.mono {weaker : (op : Op) → Outcome op → Prop}
    {trace later : Trace τ Outcome} {program rest : Program Op Ans Err α}
    (runs : env.Runs allowed trace program later rest)
    (implies : ∀ op outcome, allowed op outcome → weaker op outcome) :
    env.Runs weaker trace program later rest := by
  induction runs with
  | refl trace program => exact .refl trace program
  | step outcome permitted _ induction =>
      exact .step outcome (implies _ _ permitted) induction

/-- The state that calls lead to. -/
def after (env : Environment Op Ans Err τ Outcome) :
    τ → List (Event Outcome) → τ
  | state, [] => state
  | state, ⟨op, outcome⟩ :: events => env.after (env state op outcome).1 events

/-- How calls are answered, each in the state that those before it have
left. -/
def answers (env : Environment Op Ans Err τ Outcome) :
    τ → List (Event Outcome) → History Op Ans Err
  | _, [] => []
  | state, ⟨op, outcome⟩ :: events =>
      ⟨op, (env state op outcome).2⟩ ::
        env.answers (env state op outcome).1 events

theorem after_concat (state : τ) (events : List (Event Outcome)) (op : Op)
    (outcome : Outcome op) :
    env.after state (events ++ [⟨op, outcome⟩]) =
      (env (env.after state events) op outcome).1 := by
  induction events generalizing state with
  | nil => rfl
  | cons event events induction => exact induction _

theorem answers_concat (state : τ) (events : List (Event Outcome)) (op : Op)
    (outcome : Outcome op) :
    env.answers state (events ++ [⟨op, outcome⟩]) =
      env.answers state events ++
        [⟨op, (env (env.after state events) op outcome).2⟩] := by
  induction events generalizing state with
  | nil => rfl
  | cons event events induction => exact congrArg (_ :: ·) (induction _)

/-- A run leaves the state that its calls lead to. -/
theorem Runs.after {trace later : Trace τ Outcome}
    {program rest : Program Op Ans Err α}
    (runs : env.Runs allowed trace program later rest) {first : τ}
    (begins : env.after first trace.events = trace.state) :
    env.after first later.events = later.state := by
  induction runs with
  | refl trace program => exact begins
  | step outcome permitted _ induction =>
      apply induction
      rw [record_events, after_concat, begins]
      rfl

/-- The state answers the calls of a history as they have been answered, and
they leave it as it is. -/
def Confirms (env : Environment Op Ans Err τ Outcome)
    (allowed : (op : Op) → Outcome op → Prop) (state : τ)
    (history : History Op Ans Err) : Prop :=
  ∀ exchange ∈ history, ∃ outcome, allowed exchange.op outcome ∧
    env state exchange.op outcome = (state, exchange.answer)

/-- A confirmed history can be run again. -/
theorem Confirms.runs {state : τ} {program rest : Program Op Ans Err α}
    {history : History Op Ans Err} {trace : Trace τ Outcome}
    (confirms : env.Confirms allowed state history)
    (follows : program.Follows history rest)
    (content : trace.state = state) :
    ∃ later events, env.Runs allowed trace program later rest ∧
      later.state = state ∧ later.events = trace.events ++ events ∧
      env.answers state events = history := by
  induction follows generalizing trace with
  | nil program =>
      exact ⟨trace, [], .refl trace program, content,
        (List.append_nil _).symm, rfl⟩
  | @cons op next history rest answer follows induction =>
      obtain ⟨outcome, permitted, answered⟩ :=
        confirms _ List.mem_cons_self
      have here : env trace.state op outcome = (state, answer) := by
        rw [content]
        exact answered
      have recorded : (env.record trace op outcome).state = state := by
        rw [record_state, here]
      obtain ⟨later, events, runs, same, whole, rest⟩ := induction
        (fun earlier member =>
          confirms earlier (List.mem_cons_of_mem _ member)) recorded
      refine ⟨later, ⟨op, outcome⟩ :: events, .step outcome permitted ?_, same,
        ?_, ?_⟩
      · rw [here]
        exact runs
      · rw [whole, record_events, List.append_assoc]
        rfl
      · rw [answers, answered]
        exact congrArg (_ :: ·) rest

end Environment

/-! ## Serial orders -/

/-- `Serial solo allowed program rest history first order last`: from the
state `first`, the programs of `order` run one after another, each up to its
`rest` and with the answers of its `history`, from the state in which it
begins, and leave the state `last`. -/
inductive Serial (solo : ι → Environment Op Ans Err τ Outcome)
    (allowed : (op : Op) → Outcome op → Prop)
    (program rest : ι → Program Op Ans Err α)
    (history : ι → History Op Ans Err) (first : τ) : List ι → τ → Prop where
  | nil : Serial solo allowed program rest history first [] first
  | snoc {order : List ι} {before : τ} {trace : Trace τ Outcome} (i : ι) :
      Serial solo allowed program rest history first order before →
      (solo i).Runs allowed (Environment.start before) (program i) trace
        (rest i) →
      (solo i).answers before trace.events = history i →
      Serial solo allowed program rest history first (order ++ [i])
        trace.state

namespace Serial

variable {solo : ι → Environment Op Ans Err τ Outcome}
  {allowed : (op : Op) → Outcome op → Prop}
  {program rest : ι → Program Op Ans Err α}
  {history : ι → History Op Ans Err} {first last : τ} {order : List ι}
  [DecidableEq ι] {i : ι} {op : Op} {outcome : Outcome op}
  {next : Except Err (Ans op) → Program Op Ans Err α}

/-- What a program outside the order does is of no account. -/
theorem step_outside
    (serial : Serial solo allowed program rest history first order last)
    (absent : i ∉ order) (rest' : Program Op Ans Err α)
    (history' : History Op Ans Err) :
    Serial solo allowed program (Function.update rest i rest')
      (Function.update history i history') first order last := by
  induction serial with
  | nil => exact .nil
  | @snoc earlier before trace j start runs answered induction =>
      have different : j ≠ i := by
        rintro rfl
        exact absent (by simp)
      refine .snoc j (induction fun member => absent (by simp [member])) ?_ ?_
      · rwa [Function.update_of_ne different]
      · rwa [Function.update_of_ne different]

/-- A step of the last program changes the last state. -/
theorem step_last
    (serial :
      Serial solo allowed program rest history first (order ++ [i]) last)
    (absent : i ∉ order) (waiting : rest i = .call op next)
    (permitted : allowed op outcome) :
    Serial solo allowed program
      (Function.update rest i (next (solo i last op outcome).2))
      (Function.update history i
        (history i ++ [⟨op, (solo i last op outcome).2⟩]))
      first (order ++ [i]) (solo i last op outcome).1 := by
  generalize whole : order ++ [i] = all at serial
  cases serial with
  | nil => simp at whole
  | @snoc earlier before trace j start runs answered =>
      obtain ⟨rfl, tail⟩ := List.append_inj' whole rfl
      cases tail
      rw [waiting] at runs
      have moved := runs.snoc permitted
      rw [← Function.update_self i (next (solo i trace.state op outcome).2)
        rest] at moved
      have reached : (solo i).after before trace.events = trace.state :=
        runs.after rfl
      refine .snoc i (start.step_outside absent _ _) moved ?_
      rw [Function.update_self, Environment.record_events,
        Environment.answers_concat, answered, reached]

/-- A step that changes no state, and that every state answers in the same
way, does not move the order. -/
theorem step_quiet {answer : Except Err (Ans op)}
    (serial : Serial solo allowed program rest history first order last)
    (nodup : order.Nodup) (waiting : rest i = .call op next)
    (permitted : allowed op outcome)
    (quiet : ∀ state, solo i state op outcome = (state, answer)) :
    Serial solo allowed program (Function.update rest i (next answer))
      (Function.update history i (history i ++ [⟨op, answer⟩])) first
      order last := by
  induction serial with
  | nil => exact .nil
  | @snoc earlier before trace j start runs answered induction =>
      have apart := List.nodup_append.mp nodup
      by_cases same : j = i
      · subst same
        have absent : j ∉ earlier :=
          fun member => apart.2.2 j member j (by simp) rfl
        have stepped :=
          step_last (.snoc j start runs answered) absent waiting permitted
        rwa [quiet] at stepped
      · refine .snoc j (induction apart.1) ?_ ?_
        · rwa [Function.update_of_ne same]
        · rwa [Function.update_of_ne same]

/-- A program joins the order at its end. -/
theorem step_join
    (serial : Serial solo allowed program rest history first order last)
    (absent : i ∉ order) (waiting : rest i = .call op next)
    (follows : (program i).Follows (history i) (rest i))
    (confirms : (solo i).Confirms allowed last (history i))
    (permitted : allowed op outcome) :
    Serial solo allowed program
      (Function.update rest i (next (solo i last op outcome).2))
      (Function.update history i
        (history i ++ [⟨op, (solo i last op outcome).2⟩]))
      first (order ++ [i]) (solo i last op outcome).1 := by
  have start : (Environment.start last : Trace τ Outcome).state = last := rfl
  obtain ⟨trace, events, runs, content, whole, answered⟩ :=
    confirms.runs follows start
  have joined := Serial.snoc i serial runs (by rw [whole]; exact answered)
  rw [content] at joined
  exact joined.step_last absent waiting permitted

end Serial
