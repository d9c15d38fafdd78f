import SpringTemplate.Library.Program

/-!
# Running a program in an environment

An environment answers a call by looking at its state and at an outcome,
which stands for everything outside the state that decides the answer (a
fault, for instance).  A trace is the state reached together with the calls
made so far.  `Runs` is the step-by-step meaning of a program, also for a
program that has not ended; `replay` computes the run for outcomes fixed in
advance.

The two soundness theorems turn a weakest precondition into a statement about
runs: about every way a program can end, and about every trace it passes
through.
-/

/-- How a call is answered, given the state and the outcome. -/
abbrev Environment (Op : Type) (Ans : Op → Type) (Err σ : Type)
    (Outcome : Op → Type) :=
  σ → (op : Op) → Outcome op → σ × Except Err (Ans op)

structure Event {Op : Type} (Outcome : Op → Type) where
  op : Op
  outcome : Outcome op

structure Trace {Op : Type} (σ : Type) (Outcome : Op → Type) where
  state : σ
  events : List (Event Outcome)

namespace Environment

variable {Op : Type} {Ans : Op → Type} {Err σ α β : Type} {Outcome : Op → Type}

def start (state : σ) : Trace σ Outcome :=
  { state := state
    events := [] }

@[simp] theorem start_state (state : σ) :
    (start state : Trace σ Outcome).state = state := rfl

@[simp] theorem start_events (state : σ) :
    (start state : Trace σ Outcome).events = [] := rfl

variable (env : Environment Op Ans Err σ Outcome)

/-- The trace after one more call. -/
def record (trace : Trace σ Outcome) (op : Op) (outcome : Outcome op) :
    Trace σ Outcome :=
  { state := (env trace.state op outcome).1
    events := trace.events ++ [⟨op, outcome⟩] }

@[simp] theorem record_state (trace : Trace σ Outcome) (op : Op)
    (outcome : Outcome op) :
    (env.record trace op outcome).state = (env trace.state op outcome).1 := rfl

@[simp] theorem record_events (trace : Trace σ Outcome) (op : Op)
    (outcome : Outcome op) :
    (env.record trace op outcome).events =
      trace.events ++ [⟨op, outcome⟩] := rfl

theorem mem_record_events (trace : Trace σ Outcome) (op : Op)
    (outcome : Outcome op) :
    ⟨op, outcome⟩ ∈ (env.record trace op outcome).events :=
  List.mem_append_right _ (List.mem_singleton_self _)

/-- `Runs allowed trace program later rest`: calls answered with allowed
outcomes lead from `trace`, with `program` to run, to `later`, with `rest`
still to run. -/
inductive Runs (allowed : (op : Op) → Outcome op → Prop) :
    Trace σ Outcome → Program Op Ans Err α →
    Trace σ Outcome → Program Op Ans Err α → Prop where
  | refl (trace : Trace σ Outcome) (program : Program Op Ans Err α) :
      Runs allowed trace program trace program
  | step {trace later : Trace σ Outcome} {op : Op}
      {next : Except Err (Ans op) → Program Op Ans Err α}
      {rest : Program Op Ans Err α} (outcome : Outcome op) :
      allowed op outcome →
      Runs allowed (env.record trace op outcome)
        (next (env trace.state op outcome).2) later rest →
      Runs allowed trace (.call op next) later rest

/-- The program ends, with this result and in this trace. -/
def Ends (allowed : (op : Op) → Outcome op → Prop)
    (trace : Trace σ Outcome) (program : Program Op Ans Err α)
    (result : Except Err α) (later : Trace σ Outcome) : Prop :=
  env.Runs allowed trace program later (.done result)

/-- The call rules of the environment: any allowed outcome may occur. -/
def rules (allowed : (op : Op) → Outcome op → Prop) :
    CallRules Op Ans Err (Trace σ Outcome) :=
  fun trace op post =>
    ∀ outcome, allowed op outcome →
      post (env trace.state op outcome).2 (env.record trace op outcome)

/-- As `rules`, and `invariant` holds whenever a call is about to be made. -/
def guarded (allowed : (op : Op) → Outcome op → Prop)
    (invariant : Trace σ Outcome → Prop) :
    CallRules Op Ans Err (Trace σ Outcome) :=
  fun trace op post => invariant trace ∧ env.rules allowed trace op post

variable {env}

theorem wp_sound {allowed : (op : Op) → Outcome op → Prop}
    {program : Program Op Ans Err α}
    {post : Except Err α → Trace σ Outcome → Prop}
    {trace later : Trace σ Outcome} {result : Except Err α}
    (holds : program.wp (env.rules allowed) post trace)
    (ends : env.Ends allowed trace program result later) :
    post result later := by
  unfold Ends at ends
  generalize finished : Program.done result = rest at ends
  induction ends with
  | refl trace program =>
      subst finished
      exact holds
  | step outcome permitted _ induction =>
      exact induction (holds outcome permitted) finished

theorem guarded_sound {allowed : (op : Op) → Outcome op → Prop}
    {program rest : Program Op Ans Err α}
    {invariant : Trace σ Outcome → Prop} {trace later : Trace σ Outcome}
    (holds : program.wp (env.guarded allowed invariant)
      (fun _ after => invariant after) trace)
    (runs : env.Runs allowed trace program later rest) :
    invariant later := by
  induction runs with
  | refl trace program =>
      cases program with
      | done result => exact holds
      | call op next => exact holds.1
  | step outcome permitted _ induction =>
      exact induction (holds.2 outcome permitted)

theorem wp_of_guarded {allowed : (op : Op) → Outcome op → Prop}
    {program : Program Op Ans Err α} {invariant : Trace σ Outcome → Prop}
    {post : Except Err α → Trace σ Outcome → Prop} {trace : Trace σ Outcome}
    (holds : program.wp (env.guarded allowed invariant) post trace) :
    program.wp (env.rules allowed) post trace := by
  induction program generalizing trace with
  | done result => exact holds
  | call op next induction =>
      intro outcome permitted
      exact induction _ (holds.2 outcome permitted)

theorem guarded_mono {allowed : (op : Op) → Outcome op → Prop}
    {invariant : Trace σ Outcome → Prop} {program : Program Op Ans Err α}
    {post weaker : Except Err α → Trace σ Outcome → Prop}
    (implies : ∀ result after, post result after → weaker result after)
    {trace : Trace σ Outcome}
    (holds : program.wp (env.guarded allowed invariant) post trace) :
    program.wp (env.guarded allowed invariant) weaker trace :=
  Program.wp_mono
    (fun _ _ _ _ weaken call =>
      ⟨call.1, fun outcome permitted =>
        weaken _ _ (call.2 outcome permitted)⟩)
    implies holds

variable (env)

/-- The run in which the `n`th call has the outcome `outcomes n`. -/
def replay (outcomes : Nat → (op : Op) → Outcome op) :
    Trace σ Outcome → Program Op Ans Err α → Trace σ Outcome × Except Err α
  | trace, .done result => (trace, result)
  | trace, .call op next =>
      let outcome := outcomes trace.events.length op
      replay outcomes (env.record trace op outcome)
        (next (env trace.state op outcome).2)

section Replay

variable (outcomes : Nat → (op : Op) → Outcome op)

@[simp] theorem replay_done (trace : Trace σ Outcome)
    (result : Except Err α) :
    env.replay outcomes trace (.done result : Program Op Ans Err α) =
      (trace, result) := rfl

@[simp] theorem replay_pure (trace : Trace σ Outcome) (value : α) :
    env.replay outcomes trace (pure value : Program Op Ans Err α) =
      (trace, .ok value) := rfl

@[simp] theorem replay_perform (trace : Trace σ Outcome) (op : Op) :
    env.replay outcomes trace
        (Program.perform op : Program Op Ans Err (Ans op)) =
      (env.record trace op (outcomes trace.events.length op),
        (env trace.state op (outcomes trace.events.length op)).2) := rfl

@[simp] theorem replay_bind (trace : Trace σ Outcome)
    (program : Program Op Ans Err α) (rest : α → Program Op Ans Err β) :
    env.replay outcomes trace (program >>= rest) =
      match env.replay outcomes trace program with
      | (later, .ok value) => env.replay outcomes later (rest value)
      | (later, .error error) => (later, .error error) := by
  change env.replay outcomes trace (program.bind rest) = _
  induction program generalizing trace with
  | done result => cases result <;> rfl
  | call op next induction => exact induction _ _

@[simp] theorem replay_tryFinally (trace : Trace σ Outcome)
    (body : Program Op Ans Err α) (cleanup : Program Op Ans Err Unit) :
    env.replay outcomes trace (body.tryFinally cleanup) =
      match env.replay outcomes trace body with
      | (later, result) =>
          env.replay outcomes later (cleanup >>= fun _ => .done result) := by
  induction body generalizing trace with
  | done result => rfl
  | call op next induction => exact induction _ _

end Replay

theorem replay_ends (allowed : (op : Op) → Outcome op → Prop)
    (outcomes : Nat → (op : Op) → Outcome op)
    (permitted : ∀ n op, allowed op (outcomes n op))
    (trace : Trace σ Outcome) (program : Program Op Ans Err α) :
    env.Ends allowed trace program (env.replay outcomes trace program).2
      (env.replay outcomes trace program).1 := by
  induction program generalizing trace with
  | done result => exact .refl trace (.done result)
  | call op next induction =>
      exact .step _ (permitted trace.events.length op) (induction _ _)

/-- The first `n` calls of that run. -/
def advance (outcomes : Nat → (op : Op) → Outcome op) :
    Nat → Trace σ Outcome → Program Op Ans Err α →
    Trace σ Outcome × Program Op Ans Err α
  | 0, trace, program => (trace, program)
  | _ + 1, trace, .done result => (trace, .done result)
  | n + 1, trace, .call op next =>
      let outcome := outcomes trace.events.length op
      advance outcomes n (env.record trace op outcome)
        (next (env trace.state op outcome).2)

theorem advance_runs (allowed : (op : Op) → Outcome op → Prop)
    (outcomes : Nat → (op : Op) → Outcome op)
    (permitted : ∀ n op, allowed op (outcomes n op)) (n : Nat)
    (trace : Trace σ Outcome) (program : Program Op Ans Err α) :
    env.Runs allowed trace program (env.advance outcomes n trace program).1
      (env.advance outcomes n trace program).2 := by
  induction n generalizing trace program with
  | zero => exact .refl trace program
  | succ n induction =>
      cases program with
      | done result => exact .refl trace (.done result)
      | call op next =>
          exact .step _ (permitted trace.events.length op) (induction _ _)

/-- The rest of the run leads where the whole run leads. -/
theorem replay_advance (outcomes : Nat → (op : Op) → Outcome op) (n : Nat)
    (trace : Trace σ Outcome) (program : Program Op Ans Err α) :
    env.replay outcomes (env.advance outcomes n trace program).1
        (env.advance outcomes n trace program).2 =
      env.replay outcomes trace program := by
  induction n generalizing trace program with
  | zero => rfl
  | succ n induction =>
      cases program with
      | done result => rfl
      | call op next => exact induction _ _

/-! ## Programs that only read -/

/-- Begun on this state, the run ends with this result and leaves the state
as it is. -/
def Yields (outcomes : Nat → (op : Op) → Outcome op) (state : σ)
    (program : Program Op Ans Err α) (result : Except Err α) : Prop :=
  ∀ trace : Trace σ Outcome, trace.state = state →
    ∃ later, env.replay outcomes trace program = (later, result) ∧
      later.state = state

namespace Yields

variable {env} {outcomes : Nat → (op : Op) → Outcome op} {state : σ}
  {program : Program Op Ans Err α} {rest : α → Program Op Ans Err β}

theorem done (result : Except Err α) :
    env.Yields outcomes state (.done result) result :=
  fun trace content => ⟨trace, rfl, content⟩

theorem bind {value : α} {result : Except Err β}
    (first : env.Yields outcomes state program (.ok value))
    (second : env.Yields outcomes state (rest value) result) :
    env.Yields outcomes state (program >>= rest) result := by
  intro trace content
  obtain ⟨middle, runs, unchanged⟩ := first trace content
  obtain ⟨later, continues, same⟩ := second middle unchanged
  refine ⟨later, ?_, same⟩
  rw [replay_bind, runs]
  exact continues

theorem perform {op : Op} {answer : Except Err (Ans op)}
    (answers : ∀ n, env state op (outcomes n op) = (state, answer)) :
    env.Yields outcomes state (Program.perform op) answer := by
  intro trace content
  have here := answers trace.events.length
  rw [← content] at here
  refine ⟨env.record trace op (outcomes trace.events.length op), ?_, ?_⟩
  · rw [replay_perform, here]
  · rw [record_state, here]
    exact content

/-- There is only one result. -/
theorem unique {result other : Except Err α}
    (one : env.Yields outcomes state program result)
    (two : env.Yields outcomes state program other) : result = other := by
  obtain ⟨_, runs, _⟩ := one (start state) rfl
  obtain ⟨_, again, _⟩ := two (start state) rfl
  rw [runs] at again
  exact congrArg Prod.snd again

end Yields

end Environment
