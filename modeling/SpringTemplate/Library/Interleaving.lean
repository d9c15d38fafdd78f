import SpringTemplate.Library.Environment
import Mathlib.Logic.Function.Basic
import Mathlib.Logic.Relation

/-!
# Programs side by side

A pool is a family of programs, of any size, that call one shared
environment.  One step answers one call of one program; the order is free up
to `ready`, which says when a call may be answered at all (the entry into a
monitor, for instance).  Every program keeps the history of its own calls.

A contract splits the proof of an invariant in two.  What a program
guarantees about its calls, as long as the answers are as it relies on, is
shown for one program at a time.  What these calls do to the invariant is
shown for one step at a time.
-/

/-- A call with its answer. -/
structure Exchange (Op : Type) (Ans : Op → Type) (Err : Type) where
  op : Op
  answer : Except Err (Ans op)

abbrev History (Op : Type) (Ans : Op → Type) (Err : Type) :=
  List (Exchange Op Ans Err)

structure Pool (ι σ Op : Type) (Ans : Op → Type) (Err α : Type) where
  state : σ
  rest : ι → Program Op Ans Err α
  history : ι → History Op Ans Err

structure System (ι σ Op : Type) (Ans : Op → Type) (Err : Type)
    (Outcome : Op → Type) where
  environment : ι → Environment Op Ans Err σ Outcome
  ready : ι → σ → Op → Prop
  allowed : (op : Op) → Outcome op → Prop

structure Contract (Op : Type) (Ans : Op → Type) (Err : Type) where
  relies : (op : Op) → Except Err (Ans op) → Prop
  guarantees : History Op Ans Err → Op → Prop

variable {ι σ Op : Type} {Ans : Op → Type} {Err α : Type}
  {Outcome : Op → Type}

namespace Pool

/-- Nobody has made a call yet. -/
def start (state : σ) (program : ι → Program Op Ans Err α) :
    Pool ι σ Op Ans Err α :=
  { state := state
    rest := program
    history := fun _ => [] }

@[simp] theorem start_state (state : σ)
    (program : ι → Program Op Ans Err α) :
    (start state program).state = state := rfl

@[simp] theorem start_history (state : σ)
    (program : ι → Program Op Ans Err α) (i : ι) :
    (start state program).history i = [] := rfl

variable [DecidableEq ι]

/-- The pool after one more call of the program `i`. -/
def record (pool : Pool ι σ Op Ans Err α)
    (env : Environment Op Ans Err σ Outcome) (i : ι) (op : Op)
    (next : Except Err (Ans op) → Program Op Ans Err α)
    (outcome : Outcome op) : Pool ι σ Op Ans Err α :=
  { state := (env pool.state op outcome).1
    rest := Function.update pool.rest i
      (next (env pool.state op outcome).2)
    history := Function.update pool.history i
      (pool.history i ++ [⟨op, (env pool.state op outcome).2⟩]) }

section Record

variable (pool : Pool ι σ Op Ans Err α)
  (env : Environment Op Ans Err σ Outcome) (i : ι) {op : Op}
  (next : Except Err (Ans op) → Program Op Ans Err α)
  (outcome : Outcome op)

@[simp] theorem record_state :
    (pool.record env i op next outcome).state =
      (env pool.state op outcome).1 := rfl

@[simp] theorem record_rest_same :
    (pool.record env i op next outcome).rest i =
      next (env pool.state op outcome).2 :=
  Function.update_self i _ _

@[simp] theorem record_history_same :
    (pool.record env i op next outcome).history i =
      pool.history i ++ [⟨op, (env pool.state op outcome).2⟩] :=
  Function.update_self i _ _

theorem record_rest_other {j : ι} (different : j ≠ i) :
    (pool.record env i op next outcome).rest j = pool.rest j :=
  Function.update_of_ne different _ _

theorem record_history_other {j : ι} (different : j ≠ i) :
    (pool.record env i op next outcome).history j = pool.history j :=
  Function.update_of_ne different _ _

end Record

end Pool

namespace Contract

/-- The call rules of a program that keeps the contract. -/
def rules (contract : Contract Op Ans Err) :
    CallRules Op Ans Err (History Op Ans Err) :=
  fun history op post =>
    contract.guarantees history op ∧
      ∀ answer, contract.relies op answer →
        post answer (history ++ [⟨op, answer⟩])

/-- The program keeps the contract, whatever has been called before. -/
def Kept (contract : Contract Op Ans Err) (program : Program Op Ans Err α)
    (history : History Op Ans Err) : Prop :=
  program.wp contract.rules (fun _ _ => True) history

theorem rules_mono (contract : Contract Op Ans Err)
    (history : History Op Ans Err) (op : Op)
    {post weaker : Except Err (Ans op) → History Op Ans Err → Prop}
    (implies : ∀ answer after, post answer after → weaker answer after)
    (holds : contract.rules history op post) :
    contract.rules history op weaker :=
  ⟨holds.1, fun answer relied => implies _ _ (holds.2 answer relied)⟩

theorem wp_mono {contract : Contract Op Ans Err}
    {program : Program Op Ans Err α} {history : History Op Ans Err}
    {post weaker : Except Err α → History Op Ans Err → Prop}
    (holds : program.wp contract.rules post history)
    (implies : ∀ result after, post result after → weaker result after) :
    program.wp contract.rules weaker history :=
  Program.wp_mono (fun history op {_ _} => contract.rules_mono history op)
    implies holds

/-- Two contracts at once. -/
def both (one other : Contract Op Ans Err) : Contract Op Ans Err :=
  { relies := fun op answer => one.relies op answer ∧ other.relies op answer
    guarantees := fun history op =>
      one.guarantees history op ∧ other.guarantees history op }

theorem Kept.both {one other : Contract Op Ans Err}
    {program : Program Op Ans Err α} {history : History Op Ans Err}
    (first : one.Kept program history) (second : other.Kept program history) :
    (one.both other).Kept program history := by
  induction program generalizing history with
  | done result => exact trivial
  | call op next induction =>
      refine ⟨⟨first.1, second.1⟩, ?_⟩
      intro answer relied
      exact induction answer (first.2 answer relied.1)
        (second.2 answer relied.2)

end Contract

namespace System

variable [DecidableEq ι] (system : System ι σ Op Ans Err Outcome)

/-- One call of one program is answered. -/
inductive Step : Pool ι σ Op Ans Err α → Pool ι σ Op Ans Err α → Prop where
  | call {pool : Pool ι σ Op Ans Err α} (i : ι) {op : Op}
      {next : Except Err (Ans op) → Program Op Ans Err α}
      (outcome : Outcome op) :
      pool.rest i = .call op next →
      system.ready i pool.state op →
      system.allowed op outcome →
      Step pool (pool.record (system.environment i) i op next outcome)

/-- The pools a system can reach, step by step. -/
abbrev Reaches (first last : Pool ι σ Op Ans Err α) : Prop :=
  Relation.ReflTransGen system.Step first last

variable {system}

theorem Reaches.next {pool last : Pool ι σ Op Ans Err α} {op : Op}
    {next : Except Err (Ans op) → Program Op Ans Err α} (i : ι)
    (outcome : Outcome op) (waiting : pool.rest i = .call op next)
    (ready : system.ready i pool.state op)
    (permitted : system.allowed op outcome)
    (rest : system.Reaches
      (pool.record (system.environment i) i op next outcome) last) :
    system.Reaches pool last :=
  .head (.call i outcome waiting ready permitted) rest

/-- What one step does to an invariant, given the contract of the program
that makes the call. -/
structure Preserves (system : System ι σ Op Ans Err Outcome)
    (contract : Contract Op Ans Err)
    (invariant : σ → (ι → History Op Ans Err) → Prop) : Prop where
  relied : ∀ {state : σ} {histories : ι → History Op Ans Err} {i : ι}
    {op : Op} {outcome : Outcome op}, invariant state histories →
      system.ready i state op → system.allowed op outcome →
      contract.relies op (system.environment i state op outcome).2
  kept : ∀ {state : σ} {histories : ι → History Op Ans Err} {i : ι}
    {op : Op} {outcome : Outcome op}, invariant state histories →
      system.ready i state op → system.allowed op outcome →
      contract.guarantees (histories i) op →
      invariant (system.environment i state op outcome).1
        (Function.update histories i (histories i ++
          [⟨op, (system.environment i state op outcome).2⟩]))

/-- The invariant holds, and every program keeps the contract until it ends
as it should. -/
def Meets (contract : Contract Op Ans Err)
    (invariant : σ → (ι → History Op Ans Err) → Prop)
    (ends : Except Err α → History Op Ans Err → Prop)
    (pool : Pool ι σ Op Ans Err α) : Prop :=
  invariant pool.state pool.history ∧
    ∀ i, (pool.rest i).wp contract.rules ends (pool.history i)

/-- The invariant holds and every program still keeps the contract. -/
def Sound (contract : Contract Op Ans Err)
    (invariant : σ → (ι → History Op Ans Err) → Prop)
    (pool : Pool ι σ Op Ans Err α) : Prop :=
  invariant pool.state pool.history ∧
    ∀ i, contract.Kept (pool.rest i) (pool.history i)

variable {contract : Contract Op Ans Err}
  {invariant : σ → (ι → History Op Ans Err) → Prop}
  {ends : Except Err α → History Op Ans Err → Prop}

theorem Step.meets {pool later : Pool ι σ Op Ans Err α}
    (preserves : system.Preserves contract invariant)
    (step : system.Step pool later) (met : Meets contract invariant ends pool) :
    Meets contract invariant ends later := by
  obtain ⟨holds, kept⟩ := met
  cases step with
  | call i outcome waiting ready permitted =>
      have keeps := kept i
      rw [waiting] at keeps
      obtain ⟨guaranteed, continues⟩ := keeps
      refine ⟨preserves.kept holds ready permitted guaranteed, ?_⟩
      intro j
      by_cases same : j = i
      · subst same
        rw [Pool.record_rest_same, Pool.record_history_same]
        exact continues _ (preserves.relied holds ready permitted)
      · rw [Pool.record_rest_other _ _ _ _ _ same,
          Pool.record_history_other _ _ _ _ _ same]
        exact kept j

/-- Rely and guarantee: programs that keep the contract keep the invariant in
every pool they reach, and end as they should. -/
theorem Reaches.meets {state : σ} {program : ι → Program Op Ans Err α}
    {pool : Pool ι σ Op Ans Err α}
    (preserves : system.Preserves contract invariant)
    (holds : invariant state (fun _ => []))
    (keeps : ∀ i, (program i).wp contract.rules ends [])
    (reached : system.Reaches (Pool.start state program) pool) :
    Meets contract invariant ends pool := by
  induction reached with
  | refl => exact ⟨holds, keeps⟩
  | tail _ step induction => exact step.meets preserves induction

theorem Reaches.sound {state : σ} {program : ι → Program Op Ans Err α}
    {pool : Pool ι σ Op Ans Err α}
    (preserves : system.Preserves contract invariant)
    (holds : invariant state (fun _ => []))
    (keeps : ∀ i, contract.Kept (program i) [])
    (reached : system.Reaches (Pool.start state program) pool) :
    Sound contract invariant pool :=
  Reaches.meets preserves holds keeps reached

end System
