import Mathlib.Data.Set.Function
import SpringTemplate.Library.Serial

/-!
# Programs without conflicts

A state is seen through its keys.  A call uses some of them and may write
some of these: it leaves all keys it does not write as they are, and neither
its answer nor what it writes depends on keys that it does not use.  A
program within a footprint runs in the same way from all states that agree
there.  So programs do not notice each other, however their calls interleave,
as long as none writes a key that another one uses: each of them has come as
far as it comes alone.
-/

variable {ι σ Op : Type} {Ans : Op → Type} {Err α : Type}
  {Outcome : Op → Type} {Key Value : Type} {view : σ → Key → Value}

/-- The keys that something uses, and those of them that it may write. -/
structure Footprint (Key : Type) where
  used : Set Key
  written : Set Key

namespace Footprint

/-- All keys of the first are keys of the second. -/
structure Within (inner outer : Footprint Key) : Prop where
  used : inner.used ⊆ outer.used
  written : inner.written ⊆ outer.written

theorem Within.refl (footprint : Footprint Key) :
    footprint.Within footprint :=
  ⟨Set.Subset.rfl, Set.Subset.rfl⟩

end Footprint

namespace Environment

/-- Which keys the calls use and may write. -/
structure Touches (env : Environment Op Ans Err σ Outcome)
    (view : σ → Key → Value) (touched : Op → Footprint Key) : Prop where
  written_used : ∀ op, (touched op).written ⊆ (touched op).used
  frame : ∀ {state : σ} {op : Op} (outcome : Outcome op) {key : Key},
    key ∉ (touched op).written →
      view (env state op outcome).1 key = view state key
  answer : ∀ {state other : σ} {op : Op} (outcome : Outcome op),
    Set.EqOn (view state) (view other) (touched op).used →
      (env state op outcome).2 = (env other op outcome).2
  effect : ∀ {state other : σ} {op : Op} (outcome : Outcome op),
    Set.EqOn (view state) (view other) (touched op).used →
      Set.EqOn (view (env state op outcome).1)
        (view (env other op outcome).1) (touched op).used

variable {env : Environment Op Ans Err σ Outcome}
  {touched : Op → Footprint Key} {footprint : Footprint Key}

/-- States that agree on a footprint still do so after a call within it. -/
theorem Touches.eqOn (touches : env.Touches view touched) {state other : σ}
    {op : Op} (outcome : Outcome op) (within : (touched op).Within footprint)
    (same : Set.EqOn (view state) (view other) footprint.used) :
    Set.EqOn (view (env state op outcome).1) (view (env other op outcome).1)
      footprint.used := by
  intro key member
  by_cases used : key ∈ (touched op).used
  · exact touches.effect outcome (same.mono within.used) used
  · have unwritten : key ∉ (touched op).written :=
      fun written => used (touches.written_used op written)
    rw [touches.frame outcome unwritten, touches.frame outcome unwritten]
    exact same member

end Environment

/-- The calls are within a footprint, as long as the answers are as relied
on. -/
def Contract.within (relies : (op : Op) → Except Err (Ans op) → Prop)
    (touched : Op → Footprint Key) (footprint : Footprint Key) :
    Contract Op Ans Err :=
  { relies := relies
    guarantees := fun _ op => (touched op).Within footprint }

namespace Environment

variable {env : Environment Op Ans Err σ Outcome}
  {touched : Op → Footprint Key} {footprint : Footprint Key}
  {allowed : (op : Op) → Outcome op → Prop}
  {relies : (op : Op) → Except Err (Ans op) → Prop}

/-- A run within a footprint is also one from any state that agrees there, and
leaves the keys that it does not write as they are. -/
theorem Touches.runs (touches : env.Touches view touched)
    (relied : ∀ state op outcome, relies op (env state op outcome).2)
    {trace later other : Trace σ Outcome} {program rest : Program Op Ans Err α}
    {history : History Op Ans Err}
    (inside : (Contract.within relies touched footprint).Kept program history)
    (same : Set.EqOn (view trace.state) (view other.state) footprint.used)
    (runs : env.Runs allowed trace program later rest) :
    (∃ last, env.Runs allowed other program last rest ∧
      Set.EqOn (view later.state) (view last.state) footprint.used) ∧
      ∀ key ∉ footprint.written,
        view later.state key = view trace.state key := by
  induction runs generalizing other history with
  | refl trace program => exact ⟨⟨other, .refl _ _, same⟩, fun _ _ => rfl⟩
  | @step trace later op next rest outcome permitted _ induction =>
      obtain ⟨within, continues⟩ := inside
      have equal := touches.answer outcome (same.mono within.used)
      have after : Set.EqOn (view (env.record trace op outcome).state)
          (view (env.record other op outcome).state) footprint.used :=
        touches.eqOn outcome within same
      obtain ⟨⟨last, follows, agrees⟩, kept⟩ :=
        induction (continues _ (relied trace.state op outcome)) after
      refine ⟨⟨last, .step outcome permitted ?_, agrees⟩, ?_⟩
      · rwa [← equal]
      · intro key outside
        rw [kept key outside, record_state]
        exact touches.frame outcome
          (fun written => outside (within.written written))

end Environment

/-! ## Many programs -/

/-- None of the programs of a system writes what another one uses. -/
structure System.Separation (system : System ι σ Op Ans Err Outcome)
    (view : σ → Key → Value) where
  touched : ι → Op → Footprint Key
  footprint : ι → Footprint Key
  relies : (op : Op) → Except Err (Ans op) → Prop
  touches : ∀ i, (system.environment i).Touches view (touched i)
  relied : ∀ i state op outcome,
    relies op (system.environment i state op outcome).2
  apart : ∀ i j, i ≠ j →
    ∀ key ∈ (footprint i).used, key ∉ (footprint j).written

namespace System

variable {system : System ι σ Op Ans Err Outcome}

/-- The program stays within its footprint. -/
def Separation.Keeps (separation : system.Separation view) (i : ι)
    (program : Program Op Ans Err α) : Prop :=
  ∃ history, (Contract.within separation.relies (separation.touched i)
    (separation.footprint i)).Kept program history

/-- No program has noticed another: each has come to where it comes alone, as
far as its footprint shows, and what nobody writes is as it was. -/
structure Separation.Alone (separation : system.Separation view) (first : σ)
    (program : ι → Program Op Ans Err α) (pool : Pool ι σ Op Ans Err α) :
    Prop where
  keeps : ∀ i, separation.Keeps i (pool.rest i)
  alone : ∀ i, ∃ trace, (system.environment i).Runs system.allowed
      (Environment.start first) (program i) trace (pool.rest i) ∧
    Set.EqOn (view pool.state) (view trace.state)
      (separation.footprint i).used
  unwritten : ∀ key, (∀ i, key ∉ (separation.footprint i).written) →
    view pool.state key = view first key

variable [DecidableEq ι] {separation : system.Separation view} {first : σ}
  {program : ι → Program Op Ans Err α}

theorem Step.alone {pool later : Pool ι σ Op Ans Err α}
    (alone : separation.Alone first program pool)
    (step : system.Step pool later) :
    separation.Alone first program later := by
  cases step with
  | @call j op next outcome waiting ready permitted =>
      obtain ⟨history, kept⟩ := alone.keeps j
      rw [waiting] at kept
      obtain ⟨within, continues⟩ := kept
      have frame {key : Key}
          (outside : key ∉ (separation.footprint j).written) :
          view (system.environment j pool.state op outcome).1 key =
            view pool.state key :=
        (separation.touches j).frame outcome
          (fun written => outside (within.written written))
      refine ⟨?_, ?_, ?_⟩
      · intro i
        by_cases own : i = j
        · subst own
          rw [Pool.record_rest_same]
          exact ⟨_, continues _ (separation.relied i pool.state op outcome)⟩
        · rw [Pool.record_rest_other _ _ _ _ _ own]
          exact alone.keeps i
      · intro i
        obtain ⟨trace, runs, same⟩ := alone.alone i
        by_cases own : i = j
        · subst own
          rw [waiting] at runs
          refine ⟨(system.environment i).record trace op outcome, ?_,
            (separation.touches i).eqOn outcome within same⟩
          rw [Pool.record_rest_same, (separation.touches i).answer outcome
            (same.mono within.used)]
          exact runs.snoc permitted
        · rw [Pool.record_rest_other _ _ _ _ _ own]
          refine ⟨trace, runs, ?_⟩
          intro key member
          exact (frame (separation.apart i j own key member)).trans
            (same member)
      · intro key nobody
        exact (frame (nobody j)).trans (alone.unwritten key nobody)

theorem Reaches.alone {pool : Pool ι σ Op Ans Err α}
    (keeps : ∀ i, separation.Keeps i (program i))
    (reached : system.Reaches (Pool.start first program) pool) :
    separation.Alone first program pool := by
  induction reached with
  | refl =>
      exact
        { keeps := keeps
          alone := fun i => ⟨_, .refl _ _, Set.eqOn_refl _ _⟩
          unwritten := fun _ _ => rfl }
  | tail _ step induction => exact step.alone induction

end System

/-! ## Programs that write at their end -/

namespace Program

/-- A call after which the program may go on only reads. -/
def WritesLast (reads : Op → Prop) : Program Op Ans Err α → Prop
  | .done _ => True
  | .call op next =>
      (reads op ∨ ∀ answer, ∃ result, next answer = .done result) ∧
        ∀ answer, (next answer).WritesLast reads

end Program

namespace Environment

variable {env : Environment Op Ans Err σ Outcome}
  {allowed : (op : Op) → Outcome op → Prop}

/-- As long as it has not ended, such a program has changed nothing. -/
theorem Runs.unwritten {reads : Op → Prop}
    (unchanged : ∀ state op outcome, reads op →
      view (env state op outcome).1 = view state)
    {trace later : Trace σ Outcome} {program rest : Program Op Ans Err α}
    (writes : program.WritesLast reads)
    (runs : env.Runs allowed trace program later rest)
    (waiting : ∀ result, rest ≠ .done result) :
    view later.state = view trace.state := by
  induction runs with
  | refl trace program => rfl
  | @step trace later op next rest outcome permitted follows induction =>
      rcases writes.1 with read | ends
      · rw [induction (writes.2 _) waiting, record_state]
        exact unchanged trace.state op outcome read
      · obtain ⟨result, ended⟩ := ends (env trace.state op outcome).2
        rw [ended] at follows
        cases follows
        exact absurd rfl (waiting result)

end Environment
