import SpringTemplate.Library.CallBounds

/-!
# Programs that read at one moment

A program runs beside others that move the state between its calls.  If it
makes one call at most, and that call only reads, then its result is the one
it would have alone, with nobody moving, at some moment of the run.
-/

variable {Op : Type} {Ans : Op → Type} {Err σ τ α : Type}
  {Outcome : Op → Type}

namespace Environment

/-- An environment that answers from a part of a larger state. -/
def within (view : τ → σ) (store : τ → σ → τ)
    (env : Environment Op Ans Err σ Outcome) :
    Environment Op Ans Err τ Outcome :=
  fun state op outcome =>
    (store state (env (view state) op outcome).1,
      (env (view state) op outcome).2)

/-- The program runs to this result, and the state moves meanwhile. -/
inductive Beside (moves : τ → τ → Prop)
    (env : Environment Op Ans Err τ Outcome)
    (allowed : (op : Op) → Outcome op → Prop) :
    τ → Program Op Ans Err α → τ → Except Err α → Prop where
  | done (state : τ) (result : Except Err α) :
      Beside moves env allowed state (.done result) state result
  | move {state moved last : τ} {program : Program Op Ans Err α}
      {result : Except Err α} :
      moves state moved →
      Beside moves env allowed moved program last result →
      Beside moves env allowed state program last result
  | call {state last : τ} {op : Op}
      {next : Except Err (Ans op) → Program Op Ans Err α}
      {result : Except Err α} (outcome : Outcome op) :
      allowed op outcome →
      Beside moves env allowed (env state op outcome).1
        (next (env state op outcome).2) last result →
      Beside moves env allowed state (.call op next) last result

namespace Beside

variable {moves : τ → τ → Prop} {allowed : (op : Op) → Outcome op → Prop}
  {first last : τ} {result : Except Err α}

/-- A program that has ended only waits. -/
theorem of_done {env : Environment Op Ans Err τ Outcome}
    {ended : Except Err α}
    (beside : env.Beside moves allowed first (.done ended) last result) :
    result = ended ∧ Relation.ReflTransGen moves first last := by
  generalize program : Program.done ended = rest at beside
  induction beside with
  | done state result =>
      cases program
      exact ⟨rfl, .refl⟩
  | move step _ induction =>
      obtain ⟨same, later⟩ := induction program
      exact ⟨same, .head step later⟩
  | call outcome permitted _ _ => cases program

/-- The result is the one of a run at a single moment, which leaves the state
as it is. -/
theorem at_one_moment {env : Environment Op Ans Err σ Outcome}
    {view : τ → σ} {store : τ → σ → τ} {reads : Op → Prop}
    {program : Program Op Ans Err α}
    (unstored : ∀ state, store state (view state) = state)
    (unchanged : ∀ state op outcome, reads op →
      (env state op outcome).1 = state)
    (once : program.CallsAtMost reads 1)
    (beside : (env.within view store).Beside moves allowed first program last
      result) :
    ∃ moment later, Relation.ReflTransGen moves first moment ∧
      Relation.ReflTransGen moves moment last ∧
      env.Ends allowed (start (view moment)) program result later ∧
      later.state = view moment := by
  induction beside with
  | done state result =>
      exact ⟨state, start (view state), .refl, .refl,
        .refl _ (.done result), rfl⟩
  | move step _ induction =>
      obtain ⟨moment, later, before, after, ends⟩ := induction once
      exact ⟨moment, later, .head step before, after, ends⟩
  | @call state last op next result outcome permitted rest _ =>
      obtain ⟨isRead, ended⟩ := once
      have same := unchanged (view state) op outcome isRead
      obtain ⟨answer, answered⟩ :=
        (ended (env (view state) op outcome).2).of_zero
      have stays : ((env.within view store) state op outcome).1 = state := by
        rw [within, same, unstored]
      have replies : next ((env.within view store) state op outcome).2 =
          .done answer := answered
      rw [stays, replies] at rest
      obtain ⟨rfl, after⟩ := rest.of_done
      refine ⟨state, env.record (start (view state)) op outcome, .refl, after,
        .step outcome permitted ?_, same⟩
      rw [start_state, answered]
      exact .refl _ _

end Beside

end Environment
