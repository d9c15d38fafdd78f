import SpringTemplate.Library.Interleaving
import Mathlib.Data.Set.Insert

/-!
# Programs that may stop for ever

The programs of a pool belong to hosts.  A host may crash at any moment: none
of its programs makes a call after that, not even one it would make on the
way out.  What holds in every pool a system reaches therefore holds in every
pool it reaches with crashes.
-/

variable {ι γ σ Op : Type} {Ans : Op → Type} {Err α : Type}
  {Outcome : Op → Type}

structure CrashPool (γ ι σ Op : Type) (Ans : Op → Type) (Err α : Type) where
  pool : Pool ι σ Op Ans Err α
  crashed : Set γ

namespace System

variable [DecidableEq ι] (system : System ι σ Op Ans Err Outcome)
  (host : ι → γ)

/-- One call of a program whose host is alive, or a crash. -/
inductive CrashStep :
    CrashPool γ ι σ Op Ans Err α → CrashPool γ ι σ Op Ans Err α → Prop where
  | call {pool : Pool ι σ Op Ans Err α} {crashed : Set γ} (i : ι) {op : Op}
      {next : Except Err (Ans op) → Program Op Ans Err α}
      (outcome : Outcome op) :
      host i ∉ crashed →
      pool.rest i = .call op next →
      system.ready i pool.state op →
      system.allowed op outcome →
      CrashStep ⟨pool, crashed⟩
        ⟨pool.record (system.environment i) i op next outcome, crashed⟩
  | crash {pool : Pool ι σ Op Ans Err α} {crashed : Set γ} (failed : γ) :
      CrashStep ⟨pool, crashed⟩ ⟨pool, insert failed crashed⟩

abbrev CrashReaches (first last : CrashPool γ ι σ Op Ans Err α) : Prop :=
  Relation.ReflTransGen (system.CrashStep host) first last

variable {system host} {first last : CrashPool γ ι σ Op Ans Err α}

theorem CrashReaches.reaches (reached : system.CrashReaches host first last) :
    system.Reaches first.pool last.pool := by
  induction reached with
  | refl => exact .refl
  | tail _ step induction =>
      cases step with
      | call i outcome _ waiting ready permitted =>
          exact induction.tail (.call i outcome waiting ready permitted)
      | crash failed => exact induction

/-- A run has only some of the allowed outcomes, or it has passed through a
call with another one. -/
theorem CrashReaches.allows_or (reached : system.CrashReaches host first last)
    (allowed : (op : Op) → Outcome op → Prop) :
    ({ system with allowed := allowed } :
        System ι σ Op Ans Err Outcome).CrashReaches host first last ∨
      ∃ (pool : Pool ι σ Op Ans Err α) (crashed : Set γ) (i : ι) (op : Op)
        (next : Except Err (Ans op) → Program Op Ans Err α)
        (outcome : Outcome op),
        system.CrashReaches host first ⟨pool, crashed⟩ ∧
          host i ∉ crashed ∧ pool.rest i = .call op next ∧
          ¬ allowed op outcome ∧
          system.CrashReaches host
            ⟨pool.record (system.environment i) i op next outcome, crashed⟩
            last := by
  induction reached with
  | refl => exact .inl .refl
  | tail earlier step induction =>
      rcases induction with narrow | ⟨pool, crashed, i, op, next, outcome,
        before, alive, waiting, other, after⟩
      · cases step with
        | @call pool crashed i op next outcome alive waiting ready permitted =>
            by_cases same : allowed op outcome
            · exact .inl (narrow.tail (.call i outcome alive waiting ready
                same))
            · exact .inr ⟨pool, crashed, i, op, next, outcome, earlier, alive,
                waiting, same, .refl⟩
        | crash failed => exact .inl (narrow.tail (.crash failed))
      · exact .inr ⟨pool, crashed, i, op, next, outcome, before, alive,
          waiting, other, after.tail step⟩

theorem CrashReaches.next {pool : Pool ι σ Op Ans Err α} {crashed : Set γ}
    {op : Op} {next : Except Err (Ans op) → Program Op Ans Err α} (i : ι)
    (outcome : Outcome op) (alive : host i ∉ crashed)
    (waiting : pool.rest i = .call op next)
    (ready : system.ready i pool.state op)
    (permitted : system.allowed op outcome)
    (rest : system.CrashReaches host
      ⟨pool.record (system.environment i) i op next outcome, crashed⟩ last) :
    system.CrashReaches host ⟨pool, crashed⟩ last :=
  .head (.call i outcome alive waiting ready permitted) rest

end System
