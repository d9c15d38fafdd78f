import Mathlib.Logic.Basic

/-!
# Programs that call an environment

A program is the tree of the calls it makes.  Every call is answered by a
value or by an exception, and the program goes on from that answer.  Nothing
is said here about who answers: `Program.wp` computes, for any description
`rules` of a single call, the condition under which every way the calls can
be answered ends in a given postcondition.

The rules for sequencing and for `finally` hold for every description of a
call.  They are equivalences, so a program is analysed by rewriting.
-/

inductive Program (Op : Type) (Ans : Op → Type) (Err α : Type) where
  | done (result : Except Err α)
  | call (op : Op) (next : Except Err (Ans op) → Program Op Ans Err α)

/-- What a single call may do: the states and answers it can lead to all
satisfy the given postcondition. -/
abbrev CallRules (Op : Type) (Ans : Op → Type) (Err σ : Type) :=
  σ → (op : Op) → (Except Err (Ans op) → σ → Prop) → Prop

namespace Program

variable {Op : Type} {Ans : Op → Type} {Err α β σ : Type}

def bind : Program Op Ans Err α → (α → Program Op Ans Err β) →
    Program Op Ans Err β
  | .done (.ok value), rest => rest value
  | .done (.error error), _ => .done (.error error)
  | .call op next, rest => .call op (fun answer => (next answer).bind rest)

instance : Monad (Program Op Ans Err) where
  pure value := .done (.ok value)
  bind := Program.bind

def perform (op : Op) : Program Op Ans Err (Ans op) :=
  .call op .done

/-- `cleanup` runs whichever way `body` ends.  An exception of `cleanup`
replaces the result of `body`. -/
def tryFinally : Program Op Ans Err α → Program Op Ans Err Unit →
    Program Op Ans Err α
  | .done result, cleanup => cleanup.bind (fun _ => .done result)
  | .call op next, cleanup =>
      .call op (fun answer => (next answer).tryFinally cleanup)

/-- Every way the calls of the program can be answered ends in `post`. -/
def wp (rules : CallRules Op Ans Err σ) :
    Program Op Ans Err α → (Except Err α → σ → Prop) → σ → Prop
  | .done result, post, state => post result state
  | .call op next, post, state =>
      rules state op (fun answer after => (next answer).wp rules post after)

/-- How a postcondition passes through the rest of a sequence. -/
def andThen (rules : CallRules Op Ans Err σ)
    (rest : α → Program Op Ans Err β) (post : Except Err β → σ → Prop) :
    Except Err α → σ → Prop
  | .ok value, state => (rest value).wp rules post state
  | .error error, state => post (.error error) state

section Rules

variable (rules : CallRules Op Ans Err σ)

@[simp] theorem wp_done (result : Except Err α)
    (post : Except Err α → σ → Prop) (state : σ) :
    (done result : Program Op Ans Err α).wp rules post state =
      post result state := rfl

@[simp] theorem wp_call (op : Op)
    (next : Except Err (Ans op) → Program Op Ans Err α)
    (post : Except Err α → σ → Prop) (state : σ) :
    (call op next).wp rules post state =
      rules state op
        (fun answer after => (next answer).wp rules post after) := rfl

@[simp] theorem wp_pure (value : α) (post : Except Err α → σ → Prop)
    (state : σ) :
    (pure value : Program Op Ans Err α).wp rules post state =
      post (.ok value) state := rfl

@[simp] theorem wp_perform (op : Op)
    (post : Except Err (Ans op) → σ → Prop) (state : σ) :
    (perform op : Program Op Ans Err (Ans op)).wp rules post state =
      rules state op post := rfl

@[simp] theorem andThen_ok (rest : α → Program Op Ans Err β)
    (post : Except Err β → σ → Prop) (value : α) (state : σ) :
    andThen rules rest post (.ok value) state =
      (rest value).wp rules post state := rfl

@[simp] theorem andThen_error (rest : α → Program Op Ans Err β)
    (post : Except Err β → σ → Prop) (error : Err) (state : σ) :
    andThen rules rest post (.error error) state =
      post (.error error) state := rfl

@[simp] theorem wp_bind (program : Program Op Ans Err α)
    (rest : α → Program Op Ans Err β) (post : Except Err β → σ → Prop)
    (state : σ) :
    (program >>= rest).wp rules post state =
      program.wp rules (andThen rules rest post) state := by
  change (program.bind rest).wp rules post state = _
  induction program generalizing state with
  | done result => cases result <;> rfl
  | call op next induction =>
      simp only [Program.bind, wp_call]
      congr 1
      funext answer after
      exact induction answer after

@[simp] theorem wp_tryFinally (body : Program Op Ans Err α)
    (cleanup : Program Op Ans Err Unit) (post : Except Err α → σ → Prop)
    (state : σ) :
    (body.tryFinally cleanup).wp rules post state =
      body.wp rules (fun result after =>
        cleanup.wp rules
          (andThen rules (fun _ => .done result) post) after) state := by
  induction body generalizing state with
  | done result => exact wp_bind rules cleanup (fun _ => .done result) post state
  | call op next induction =>
      simp only [tryFinally, wp_call]
      congr 1
      funext answer after
      exact induction answer after

end Rules

/-- A weaker postcondition is easier to reach, if that is so for a call. -/
theorem wp_mono {rules : CallRules Op Ans Err σ}
    (monotone : ∀ state op {post weaker : Except Err (Ans op) → σ → Prop},
      (∀ answer after, post answer after → weaker answer after) →
      rules state op post → rules state op weaker)
    {program : Program Op Ans Err α} {post weaker : Except Err α → σ → Prop}
    (implies : ∀ result after, post result after → weaker result after)
    {state : σ} (holds : program.wp rules post state) :
    program.wp rules weaker state := by
  induction program generalizing state with
  | done result => exact implies result state holds
  | call op next induction =>
      exact monotone state op
        (fun answer _ reached => induction answer reached) holds

end Program
