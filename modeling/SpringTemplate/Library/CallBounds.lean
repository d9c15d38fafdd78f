import SpringTemplate.Library.Interleaving

/-!
# Which calls a program makes

`Calls` bounds the calls of a program, however they are answered, together
with the values it returns.  The bound of a sequence comes from the bounds of
its parts: the second part may rely on the values of the first.  `CallsAtMost`
also bounds their number.
-/

namespace Program

variable {Op : Type} {Ans : Op → Type} {Err α β : Type}

/-- Any allowed call, answered in any way. -/
def only (allowed : Op → Prop) : CallRules Op Ans Err Unit :=
  fun _ op post => allowed op ∧ ∀ answer, post answer ()

/-- The program makes allowed calls only, and a value it returns is as given. -/
def Calls (allowed : Op → Prop) (returns : α → Prop)
    (program : Program Op Ans Err α) : Prop :=
  program.wp (only allowed)
    (fun result _ => ∀ value, result = .ok value → returns value) ()

variable {allowed : Op → Prop} {returns : α → Prop} {final : β → Prop}

theorem only_mono (state : Unit) (op : Op)
    {post weaker : Except Err (Ans op) → Unit → Prop}
    (implies : ∀ answer after, post answer after → weaker answer after)
    (holds : only allowed state op post) : only allowed state op weaker :=
  ⟨holds.1, fun answer => implies answer () (holds.2 answer)⟩

theorem Calls.ok {value : α} (returned : returns value) :
    (pure value : Program Op Ans Err α).Calls allowed returns := by
  intro other same
  cases same
  exact returned

theorem Calls.result {result : Except Err α}
    (returned : ∀ value, result = .ok value → returns value) :
    (done result : Program Op Ans Err α).Calls allowed returns :=
  returned

theorem Calls.perform {op : Op} (permitted : allowed op) :
    (perform op : Program Op Ans Err (Ans op)).Calls allowed
      (fun _ => True) :=
  ⟨permitted, fun _ _ _ => trivial⟩

theorem Calls.bind {program : Program Op Ans Err α}
    {rest : α → Program Op Ans Err β} (first : program.Calls allowed returns)
    (later : ∀ value, returns value → (rest value).Calls allowed final) :
    (program >>= rest).Calls allowed final := by
  rw [Calls, wp_bind]
  apply wp_mono only_mono _ first
  intro result after returned
  cases result with
  | error error =>
      intro value same
      cases same
  | ok value => exact later value (returned value rfl)

theorem Calls.tryFinally {body : Program Op Ans Err α}
    {cleanup : Program Op Ans Err Unit} (bodyCalls : body.Calls allowed returns)
    (cleanupCalls : cleanup.Calls allowed (fun _ => True)) :
    (body.tryFinally cleanup).Calls allowed returns := by
  rw [Calls, wp_tryFinally]
  apply wp_mono only_mono _ bodyCalls
  intro result after returned
  apply wp_mono only_mono _ cleanupCalls
  intro cleaned last _
  cases cleaned with
  | error error =>
      intro value same
      cases same
  | ok _ => exact returned

/-- A contract that allows the calls of a program at any time is kept by it,
and what has been called before stays known. -/
theorem Calls.kept {program : Program Op Ans Err α}
    {contract : Contract Op Ans Err} (calls : program.Calls allowed returns)
    (guaranteed : ∀ history op, allowed op → contract.guarantees history op)
    (history : History Op Ans Err) :
    program.wp contract.rules
      (fun result after => history <+: after ∧
        ∀ value, result = .ok value → returns value) history := by
  induction program generalizing history with
  | done result => exact ⟨List.prefix_rfl, calls⟩
  | call op next induction =>
      refine ⟨guaranteed history op calls.1, ?_⟩
      intro answer _
      refine Contract.wp_mono (induction answer (calls.2 answer) _) ?_
      rintro result after ⟨later, returned⟩
      exact ⟨(List.prefix_append _ _).trans later, returned⟩

/-! ## How many calls -/

/-- The program makes at most `n` calls, however they are answered, and
allowed calls only. -/
def CallsAtMost (allowed : Op → Prop) :
    Nat → Program Op Ans Err α → Prop
  | _, .done _ => True
  | 0, .call _ _ => False
  | n + 1, .call op next =>
      allowed op ∧ ∀ answer, (next answer).CallsAtMost allowed n

namespace CallsAtMost

variable {allowed : Op → Prop} {n m : Nat} {program : Program Op Ans Err α}

theorem done (result : Except Err α) (n : Nat) :
    (Program.done result : Program Op Ans Err α).CallsAtMost allowed n := by
  cases n <;> exact trivial

theorem mono (few : program.CallsAtMost allowed n) (most : n ≤ m) :
    program.CallsAtMost allowed m := by
  induction program generalizing n m with
  | done result => exact done result m
  | call op next induction =>
      cases n with
      | zero => exact few.elim
      | succ n =>
          cases m with
          | zero => exact absurd most (Nat.not_succ_le_zero n)
          | succ m =>
              exact ⟨few.1, fun answer => induction answer (few.2 answer)
                (Nat.le_of_succ_le_succ most)⟩

theorem perform {op : Op} (permitted : allowed op) :
    (Program.perform op : Program Op Ans Err (Ans op)).CallsAtMost allowed
      1 :=
  ⟨permitted, fun answer => done answer 0⟩

theorem bind {rest : α → Program Op Ans Err β}
    (first : program.CallsAtMost allowed n)
    (later : ∀ value, (rest value).CallsAtMost allowed m) :
    (program >>= rest).CallsAtMost allowed (m + n) := by
  change (program.bind rest).CallsAtMost allowed (m + n)
  induction program generalizing n with
  | done result =>
      cases result with
      | error error => exact done (.error error) (m + n)
      | ok value => exact (later value).mono (Nat.le_add_right m n)
  | call op next induction =>
      cases n with
      | zero => exact first.elim
      | succ n =>
          exact ⟨first.1, fun answer => induction answer (first.2 answer)⟩

theorem tryFinally {cleanup : Program Op Ans Err Unit}
    (body : program.CallsAtMost allowed n)
    (last : cleanup.CallsAtMost allowed m) :
    (program.tryFinally cleanup).CallsAtMost allowed (m + n) := by
  induction program generalizing n with
  | done result =>
      have ends : (cleanup >>= fun _ => .done result).CallsAtMost allowed
          (0 + m) :=
        last.bind (fun _ => done result 0)
      exact ends.mono (by omega)
  | call op next induction =>
      cases n with
      | zero => exact body.elim
      | succ n =>
          exact ⟨body.1, fun answer => induction answer (body.2 answer)⟩

theorem weaken {more : Op → Prop} (weaker : ∀ op, allowed op → more op)
    (few : program.CallsAtMost allowed n) : program.CallsAtMost more n := by
  induction program generalizing n with
  | done result => exact done result n
  | call op next induction =>
      cases n with
      | zero => exact few.elim
      | succ n =>
          exact ⟨weaker op few.1,
            fun answer => induction answer (few.2 answer)⟩

theorem of_zero (none : program.CallsAtMost allowed 0) :
    ∃ result, program = .done result := by
  cases program with
  | done result => exact ⟨result, rfl⟩
  | call op next => exact none.elim

end CallsAtMost

end Program

/-- In a pool, too, a program makes no more calls than alone. -/
theorem System.Reaches.calls_bounded {ι σ Op : Type} {Ans : Op → Type}
    {Err α : Type} {Outcome : Op → Type} [DecidableEq ι]
    {system : System ι σ Op Ans Err Outcome} {allowed : Op → Prop} {n : Nat}
    {state : σ} {program : ι → Program Op Ans Err α}
    {pool : Pool ι σ Op Ans Err α}
    (bounded : ∀ i, (program i).CallsAtMost allowed n)
    (reached : system.Reaches (Pool.start state program) pool) (i : ι) :
    ∃ left, (pool.rest i).CallsAtMost allowed left ∧
      (pool.history i).length + left = n := by
  induction reached generalizing i with
  | refl => exact ⟨n, bounded i, Nat.zero_add n⟩
  | @tail pool _ _ step induction =>
      cases step with
      | @call j op next outcome waiting _ _ =>
          by_cases same : i = j
          · subst same
            obtain ⟨left, few, total⟩ := induction i
            rw [waiting] at few
            cases left with
            | zero => exact few.elim
            | succ left =>
                refine ⟨left, ?_, ?_⟩
                · rw [Pool.record_rest_same]
                  exact few.2 _
                · rw [Pool.record_history_same, List.length_append,
                    List.length_singleton]
                  omega
          · rw [Pool.record_rest_other _ _ _ _ _ same,
              Pool.record_history_other _ _ _ _ _ same]
            exact induction i
