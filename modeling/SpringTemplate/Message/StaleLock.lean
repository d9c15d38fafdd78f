import SpringTemplate.Message.Abandoned

/-!
# What a lock left behind does

Nobody deletes a lock that is not its own: a lock that is present when no
reload is running stays for good.  Every later reload, on whatever instance,
finds it, writes nothing and answers that it has not reloaded.
-/

namespace SpringTemplate.Message

variable {Node ι Instance : Type} {dataMapper : DataMapper Node}

/-- A reload that finds the lock present makes no call but to look at it. -/
def refusedContract : Contract Call Answer MessageException :=
  { relies := fun call answer =>
      match call, answer with
      | .enter, answer => answer = .ok ()
      | .exit, answer => answer = .ok ()
      | .get key, answer => key = Keys.lock →
          answer = .error .redis ∨ ∃ bytes, answer = .ok (some bytes)
      | _, _ => True
    guarantees := fun _ call =>
      call = .enter ∨ call = .exit ∨ call = .get Keys.lock }

/-- How a refused reload ends. -/
def Refused (result : Except MessageException Bool) : Prop :=
  result = .ok false ∨ result = .error .redis

theorem lock_refused (history : ReloadHistory) :
    (lock true).wp refusedContract.rules (fun result _ => Refused result)
      history := by
  simp only [lock, synchronized, lockBody, if_true, Program.wp_bind,
    Program.wp_perform]
  refine ⟨.inl rfl, ?_⟩
  rintro answer rfl
  simp only [Program.andThen_ok, Program.wp_tryFinally, Program.wp_bind,
    Program.wp_perform]
  refine ⟨.inr (.inr rfl), ?_⟩
  intro answer found
  have leaves : ∀ result, Refused result → ∀ before : ReloadHistory,
      (send .exit).wp refusedContract.rules
        (Program.andThen refusedContract.rules
          (fun _ => Program.done result) (fun result _ => Refused result))
        before := by
    intro result refused before
    refine ⟨.inr (.inl rfl), ?_⟩
    rintro left rfl
    exact refused
  rcases found rfl with rfl | ⟨bytes, rfl⟩
  · exact leaves _ (.inr rfl) _
  · exact leaves _ (.inl rfl) _

theorem reloadBean_refused (dataMapper : DataMapper Node) :
    (deployed dataMapper).reloadBean.wp refusedContract.rules
      (fun result _ => Refused result) [] := by
  simp only [MessageServiceImpl.reloadBean, Program.wp_bind]
  refine Contract.wp_mono (lock_refused []) ?_
  rintro result after (rfl | rfl)
  · exact .inl rfl
  · exact .inr rfl

namespace Deployment

variable [DecidableEq Instance] {deployment : Deployment ι Instance}
  {redis : Redis}

/-- Redis is as it was. -/
def Untouched (redis : Redis) (state : Shared ι Instance)
    (_ : ι → ReloadHistory) : Prop :=
  state.redis = redis

theorem faulty_untouched [DecidableEq ι] (present : redis Keys.lock ≠ none) :
    deployment.faulty.Preserves refusedContract
      (Untouched redis : Shared ι Instance → (ι → ReloadHistory) → Prop) where
  relied := by
    intro state histories i call outcome untouched _ _
    cases call with
    | enter => rfl
    | exit => rfl
    | get key =>
        rintro rfl
        cases outcome with
        | refused => exact .inl rfl
        | lost => exact .inl rfl
        | answered =>
            obtain ⟨bytes, stored⟩ := Option.ne_none_iff_exists'.mp present
            refine .inr ⟨bytes, ?_⟩
            rw [← untouched] at stored
            exact congrArg Except.ok stored
    | _ => trivial
  kept := by
    intro state histories i call outcome untouched _ _ guaranteed
    rcases guaranteed with rfl | rfl | rfl
    · exact untouched
    · exact untouched
    · cases outcome <;> exact untouched

end Deployment

/-- Once a lock has been left behind, no reload of any instance does anything
again, whatever their order and their faults: Redis stays as it is, and every
reload that ends has answered that it has not reloaded, or that Redis did not
answer it. -/
theorem stale_lock_refuses [DecidableEq ι] [DecidableEq Instance]
    {deployment : Deployment ι Instance} {redis : Redis}
    {last : CrashPool Instance ι (Shared ι Instance) Call Answer
      MessageException Bool}
    (present : redis Keys.lock ≠ none)
    (reached : deployment.faulty.CrashReaches deployment.instanceOf
      ⟨Deployment.start dataMapper redis, ∅⟩ last) :
    last.pool.state.redis = redis ∧
      ∀ i result, last.pool.rest i = .done result → Refused result := by
  have begins : Deployment.Untouched redis
      (Deployment.start dataMapper redis : ReloadPool ι Instance).state
      (fun _ : ι => []) := rfl
  obtain ⟨untouched, ends⟩ := System.Reaches.meets
    (Deployment.faulty_untouched present) begins
    (fun _ => reloadBean_refused dataMapper) reached.reaches
  refine ⟨untouched, ?_⟩
  intro i result ended
  have refused := ends i
  rwa [ended] at refused

/-- The lock of a crashed instance refuses the reload of another one. -/
theorem stale_lock_refuses_instance :
    ∃ last, twoInstances.faulty.CrashReaches twoInstances.instanceOf
        ⟨Deployment.start textMapper
          (noKeys.set Keys.lock "1".toUTF8), ∅⟩ last ∧
      last.pool.rest true = .done (.ok false) ∧
      last.pool.state.redis = noKeys.set Keys.lock "1".toUTF8 ∧
      ∀ i result, last.pool.rest i = .done result → Refused result := by
  have present : noKeys.set Keys.lock "1".toUTF8 Keys.lock ≠ none := by
    rw [Redis.set_same]
    simp
  have reached : ∃ last, twoInstances.faulty.CrashReaches
      twoInstances.instanceOf ⟨Deployment.start textMapper
        (noKeys.set Keys.lock "1".toUTF8), ∅⟩ last ∧
      last.pool.rest true = .done (.ok false) := by
    refine ⟨_,
      .next true (answered _) (by simp) rfl rfl trivial <|
      .next true (answered _) (by simp) rfl trivial trivial <|
      .next true (answered _) (by simp) rfl trivial trivial .refl, ?_⟩
    rfl
  obtain ⟨last, reached, ended⟩ := reached
  exact ⟨last, reached, ended, stale_lock_refuses present reached⟩

end SpringTemplate.Message
