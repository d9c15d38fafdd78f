import SpringTemplate.Message.Instances

/-!
# What one reload guarantees about the lock

A call of `reloadBean` writes the lock only after it has found the lock
absent, and deletes it only between that write and the end of the reload.
`lockContract` says so call by call, and `reloadBean_kept` shows it for every
way the calls can be answered.
-/

namespace SpringTemplate.Message

variable {Node : Type}

/-- A call has found the lock absent and has not touched it since. -/
structure Tested (history : ReloadHistory) : Prop where
  absent : ⟨.get Keys.lock, .ok none⟩ ∈ history
  notLocked : ∀ value answer, ⟨.set Keys.lock value, answer⟩ ∉ history
  notUnlocked : ∀ answer, ⟨.delete [Keys.lock], answer⟩ ∉ history

/-- The lock is written after it was found absent, and deleted in the
section.  The monitor is always answered. -/
def lockContract : Contract Call Answer MessageException :=
  { relies := fun call answer =>
      match call, answer with
      | .enter, answer => answer = .ok ()
      | .exit, answer => answer = .ok ()
      | _, _ => True
    guarantees := fun history call =>
      match call with
      | .set key _ => key = Keys.lock → Tested history
      | .multiSet values => Keys.lock ∉ values.keys
      | .delete keys => Keys.lock ∈ keys → InSection history
      | _ => True }

section Record

variable {history : ReloadHistory} {call : Call}
  {answer : Except MessageException (Answer call)}

theorem InSection.record (inside : InSection history)
    (other : call ≠ .delete [Keys.lock]) :
    InSection (history ++ [⟨call, answer⟩]) := by
  obtain ⟨⟨value, locked⟩, notUnlocked⟩ := inside
  refine ⟨⟨value, List.mem_append_left _ locked⟩, ?_⟩
  intro other member
  rcases List.mem_append.mp member with earlier | last
  · exact notUnlocked _ earlier
  · have same := List.mem_singleton.mp last
    exact absurd (congrArg Exchange.op same).symm (by assumption)

theorem InSection.of_record
    (inside : InSection (history ++ [⟨call, answer⟩]))
    (other : ∀ value, call ≠ .set Keys.lock value) : InSection history := by
  obtain ⟨⟨value, locked⟩, notUnlocked⟩ := inside
  refine ⟨⟨value, ?_⟩, ?_⟩
  · rcases List.mem_append.mp locked with earlier | last
    · exact earlier
    · have same := List.mem_singleton.mp last
      exact absurd (congrArg Exchange.op same).symm (other value)
  · intro answer member
    exact notUnlocked answer (List.mem_append_left _ member)

theorem Tested.of_record (tested : Tested (history ++ [⟨call, answer⟩]))
    (other : call ≠ .get Keys.lock) : Tested history := by
  obtain ⟨absent, notLocked, notUnlocked⟩ := tested
  refine ⟨?_, ?_, ?_⟩
  · rcases List.mem_append.mp absent with earlier | last
    · exact earlier
    · have same := List.mem_singleton.mp last
      exact absurd (congrArg Exchange.op same).symm other
  · intro value answer member
    exact notLocked value answer (List.mem_append_left _ member)
  · intro answer member
    exact notUnlocked answer (List.mem_append_left _ member)

theorem Tested.inSection (tested : Tested history) (value : Bytes) :
    InSection (history ++ [⟨.set Keys.lock value, .ok ()⟩]) := by
  refine ⟨⟨value, by simp⟩, ?_⟩
  intro answer member
  rcases List.mem_append.mp member with earlier | last
  · exact tested.notUnlocked answer earlier
  · simp at last

end Record

/-- The calls a reload makes between its two calls of `lock`. -/
def Quiet : Call → Prop
  | .set key _ => key ≠ Keys.lock
  | .multiSet values => Keys.lock ∉ values.keys
  | .delete keys => keys ≠ [Keys.lock]
  | _ => True

theorem InSection.quiet {history : ReloadHistory} {call : Call}
    {post : Except MessageException (Answer call) → ReloadHistory → Prop}
    (inside : InSection history) (quiet : Quiet call)
    (ends : ∀ answer after, InSection after → post answer after) :
    (send call).wp lockContract.rules post history := by
  have other : call ≠ .delete [Keys.lock] := by
    rintro rfl
    exact quiet rfl
  refine ⟨?_, fun answer _ => ends _ _ (inside.record other)⟩
  cases call with
  | set key value => exact fun same => absurd same quiet
  | multiSet values => exact quiet
  | delete keys => exact fun _ => inside
  | _ => trivial

/-- `synchronized` puts its body between two calls that are always answered. -/
theorem synchronized_kept {history : ReloadHistory} {α : Type}
    {body : ServiceProgram α}
    {post : Except MessageException α → ReloadHistory → Prop}
    (holds : body.wp lockContract.rules
      (fun result later => post result (later ++ [⟨.exit, .ok ()⟩]))
      (history ++ [⟨.enter, .ok ()⟩])) :
    (synchronized body).wp lockContract.rules post history := by
  simp only [synchronized, Program.wp_bind, Program.wp_perform]
  refine ⟨trivial, ?_⟩
  rintro answer rfl
  simp only [Program.andThen_ok, Program.wp_tryFinally, Program.wp_perform]
  refine Program.wp_mono
    (fun history op {_ _} => lockContract.rules_mono history op) ?_ holds
  intro result later ends
  refine ⟨trivial, ?_⟩
  rintro answer rfl
  exact ends

theorem clear_kept {dataMapper : DataMapper Node} {history : ReloadHistory}
    {post : Except MessageException Unit → ReloadHistory → Prop}
    (inside : InSection history)
    (ends : ∀ result after, InSection after → post result after) :
    (deployed dataMapper).clear.wp lockContract.rules post history := by
  simp only [MessageServiceImpl.clear, Program.wp_bind]
  refine inside.quiet ?_ ?_
  · trivial
  intro answer got insideGot
  cases answer with
  | error error => exact ends _ _ insideGot
  | ok index =>
      simp only [Program.andThen_ok, Program.wp_bind, wp_ofExcept]
      cases indexed : (deployed dataMapper).indexedKeys index with
      | error error => exact ends _ _ insideGot
      | ok keys =>
          simp only [Program.andThen_ok, deployed, Bool.false_eq_true,
            if_false, Program.wp_bind, Program.wp_pure]
          cases empty : keys.isEmpty with
          | true => exact ends _ _ insideGot
          | false =>
              simp only [Bool.false_eq_true, if_false]
              refine insideGot.quiet ?_ ends
              rintro rfl
              have named := resourceKeys_mem_indexedKeys indexed (by simp)
              exact Keys.lock_ne_resourceKeys
                (List.mem_singleton.mp named).symm

theorem lock_not_loaded {dataMapper : DataMapper Node} {type : String}
    {files : List Resource} {values : OrderedMap String Bytes}
    (client : type = "mobile" ∨ type = "portal")
    (read : (deployed dataMapper).readResources type files = .ok values) :
    Keys.lock ∉ values.keys := by
  intro member
  obtain ⟨bytes, found⟩ := (values.mem_keys_iff _).mp member
  obtain ⟨⟨language, equality⟩, _⟩ :=
    foldlM_readResource_entries (by simp) read Keys.lock bytes found
  exact Keys.lock_ne_resource client language equality

theorem loadResource_kept {dataMapper : DataMapper Node} {type : String}
    {history : ReloadHistory}
    {post : Except MessageException (OrderedMap String Bytes) →
      ReloadHistory → Prop}
    (inside : InSection history)
    (client : type = "mobile" ∨ type = "portal")
    (ends : ∀ values after, Keys.lock ∉ values.keys → InSection after →
      post (.ok values) after)
    (fails : ∀ error after, InSection after → post (.error error) after) :
    ((deployed dataMapper).loadResource type).wp lockContract.rules post
      history := by
  simp only [MessageServiceImpl.loadResource, Program.wp_bind]
  refine inside.quiet ?_ ?_
  · trivial
  intro answer got insideGot
  cases answer with
  | error error => exact fails _ _ insideGot
  | ok files =>
      simp only [Program.andThen_ok, wp_ofExcept]
      cases read : (deployed dataMapper).readResources type files with
      | error error => exact fails _ _ insideGot
      | ok values => exact ends _ _ (lock_not_loaded client read) insideGot

theorem multiSet_kept {values : OrderedMap String Bytes}
    {history : ReloadHistory}
    {post : Except MessageException Unit → ReloadHistory → Prop}
    (inside : InSection history) (unnamed : Keys.lock ∉ values.keys)
    (ends : ∀ result after, InSection after → post result after) :
    (MessageServiceImpl.multiSet values).wp lockContract.rules post
      history := by
  unfold MessageServiceImpl.multiSet
  cases empty : values.keys.isEmpty with
  | true => exact ends _ _ inside
  | false =>
      simp only [Bool.false_eq_true, if_false]
      exact inside.quiet unnamed ends

/-- The body of a reload leaves the section to `lock(false)`. -/
theorem reloadBody_kept {dataMapper : DataMapper Node}
    {history : ReloadHistory} (inside : InSection history) :
    (deployed dataMapper).reloadBody.wp lockContract.rules
      (fun _ after => InSection after) history := by
  simp only [MessageServiceImpl.reloadBody, Program.wp_bind]
  apply clear_kept inside
  intro cleared afterClear insideClear
  cases cleared with
  | error error => exact insideClear
  | ok value =>
      simp only [Program.andThen_ok, Program.wp_bind]
      refine loadResource_kept insideClear (.inl rfl) ?_ (fun _ _ => id)
      intro mobile afterMobile mobileUnnamed insideMobile
      simp only [Program.andThen_ok, Program.wp_bind]
      refine loadResource_kept insideMobile (.inr rfl) ?_ (fun _ _ => id)
      intro portal afterPortal portalUnnamed insidePortal
      simp only [Program.andThen_ok, Program.wp_bind]
      apply multiSet_kept insidePortal mobileUnnamed
      intro stored afterStored insideStored
      cases stored with
      | error error => exact insideStored
      | ok value =>
          simp only [Program.andThen_ok, Program.wp_bind]
          apply multiSet_kept insideStored portalUnnamed
          intro stored afterStored insideStored
          cases stored with
          | error error => exact insideStored
          | ok value =>
              simp only [Program.andThen_ok, Program.wp_bind]
              refine insideStored.quiet ?_ ?_
              · exact Ne.symm Keys.lock_ne_resourceKeys
              intro indexed afterIndex insideIndex
              cases indexed with
              | error error => exact insideIndex
              | ok value =>
                  simp only [Program.andThen_ok]
                  exact insideIndex.quiet trivial (fun _ _ => id)

/-- Only an answered write of the lock brings a call into the section. -/
theorem not_inSection {history : ReloadHistory}
    (notWritten : ∀ value, ⟨.set Keys.lock value, .ok ()⟩ ∉ history) :
    ¬ InSection history := by
  rintro ⟨⟨value, written⟩, _⟩
  exact notWritten value written

theorem lock_kept {post : Except MessageException Bool → ReloadHistory → Prop}
    (locks : ∀ after, InSection after → post (.ok true) after)
    (fails : ∀ result after, result ≠ .ok true → ¬ InSection after →
      post result after) :
    (lock true).wp lockContract.rules post [] := by
  apply synchronized_kept
  simp only [lockBody, if_true, Program.wp_bind, Program.wp_perform]
  refine ⟨trivial, ?_⟩
  intro answer _
  cases answer with
  | error error => exact fails _ _ (by simp) (not_inSection (by simp))
  | ok lockBytes =>
      cases lockBytes with
      | some bytes => exact fails _ _ (by simp) (not_inSection (by simp))
      | none =>
          have tested : Tested (([] ++ [⟨.enter, .ok ()⟩]) ++
              [⟨.get Keys.lock, .ok none⟩]) :=
            ⟨by simp, by simp, by simp⟩
          simp only [Program.andThen_ok, Program.wp_bind, Program.wp_perform]
          refine ⟨fun _ => tested, ?_⟩
          intro answer _
          cases answer with
          | error error =>
              exact fails _ _ (by simp) (not_inSection (by simp))
          | ok value =>
              apply locks
              exact (tested.inSection _).record (by simp)

theorem unlock_kept {history : ReloadHistory} (inside : InSection history) :
    (lock false).wp lockContract.rules (fun _ after => ¬ InSection after)
      history := by
  apply synchronized_kept
  simp only [lockBody, Bool.false_eq_true, if_false, Program.wp_bind,
    Program.wp_perform]
  refine ⟨fun _ => inside.record (by simp), ?_⟩
  intro answer _
  have outside : ¬ InSection (history ++ [⟨.enter, .ok ()⟩] ++
      [⟨.delete [Keys.lock], answer⟩] ++ [⟨.exit, .ok ()⟩]) :=
    fun inside => inside.notUnlocked answer (by simp)
  cases answer <;> exact outside

/-- `reloadBean` keeps the contract of the lock and ends outside the
section. -/
theorem reloadBean_leaves (dataMapper : DataMapper Node) :
    (deployed dataMapper).reloadBean.wp lockContract.rules
      (fun _ after => ¬ InSection after) [] := by
  simp only [MessageServiceImpl.reloadBean, Program.wp_bind]
  apply lock_kept
  · intro after inside
    simp only [Program.andThen_ok, if_true, Program.wp_bind,
      Program.wp_tryFinally]
    refine Program.wp_mono
      (fun history op {_ _} => lockContract.rules_mono history op) ?_
      (reloadBody_kept inside)
    intro result later insideLater
    refine Program.wp_mono
      (fun history op {_ _} => lockContract.rules_mono history op) ?_
      (unlock_kept insideLater)
    intro unlocked last outside
    cases unlocked <;> cases result <;> exact outside
  · intro result after notLocked outside
    cases result with
    | error error => exact outside
    | ok locked =>
        cases locked with
        | false => exact outside
        | true => exact absurd rfl notLocked

theorem reloadBean_kept (dataMapper : DataMapper Node) :
    lockContract.Kept (deployed dataMapper).reloadBean [] :=
  Program.wp_mono (fun history op {_ _} => lockContract.rules_mono history op)
    (fun _ _ _ => trivial) (reloadBean_leaves dataMapper)

end SpringTemplate.Message
