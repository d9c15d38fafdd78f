import SpringTemplate.Repo.Requests

/-!
# Requests at the same time

As long as no request writes an id that another one uses, the requests that
have been answered so far could have been handled one after another, in any
order, and the others have changed nothing yet.
-/

namespace SpringTemplate.Repo

open Program HardDelController

variable {Entity Id ι : Type} {idOf : Entity → Option Id}
  {savedIds : Id → Option Id → Set Id} {repo : CrudRepository Entity Id}
  {offered : ι → Id} {requests : ι → HardDelRequest Entity Id}
  {info : EntityMerge idOf}

/-- No request writes an id that another one uses. -/
def RequestsApart (idOf : Entity → Option Id)
    (savedIds : Id → Option Id → Set Id) (offered : ι → Id)
    (requests : ι → HardDelRequest Entity Id) : Prop :=
  ∀ i j, i ≠ j →
    ∀ id ∈ ((requests i).footprint idOf savedIds (offered i)).used,
      id ∉ ((requests j).footprint idOf savedIds (offered j)).written

/-- The step is the one of this request, with the answer that it has got in
the pool. -/
structure HardDelStep.IsOf (offered : ι → Id)
    (requests : ι → HardDelRequest Entity Id) (pool : RequestPool repo ι)
    (i : ι) (step : HardDelStep repo) : Prop where
  offered : step.offered = offered i
  request : step.request = requests i
  answer : pool.rest i = .done step.answer

variable [DecidableEq Id]

/-! ## Requests one after another -/

/-- The request ends alone, answered as in the pool, and leaves there what
the pool has. -/
def EndsAlone (idOf : Entity → Option Id)
    (savedIds : Id → Option Id → Set Id) (info : EntityMerge idOf)
    (offered : ι → Id) (requests : ι → HardDelRequest Entity Id)
    (first : repo.Table) (pool : RequestPool repo ι) (i : ι) : Prop :=
  ∃ answer trace, (repo.answers (offered i)).Ends (fun _ _ => True)
      (Environment.start first) (handle info (requests i)) answer trace ∧
    pool.rest i = .done answer ∧
    Set.EqOn (repo.stored pool.state) (repo.stored trace.state)
      ((requests i).footprint idOf savedIds (offered i)).used

/-- In a row, such requests are answered as each alone, and leave what each
leaves alone. -/
theorem run_apart (documented : repo.Documented idOf)
    (rowLocal : repo.RowLocal idOf savedIds)
    (apart : RequestsApart idOf savedIds offered requests)
    {first : repo.Table} {pool : RequestPool repo ι} {order : List ι}
    (once : order.Nodup)
    (alone : ∀ i ∈ order,
      EndsAlone idOf savedIds info offered requests first pool i)
    (table : repo.Table)
    (agree : ∀ i ∈ order, Set.EqOn (repo.stored first) (repo.stored table)
      ((requests i).footprint idOf savedIds (offered i)).used) :
    ∃ steps last, HardDelRun repo (handle info) table steps last ∧
      List.Forall₂ (HardDelStep.IsOf offered requests pool) order steps ∧
      (∀ i ∈ order, Set.EqOn (repo.stored pool.state) (repo.stored last)
        ((requests i).footprint idOf savedIds (offered i)).used) ∧
      ∀ id, (∀ i ∈ order, id ∉
          ((requests i).footprint idOf savedIds (offered i)).written) →
        repo.stored last id = repo.stored table id := by
  induction order generalizing table with
  | nil => exact ⟨[], table, .nil table, .nil, by simp, fun _ _ => rfl⟩
  | cons i rest induction =>
      obtain ⟨new, once⟩ := List.nodup_cons.mp once
      obtain ⟨answer, trace, ends, answered, leaves⟩ :=
        alone i List.mem_cons_self
      have same : Set.EqOn
          (repo.stored (Environment.start first : RepoTrace repo).state)
          (repo.stored (Environment.start table : RepoTrace repo).state)
          ((requests i).footprint idOf savedIds (offered i)).used :=
        agree i List.mem_cons_self
      obtain ⟨⟨after, follows, agrees⟩, _⟩ := (rowLocal.touches _).runs
        (documented.found (offered i)) (handle_keeps info (requests i)) same
        ends
      obtain ⟨_, kept⟩ := (rowLocal.touches _).runs
        (documented.found (offered i)) (handle_keeps info (requests i))
        (Set.eqOn_refl _ _) follows
      have still : ∀ j ∈ rest,
          Set.EqOn (repo.stored first) (repo.stored after.state)
            ((requests j).footprint idOf savedIds (offered j)).used := by
        intro j member id inside
        have different : j ≠ i := fun same => new (same ▸ member)
        exact (agree j (List.mem_cons_of_mem _ member) inside).trans
          (kept id (apart j i different id inside)).symm
      obtain ⟨steps, last, run, steps_of, rows, frame⟩ := induction once
        (fun j member => alone j (List.mem_cons_of_mem _ member))
        after.state still
      refine ⟨_, last, .cons follows run, .cons ⟨rfl, rfl, answered⟩ steps_of,
        ?_, ?_⟩
      · intro j member
        rcases List.mem_cons.mp member with rfl | later
        · intro id inside
          have unwritten : ∀ k ∈ rest, id ∉
              ((requests k).footprint idOf savedIds (offered k)).written := by
            intro k other
            have different : j ≠ k := fun same => new (same ▸ other)
            exact apart j k different id inside
          exact ((leaves inside).trans (agrees inside)).trans
            (frame id unwritten).symm
        · exact rows j later
      · intro id outside
        have here : repo.stored after.state id = repo.stored table id :=
          kept id (outside i List.mem_cons_self)
        exact (frame id fun j member =>
          outside j (List.mem_cons_of_mem _ member)).trans here

/-! ## Requests at the same time -/

section Interleaved

variable [DecidableEq ι] {table : repo.Table} {pool : RequestPool repo ι}

def separation (documented : repo.Documented idOf)
    (rowLocal : repo.RowLocal idOf savedIds)
    (apart : RequestsApart idOf savedIds offered requests) :
    (requestSystem repo offered).Separation repo.stored where
  touched := fun i => RepoCall.footprint idOf savedIds (offered i)
  footprint := fun i => (requests i).footprint idOf savedIds (offered i)
  relies := FoundById idOf
  touches := fun i => rowLocal.touches (offered i)
  relied := fun i => documented.found (offered i)
  apart := apart

/-- Every request that has ended ends alone too.  One that has not has changed
nothing. -/
theorem requests_alone (documented : repo.Documented idOf)
    (rowLocal : repo.RowLocal idOf savedIds)
    (apart : RequestsApart idOf savedIds offered requests)
    (reached : (requestSystem repo offered).Reaches
      (startRequests (handle info) table requests) pool) :
    (∀ i, (∃ answer, pool.rest i = .done answer) →
      EndsAlone idOf savedIds info offered requests table pool i) ∧
    (∀ i, (¬ ∃ answer, pool.rest i = .done answer) →
      Set.EqOn (repo.stored pool.state) (repo.stored table)
        ((requests i).footprint idOf savedIds (offered i)).used) ∧
    ∀ id, (∀ i, id ∉
        ((requests i).footprint idOf savedIds (offered i)).written) →
      repo.stored pool.state id = repo.stored table id := by
  have separate : (separation documented rowLocal apart).Alone table
      (fun i => handle info (requests i)) pool :=
    reached.alone (fun i => ⟨[], handle_keeps info (requests i)⟩)
  refine ⟨?_, ?_, separate.unwritten⟩
  · intro i ended
    obtain ⟨answer, ended⟩ := ended
    obtain ⟨trace, runs, same⟩ := separate.alone i
    rw [ended] at runs
    exact ⟨answer, trace, runs, ended, same⟩
  · intro i waiting
    obtain ⟨trace, runs, same⟩ := separate.alone i
    have unwritten : repo.stored trace.state = repo.stored table :=
      runs.unwritten (documented.finds (offered i))
        (handle_writesLast info (requests i))
        (fun answer ended => waiting ⟨answer, ended⟩)
    rw [unwritten] at same
    exact same

/-- However the calls of requests interleave none of which writes an id that
another one uses, those that have been answered can be handled one after
another, in any order, with the same answers, and leave what is stored. -/
theorem requests_anyOrder (documented : repo.Documented idOf)
    (rowLocal : repo.RowLocal idOf savedIds)
    (apart : RequestsApart idOf savedIds offered requests)
    (reached : (requestSystem repo offered).Reaches
      (startRequests (handle info) table requests) pool)
    {order : List ι} (once : order.Nodup)
    (ended : ∀ i, i ∈ order ↔ ∃ answer, pool.rest i = .done answer) :
    ∃ steps last, HardDelRun repo (handle info) table steps last ∧
      List.Forall₂ (HardDelStep.IsOf offered requests pool) order steps ∧
      repo.stored pool.state = repo.stored last := by
  obtain ⟨alone, waiting, untouched⟩ :=
    requests_alone documented rowLocal apart reached
  obtain ⟨steps, last, run, stepsOf, rows, frame⟩ := run_apart documented
    rowLocal apart once (fun i member => alone i ((ended i).mp member)) table
    (fun _ _ => Set.eqOn_refl _ _)
  refine ⟨steps, last, run, stepsOf, ?_⟩
  funext id
  by_cases someone : ∃ i, id ∈
      ((requests i).footprint idOf savedIds (offered i)).written
  · obtain ⟨i, written⟩ := someone
    have inside := HardDelRequest.footprint_written (offered i) (requests i)
      written
    by_cases member : i ∈ order
    · exact rows i member inside
    · rw [waiting i (fun answered => member ((ended i).mpr answered)) inside]
      refine (frame id ?_).symm
      intro j other
      have different : i ≠ j := fun same => member (same ▸ other)
      exact apart i j different id inside
  · have nobody : ∀ i, id ∉
        ((requests i).footprint idOf savedIds (offered i)).written :=
      fun i written => someone ⟨i, written⟩
    exact (untouched id nobody).trans (frame id fun i _ => nobody i).symm

end Interleaved

/-! ## Two requests of each controller -/

def embeddedKey (code : String) : EmbededId :=
  { type := some 1
    code := some code }

def twoEmbedded : embeddedClass.repository.Table :=
  (embeddedClass.noEntities.put (embeddedKey "a")
    (embeddedEntity "A" 'Y')).put (embeddedKey "b") (embeddedEntity "B" 'Y')

def oneAutoGen : (autoGenClass Unit Unit).repository.Table :=
  (autoGenClass Unit Unit).noEntities.put "a" (autoGenEntity none "A")

def embeddedPair : Bool → HardDelRequest EmbeddedHardDel EmbededId
  | false => .update (embeddedKey "a") (embeddedEntity "C" 'N')
  | true => .delete (embeddedKey "b")

def autoGenPair :
    Bool → HardDelRequest (AutoGenStrIdHardDel Unit Unit) String
  | false => .update "a" (autoGenEntity none "C")
  | true => .create (autoGenEntity none "D")

def autoGenOffers : Bool → String
  | false => "u"
  | true => "v"

/-- Between the two calls of an update, another entity is deleted or created.
The first update has not saved yet, the second one has. -/
theorem requests_anyOrder_two :
    (∃ (pool : RequestPool embeddedClass.repository Bool) (steps : _)
        (last : _),
      HardDelRun embeddedClass.repository
          (EmbeddedHardDelController.handle embeddedMerge) twoEmbedded steps
          last ∧
        List.Forall₂ (HardDelStep.IsOf (fun _ => embeddedKey "")
          embeddedPair pool) [true] steps ∧
        pool.rest true = .done (.ok (.id (embeddedKey "b"))) ∧
        pool.state.entities (embeddedKey "b") = none ∧
        embeddedClass.repository.stored pool.state =
          embeddedClass.repository.stored last) ∧
    ∃ (pool : RequestPool (autoGenClass Unit Unit).repository Bool)
        (steps : _) (last : _),
      HardDelRun (autoGenClass Unit Unit).repository
          (AutoGenStrIdHardDelController.handle autoGenMerge) oneAutoGen
          steps last ∧
        List.Forall₂ (HardDelStep.IsOf autoGenOffers autoGenPair pool)
          [true, false] steps ∧
        pool.state.entities "a" = some (autoGenEntity (some "a") "C") ∧
        pool.state.entities "v" = some (autoGenEntity (some "v") "D") ∧
        (autoGenClass Unit Unit).repository.stored pool.state =
          (autoGenClass Unit Unit).repository.stored last := by
  refine ⟨?_, ?_⟩
  · have apart : RequestsApart embeddedClass.idOf embeddedClass.savedIds
        (fun _ => embeddedKey "") embeddedPair := by
      intro i j different
      cases i <;> cases j <;>
        simp [HardDelRequest.footprint, embeddedClass, embeddedPair,
          embeddedKey] at *
    have reached : ∃ pool, (requestSystem embeddedClass.repository
        (fun _ : Bool => embeddedKey "")).Reaches
          (startRequests (EmbeddedHardDelController.handle embeddedMerge)
            twoEmbedded embeddedPair) pool ∧
        pool.rest true = .done (.ok (.id (embeddedKey "b"))) ∧
        pool.state.entities (embeddedKey "b") = none ∧
        ∀ i, i ∈ [true] ↔ ∃ answer, pool.rest i = .done answer := by
      refine ⟨_,
        .next false none rfl trivial trivial <|
        .next true none rfl trivial trivial .refl, rfl, rfl, ?_⟩
      intro i
      cases i with
      | true => exact ⟨fun _ => ⟨_, rfl⟩, fun _ => List.mem_singleton_self _⟩
      | false =>
          refine ⟨fun member => by simp at member, ?_⟩
          rintro ⟨answer, done⟩
          cases done
    obtain ⟨pool, reached, answered, deleted, ended⟩ := reached
    obtain ⟨steps, last, run, stepsOf, same⟩ := requests_anyOrder
      embeddedClass.documented embeddedClass.rowLocal apart reached
      (List.nodup_singleton true) ended
    exact ⟨pool, steps, last, run, stepsOf, answered, deleted, same⟩
  · have apart : RequestsApart (autoGenClass Unit Unit).idOf
        (autoGenClass Unit Unit).savedIds autoGenOffers autoGenPair := by
      intro i j different
      cases i <;> cases j <;>
        simp [HardDelRequest.footprint, autoGenClass, autoGenPair,
          autoGenOffers, autoGenEntity] at *
    have reached : ∃ pool, (requestSystem
        (autoGenClass Unit Unit).repository autoGenOffers).Reaches
          (startRequests (AutoGenStrIdHardDelController.handle autoGenMerge)
            oneAutoGen autoGenPair) pool ∧
        pool.state.entities "a" = some (autoGenEntity (some "a") "C") ∧
        pool.state.entities "v" = some (autoGenEntity (some "v") "D") ∧
        ∀ i, i ∈ [true, false] ↔ ∃ answer, pool.rest i = .done answer := by
      refine ⟨_,
        .next false none rfl trivial trivial <|
        .next true none rfl trivial trivial <|
        .next false none rfl trivial trivial .refl, rfl, rfl, ?_⟩
      intro i
      cases i with
      | true => exact ⟨fun _ => ⟨_, rfl⟩, fun _ => by simp⟩
      | false => exact ⟨fun _ => ⟨_, rfl⟩, fun _ => by simp⟩
    obtain ⟨pool, reached, updated, created, ended⟩ := reached
    obtain ⟨steps, last, run, stepsOf, same⟩ := requests_anyOrder
      (autoGenClass Unit Unit).documented (autoGenClass Unit Unit).rowLocal
      apart reached (by decide) ended
    exact ⟨pool, steps, last, run, stepsOf, updated, created, same⟩

end SpringTemplate.Repo
