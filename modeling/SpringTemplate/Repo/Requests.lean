import SpringTemplate.Library.Footprints
import SpringTemplate.Repo.StoredRows

/-!
# Which ids a request is about

The server answers any number of requests at once, and their calls interleave
freely: an update finds its entity in one call and saves it in another.  The
footprint of a request has the ids that it uses, and those of them that it may
write.  A save is about the ids under which the class may place an entity, and
the calls of a request touch nothing else.
-/

namespace SpringTemplate.Repo

open Program

variable {Entity Id ι : Type} {idOf : Entity → Option Id}
  {savedIds : Id → Option Id → Set Id} {repo : CrudRepository Entity Id}

/-- The calls of the requests come in any order. -/
def requestSystem (repo : CrudRepository Entity Id) (offered : ι → Id) :
    System ι repo.Table (RepoCall Entity Id) RepoCall.Answer RepoException
      (fun _ => repo.Outcome) :=
  { environment := fun i => repo.answers (offered i)
    ready := fun _ _ _ => True
    allowed := fun _ _ => True }

abbrev RequestPool (repo : CrudRepository Entity Id) (ι : Type) :=
  Pool ι repo.Table (RepoCall Entity Id) RepoCall.Answer RepoException
    (HardDelAnswer Entity Id)

/-- All requests have come in, and none has been worked on. -/
def startRequests (handler : HardDelHandler Entity Id) (table : repo.Table)
    (requests : ι → HardDelRequest Entity Id) : RequestPool repo ι :=
  Pool.start table (fun i => handler (requests i))

/-! ## Footprints -/

/-- The ids that a call uses and writes, where `savedIds` has those of a
save, from the id that the generator offers and the one that the entity
has. -/
def RepoCall.footprint (idOf : Entity → Option Id)
    (savedIds : Id → Option Id → Set Id) (offered : Id) :
    RepoCall Entity Id → Footprint Id
  | .findById id => { used := {id}, written := ∅ }
  | .save entity =>
      { used := savedIds offered (idOf entity)
        written := savedIds offered (idOf entity) }
  | .deleteById id => { used := {id}, written := {id} }

/-- The ids that a request may use and write. -/
def HardDelRequest.footprint (idOf : Entity → Option Id)
    (savedIds : Id → Option Id → Set Id) (offered : Id) :
    HardDelRequest Entity Id → Footprint Id
  | .byId id => { used := {id}, written := ∅ }
  | .create data =>
      { used := savedIds offered (idOf data)
        written := savedIds offered (idOf data) }
  | .update id _ =>
      { used := insert id (savedIds offered (some id))
        written := savedIds offered (some id) }
  | .delete id => { used := {id}, written := {id} }

theorem HardDelRequest.footprint_written (offered : Id)
    (request : HardDelRequest Entity Id) :
    (request.footprint idOf savedIds offered).written ⊆
      (request.footprint idOf savedIds offered).used := by
  cases request with
  | byId id => exact Set.empty_subset _
  | create data => exact Set.Subset.rfl
  | update id data => exact Set.subset_insert _ _
  | delete id => exact Set.Subset.rfl

/-- What a call answers and writes is decided by the rows of its own ids, and
it writes no others. -/
structure CrudRepository.RowLocal (repo : CrudRepository Entity Id)
    (idOf : Entity → Option Id) (savedIds : Id → Option Id → Set Id) :
    Prop where
  touches : ∀ offered, (repo.answers offered).Touches repo.stored
    (RepoCall.footprint idOf savedIds offered)

section EntityMap

variable {cls : EntityClass Entity Id}

/-- An entity is saved under the same id, if the same ids are in use. -/
theorem EntityMap.place_eq {offered : Id} {map other : EntityMap cls}
    {own : Option Id}
    (same : Set.EqOn map.entities other.entities (cls.savedIds offered own)) :
    cls.place offered (fun id => (map.entities id).isSome) own =
      cls.place offered (fun id => (other.entities id).isSome) own :=
  cls.place_congr (fun _ member => congrArg Option.isSome (same member))

variable [DecidableEq Id]

theorem EntityMap.save_frame {offered : Id} {map : EntityMap cls}
    {entity : Entity} {id : Id}
    (outside : id ∉ cls.savedIds offered (cls.idOf entity)) :
    (map.answer offered (.save entity)).1.entities id = map.entities id := by
  simp only [EntityMap.answer]
  split
  · rfl
  · rename_i place placed
    apply Function.update_of_ne
    rintro rfl
    exact outside (cls.place_mem placed)

theorem EntityMap.save_local {offered : Id} {map other : EntityMap cls}
    {entity : Entity}
    (same : Set.EqOn map.entities other.entities
      (cls.savedIds offered (cls.idOf entity))) :
    (map.answer offered (.save entity)).2 =
        (other.answer offered (.save entity)).2 ∧
      Set.EqOn (map.answer offered (.save entity)).1.entities
        (other.answer offered (.save entity)).1.entities
        (cls.savedIds offered (cls.idOf entity)) := by
  simp only [EntityMap.answer, EntityMap.place_eq same]
  cases cls.place offered (fun id => (other.entities id).isSome)
      (cls.idOf entity) with
  | none => exact ⟨rfl, same⟩
  | some place =>
      refine ⟨rfl, ?_⟩
      intro id member
      simp only [EntityMap.put, Function.update_apply, same member]

theorem EntityClass.rowLocal (cls : EntityClass Entity Id) :
    cls.repository.RowLocal cls.idOf cls.savedIds where
  touches := by
    intro offered
    constructor
    case written_used =>
      intro call
      cases call with
      | findById id => exact Set.empty_subset _
      | save entity => exact Set.Subset.rfl
      | deleteById id => exact Set.Subset.rfl
    case frame =>
      intro map call outcome id outside
      cases outcome with
      | some exception => rfl
      | none =>
          cases call with
          | findById other => rfl
          | deleteById other => exact Function.update_of_ne outside _ _
          | save entity => exact EntityMap.save_frame outside
    case answer =>
      intro map other call outcome same
      cases outcome with
      | some exception => rfl
      | none =>
          cases call with
          | findById id => exact congrArg Except.ok (same rfl)
          | deleteById id => rfl
          | save entity => exact (EntityMap.save_local same).1
    case effect =>
      intro map other call outcome same
      cases outcome with
      | some exception => exact same
      | none =>
          cases call with
          | findById id => exact same
          | save entity => exact (EntityMap.save_local same).2
          | deleteById id =>
              intro key member
              have deleted : key = id := member
              simp only [EntityClass.repository, EntityMap.answer,
                EntityMap.remove, deleted, Function.update_self]

end EntityMap

/-- An entity that is found by an id has it. -/
def FoundById (idOf : Entity → Option Id) :
    (call : RepoCall Entity Id) → Except RepoException call.Answer → Prop
  | .findById id, .ok (some entity) => idOf entity = some id
  | _, _ => True

theorem CrudRepository.Documented.found [DecidableEq Id]
    (documented : repo.Documented idOf) (offered : Id) (table : repo.Table)
    (call : RepoCall Entity Id) (outcome : repo.Outcome) :
    FoundById idOf call (repo.answers offered table call outcome).2 := by
  cases call with
  | save entity => trivial
  | deleteById id => trivial
  | findById id =>
      cases answered : (repo.answers offered table (.findById id) outcome).2
        with
      | error exception => trivial
      | ok found =>
          have stored := documented.findById answered
          cases found with
          | none => trivial
          | some entity => exact documented.stored_id stored.symm

section Keeps

variable {offered : Id} {footprint : Footprint Id}

theorem save_keeps {entity : Entity}
    {history : History (RepoCall Entity Id) RepoCall.Answer RepoException}
    (within : (RepoCall.footprint idOf savedIds offered
      (.save entity)).Within footprint) :
    (Contract.within (FoundById idOf)
      (RepoCall.footprint idOf savedIds offered) footprint).Kept
      (do
        let saved ← perform (RepoCall.save entity)
        pure (.entity (some saved)) :
          RepoProgram Entity Id (HardDelAnswer Entity Id)) history := by
  refine ⟨within, ?_⟩
  rintro (exception | saved) _ <;> exact trivial

/-- A request keeps to its footprint. -/
theorem handle_keeps (info : EntityMerge idOf)
    (request : HardDelRequest Entity Id) :
    (Contract.within (FoundById idOf)
      (RepoCall.footprint idOf savedIds offered)
      (request.footprint idOf savedIds offered)).Kept
      (HardDelController.handle info request) [] := by
  cases request with
  | create data => exact save_keeps (.refl _)
  | byId id =>
      refine ⟨.refl _, ?_⟩
      rintro (exception | found) _ <;> exact trivial
  | delete id =>
      refine ⟨.refl _, ?_⟩
      rintro (exception | _) _ <;> exact trivial
  | update id data =>
      have finds : (RepoCall.footprint idOf savedIds offered
          (.findById id)).Within
          (HardDelRequest.footprint idOf savedIds offered
            (.update id data)) :=
        ⟨Set.singleton_subset_iff.mpr (Set.mem_insert _ _),
          Set.empty_subset _⟩
      refine ⟨finds, ?_⟩
      rintro (exception | _ | before) found
      · exact trivial
      · exact trivial
      · have sameId : idOf (info.merge data before).2 = some id :=
          (info.merge_id data before).trans found
        simp only [Program.bind]
        split
        · apply save_keeps
          rw [RepoCall.footprint, sameId]
          exact ⟨Set.subset_insert _ _, Set.Subset.rfl⟩
        · exact trivial

end Keeps

/-! ## Requests that write at their end -/

/-- Calls that leave the table as it is. -/
def Finds : RepoCall Entity Id → Prop
  | .findById _ => True
  | _ => False

theorem CrudRepository.Documented.finds [DecidableEq Id]
    (documented : repo.Documented idOf) (offered : Id) (table : repo.Table)
    (call : RepoCall Entity Id) (outcome : repo.Outcome)
    (finds : Finds call) :
    repo.stored (repo.answers offered table call outcome).1 =
      repo.stored table := by
  cases call with
  | findById id => exact documented.findById_keeps offered table id outcome
  | save entity => exact finds.elim
  | deleteById id => exact finds.elim

theorem save_writesLast (entity : Entity) :
    (do
      let saved ← perform (RepoCall.save entity)
      pure (.entity (some saved)) :
        RepoProgram Entity Id (HardDelAnswer Entity Id)).WritesLast
      Finds := by
  refine ⟨.inr ?_, ?_⟩
  · rintro (exception | saved) <;> exact ⟨_, rfl⟩
  · rintro (exception | saved) <;> exact trivial

theorem handle_writesLast (info : EntityMerge idOf)
    (request : HardDelRequest Entity Id) :
    (HardDelController.handle info request).WritesLast Finds := by
  cases request with
  | create data => exact save_writesLast data
  | byId id =>
      refine ⟨.inl trivial, ?_⟩
      rintro (exception | found) <;> exact trivial
  | delete id =>
      refine ⟨.inr ?_, ?_⟩
      · rintro (exception | _) <;> exact ⟨_, rfl⟩
      · rintro (exception | _) <;> exact trivial
  | update id data =>
      refine ⟨.inl trivial, ?_⟩
      rintro (exception | _ | before)
      · exact trivial
      · exact trivial
      · simp only [Program.bind]
        split
        · exact save_writesLast _
        · exact trivial

end SpringTemplate.Repo
