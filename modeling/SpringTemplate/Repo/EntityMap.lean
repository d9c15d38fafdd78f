import Mathlib.Data.Set.Function
import SpringTemplate.Repo.HardDelete

/-!
# A repository of entities by their ids

Which id an entity is saved under depends on the class: it is the one that the
client sends, or one that a generator offers.  For either choice the map of
the entities by their ids is a repository that does what is documented, and
fails whenever it is told to.
-/

namespace SpringTemplate.Repo

variable {Entity Id : Type} [DecidableEq Id]

/-- How the ids of an entity class are chosen: the id under which an entity
is saved depends on the one that a generator offers, on the ids in use and on
the one that the entity has.  Only the ids of `savedIds` matter. -/
structure EntityClass (Entity Id : Type) where
  idOf : Entity → Option Id
  withId : Id → Entity → Entity
  idOf_withId : ∀ id entity, idOf (withId id entity) = some id
  place : Id → (Id → Bool) → Option Id → Option Id
  place_used : ∀ {offered : Id} {used : Id → Bool} {id : Id},
    used id = true → place offered used (some id) = some id
  savedIds : Id → Option Id → Set Id
  place_mem : ∀ {offered : Id} {used : Id → Bool} {own : Option Id}
    {id : Id}, place offered used own = some id → id ∈ savedIds offered own
  place_congr : ∀ {offered : Id} {used other : Id → Bool} {own : Option Id},
    Set.EqOn used other (savedIds offered own) →
      place offered used own = place offered other own

structure EntityMap (cls : EntityClass Entity Id) where
  entities : Id → Option Entity
  keyed : ∀ {id : Id} {entity : Entity},
    entities id = some entity → cls.idOf entity = some id

namespace EntityMap

variable {cls : EntityClass Entity Id}

def put (map : EntityMap cls) (id : Id) (entity : Entity) : EntityMap cls where
  entities := Function.update map.entities id (some (cls.withId id entity))
  keyed := by
    intro other stored found
    rw [Function.update_apply] at found
    split at found
    · rename_i same
      rw [← Option.some.inj found, cls.idOf_withId, same]
    · exact map.keyed found

def remove (map : EntityMap cls) (id : Id) : EntityMap cls where
  entities := Function.update map.entities id none
  keyed := by
    intro other stored found
    rw [Function.update_apply] at found
    split at found
    · cases found
    · exact map.keyed found

/-- A call that nothing hinders. -/
def answer (offered : Id) (map : EntityMap cls) :
    (call : RepoCall Entity Id) →
      EntityMap cls × Except RepoException call.Answer
  | .findById id => (map, .ok (map.entities id))
  | .save entity =>
      match cls.place offered (fun id => (map.entities id).isSome)
          (cls.idOf entity) with
      | none => (map, .error (.dataAccess ⟨"Identifier must be assigned"⟩))
      | some id => (map.put id entity, .ok (cls.withId id entity))
  | .deleteById id => (map.remove id, .ok ())

theorem answer_save {offered : Id} {map : EntityMap cls}
    {entity saved : Entity}
    (answered : (answer offered map (.save entity)).2 = .ok saved) :
    ∃ id, cls.place offered (fun id => (map.entities id).isSome)
        (cls.idOf entity) = some id ∧
      saved = cls.withId id entity ∧
      (answer offered map (.save entity)).1 = map.put id entity := by
  simp only [answer] at answered ⊢
  split at answered
  · cases answered
  · rename_i id placed
    exact ⟨id, placed, (Except.ok.inj answered).symm, rfl⟩

end EntityMap

/-- A repository that has the entities by their ids, and fails whenever there
is an exception. -/
def EntityClass.repository (cls : EntityClass Entity Id) :
    CrudRepository Entity Id where
  Table := EntityMap cls
  Outcome := Option DataAccessException
  answers := fun offered map call outcome =>
    match outcome with
    | none => map.answer offered call
    | some exception => (map, .error (.dataAccess exception))
  stored := EntityMap.entities

def EntityClass.noEntities (cls : EntityClass Entity Id) :
    cls.repository.Table :=
  { entities := fun _ => none
    keyed := fun stored => nomatch stored }

theorem EntityClass.documented (cls : EntityClass Entity Id) :
    cls.repository.Documented cls.idOf where
  stored_id := by
    intro map id entity stored
    exact EntityMap.keyed map stored
  findById := by
    intro offered map id outcome found answered
    cases outcome with
    | none => exact (Except.ok.inj answered).symm
    | some exception => cases answered
  findById_keeps := by
    intro offered map id outcome
    cases outcome <;> rfl
  save := by
    intro offered map entity saved outcome answered
    cases outcome with
    | none =>
        obtain ⟨id, _, rfl, after⟩ := EntityMap.answer_save answered
        exact ⟨id, cls.idOf_withId id entity, congrArg _ after⟩
    | some exception => cases answered
  save_used := by
    intro offered map entity saved outcome id answered own used
    cases outcome with
    | none =>
        obtain ⟨place, placed, rfl, _⟩ := EntityMap.answer_save answered
        rw [own, cls.place_used used] at placed
        rw [← Option.some.inj placed, cls.idOf_withId]
    | some exception => cases answered
  deleteById := by
    intro offered map id outcome answered
    cases outcome with
    | none => rfl
    | some exception => cases answered
  error_keeps := by
    intro offered map call outcome exception answered
    cases outcome with
    | some other => rfl
    | none =>
        cases call with
        | findById id => rfl
        | deleteById id => cases answered
        | save entity =>
            simp only [repository, EntityMap.answer] at answered ⊢
            split at answered
            · rfl
            · cases answered

/-! ## The classes of both controllers -/

/-- An embedded id is the one that the client sends. -/
def embeddedClass : EntityClass EmbeddedHardDel EmbededId where
  idOf := EmbeddedHardDel.id
  withId := fun id entity => { entity with id := some id }
  idOf_withId := fun _ _ => rfl
  place := fun _ _ own => own
  place_used := fun _ => rfl
  savedIds := fun _ own => {id | own = some id}
  place_mem := id
  place_congr := fun _ => rfl

/-- A new entity gets the id that the generator offers. -/
def autoGenClass (DateTime Condition : Type) :
    EntityClass (AutoGenStrIdHardDel DateTime Condition) String where
  idOf := AutoGenStrIdHardDel.id
  withId := fun id entity => { entity with id := some id }
  idOf_withId := fun _ _ => rfl
  place := fun offered used own =>
    match own with
    | none => some offered
    | some id => if used id then some id else some offered
  place_used := fun used => if_pos used
  savedIds := fun offered own => {id | id = offered ∨ own = some id}
  place_mem := by
    intro offered used own id placed
    cases own with
    | none => exact .inl (Option.some.inj placed).symm
    | some sent =>
        simp only at placed
        split at placed
        · exact .inr placed
        · exact .inl (Option.some.inj placed).symm
  place_congr := by
    intro offered used other own same
    cases own with
    | none => rfl
    | some sent =>
        have agree : used sent = other sent := same (.inr rfl)
        simp only [agree]

end SpringTemplate.Repo
