import SpringTemplate.Message.KeySpace

/-!
# The stages of a reload

A reload changes Redis in four writes: the delete of `clear`, one multi-set
for each client type, and the index.  `Stage` says which of them have been
executed and `Stage.redis` what Redis then holds, the lock aside.  `At` ties
a trace of the service to a stage.  The specifications below move a trace
from stage to stage, one method of the service at a time, for every fault a
call may meet.
-/

namespace SpringTemplate.Message

variable {Node : Type}

/-- The service as it is deployed, with `isMessageImplemented` still false. -/
def deployed (dataMapper : DataMapper Node) : MessageServiceImpl Node :=
  { dataMapper := dataMapper }

/-- The service once messages are implemented. -/
def implemented (dataMapper : DataMapper Node) : MessageServiceImpl Node :=
  { dataMapper := dataMapper
    isMessageImplemented := true }

inductive Stage where
  | untouched
  | cleared
  | mobileStored
  | portalStored
  | indexed
  deriving DecidableEq, Repr

/-- The client types whose files have been stored. -/
def Stage.stored : Stage → List String
  | .untouched => []
  | .cleared => []
  | .mobileStored => ["mobile"]
  | .portalStored => ["mobile", "portal"]
  | .indexed => ["mobile", "portal"]

section Contents

variable (dataMapper : DataMapper Node)

/-- The keys the delete of `clear` names. -/
def listed (redis : Redis) : List String :=
  match (deployed dataMapper).indexedKeys (redis Keys.resourceKeys) with
  | .ok keys => keys
  | .error _ => []

/-- What `loadResource` makes of the files of one type. -/
def contents (directories : Directories) (type : String) :
    Except MessageException (OrderedMap String Bytes) :=
  directories type >>= (deployed dataMapper).readResources type

def loaded (directories : Directories) (type : String) :
    OrderedMap String Bytes :=
  match contents dataMapper directories type with
  | .ok values => values
  | .error _ => .empty

/-- The index the reload writes. -/
def index (directories : Directories) : Bytes :=
  dataMapper.writeKeys
    ((loaded dataMapper directories "mobile").keys ∪
      (loaded dataMapper directories "portal").keys)

/-- What Redis holds at a stage, the lock aside. -/
def Stage.redis (directories : Directories) (before : Redis) :
    Stage → Redis
  | .untouched => before
  | .cleared => before.delete (listed dataMapper before)
  | .mobileStored =>
      (before.delete (listed dataMapper before)).multiSet
        (loaded dataMapper directories "mobile")
  | .portalStored =>
      ((before.delete (listed dataMapper before)).multiSet
        (loaded dataMapper directories "mobile")).multiSet
        (loaded dataMapper directories "portal")
  | .indexed =>
      (((before.delete (listed dataMapper before)).multiSet
        (loaded dataMapper directories "mobile")).multiSet
        (loaded dataMapper directories "portal")).set
        Keys.resourceKeys (index dataMapper directories)

end Contents

abbrev ServiceTrace := Trace Redis Outcome

/-- The delete of `clear` has been executed. -/
def ClearedIn (trace : ServiceTrace) : Prop :=
  ∃ keys, ∃ fault : Fault, Keys.resourceKeys ∈ keys ∧ fault.Executed ∧
    ⟨.delete keys, fault⟩ ∈ trace.events

/-- A multi-set of these values has been executed. -/
def StoredIn (trace : ServiceTrace) (values : OrderedMap String Bytes) :
    Prop :=
  ∃ fault : Fault, fault.Executed ∧ ⟨.multiSet values, fault⟩ ∈ trace.events

/-- The write of the index has been executed. -/
def IndexedIn (trace : ServiceTrace) : Prop :=
  ∃ value, ∃ fault : Fault, fault.Executed ∧
    ⟨.set Keys.resourceKeys value, fault⟩ ∈ trace.events

/-- A trace of a reload that began with the content `before` has reached a
stage. -/
structure At (dataMapper : DataMapper Node) (directories : Directories)
    (before : Redis) (stage : Stage) (trace : ServiceTrace) : Prop where
  content : ∀ key, key ≠ Keys.lock →
    trace.state key = stage.redis dataMapper directories before key
  loads : stage.stored ≠ [] → ∀ type, type = "mobile" ∨ type = "portal" →
    contents dataMapper directories type =
      .ok (loaded dataMapper directories type)
  cleared : stage ≠ .untouched → listed dataMapper before ≠ [] →
    ClearedIn trace
  stored : ∀ values, StoredIn trace values →
    ∃ type, type ∈ stage.stored ∧
      values = loaded dataMapper directories type
  storing : ∀ type, type ∈ stage.stored →
    (loaded dataMapper directories type).keys ≠ [] →
    StoredIn trace (loaded dataMapper directories type)
  indexing : IndexedIn trace → stage = .indexed

/-! ## Keys -/

theorem Keys.lock_ne_resourceKeys : Keys.lock ≠ Keys.resourceKeys := by
  decide

theorem clientTypes_of {type : String}
    (client : type = "mobile" ∨ type = "portal") : type ∈ clientTypes := by
  simpa [clientTypes] using client

theorem Keys.lock_ne_resource {type : String}
    (client : type = "mobile" ∨ type = "portal") (language : String) :
    Keys.lock ≠ Keys.resource type language := by
  intro equality
  have same : ServiceKey.lock =
      .resource ⟨type, clientTypes_of client⟩ language :=
    ServiceKey.text_injective equality
  cases same

theorem Keys.resourceKeys_ne_resource {type : String}
    (client : type = "mobile" ∨ type = "portal") (language : String) :
    Keys.resourceKeys ≠ Keys.resource type language := by
  intro equality
  have same : ServiceKey.resourceKeys =
      .resource ⟨type, clientTypes_of client⟩ language :=
    ServiceKey.text_injective equality
  cases same

theorem Keys.mobile_ne_portal (language other : String) :
    Keys.resource "mobile" language ≠ Keys.resource "portal" other := by
  intro equality
  have same : ServiceKey.resource ⟨"mobile", by decide⟩ language =
      .resource ⟨"portal", by decide⟩ other :=
    ServiceKey.text_injective equality
  simp at same

end SpringTemplate.Message
