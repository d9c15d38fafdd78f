import SpringTemplate.Library.Interleaving
import SpringTemplate.Message.Served

/-!
# Several instances on one Redis

Any number of calls of `reloadBean` run side by side.  Each belongs to an
instance of the application, whose monitor orders the two `lock` calls of its
threads; Redis is shared by all instances.  The steps of the system are the
single calls of `Call`.

The lock is taken by a read and a later write.  `Careful` excludes exactly
the steps that break it: a write of the lock that finds the lock present, and
a delete of `clear` that names the lock because the index does.
-/

namespace SpringTemplate.Message

variable {Node ι Instance : Type}

/-- What the calls share: one Redis, and a monitor for each instance. -/
structure Shared (ι Instance : Type) where
  redis : Redis
  holder : Instance → Option ι

/-- The calls of `reloadBean`: where each runs and which files it finds. -/
structure Deployment (ι Instance : Type) where
  instanceOf : ι → Instance
  directories : ι → Directories

abbrev ReloadHistory := History Call Answer MessageException

abbrev ReloadPool (ι Instance : Type) :=
  Pool ι (Shared ι Instance) Call Answer MessageException Bool

namespace Deployment

variable [DecidableEq Instance] (deployment : Deployment ι Instance)

def hold (state : Shared ι Instance) (i : ι) (owner : Option ι) :
    Shared ι Instance :=
  { redis := state.redis
    holder :=
      Function.update state.holder (deployment.instanceOf i) owner }

def shared (i : ι) :
    Environment Call Answer MessageException (Shared ι Instance) Outcome
  | state, .enter, _ => (deployment.hold state i (some i), .ok ())
  | state, .exit, _ => (deployment.hold state i none, .ok ())
  | state, call, outcome =>
      let (redis, answer) :=
        environment (deployment.directories i) state.redis call outcome
      ({ state with redis := redis }, answer)

/-- The monitor admits one thread of an instance at a time. -/
def Ready (i : ι) (state : Shared ι Instance) : Call → Prop
  | .enter => state.holder (deployment.instanceOf i) = none
  | _ => True

/-- The calls that read or write the lock key. -/
def NamesLock : Call → Prop
  | .get key => key = Keys.lock
  | .set key _ => key = Keys.lock
  | .multiSet values => Keys.lock ∈ values.keys
  | .delete keys => Keys.lock ∈ keys
  | _ => False

/-- The reloads of all instances.  Any call may fail, except that the
commands on the lock are answered. -/
def system : System ι (Shared ι Instance) Call Answer MessageException
    Outcome :=
  { environment := deployment.shared
    ready := deployment.Ready
    allowed := fun call outcome => NamesLock call → outcome = answered call }

/-- The lock is written only while it is absent, and deleted only alone. -/
def Careful (redis : Redis) : Call → Prop
  | .set key _ => key = Keys.lock → redis Keys.lock = none
  | .delete keys => Keys.lock ∈ keys → keys = [Keys.lock]
  | _ => True

/-- The same reloads, with careful steps only. -/
def careful : System ι (Shared ι Instance) Call Answer MessageException
    Outcome :=
  { deployment.system with
    ready := fun i state call =>
      deployment.Ready i state call ∧ Careful state.redis call }

/-- All calls are about to start. -/
def start (dataMapper : DataMapper Node) (redis : Redis) :
    ReloadPool ι Instance :=
  Pool.start { redis := redis, holder := fun _ => none }
    (fun _ => (deployed dataMapper).reloadBean)

end Deployment

/-- A call is between its write of the lock and its delete of the lock. -/
structure InSection (history : ReloadHistory) : Prop where
  locked : ∃ value, ⟨.set Keys.lock value, .ok ()⟩ ∈ history
  notUnlocked : ∀ answer, ⟨.delete [Keys.lock], answer⟩ ∉ history

/-- At most one call is in the section, and the lock is present meanwhile. -/
structure Exclusive (state : Shared ι Instance)
    (histories : ι → ReloadHistory) : Prop where
  single : ∀ i j, InSection (histories i) → InSection (histories j) → i = j
  present : ∀ i, InSection (histories i) → state.redis Keys.lock ≠ none

end SpringTemplate.Message
