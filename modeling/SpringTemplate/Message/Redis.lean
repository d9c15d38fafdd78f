import SpringTemplate.Library.Environment
import SpringTemplate.Library.OrderedMap

/-!
# The Redis and the files behind the message service

The service reaches the outside through the calls of `Call`: the commands of
its Redis template, the directory listing of `loadResource`, the hook
`loadMessage`, and the monitor that `synchronized` takes.  `environment`
answers them from a Redis content and from the resource directories.  A Redis
command may fail in two ways, before or after Redis has executed it.
-/

namespace SpringTemplate.Message

abbrev Bytes := ByteArray

/-- Where an exception of the service comes from. -/
inductive MessageException where
  | redis
  | file
  | json
  | message
  | indexOutOfBounds
  deriving DecidableEq, Repr

/-- A file of a resource directory.  Reading its content may fail. -/
structure Resource where
  filename : String
  content : Except MessageException Bytes

/-- The resource directories under the message path, by type. -/
abbrev Directories := String → Except MessageException (List Resource)

inductive Call where
  | enter
  | exit
  | get (key : String)
  | multiGet (keys : List String)
  | set (key : String) (value : Bytes)
  | multiSet (values : OrderedMap String Bytes)
  | delete (keys : List String)
  | getResources (type : String)
  | loadMessage

@[reducible] def Answer : Call → Type
  | .get _ => Option Bytes
  | .multiGet _ => Option (List (Option Bytes))
  | .getResources _ => List Resource
  | _ => Unit

/-- How a command fares: answered, refused without effect, or executed with
the answer lost. -/
inductive Fault where
  | answered
  | refused
  | lost
  deriving DecidableEq, Repr

def Fault.Executed (fault : Fault) : Prop :=
  fault ≠ .refused

/-- The outcome of a call.  A batch read may also give any other answer. -/
@[reducible] def Outcome : Call → Type
  | .get _ => Fault
  | .multiGet _ =>
      Option (Except MessageException (Option (List (Option Bytes))))
  | .set _ _ => Fault
  | .multiSet _ => Fault
  | .delete _ => Fault
  | .loadMessage => Fault
  | _ => Unit

/-- The outcome without a fault. -/
def answered : (call : Call) → Outcome call
  | .enter => ()
  | .exit => ()
  | .get _ => .answered
  | .multiGet _ => none
  | .set _ _ => .answered
  | .multiSet _ => .answered
  | .delete _ => .answered
  | .getResources _ => ()
  | .loadMessage => .answered

abbrev Redis := String → Option Bytes

namespace Redis

def set (redis : Redis) (key : String) (value : Bytes) : Redis :=
  fun other => if other = key then some value else redis other

def multiSet (redis : Redis) (values : OrderedMap String Bytes) : Redis :=
  fun key => (values.get? key).or (redis key)

def delete (redis : Redis) (keys : List String) : Redis :=
  fun key => if key ∈ keys then none else redis key

theorem set_same (redis : Redis) (key : String) (value : Bytes) :
    redis.set key value key = some value := by
  simp [set]

theorem set_other (redis : Redis) {key other : String} (value : Bytes)
    (different : other ≠ key) : redis.set key value other = redis other := by
  simp [set, different]

theorem delete_member (redis : Redis) {keys : List String} {key : String}
    (member : key ∈ keys) : redis.delete keys key = none := by
  simp [delete, member]

theorem delete_other (redis : Redis) {keys : List String} {key : String}
    (absent : key ∉ keys) : redis.delete keys key = redis key := by
  simp [delete, absent]

@[simp] theorem delete_nil (redis : Redis) : redis.delete [] = redis := by
  funext key
  simp [delete]

theorem multiSet_stored (redis : Redis) {values : OrderedMap String Bytes}
    {key : String} {value : Bytes} (stored : values.get? key = some value) :
    redis.multiSet values key = some value := by
  simp [multiSet, stored]

theorem multiSet_other (redis : Redis) {values : OrderedMap String Bytes}
    {key : String} (absent : key ∉ values.keys) :
    redis.multiSet values key = redis key := by
  simp [multiSet, (values.get?_eq_none_iff key).mpr absent]

@[simp] theorem multiSet_empty (redis : Redis) :
    redis.multiSet OrderedMap.empty = redis := by
  funext key
  simp [multiSet]

end Redis

/-- A write command: what Redis holds afterwards and whether the caller gets
an answer. -/
def write (fault : Fault) (before after : Redis) :
    Redis × Except MessageException Unit :=
  match fault with
  | .answered => (after, .ok ())
  | .refused => (before, .error .redis)
  | .lost => (after, .error .redis)

def environment (directories : Directories) :
    Environment Call Answer MessageException Redis Outcome
  | redis, .enter, _ => (redis, .ok ())
  | redis, .exit, _ => (redis, .ok ())
  | redis, .get key, .answered => (redis, .ok (redis key))
  | redis, .get _, _ => (redis, .error .redis)
  | redis, .multiGet keys, none => (redis, .ok (some (keys.map redis)))
  | redis, .multiGet _, some answer => (redis, answer)
  | redis, .set key value, fault => write fault redis (redis.set key value)
  | redis, .multiSet values, fault => write fault redis (redis.multiSet values)
  | redis, .delete keys, fault => write fault redis (redis.delete keys)
  | redis, .getResources type, _ => (redis, directories type)
  | redis, .loadMessage, .answered => (redis, .ok ())
  | redis, .loadMessage, _ => (redis, .error .message)

end SpringTemplate.Message
