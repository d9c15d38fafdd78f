import SpringTemplate.Library.Moments
import SpringTemplate.Message.Abandoned
import SpringTemplate.Message.Batches
import SpringTemplate.Message.Clearing

/-!
# Lookups beside reloads

A request looks up messages or words while the instances reload and crash.
Each lookup reads the Redis with one command at most, so it answers from one
moment: no answer combines what two moments hold.
-/

namespace SpringTemplate.Message

open Program MessageServiceImpl

variable {Node : Type}

/-- What a request may ask the service for. -/
inductive Lookup where
  | resource (type : String)
  | text (code : Option String) (checkArgs : Bool)
      (args : Option (List (Option String)))
  | list (codes : Option (List (Option String)))
  | map (codes : Option (List (Option String)))

@[reducible] def Lookup.Result (Node : Type) : Lookup → Type
  | .resource _ => ResourceAnswer Node
  | .text _ _ _ => String
  | .list _ => List (Option String)
  | .map _ => OrderedMap (Option String) (Option String)

def Lookup.program (service : MessageServiceImpl Node) (charset : Charset)
    (requested : Option String) :
    (lookup : Lookup) → ServiceProgram (lookup.Result Node)
  | .resource type => service.getResource requested type
  | .text code checkArgs args =>
      service.getText charset requested code checkArgs args
  | .list codes => service.getList charset requested codes
  | .map codes => service.getMap charset requested codes

/-- The commands that only read. -/
def Call.IsRead : Call → Prop
  | .get _ => True
  | .multiGet _ => True
  | _ => False

theorem environment_read (redis : Redis) (call : Call)
    (outcome : Outcome call) (isRead : call.IsRead) :
    (environment noFiles redis call outcome).1 = redis := by
  cases call with
  | get key => cases outcome <;> rfl
  | multiGet keys => cases outcome <;> rfl
  | _ => exact isRead.elim

/-! ## One command at most -/

section Commands

variable (service : MessageServiceImpl Node) (charset : Charset)
  (requested : Option String)

theorem getWord_once (code : Option String) :
    (getWord charset requested code).CallsAtMost Call.IsRead 1 := by
  cases code with
  | none => exact .done _ 1
  | some text =>
      apply CallsAtMost.bind (.perform trivial)
      intro value
      cases value <;> exact .done _ 0

theorem getList_once (codes : Option (List (Option String))) :
    (service.getList charset requested codes).CallsAtMost Call.IsRead 1 := by
  unfold getList
  split
  · rcases codes with _ | _ | ⟨code, codes⟩
    · exact .done _ 1
    · exact .done _ 1
    · apply CallsAtMost.bind (.perform trivial)
      intro values
      cases values with
      | none => exact .done _ 0
      | some values =>
          dsimp only
          split <;> exact .done _ 0
  · exact .done _ 1

theorem getMap_once (codes : Option (List (Option String))) :
    (service.getMap charset requested codes).CallsAtMost Call.IsRead 1 := by
  cases codes with
  | none => exact .done _ 1
  | some codes =>
      apply CallsAtMost.bind (getList_once service charset requested _)
      intro words
      split <;> exact .done _ 0

theorem getText_once (code : Option String) (checkArgs : Bool)
    (args : Option (List (Option String))) :
    (service.getText charset requested code checkArgs args).CallsAtMost
      Call.IsRead 1 := by
  unfold getText
  split
  · cases code with
    | none => exact .done _ 1
    | some text =>
        dsimp only
        split
        · cases args with
          | none => exact getWord_once charset requested (some text)
          | some args =>
              apply CallsAtMost.bind (getList_once service charset requested _)
              intro words
              cases words with
              | nil => exact .done _ 0
              | cons word words =>
                  dsimp only
                  split <;> exact .done _ 0
        · apply CallsAtMost.bind (getWord_once charset requested (some text))
          intro word
          cases args <;> exact .done _ 0
  · exact .done _ 1

theorem getResource_once (type : String) :
    (service.getResource requested type).CallsAtMost Call.IsRead 1 := by
  apply CallsAtMost.bind (.perform trivial)
  intro bytes
  cases bytes with
  | none => exact .done _ 0
  | some bytes =>
      apply CallsAtMost.bind (n := 0) (m := 0) (.done _ 0)
      intro message
      exact .done _ 0

theorem Lookup.program_once (lookup : Lookup) :
    (lookup.program service charset requested).CallsAtMost Call.IsRead 1 := by
  cases lookup with
  | resource type => exact getResource_once service requested type
  | text code checkArgs args =>
      exact getText_once service charset requested code checkArgs args
  | list codes => exact getList_once service charset requested codes
  | map codes => exact getMap_once service charset requested codes

end Commands

/-! ## Beside the instances -/

section Instances

variable {ι Instance : Type} [DecidableEq ι] [DecidableEq Instance]
  (deployment : Deployment ι Instance)

abbrev ReloadCrashPool (ι Instance : Type) :=
  CrashPool Instance ι (Shared ι Instance) Call Answer MessageException Bool

/-- The Redis the instances share. -/
def sharedRedis (state : ReloadCrashPool ι Instance) : Redis :=
  state.pool.state.redis

def withRedis (state : ReloadCrashPool ι Instance) (redis : Redis) :
    ReloadCrashPool ι Instance :=
  { state with
    pool := { state.pool with
      state := { state.pool.state with redis := redis } } }

/-- The lookup runs to this result while the instances reload and crash. -/
abbrev Deployment.Beside {α : Type}
    (allowed : (call : Call) → Outcome call → Prop)
    (first : ReloadCrashPool ι Instance) (program : ServiceProgram α)
    (last : ReloadCrashPool ι Instance)
    (result : Except MessageException α) : Prop :=
  ((environment noFiles).within sharedRedis withRedis).Beside
    (deployment.faulty.CrashStep deployment.instanceOf) allowed first program
    last result

variable {deployment} {first last : ReloadCrashPool ι Instance}
  {allowed : (call : Call) → Outcome call → Prop}

theorem Deployment.Beside.at_one_moment {α : Type}
    {program : ServiceProgram α} {result : Except MessageException α}
    (once : program.CallsAtMost Call.IsRead 1)
    (beside : deployment.Beside allowed first program last result) :
    ∃ moment later,
      deployment.faulty.CrashReaches deployment.instanceOf first moment ∧
      deployment.faulty.CrashReaches deployment.instanceOf moment last ∧
      (environment noFiles).Ends allowed
        (Environment.start (sharedRedis moment)) program result later ∧
      later.state = sharedRedis moment :=
  Environment.Beside.at_one_moment (fun _ => rfl) environment_read once
    beside

variable {service : MessageServiceImpl Node} {charset : Charset}
  {requested : Option String}

/-- Every lookup answers what it would answer alone at some moment between
its start and its end, whatever the instances do meanwhile. -/
theorem lookups_at_one_moment {lookup : Lookup}
    {result : Except MessageException (lookup.Result Node)}
    (beside : deployment.Beside allowed first
      (lookup.program service charset requested) last result) :
    ∃ moment later,
      deployment.faulty.CrashReaches deployment.instanceOf first moment ∧
      deployment.faulty.CrashReaches deployment.instanceOf moment last ∧
      (environment noFiles).Ends allowed
        (Environment.start (sharedRedis moment))
        (lookup.program service charset requested) result later ∧
      later.state = sharedRedis moment :=
  beside.at_one_moment (lookup.program_once service charset requested)

/-- One instance has entered its reload when the lookup reads, and has
crashed when the lookup ends. -/
theorem lookups_at_one_moment_crash :
    ∃ last moment later result,
      twoInstances.faulty.CrashReaches twoInstances.instanceOf
        ⟨Deployment.start textMapper codeRedis, ∅⟩ moment ∧
      twoInstances.faulty.CrashReaches twoInstances.instanceOf moment last ∧
      (environment noFiles).Ends (fun _ _ => True)
        (Environment.start (sharedRedis moment))
        ((Lookup.resource "mobile").program (deployed textMapper) latin1 none)
        result later ∧
      later.state = sharedRedis moment ∧ last.crashed = {false} := by
  have beside : twoInstances.Beside (fun _ _ => True)
      ⟨Deployment.start textMapper codeRedis, ∅⟩
      ((Lookup.resource "mobile").program (deployed textMapper) latin1 none)
      _ _ :=
    .move (.call false (answered .enter) (by simp) rfl rfl trivial) <|
    .call (answered (.get (Keys.resource "mobile" "id"))) trivial <|
    .move (.crash false) <|
    .done _ _
  obtain ⟨moment, later, before, after, ends, same⟩ :=
    lookups_at_one_moment beside
  exact ⟨_, moment, later, _, before, after, ends, same, by simp⟩

end Instances

end SpringTemplate.Message
