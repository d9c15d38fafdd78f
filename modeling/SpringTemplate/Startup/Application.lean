import SpringTemplate.Library.Interleaving
import SpringTemplate.Message.Service

/-!
# Readiness of the application

Each refresh of a context resets the ready flag and puts a task on the common
pool, which configures the beans and then sets the flag.  Any number of
refreshes run side by side; the order of their calls is free.

How the beans are configured is a program of its own, of any length.  Its
return is a call, so that it can be told from the calls that follow.  The
tasks of `InitHandler` touch neither the flag nor the configuration.
-/

namespace SpringTemplate.Startup

inductive Call (Work : Type) where
  | setReady (value : Bool)
  | getTaskHandler
  | execute
  | configure (work : Work)
  | configured
  | getInitHandler
  | executeInit
  | initServlet
  deriving DecidableEq, Repr

variable {Work Reply Failure ι Request : Type}

abbrev Answer (Reply : Type) : Call Work → Type
  | .configure _ => Reply
  | _ => Unit

/-- Writing the flag cannot fail; anything else answers or throws. -/
abbrev Outcome (Reply Failure : Type) : Call Work → Type
  | .setReady _ => Unit
  | .configured => Unit
  | .configure _ => Except Failure Reply
  | _ => Except Failure Unit

/-- The flag, the refresh whose event was delivered last, and the refreshes
whose configuration has completed without an exception. -/
structure Readiness (ι : Type) where
  ready : Bool
  latest : Option ι
  configured : ι → Bool

abbrev StartupProgram (Work Reply Failure α : Type) :=
  Program (Call Work) (Answer Reply) Failure α

/-- What `BeanConfigure` does, which may throw at any point. -/
abbrev Configuration (Work Reply Failure : Type) :=
  Program Work (fun _ => Reply) Failure Unit

abbrev send (call : Call Work) :
    StartupProgram Work Reply Failure (Answer Reply call) :=
  Program.perform call

def runBeanConfigure :
    Configuration Work Reply Failure → StartupProgram Work Reply Failure Unit
  | .done (.ok ()) => send .configured
  | .done (.error failure) => .done (.error failure)
  | .call work next =>
      .call (.configure work) (fun reply => runBeanConfigure (next reply))

/-- The task of one refresh on the common pool. -/
def initTask (configuration : Configuration Work Reply Failure) :
    StartupProgram Work Reply Failure Unit := do
  runBeanConfigure configuration
  send .getInitHandler
  send .executeInit
  send (.setReady true)
  send .initServlet

/-- The delivery of an event; what follows `execute` is the task it submits. -/
def onApplicationEvent (configuration : Configuration Work Reply Failure) :
    StartupProgram Work Reply Failure Unit := do
  send (.setReady false)
  send .getTaskHandler
  send .execute
  initTask configuration

section System

variable [DecidableEq ι]

def environment (i : ι) :
    Environment (Call Work) (Answer Reply) Failure (Readiness ι)
      (Outcome Reply Failure)
  | state, .setReady false, _ =>
      ({ state with ready := false, latest := some i }, .ok ())
  | state, .setReady true, _ => ({ state with ready := true }, .ok ())
  | state, .configured, _ =>
      ({ state with
          configured := Function.update state.configured i true }, .ok ())
  | state, .configure _, outcome => (state, outcome)
  | state, .getTaskHandler, outcome => (state, outcome)
  | state, .execute, outcome => (state, outcome)
  | state, .getInitHandler, outcome => (state, outcome)
  | state, .executeInit, outcome => (state, outcome)
  | state, .initServlet, outcome => (state, outcome)

/-- All refreshes; any call may throw, and the calls come in any order. -/
def system : System ι (Readiness ι) (Call Work) (Answer Reply) Failure
    (Outcome Reply Failure) :=
  { environment := environment
    ready := fun _ _ _ => True
    allowed := fun _ _ => True }

end System

/-- No event has been delivered yet. -/
def start (configuration : ι → Configuration Work Reply Failure) :
    Pool ι (Readiness ι) (Call Work) (Answer Reply) Failure Unit :=
  Pool.start { ready := false, latest := none, configured := fun _ => false }
    (fun i => onApplicationEvent (configuration i))

/-! ## Requests -/

inductive Handler where
  | method (declaringClass simpleName name : String)
  | resource
  | other
  deriving DecidableEq, Repr

/-- What the interceptor reads of its surroundings. -/
structure RequestInterceptor (Request : Type) where
  ignoredHandlerClasses : List String
  acceptLanguage : Request → String
  getRedirect : Request → Option String

/-- What `preHandle` returns and what it has set and sent by then. -/
structure PreHandled where
  proceeds : Bool
  error : Option Nat := none
  redirect : Option String := none
  auditor : Option String := none
  info : Option String := none
  language : Option String := none
  deriving DecidableEq, Repr

def preHandle (isReady : Bool) (interceptor : RequestInterceptor Request)
    (request : Request) (handler : Handler) : PreHandled :=
  if isReady then
    let handled : PreHandled :=
      { proceeds := true
        auditor := some "__SYSTEM__"
        language := some (Message.MessageServiceImpl.setRequestLanguage
          (interceptor.acceptLanguage request)) }
    match handler with
    | .method declaringClass simpleName name =>
        if declaringClass ∈ interceptor.ignoredHandlerClasses then handled
        else { handled with info := some (simpleName ++ ":" ++ name) }
    | .resource =>
        match interceptor.getRedirect request with
        | some redirect =>
            { handled with proceeds := false, redirect := some redirect }
        | none => handled
    | .other => handled
  else { proceeds := false, error := some 503 }

/-- Until the application is ready every request is refused. -/
theorem preHandle_ready {isReady : Bool}
    {interceptor : RequestInterceptor Request} {request : Request}
    {handler : Handler}
    (proceeds : (preHandle isReady interceptor request handler).proceeds =
      true) : isReady = true := by
  cases isReady with
  | true => rfl
  | false => cases proceeds

end SpringTemplate.Startup
