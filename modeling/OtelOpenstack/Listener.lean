import Mathlib.Logic.Function.Basic
import OtelOpenstack.Otel

/-!
The trace listener of a TaskFlow engine: state notifications in, spans out.

The receivers run on the engine's thread. What they do under the listener's lock is one
function each (`startFlow`, `takeFlow`, `openAtom`, `popAtom`); the rest of a receiver runs
outside the lock. The context of a new atom span is stashed on the atom object, where the
wrapped executor function that runs the atom's body picks it up.
-/

set_option autoImplicit false

namespace OtelOpenstack.Listener

open Effects Python Otel ContextApi

/-! ### Notifications -/

/-- The states the listener tells apart. -/
inductive State
  | running | reverting | success | failure | reverted | revertFailure | suspended
  | other (name : String)
  deriving DecidableEq

def State.text : State → String
  | .running => "RUNNING"
  | .reverting => "REVERTING"
  | .success => "SUCCESS"
  | .failure => "FAILURE"
  | .reverted => "REVERTED"
  | .revertFailure => "REVERT_FAILURE"
  | .suspended => "SUSPENDED"
  | .other name => name

inductive Method | execute | revert
  deriving DecidableEq

def Method.text : Method → String
  | .execute => "execute"
  | .revert => "revert"

inductive Kind | task | retry
  deriving DecidableEq

def Kind.text : Kind → String
  | .task => "task"
  | .retry => "retry"

/-- Atom states that open a traced phase. -/
def atomStartMethods : State → Option Method
  | .running => some .execute
  | .reverting => some .revert
  | _ => none

/-- Atom states that close a traced phase, and whether as a failure. -/
def atomFinishMethods : State → Option (Method × Bool)
  | .success => some (.execute, false)
  | .failure => some (.execute, true)
  | .reverted => some (.revert, false)
  | .revertFailure => some (.revert, true)
  | _ => none

/-- Flow states that close the flow span, and whether as a failure. -/
def flowFinishStates : State → Option Bool
  | .success => some false
  | .failure => some true
  | .reverted => some true
  | .revertFailure => some true
  | .suspended => some false
  | _ => none

/-- The `result` of a notification: a TaskFlow `Failure`, or anything else. -/
inductive Result
  | failure (exception : Option Exn) (exceptionStr : String)
  | other

/-- The details of a notification; a missing entry reads as `None`. -/
structure Details where
  get : String → Val
  result : Result

inductive Notification
  | flow (state : State) (details : Details)
  | atom (kind : Kind) (state : State) (details : Details)

/-! ### State -/

/-- A node of the execution graph; flow patterns are nodes without an `execute`. -/
structure Node where
  name : Option Val
  hasExecute : Bool
  ref : ℕ
  deriving DecidableEq

/-- The key of an open atom span. -/
abbrev Key := Val × Method

structure TraceListener (Ctx : Type) where
  flowSpan : Option SpanContext
  flowContext : Option Ctx
  atomsByName : Option (Val → Option ℕ)
  atomSpans : Key → Option SpanContext

def TraceListener.init {Ctx : Type} : TraceListener Ctx := ⟨none, none, none, fun _ => none⟩

/-- What the listener can reach: itself, its engine's graph, and the context attribute of
every atom object. -/
structure Host (Ctx : Type) where
  listener : TraceListener Ctx
  executionGraph : List Node
  contextAttr : ℕ → Option Ctx

variable {Ctx : Type} {α : Type}

abbrev ListenerCode (Ctx : Type) : Type → Type := Code Ctx (Host Ctx)

def getListener : ListenerCode Ctx (TraceListener Ctx) := reads fun w => w.host.listener

def setListener (f : TraceListener Ctx → TraceListener Ctx) : ListenerCode Ctx Unit :=
  modifies fun w => { w with host := { w.host with listener := f w.host.listener } }

def setContextAttr (atom : ℕ) (c : Option Ctx) : ListenerCode Ctx Unit :=
  modifies fun w =>
    { w with host := { w.host with contextAttr := Function.update w.host.contextAttr atom c } }

/-- `try: body except Exception: handler`. -/
def exceptException (body : ListenerCode Ctx α) (handler : ListenerCode Ctx α) :
    ListenerCode Ctx α :=
  tryExcept body fun e => if e.isException then handler else raise e

def keyError (state : State) : Exn := exn "KeyError" state.text

/-! ### Flow -/

variable [ContextApi Ctx] (F : Faults)

def startFlow (details : Details) : ListenerCode Ctx Unit := do
  let self ← getListener
  if self.flowSpan.isSome then
    pure ()
  else do
    let span ← startSpan F "taskflow.flow.run" .internal none
      [("taskflow.flow.name", details.get "flow_name"),
       ("taskflow.flow.uuid", details.get "flow_uuid")]
    let c ← getCurrent
    setListener fun l => { l with flowSpan := some span, flowContext := some (setSpan span c) }

omit [ContextApi Ctx] in
/-- The part of `_finish_flow` under the lock. -/
def takeFlow : ListenerCode Ctx (Option SpanContext) := do
  let self ← getListener
  setListener fun l => { l with flowSpan := none, flowContext := none }
  pure self.flowSpan

/-- The part of `_finish_flow` after the lock. -/
def closeFlow (state : State) (span : SpanContext) : ListenerCode Ctx Unit := do
  if flowFinishStates state = some true then
    setStatus F span .error (some state.text)
  endSpan F span

def finishFlow (state : State) : ListenerCode Ctx Unit := do
  match ← takeFlow with
  | none => pure ()
  | some span => closeFlow F state span

def flowReceiver (state : State) (details : Details) : ListenerCode Ctx Unit :=
  exceptException
    (if state = .running then startFlow F details
     else if (flowFinishStates state).isSome then finishFlow F state
     else pure ())
    (pure ())

/-! ### Atoms -/

/-- The atoms of an execution graph by name; of two nodes of one name the later one counts. -/
def atomsOf (graph : List Node) : Val → Option ℕ := fun name =>
  ((graph.filter fun n => n.hasExecute && n.name == some name).getLast?).map Node.ref

def atomByName (name : Val) : ListenerCode Ctx (Option ℕ) := do
  let self ← getListener
  match self.atomsByName with
  | some atoms => pure (atoms name)
  | none => do
    let atoms ← exceptException
      (do
        mayRaise F (.other "compilation.execution_graph")
        let graph ← reads fun w => w.host.executionGraph
        pure (atomsOf graph))
      (pure fun _ => none)
    setListener fun l => { l with atomsByName := some atoms }
    pure (atoms name)

/-- The part of `_start_atom` under the lock; `none` when the phase is open already. -/
def openAtom (kind : Kind) (name uuid : Val) (method : Method) :
    ListenerCode Ctx (Option SpanContext) := do
  let self ← getListener
  if (self.atomSpans (uuid, method)).isSome then
    pure none
  else do
    let span ← startSpan F s!"taskflow.{kind.text}.{method.text}" .internal self.flowContext
      [(s!"taskflow.{kind.text}.name", name), (s!"taskflow.{kind.text}.uuid", uuid),
       (s!"taskflow.{kind.text}.method", .str method.text)]
    setListener fun l =>
      { l with atomSpans := Function.update l.atomSpans (uuid, method) (some span) }
    pure (some span)

/-- The part of `_start_atom` after the lock. -/
def handOff (name : Val) (span : SpanContext) : ListenerCode Ctx Unit := do
  match ← atomByName F name with
  | none => pure ()
  | some atom => do
    let c ← getCurrent
    mayRaise F (.other "setattr")
    setContextAttr atom (some (setSpan span c))

def startAtom (kind : Kind) (name uuid : Val) (state : State) : ListenerCode Ctx Unit :=
  match atomStartMethods state with
  | none => raise (keyError state)
  | some method => do
    match ← openAtom F kind name uuid method with
    | none => pure ()
    | some span => handOff F name span

omit [ContextApi Ctx] in
/-- The part of `_finish_atom` under the lock. -/
def popAtom (uuid : Val) (method : Method) : ListenerCode Ctx (Option SpanContext) := do
  let self ← getListener
  setListener fun l => { l with atomSpans := Function.update l.atomSpans (uuid, method) none }
  pure (self.atomSpans (uuid, method))

def setFailure (span : SpanContext) (result : Result) : ListenerCode Ctx Unit := do
  match result with
  | .failure exception exceptionStr => do
    mayRaise F (.other "result.exception")
    match exception with
    | some e => recordException F span e
    | none => pure ()
    mayRaise F (.other "result.exception_str")
    setStatus F span .error (some exceptionStr)
  | .other => setStatus F span .error none

/-- The part of `_finish_atom` after the lock. -/
def closeAtom (span : SpanContext) (isFailure : Bool) (details : Details) :
    ListenerCode Ctx Unit := do
  if isFailure then
    setFailure F span details.result
  endSpan F span

def finishAtom (uuid : Val) (state : State) (details : Details) : ListenerCode Ctx Unit :=
  match atomFinishMethods state with
  | none => raise (keyError state)
  | some (method, isFailure) => do
    match ← popAtom uuid method with
    | none => pure ()
    | some span => closeAtom F span isFailure details

def onAtom (kind : Kind) (state : State) (details : Details) : ListenerCode Ctx Unit :=
  exceptException
    (let name := details.get s!"{kind.text}_name"
     let uuid := details.get s!"{kind.text}_uuid"
     if (atomStartMethods state).isSome then startAtom F kind name uuid state
     else if (atomFinishMethods state).isSome then finishAtom F uuid state details
     else pure ())
    (pure ())

def taskReceiver (state : State) (details : Details) : ListenerCode Ctx Unit :=
  onAtom F .task state details

def retryReceiver (state : State) (details : Details) : ListenerCode Ctx Unit :=
  onAtom F .retry state details

/-- The receiver a notification goes to. -/
def receive : Notification → ListenerCode Ctx Unit
  | .flow state details => flowReceiver F state details
  | .atom .task state details => taskReceiver F state details
  | .atom .retry state details => retryReceiver F state details

/-! ### Atom bodies -/

omit [ContextApi Ctx] in
/-- `atom.__dict__.pop(_CONTEXT_ATTR, None)`. -/
def popContextAttr (atom : ℕ) : ListenerCode Ctx (Option Ctx) := do
  let c ← reads fun w => w.host.contextAttr atom
  setContextAttr atom none
  pure c

omit [ContextApi Ctx] in
/-- The wrapper around an executor function: `original` runs the body of `atom`. -/
def tracedAtomBody (original : ListenerCode Ctx α) (atom : ℕ) : ListenerCode Ctx α := do
  match ← popContextAttr atom with
  | none => original
  | some c => do
    let token ← attach c
    tryFinally original (detach token)

end OtelOpenstack.Listener
