import OtelOpenstack.ListenerSteps
import OtelOpenstack.Runs

/-!
Several engines, each with its own listener, on several workers.

The engines share the calls made on the tracer and the atom objects with their context
attribute; each worker has its own current context, and a stack of the atom bodies it is
inside of.
-/

set_option autoImplicit false

namespace OtelOpenstack.Engines

open Effects Python Otel ContextApi Listener ListenerSteps

/-! ### Atom bodies, from both ends -/

section

variable {Ctx : Type} {α : Type}

/-- The wrapper up to the call of the body. -/
def enterBody (atom : ℕ) : ListenerCode Ctx (Option (Token Ctx)) := do
  match ← popContextAttr atom with
  | none => pure none
  | some c => do
    let token ← attach c
    pure (some token)

/-- The wrapper from the end of the body on, however it ended. -/
def exitBody : Option (Token Ctx) → ListenerCode Ctx Unit
  | none => pure ()
  | some token => detach token

/-- **The ends are the wrapper.** -/
theorem tracedAtomBody_eq (original : ListenerCode Ctx α) (atom : ℕ) :
    tracedAtomBody original atom = (do
      let token ← enterBody atom
      tryFinally original (exitBody token)) := by
  funext w
  rcases h : w.host.contextAttr atom with _ | c
  · simp [tracedAtomBody, enterBody, exitBody, popContextAttr, setContextAttr, bind_apply, h]
  · simp [tracedAtomBody, enterBody, exitBody, popContextAttr, setContextAttr, bind_apply, h]

/-- The world of an execution unit that has entered the body of `atom`. -/
def entered (atom : ℕ) (w : TfWorld Ctx) : TfWorld Ctx :=
  { w with
    current := (w.host.contextAttr atom).getD w.current
    host := { w.host with contextAttr := Function.update w.host.contextAttr atom none } }

lemma enterBody_apply (atom : ℕ) (w : TfWorld Ctx) :
    enterBody atom w =
      (.ok ((w.host.contextAttr atom).map fun _ => ⟨w.current⟩), entered atom w) := by
  rcases h : w.host.contextAttr atom with _ | c <;>
    simp [enterBody, popContextAttr, setContextAttr, bind_apply, h, entered]

lemma exitBody_apply (token : Option (Token Ctx)) (w : TfWorld Ctx) :
    exitBody token w =
      (.ok (), { w with current := (token.map Token.old).getD w.current }) := by
  cases token <;> rfl

end

/-! ### The system -/

/-- A body a worker is inside of. `before` is the context the worker had when the wrapper was
called; the wrapper itself keeps only its token. -/
structure Frame (E Ctx : Type) where
  engine : E
  atom : ℕ
  before : Ctx
  token : Option (Token Ctx)

structure Sys (E W Ctx : Type) where
  calls : List Call
  listeners : E → TraceListener Ctx
  contextAttr : ℕ → Option Ctx
  current : W → Ctx
  frames : W → List (Frame E Ctx)

/-- A notification to an engine's listener, the two ends of an atom body an engine runs, and
whatever else changes the current context of a worker. -/
inductive Event (E W Ctx : Type)
  | notify (engine : E) (worker : W) (n : Notification)
  | enter (engine : E) (worker : W) (atom : ℕ)
  | exit (worker : W)
  | ambient (worker : W) (c : Ctx)

section

variable {E W Ctx : Type}

/-- New listeners; nothing is stashed on an atom. -/
def Sys.init (current : W → Ctx) : Sys E W Ctx :=
  ⟨[], fun _ => TraceListener.init, fun _ => none, current, fun _ => []⟩

variable (graph : E → List Node)

/-- What a worker sees when it runs code of an engine. -/
def Sys.view (s : Sys E W Ctx) (e : E) (w : W) : TfWorld Ctx :=
  ⟨s.current w, s.calls, [], ⟨s.listeners e, graph e, s.contextAttr⟩⟩

variable [DecidableEq E] [DecidableEq W]

/-- What is left when that code has run. -/
def Sys.store (s : Sys E W Ctx) (e : E) (w : W) (v : TfWorld Ctx) : Sys E W Ctx :=
  { s with
    calls := v.calls
    listeners := Function.update s.listeners e v.host.listener
    contextAttr := v.host.contextAttr
    current := Function.update s.current w v.current }

def Sys.setFrames (s : Sys E W Ctx) (w : W) (fs : List (Frame E Ctx)) : Sys E W Ctx :=
  { s with frames := Function.update s.frames w fs }

variable [ContextApi Ctx]

def step (s : Sys E W Ctx) : Event E W Ctx → Sys E W Ctx
  | .notify e w n => s.store e w (receive noFaults n (s.view graph e w)).2
  | .enter e w atom =>
    match enterBody atom (s.view graph e w) with
    | (.ok token, v) =>
      (s.store e w v).setFrames w (⟨e, atom, s.current w, token⟩ :: s.frames w)
    | (.error _, v) => s.store e w v
  | .exit w =>
    match s.frames w with
    | [] => s
    | f :: fs =>
      (s.store f.engine w (exitBody f.token (s.view graph f.engine w)).2).setFrames w fs
  | .ambient w c => { s with current := Function.update s.current w c }

variable {graph}

lemma step_notify (s : Sys E W Ctx) (e : E) (w : W) (n : Notification) :
    step graph s (.notify e w n) = s.store e w (react (meaning n) (s.view graph e w)) := by
  rw [step, receive_apply]

lemma step_enter (s : Sys E W Ctx) (e : E) (w : W) (atom : ℕ) :
    step graph s (.enter e w atom) =
      { s with
        contextAttr := Function.update s.contextAttr atom none
        current := Function.update s.current w ((s.contextAttr atom).getD (s.current w))
        frames := Function.update s.frames w
          (⟨e, atom, s.current w, (s.contextAttr atom).map fun _ => ⟨s.current w⟩⟩ ::
            s.frames w) } := by
  simp [step, enterBody_apply, entered, Sys.store, Sys.setFrames, Sys.view]

lemma step_exit (s : Sys E W Ctx) {w : W} {f : Frame E Ctx} {fs : List (Frame E Ctx)}
    (h : s.frames w = f :: fs) :
    step graph s (.exit w) =
      { s with
        current := Function.update s.current w ((f.token.map Token.old).getD (s.current w))
        frames := Function.update s.frames w fs } := by
  simp [step, h, exitBody_apply, Sys.store, Sys.setFrames, Sys.view]

/-! ### Held spans -/

omit [DecidableEq E] [DecidableEq W] [ContextApi Ctx] in
/-- Where the listeners hold spans. -/
def held (s : Sys E W Ctx) (p : E × Slot) : Option SpanContext := slots (s.listeners p.1) p.2

omit [ContextApi Ctx] in
lemma held_store_update {s : Sys E W Ctx} {e : E} {w : W} {v : TfWorld Ctx} {k : Slot}
    {x : Option SpanContext}
    (h : slots v.host.listener = Function.update (slots (s.listeners e)) k x) :
    held (s.store e w v) = Function.update (held s) (e, k) x := by
  funext ⟨e', k'⟩
  by_cases he : e' = e
  · subst he
    by_cases hk : k' = k
    · subst hk
      simp [held, Sys.store, h]
    · simp [held, Sys.store, h, hk]
  · simp [held, Sys.store, he]

omit [ContextApi Ctx] in
lemma held_store_same {s : Sys E W Ctx} {e : E} {w : W} {v : TfWorld Ctx}
    (h : slots v.host.listener = slots (s.listeners e)) : held (s.store e w v) = held s := by
  funext ⟨e', k'⟩
  by_cases he : e' = e
  · subst he
    simp [held, Sys.store, h]
  · simp [held, Sys.store, he]

/-- The spans the listeners hold, of all engines. -/
abbrev Held (s : Sys E W Ctx) : Prop := Holding (held s) s.calls

omit [DecidableEq E] [DecidableEq W] [ContextApi Ctx] in
lemma held_init (current : W → Ctx) : Held (Sys.init current : Sys E W Ctx) := by
  have hnone : ∀ k, slots (TraceListener.init : TraceListener Ctx) k = none := by
    rintro (_ | _) <;> rfl
  exact holding_nil fun p => hnone p.2

variable (graph) in
lemma held_step (s : Sys E W Ctx) (ev : Event E W Ctx) (h : Held s) : Held (step graph s ev) := by
  rcases ev with ⟨e, w, n⟩ | ⟨e, w, atom⟩ | w | ⟨w, c⟩
  · rw [step_notify]
    rcases react_moved (meaning n) (s.view graph e w) with
        ⟨hslots, hcalls⟩ | ⟨k, parent, name, attributes, hfree, hslots, hcalls⟩ |
        ⟨k, span, cs, hheld, hslots, hcalls, habout, hstarts, hends⟩
    · rw [Held, held_store_same hslots]
      exact (congrArg (Holding (held s)) hcalls).mpr h
    · rw [Held, held_store_update hslots]
      exact (congrArg (Holding _) hcalls).mpr (h.opens (k := (e, k)) hfree)
    · rw [Held, held_store_update hslots]
      exact (congrArg (Holding _) hcalls).mpr (h.closes (k := (e, k)) hheld habout hstarts hends)
  · rw [step_enter]
    exact h
  · rcases hf : s.frames w with _ | ⟨f, fs⟩
    · simpa [step, hf] using h
    · rw [step_exit s hf]
      exact h
  · exact h

end

end OtelOpenstack.Engines
