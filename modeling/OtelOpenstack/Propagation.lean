import OtelOpenstack.Otel

/-!
Carrying the context across spawned work and threads.

Two shapes of wrapper: a spawn replaces the callable it is given by one that remembers the
context of the call and runs under it, and a thread remembers the context of its start and
attaches it around its run.
-/

set_option autoImplicit false

namespace OtelOpenstack.Propagation

open Effects Python Otel ContextApi

/-- A callable: one of the program's own, or a `traced` closure, with the number of the
closures made before it. -/
inductive Fn (Ctx : Type)
  | own (id : ℕ)
  | traced (ref : ℕ) (captured : Ctx) (func : Fn Ctx)

inductive Arg (Ctx : Type)
  | fn (f : Fn Ctx)
  | val (v : Val)

abbrev Args (Ctx : Type) := List (Arg Ctx)

abbrev Kwargs (Ctx : Type) := List (String × Arg Ctx)

/-- A call of a callable: the closure that made it, if one did, and the context it found. -/
structure Begun (Ctx : Type) where
  via : Option ℕ
  func : Fn Ctx
  args : Args Ctx
  kwargs : Kwargs Ctx
  current : Ctx

/-- What the wrappers reach: the closures made so far, the calls of original entry points and
of callables, and the context attribute of every thread object. -/
structure Host (T Ctx : Type) where
  made : List (Fn Ctx)
  received : List (Args Ctx × Kwargs Ctx)
  begun : List (Begun Ctx)
  contextAttr : T → Option Ctx

section

variable {T Ctx α : Type}

abbrev SpawnCode (T Ctx : Type) : Type → Type := Code Ctx (Host T Ctx)

/-- The closure `traced` around `func`. -/
def makeTraced (captured : Ctx) (func : Fn Ctx) : SpawnCode T Ctx (Fn Ctx) := fun w =>
  let f := .traced w.host.made.length captured func
  (.ok f, { w with host := { w.host with made := w.host.made ++ [f] } })

def noteBegun (via : Option ℕ) (func : Fn Ctx) (args : Args Ctx) (kwargs : Kwargs Ctx) :
    SpawnCode T Ctx Unit :=
  modifies fun w =>
    { w with
      host := { w.host with begun := w.host.begun ++ [⟨via, func, args, kwargs, w.current⟩] } }

/-- A call of a callable; `body` is what the program's own ones do. -/
def call (body : ℕ → Args Ctx → Kwargs Ctx → SpawnCode T Ctx α) (via : Option ℕ) :
    Fn Ctx → Args Ctx → Kwargs Ctx → SpawnCode T Ctx α
  | .own id, args, kwargs => do
    noteBegun via (.own id) args kwargs
    body id args kwargs
  | .traced ref captured func, args, kwargs => do
    noteBegun via (.traced ref captured func) args kwargs
    let token ← attach captured
    tryFinally (call body (some ref) func args kwargs) (detach token)

def spawnWrapper [ContextApi Ctx] (funcIndex : ℕ)
    (wrapped : Args Ctx → Kwargs Ctx → SpawnCode T Ctx α) (args : Args Ctx)
    (kwargs : Kwargs Ctx) : SpawnCode T Ctx α := do
  let c ← getCurrent
  if !enabled c || args.length ≤ funcIndex then
    wrapped args kwargs
  else match args[funcIndex]? with
    | some (.fn func) => do
      let captured ← getCurrent
      let traced ← makeTraced captured func
      wrapped (args.take funcIndex ++ [.fn traced] ++ args.drop (funcIndex + 1)) kwargs
    | _ => wrapped args kwargs

def setContextAttr [DecidableEq T] (thread : T) (c : Ctx) : SpawnCode T Ctx Unit :=
  modifies fun w =>
    { w with
      host := { w.host with
        contextAttr := Function.update w.host.contextAttr thread (some c) } }

def wrapThreadStart [DecidableEq T] (wrapped : SpawnCode T Ctx α) (thread : T) :
    SpawnCode T Ctx α := do
  let c ← getCurrent
  setContextAttr thread c
  wrapped

def wrapThreadRun (wrapped : SpawnCode T Ctx α) (thread : T) : SpawnCode T Ctx α := do
  let captured ← reads fun w => w.host.contextAttr thread
  match captured with
  | none => wrapped
  | some c => do
    let token ← attach c
    tryFinally wrapped (detach token)

/-- A spawn of a callable, with instrumentation enabled: the original entry point is called
with a new closure in the callable's place. -/
lemma spawnWrapper_apply [ContextApi Ctx] {funcIndex : ℕ} {args : Args Ctx} {func : Fn Ctx}
    {w : World Ctx (Host T Ctx)} (hon : enabled w.current = true)
    (hfunc : args[funcIndex]? = some (.fn func))
    (wrapped : Args Ctx → Kwargs Ctx → SpawnCode T Ctx α) (kwargs : Kwargs Ctx) :
    let closure := Fn.traced w.host.made.length w.current func
    spawnWrapper funcIndex wrapped args kwargs w =
      wrapped (args.set funcIndex (.fn closure)) kwargs
        { w with host := { w.host with made := w.host.made ++ [closure] } } := by
  intro closure
  have hlt : funcIndex < args.length := (List.getElem?_eq_some_iff.mp hfunc).1
  have hle : ¬ args.length ≤ funcIndex := by omega
  have hplace : args.set funcIndex (.fn closure) =
      args.take funcIndex ++ [.fn closure] ++ args.drop (funcIndex + 1) := by
    rw [List.set_eq_take_append_cons_drop, if_pos hlt, List.append_assoc]
    rfl
  unfold spawnWrapper
  rw [hplace, bind_of_ok (getCurrent_apply w), hon, hfunc]
  simp only [Bool.not_true, Bool.false_or, decide_eq_true_eq, if_neg hle]
  rfl

/-! ### Calls from both ends -/

/-- A call up to the program's own callable; the tokens, innermost first. -/
def enterCall (via : Option ℕ) :
    Fn Ctx → Args Ctx → Kwargs Ctx → SpawnCode T Ctx (List (Token Ctx))
  | .own id, args, kwargs => do
    noteBegun via (.own id) args kwargs
    pure []
  | .traced ref captured func, args, kwargs => do
    noteBegun via (.traced ref captured func) args kwargs
    let token ← attach captured
    let tokens ← enterCall (some ref) func args kwargs
    pure (tokens ++ [token])

/-- The way out of a call, whether the program's own callable returned or raised. -/
def exitCall : List (Token Ctx) → SpawnCode T Ctx Unit
  | [] => pure ()
  | token :: tokens => do
    detach token
    exitCall tokens

/-- The program's own callable a call ends up in. -/
def Fn.own_id : Fn Ctx → ℕ
  | .own id => id
  | .traced _ _ func => func.own_id

/-- The calls a call of `f` makes, from the context `c`. -/
def Fn.calls (args : Args Ctx) (kwargs : Kwargs Ctx) :
    Option ℕ → Ctx → Fn Ctx → List (Begun Ctx)
  | via, c, .own id => [⟨via, .own id, args, kwargs, c⟩]
  | via, c, .traced ref captured func =>
    ⟨via, .traced ref captured func, args, kwargs, c⟩ ::
      func.calls args kwargs (some ref) captured

/-- The context the program's own callable finds. -/
def Fn.inside (c : Ctx) : Fn Ctx → Ctx
  | .own _ => c
  | .traced _ captured func => func.inside captured

def Fn.tokens (c : Ctx) : Fn Ctx → List (Token Ctx)
  | .own _ => []
  | .traced _ captured func => func.tokens captured ++ [⟨c⟩]

abbrev SpawnWorld (T Ctx : Type) := World Ctx (Host T Ctx)

lemma enterCall_apply (via : Option ℕ) (f : Fn Ctx) (args : Args Ctx) (kwargs : Kwargs Ctx)
    (w : SpawnWorld T Ctx) :
    enterCall via f args kwargs w =
      (.ok (f.tokens w.current),
        { w with
          current := f.inside w.current
          host := { w.host with
            begun := w.host.begun ++ f.calls args kwargs via w.current } }) := by
  induction f generalizing via w with
  | own id => rfl
  | traced ref captured func ih =>
    simp [enterCall, noteBegun, bind_apply, ih, Fn.tokens, Fn.inside, Fn.calls]

lemma exitCall_append (ts : List (Token Ctx)) (token : Token Ctx) (w : SpawnWorld T Ctx) :
    exitCall (ts ++ [token]) w = (.ok (), { w with current := token.old }) := by
  induction ts generalizing w with
  | nil => simp [exitCall, bind_apply]
  | cons t ts ih => simp [exitCall, bind_apply, ih]

lemma exitCall_ok (ts : List (Token Ctx)) (w : SpawnWorld T Ctx) :
    exitCall ts w = (.ok (), (exitCall ts w).2) := by
  induction ts generalizing w with
  | nil => rfl
  | cons t ts ih =>
    simp only [exitCall, bind_apply, detach_apply]
    exact ih _

/-- `try`/`finally` around `try`/`finally`: one after the other. -/
lemma tryFinally_detach (m : SpawnCode T Ctx α) (ts : List (Token Ctx)) (token : Token Ctx) :
    tryFinally (tryFinally m (exitCall ts)) (detach token) =
      tryFinally m (exitCall (ts ++ [token])) := by
  funext w
  have hboth : ∀ v : SpawnWorld T Ctx,
      exitCall (ts ++ [token]) v = detach token (exitCall ts v).2 := by
    intro v
    induction ts generalizing v with
    | nil => simp [exitCall, bind_apply]
    | cons t ts ih => simpa [exitCall, bind_apply] using ih _
  unfold Effects.tryFinally
  rcases m w with ⟨r, v⟩
  simp only [hboth v]
  rw [exitCall_ok ts v]

/-- **The ends are the call.** -/
theorem call_eq (body : ℕ → Args Ctx → Kwargs Ctx → SpawnCode T Ctx α) (via : Option ℕ)
    (f : Fn Ctx) (args : Args Ctx) (kwargs : Kwargs Ctx) :
    call body via f args kwargs = (do
      let tokens ← enterCall via f args kwargs
      tryFinally (body f.own_id args kwargs) (exitCall tokens)) := by
  induction f generalizing via with
  | own id =>
    funext w
    simp [call, enterCall, noteBegun, bind_apply, exitCall, Fn.own_id]
  | traced ref captured func ih =>
    funext w
    simp only [call, ih, enterCall, bind_apply, noteBegun, modifies_apply, attach_apply,
      enterCall_apply, pure_apply, ← tryFinally_detach, Fn.own_id]
    simp only [Effects.tryFinally, bind_apply, enterCall_apply]

end

end OtelOpenstack.Propagation
