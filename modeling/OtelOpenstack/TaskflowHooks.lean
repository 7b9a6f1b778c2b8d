import OtelOpenstack.Hooks
import OtelOpenstack.Listener

/-!
TaskFlow instrumentation: the executor functions that run atom bodies, and `Engine.__init__`.

A function is the list of its layers, the outermost first, over the original one.
-/

set_option autoImplicit false

namespace OtelOpenstack.TaskflowHooks

open Effects Hooks Python Otel Listener

/-- A layer on a function of TaskFlow: the package's, or one that was there. -/
inductive Layer
  | traced
  | other (id : ℕ)
  deriving DecidableEq

/-- `_ATOM_BODY_FUNCTIONS` -/
def atomBodyFunctions : List String :=
  ["_execute_task", "_revert_task", "_execute_retry", "_revert_retry"]

/-- The layers `patch_atom_bodies` puts on, in order. -/
def bodyLayers : List (String × Layer) := atomBodyFunctions.map fun name => (name, .traced)

/-- The functions and what they were. -/
abbrev Originals := List (String × List Layer)

def patchAtomBodies (fails : String → Option Exn) : Eff Exn (Table String Layer) Originals :=
  putEach fails bodyLayers

def unpatchAtomBodies (originals : Originals) : Eff Exn (Table String Layer) Unit :=
  modifies fun h => putBack h originals

structure Process where
  bodies : Table String Layer
  /-- `Engine.__init__` -/
  engineInit : List Layer
  /-- `_original_engine_init` -/
  originalEngineInit : Option (List Layer)
  /-- `_original_atom_bodies` -/
  originalAtomBodies : Option Originals

/-- Where `_instrument` may raise: before it has changed anything, or at one of the functions. -/
structure Failures where
  early : Option Exn
  body : String → Option Exn

def noFailures : Failures := ⟨none, fun _ => none⟩

/-- A computation on the executor functions, as one on the process. -/
def onBodies {α : Type} (m : Eff Exn (Table String Layer) α) : Eff Exn Process α := fun p =>
  match m p.bodies with
  | (r, bodies) => (r, { p with bodies })

/-- `TaskflowInstrumentor._instrument`. -/
def instrumentWith (fails : Failures) : Eff Exn Process Unit := do
  let p ← reads id
  if p.originalEngineInit.isSome then
    pure ()
  else do
    match fails.early with
    | some e => raise e
    | none => pure ()
    let originals ← onBodies (patchAtomBodies fails.body)
    modifies fun p =>
      { p with
        originalAtomBodies := some originals
        originalEngineInit := some p.engineInit
        engineInit := .traced :: p.engineInit }

/-- `None.items()` -/
def noItems : Exn := exn "AttributeError" "'NoneType' object has no attribute 'items'"

/-- `TaskflowInstrumentor._uninstrument`. -/
def uninstrumentWith : Eff Exn Process Unit := do
  let p ← reads id
  match p.originalEngineInit with
  | none => pure ()
  | some original => do
    modifies fun p => { p with engineInit := original, originalEngineInit := none }
    match p.originalAtomBodies with
    | none => raise noItems
    | some originals => onBodies (unpatchAtomBodies originals)
    modifies fun p => { p with originalAtomBodies := none }

def instrument (fails : Failures) : Eff Exn (Instrumented Process) Unit :=
  switchOn (instrumentWith fails)

def uninstrument : Eff Exn (Instrumented Process) Unit := switchOff uninstrumentWith

/-! ### What they do -/

lemma bodyLayers_nodup : (bodyLayers.map Prod.fst).Nodup := by decide

section

variable {fails : Failures} {p : Process}

/-- Patched: one more layer on every function, and on `Engine.__init__`. -/
def patched (p : Process) : Process where
  bodies := putAll p.bodies bodyLayers
  engineInit := .traced :: p.engineInit
  originalEngineInit := some p.engineInit
  originalAtomBodies := some (bodyLayers.map fun q => (q.1, p.bodies q.1))

lemma patchAtomBodies_of_ok {fails : String → Option Exn}
    (hfails : ∀ q ∈ bodyLayers, fails q.1 = none) (h : Table String Layer) :
    patchAtomBodies fails h =
      (.ok (bodyLayers.map fun q => (q.1, h q.1)), putAll h bodyLayers) := by
  rw [patchAtomBodies, putEach_of_ok hfails, foundEach_of_nodup bodyLayers_nodup]

/-- Where a function is missing, the ones before it stay patched. -/
lemma patchAtomBodies_of_error {fails : String → Option Exn} {done rest : List (String × Layer)}
    {q : String × Layer} {e : Exn} (hlayers : bodyLayers = done ++ q :: rest)
    (hdone : ∀ r ∈ done, fails r.1 = none) (hq : fails q.1 = some e) (h : Table String Layer) :
    patchAtomBodies fails h = (.error e, putAll h done) := by
  rw [patchAtomBodies, hlayers]
  exact putEach_of_error hdone hq h

lemma instrumentWith_of_ok (hp : p.originalEngineInit = none) (hearly : fails.early = none)
    (hfails : ∀ q ∈ bodyLayers, fails.body q.1 = none) :
    instrumentWith fails p = (.ok (), patched p) := by
  simp [instrumentWith, bind_apply, hp, hearly, onBodies, patchAtomBodies_of_ok hfails, patched]

lemma instrumentWith_of_early (hp : p.originalEngineInit = none) {e : Exn}
    (hearly : fails.early = some e) : instrumentWith fails p = (.error e, p) := by
  simp [instrumentWith, bind_apply, hp, hearly]

lemma instrumentWith_of_error (hp : p.originalEngineInit = none) (hearly : fails.early = none)
    {done rest : List (String × Layer)} {q : String × Layer} {e : Exn}
    (hlayers : bodyLayers = done ++ q :: rest) (hdone : ∀ r ∈ done, fails.body r.1 = none)
    (hq : fails.body q.1 = some e) :
    instrumentWith fails p = (.error e, { p with bodies := putAll p.bodies done }) := by
  simp [instrumentWith, bind_apply, hp, hearly, onBodies,
    patchAtomBodies_of_error hlayers hdone hq]

/-- Unpatching puts back what was found. -/
lemma uninstrumentWith_of_some {original : List Layer} {originals : Originals}
    (hp : p.originalEngineInit = some original) (hbodies : p.originalAtomBodies = some originals) :
    uninstrumentWith p = (.ok (),
      { bodies := putBack p.bodies originals
        engineInit := original
        originalEngineInit := none
        originalAtomBodies := none }) := by
  simp [uninstrumentWith, bind_apply, hp, hbodies, onBodies, unpatchAtomBodies]

/-- Unpatched again, everything is as it was. -/
lemma uninstrumentWith_patched (hp : p.originalEngineInit = none) :
    uninstrumentWith (patched p) = (.ok (), { p with originalAtomBodies := none }) := by
  rw [uninstrumentWith_of_some (p := patched p) rfl rfl, patched,
    putBack_putAll bodyLayers_nodup p.bodies, ← hp]

end

end OtelOpenstack.TaskflowHooks
