import OtelOpenstack.Hooks
import OtelOpenstack.Python
import OtelOpenstack.Runs

/-!
The entry points oslo.service propagation wraps: `install`, `uninstall`, and the instrumentor
that calls them, on a process where other packages wrap the same entry points.

Every layer is a `wrapt` proxy or a plain function. `unwrap` takes the outermost layer off an
entry point if it is a proxy.
-/

set_option autoImplicit false

namespace OtelOpenstack.ServiceHooks

open Effects Hooks Python

/-! ### Entry points -/

inductive Owner | thread | eventlet | greenPool | threadPoolExecutor | greenThreadPoolExecutor
  deriving DecidableEq

abbrev Target := Owner × String

inductive Wrapper
  | threadStart | threadRun
  | spawn (funcIndex : ℕ)
  deriving DecidableEq

/-- A layer on an entry point: one of this package, or another package's. -/
inductive Layer
  | own (wrapper : Wrapper)
  | other (id : ℕ) (isProxy : Bool)
  deriving DecidableEq

def Layer.isOwn : Layer → Bool
  | .own _ => true
  | .other _ _ => false

/-- `isinstance(func, ObjectProxy)`. -/
def Layer.isProxy : Layer → Bool
  | .own _ => true
  | .other _ isProxy => isProxy

lemma Layer.isProxy_of_isOwn : ∀ l : Layer, l.isOwn = true → l.isProxy = true := by
  rintro (_ | _) h
  · rfl
  · exact absurd h nofun

/-- Which of the packages with entry points to wrap are there. -/
structure Packages where
  eventlet : Bool
  threadPoolExecutor : Bool
  greenThreadPoolExecutor : Bool

def eventletSpawns (p : Packages) : List (Target × ℕ) :=
  if p.eventlet then
    [((.eventlet, "spawn"), 0), ((.eventlet, "spawn_n"), 0), ((.eventlet, "spawn_after"), 1),
      ((.greenPool, "spawn"), 0), ((.greenPool, "spawn_n"), 0)]
  else []

def futuristSubmits (p : Packages) : List (Target × ℕ) :=
  (if p.threadPoolExecutor then [((.threadPoolExecutor, "submit"), 0)] else []) ++
    (if p.greenThreadPoolExecutor then [((.greenThreadPoolExecutor, "submit"), 0)] else [])

/-- The layers `install` puts on, in order. -/
def layers (p : Packages) : List (Target × Layer) :=
  [((.thread, "start"), .own .threadStart), ((.thread, "run"), .own .threadRun)] ++
    (eventletSpawns p ++ futuristSubmits p).map fun spawn => (spawn.1, .own (.spawn spawn.2))

def targets (p : Packages) : List Target := (layers p).map Prod.fst

lemma targets_nodup (p : Packages) : (targets p).Nodup := by
  rcases p with ⟨_ | _, _ | _, _ | _⟩ <;> decide

lemma layers_isOwn (p : Packages) : ∀ q ∈ layers p, q.2.isOwn = true := by
  rcases p with ⟨_ | _, _ | _, _ | _⟩ <;> decide

lemma layers_isProxy (p : Packages) : ∀ q ∈ layers p, q.2.isProxy = true :=
  fun q hq => Layer.isProxy_of_isOwn _ (layers_isOwn p q hq)

/-! ### Installing -/

def install (fails : Target → Option Exn) (p : Packages) :
    Eff Exn (Table Target Layer) (List Target) := do
  let found ← putEach fails (layers p)
  pure (found.map Prod.fst)

def uninstall (wrapped : List Target) : Eff Exn (Table Target Layer) Unit :=
  modifies fun h => takeOffAll Layer.isProxy h wrapped

structure Process where
  hooks : Table Target Layer
  /-- `_wraps` -/
  wraps : List Target

def instrumentWith (fails : Target → Option Exn) (p : Packages) : Eff Exn Process Unit := fun s =>
  match install fails p s.hooks with
  | (.ok wraps, h) => (.ok (), ⟨h, wraps⟩)
  | (.error e, h) => (.error e, { s with hooks := h })

def uninstrumentWith : Eff Exn Process Unit := fun s =>
  match uninstall s.wraps s.hooks with
  | (.ok _, h) => (.ok (), ⟨h, []⟩)
  | (.error e, h) => (.error e, { s with hooks := h })

def instrument (fails : Target → Option Exn) (p : Packages) :
    Eff Exn (Instrumented Process) Unit :=
  switchOn (instrumentWith fails p)

def uninstrument : Eff Exn (Instrumented Process) Unit := switchOff uninstrumentWith

section

variable {p : Packages} {fails : Target → Option Exn}

lemma install_of_ok (hfails : ∀ q ∈ layers p, fails q.1 = none) (h : Table Target Layer) :
    install fails p h = (.ok (targets p), putAll h (layers p)) := by
  unfold install
  rw [bind_of_ok (putEach_of_ok hfails h), map_fst_foundEach]
  rfl

/-- Where wrapping an entry point raises, the ones before it stay wrapped. -/
lemma install_of_error {done rest : List (Target × Layer)} {q : Target × Layer} {e : Exn}
    (hlayers : layers p = done ++ q :: rest) (hdone : ∀ r ∈ done, fails r.1 = none)
    (hq : fails q.1 = some e) (h : Table Target Layer) :
    install fails p h = (.error e, putAll h done) := by
  unfold install
  rw [hlayers]
  exact bind_of_error (putEach_of_error hdone hq h)

lemma instrumentWith_of_ok (hfails : ∀ q ∈ layers p, fails q.1 = none) (s : Process) :
    instrumentWith fails p s = (.ok (), ⟨putAll s.hooks (layers p), targets p⟩) := by
  unfold instrumentWith
  rw [install_of_ok hfails]

lemma instrumentWith_of_error {done rest : List (Target × Layer)} {q : Target × Layer} {e : Exn}
    (hlayers : layers p = done ++ q :: rest) (hdone : ∀ r ∈ done, fails r.1 = none)
    (hq : fails q.1 = some e) (s : Process) :
    instrumentWith fails p s = (.error e, ⟨putAll s.hooks done, s.wraps⟩) := by
  unfold instrumentWith
  rw [install_of_error hlayers hdone hq]

lemma uninstrumentWith_apply (s : Process) :
    uninstrumentWith s = (.ok (), ⟨takeOffAll Layer.isProxy s.hooks s.wraps, []⟩) := rfl

end

/-! ### Among other packages -/

/-- The instrumentor is switched; another package puts a layer on an entry point, or the layer
at a place of one is taken out. -/
inductive Event
  | instrument (fails : Target → Option Exn)
  | uninstrument
  | add (t : Target) (id : ℕ) (isProxy : Bool)
  | remove (t : Target) (place : ℕ)

section

variable (p : Packages)

def step (s : Instrumented Process) : Event → Instrumented Process
  | .instrument fails => (instrument fails p s).2
  | .uninstrument => (uninstrument s).2
  | .add t id isProxy =>
    { s with process := { s.process with hooks := put s.process.hooks t (.other id isProxy) } }
  | .remove t place =>
    { s with
      process := { s.process with
        hooks := Function.update s.process.hooks t ((s.process.hooks t).eraseIdx place) } }

/-- No layer on the hooks, and the instrumentor off. -/
def bare : Instrumented Process := ⟨false, ⟨fun _ => [], []⟩⟩

/-- While the instrumentor is on it knows its targets, and there are none of its layers
elsewhere. -/
structure Inv (s : Instrumented Process) : Prop where
  wraps : s.on = true → s.process.wraps = targets p
  home : ∀ t, t ∉ targets p → ∀ l ∈ s.process.hooks t, l.isOwn = false

variable {p}

lemma inv_bare : Inv p bare := ⟨nofun, fun _ _ _ h => absurd h nofun⟩

/-- Switched on, the instrumentor puts its layers on and knows its targets; where wrapping an
entry point raises it stays off, and the layers before that one are on. -/
lemma step_instrument (s : Instrumented Process) (hoff : s.on = false)
    (fails : Target → Option Exn) :
    step p s (.instrument fails) = ⟨true, ⟨putAll s.process.hooks (layers p), targets p⟩⟩ ∨
      ∃ done, (∀ q ∈ done, q ∈ layers p) ∧
        step p s (.instrument fails) = ⟨false, ⟨putAll s.process.hooks done, s.process.wraps⟩⟩ := by
  obtain ⟨on, process⟩ := s
  obtain rfl : on = false := hoff
  rcases first_failure fails (layers p) with hall | ⟨done, q, rest, e, hlayers, hdone, hq⟩
  · have hok := instrumentWith_of_ok hall process
    left
    simp only [step, instrument, switchOn_of_ok hok]
  · have herr := instrumentWith_of_error hlayers hdone hq process
    refine Or.inr ⟨done, fun r hr => ?_, ?_⟩
    · rw [hlayers]
      exact List.mem_append_left _ hr
    · simp only [step, instrument, switchOn_of_error herr]

lemma step_uninstrument (s : Instrumented Process) (hon : s.on = true) :
    step p s .uninstrument =
      ⟨false, ⟨takeOffAll Layer.isProxy s.process.hooks s.process.wraps, []⟩⟩ := by
  obtain ⟨on, process⟩ := s
  obtain rfl : on = true := hon
  simp only [step, uninstrument, switchOff_of_ok (uninstrumentWith_apply process)]

lemma inv_step (s : Instrumented Process) (e : Event) (h : Inv p s) : Inv p (step p s e) := by
  have hput : ∀ ps : List (Target × Layer), (∀ q ∈ ps, q ∈ layers p) → ∀ t, t ∉ targets p →
      putAll s.process.hooks ps t = s.process.hooks t := by
    intro ps hps t ht
    have hnot : t ∉ ps.map Prod.fst := by
      intro hmem
      obtain ⟨q, hq, rfl⟩ := List.mem_map.mp hmem
      exact ht (List.mem_map_of_mem (hps q hq))
    rw [putAll_apply, layersOn_of_not_mem hnot]
    rfl
  cases e with
  | instrument fails =>
    rcases hon : s.on with _ | _
    · rcases step_instrument s hon fails with hstep | ⟨done, hdone, hstep⟩
      · rw [hstep]
        refine ⟨fun _ => rfl, fun t ht l hl => h.home t ht l ?_⟩
        exact hput _ (fun _ hq => hq) t ht ▸ hl
      · rw [hstep]
        refine ⟨fun hoff => absurd hoff Bool.false_ne_true, fun t ht l hl => h.home t ht l ?_⟩
        exact hput done hdone t ht ▸ hl
    · have hsame : step p s (.instrument fails) = s := by simp [step, instrument, switchOn, hon]
      rw [hsame]
      exact h
  | uninstrument =>
    rcases hon : s.on with _ | _
    · have hsame : step p s .uninstrument = s := by simp [step, uninstrument, switchOff, hon]
      rw [hsame]
      exact h
    · rw [step_uninstrument s hon, h.wraps hon]
      refine ⟨fun hoff => absurd hoff Bool.false_ne_true, fun t ht l hl => h.home t ht l ?_⟩
      exact takeOffAll_of_not_mem Layer.isProxy s.process.hooks ht ▸ hl
  | add t id isProxy =>
    refine ⟨h.wraps, fun u hu l hl => ?_⟩
    simp only [step, put] at hl
    by_cases hut : u = t
    · subst hut
      rw [Function.update_self] at hl
      rcases List.mem_cons.mp hl with rfl | hmem
      · rfl
      · exact h.home u hu l hmem
    · rw [Function.update_of_ne hut] at hl
      exact h.home u hu l hl
  | remove t place =>
    refine ⟨h.wraps, fun u hu l hl => ?_⟩
    simp only [step] at hl
    by_cases hut : u = t
    · subst hut
      rw [Function.update_self] at hl
      exact h.home u hu l (List.mem_of_mem_eraseIdx hl)
    · rw [Function.update_of_ne hut] at hl
      exact h.home u hu l hl

lemma inv_run (es : List Event) : Inv p (Runs.run (step p) bare es) :=
  Runs.inv_of_run inv_step inv_bare es

variable (p) in
/-- Uninstrumenting takes the package's own layers off every hook, and no others. -/
def UndoesOwn (s : Instrumented Process) : Prop :=
  ∀ t, (step p s .uninstrument).process.hooks t = others Layer.isOwn (s.process.hooks t)

variable (p) in
/-- On every target the package's layer is the outermost and its only one, or there is none of
it and nothing to peel. -/
def OwnOutermost (s : Instrumented Process) : Prop :=
  ∀ t ∈ targets p, Outermost Layer.isProxy Layer.isOwn (s.process.hooks t)

lemma undoesOwn_iff {s : Instrumented Process} (h : Inv p s) (hon : s.on = true) :
    UndoesOwn p s ↔ OwnOutermost p s := by
  have hpeel := peel_eq_others_iff Layer.isProxy_of_isOwn
  have hafter : (step p s .uninstrument).process.hooks =
      takeOffAll Layer.isProxy s.process.hooks (targets p) := by
    rw [step_uninstrument s hon, h.wraps hon]
  unfold UndoesOwn OwnOutermost
  rw [hafter]
  constructor
  · intro hundo t ht
    have hundone := hundo t
    rw [takeOffAll_of_mem _ (targets_nodup p) _ ht] at hundone
    exact (hpeel _).mp hundone
  · intro hout t
    by_cases ht : t ∈ targets p
    · rw [takeOffAll_of_mem _ (targets_nodup p) _ ht]
      exact (hpeel _).mpr (hout t ht)
    · rw [takeOffAll_of_not_mem _ _ ht]
      exact (others_eq_self.mpr (h.home t ht)).symm

end

end OtelOpenstack.ServiceHooks
