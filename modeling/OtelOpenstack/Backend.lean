import OtelOpenstack.Eventlet
import OtelOpenstack.ServiceHooks

/-!
Selecting the backend of oslo.service: by the hook that runs before any instrumentor is loaded,
and when the instrumentor is switched on, in a process whose other code may have chosen one.

`oslo_service.backend` is a parameter, and absent where oslo.service is too old.
-/

set_option autoImplicit false

namespace OtelOpenstack.Backend

open Effects Eventlet Hooks Python Runs

inductive BackendType | threading | eventlet
  deriving DecidableEq

/-- `oslo_service.backend`. -/
structure Backends (H : Type) where
  getBackendType : H → Option BackendType
  initBackend : BackendType → Eff Exn (Process H) Unit

def backendByName : List (String × BackendType) :=
  [("threading", .threading), ("eventlet", .eventlet)]

section

variable {H α : Type}

/-- `requested or environ.get(OTEL_PYTHON_OSLO_SERVICE_BACKEND, "threading")`. -/
def backendName (requested : Option String) (p : Process H) : String :=
  let named := requested.getD ""
  if named = "" then (p.environ "OTEL_PYTHON_OSLO_SERVICE_BACKEND").getD "threading" else named

/-- `_select_backend`. -/
def selectBackend (backends : Option (Backends H)) (requested : Option String) :
    Eff Exn (Process H) Unit :=
  match backends with
  | none => pure ()
  | some b => do
    let name ← reads (backendName requested)
    match backendByName.lookup name with
    | none => pure ()
    | some type => do
      let current ← reads fun p => b.getBackendType p.host
      match current with
      | some _ => pure ()
      | none =>
        tryExcept (b.initBackend type) fun e => if e.isException then pure () else raise e

def preInstrument (backends : Option (Backends H)) : Eff Exn (Process H) Unit :=
  selectBackend backends none

/-! ### The instrumentor -/

/-- A process, and the entry points the instrumentor wraps in it. -/
structure Machine (H : Type) where
  process : Process H
  service : ServiceHooks.Process

def inProcess (m : Eff Exn (Process H) α) : Eff Exn (Machine H) α := fun s =>
  let out := m s.process
  (out.1, { s with process := out.2 })

def inService (m : Eff Exn ServiceHooks.Process α) : Eff Exn (Machine H) α := fun s =>
  let out := m s.service
  (out.1, { s with service := out.2 })

variable (backends : Option (Backends H)) (p : ServiceHooks.Packages)

/-- `OsloServiceInstrumentor._instrument`. -/
def instrumentWith (fails : ServiceHooks.Target → Option Exn) (backend : Option String) :
    Eff Exn (Machine H) Unit := do
  inProcess (selectBackend backends backend)
  inService (ServiceHooks.instrumentWith fails p)

def instrument (fails : ServiceHooks.Target → Option Exn) (backend : Option String) :
    Eff Exn (Instrumented (Machine H)) Unit :=
  switchOn (instrumentWith backends p fails backend)

def uninstrument : Eff Exn (Instrumented (Machine H)) Unit :=
  switchOff (inService ServiceHooks.uninstrumentWith)

/-- The hook runs, the instrumentor is switched, or any other code of the process runs. -/
inductive Event (H : Type)
  | preInstrument
  | instrument (fails : ServiceHooks.Target → Option Exn) (backend : Option String)
  | uninstrument
  | code (m : Eff Exn (Process H) Unit)

def step (s : Instrumented (Machine H)) : Event H → Instrumented (Machine H)
  | .preInstrument => { s with process := (inProcess (preInstrument backends) s.process).2 }
  | .instrument fails backend => (instrument backends p fails backend s).2
  | .uninstrument => (uninstrument s).2
  | .code m => { s with process := (inProcess m s.process).2 }

end

/-! ### What is selected -/

section

variable {H : Type} {b : Backends H} {requested : Option String} {q : Process H}

/-- The backend asked for. -/
def asked (requested : Option String) (q : Process H) : Option BackendType :=
  backendByName.lookup (backendName requested q)

/-- A backend that is chosen is left alone, and so is one whose name is not known. -/
lemma selectBackend_leaves (h : asked requested q = none ∨ b.getBackendType q.host ≠ none) :
    selectBackend (some b) requested q = (.ok (), q) := by
  unfold selectBackend
  dsimp only
  rw [bind_of_ok (reads_apply _ q)]
  cases hasked : backendByName.lookup (backendName requested q) with
  | none => rfl
  | some type =>
    dsimp only
    rw [bind_of_ok (reads_apply _ q)]
    cases hchosen : b.getBackendType q.host with
    | some _ => rfl
    | none =>
      rcases h with h | h
      · exact absurd (hasked.symm.trans h) nofun
      · exact absurd hchosen h

/-- Where none is chosen the one asked for is initialized, and a failure to is passed over. -/
lemma selectBackend_initializes {type : BackendType} (hasked : asked requested q = some type)
    (hnone : b.getBackendType q.host = none) :
    (selectBackend (some b) requested q).2 = (b.initBackend type q).2 ∧
      ∀ e, (selectBackend (some b) requested q).1 = .error e → e.isException = false := by
  have hselect : selectBackend (some b) requested q =
      tryExcept (b.initBackend type) (fun e => if e.isException then pure () else raise e) q := by
    unfold selectBackend
    dsimp only
    rw [bind_of_ok (reads_apply _ q)]
    change (match asked requested q with
      | none => pure ()
      | some type => _ : Eff Exn (Process H) Unit) q = _
    rw [hasked]
    dsimp only
    rw [bind_of_ok (reads_apply _ q), hnone]
  rw [hselect]
  rcases hinit : b.initBackend type q with ⟨e | u, r⟩
  · rw [tryExcept_of_error hinit]
    cases hexc : e.isException with
    | true => exact ⟨rfl, nofun⟩
    | false =>
      refine ⟨rfl, ?_⟩
      rintro e' ⟨⟩
      exact hexc
  · rw [tryExcept_of_ok hinit]
    exact ⟨rfl, nofun⟩

/-- Initializing a backend where none is chosen chooses that one, or none. -/
def Backends.Lawful (b : Backends H) : Prop :=
  ∀ type q v, b.getBackendType q.host = none →
    b.getBackendType (b.initBackend type q).2.host = some v → v = type

/-- Asked for so, the backend `v` is chosen. -/
def Selects (b : Backends H) (requested : Option String) (q : Process H) (v : BackendType) : Prop :=
  asked requested q = some v ∧ b.getBackendType (b.initBackend v q).2.host = some v

lemma selects_iff (hb : b.Lawful) (hnone : b.getBackendType q.host = none) {v : BackendType} :
    b.getBackendType (selectBackend (some b) requested q).2.host = some v ↔
      Selects b requested q v := by
  cases hasked : asked requested q with
  | none =>
    rw [selectBackend_leaves (Or.inl hasked)]
    simp [Selects, hasked, hnone]
  | some type =>
    rw [(selectBackend_initializes hasked hnone).1]
    simp only [Selects, hasked, Option.some.injEq]
    constructor
    · intro h
      obtain rfl := hb type q v hnone h
      exact ⟨rfl, h⟩
    · rintro ⟨rfl, h⟩
      exact h

end

/-! ### Runs -/

section

variable {H : Type} (b : Backends H) (p : ServiceHooks.Packages)

/-- The backend of a process. -/
def chosen (s : Instrumented (Machine H)) : Option BackendType :=
  b.getBackendType s.process.process.host

/-- Other code leaves a backend that is chosen. -/
def Keeping (s : Instrumented (Machine H)) : Event H → Prop
  | .code m => ∀ v, chosen b s = some v →
    b.getBackendType (m s.process.process).2.host = some v
  | _ => True

/-- Where none is chosen, the event chooses `v`. -/
def Chooses (s : Instrumented (Machine H)) (v : BackendType) : Event H → Prop
  | .preInstrument => Selects b none s.process.process v
  | .instrument _ backend => s.on = false ∧ Selects b backend s.process.process v
  | .uninstrument => False
  | .code m => b.getBackendType (m s.process.process).2.host = some v

/-- Switching the instrumentor on selects a backend, if it was off. -/
lemma step_instrument (s : Instrumented (Machine H)) (fails : ServiceHooks.Target → Option Exn)
    (backend : Option String) :
    (step (some b) p s (.instrument fails backend)).process.process =
      if s.on then s.process.process
      else (selectBackend (some b) backend s.process.process).2 := by
  obtain ⟨on, machine⟩ := s
  cases on with
  | true => rfl
  | false =>
    have hwith : (instrumentWith (some b) p fails backend machine).2.process =
        (selectBackend (some b) backend machine.process).2 := by
      unfold instrumentWith
      rw [bind_apply]
      rcases hselect : selectBackend (some b) backend machine.process with ⟨e | u, q⟩
      · simp [inProcess, hselect]
      · simp [inProcess, inService, hselect]
    simp only [step, instrument, switchOn]
    rcases hout : instrumentWith (some b) p fails backend machine with ⟨e | u, t⟩ <;>
      rw [hout] at hwith <;> exact hwith

lemma step_uninstrument (s : Instrumented (Machine H)) :
    (step (some b) p s .uninstrument).process.process = s.process.process := by
  obtain ⟨on, machine⟩ := s
  cases on with
  | false => rfl
  | true => rfl

lemma writtenOnce : WrittenOnce (Keeping b) (step (some b) p) (chosen b) := by
  intro s e v hok hv
  have hleaves (requested : Option String) :
      (selectBackend (some b) requested s.process.process).2 = s.process.process := by
    have hchosen : b.getBackendType s.process.process.host ≠ none := by
      intro hnone
      exact absurd (hv.symm.trans hnone) nofun
    rw [selectBackend_leaves (Or.inr hchosen)]
  unfold chosen at hv ⊢
  cases e with
  | preInstrument => exact (congrArg (b.getBackendType ∘ Process.host) (hleaves none)).trans hv
  | instrument fails backend =>
    rw [step_instrument, hleaves, ite_self]
    exact hv
  | uninstrument =>
    rw [step_uninstrument]
    exact hv
  | code m => exact hok v hv

lemma chooses_iff (hb : b.Lawful) {s : Instrumented (Machine H)} (hs : chosen b s = none)
    (e : Event H) (v : BackendType) :
    chosen b (step (some b) p s e) = some v ↔ Chooses b s v e := by
  unfold chosen at hs ⊢
  cases e with
  | preInstrument => exact selects_iff hb hs
  | instrument fails backend =>
    rw [step_instrument]
    unfold Chooses
    cases s.on with
    | true => simp [hs]
    | false => simpa using selects_iff hb hs
  | uninstrument =>
    rw [step_uninstrument, hs]
    exact ⟨nofun, False.elim⟩
  | code m => exact Iff.rfl

/-- **The first choice.** Over every run of the hook, the instrumentor and the other code of a
process, which leaves a chosen backend as it is: the backend in the end is the one chosen by the
first event that chooses any. -/
theorem first_choice (hb : b.Lawful) {s : Instrumented (Machine H)} (hs : chosen b s = none)
    {es : List (Event H)} (hl : Legal (Keeping b) (step (some b) p) s es) (v : BackendType) :
    chosen b (run (step (some b) p) s es) = some v ↔ ∃ pre e post, es = pre ++ e :: post ∧
      chosen b (run (step (some b) p) s pre) = none ∧
      Chooses b (run (step (some b) p) s pre) v e := by
  rw [(writtenOnce b p).iff_first hs hl]
  constructor
  · rintro ⟨pre, e, post, hes, hpre, he⟩
    exact ⟨pre, e, post, hes, hpre, (chooses_iff b p hb hpre e v).mp he⟩
  · rintro ⟨pre, e, post, hes, hpre, he⟩
    exact ⟨pre, e, post, hes, hpre, (chooses_iff b p hb hpre e v).mpr he⟩

end

/-! ### The hook before any library -/

/-- The backends of oslo.service: a second one is refused. -/
def cached : Backends (Option BackendType) where
  getBackendType := id
  initBackend type := fun q => match q.host with
    | none => (.ok (), { q with host := some type })
    | some _ => (.error (exn "BackendAlreadySelected" ""), q)

/-- A library whose import resolves the backend to its default. -/
def importsLibrary : Eff Exn (Process (Option BackendType)) Unit :=
  modifies fun q => { q with host := some (q.host.getD .eventlet) }

def unset : Instrumented (Machine (Option BackendType)) :=
  ⟨false, ⟨⟨fun _ => none, false, 0, fun _ _ => none, none⟩, ⟨fun _ => [], []⟩⟩⟩

/-- The hook, an import, and the instrumentor asked for another backend. -/
def autoInstrumented : List (Event (Option BackendType)) :=
  [.preInstrument, .code importsLibrary, .instrument (fun _ => none) (some "eventlet")]

def allPackages : ServiceHooks.Packages := ⟨true, true, true⟩

theorem first_choice_threading :
    chosen cached (run (step (some cached) allPackages) unset autoInstrumented) =
      some .threading := by
  have hlawful : cached.Lawful := by
    intro type q v hnone hv
    simp only [cached, id_eq] at hnone hv
    rw [hnone] at hv
    exact (Option.some.inj hv).symm
  have hl : Legal (Keeping cached) (step (some cached) allPackages) unset autoInstrumented := by
    refine ⟨trivial, fun v hv => ?_, trivial, trivial⟩
    exact congrArg (fun h => some (Option.getD h BackendType.eventlet)) hv
  refine (first_choice cached allPackages hlawful rfl hl .threading).mpr ?_
  exact ⟨[], .preInstrument, _, rfl, rfl, rfl, rfl⟩

end OtelOpenstack.Backend
