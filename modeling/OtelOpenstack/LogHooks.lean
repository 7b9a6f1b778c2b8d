import OtelOpenstack.Hooks
import OtelOpenstack.Python
import OtelOpenstack.Runs

/-!
oslo.log instrumentation: the record factory, the root handlers and the guard around
`oslo_log.log.setup`.

A record factory is the list of its layers, the outermost first, each of which calls the factory
it found. `setup` drops every root handler and adds its own.
-/

set_option autoImplicit false

namespace OtelOpenstack.LogHooks

open Effects Hooks Python

/-! ### The process -/

/-- A layer of the record factory: one of this package, or another package's. -/
inductive Layer
  | own (n : ℕ)
  | other (id : ℕ)
  deriving DecidableEq

def Layer.isOwn : Layer → Bool
  | .own _ => true
  | .other _ => false

/-- A handler on the root logger: an `OsloLogHandler`, one of the host's, or the one
`logging.basicConfig` adds. -/
inductive Handler
  | otel (n : ℕ)
  | host (id : ℕ)
  | stream (n : ℕ)
  deriving DecidableEq

def Handler.isOtel : Handler → Bool
  | .otel _ => true
  | _ => false

structure Process where
  factory : List Layer
  handlers : List Handler
  /-- The guards on `oslo_log.log.setup`. -/
  guards : ℕ
  /-- `_handler` -/
  handler : Option ℕ
  /-- `_old_factory` -/
  oldFactory : Option (List Layer)
  /-- The objects made so far. -/
  made : ℕ

/-- Where `_instrument` may raise: reading its arguments, `logging.basicConfig`, installing the
record factory, building the handler, adding it to the root logger, wrapping `setup`. -/
inductive Stage
  | arguments | basicConfig | recordFactory | buildHandler | attachHandler | wrapSetup
  deriving DecidableEq

/-! ### Instrumenting -/

/-- `logging.basicConfig(…)`: a handler is added to a root logger that has none. -/
def basicConfig (p : Process) : Process :=
  if p.handlers = [] then { p with handlers := [.stream p.made], made := p.made + 1 } else p

/-- `install_record_factory`, what it returns being kept. -/
def installRecordFactory (p : Process) : Process :=
  { p with
    factory := .own p.made :: p.factory
    oldFactory := some p.factory
    made := p.made + 1 }

def buildHandler (p : Process) : Process := { p with handler := some p.made, made := p.made + 1 }

/-- `logger.addHandler(handler)`. -/
def addHandler (handlers : List Handler) (h : Handler) : List Handler :=
  if h ∈ handlers then handlers else handlers ++ [h]

/-- `logger.removeHandler(handler)`. -/
def removeHandler (handlers : List Handler) (h : Handler) : List Handler :=
  if h ∈ handlers then handlers.erase h else handlers

def attachHandler (p : Process) : Process :=
  match p.handler with
  | none => p
  | some n =>
    if .otel n ∈ p.handlers then p else { p with handlers := addHandler p.handlers (.otel n) }

def wrapSetup (p : Process) : Process := { p with guards := p.guards + 1 }

/-- `OsloLogInstrumentor._instrument`. -/
def instrumentWith (fails : Stage → Option Exn) (setLoggingFormat : Bool) :
    Eff Exn Process Unit := do
  attempt fails .arguments id
  onlyIf setLoggingFormat (attempt fails .basicConfig basicConfig)
  attempt fails .recordFactory installRecordFactory
  attempt fails .buildHandler buildHandler
  attempt fails .attachHandler attachHandler
  attempt fails .wrapSetup wrapSetup

/-- `if self._old_factory is not None: …`. -/
def putFactoryBack (p : Process) : Process :=
  match p.oldFactory with
  | none => p
  | some old => { p with factory := old, oldFactory := none }

/-- `unwrap(oslo_logging, "setup")`. -/
def unwrapSetup (p : Process) : Process := { p with guards := p.guards - 1 }

/-- `if self._handler is not None: …`. -/
def detachHandler (p : Process) : Process :=
  match p.handler with
  | none => p
  | some n => { p with handlers := removeHandler p.handlers (.otel n), handler := none }

/-- `OsloLogInstrumentor._uninstrument`. -/
def uninstrumentWith : Eff Exn Process Unit := do
  modifies putFactoryBack
  modifies unwrapSetup
  modifies detachHandler

/-- The root handlers are dropped, and others added. -/
def rebuild (added : List ℕ) (p : Process) : Process := { p with handlers := added.map .host }

/-- `oslo_log.log.setup`: the root handlers it leaves, and how it ends. -/
def setup (added : List ℕ) (outcome : Except Exn Val) : Eff Exn Process Val := fun p =>
  (outcome, rebuild added p)

/-- `setup` behind a number of guards. -/
def guardedSetup : ℕ → Eff Exn Process Val → Eff Exn Process Val
  | 0, wrapped => wrapped
  | n + 1, wrapped => do
    let result ← guardedSetup n wrapped
    modifies attachHandler
    pure result

def instrument (fails : Stage → Option Exn) (setLoggingFormat : Bool) :
    Eff Exn (Instrumented Process) Unit :=
  switchOn (instrumentWith fails setLoggingFormat)

def uninstrument : Eff Exn (Instrumented Process) Unit := switchOff uninstrumentWith

/-! ### The root handlers -/

def NoOtel (handlers : List Handler) : Prop := ∀ n, Handler.otel n ∉ handlers

/-- The handler is there once, and no other `OsloLogHandler`. -/
def Only (n : ℕ) (handlers : List Handler) : Prop :=
  handlers.count (.otel n) = 1 ∧ ∀ m, Handler.otel m ∈ handlers → m = n

lemma noOtel_hosts (added : List ℕ) : NoOtel (added.map .host) := by
  intro n hn
  obtain ⟨id, -, hid⟩ := List.mem_map.mp hn
  exact absurd hid nofun

lemma noOtel_basicConfig {p : Process} (h : NoOtel p.handlers) :
    NoOtel (basicConfig p).handlers := by
  unfold basicConfig
  split
  · intro n hn
    simp at hn
  · exact h

lemma only_append {handlers : List Handler} (h : NoOtel handlers) (n : ℕ) :
    Only n (handlers ++ [.otel n]) := by
  refine ⟨?_, fun m hm => ?_⟩
  · rw [List.count_append, List.count_eq_zero_of_not_mem (h n)]
    simp
  · rcases List.mem_append.mp hm with hold | hnew
    · exact absurd hold (h m)
    · simpa using hnew

lemma noOtel_removeHandler {handlers : List Handler} {n : ℕ} (h : Only n handlers) :
    NoOtel (removeHandler handlers (.otel n)) := by
  obtain ⟨hcount, honly⟩ := h
  have hmem : Handler.otel n ∈ handlers := List.count_pos_iff.mp (by omega)
  intro m hm
  rw [removeHandler, if_pos hmem] at hm
  obtain rfl := honly m (List.mem_of_mem_erase hm)
  have hpos := List.count_pos_iff.mpr hm
  rw [List.count_erase_self] at hpos
  omega

lemma attachHandler_of_none {p : Process} (h : p.handler = none) : attachHandler p = p := by
  simp [attachHandler, h]

lemma attachHandler_of_noOtel {p : Process} {n : ℕ} (hp : p.handler = some n)
    (h : NoOtel p.handlers) : attachHandler p = { p with handlers := p.handlers ++ [.otel n] } := by
  simp [attachHandler, addHandler, hp, h n]

/-- Attaching after a `setup` adds the handler to the ones `setup` left, if there is one. -/
lemma attachHandler_rebuild (added : List ℕ) (p : Process) :
    attachHandler (rebuild added p) =
      { p with handlers := added.map .host ++ p.handler.toList.map .otel } := by
  have hhosts : NoOtel (rebuild added p).handlers := noOtel_hosts added
  have hhandler : (rebuild added p).handler = p.handler := rfl
  rcases hp : p.handler with _ | n
  · rw [attachHandler_of_none (hhandler.trans hp)]
    simp [rebuild, hp]
  · rw [attachHandler_of_noOtel (hhandler.trans hp) hhosts]
    simp [rebuild, hp]

/-- Attached once, a handler stays where it is. -/
lemma attachHandler_attachHandler (p : Process) :
    attachHandler (attachHandler p) = attachHandler p := by
  rcases hp : p.handler with _ | n
  · rw [attachHandler_of_none hp, attachHandler_of_none hp]
  · by_cases hn : Handler.otel n ∈ p.handlers
    · have hsame : attachHandler p = p := by simp [attachHandler, hp, hn]
      rw [hsame, hsame]
    · have hadded : attachHandler p = { p with handlers := p.handlers ++ [.otel n] } := by
        simp [attachHandler, addHandler, hp, hn]
      rw [hadded]
      simp [attachHandler, hp]

/-! ### What each operation does -/

lemma factory_basicConfig (p : Process) : (basicConfig p).factory = p.factory := by
  unfold basicConfig
  split <;> rfl

lemma factory_attachHandler (p : Process) : (attachHandler p).factory = p.factory := by
  unfold attachHandler
  split
  · rfl
  · split <;> rfl

/-- The steps of `_instrument` up to the handler, with what each changes. -/
def firstSteps (setLoggingFormat : Bool) : List (Stage × (Process → Process)) :=
  (.arguments, id) :: (if setLoggingFormat then [(.basicConfig, basicConfig)] else []) ++
    [(.recordFactory, installRecordFactory), (.buildHandler, buildHandler)]

/-- The steps of `_instrument`. -/
def steps (setLoggingFormat : Bool) : List (Stage × (Process → Process)) :=
  firstSteps setLoggingFormat ++ [(.attachHandler, attachHandler), (.wrapSetup, wrapSetup)]

section

variable (fails : Stage → Option Exn) (setLoggingFormat : Bool)

/-- `_instrument` is its steps, in order. -/
lemma instrumentWith_eq :
    instrumentWith fails setLoggingFormat = inOrder fails (steps setLoggingFormat) := by
  cases setLoggingFormat <;> rfl

lemma firstSteps_ne_wrapSetup : ∀ st ∈ firstSteps setLoggingFormat, st.1 ≠ .wrapSetup := by
  intro st hst
  cases setLoggingFormat <;> simp [firstSteps] at hst <;>
    rcases hst with rfl | rfl | rfl | rfl <;> nofun

/-- Before the handler is added to the root logger there is none of its kind on it. -/
lemma noOtel_firstSteps : ∀ st ∈ firstSteps setLoggingFormat, ∀ p : Process,
    NoOtel p.handlers → NoOtel (st.2 p).handlers := by
  intro st hst p hp
  cases setLoggingFormat with
  | false =>
    simp only [firstSteps, Bool.false_eq_true, if_false, List.cons_append, List.nil_append,
      List.mem_cons, List.not_mem_nil, or_false] at hst
    rcases hst with rfl | rfl | rfl <;> exact hp
  | true =>
    simp only [firstSteps, if_true, List.cons_append, List.nil_append, List.mem_cons,
      List.not_mem_nil, or_false] at hst
    rcases hst with rfl | rfl | rfl | rfl
    · exact hp
    · exact noOtel_basicConfig hp
    · exact hp
    · exact hp

/-- The handler is built by the last of the first steps. -/
lemma handler_firstSteps (p : Process) :
    ∃ n, (changes (firstSteps setLoggingFormat) p).handler = some n := by
  cases setLoggingFormat <;> exact ⟨_, rfl⟩

lemma changes_steps (p : Process) :
    changes (steps setLoggingFormat) p =
      wrapSetup (attachHandler (changes (firstSteps setLoggingFormat) p)) := by
  rw [steps, changes_append]
  rfl

/-- Where no step raises, the new handler is the only one of its kind on the root logger. -/
lemma only_steps {p : Process} (hp : NoOtel p.handlers) : ∃ n,
    (changes (steps setLoggingFormat) p).handler = some n ∧
      Only n (changes (steps setLoggingFormat) p).handlers := by
  obtain ⟨n, hn⟩ := handler_firstSteps setLoggingFormat p
  have hfirst : NoOtel (changes (firstSteps setLoggingFormat) p).handlers :=
    changes_keeps (noOtel_firstSteps setLoggingFormat) hp
  refine ⟨n, ?_⟩
  rw [changes_steps, attachHandler_of_noOtel hn hfirst]
  exact ⟨hn, only_append hfirst n⟩

/-- Where a step raises, there is a handler of the kind on the root logger if and only if it is
the last one. -/
lemma noOtel_of_error {done rest : List (Stage × (Process → Process))}
    {q : Stage × (Process → Process)} (hsteps : steps setLoggingFormat = done ++ q :: rest)
    {p : Process} (hp : NoOtel p.handlers) :
    NoOtel (changes done p).handlers ↔ q.1 ≠ .wrapSetup := by
  have hfirst := noOtel_firstSteps setLoggingFormat
  have hkeep : ∀ (l : List (Stage × (Process → Process))),
      (∀ st ∈ l, st ∈ firstSteps setLoggingFormat) → NoOtel (changes l p).handlers :=
    fun l hl => changes_keeps (fun st hst => hfirst st (hl st hst)) hp
  have hcases := List.append_eq_append_iff.mp hsteps
  rcases hcases with ⟨mid, rfl, htail⟩ | ⟨mid, hmid, htail⟩
  · -- all the first steps are made
    cases mid with
    | nil =>
      simp only [List.nil_append, List.cons.injEq] at htail
      obtain ⟨rfl, -⟩ := htail
      simp only [List.append_nil]
      exact iff_of_true (hkeep _ fun _ h => h) nofun
    | cons st mid =>
      simp only [List.cons_append, List.cons.injEq] at htail
      obtain ⟨rfl, htail⟩ := htail
      cases mid with
      | nil =>
        simp only [List.nil_append, List.cons.injEq] at htail
        obtain ⟨rfl, -⟩ := htail
        obtain ⟨n, hn⟩ := handler_firstSteps setLoggingFormat p
        have hattached := attachHandler_of_noOtel hn (hkeep _ fun _ h => h)
        refine iff_of_false (fun hno => hno n ?_) (fun hne => hne rfl)
        rw [changes_append]
        change Handler.otel n ∈ (attachHandler _).handlers
        rw [hattached]
        simp
      | cons st' mid => simp at htail
  · -- it is one of the first steps that raises
    rw [hmid] at hkeep
    refine iff_of_true (hkeep done fun _ h => List.mem_append_left _ h) ?_
    cases mid with
    | nil =>
      simp only [List.nil_append, List.cons.injEq] at htail
      obtain ⟨rfl, -⟩ := htail
      nofun
    | cons st mid =>
      simp only [List.cons_append, List.cons.injEq] at htail
      obtain ⟨rfl, -⟩ := htail
      refine firstSteps_ne_wrapSetup setLoggingFormat q ?_
      rw [hmid]
      simp

end

/-! ### Among the host's calls -/

/-- What a caller of `setup` goes through: the module's attribute, or a reference kept from when
there were guards on it. -/
inductive Reference
  | current
  | kept (guards : ℕ)

/-- The instrumentor is switched; `setup` is called, adds handlers and ends; another package puts
a layer on the record factory, or makes one of its layers inert. -/
inductive Event
  | instrument (fails : Stage → Option Exn) (setLoggingFormat : Bool)
  | uninstrument
  | setup (via : Reference) (added : List ℕ) (outcome : Except Exn Val)
  | factoryOn (id : ℕ)
  | factoryOff (id : ℕ)

def guardsOn (p : Process) : Reference → ℕ
  | .current => p.guards
  | .kept guards => guards + 1

/-- A call of `setup`. -/
def callSetup (via : Reference) (added : List ℕ) (outcome : Except Exn Val) :
    Eff Exn Process Val :=
  fun p => guardedSetup (guardsOn p via) (setup added outcome) p

def without (id : ℕ) (factory : List Layer) : List Layer := factory.filter (· ≠ .other id)

def step (s : Instrumented Process) : Event → Instrumented Process
  | .instrument fails setLoggingFormat => (instrument fails setLoggingFormat s).2
  | .uninstrument => (uninstrument s).2
  | .setup via added outcome => { s with process := (callSetup via added outcome s.process).2 }
  | .factoryOn id =>
    { s with process := { s.process with factory := .other id :: s.process.factory } }
  | .factoryOff id =>
    { s with
      process := { s.process with
        factory := without id s.process.factory
        oldFactory := s.process.oldFactory.map (without id) } }

/-- A process with handlers and record factory layers of others, and the instrumentor off. -/
def start (hosts : List ℕ) (layers : List ℕ) : Instrumented Process :=
  ⟨false, ⟨layers.map .other, hosts.map .host, 0, none, none, 0⟩⟩

lemma step_uninstrument (s : Instrumented Process) (hon : s.on = true) :
    step s .uninstrument = ⟨false, detachHandler (unwrapSetup (putFactoryBack s.process))⟩ := by
  obtain ⟨on, process⟩ := s
  obtain rfl : on = true := hon
  rfl

/-- Switched on, the instrumentor makes its changes; where a step raises it stays off, and the
changes before that step are made. -/
lemma step_instrument (s : Instrumented Process) (hoff : s.on = false)
    (fails : Stage → Option Exn) (setLoggingFormat : Bool) :
    (raisesAt fails (steps setLoggingFormat) = none ∧
      step s (.instrument fails setLoggingFormat) =
        ⟨true, changes (steps setLoggingFormat) s.process⟩) ∨
    ∃ done q rest, steps setLoggingFormat = done ++ q :: rest ∧
      raisesAt fails (steps setLoggingFormat) = some q.1 ∧
      step s (.instrument fails setLoggingFormat) = ⟨false, changes done s.process⟩ := by
  obtain ⟨on, process⟩ := s
  obtain rfl : on = false := hoff
  rcases first_failure fails (steps setLoggingFormat) with
    hall | ⟨done, q, rest, e, hsteps, hdone, hq⟩
  · have hok := inOrder_of_ok hall process
    rw [← instrumentWith_eq] at hok
    refine Or.inl ⟨raisesAt_of_ok hall, ?_⟩
    simp only [step, instrument, switchOn_of_ok hok]
  · have herr : inOrder fails (steps setLoggingFormat) process = (.error e, changes done process) :=
      hsteps ▸ inOrder_of_error hdone hq process
    rw [← instrumentWith_eq] at herr
    refine Or.inr ⟨done, q, rest, hsteps, ?_, ?_⟩
    · rw [hsteps, raisesAt_of_error hdone hq]
    · simp only [step, instrument, switchOn_of_error herr]

lemma step_instrument_of_on (s : Instrumented Process) (hon : s.on = true)
    (fails : Stage → Option Exn) (setLoggingFormat : Bool) :
    step s (.instrument fails setLoggingFormat) = s := by
  simp [step, instrument, switchOn, hon]

lemma step_uninstrument_of_off (s : Instrumented Process) (hoff : s.on = false) :
    step s .uninstrument = s := by
  simp [step, uninstrument, switchOff, hoff]

lemma guardedSetup_of_error (n : ℕ) (added : List ℕ) (e : Exn) (p : Process) :
    guardedSetup n (setup added (.error e)) p =
      (.error e, rebuild added p) := by
  induction n with
  | zero => rfl
  | succ n ih =>
    rw [guardedSetup]
    exact bind_of_error ih

lemma guardedSetup_zero (added : List ℕ) (v : Val) (p : Process) :
    guardedSetup 0 (setup added (.ok v)) p = (.ok v, rebuild added p) := rfl

/-- However many guards there are on it, a `setup` that returns is followed by one attaching. -/
lemma guardedSetup_of_ok (n : ℕ) (added : List ℕ) (v : Val) (p : Process) :
    guardedSetup (n + 1) (setup added (.ok v)) p =
      (.ok v, attachHandler (rebuild added p)) := by
  induction n with
  | zero => rfl
  | succ n ih =>
    rw [guardedSetup, bind_of_ok ih, bind_of_ok (modifies_apply ..), attachHandler_attachHandler]
    rfl

end OtelOpenstack.LogHooks
