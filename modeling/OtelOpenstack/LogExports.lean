import OtelOpenstack.Eventlet
import OtelOpenstack.LogHandler
import OtelOpenstack.LogSetup
import OtelOpenstack.TwoRuns

/-!
From log records to what is exported.

A handler is built with the settings that `instrument()` finds in its arguments and in the
environment, and a record that reaches the root logger goes to every handler there. What all of
it is for is a machine of its own, that is off or on with settings, and that a `setup` which
drops the root handlers and then raises, or has no guard, keeps from exporting until the next
one that returns to a guard.
-/

set_option autoImplicit false

namespace OtelOpenstack.LogExports

open Effects Hooks Python Runs TwoRuns LogHooks
open Eventlet (lower)
open LogHandler (Value Attributes Record Str getAttributes)
open LogSetup (Guarded)

/-! ### Settings -/

/-- What `_instrument` is called with, and the environment it is called in. -/
structure Given where
  kwargs : Dict
  environ : String → Option String

/-- `str.upper`, and the level that `logging.getLevelName` finds for a name. -/
structure Names where
  upper : String → String
  level : String → Option ℤ

/-- The level of an `OsloLogHandler`, and what it was told about mapping contexts. -/
structure Settings where
  level : ℤ
  mapOsloContext : Val

/-- `_env_flag`. -/
def envFlag (name default : String) (g : Given) : Bool :=
  lower (strip ((g.environ name).getD default)) = "true"

/-- `_resolve_log_level`; an object that is none of the built-in ones has no `upper`. -/
def resolveLogLevel (names : Names) : Val → Except Exn (Option ℤ)
  | .none => .ok none
  | .int n => .ok (some n)
  | .bool b => .ok (some (if b then 1 else 0))
  | .str s => .ok (names.level (strip (names.upper s)))
  | .obj _ => .error (exn "AttributeError" "no attribute 'upper'")

/-- `kwargs.get("set_logging_format", …)`, as a condition. -/
def setLoggingFormat (g : Given) : Except Exn Bool :=
  let flag := envFlag "OTEL_PYTHON_LOG_CORRELATION" "false" g
  ((g.kwargs.get "set_logging_format").getD (.bool flag)).truth

/-- `kwargs.get("log_handler_level") or environ.get(…)`. -/
def handlerLevel (g : Given) : Except Exn Val := do
  let level := (g.kwargs.get "log_handler_level").getD .none
  if ← level.truth then pure level
  else pure (((g.environ "OTEL_PYTHON_LOG_HANDLER_LEVEL").map Val.str).getD .none)

/-- What the handler is built with. -/
def handlerSettings (names : Names) (g : Given) : Except Exn Settings := do
  let level ← handlerLevel g
  let level ← resolveLogLevel names level
  -- `or logging.NOTSET`
  pure ⟨level.getD 0, (g.kwargs.get "map_oslo_context").getD (.bool true)⟩

/-! ### The process -/

/-- Beside the process, the settings of the handlers that were built. -/
structure Process where
  hooks : LogHooks.Process
  settings : ℕ → Option Settings

def onHooks (change : LogHooks.Process → LogHooks.Process) (p : Process) : Process :=
  { p with hooks := change p.hooks }

def buildHandler (settings : Settings) (p : Process) : Process where
  hooks := LogHooks.buildHandler p.hooks
  settings := Function.update p.settings p.hooks.made (some settings)

/-- `OsloLogInstrumentor._instrument`. -/
def instrumentWith (fails : Stage → Option Exn) (names : Names) (g : Given) :
    Eff Exn Process Unit := do
  attempt fails .arguments id
  let format ← liftExcept (setLoggingFormat g)
  onlyIf format (attempt fails .basicConfig (onHooks basicConfig))
  attempt fails .recordFactory (onHooks installRecordFactory)
  let settings ← liftExcept (handlerSettings names g)
  attempt fails .buildHandler (buildHandler settings)
  attempt fails .attachHandler (onHooks attachHandler)
  attempt fails .wrapSetup (onHooks wrapSetup)

def instrument (fails : Stage → Option Exn) (names : Names) (g : Given) :
    Eff Exn (Instrumented Process) Unit :=
  switchOn (instrumentWith fails names g)

/-- A record that reaches the root logger, and what is ambient there. -/
structure Logged where
  level : ℤ
  ambient : Option Value
  fields : Record

section

variable (reserved : String → Bool) (str : Str)

/-- What an `OsloLogHandler` exports for a record, or what it raises; nothing below its level. -/
def Settings.handle (c : Settings) (record : Logged) : Option (Except Exn Attributes) :=
  if record.level < c.level then none
  else some do
    let mapOsloContext ← c.mapOsloContext.truth
    getAttributes ⟨reserved, mapOsloContext⟩ str record.ambient record.fields

/-- `Logger.callHandlers`, as far as the handlers of this package go. -/
def Process.callHandlers (p : Process) (record : Logged) : List (Except Exn Attributes) :=
  p.hooks.handlers.filterMap fun
    | .otel n => (p.settings n).bind fun c => c.handle reserved str record
    | _ => none

end

/-- The instrumentor is switched; `setup` is called, drops the root handlers, adds handlers and
ends; or it raises before it has dropped any; or it is called through a reference kept from
before there was a guard on it; another package puts a layer on the record factory, or makes one
of its layers inert; a record is logged. -/
inductive Event
  | instrument (fails : Stage → Option Exn) (g : Given)
  | uninstrument
  | setup (via : Reference) (added : List ℕ) (outcome : Except Exn Val)
  | refused (via : Reference) (e : Exn)
  | unguarded (added : List ℕ) (outcome : Except Exn Val)
  | factoryOn (id : ℕ)
  | factoryOff (id : ℕ)
  | log (record : Logged)

structure Sys where
  package : Instrumented Process
  exported : List (Except Exn Attributes)

/-- The package as `LogHooks` has it. -/
def Sys.hooks (s : Sys) : Instrumented LogHooks.Process := ⟨s.package.on, s.package.process.hooks⟩

/-- What `LogHooks` says of an event happens, and no handler is built. -/
def Sys.besides (s : Sys) (e : LogHooks.Event) : Sys :=
  let h := LogHooks.step s.hooks e
  { s with package := ⟨h.on, { s.package.process with hooks := h.process }⟩ }

/-- A call of `setup` happens. -/
def Sys.calls (s : Sys) (setup : Eff Exn LogHooks.Process Val) : Sys :=
  { s with package := ⟨s.package.on, onHooks (fun p => (setup p).2) s.package.process⟩ }

def init (hosts layers : List ℕ) : Sys :=
  let h := LogHooks.start hosts layers
  ⟨⟨h.on, ⟨h.process, fun _ => none⟩⟩, []⟩

section

variable (reserved : String → Bool) (str : Str) (names : Names)

def step (s : Sys) : Event → Sys
  | .instrument fails g =>
    { s with package := (instrument fails names g s.package).2 }
  | .uninstrument => s.besides .uninstrument
  | .setup via added outcome => s.besides (.setup via added outcome)
  | .refused via e => s.calls (guardedSetup (guardsOn s.package.process.hooks via) (raise e))
  | .unguarded added outcome => s.calls (setup added outcome)
  | .factoryOn id => s.besides (.factoryOn id)
  | .factoryOff id => s.besides (.factoryOff id)
  | .log record =>
    { s with
      exported := s.exported ++ s.package.process.callHandlers reserved str record }

end

/-! ### What it is for -/

/-- The exception that `x` is. -/
def raised {β : Type} : Except Exn β → Option Exn
  | .error e => some e
  | .ok _ => none

/-- Where `_instrument` raises, reading its arguments included. -/
def failing (fails : Stage → Option Exn) (names : Names) (g : Given) : Stage → Option Exn
  | .arguments => (fails .arguments).or (raised (setLoggingFormat g))
  | .buildHandler => (raised (handlerSettings names g)).or (fails .buildHandler)
  | t => fails t

/-- Whether `basicConfig` is called. -/
def formats (g : Given) : Bool := (setLoggingFormat g).toOption.getD false

/-- The settings with which `instrument()` succeeds. -/
def asked (fails : Stage → Option Exn) (names : Names) (g : Given) : Option Settings :=
  if raisesAt (failing fails names g) (steps (formats g)) = none then
    (handlerSettings names g).toOption
  else none

/-- Off, or on with settings; `attached` while records are exported. -/
structure Exporting where
  on : Option Settings
  attached : Bool
  exported : List (Except Exn Attributes)

def Exporting.init : Exporting := ⟨none, false, []⟩

/-- **The machine.** -/
def Exporting.step (reserved : String → Bool) (str : Str) (names : Names) (x : Exporting) :
    Event → Exporting
  | .instrument fails g => match x.on with
    | some _ => x
    | none => { x with on := asked fails names g, attached := true }
  | .uninstrument => { x with on := none }
  | .setup _ _ outcome => { x with attached := outcome.toBool }
  | .unguarded _ _ => { x with attached := false }
  | .log record => match x.on with
    | some settings =>
      if x.attached then
        { x with exported := x.exported ++ (settings.handle reserved str record).toList }
      else x
    | none => x
  | _ => x

/-- No handler is left behind: `instrument()` does not raise at its last step, and while the
package is off no kept guard finds a handler to add. -/
def Ok (names : Names) (s : Sys) : Event → Prop
  | .instrument fails g => s.package.on = false →
    raisesAt (failing fails names g) (steps (formats g)) ≠ some .wrapSetup
  | .setup via _ outcome => s.package.on = false →
    ∀ v guards, outcome = .ok v → via = .kept guards → s.package.process.hooks.handler = none
  | _ => True

/-! ### `_instrument` beside that of `LogHooks` -/

def Beside (p : Process) (h : LogHooks.Process) : Prop := p.hooks = h

section

variable {fails fails' : Stage → Option Exn} {names : Names} {g : Given} {t : Stage}

lemma alike_attempt (hfails : fails t = fails' t) {change : Process → Process}
    {change' : LogHooks.Process → LogHooks.Process}
    (hchange : ∀ p, (change p).hooks = change' p.hooks) :
    Alike Beside (attempt fails t change) (attempt fails' t change') := by
  unfold attempt
  rw [← hfails]
  cases fails t with
  | some e => exact Alike.raise e
  | none =>
    refine Alike.modifies fun p h hbeside => ?_
    exact (hchange p).trans (congrArg change' hbeside)

/-- A step that is given what may raise while it is read. -/
lemma alike_given {β : Type} {x : Except Exn β} (hfails : fails' t = (raised x).or (fails t))
    {change : β → Process → Process} {change' : LogHooks.Process → LogHooks.Process}
    (hchange : ∀ b p, (change b p).hooks = change' p.hooks) {rest : Eff Exn Process Unit}
    {rest' : Eff Exn LogHooks.Process Unit} (hrest : Alike Beside rest rest') :
    Alike Beside
      (do
        let b ← liftExcept x
        attempt fails t (change b)
        rest)
      (do
        attempt fails' t change'
        rest') := by
  cases x with
  | error e =>
    intro p h hbeside
    have hraise : attempt fails' t change' = raise e := by
      rw [attempt, hfails]
      rfl
    rw [hraise]
    exact ⟨rfl, hbeside⟩
  | ok b =>
    have hsame : fails t = fails' t := hfails.symm
    exact (alike_attempt hsame (hchange b)).bind fun _ => hrest

/-- Reading a condition after a step. -/
lemma alike_condition {x : Except Exn Bool} (hfails : fails' t = (fails t).or (raised x))
    {body : Bool → Eff Exn Process Unit} {body' : Eff Exn LogHooks.Process Unit}
    (hbody : ∀ b, x = .ok b → Alike Beside (body b) body') :
    Alike Beside
      (do
        attempt fails t id
        let b ← liftExcept x
        body b)
      (do
        attempt fails' t id
        body') := by
  intro p h hbeside
  cases hstep : fails t with
  | some e =>
    have hleft : attempt fails t (id : Process → Process) = raise e := by rw [attempt, hstep]
    have hright : attempt fails' t (id : LogHooks.Process → LogHooks.Process) = raise e := by
      rw [attempt, hfails, hstep]
      rfl
    rw [hleft, hright]
    exact ⟨rfl, hbeside⟩
  | none =>
    have hleft : attempt fails t (id : Process → Process) = modifies id := by rw [attempt, hstep]
    rw [hleft]
    cases hx : x with
    | error e =>
      have hright : attempt fails' t (id : LogHooks.Process → LogHooks.Process) = raise e := by
        rw [attempt, hfails, hstep, hx]
        rfl
      rw [hright]
      exact ⟨rfl, hbeside⟩
    | ok b =>
      have hright : attempt fails' t (id : LogHooks.Process → LogHooks.Process) =
          modifies id := by
        rw [attempt, hfails, hstep, hx]
        rfl
      rw [hright]
      exact hbody b hx p h hbeside

/-- **The same steps.** -/
lemma alike_instrumentWith (fails : Stage → Option Exn) (names : Names) (g : Given) :
    Alike Beside (instrumentWith fails names g)
      (LogHooks.instrumentWith (failing fails names g) (formats g)) := by
  refine alike_condition rfl fun format hformat => ?_
  have hformats : formats g = format := by rw [formats, hformat]; rfl
  rw [hformats]
  have hconfig : Alike Beside (attempt fails .basicConfig (onHooks basicConfig))
      (attempt (failing fails names g) .basicConfig basicConfig) :=
    alike_attempt rfl fun _ => rfl
  refine (Alike.onlyIf fun _ => hconfig).bind fun _ => ?_
  refine (alike_attempt rfl fun _ => rfl).bind fun _ => ?_
  refine alike_given rfl (fun _ _ => rfl) ?_
  exact (alike_attempt rfl fun _ => rfl).bind fun _ => alike_attempt rfl fun _ => rfl

/-- Switched on or off alike. -/
def Switched (s : Instrumented Process) (t : Instrumented LogHooks.Process) : Prop :=
  s.on = t.on ∧ Beside s.process t.process

lemma alike_switchOn {m : Eff Exn Process Unit} {n : Eff Exn LogHooks.Process Unit}
    (h : Alike Beside m n) : Alike Switched (switchOn m) (switchOn n) := by
  rintro ⟨on, p⟩ ⟨on', q⟩ ⟨hon, hbeside⟩
  obtain rfl : on = on' := hon
  unfold switchOn
  cases on with
  | true => exact ⟨rfl, rfl, hbeside⟩
  | false =>
    obtain ⟨r, p', q', hp, hq, hleft⟩ := h.outcome hbeside
    simp only [Bool.false_eq_true, if_false, hp, hq]
    cases r with
    | error e => exact ⟨rfl, rfl, hleft⟩
    | ok u => exact ⟨rfl, rfl, hleft⟩

lemma hooks_instrument (s : Sys) (fails : Stage → Option Exn) (names : Names) (g : Given) :
    Sys.hooks { s with package := (instrument fails names g s.package).2 } =
      LogHooks.step s.hooks (.instrument (failing fails names g) (formats g)) := by
  have halike := alike_switchOn (alike_instrumentWith fails names g)
  obtain ⟨-, hon, hprocess⟩ := halike s.package s.hooks ⟨rfl, rfl⟩
  unfold Sys.hooks LogHooks.step LogHooks.instrument
  exact congrArg₂ Instrumented.mk hon hprocess

/-! ### The settings of the handler -/

lemma attempt_ok {change : Process → Process} {p q : Process}
    (h : attempt fails t change p = (.ok (), q)) : q = change p := by
  unfold attempt at h
  cases hfails : fails t with
  | some e =>
    rw [hfails] at h
    exact absurd (congrArg Prod.fst h) nofun
  | none =>
    rw [hfails] at h
    exact (congrArg Prod.snd h).symm

/-- A handler that was built is the package's, with its settings. -/
def Built (settings : Settings) (p : Process) : Prop :=
  ∃ n, p.hooks.handler = some n ∧ p.settings n = some settings

lemma built_buildHandler (settings : Settings) (p : Process) :
    Built settings (buildHandler settings p) :=
  ⟨p.hooks.made, rfl, Function.update_self ..⟩

lemma handler_attachHandler (p : LogHooks.Process) : (attachHandler p).handler = p.handler := by
  unfold attachHandler
  split
  · next hp => rfl
  · split <;> rfl

/-- The handler that an `_instrument` which returned leaves. -/
lemma built_instrumentWith {p q : Process}
    (h : instrumentWith fails names g p = (.ok (), q)) :
    ∃ settings, handlerSettings names g = .ok settings ∧ Built settings q := by
  obtain ⟨_, p₁, -, h⟩ := bind_ok_cases h
  obtain ⟨format, p₂, -, h⟩ := bind_ok_cases h
  obtain ⟨_, p₃, -, h⟩ := bind_ok_cases h
  obtain ⟨_, p₄, -, h⟩ := bind_ok_cases h
  obtain ⟨settings, p₅, hsettings, h⟩ := bind_ok_cases h
  obtain ⟨_, p₆, hbuild, h⟩ := bind_ok_cases h
  obtain ⟨_, p₇, hattach, hwrap⟩ := bind_ok_cases h
  refine ⟨settings, congrArg Prod.fst hsettings, ?_⟩
  obtain ⟨n, hn, hset⟩ : Built settings p₆ := by
    rw [attempt_ok hbuild]
    exact built_buildHandler settings p₅
  rw [attempt_ok hwrap, attempt_ok hattach]
  exact ⟨n, (handler_attachHandler p₆.hooks).trans hn, hset⟩

end

/-! ### Records -/

lemma only_split {n : ℕ} {handlers : List Handler} (h : Only n handlers) :
    ∃ before after, handlers = before ++ .otel n :: after ∧ NoOtel before ∧ NoOtel after := by
  obtain ⟨hcount, honly⟩ := h
  have hmem : Handler.otel n ∈ handlers := List.count_pos_iff.mp (by omega)
  obtain ⟨before, after, rfl⟩ := List.append_of_mem hmem
  rw [List.count_append, List.count_cons_self] at hcount
  refine ⟨before, after, rfl, fun m hm => ?_, fun m hm => ?_⟩
  · obtain rfl := honly m (List.mem_append_left _ hm)
    have hpos := List.count_pos_iff.mpr hm
    omega
  · obtain rfl := honly m (List.mem_append_right _ (List.mem_cons_of_mem _ hm))
    have hpos := List.count_pos_iff.mpr hm
    omega

section

variable {reserved : String → Bool} {str : Str} {p : Process}

lemma callHandlers_none (h : NoOtel p.hooks.handlers) (record : Logged) :
    p.callHandlers reserved str record = [] := by
  refine List.filterMap_eq_nil_iff.mpr fun handler hmem => ?_
  cases handler with
  | otel n => exact absurd hmem (h n)
  | host id => rfl
  | stream n => rfl

/-- What comes of a record where the package has one handler. -/
lemma callHandlers_only {n : ℕ} {settings : Settings} (h : Only n p.hooks.handlers)
    (hn : p.settings n = some settings) (record : Logged) :
    p.callHandlers reserved str record = (settings.handle reserved str record).toList := by
  obtain ⟨before, after, hsplit, hbefore, hafter⟩ := only_split h
  have hnone : ∀ hooks : LogHooks.Process, NoOtel hooks.handlers →
      Process.callHandlers reserved str { p with hooks } record = [] :=
    fun hooks hno => callHandlers_none hno record
  have hb := hnone { p.hooks with handlers := before } hbefore
  have ha := hnone { p.hooks with handlers := after } hafter
  unfold Process.callHandlers at ha hb ⊢
  rw [hsplit, List.filterMap_append, hb, List.nil_append, List.filterMap_cons, ha]
  simp only [hn, Option.bind_some]
  cases settings.handle reserved str record <;> rfl

end

/-! ### One step -/

/-- The package is on with settings; its handler is on the root logger if it is `attached`. -/
structure Holds (settings : Settings) (attached : Bool) (s : Sys) (n : ℕ) : Prop where
  on : s.hooks.on = true
  guards : s.hooks.process.guards = 1
  handler : s.hooks.process.handler = some n
  settings : s.package.process.settings n = some settings
  root : if attached then Only n s.hooks.process.handlers else NoOtel s.hooks.process.handlers

/-- The package does what the machine says. -/
structure Agrees (s : Sys) (x : Exporting) : Prop where
  exported : s.exported = x.exported
  on : ∀ settings, x.on = some settings → ∃ n, Holds settings x.attached s n
  off : x.on = none → s.hooks.on = false ∧ Guarded s.hooks

section

variable {reserved : String → Bool} {str : Str} {names : Names} {s : Sys} {x : Exporting}

lemma Agrees.init (hosts layers : List ℕ) : Agrees (init hosts layers) Exporting.init :=
  ⟨rfl, fun _ h => absurd h (Option.some_ne_none _).symm,
    fun _ => ⟨rfl, LogSetup.guarded_start hosts layers⟩⟩

lemma Agrees.log (h : Agrees s x) (record : Logged) :
    Agrees (step reserved str names s (.log record))
      (x.step reserved str names (.log record)) := by
  let exports := s.package.process.callHandlers reserved str record
  have hsame : ∀ y : Exporting, y.on = x.on → y.attached = x.attached →
      s.exported ++ exports = y.exported →
        Agrees (step reserved str names s (.log record)) y := by
    intro y hon hattached hexported
    refine ⟨hexported, fun settings hy => ?_, fun hy => h.off (hon ▸ hy)⟩
    obtain ⟨n, hn⟩ := h.on settings (hon ▸ hy)
    exact ⟨n, hn.on, hn.guards, hn.handler, hn.settings, hattached ▸ hn.root⟩
  simp only [Exporting.step]
  cases hx : x.on with
  | none =>
    obtain ⟨hoff, hguarded⟩ := h.off hx
    have hnone : exports = [] := callHandlers_none (hguarded.off hoff).2 record
    refine hsame x rfl rfl ?_
    rw [hnone, List.append_nil, h.exported]
  | some settings =>
    obtain ⟨n, hn⟩ := h.on settings hx
    have hroot := hn.root
    cases hattached : x.attached with
    | false =>
      rw [hattached] at hroot
      have hnone : exports = [] := callHandlers_none hroot record
      refine hsame x rfl rfl ?_
      rw [hnone, List.append_nil, h.exported]
    | true =>
      rw [hattached] at hroot
      have honly : exports = (settings.handle reserved str record).toList :=
        callHandlers_only hroot hn.settings record
      refine hsame _ hx.symm hattached.symm ?_
      rw [honly, h.exported]
      rfl

/-- Another package's layers on the record factory. -/
lemma Agrees.besides (h : Agrees s x) {e : LogHooks.Event}
    (hon : (LogHooks.step s.hooks e).on = s.hooks.on)
    (hguards : (LogHooks.step s.hooks e).process.guards = s.hooks.process.guards)
    (hhandler : (LogHooks.step s.hooks e).process.handler = s.hooks.process.handler)
    (hhandlers : (LogHooks.step s.hooks e).process.handlers = s.hooks.process.handlers) :
    Agrees (s.besides e) x := by
  refine ⟨h.exported, fun settings hx => ?_, fun hx => ?_⟩
  · obtain ⟨n, hn⟩ := h.on settings hx
    refine ⟨n, hon.trans hn.on, hguards.trans hn.guards, hhandler.trans hn.handler, hn.settings, ?_⟩
    change if x.attached then Only n (LogHooks.step s.hooks e).process.handlers
      else NoOtel (LogHooks.step s.hooks e).process.handlers
    rw [hhandlers]
    exact hn.root
  · obtain ⟨hoff, hguarded⟩ := h.off hx
    refine ⟨hon.trans hoff, fun hon' => ?_, fun _ => ⟨hguards.trans (hguarded.off hoff).1, ?_⟩⟩
    · exact absurd (hon'.symm.trans (hon.trans hoff)) nofun
    · exact hhandlers ▸ (hguarded.off hoff).2

/-- A handler that is not on the root logger is not there once it is removed. -/
lemma noOtel_detached {p : LogHooks.Process} (h : NoOtel p.handlers) :
    NoOtel (detachHandler (unwrapSetup (putFactoryBack p))).handlers := by
  have hback : (unwrapSetup (putFactoryBack p)).handlers = p.handlers := by
    unfold unwrapSetup putFactoryBack
    split <;> rfl
  unfold detachHandler
  split
  · exact hback ▸ h
  · next n hn =>
    have hno := hback ▸ h
    rw [removeHandler, if_neg (hno n)]
    exact hno

lemma Agrees.uninstrument (h : Agrees s x) :
    Agrees (s.besides .uninstrument) { x with on := none } := by
  refine ⟨h.exported, fun settings hx => absurd hx (Option.some_ne_none _).symm, fun _ => ?_⟩
  cases hx : x.on with
  | none =>
    obtain ⟨hoff, hguarded⟩ := h.off hx
    have hstep := LogHooks.step_uninstrument_of_off s.hooks hoff
    change (LogHooks.step s.hooks .uninstrument).on = false ∧
      Guarded (LogHooks.step s.hooks .uninstrument)
    rw [hstep]
    exact ⟨hoff, hguarded⟩
  | some settings =>
    obtain ⟨n, hn⟩ := h.on settings hx
    have hstep := LogHooks.step_uninstrument s.hooks hn.on
    change (LogHooks.step s.hooks .uninstrument).on = false ∧
      Guarded (LogHooks.step s.hooks .uninstrument)
    rw [hstep]
    refine ⟨rfl, fun hon => absurd hon nofun, fun _ => ⟨?_, ?_⟩⟩
    · rw [LogSetup.guards_uninstrument, hn.guards]
    · have hroot := hn.root
      cases hattached : x.attached with
      | true =>
        rw [hattached] at hroot
        exact LogSetup.noOtel_uninstrument hn.handler hroot
      | false =>
        rw [hattached] at hroot
        exact noOtel_detached hroot

/-- `setup`, which may raise. -/
lemma Agrees.setup (h : Agrees s x) {via : Reference} {added : List ℕ} {outcome : Except Exn Val}
    (hok : Ok names s (.setup via added outcome)) :
    Agrees (s.besides (.setup via added outcome)) { x with attached := outcome.toBool } := by
  refine ⟨h.exported, fun settings hx => ?_, fun hx => ?_⟩
  · obtain ⟨n, hn⟩ := h.on settings hx
    have hpos : 0 < guardsOn s.hooks.process via := by
      cases via <;> simp [guardsOn, hn.guards]
    obtain ⟨hguards, hhandler, hok, herror⟩ := LogSetup.setup_on hn.handler hpos added outcome
    refine ⟨n, hn.on, hguards.trans hn.guards, hhandler, hn.settings, ?_⟩
    cases outcome with
    | ok v => exact hok ⟨v, rfl⟩
    | error e => exact herror ⟨e, rfl⟩
  · obtain ⟨hoff, hguarded⟩ := h.off hx
    have hsafe : LogSetup.Safe s.hooks (.setup via added outcome) := by
      have hoff' : s.package.on = false := hoff
      simp only [LogSetup.Safe, Sys.hooks, hoff', Bool.false_eq_true, if_false]
      exact hok hoff'
    exact ⟨hoff, (LogSetup.setup_spec hguarded via added outcome).2 hsafe⟩

/-- A `setup` that raises first is nothing to the handlers, whatever guards there are on it. -/
lemma Agrees.refused (h : Agrees s x) (via : Reference) (e : Exn) :
    Agrees (s.calls (guardedSetup (guardsOn s.package.process.hooks via) (raise e))) x := by
  have hsame : ∀ n p, guardedSetup n (raise e) p = (.error e, p) := by
    intro n p
    induction n with
    | zero => rfl
    | succ n ih => exact bind_of_error ih
  have hcalls : s.calls (guardedSetup (guardsOn s.package.process.hooks via) (raise e)) = s := by
    simp only [Sys.calls, onHooks, hsame]
  rw [hcalls]
  exact h

/-- A `setup` without a guard, of which only its own handlers are left. -/
lemma Agrees.unguarded (h : Agrees s x) (added : List ℕ) (outcome : Except Exn Val) :
    Agrees (s.calls (LogHooks.setup added outcome)) { x with attached := false } := by
  have hno := noOtel_hosts added
  refine ⟨h.exported, fun settings hx => ?_, fun hx => ?_⟩
  · obtain ⟨n, hn⟩ := h.on settings hx
    exact ⟨n, hn.on, hn.guards, hn.handler, hn.settings, hno⟩
  · obtain ⟨hoff, hguarded⟩ := h.off hx
    exact ⟨hoff, fun hon => absurd (hon.symm.trans hoff) nofun,
      fun _ => ⟨(hguarded.off hoff).1, hno⟩⟩

/-- An `instrument()` that switched the package on has built its handler. -/
lemma built_of_on {fails : Stage → Option Exn} {g : Given} {t : Instrumented LogHooks.Process}
    (hoff : s.package.on = false)
    (hhooks : Sys.hooks (step reserved str names s (.instrument fails g)) = t) (hon : t.on = true) :
    ∃ settings, handlerSettings names g = .ok settings ∧
      Built settings (step reserved str names s (.instrument fails g)).package.process := by
  subst hhooks
  rcases hrun : instrumentWith fails names g s.package.process with ⟨r, q⟩
  have hstep : (step reserved str names s (.instrument fails g)).package =
      ⟨r.toBool, q⟩ := by
    cases r <;> simp [step, LogExports.instrument, switchOn, hoff, hrun, Except.toBool]
  cases r with
  | error e =>
    have hon' : (step reserved str names s (.instrument fails g)).package.on = true := hon
    rw [hstep] at hon'
    exact absurd hon' Bool.false_ne_true
  | ok u =>
    rw [hstep]
    exact built_instrumentWith hrun

/-- `instrument()`, which may raise. -/
lemma Agrees.instrument (h : Agrees s x) {fails : Stage → Option Exn} {g : Given}
    (hok : Ok names s (.instrument fails g)) :
    Agrees (step reserved str names s (.instrument fails g))
      (x.step reserved str names (.instrument fails g)) := by
  have hhooks := hooks_instrument s fails names g
  cases hx : x.on with
  | some settings =>
    obtain ⟨n, hn⟩ := h.on settings hx
    have hon : s.package.on = true := hn.on
    have hsame : step reserved str names s (.instrument fails g) = s := by
      simp [step, LogExports.instrument, switchOn, hon]
    rw [hsame, Exporting.step, hx]
    exact h
  | none =>
    obtain ⟨hoff, hguarded⟩ := h.off hx
    have hoff' : s.package.on = false := hoff
    simp only [Exporting.step, hx]
    rcases LogHooks.step_instrument s.hooks hoff (failing fails names g) (formats g) with
      ⟨hraise, hstep⟩ | ⟨done, q, rest, hsteps, hraise, hstep⟩
    · obtain ⟨n, hn, honly⟩ := only_steps (formats g) (hguarded.off hoff).2
      have hnext : (step reserved str names s (.instrument fails g)).hooks =
          ⟨true, changes (steps (formats g)) s.hooks.process⟩ := hhooks.trans hstep
      obtain ⟨settings, hsettings, m, hm, hset⟩ := built_of_on hoff' hnext rfl
      obtain ⟨hon, hprocess⟩ := Instrumented.mk.inj hnext
      have hasked : asked fails names g = some settings := by
        rw [asked, if_pos hraise, hsettings]
        rfl
      refine ⟨h.exported, fun settings' hsome => ?_, fun hnone => ?_⟩
      · obtain rfl := Option.some.inj (hasked.symm.trans hsome)
        rw [← hprocess] at hn honly
        obtain rfl : n = m := Option.some.inj (hn.symm.trans hm)
        refine ⟨n, hon, ?_, hm, hset, honly⟩
        have hguards := LogSetup.guards_steps (formats g) s.hooks.process
        rw [(hguarded.off hoff).1, ← hprocess] at hguards
        exact hguards
      · exact absurd (hasked.symm.trans hnone) (Option.some_ne_none _)
    · have hsafe : LogSetup.Safe s.hooks (.instrument (failing fails names g) (formats g)) :=
        fun _ => hok hoff'
      have hnext := (LogSetup.instrument_spec hguarded (failing fails names g) (formats g)).2 hsafe
      have hasked : asked fails names g = none := by
        rw [asked, hraise]
        rfl
      refine ⟨h.exported, fun settings hsome => ?_, fun _ => ?_⟩
      · exact absurd (hasked.symm.trans hsome) (Option.some_ne_none _).symm
      · rw [← hhooks] at hnext hstep
        exact ⟨congrArg Instrumented.on hstep, hnext⟩

theorem Agrees.step (h : Agrees s x) {e : Event} (hok : Ok names s e) :
    Agrees (step reserved str names s e) (x.step reserved str names e) := by
  cases e with
  | instrument fails g => exact h.instrument hok
  | uninstrument => exact h.uninstrument
  | setup via added outcome => exact h.setup hok
  | refused via e => exact h.refused via e
  | unguarded added outcome => exact h.unguarded added outcome
  | factoryOn id => exact h.besides rfl rfl rfl rfl
  | factoryOff id => exact h.besides rfl rfl rfl rfl
  | log record => exact h.log record

end

/-! ### Whole runs -/

def fromWarnings : Given :=
  ⟨[("set_logging_format", .bool false), ("log_handler_level", .int 30)], fun _ => none⟩

def named (name : String) (level : ℤ) : Event :=
  .log ⟨level, none, [("name", .scalar (.str name))]⟩

/-- Records before, after and between switches and `setup` calls. -/
def mixedLogs : List Event :=
  [named "early" 40, .instrument (fun _ => none) fromWarnings, named "info" 20,
    .refused .current (exn "LogConfigError" ""), named "warning" 30,
    .setup .current [1] (.error (exn "ConfigError" "")), named "lost" 40,
    .setup .current [2] (.ok .none), named "error" 40, .unguarded [3] (.ok .none),
    named "missed" 40, .uninstrument, named "late" 50]

def noNames : Names := ⟨id, fun _ => none⟩

lemma legal_mixedLogs :
    Legal (Ok noNames) (step (fun _ => false) (fun _ => .ok "") noNames) (init [0] [])
      mixedLogs := by
  refine ⟨trivial, fun _ => ?_, trivial, trivial, trivial, fun _ _ _ _ hvia => ?_, trivial,
    fun _ _ _ _ hvia => ?_, trivial, trivial, trivial, trivial, trivial, trivial⟩
  · decide
  · cases hvia
  · cases hvia

end OtelOpenstack.LogExports
