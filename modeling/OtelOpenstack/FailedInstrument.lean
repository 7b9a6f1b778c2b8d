import Mathlib.Tactic.IntervalCases
import OtelOpenstack.LogHooks
import OtelOpenstack.ServiceHooks
import OtelOpenstack.TaskflowHooks

/-!
What is left of an `instrument()` that raises.

The changes made before the step that raised stay, and nobody knows of them: the next
`instrument()` puts its own on top, and `uninstrument()` takes only these away.
-/

set_option autoImplicit false

namespace OtelOpenstack.FailedInstrument

open Effects Hooks Python Runs

/-! ### Executor functions -/

section

open TaskflowHooks

def taskflowHooks (p : Process) : Table String Layer × List Layer := (p.bodies, p.engineInit)

/-- `instrument()` raised: before any change, or at one of the executor functions. -/
def TaskflowLeft (fails : Failures) (e : Exn) (s t : Instrumented Process) : Prop :=
  (fails.early = some e ∧ t = s) ∨
    ∃ done q rest, bodyLayers = done ++ q :: rest ∧ (∀ r ∈ done, fails.body r.1 = none) ∧
      fails.body q.1 = some e ∧
      t = ⟨false, { s.process with bodies := putAll s.process.bodies done }⟩ ∧
      (taskflowHooks t.process = taskflowHooks s.process ↔ done = [])

variable {fails : Failures} {e : Exn} {s t : Instrumented Process}

lemma originalEngineInit_of_error {p q : Process} (h : instrumentWith fails p = (.error e, q)) :
    p.originalEngineInit = none := by
  rcases hp : p.originalEngineInit with _ | original
  · rfl
  · simp [instrumentWith, bind_apply, hp] at h

lemma taskflow_left (h : instrument fails s = (.error e, t)) : TaskflowLeft fails e s t := by
  obtain ⟨hs, ht, hrun⟩ := off_of_switchOn_error h
  have hp := originalEngineInit_of_error hrun
  have hstate : ∀ p, t.process = p → t = ⟨false, p⟩ := by
    rintro p rfl
    rw [← ht]
  rcases hearly : fails.early with _ | e'
  · rcases first_failure fails.body bodyLayers with hall | ⟨done, q, rest, e', hlayers, hdone, hq⟩
    · simp [instrumentWith_of_ok hp hearly hall] at hrun
    · rw [instrumentWith_of_error hp hearly hlayers hdone hq, Prod.mk.injEq,
        Except.error.injEq] at hrun
      obtain ⟨rfl, hprocess⟩ := hrun
      refine Or.inr ⟨done, q, rest, hlayers, hdone, hq, hstate _ hprocess.symm, ?_⟩
      rw [← hprocess, ← putAll_eq_self_iff s.process.bodies done]
      simp [taskflowHooks]
  · rw [instrumentWith_of_early hp hearly, Prod.mk.injEq, Except.error.injEq] at hrun
    obtain ⟨rfl, hprocess⟩ := hrun
    refine Or.inl ⟨hearly, ?_⟩
    rw [hstate _ hprocess.symm, ← hs]

/-- What a later `instrument()` puts on, `uninstrument()` takes away. -/
lemma taskflow_undone (h : instrument fails s = (.error e, t)) (fails' : Failures) :
    UndoneLater (instrument fails') uninstrument taskflowHooks t := by
  obtain ⟨-, ht, hrun⟩ := off_of_switchOn_error h
  have hp : t.process.originalEngineInit = none := by
    have hs := originalEngineInit_of_error hrun
    rcases taskflow_left h with ⟨-, rfl⟩ | ⟨done, q, rest, -, -, -, rfl, -⟩ <;> exact hs
  refine undoneLater_of ht fun q r hq hr => ?_
  have hpatched : q = patched t.process := by
    rcases hearly : fails'.early with _ | e'
    · rcases first_failure fails'.body bodyLayers with
        hall | ⟨done, q', rest, e', hlayers, hdone, hq'⟩
      · rw [instrumentWith_of_ok hp hearly hall] at hq
        exact (Prod.mk.inj hq).2.symm
      · simp [instrumentWith_of_error hp hearly hlayers hdone hq'] at hq
    · simp [instrumentWith_of_early hp hearly] at hq
  rw [hpatched, uninstrumentWith_patched hp] at hr
  rw [← (Prod.mk.inj hr).2]
  rfl

end

/-! ### Entry points -/

section

open ServiceHooks

/-- `instrument()` raised at one of the entry points. -/
def ServiceLeft (p : Packages) (fails : Target → Option Exn) (e : Exn)
    (s t : Instrumented Process) : Prop :=
  ∃ done q rest, layers p = done ++ q :: rest ∧ (∀ r ∈ done, fails r.1 = none) ∧
    fails q.1 = some e ∧ t = ⟨false, ⟨putAll s.process.hooks done, s.process.wraps⟩⟩ ∧
    (t.process.hooks = s.process.hooks ↔ done = [])

variable {p : Packages} {fails : Target → Option Exn} {e : Exn} {s t : Instrumented Process}

lemma service_left (h : instrument fails p s = (.error e, t)) : ServiceLeft p fails e s t := by
  obtain ⟨-, ht, hrun⟩ := off_of_switchOn_error h
  rcases first_failure fails (layers p) with hall | ⟨done, q, rest, e', hlayers, hdone, hq⟩
  · simp [instrumentWith_of_ok hall] at hrun
  · rw [instrumentWith_of_error hlayers hdone hq, Prod.mk.injEq, Except.error.injEq] at hrun
    obtain ⟨rfl, hprocess⟩ := hrun
    refine ⟨done, q, rest, hlayers, hdone, hq, ?_, ?_⟩
    · rw [hprocess, ← ht]
    · rw [← hprocess]
      exact putAll_eq_self_iff s.process.hooks done

lemma service_undone (h : instrument fails p s = (.error e, t)) (fails' : Target → Option Exn) :
    UndoneLater (instrument fails' p) uninstrument Process.hooks t := by
  obtain ⟨-, ht, -⟩ := off_of_switchOn_error h
  refine undoneLater_of ht fun q r hq hr => ?_
  have hinstalled : q = ⟨putAll t.process.hooks (layers p), targets p⟩ := by
    rcases first_failure fails' (layers p) with hall | ⟨done, q', rest, e', hlayers, hdone, hq'⟩
    · rw [instrumentWith_of_ok hall] at hq
      exact (Prod.mk.inj hq).2.symm
    · simp [instrumentWith_of_error hlayers hdone hq'] at hq
  rw [hinstalled, uninstrumentWith_apply] at hr
  rw [← (Prod.mk.inj hr).2]
  exact takeOffAll_putAll (layers_isProxy p) t.process.hooks

end

/-! ### Record factory and root handlers -/

section

open LogHooks

def logHooks (p : Process) : List Layer × List Handler × ℕ := (p.factory, p.handlers, p.guards)

/-- `instrument()` raised at one of its steps. -/
def LogLeft (fails : Stage → Option Exn) (setLoggingFormat : Bool) (e : Exn)
    (s t : Instrumented Process) : Prop :=
  ∃ done q rest, steps setLoggingFormat = done ++ q :: rest ∧ (∀ r ∈ done, fails r.1 = none) ∧
    fails q.1 = some e ∧ t = ⟨false, changes done s.process⟩ ∧
    (logHooks t.process = logHooks s.process ↔ Stage.recordFactory ∉ done.map Prod.fst ∧
      (Stage.basicConfig ∈ done.map Prod.fst → s.process.handlers ≠ []))

variable {fails : Stage → Option Exn} {setLoggingFormat : Bool} {e : Exn}
  {s t : Instrumented Process}

lemma logHooks_basicConfig (p : Process) :
    logHooks (basicConfig p) = logHooks p ↔ p.handlers ≠ [] := by
  unfold basicConfig
  by_cases h : p.handlers = [] <;> simp [logHooks, h]

/-- With one more layer the record factory is another one, whatever was done besides. -/
lemma logHooks_ne {p q : Process} {n : ℕ} (h : q.factory = .own n :: p.factory) :
    logHooks q ≠ logHooks p := by
  intro heq
  have hfactory : q.factory = p.factory := congrArg Prod.fst heq
  have hlen := congrArg List.length (h.symm.trans hfactory)
  simp at hlen

/-- The first steps that change a hook are the format's, on a root logger without handlers, and
the record factory's. -/
lemma logHooks_changes {done rest : List (Stage × (Process → Process))}
    {q : Stage × (Process → Process)} (hsteps : steps setLoggingFormat = done ++ q :: rest)
    (p : Process) :
    logHooks (changes done p) = logHooks p ↔ Stage.recordFactory ∉ done.map Prod.fst ∧
      (Stage.basicConfig ∈ done.map Prod.fst → p.handlers ≠ []) := by
  have hdone : done = (steps setLoggingFormat).take done.length := by
    rw [hsteps, List.take_left]
  have hlen : done.length < (steps setLoggingFormat).length := by
    rw [hsteps, List.length_append, List.length_cons]
    omega
  generalize done.length = n at hdone hlen
  subst hdone
  cases setLoggingFormat with
  | false =>
    have hbound : n < 5 := hlen
    interval_cases n
    · exact iff_of_true rfl (by simp)
    · exact iff_of_true rfl (by simp [steps, firstSteps])
    · exact iff_of_false (logHooks_ne rfl) (by simp [steps, firstSteps])
    · exact iff_of_false (logHooks_ne rfl) (by simp [steps, firstSteps])
    · have hlast := factory_attachHandler (buildHandler (installRecordFactory p))
      exact iff_of_false (logHooks_ne hlast) (by simp [steps, firstSteps])
  | true =>
    have hbound : n < 6 := hlen
    have hadded : ∀ q : Process, q.factory = .own (basicConfig p).made :: (basicConfig p).factory →
        logHooks q ≠ logHooks p := by
      intro q hq
      exact logHooks_ne (hq.trans (congrArg _ (factory_basicConfig p)))
    interval_cases n
    · exact iff_of_true rfl (by simp)
    · exact iff_of_true rfl (by simp [steps, firstSteps])
    · simpa [steps, firstSteps, changes] using logHooks_basicConfig p
    · exact iff_of_false (hadded _ rfl) (by simp [steps, firstSteps])
    · exact iff_of_false (hadded _ rfl) (by simp [steps, firstSteps])
    · have hlast :=
        factory_attachHandler (buildHandler (installRecordFactory (basicConfig p)))
      exact iff_of_false (hadded _ hlast) (by simp [steps, firstSteps])

lemma log_left (h : instrument fails setLoggingFormat s = (.error e, t)) :
    LogLeft fails setLoggingFormat e s t := by
  obtain ⟨-, ht, hrun⟩ := off_of_switchOn_error h
  rw [instrumentWith_eq] at hrun
  rcases first_failure fails (steps setLoggingFormat) with
    hall | ⟨done, q, rest, e', hsteps, hdone, hq⟩
  · simp [inOrder_of_ok hall] at hrun
  · rw [hsteps, inOrder_of_error hdone hq, Prod.mk.injEq, Except.error.injEq] at hrun
    obtain ⟨rfl, hprocess⟩ := hrun
    refine ⟨done, q, rest, hsteps, hdone, hq, ?_, ?_⟩
    · rw [hprocess, ← ht]
    · rw [← hprocess]
      exact logHooks_changes hsteps s.process

/-- Handlers are numbered as they are made. -/
structure Numbered (p : Process) : Prop where
  handlers : ∀ n, Handler.otel n ∈ p.handlers → n < p.made
  handler : ∀ n, p.handler = some n → n < p.made

lemma numbered_hosts {p : Process} (h : Numbered p) (added : List ℕ) :
    Numbered (rebuild added p) :=
  ⟨fun n hn => absurd hn (noOtel_hosts added n), h.handler⟩

lemma numbered_attachHandler {p : Process} (h : Numbered p) : Numbered (attachHandler p) := by
  rcases hp : p.handler with _ | n
  · rw [attachHandler_of_none hp]
    exact h
  · by_cases hn : Handler.otel n ∈ p.handlers
    · have hsame : attachHandler p = p := by simp [attachHandler, hp, hn]
      rw [hsame]
      exact h
    · have hadded : attachHandler p = { p with handlers := p.handlers ++ [.otel n] } := by
        simp [attachHandler, addHandler, hp, hn]
      rw [hadded]
      refine ⟨fun m hm => ?_, h.handler⟩
      rcases List.mem_append.mp hm with hold | hnew
      · exact h.handlers m hold
      · simp only [List.mem_singleton, Handler.otel.injEq] at hnew
        exact hnew ▸ h.handler n hp

variable (setLoggingFormat) in
lemma numbered_steps : ∀ st ∈ steps setLoggingFormat, ∀ p, Numbered p → Numbered (st.2 p) := by
  have hconfig : ∀ p, Numbered p → Numbered (basicConfig p) := by
    intro p h
    unfold basicConfig
    split
    · exact ⟨by simp, fun n hn => Nat.lt_succ_of_lt (h.handler n hn)⟩
    · exact h
  have hfactory : ∀ p, Numbered p → Numbered (installRecordFactory p) := fun p h =>
    ⟨fun n hn => Nat.lt_succ_of_lt (h.handlers n hn),
      fun n hn => Nat.lt_succ_of_lt (h.handler n hn)⟩
  have hbuild : ∀ p, Numbered p → Numbered (buildHandler p) := by
    intro p h
    refine ⟨fun n hn => Nat.lt_succ_of_lt (h.handlers n hn), fun n hn => ?_⟩
    have hmade : p.made = n := Option.some.inj hn
    exact hmade ▸ Nat.lt_succ_self _
  have hattach : ∀ p, Numbered p → Numbered (attachHandler p) := fun _ => numbered_attachHandler
  have hwrap : ∀ p, Numbered p → Numbered (wrapSetup p) := fun _ h => ⟨h.handlers, h.handler⟩
  cases setLoggingFormat <;>
    simp only [steps, firstSteps, List.cons_append, List.nil_append, List.forall_mem_cons,
      Bool.false_eq_true, if_false, if_true]
  · exact ⟨fun _ h => h, hfactory, hbuild, hattach, hwrap, List.forall_mem_nil _⟩
  · exact ⟨fun _ h => h, hconfig, hfactory, hbuild, hattach, hwrap, List.forall_mem_nil _⟩

lemma numbered_uninstrument {p : Process} (h : Numbered p) :
    Numbered (detachHandler (unwrapSetup (putFactoryBack p))) := by
  have hback : Numbered (unwrapSetup (putFactoryBack p)) := by
    unfold putFactoryBack
    split <;> exact ⟨h.handlers, h.handler⟩
  unfold detachHandler
  split
  · exact hback
  · refine ⟨fun n hn => hback.handlers n ?_, nofun⟩
    simp only [removeHandler] at hn
    split at hn
    · exact List.mem_of_mem_erase hn
    · exact hn

lemma numbered_guardedSetup {p : Process} (h : Numbered p) (n : ℕ) (added : List ℕ)
    (outcome : Except Exn Val) : Numbered (guardedSetup n (setup added outcome) p).2 := by
  cases outcome with
  | error e =>
    rw [guardedSetup_of_error]
    exact numbered_hosts h added
  | ok v =>
    cases n with
    | zero => exact numbered_hosts h added
    | succ n =>
      rw [guardedSetup_of_ok]
      exact numbered_attachHandler (numbered_hosts h added)

lemma numbered_step (s : Instrumented Process) (e : Event) (h : Numbered s.process) :
    Numbered (step s e).process := by
  cases e with
  | instrument fails setLoggingFormat =>
    rcases hon : s.on with _ | _
    · have hsteps := numbered_steps setLoggingFormat
      rcases step_instrument s hon fails setLoggingFormat with
        ⟨-, hstep⟩ | ⟨done, q, rest, hdone, -, hstep⟩
      · rw [hstep]
        exact changes_keeps hsteps h
      · rw [hstep]
        refine changes_keeps (fun st hst => hsteps st ?_) h
        rw [hdone]
        exact List.mem_append_left _ hst
    · rw [step_instrument_of_on s hon]
      exact h
  | uninstrument =>
    rcases hon : s.on with _ | _
    · rw [step_uninstrument_of_off s hon]
      exact h
    · rw [step_uninstrument s hon]
      exact numbered_uninstrument h
  | setup via added outcome => exact numbered_guardedSetup h _ added outcome
  | factoryOn id => exact ⟨h.handlers, h.handler⟩
  | factoryOff id => exact ⟨h.handlers, h.handler⟩

lemma numbered_run (hosts layers : List ℕ) (es : List Event) :
    Numbered (run step (start hosts layers) es).process := by
  have hstart : Numbered (start hosts layers).process :=
    ⟨fun n hn => absurd hn (noOtel_hosts hosts n), nofun⟩
  exact inv_of_run (I := fun s : Instrumented Process => Numbered s.process) numbered_step hstart es

/-- Without a format of its own, what `_instrument` changes `_uninstrument` changes back. -/
lemma logHooks_restored {p : Process} (h : Numbered p) :
    logHooks (detachHandler (unwrapSetup (putFactoryBack (changes (steps false) p)))) =
      logHooks p := by
  have hnew : Handler.otel (p.made + 1) ∉ p.handlers := by
    intro hmem
    have hlt := h.handlers _ hmem
    omega
  have hchanged : changes (steps false) p =
      { factory := .own p.made :: p.factory
        handlers := p.handlers ++ [.otel (p.made + 1)]
        guards := p.guards + 1
        handler := some (p.made + 1)
        oldFactory := some p.factory
        made := p.made + 2 } := by
    rw [changes_steps]
    change wrapSetup (attachHandler (buildHandler (installRecordFactory p))) = _
    simp [wrapSetup, attachHandler, addHandler, buildHandler, installRecordFactory, hnew]
  have herase : (p.handlers ++ [Handler.otel (p.made + 1)]).erase (.otel (p.made + 1)) =
      p.handlers := by
    rw [List.erase_append_right _ hnew, List.erase_cons_head, List.append_nil]
  rw [hchanged]
  simp [logHooks, detachHandler, unwrapSetup, putFactoryBack, removeHandler, herase]

lemma log_undone {hosts layers : List ℕ} {es : List Event}
    (hs : s = run step (start hosts layers) es)
    (h : instrument fails setLoggingFormat s = (.error e, t)) (fails' : Stage → Option Exn) :
    UndoneLater (instrument fails' false) uninstrument logHooks t := by
  have hnumbered : Numbered t.process := by
    have hstep : t = step s (.instrument fails setLoggingFormat) := (congrArg Prod.snd h).symm
    rw [hstep]
    exact numbered_step s _ (hs ▸ numbered_run hosts layers es)
  obtain ⟨-, ht, -⟩ := off_of_switchOn_error h
  refine undoneLater_of ht fun q r hq hr => ?_
  have hchanged : q = changes (steps false) t.process := by
    rw [instrumentWith_eq] at hq
    rcases first_failure fails' (steps false) with
      hall | ⟨done, q', rest, e', hsteps, hdone, hq'⟩
    · rw [inOrder_of_ok hall] at hq
      exact (Prod.mk.inj hq).2.symm
    · rw [hsteps, inOrder_of_error hdone hq'] at hq
      exact absurd (Prod.mk.inj hq).1 nofun
  have hback : r = detachHandler (unwrapSetup (putFactoryBack q)) := (Prod.mk.inj hr).2.symm
  rw [hback, hchanged]
  exact logHooks_restored hnumbered

end

/-! ### The theorem -/

/-- **What a failed `instrument()` leaves**: the changes before the step that raised, and no
others; and what a later one puts on, `uninstrument()` takes away. -/
theorem failed_instrument_leaves :
    (∀ (s t : Instrumented TaskflowHooks.Process) (fails : TaskflowHooks.Failures) (e : Exn),
      TaskflowHooks.instrument fails s = (.error e, t) →
      TaskflowLeft fails e s t ∧ ∀ fails',
        UndoneLater (TaskflowHooks.instrument fails') TaskflowHooks.uninstrument
          taskflowHooks t) ∧
    (∀ (p : ServiceHooks.Packages) (s t : Instrumented ServiceHooks.Process)
      (fails : ServiceHooks.Target → Option Exn) (e : Exn),
      ServiceHooks.instrument fails p s = (.error e, t) →
      ServiceLeft p fails e s t ∧ ∀ fails',
        UndoneLater (ServiceHooks.instrument fails' p) ServiceHooks.uninstrument
          ServiceHooks.Process.hooks t) ∧
    ∀ (hosts layers : List ℕ) (es : List LogHooks.Event) (t : Instrumented LogHooks.Process)
      (fails : LogHooks.Stage → Option Exn) (setLoggingFormat : Bool) (e : Exn),
      let s := run LogHooks.step (LogHooks.start hosts layers) es
      LogHooks.instrument fails setLoggingFormat s = (.error e, t) →
      LogLeft fails setLoggingFormat e s t ∧ ∀ fails',
        UndoneLater (LogHooks.instrument fails' false) LogHooks.uninstrument logHooks t := by
  refine ⟨fun s t fails e h => ?_, fun p s t fails e h => ?_, ?_⟩
  · exact ⟨taskflow_left h, taskflow_undone h⟩
  · exact ⟨service_left h, service_undone h⟩
  · intro hosts layers es t fails setLoggingFormat e s h
    exact ⟨log_left h, log_undone rfl h⟩

/-- What one step, or one hook, is made to raise in the examples below. -/
def missing : Exn := exn "AttributeError" "no such function"

/-- The functions of TaskFlow as they are, with one missing. -/
def withoutRevertTask : TaskflowHooks.Failures :=
  ⟨none, fun name => if name = "_revert_task" then some missing else none⟩

def untouched : Instrumented TaskflowHooks.Process := ⟨false, fun _ => [], [], none, none⟩

theorem failed_instrument_leaves_half :
    (TaskflowLeft withoutRevertTask missing untouched
      (TaskflowHooks.instrument withoutRevertTask untouched).2) ∧
    (ServiceLeft ⟨true, true, true⟩ (fun t => if t.2 = "run" then some missing else none) missing
      ServiceHooks.bare (ServiceHooks.instrument
        (fun t => if t.2 = "run" then some missing else none) ⟨true, true, true⟩
        ServiceHooks.bare).2) ∧
    LogLeft (fun st => if st = .buildHandler then some missing else none) true missing
      (LogHooks.start [] []) (LogHooks.instrument
        (fun st => if st = .buildHandler then some missing else none) true
        (LogHooks.start [] [])).2 := by
  refine ⟨(failed_instrument_leaves.1 untouched _ withoutRevertTask missing ?_).1,
    (failed_instrument_leaves.2.1 ⟨true, true, true⟩ _ _ _ _ ?_).1,
    (failed_instrument_leaves.2.2 [] [] [] _ _ _ _ ?_).1⟩
  · rfl
  · rfl
  · rfl

/-- A missing second function leaves the first one patched. -/
theorem failed_patch_stays :
    (TaskflowHooks.instrument withoutRevertTask untouched).1 = .error missing ∧
    taskflowHooks (TaskflowHooks.instrument withoutRevertTask untouched).2.process ≠
      taskflowHooks untouched.process := by
  refine ⟨rfl, fun heq => ?_⟩
  have hfirst : [TaskflowHooks.Layer.traced] = [] :=
    congrFun (congrArg Prod.fst heq) "_execute_task"
  exact absurd hfirst nofun

end OtelOpenstack.FailedInstrument
