import OtelOpenstack.LogHooks

/-!
The exporting handler across `oslo_log.log.setup`.

`setup` drops the handler with all the others, and the guard puts it back once `setup` has
returned; after a `setup` that raises nobody does.
-/

set_option autoImplicit false

namespace OtelOpenstack.LogSetup

open Effects Hooks Python Runs LogHooks

/-- While oslo.log is instrumented its handler is on the root logger once; while it is not, no
`OsloLogHandler` is. -/
def Attached (s : Instrumented Process) : Prop :=
  if s.on then ∃ n, s.process.handler = some n ∧ s.process.handlers.count (.otel n) = 1
  else NoOtel s.process.handlers

/-- The operation loses no handler and leaves none behind: `instrument` does not raise at its
last step, `setup` returns while oslo.log is instrumented, and while it is not, no kept guard
finds a handler to add. -/
def Safe (s : Instrumented Process) : Event → Prop
  | .instrument fails setLoggingFormat =>
    s.on = false → raisesAt fails (steps setLoggingFormat) ≠ some .wrapSetup
  | .setup via _ outcome =>
    if s.on then ∃ v, outcome = .ok v
    else ∀ v guards, outcome = .ok v → via = .kept guards → s.process.handler = none
  | _ => True

/-- The guard is on `setup` while oslo.log is instrumented, and the handler on the root logger. -/
structure Guarded (s : Instrumented Process) : Prop where
  on : s.on = true → s.process.guards = 1 ∧
    ∃ n, s.process.handler = some n ∧ Only n s.process.handlers
  off : s.on = false → s.process.guards = 0 ∧ NoOtel s.process.handlers

lemma Guarded.attached {s : Instrumented Process} (h : Guarded s) : Attached s := by
  unfold Attached
  rcases hon : s.on with _ | _
  · simpa using (h.off hon).2
  · obtain ⟨-, n, hn, honly⟩ := h.on hon
    exact ⟨n, hn, honly.1⟩

lemma guarded_start (hosts layers : List ℕ) : Guarded (start hosts layers) :=
  ⟨nofun, fun _ => ⟨rfl, noOtel_hosts hosts⟩⟩

/-! ### One operation -/

lemma guards_firstSteps (setLoggingFormat : Bool) :
    ∀ st ∈ firstSteps setLoggingFormat, ∀ p : Process, (st.2 p).guards = p.guards := by
  have hconfig : ∀ p, (basicConfig p).guards = p.guards := by
    intro p
    unfold basicConfig
    split <;> rfl
  cases setLoggingFormat <;> simp [firstSteps, hconfig, installRecordFactory, buildHandler]

lemma guards_attachHandler (p : Process) : (attachHandler p).guards = p.guards := by
  unfold attachHandler
  split
  · rfl
  · split <;> rfl

/-- Every step but the last leaves the guard alone. -/
lemma guards_of_error {setLoggingFormat : Bool} {done rest : List (Stage × (Process → Process))}
    {q : Stage × (Process → Process)} (hsteps : steps setLoggingFormat = done ++ q :: rest)
    (p : Process) : (changes done p).guards = p.guards := by
  have hinit : firstSteps setLoggingFormat ++ [(.attachHandler, attachHandler)] =
      done ++ (q :: rest).dropLast := by
    rw [← List.dropLast_append_of_ne_nil (List.cons_ne_nil q rest), ← hsteps]
    cases setLoggingFormat <;> rfl
  have hkeep : ∀ st ∈ done, ∀ r : Process, (st.2 r).guards = r.guards := by
    intro st hst
    have hmem : st ∈ firstSteps setLoggingFormat ++ [(.attachHandler, attachHandler)] := by
      rw [hinit]
      exact List.mem_append_left _ hst
    rcases List.mem_append.mp hmem with hfirst | hattach
    · exact guards_firstSteps setLoggingFormat st hfirst
    · obtain rfl := List.mem_singleton.mp hattach
      exact guards_attachHandler
  exact changes_keeps (P := fun r => r.guards = p.guards)
    (fun st hst r hr => (hkeep st hst r).trans hr) rfl

lemma guards_steps (setLoggingFormat : Bool) (p : Process) :
    (changes (steps setLoggingFormat) p).guards = p.guards + 1 := by
  have hfirst : (changes (firstSteps setLoggingFormat) p).guards = p.guards :=
    changes_keeps (P := fun r => r.guards = p.guards)
      (fun st hst r hr => (guards_firstSteps setLoggingFormat st hst r).trans hr) rfl
  rw [changes_steps, wrapSetup, guards_attachHandler, hfirst]

/-- A handler that is alone on the root logger is gone once it is removed. -/
lemma noOtel_uninstrument {p : Process} {n : ℕ} (hn : p.handler = some n)
    (honly : Only n p.handlers) :
    NoOtel (detachHandler (unwrapSetup (putFactoryBack p))).handlers := by
  have hback : (putFactoryBack p).handler = p.handler ∧
      (putFactoryBack p).handlers = p.handlers := by
    unfold putFactoryBack
    split <;> exact ⟨rfl, rfl⟩
  have hdetach : (detachHandler (unwrapSetup (putFactoryBack p))).handlers =
      removeHandler p.handlers (.otel n) := by
    simp [detachHandler, unwrapSetup, hback, hn]
  rw [hdetach]
  exact noOtel_removeHandler honly

lemma guards_uninstrument (p : Process) :
    (detachHandler (unwrapSetup (putFactoryBack p))).guards = p.guards - 1 := by
  have hback : (putFactoryBack p).guards = p.guards := by
    unfold putFactoryBack
    split <;> rfl
  unfold detachHandler
  split <;> simp [unwrapSetup, hback]

/-- **One `setup`.** While oslo.log is instrumented, its handler is there again if and only if
`setup` returned. -/
lemma setup_on {p : Process} {n : ℕ} (hn : p.handler = some n) {guards : ℕ} (hg : 0 < guards)
    (added : List ℕ) (outcome : Except Exn Val) :
    let q := (guardedSetup guards (setup added outcome) p).2
    q.guards = p.guards ∧ q.handler = some n ∧
      ((∃ v, outcome = .ok v) → Only n q.handlers) ∧
      ((∃ e, outcome = .error e) → NoOtel q.handlers) := by
  obtain ⟨guards, rfl⟩ : ∃ m, guards = m + 1 := ⟨guards - 1, by omega⟩
  cases outcome with
  | error e =>
    rw [guardedSetup_of_error]
    exact ⟨rfl, hn, by simp, fun _ => noOtel_hosts added⟩
  | ok v =>
    rw [guardedSetup_of_ok, attachHandler_rebuild, hn]
    exact ⟨rfl, rfl, fun _ => only_append (noOtel_hosts added) n, by simp⟩

/-- While it is not instrumented, there is a handler afterwards if and only if a kept guard
finds one to add. -/
lemma setup_off {s : Instrumented Process} (hoff : s.on = false) (hg : s.process.guards = 0)
    (via : Reference) (added : List ℕ) (outcome : Except Exn Val) :
    let q := (callSetup via added outcome s.process).2
    q.guards = 0 ∧ (NoOtel q.handlers ↔ Safe s (.setup via added outcome)) := by
  have hhosts : NoOtel (rebuild added s.process).handlers := noOtel_hosts added
  simp only [Safe, hoff, Bool.false_eq_true, if_false, callSetup]
  cases outcome with
  | error e =>
    rw [guardedSetup_of_error]
    exact ⟨hg, iff_of_true hhosts nofun⟩
  | ok v =>
    cases via with
    | current =>
      rw [guardsOn, hg, guardedSetup_zero]
      exact ⟨hg, iff_of_true hhosts nofun⟩
    | kept guards =>
      rw [guardsOn, guardedSetup_of_ok, attachHandler_rebuild]
      refine ⟨hg, fun hno v' guards' _ _ => ?_, fun hsafe => ?_⟩
      · rcases hp : s.process.handler with _ | n
        · rfl
        · exact absurd (by simp [hp]) (hno n)
      · rw [hsafe v guards rfl rfl]
        simpa [rebuild] using hhosts

/-- If the last step of `instrument()` raises, the handler is there and the instrumentor is off. -/
lemma instrument_spec {s : Instrumented Process} (h : Guarded s) (fails : Stage → Option Exn)
    (setLoggingFormat : Bool) :
    let e := Event.instrument fails setLoggingFormat
    (Attached (step s e) → Safe s e) ∧ (Safe s e → Guarded (step s e)) := by
  dsimp only
  rcases hon : s.on with _ | _
  · obtain ⟨hg, hno⟩ := h.off hon
    simp only [Safe, hon, forall_const]
    rcases step_instrument s hon fails setLoggingFormat with
      ⟨hraise, hstep⟩ | ⟨done, q, rest, hsteps, hraise, hstep⟩
    · obtain ⟨n, hn, honly⟩ := only_steps setLoggingFormat hno
      rw [hstep, hraise]
      refine ⟨fun _ => nofun, fun _ => ⟨fun _ => ⟨?_, n, hn, honly⟩, nofun⟩⟩
      simp [guards_steps, hg]
    · have hlast := noOtel_of_error setLoggingFormat hsteps hno
      rw [hstep, hraise]
      simp only [Attached, Bool.false_eq_true, if_false, ne_eq, Option.some.injEq]
      refine ⟨hlast.mp, fun hne => ⟨nofun, fun _ => ⟨?_, hlast.mpr hne⟩⟩⟩
      simp [guards_of_error hsteps, hg]
  · rw [step_instrument_of_on s hon]
    exact ⟨fun _ => by simp [Safe, hon], fun _ => h⟩

lemma guarded_uninstrument {s : Instrumented Process} (h : Guarded s) :
    Guarded (step s .uninstrument) := by
  rcases hon : s.on with _ | _
  · rw [step_uninstrument_of_off s hon]
    exact h
  · obtain ⟨hg, n, hn, honly⟩ := h.on hon
    rw [step_uninstrument s hon]
    refine ⟨nofun, fun _ => ⟨?_, noOtel_uninstrument hn honly⟩⟩
    rw [guards_uninstrument, hg]

lemma setup_spec {s : Instrumented Process} (h : Guarded s) (via : Reference) (added : List ℕ)
    (outcome : Except Exn Val) :
    let e := Event.setup via added outcome
    (Attached (step s e) → Safe s e) ∧ (Safe s e → Guarded (step s e)) := by
  dsimp only
  rcases hon : s.on with _ | _
  · obtain ⟨hg, -⟩ := h.off hon
    obtain ⟨hguards, hiff⟩ := setup_off hon hg via added outcome
    refine ⟨fun hatt => ?_, fun hsafe => ⟨?_, fun _ => ⟨hguards, hiff.mpr hsafe⟩⟩⟩
    · simp only [Attached, step, hon, Bool.false_eq_true, if_false] at hatt
      exact hiff.mp hatt
    · intro hon'
      simp [step, hon] at hon'
  · obtain ⟨hg, n, hn, -⟩ := h.on hon
    have hpos : 0 < guardsOn s.process via := by
      cases via <;> simp [guardsOn, hg]
    obtain ⟨hguards, hn', hok, herr⟩ := setup_on hn hpos added outcome
    simp only [Safe, hon, if_true]
    refine ⟨fun hatt => ?_, fun hsafe => ⟨fun _ => ⟨?_, n, hn', hok hsafe⟩, ?_⟩⟩
    · cases outcome with
      | ok v => exact ⟨v, rfl⟩
      | error e =>
        simp only [Attached, step, hon, if_true] at hatt
        obtain ⟨m, -, hcount⟩ := hatt
        have hnone := List.count_eq_zero_of_not_mem (herr ⟨e, rfl⟩ m)
        simp only [callSetup] at hcount
        omega
    · exact hguards.trans hg
    · intro hoff
      simp [step, hon] at hoff

/-- **One operation.** After it the handler is where it is to be if and only if the operation is
a safe one, and then the guard is too. -/
lemma step_spec {s : Instrumented Process} (h : Guarded s) (e : Event) :
    (Attached (step s e) → Safe s e) ∧ (Safe s e → Guarded (step s e)) := by
  cases e with
  | instrument fails setLoggingFormat => exact instrument_spec h fails setLoggingFormat
  | uninstrument => exact ⟨fun _ => trivial, fun _ => guarded_uninstrument h⟩
  | setup via added outcome => exact setup_spec h via added outcome
  | factoryOn id => exact ⟨fun _ => trivial, fun _ => ⟨h.on, h.off⟩⟩
  | factoryOff id => exact ⟨fun _ => trivial, fun _ => ⟨h.on, h.off⟩⟩

/-- `setup` ends as it does without the guard, and the handlers it added stay. -/
lemma setup_outcome (p : Process) (via : Reference) (added : List ℕ) (outcome : Except Exn Val) :
    (callSetup via added outcome p).1 = outcome ∧
      (callSetup via added outcome p).2.handlers.filter (fun h => !h.isOtel) =
        added.map .host := by
  have hhosts : (added.map Handler.host).filter (fun h => !h.isOtel) = added.map .host := by
    simp [List.filter_eq_self, Handler.isOtel]
  unfold callSetup
  cases outcome with
  | error e =>
    rw [guardedSetup_of_error]
    exact ⟨rfl, hhosts⟩
  | ok v =>
    cases guardsOn p via with
    | zero =>
      rw [guardedSetup_zero]
      exact ⟨rfl, hhosts⟩
    | succ n =>
      rw [guardedSetup_of_ok, attachHandler_rebuild]
      refine ⟨rfl, ?_⟩
      rcases hp : p.handler with _ | m <;> simp [Handler.isOtel]

/-! ### The theorem -/

/-- **The handler survives every `setup` that returns.** A run of switches, of `setup` calls and
of other packages' changes has the handler where it is to be after every operation exactly when
every operation of it is safe; `setup` passes its outcome on and keeps its handlers in any
state. -/
theorem attached_iff (hosts layers : List ℕ) (es : List Event) :
    (Legal (fun s e => Attached (step s e)) step (start hosts layers) es ↔
      Legal Safe step (start hosts layers) es) ∧
    ∀ s via added outcome, (callSetup via added outcome s).1 = outcome ∧
      (callSetup via added outcome s).2.handlers.filter (fun h => !h.isOtel) =
        added.map .host := by
  refine ⟨?_, setup_outcome⟩
  refine legal_iff (I := Guarded) (fun s e h => ?_) (fun s e h hatt => ?_)
    (guarded_start hosts layers) es
  · obtain ⟨hsafe, hguarded⟩ := step_spec h e
    exact ⟨hsafe, fun hs => (hguarded hs).attached⟩
  · obtain ⟨hsafe, hguarded⟩ := step_spec h e
    exact hguarded (hsafe hatt)

/-- After a `setup` that raised, oslo.log is instrumented and its handler is gone. -/
theorem setup_raised_detaches :
    ¬ Legal (fun s e => Attached (step s e)) step (start [] [])
      [.instrument (fun _ => none) false,
        .setup .current [] (.error (exn "ConfigError" ""))] := by
  rintro ⟨-, hatt, -⟩
  obtain ⟨n, -, hcount⟩ := hatt
  exact absurd hcount (by simp [step, callSetup, guardsOn, guardedSetup_of_error, rebuild])

end OtelOpenstack.LogSetup
