import OtelOpenstack.HandOff

/-!
What is left when a flow finishes.

The finish of a flow closes the flow span and nothing else: spans and stashed contexts of
atoms go away with the finish notification and the body of the atom. Which of these are
still to come is read off the events alone.
-/

set_option autoImplicit false

namespace OtelOpenstack.FlowEnd

open Python Otel ContextApi Listener ListenerSteps Engines HandOff

/-- What has been announced and not finished, and which atoms were announced and their
bodies not run since. -/
structure Outstanding where
  phases : Key → Bool
  bodies : ℕ → Bool

def Outstanding.none : Outstanding := ⟨fun _ => false, fun _ => false⟩

section

variable {W Ctx : Type} (graph : List Node)

/-- A phase that is announced again before it has finished is not announced anew. -/
def announce (o : Outstanding) : Meaning → Outstanding
  | .atomStart _ name uuid m =>
    if o.phases (uuid, m) then o
    else
      { phases := Function.update o.phases (uuid, m) true
        bodies := match atomsOf graph name with
          | .none => o.bodies
          | some a => Function.update o.bodies a true }
  | .atomFinish _ uuid m _ _ => { o with phases := Function.update o.phases (uuid, m) false }
  | .flowStart _ => o
  | .flowFinish _ => o
  | .other => o

def note (o : Outstanding) : Event Unit W Ctx → Outstanding
  | .notify _ _ n => announce graph o (meaning n)
  | .enter _ _ a => { o with bodies := Function.update o.bodies a false }
  | .exit _ => o
  | .ambient _ _ => o

/-- What the events of a run leave outstanding. -/
def outstanding (evs : List (Event Unit W Ctx)) : Outstanding :=
  Runs.run (note graph) Outstanding.none evs

variable [DecidableEq W] [ContextApi Ctx]

def flowStep (s : Sys Unit W Ctx) (ev : Event Unit W Ctx) : Sys Unit W Ctx :=
  step (fun _ => graph) s ev

omit [DecidableEq W] [ContextApi Ctx] in
/-- No span is open, and no atom of the engine carries a context. -/
def Clean (s : Sys Unit W Ctx) : Prop :=
  (∀ span ∈ startedSpans s.calls, .finish span ∈ s.calls) ∧
    ∀ a, IsAtom graph a → s.contextAttr a = none

/-- In the next run, up to its own finish, the flow gets a new span and every announced phase
a new span under it. -/
def NextRunFresh (s : Sys Unit W Ctx) : Prop :=
  ∀ (w : W) (n : Notification) (details : Details) (evs : List (Event Unit W Ctx)),
    meaning n = .flowStart details →
    (∀ e w' n' state, .notify e w' n' ∈ evs → meaning n' ≠ .flowFinish state) →
    let s₀ := flowStep graph s (.notify () w n)
    ∃ flow parent, flow ∉ startedSpans s.calls ∧
      s₀.calls = s.calls ++
        [.start flow parent "taskflow.flow.run" .internal (flowAttributes details)] ∧
      ∀ pre w' n' post kind name uuid m, evs = pre ++ .notify () w' n' :: post →
        meaning n' = .atomStart kind name uuid m →
        (outstanding graph pre).phases (uuid, m) = false →
        let t := Runs.run (flowStep graph) s₀ pre
        ∃ span, span ∉ startedSpans t.calls ∧
          (flowStep graph t (.notify () w' n')).calls = t.calls ++
            [.start span flow s!"taskflow.{kind.text}.{m.text}" .internal
              (atomAttributes kind name uuid m)]

/-- The listener's table of spans and the atoms' contexts are what is outstanding. -/
structure Kept (o : Outstanding) (l : TraceListener Ctx) (contextAttr : ℕ → Option Ctx) :
    Prop where
  table : ∀ atoms, l.atomsByName = some atoms → atoms = atomsOf graph
  phases : ∀ key, (l.atomSpans key).isSome = o.phases key
  bodies : ∀ a, (contextAttr a).isSome = o.bodies a
  flowContext : FlowContext l

variable {graph} {o : Outstanding}

omit [DecidableEq W]

lemma kept_init : Kept graph Outstanding.none (TraceListener.init : TraceListener Ctx)
    fun _ => none := by
  refine ⟨?_, ?_, ?_, rfl⟩ <;> simp [TraceListener.init, Outstanding.none]

lemma isSome_update {K T : Type} [DecidableEq K] {f : K → Option T} {g : K → Bool}
    (h : ∀ k, (f k).isSome = g k) (j : K) (x : Option T) (k : K) :
    (Function.update f j x k).isSome = Function.update g j x.isSome k := by
  by_cases hk : k = j
  · subst hk
    simp
  · simp [hk, h k]

variable {w : TfWorld Ctx}

lemma Kept.atomTable (h : Kept graph o w.host.listener w.host.contextAttr)
    (hg : w.host.executionGraph = graph) : atomTable w = atomsOf graph := by
  rcases hl : w.host.listener.atomsByName with _ | atoms
  · simp [ListenerSteps.atomTable, hl, hg]
  · simp [ListenerSteps.atomTable, hl, h.table atoms hl]

lemma Kept.free (h : Kept graph o w.host.listener w.host.contextAttr) {key : Key}
    (hkey : o.phases key = false) : w.host.listener.atomSpans key = none := by
  rw [← Option.not_isSome_iff_eq_none, h.phases, hkey]
  simp

lemma Kept.react_start (h : Kept graph o w.host.listener w.host.contextAttr) {kind : Kind}
    {name uuid : Val} {m : Method} (hfree : o.phases (uuid, m) = false) :
    react (.atomStart kind name uuid m) w =
      handedOff name (nextAtomSpan w) (openedAtom kind name uuid m w) := by
  rw [react, startedAtom, h.free hfree]

/-- A notification keeps table and contexts in step with what is outstanding. -/
lemma Kept.react (h : Kept graph o w.host.listener w.host.contextAttr)
    (hg : w.host.executionGraph = graph) (m : Meaning) :
    Kept graph (announce graph o m) (react m w).host.listener (react m w).host.contextAttr := by
  have hctx := h.flowContext.react m
  rcases m with details | state | ⟨kind, name, uuid, m⟩ |
      ⟨kind, uuid, m, isFailure, details⟩ | _
  · rcases hf : w.host.listener.flowSpan with _ | span
    · simp only [ListenerSteps.react, hf] at hctx ⊢
      exact ⟨h.table, h.phases, h.bodies, hctx⟩
    · simpa [ListenerSteps.react, hf, announce] using h
  · rcases hf : w.host.listener.flowSpan with _ | span <;>
      simp only [ListenerSteps.react, finishedFlow, hf] at hctx ⊢ <;>
      exact ⟨h.table, h.phases, h.bodies, hctx⟩
  · by_cases hopen : o.phases (uuid, m) = true
    · have hsome : (w.host.listener.atomSpans (uuid, m)).isSome := by rw [h.phases, hopen]
      obtain ⟨span, hspan⟩ := Option.isSome_iff_exists.mp hsome
      simpa [ListenerSteps.react, startedAtom, hspan, announce, hopen] using h
    · rw [Bool.not_eq_true] at hopen
      have htable : ListenerSteps.atomTable (openedAtom kind name uuid m w) = atomsOf graph :=
        h.atomTable hg
      have hattr : (openedAtom kind name uuid m w).host.contextAttr = w.host.contextAttr := rfl
      have hcur : (openedAtom kind name uuid m w).current = w.current := rfl
      rw [h.react_start hopen] at hctx ⊢
      refine ⟨?_, ?_, ?_, hctx⟩
      · intro atoms hatoms
        simpa [handedOff, htable, eq_comm] using hatoms
      · intro key
        simpa [announce, hopen, handedOff, openedAtom, withListener, World.called] using
          isSome_update h.phases (uuid, m) (some (nextAtomSpan w)) key
      · intro a
        rcases ha : atomsOf graph name with _ | b
        · simpa [announce, hopen, handedOff, htable, ha, hattr] using h.bodies a
        · simpa [announce, hopen, handedOff, htable, ha, hattr, hcur] using
            isSome_update h.bodies b (some (setSpan (nextAtomSpan w) w.current)) a
  · have hphases : ∀ key,
        (Function.update w.host.listener.atomSpans (uuid, m) none key).isSome =
          (announce graph o (.atomFinish kind uuid m isFailure details)).phases key :=
      isSome_update h.phases (uuid, m) none
    rcases hs : w.host.listener.atomSpans (uuid, m) with _ | span
    · rw [Function.update_eq_self_iff.mpr hs.symm] at hphases
      simp only [ListenerSteps.react, finishedAtom, hs] at hctx ⊢
      exact ⟨h.table, hphases, h.bodies, hctx⟩
    · simp only [ListenerSteps.react, finishedAtom, hs] at hctx ⊢
      exact ⟨h.table, hphases, h.bodies, hctx⟩
  · exact h

/-! ### Runs -/

variable [DecidableEq W] {s : Sys Unit W Ctx}

/-- The listener, the atoms and the events agree. -/
structure InStep (graph : List Node) (o : Outstanding) (s : Sys Unit W Ctx) : Prop where
  held : Held s
  kept : Kept graph o (s.listeners ()) s.contextAttr

omit [DecidableEq W] in
lemma inStep_init (current : W → Ctx) : InStep graph Outstanding.none (Sys.init current) :=
  ⟨held_init current, kept_init⟩

lemma flowStep_notify (s : Sys Unit W Ctx) (w : W) (n : Notification) :
    flowStep graph s (.notify () w n) =
      s.store () w (react (meaning n) (s.view (fun _ => graph) () w)) := by
  rw [flowStep, step_notify]

lemma inStep_step (h : InStep graph o s) (ev : Event Unit W Ctx) :
    InStep graph (note graph o ev) (flowStep graph s ev) := by
  refine ⟨held_step _ s ev h.held, ?_⟩
  rcases ev with ⟨e, w, n⟩ | ⟨e, w, a⟩ | w | ⟨w, c⟩
  · rw [flowStep_notify]
    have hk : Kept graph o (s.view (fun _ => graph) () w).host.listener
      (s.view (fun _ => graph) () w).host.contextAttr := h.kept
    exact hk.react rfl (meaning n)
  · rw [flowStep, step_enter]
    refine ⟨h.kept.table, h.kept.phases, ?_, h.kept.flowContext⟩
    exact isSome_update h.kept.bodies a none
  · rcases hf : s.frames w with _ | ⟨f, fs⟩
    · simpa [flowStep, step, hf, note] using h.kept
    · rw [flowStep, step_exit s hf]
      exact h.kept
  · exact h.kept

lemma inStep_run (h : InStep graph o s) (evs : List (Event Unit W Ctx)) :
    InStep graph (Runs.run (note graph) o evs) (Runs.run (flowStep graph) s evs) := by
  induction evs generalizing o s with
  | nil => exact h
  | cons ev evs ih => exact ih (inStep_step h ev)

omit [DecidableEq W] in
lemma react_flowSpan {flow : SpanContext} {m : Meaning} (hm : ∀ state, m ≠ .flowFinish state)
    (hw : w.host.listener.flowSpan = some flow) :
    (react m w).host.listener.flowSpan = some flow := by
  rcases m with details | state | ⟨kind, name, uuid, m⟩ |
      ⟨kind, uuid, m, isFailure, details⟩ | _
  · simp [react, hw]
  · exact absurd rfl (hm state)
  · rcases hs : w.host.listener.atomSpans (uuid, m) with _ | _ <;>
      simp only [react, startedAtom, hs] <;> exact hw
  · rcases hs : w.host.listener.atomSpans (uuid, m) with _ | _ <;>
      simp only [react, finishedAtom, hs] <;> exact hw
  · exact hw

/-- The flow span stays what it is until the flow finishes. -/
lemma flowSpan_run {flow : SpanContext} {evs : List (Event Unit W Ctx)}
    (hevs : ∀ e w n state, .notify e w n ∈ evs → meaning n ≠ .flowFinish state)
    (hs : (s.listeners ()).flowSpan = some flow) :
    ((Runs.run (flowStep graph) s evs).listeners ()).flowSpan = some flow := by
  induction evs generalizing s with
  | nil => exact hs
  | cons ev evs ih =>
    refine ih (fun e w n state hm => hevs e w n state (List.mem_cons_of_mem _ hm)) ?_
    rcases ev with ⟨e, w, n⟩ | ⟨e, w, a⟩ | w | ⟨w, c⟩
    · rw [flowStep_notify]
      exact react_flowSpan (fun state => hevs e w n state (List.mem_cons_self ..)) hs
    · rw [flowStep, step_enter]
      exact hs
    · rcases hf : s.frames w with _ | ⟨f, fs⟩
      · simpa [flowStep, step, hf] using hs
      · rw [flowStep, step_exit s hf]
        exact hs
    · exact hs

/-! ### The finish of a flow -/

/-- The finish of a flow ends its span and touches no atom. -/
lemma flowStep_finish (s : Sys Unit W Ctx) {w : W} {n : Notification} {state : State}
    (hn : meaning n = .flowFinish state) :
    let t := flowStep graph s (.notify () w n)
    (t.listeners ()).flowSpan = none ∧
      (t.listeners ()).atomSpans = (s.listeners ()).atomSpans ∧
      t.contextAttr = s.contextAttr := by
  intro t
  have ht : t = s.store () w (finishedFlow state (s.view (fun _ => graph) () w)) := by
    simp only [t, flowStep_notify, hn, react]
  rcases hf : (s.listeners ()).flowSpan with _ | span <;>
    simp [ht, Sys.store, finishedFlow, Sys.view, hf, tookFlow, withListener, World.called]

omit [DecidableEq W] in
/-- With nothing outstanding at its finish, a flow leaves nothing behind. -/
lemma InStep.clean (h : InStep graph o s) (hflow : (s.listeners ()).flowSpan = none)
    (hphases : ∀ key, o.phases key = false) (hbodies : ∀ a, IsAtom graph a → o.bodies a = false) :
    Clean graph s := by
  refine ⟨fun span hspan => ?_, fun a ha => ?_⟩
  · rcases h.held.accounted span hspan with hend | ⟨⟨_, _ | key⟩, hk⟩
    · exact hend
    · have hk : (s.listeners ()).flowSpan = some span := hk
      simp [hflow] at hk
    · have hk : (s.listeners ()).atomSpans key = some span := hk
      have := h.kept.phases key
      simp [hk, hphases key] at this
  · have := h.kept.bodies a
    rw [hbodies a ha] at this
    simpa using this

omit [DecidableEq W] in
/-- What is outstanding stays behind. -/
lemma InStep.outstanding_of_clean (h : InStep graph o s) (hclean : Clean graph s) :
    (∀ key, o.phases key = false) ∧ ∀ a, IsAtom graph a → o.bodies a = false := by
  refine ⟨fun key => ?_, fun a ha => ?_⟩
  · rcases hk : (s.listeners ()).atomSpans key with _ | span
    · rw [← h.kept.phases key, hk]
      rfl
    · have hheld : Engines.held s ((), .atom key) = some span := hk
      exact absurd (hclean.1 span (h.held.started _ span hheld)) (h.held.unended _ span hheld)
  · rw [← h.kept.bodies a, hclean.2 a ha]
    rfl

omit [ContextApi Ctx] [DecidableEq W] in
/-- Which phases are outstanding does not depend on the bodies. -/
lemma phases_note {o o' : Outstanding} (h : o.phases = o'.phases) (ev : Event Unit W Ctx) :
    (note graph o ev).phases = (note graph o' ev).phases := by
  rcases ev with ⟨e, w, n⟩ | ⟨e, w, a⟩ | w | ⟨w, c⟩
  · rcases hn : meaning n with details | state | ⟨kind, name, uuid, m⟩ |
        ⟨kind, uuid, m, isFailure, details⟩ | _
    · simpa [note, hn, announce] using h
    · simpa [note, hn, announce] using h
    · by_cases hopen : o'.phases (uuid, m) = true <;> simp [note, hn, announce, h, hopen]
    · simp [note, hn, announce, h]
    · simpa [note, hn, announce] using h
  · exact h
  · exact h
  · exact h

omit [ContextApi Ctx] [DecidableEq W] in
lemma phases_run {o o' : Outstanding} (h : o.phases = o'.phases) (evs : List (Event Unit W Ctx)) :
    (Runs.run (note graph) o evs).phases = (Runs.run (note graph) o' evs).phases := by
  induction evs generalizing o o' with
  | nil => exact h
  | cons ev evs ih => exact ih (phases_note h ev)

/-- A phase that is not outstanding gets a new span under the flow's. -/
lemma InStep.start_fresh (h : InStep graph o s) {flow : SpanContext}
    (hflow : (s.listeners ()).flowSpan = some flow) {w : W} {n : Notification} {kind : Kind}
    {name uuid : Val} {m : Method} (hn : meaning n = .atomStart kind name uuid m)
    (hfree : o.phases (uuid, m) = false) :
    ∃ span, span ∉ startedSpans s.calls ∧
      (flowStep graph s (.notify () w n)).calls = s.calls ++
        [.start span flow s!"taskflow.{kind.text}.{m.text}" .internal
          (atomAttributes kind name uuid m)] := by
  let v := s.view (fun _ => graph) () w
  have hk : Kept graph o v.host.listener v.host.contextAttr := h.kept
  refine ⟨nextAtomSpan v, newSpan_fresh h.held.numbered _, ?_⟩
  rw [flowStep_notify, hn, hk.react_start hfree, ← hk.flowContext.atomParent hflow]
  rfl

/-- With no phase outstanding, the next run starts afresh. -/
lemma InStep.nextRunFresh (h : InStep graph o s) (hflow : (s.listeners ()).flowSpan = none)
    (hphases : ∀ key, o.phases key = false) : NextRunFresh graph s := by
  intro w n details evs hn hevs s₀
  let v := s.view (fun _ => graph) () w
  have hv : s₀ = s.store () w (startedFlow details v) := by
    have hnone : v.host.listener.flowSpan = none := hflow
    simp only [s₀, flowStep_notify, hn, react]
    rw [if_neg (by simp only [v] at hnone; simp [hnone])]
  have hstart := inStep_step h (.notify () w n)
  refine ⟨nextFlowSpan v, spanIn v.current, newSpan_fresh h.held.numbered _, by rw [hv]; rfl, ?_⟩
  rintro pre w' n' post kind name uuid m rfl hn' hfree t
  have ht := inStep_run hstart pre
  have hspan : (t.listeners ()).flowSpan = some (nextFlowSpan v) := by
    refine flowSpan_run (fun e w n state hm => hevs e w n state ?_) ?_
    · exact List.mem_append_left _ hm
    · rw [hv]
      simp [Sys.store, startedFlow, withListener]
  refine ht.start_fresh hspan hn' ?_
  have hsame :
      (note graph o (.notify () w n : Event Unit W Ctx)).phases = Outstanding.none.phases := by
    simp only [note, hn, announce]
    exact funext hphases
  rw [phases_run hsame]
  exact hfree

/-- **The finish of a flow.** It leaves no span open, no context on an atom, and the next run
a fresh start, exactly when every phase announced has had its finish notification and every
atom handed a context its body. -/
theorem flow_finish_clean_iff (graph : List Node) (current : W → Ctx)
    (evs : List (Event Unit W Ctx)) (w : W) (n : Notification) (state : State)
    (hn : meaning n = .flowFinish state) :
    let t := Runs.run (flowStep graph) (Sys.init current) (evs ++ [.notify () w n])
    (Clean graph t ∧ NextRunFresh graph t) ↔
      (∀ key, (outstanding graph evs).phases key = false) ∧
        ∀ a, IsAtom graph a → (outstanding graph evs).bodies a = false := by
  intro t
  have hrun : InStep graph (outstanding graph evs) _ := inStep_run (inStep_init current) evs
  have ht : t = flowStep graph (Runs.run (flowStep graph) (Sys.init current) evs)
      (.notify () w n) := Runs.run_snoc ..
  have hstep := inStep_step hrun (.notify () w n)
  simp only [note, hn, announce, ← ht] at hstep
  have hnone : (t.listeners ()).flowSpan = none := by
    rw [ht]
    exact (flowStep_finish _ hn).1
  constructor
  · rintro ⟨hclean, -⟩
    exact hstep.outstanding_of_clean hclean
  · rintro ⟨hphases, hbodies⟩
    exact ⟨hstep.clean hnone hphases hbodies, hstep.nextRunFresh hnone hphases⟩

end

def flowNotification (state : State) : Notification := .flow state ⟨.str, .other⟩

/-- A task that is announced and finished, its body run. -/
theorem flow_finish_clean_iff_oneTask :
    let evs : List (Event Unit Bool BareContext) :=
      [.notify () false (flowNotification .running),
        .notify () false (taskNotification .running), .enter () true 0, .exit true,
        .notify () false (taskNotification .success)]
    let t := Runs.run (flowStep oneTask.graph) (Sys.init fun _ => empty)
      (evs ++ [.notify () false (flowNotification .success)])
    (Clean oneTask.graph t ∧ NextRunFresh oneTask.graph t) ↔
      (∀ key, (outstanding oneTask.graph evs).phases key = false) ∧
        ∀ a, IsAtom oneTask.graph a → (outstanding oneTask.graph evs).bodies a = false :=
  flow_finish_clean_iff oneTask.graph _ _ false _ .success rfl

/-- A task that is announced, and then the flow fails: its span stays open. -/
theorem flow_finish_not_clean :
    ¬ ∀ (evs : List (Event Unit Unit BareContext)) (n : Notification) (state : State),
      meaning n = .flowFinish state →
      let t := Runs.run (flowStep oneTask.graph) (Sys.init fun _ => empty)
        (evs ++ [.notify () () n])
      Clean oneTask.graph t ∧ NextRunFresh oneTask.graph t := by
  intro h
  obtain ⟨⟨hopen, -⟩, -⟩ := h
    [.notify () () (flowNotification .running), .notify () () (taskNotification .running)]
    (flowNotification .failure) .failure rfl
  exact absurd hopen (by decide)

end OtelOpenstack.FlowEnd
