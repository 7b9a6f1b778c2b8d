import OtelOpenstack.ListenerSteps
import OtelOpenstack.Runs
import OtelOpenstack.TaskflowHooks

/-!
Engines that are constructed and run while TaskFlow instrumentation is switched on and off.

An engine gets its listener when it is constructed, and keeps it; the executor functions are
those of the moment they are called.
-/

set_option autoImplicit false

namespace OtelOpenstack.TaskflowSwitch

open Effects Hooks Python Otel ContextApi Listener ListenerSteps TaskflowHooks

/-! ### Runs of engines -/

section

variable {Ctx : Type}

/-- `Engine.__init__`: the listeners attached to a new engine. -/
def initEngine : List Layer → List (TraceListener Ctx)
  | [] => []
  | .traced :: layers => initEngine layers ++ [TraceListener.init]
  | .other _ :: layers => initEngine layers

/-- A call of an executor function, of a body that does nothing to atoms and spans. -/
def atomBody (atom : ℕ) : List Layer → ListenerCode Ctx Unit
  | [] => pure ()
  | .traced :: layers => tracedAtomBody (atomBody atom layers) atom
  | .other _ :: layers => atomBody atom layers

/-- What an engine does while it runs, under a current context. -/
inductive Act (Ctx : Type)
  | notify (c : Ctx) (n : Notification)
  | body (c : Ctx) (function : String) (atom : ℕ)

/-- The calls made, the atoms' contexts, and the listeners of the engine that runs. -/
structure Running (Ctx : Type) where
  calls : List Call
  contextAttr : ℕ → Option Ctx
  listeners : List (TraceListener Ctx)

variable [ContextApi Ctx] (graph : List Node) (bodies : Table String Layer)

/-- A notification goes to every listener, one after the other. -/
def notifyAll (c : Ctx) (n : Notification) (r : Running Ctx) : Running Ctx :=
  r.listeners.foldl (fun r l =>
    let w := (receive noFaults n ⟨c, r.calls, [], ⟨l, graph, r.contextAttr⟩⟩).2
    ⟨w.calls, w.host.contextAttr, r.listeners ++ [w.host.listener]⟩) { r with listeners := [] }

def act (r : Running Ctx) : Act Ctx → Running Ctx
  | .notify c n => notifyAll graph c n r
  | .body c function atom =>
    let w := (atomBody atom (bodies function)
      ⟨c, r.calls, [], ⟨TraceListener.init, graph, r.contextAttr⟩⟩).2
    { r with calls := w.calls, contextAttr := w.host.contextAttr }

/-- From the start of the flow to its one finish. -/
def Complete (acts : List (Act Ctx)) : Prop :=
  ∃ c n details middle d m state, acts = .notify c n :: (middle ++ [.notify d m]) ∧
    meaning n = .flowStart details ∧ meaning m = .flowFinish state ∧
    ∀ c' n', .notify c' n' ∈ middle → ∀ state', meaning n' ≠ .flowFinish state'

/-! ### The process -/

structure Sys (E Ctx : Type) where
  taskflow : Instrumented Process
  calls : List Call
  contextAttr : ℕ → Option Ctx
  listeners : E → List (TraceListener Ctx)
  /-- Whether TaskFlow was instrumented when the engine was constructed. -/
  constructed : E → Option Bool

inductive Event (E Ctx : Type)
  | instrument (fails : Failures)
  | uninstrument
  | construct (e : E)
  | run (e : E) (acts : List (Act Ctx))

variable {E : Type}

/-- TaskFlow as it comes, and no engines. -/
def start : Sys E Ctx :=
  ⟨⟨false, fun _ => [], [], none, none⟩, [], fun _ => none, fun _ => [], fun _ => none⟩

/-- Engines run complete runs, and only constructed ones do. -/
def May (s : Sys E Ctx) : Event E Ctx → Prop
  | .run e acts => s.constructed e ≠ none ∧ Complete acts
  | _ => True

variable [DecidableEq E] (graphs : E → List Node)

/-- A run of an engine. -/
def ran (s : Sys E Ctx) (e : E) (acts : List (Act Ctx)) : Running Ctx :=
  acts.foldl (act (graphs e) s.taskflow.process.bodies)
    ⟨s.calls, s.contextAttr, s.listeners e⟩

def step (s : Sys E Ctx) : Event E Ctx → Sys E Ctx
  | .instrument fails => { s with taskflow := (instrument fails s.taskflow).2 }
  | .uninstrument => { s with taskflow := (uninstrument s.taskflow).2 }
  | .construct e =>
    { s with
      listeners := Function.update s.listeners e (initEngine s.taskflow.process.engineInit)
      constructed := Function.update s.constructed e (some s.taskflow.on) }
  | .run e acts =>
    let r := ran graphs s e acts
    { s with
      calls := r.calls
      contextAttr := r.contextAttr
      listeners := Function.update s.listeners e r.listeners }

/-- The run makes no call on a tracer, and leaves no context of its own on an atom. -/
def Silent (s : Sys E Ctx) (e : E) (acts : List (Act Ctx)) : Prop :=
  let t := step graphs s (.run e acts)
  t.calls = s.calls ∧ ∀ a, t.contextAttr a = s.contextAttr a ∨ t.contextAttr a = none

/-- The spans of flows among what was started. -/
def flowStarts (calls : List Call) : ℕ :=
  calls.countP fun c => match c with
    | .start _ _ name _ _ => name == "taskflow.flow.run"
    | _ => false

def OneFlowSpan (s : Sys E Ctx) (e : E) (acts : List (Act Ctx)) : Prop :=
  flowStarts (step graphs s (.run e acts)).calls = flowStarts s.calls + 1

end

/-! ### Bodies -/

section

variable {Ctx : Type}

/-- No call is made, and contexts are at most taken off atoms. -/
def Taken (w v : TfWorld Ctx) : Prop :=
  v.calls = w.calls ∧ ∀ a, v.host.contextAttr a = w.host.contextAttr a ∨ v.host.contextAttr a = none

lemma taken_refl (w : TfWorld Ctx) : Taken w w := ⟨rfl, fun _ => Or.inl rfl⟩

lemma taken_trans (u v w : TfWorld Ctx) (h : Taken u v) (h' : Taken v w) : Taken u w := by
  refine ⟨h'.1.trans h.1, fun a => ?_⟩
  rcases h'.2 a with hsame | hnone
  · rw [hsame]
    exact h.2 a
  · exact Or.inr hnone

lemma popContextAttr_taken (atom : ℕ) :
    Keeps Taken (popContextAttr atom : ListenerCode Ctx (Option Ctx)) := by
  intro w
  refine ⟨rfl, fun a => ?_⟩
  by_cases ha : a = atom
  · subst ha
    exact Or.inr (Function.update_self ..)
  · exact Or.inl (Function.update_of_ne ha ..)

lemma atomBody_taken (atom : ℕ) (layers : List Layer) :
    Keeps Taken (atomBody atom layers : ListenerCode Ctx Unit) := by
  induction layers with
  | nil => exact Keeps.pure taken_refl ()
  | cons layer layers ih =>
    cases layer with
    | other id => exact ih
    | traced =>
      refine Keeps.bind taken_trans (popContextAttr_taken atom) fun c => ?_
      cases c with
      | none => exact ih
      | some c =>
        have hattach : Keeps Taken (attach c : ListenerCode Ctx (Token Ctx)) :=
          fun w => ⟨rfl, fun _ => Or.inl rfl⟩
        refine Keeps.bind taken_trans hattach fun token => ?_
        have hdetach : Keeps Taken (detach token : ListenerCode Ctx Unit) :=
          fun w => ⟨rfl, fun _ => Or.inl rfl⟩
        exact Keeps.tryFinally taken_trans ih hdetach

end

/-! ### Runs without a listener, and with one -/

section

variable {Ctx : Type} [ContextApi Ctx] {graph : List Node} {bodies : Table String Layer}
  {r : Running Ctx}

lemma notifyAll_nil (c : Ctx) (n : Notification) (hr : r.listeners = []) :
    notifyAll graph c n r = r := by
  obtain ⟨calls, contextAttr, listeners⟩ := r
  obtain rfl : listeners = [] := hr
  rfl

lemma notifyAll_single (c : Ctx) (n : Notification) {l : TraceListener Ctx}
    (hr : r.listeners = [l]) :
    notifyAll graph c n r =
      let w := react (meaning n) ⟨c, r.calls, [], ⟨l, graph, r.contextAttr⟩⟩
      ⟨w.calls, w.host.contextAttr, [w.host.listener]⟩ := by
  obtain ⟨calls, contextAttr, listeners⟩ := r
  obtain rfl : listeners = [l] := hr
  simp [notifyAll, receive_apply]

variable (graph bodies) in
/-- An engine without listeners makes no call and leaves nothing on atoms. -/
lemma silent_of_no_listener (hr : r.listeners = []) (acts : List (Act Ctx)) :
    let t := acts.foldl (act graph bodies) r
    t.listeners = [] ∧ t.calls = r.calls ∧
      ∀ a, t.contextAttr a = r.contextAttr a ∨ t.contextAttr a = none := by
  induction acts generalizing r with
  | nil => exact ⟨hr, rfl, fun _ => Or.inl rfl⟩
  | cons x acts ih =>
    cases x with
    | notify c n =>
      have hact : act graph bodies r (.notify c n) = r := notifyAll_nil c n hr
      rw [List.foldl_cons, hact]
      exact ih hr
    | body c function atom =>
      obtain ⟨hcalls, hattr⟩ := atomBody_taken atom (bodies function)
        ⟨c, r.calls, [], ⟨TraceListener.init, graph, r.contextAttr⟩⟩
      obtain ⟨hlisteners, hcalls', hattr'⟩ :=
        ih (r := act graph bodies r (.body c function atom)) hr
      refine ⟨hlisteners, hcalls'.trans hcalls, fun a => ?_⟩
      rcases hattr' a with hsame | hnone
      · rw [List.foldl_cons, hsame]
        exact hattr a
      · exact Or.inr hnone

/-- The engine has one listener, which is inside of a flow or is not. -/
def Listening (inFlow : Bool) (r : Running Ctx) : Prop :=
  ∃ l, r.listeners = [l] ∧ l.flowSpan.isSome = inFlow

lemma flowStarts_append (cs ds : List Call) :
    flowStarts (cs ++ ds) = flowStarts cs + flowStarts ds := by
  simp [flowStarts, List.countP_append]

lemma flowStarts_of_no_start {cs : List Call} (h : startedSpans cs = []) : flowStarts cs = 0 := by
  rw [flowStarts, List.countP_eq_zero]
  intro c hc
  have hnone : c.started = none := by
    rcases hs : c.started with _ | span
    · rfl
    · have hmem : span ∈ startedSpans cs := List.mem_filterMap.mpr ⟨c, hc, hs⟩
      rw [h] at hmem
      simp at hmem
  cases c <;> simp_all [Call.started]

lemma flowStarts_atom (span parent : SpanContext) (kind : Kind) (method : Method) (k : SpanKind)
    (attributes : Dict) :
    flowStarts [.start span parent s!"taskflow.{kind.text}.{method.text}" k attributes] = 0 := by
  cases kind <;> cases method <;> rfl

variable {w : TfWorld Ctx}

lemma react_flowStart (details : Details) (h : w.host.listener.flowSpan = none) :
    flowStarts (react (.flowStart details) w).calls = flowStarts w.calls + 1 ∧
      (react (.flowStart details) w).host.listener.flowSpan.isSome = true := by
  have hw : react (.flowStart details) w = startedFlow details w := by simp [react, h]
  rw [hw]
  refine ⟨?_, rfl⟩
  have hcalls : (startedFlow details w).calls = w.calls ++
      [.start (nextFlowSpan w) (spanIn w.current) "taskflow.flow.run" .internal
        (flowAttributes details)] := rfl
  rw [hcalls, flowStarts_append]
  rfl

lemma react_flowFinish (state : State) :
    flowStarts (react (.flowFinish state) w).calls = flowStarts w.calls ∧
      (react (.flowFinish state) w).host.listener.flowSpan = none := by
  rcases h : w.host.listener.flowSpan with _ | span
  · simp [react, finishedFlow, h, tookFlow, withListener]
  · have hends := flowClosing_ends state span
    refine ⟨?_, ?_⟩
    · simp only [react, finishedFlow, h]
      change flowStarts (w.calls ++ flowClosing state span) = flowStarts w.calls
      rw [flowStarts_append, flowStarts_of_no_start hends.1, Nat.add_zero]
    · simp [react, finishedFlow, h, tookFlow, withListener, World.called]

/-- Inside of a flow no other flow span is started, and the flow goes on until its finish. -/
lemma react_inFlow {m : Meaning} (hm : ∀ state, m ≠ .flowFinish state)
    (h : w.host.listener.flowSpan.isSome = true) :
    flowStarts (react m w).calls = flowStarts w.calls ∧
      (react m w).host.listener.flowSpan.isSome = true := by
  rcases m with details | state | ⟨kind, name, uuid, method⟩ |
      ⟨kind, uuid, method, isFailure, details⟩ | _
  · simp [react, h]
  · exact absurd rfl (hm state)
  · rcases hs : w.host.listener.atomSpans (uuid, method) with _ | span
    · have hw : react (.atomStart kind name uuid method) w =
          handedOff name (nextAtomSpan w) (openedAtom kind name uuid method w) := by
        simp [react, startedAtom, hs]
      rw [hw]
      refine ⟨?_, h⟩
      change flowStarts (w.calls ++ [_]) = flowStarts w.calls
      rw [flowStarts_append, flowStarts_atom, Nat.add_zero]
    · simpa [react, startedAtom, hs] using h
  · rcases hs : w.host.listener.atomSpans (uuid, method) with _ | span
    · simpa [react, finishedAtom, hs] using h
    · have hends := atomClosing_ends span isFailure details.result
      simp only [react, finishedAtom, hs]
      refine ⟨?_, h⟩
      change flowStarts (w.calls ++ atomClosing span isFailure details.result) = _
      rw [flowStarts_append, flowStarts_of_no_start hends.1, Nat.add_zero]
  · exact ⟨rfl, h⟩

/-- The middle of a run. -/
lemma middle_inFlow (acts : List (Act Ctx))
    (hacts : ∀ c n, .notify c n ∈ acts → ∀ state, meaning n ≠ .flowFinish state)
    (hr : Listening true r) :
    let t := acts.foldl (act graph bodies) r
    Listening true t ∧ flowStarts t.calls = flowStarts r.calls := by
  induction acts generalizing r with
  | nil => exact ⟨hr, rfl⟩
  | cons x acts ih =>
    have hrest := fun c n hn => hacts c n (List.mem_cons_of_mem x hn)
    obtain ⟨l, hl, hflow⟩ := hr
    cases x with
    | notify c n =>
      have hn := hacts c n (List.mem_cons_self ..)
      obtain ⟨hcount, hflow'⟩ := react_inFlow
        (w := ⟨c, r.calls, [], ⟨l, graph, r.contextAttr⟩⟩) hn hflow
      have hact : act graph bodies r (.notify c n) = _ := notifyAll_single c n hl
      obtain ⟨hlisten, hstarts⟩ :=
        ih hrest (r := act graph bodies r (.notify c n)) (hact ▸ ⟨_, rfl, hflow'⟩)
      refine ⟨hlisten, hstarts.trans ?_⟩
      rw [hact]
      exact hcount
    | body c function atom =>
      obtain ⟨hcalls, -⟩ := atomBody_taken atom (bodies function)
        ⟨c, r.calls, [], ⟨TraceListener.init, graph, r.contextAttr⟩⟩
      obtain ⟨hlisten, hstarts⟩ :=
        ih hrest (r := act graph bodies r (.body c function atom)) ⟨l, hl, hflow⟩
      exact ⟨hlisten, hstarts.trans (congrArg flowStarts hcalls)⟩

variable (graph bodies) in
/-- **A traced run**: one flow span, and the listener is outside of flows again. -/
lemma complete_run {acts : List (Act Ctx)} (hacts : Complete acts) (hr : Listening false r) :
    let t := acts.foldl (act graph bodies) r
    Listening false t ∧ flowStarts t.calls = flowStarts r.calls + 1 := by
  obtain ⟨c, n, details, middle, d, m, state, rfl, hn, hm, hmiddle⟩ := hacts
  obtain ⟨l, hl, hflow⟩ := hr
  have hidle : l.flowSpan = none := by simpa using hflow
  obtain ⟨hone, hopen⟩ := react_flowStart
    (w := ⟨c, r.calls, [], ⟨l, graph, r.contextAttr⟩⟩) details hidle
  have hstart : act graph bodies r (.notify c n) = _ := notifyAll_single c n hl
  rw [hn] at hstart
  have hlisten : Listening true (act graph bodies r (.notify c n)) := by
    rw [hstart]
    exact ⟨_, rfl, hopen⟩
  have hone' : flowStarts (act graph bodies r (.notify c n)).calls = flowStarts r.calls + 1 := by
    rw [hstart]
    exact hone
  obtain ⟨⟨l', hl', -⟩, hsame⟩ := middle_inFlow middle hmiddle hlisten
  have hfinish : act graph bodies _ (.notify d m) = _ := notifyAll_single d m hl'
  rw [hm] at hfinish
  rw [List.foldl_cons, List.foldl_append, List.foldl_cons, List.foldl_nil, hfinish]
  obtain ⟨hcount, hclosed⟩ := react_flowFinish (w := ⟨d, _, [], ⟨l', graph, _⟩⟩) state
  exact ⟨⟨_, rfl, by rw [hclosed]; rfl⟩, hcount.trans (hsame.trans hone')⟩

end

/-! ### Switching -/

/-- `Engine.__init__` is wrapped, once, while TaskFlow is instrumented. -/
structure Switched (s : Instrumented Process) : Prop where
  on : s.on = true → ∃ original originals, s.process.engineInit = .traced :: original ∧
    .traced ∉ original ∧ s.process.originalEngineInit = some original ∧
    s.process.originalAtomBodies = some originals
  off : s.on = false → .traced ∉ s.process.engineInit ∧ s.process.originalEngineInit = none

lemma switched_instrument {s : Instrumented Process} (h : Switched s) (fails : Failures) :
    Switched (instrument fails s).2 := by
  obtain ⟨on, p⟩ := s
  cases on with
  | true => exact h
  | false =>
    obtain ⟨hinit, hp⟩ := h.off rfl
    have hoff : ∀ q : Process, q.engineInit = p.engineInit →
        q.originalEngineInit = p.originalEngineInit → Switched ⟨false, q⟩ := by
      intro q hengine horiginal
      exact ⟨nofun, fun _ => ⟨hengine ▸ hinit, horiginal.trans hp⟩⟩
    rcases hearly : fails.early with _ | e
    · rcases first_failure fails.body bodyLayers with
        hall | ⟨done, q, rest, e, hlayers, hdone, hq⟩
      · have hok := instrumentWith_of_ok hp hearly hall
        rw [instrument, switchOn_of_ok hok]
        exact ⟨fun _ => ⟨_, _, rfl, hinit, rfl, rfl⟩, nofun⟩
      · have herr := instrumentWith_of_error hp hearly hlayers hdone hq
        rw [instrument, switchOn_of_error herr]
        exact hoff _ rfl rfl
    · have herr := instrumentWith_of_early hp hearly
      rw [instrument, switchOn_of_error herr]
      exact hoff _ rfl rfl

lemma switched_uninstrument {s : Instrumented Process} (h : Switched s) :
    Switched (uninstrument s).2 := by
  obtain ⟨on, p⟩ := s
  cases on with
  | false => exact h
  | true =>
    obtain ⟨original, originals, hinit, hnot, hp, hbodies⟩ := h.on rfl
    have hrun := uninstrumentWith_of_some hp hbodies
    rw [uninstrument, switchOff_of_ok hrun]
    exact ⟨nofun, fun _ => ⟨hnot, rfl⟩⟩

section

variable {Ctx : Type}

lemma initEngine_untraced {layers : List Layer} (h : .traced ∉ layers) :
    (initEngine layers : List (TraceListener Ctx)) = [] := by
  induction layers with
  | nil => rfl
  | cons layer layers ih =>
    cases layer with
    | traced => simp at h
    | other id => exact ih fun hmem => h (List.mem_cons_of_mem _ hmem)

/-- An engine gets a listener when it is constructed while TaskFlow is instrumented. -/
lemma initEngine_switched {s : Instrumented Process} (h : Switched s) :
    (initEngine s.process.engineInit : List (TraceListener Ctx)) =
      if s.on then [TraceListener.init] else [] := by
  rcases hon : s.on with _ | _
  · exact initEngine_untraced (h.off hon).1
  · obtain ⟨original, originals, hinit, hnot, -, -⟩ := h.on hon
    rw [hinit, initEngine, initEngine_untraced hnot]
    rfl

end

/-! ### The whole history -/

section

variable {E Ctx : Type} {graphs : E → List Node}

/-- Between runs the engines constructed under instrumentation have one listener each, outside
of flows, and the others none. -/
structure Inv (s : Sys E Ctx) : Prop where
  switched : Switched s.taskflow
  traced : ∀ e, s.constructed e = some true → ∃ l, s.listeners e = [l] ∧ l.flowSpan = none
  untraced : ∀ e, s.constructed e ≠ some true → s.listeners e = []

lemma inv_start : Inv (start : Sys E Ctx) :=
  ⟨⟨nofun, fun _ => ⟨nofun, rfl⟩⟩, nofun, fun _ _ => rfl⟩

lemma Inv.listening {s : Sys E Ctx} (h : Inv s) {e : E} (he : s.constructed e = some true) :
    Listening false (⟨s.calls, s.contextAttr, s.listeners e⟩ : Running Ctx) := by
  obtain ⟨l, hl, hflow⟩ := h.traced e he
  exact ⟨l, hl, by rw [hflow]; rfl⟩

/-- A change of one engine. -/
lemma inv_update {s t : Sys E Ctx} (h : Inv s) {e : E} (htaskflow : t.taskflow = s.taskflow)
    (hother : ∀ f, f ≠ e → t.listeners f = s.listeners f ∧ t.constructed f = s.constructed f)
    (htraced : t.constructed e = some true → ∃ l, t.listeners e = [l] ∧ l.flowSpan = none)
    (huntraced : t.constructed e ≠ some true → t.listeners e = []) : Inv t := by
  refine ⟨htaskflow ▸ h.switched, fun f hf => ?_, fun f hf => ?_⟩
  · by_cases hfe : f = e
    · exact hfe ▸ htraced (hfe ▸ hf)
    · obtain ⟨hl, hc⟩ := hother f hfe
      rw [hl]
      exact h.traced f (hc ▸ hf)
  · by_cases hfe : f = e
    · exact hfe ▸ huntraced (hfe ▸ hf)
    · obtain ⟨hl, hc⟩ := hother f hfe
      rw [hl]
      exact h.untraced f (hc ▸ hf)

variable [ContextApi Ctx] [DecidableEq E]

variable (graphs) in
lemma inv_step (s : Sys E Ctx) (ev : Event E Ctx) (h : Inv s) (hmay : May s ev) :
    Inv (step graphs s ev) := by
  cases ev with
  | instrument fails => exact ⟨switched_instrument h.switched fails, h.traced, h.untraced⟩
  | uninstrument => exact ⟨switched_uninstrument h.switched, h.traced, h.untraced⟩
  | construct e =>
    have hinit : (initEngine s.taskflow.process.engineInit : List (TraceListener Ctx)) =
        if s.taskflow.on then [TraceListener.init] else [] := initEngine_switched h.switched
    refine inv_update h (e := e) rfl (fun f hf => ?_) (fun he => ?_) (fun he => ?_)
    · simp [step, hf]
    · have hon : s.taskflow.on = true := by simpa [step] using he
      refine ⟨TraceListener.init, ?_, rfl⟩
      simp [step, hinit, hon]
    · have hoff : s.taskflow.on = false := by simpa [step] using he
      simp [step, hinit, hoff]
  | run e acts =>
    refine inv_update h (e := e) rfl (fun f hf => ?_) (fun he => ?_) (fun he => ?_)
    · simp [step, hf]
    · obtain ⟨⟨l, hl, hflow⟩, -⟩ := complete_run (graphs e) s.taskflow.process.bodies hmay.2
        (h.listening he)
      refine ⟨l, ?_, by simpa using hflow⟩
      simp only [step, Function.update_self]
      exact hl
    · obtain ⟨hnil, -⟩ := silent_of_no_listener (graphs e) s.taskflow.process.bodies
        (r := ⟨s.calls, s.contextAttr, s.listeners e⟩) (h.untraced e he) acts
      simp only [step, Function.update_self]
      exact hnil

variable (graphs) in
/-- **One run.** It is silent if its engine was constructed while TaskFlow was not instrumented,
and starts one flow span otherwise, whether TaskFlow is instrumented now or not. -/
lemma run_spec {s : Sys E Ctx} (h : Inv s) {e : E} {acts : List (Act Ctx)}
    (hmay : May s (.run e acts)) :
    (Silent graphs s e acts ↔ s.constructed e = some false) ∧
      (s.constructed e = some true → OneFlowSpan graphs s e acts) := by
  have hone : s.constructed e = some true → OneFlowSpan graphs s e acts := by
    intro he
    exact (complete_run _ _ hmay.2 (h.listening he)).2
  refine ⟨⟨fun hsilent => ?_, fun he => ?_⟩, hone⟩
  · rcases hc : s.constructed e with _ | _ | _
    · exact absurd hc hmay.1
    · rfl
    · have hcount := hone hc
      rw [OneFlowSpan, hsilent.1] at hcount
      omega
  · have hnone : s.constructed e ≠ some true := by
      rw [he]
      nofun
    obtain ⟨-, hcalls, hattr⟩ := silent_of_no_listener (graphs e) s.taskflow.process.bodies
      (r := ⟨s.calls, s.contextAttr, s.listeners e⟩) (h.untraced e hnone) acts
    exact ⟨hcalls, hattr⟩

/-- **Uninstrumenting stops what was constructed without instrumentation.** In every history of
switching, construction and complete runs: a run while TaskFlow is not instrumented is silent if
and only if its engine was constructed while it was not, and a run while it is, of an engine
constructed while it was, starts one flow span. -/
theorem silent_iff_constructed_off {es : List (Event E Ctx)}
    (hl : Runs.Legal May (step graphs) start es) (pre post : List (Event E Ctx)) (e : E)
    (acts : List (Act Ctx)) (hes : es = pre ++ .run e acts :: post) :
    let s := Runs.run (step graphs) start pre
    (s.taskflow.on = false → (Silent graphs s e acts ↔ s.constructed e = some false)) ∧
      (s.taskflow.on = true → s.constructed e = some true → OneFlowSpan graphs s e acts) := by
  subst hes
  have hinv := Runs.inv_of_legal (inv_step graphs) inv_start hl.before
  obtain ⟨hsilent, hone⟩ := run_spec graphs hinv hl.ok_at
  exact ⟨fun _ => hsilent, fun _ => hone⟩

end

/-- A flow that starts and succeeds. -/
def shortRun : List (Act BareContext) :=
  let details : Details := ⟨.str, .other⟩
  [.notify empty (.flow .running details), .notify empty (.flow .success details)]

lemma complete_shortRun : Complete shortRun :=
  ⟨empty, _, _, [], empty, _, _, rfl, rfl, rfl, nofun⟩

/-- An engine is constructed under instrumentation and run after it, and before it another. -/
def switchedOff : List (Event ℕ BareContext) :=
  [.construct 0, .instrument noFailures, .construct 1, .uninstrument, .run 0 shortRun,
    .run 1 shortRun]

lemma legal_switchedOff : Runs.Legal May (step fun _ => []) start switchedOff := by
  refine ⟨trivial, trivial, trivial, trivial, ⟨?_, complete_shortRun⟩,
    ⟨?_, complete_shortRun⟩, trivial⟩ <;> nofun

theorem silent_iff_switchedOff :
    let s := Runs.run (step fun _ => []) (start : Sys ℕ BareContext) (switchedOff.take 4)
    Silent (fun _ => []) s 0 shortRun := by
  have h := silent_iff_constructed_off legal_switchedOff (switchedOff.take 4) [.run 1 shortRun] 0
    shortRun rfl
  exact (h.1 rfl).mpr rfl

/-- The engine constructed under instrumentation goes on tracing. -/
theorem uninstrumented_run_traced :
    let s := Runs.run (step fun _ => []) (start : Sys ℕ BareContext) (switchedOff.take 5)
    s.taskflow.on = false ∧ ¬ Silent (fun _ => []) s 1 shortRun := by
  refine ⟨rfl, fun hsilent => ?_⟩
  exact absurd (congrArg List.length hsilent.1) (by decide)

end OtelOpenstack.TaskflowSwitch
