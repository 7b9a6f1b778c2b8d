import OtelOpenstack.Conservation

/-!
The span tree of an engine's runs: one flow span for each run, and under it one atom span for
each phase of an atom.

Notifications arrive one at a time. The phases open in a well-formed history are the spans
open in the listener, key by key.
-/

set_option autoImplicit false

namespace OtelOpenstack.SpanTree

open Python Otel ContextApi Listener ListenerSteps Conservation

/-! ### Well-formed histories -/

/-- A phase of an atom, as its start notification announces it. -/
structure Phase where
  kind : Kind
  name : Val
  uuid : Val
  method : Method

/-- A run of the engine: how the flow was announced, its phases in the order they finished
with whether they failed, and the state the flow finished in. -/
structure FlowRun where
  details : Details
  phases : List (Phase × Bool)
  final : State

section

variable {Ctx : Type}

/-- A notification and the context current where it is received. -/
abbrev Notice (Ctx : Type) := Ctx × Notification

/-- What may come between the start and the finish of a flow when the phases `opened` are
open: other notifications, starts of phases that are not open, finishes of those that are. -/
inductive Phases : (Key → Option Phase) → List (Notice Ctx) → List (Phase × Bool) → Prop
  | done {opened : Key → Option Phase} (hnone : ∀ key, opened key = none) : Phases opened [] []
  | other {opened : Key → Option Phase} {c : Ctx} {n : Notification} {ns : List (Notice Ctx)}
      {ps : List (Phase × Bool)} (hn : meaning n = .other) (h : Phases opened ns ps) :
      Phases opened ((c, n) :: ns) ps
  | start {opened : Key → Option Phase} {c : Ctx} {n : Notification} {ns : List (Notice Ctx)}
      {ps : List (Phase × Bool)} {kind : Kind} {name uuid : Val} {method : Method}
      (hn : meaning n = .atomStart kind name uuid method) (hfree : opened (uuid, method) = none)
      (h : Phases (Function.update opened (uuid, method) (some ⟨kind, name, uuid, method⟩))
        ns ps) :
      Phases opened ((c, n) :: ns) ps
  | finish {opened : Key → Option Phase} {c : Ctx} {n : Notification} {ns : List (Notice Ctx)}
      {ps : List (Phase × Bool)} {kind : Kind} {uuid : Val} {method : Method}
      {isFailure : Bool} {details : Details} {p : Phase}
      (hn : meaning n = .atomFinish kind uuid method isFailure details)
      (hopen : opened (uuid, method) = some p)
      (h : Phases (Function.update opened (uuid, method) none) ns ps) :
      Phases opened ((c, n) :: ns) ((p, isFailure) :: ps)

/-- Any number of runs, with other notifications before, between and after them. -/
inductive History : List (Notice Ctx) → List FlowRun → Prop
  | nil : History [] []
  | other {c : Ctx} {n : Notification} {ns : List (Notice Ctx)} {runs : List FlowRun}
      (hn : meaning n = .other) (h : History ns runs) : History ((c, n) :: ns) runs
  | run {c d : Ctx} {n m : Notification} {body ns : List (Notice Ctx)}
      {ps : List (Phase × Bool)} {runs : List FlowRun} {details : Details} {state : State}
      (hn : meaning n = .flowStart details) (hbody : Phases (fun _ => none) body ps)
      (hm : meaning m = .flowFinish state) (h : History ns runs) :
      History ((c, n) :: body ++ (d, m) :: ns) (⟨details, ps, state⟩ :: runs)

/-! ### What the calls tell of a run -/

/-- The span of a phase: a child of the flow span, named after the phase and with its
attributes, ended, in error when the phase failed. -/
def PhaseTraced (calls : List Call) (flow : SpanContext) (p : Phase × Bool)
    (span : SpanContext) : Prop :=
  .start span flow s!"taskflow.{p.1.kind.text}.{p.1.method.text}" .internal
      (atomAttributes p.1.kind p.1.name p.1.uuid p.1.method) ∈ calls ∧
    .finish span ∈ calls ∧ (statusOf calls span = .error ↔ p.2 = true)

/-- The spans of a run, the flow's and the phases'. -/
def RunTraced (calls : List Call) (r : FlowRun) (spans : SpanContext × List SpanContext) :
    Prop :=
  (∃ parent, .start spans.1 parent "taskflow.flow.run" .internal (flowAttributes r.details) ∈
      calls) ∧
    .finish spans.1 ∈ calls ∧
    (statusOf calls spans.1 = .error ↔ flowFinishStates r.final = some true) ∧
    List.Forall₂ (PhaseTraced calls spans.1) r.phases spans.2

lemma statusOf_append_of_ended {calls : List Call} {span : SpanContext}
    (h : .finish span ∈ calls) (cs : List Call) :
    statusOf (calls ++ cs) span = statusOf calls span :=
  statusFrom_append_of_ended h _ cs

lemma PhaseTraced.append {calls : List Call} {flow span : SpanContext} {p : Phase × Bool}
    (h : PhaseTraced calls flow p span) (cs : List Call) :
    PhaseTraced (calls ++ cs) flow p span := by
  obtain ⟨hstart, hend, hstatus⟩ := h
  refine ⟨List.mem_append_left _ hstart, List.mem_append_left _ hend, ?_⟩
  rw [statusOf_append_of_ended hend]
  exact hstatus

lemma RunTraced.append {calls : List Call} {r : FlowRun}
    {spans : SpanContext × List SpanContext} (h : RunTraced calls r spans) (cs : List Call) :
    RunTraced (calls ++ cs) r spans := by
  obtain ⟨⟨parent, hstart⟩, hend, hstatus, hphases⟩ := h
  refine ⟨⟨parent, List.mem_append_left _ hstart⟩, List.mem_append_left _ hend, ?_, ?_⟩
  · rw [statusOf_append_of_ended hend]
    exact hstatus
  · exact hphases.imp fun _ _ hp => hp.append cs

/-- Closing an atom span leaves it in error when the atom failed. -/
lemma statusOf_atomClosing {calls : List Call} {span : SpanContext} (h : Fresh calls span)
    (isFailure : Bool) (result : Result) :
    statusOf (calls ++ atomClosing span isFailure result) span = .error ↔ isFailure = true := by
  rw [statusOf, statusFrom_append h.1, ← statusOf, h.2]
  cases isFailure <;> rcases result with ⟨_ | e, str⟩ | _ <;>
    simp [atomClosing, failureCalls, statusFrom, StatusCode.set]

lemma statusOf_flowClosing {calls : List Call} {span : SpanContext} (h : Fresh calls span)
    (state : State) :
    statusOf (calls ++ flowClosing state span) span = .error ↔
      flowFinishStates state = some true := by
  rw [statusOf, statusFrom_append h.1, ← statusOf, h.2]
  by_cases hs : flowFinishStates state = some true <;>
    simp [flowClosing, hs, statusFrom, StatusCode.set]

/-- From `w` to `v` more calls were made, and they ended `spans`. -/
def Ends (w v : TfWorld Ctx) (spans : List SpanContext) : Prop :=
  ∃ cs, v.calls = w.calls ++ cs ∧ finishedSpans cs = spans

lemma Ends.refl (w : TfWorld Ctx) : Ends w w [] := ⟨[], by simp, rfl⟩

lemma Ends.trans {u v w : TfWorld Ctx} {xs ys : List SpanContext} (h : Ends u v xs)
    (k : Ends v w ys) : Ends u w (xs ++ ys) := by
  obtain ⟨cs, hcs, rfl⟩ := h
  obtain ⟨ds, hds, rfl⟩ := k
  exact ⟨cs ++ ds, by rw [hds, hcs, List.append_assoc], finishedSpans_append cs ds⟩

lemma PhaseTraced.of_ends {w v : TfWorld Ctx} {flow span : SpanContext} {p : Phase × Bool}
    {xs : List SpanContext} (h : PhaseTraced w.calls flow p span) (hv : Ends w v xs) :
    PhaseTraced v.calls flow p span := by
  obtain ⟨cs, hcs, -⟩ := hv
  rw [hcs]
  exact h.append cs

lemma RunTraced.of_ends {w v : TfWorld Ctx} {r : FlowRun}
    {spans : SpanContext × List SpanContext} {xs : List SpanContext}
    (h : RunTraced w.calls r spans) (hv : Ends w v xs) : RunTraced v.calls r spans := by
  obtain ⟨cs, hcs, -⟩ := hv
  rw [hcs]
  exact h.append cs

variable [ContextApi Ctx]

/-! ### The open phases and the open spans -/

/-- A notification handled to its end. -/
def notify (w : TfWorld Ctx) (n : Notice Ctx) : TfWorld Ctx :=
  (receive noFaults n.2 { w with current := n.1 }).2

lemma notify_eq (w : TfWorld Ctx) (n : Notice Ctx) :
    notify w n = react (meaning n.2) { w with current := n.1 } := by
  rw [notify, receive_apply]

/-- Between runs no span is open. -/
structure Idle (w : TfWorld Ctx) : Prop where
  inv : Inv ⟨w, []⟩
  known : Known w.calls
  noFlow : w.host.listener.flowSpan = none
  noAtoms : ∀ key, w.host.listener.atomSpans key = none

/-- Within a run the flow span is open, and a span under it for every open phase. -/
structure Tracing (flow : SpanContext) (opened : Key → Option Phase) (w : TfWorld Ctx) :
    Prop where
  inv : Inv ⟨w, []⟩
  known : Known w.calls
  flowSpan : w.host.listener.flowSpan = some flow
  flowFresh : Fresh w.calls flow
  free : ∀ key, opened key = none → w.host.listener.atomSpans key = none
  busy : ∀ key p, opened key = some p → ∃ span,
    w.host.listener.atomSpans key = some span ∧ Fresh w.calls span ∧
      .start span flow s!"taskflow.{p.kind.text}.{p.method.text}" .internal
        (atomAttributes p.kind p.name p.uuid p.method) ∈ w.calls

variable {w : TfWorld Ctx} {flow : SpanContext} {opened : Key → Option Phase}

lemma Tracing.under (h : Tracing flow opened w) (c : Ctx) :
    Tracing flow opened { w with current := c } :=
  ⟨⟨h.inv.balanced, h.inv.numbered, h.inv.flowContext⟩, h.known, h.flowSpan, h.flowFresh,
    h.free, h.busy⟩

lemma Idle.under (h : Idle w) (c : Ctx) : Idle { w with current := c } :=
  ⟨⟨h.inv.balanced, h.inv.numbered, h.inv.flowContext⟩, h.known, h.noFlow, h.noAtoms⟩

lemma Tracing.start (h : Tracing flow opened w) (kind : Kind) (name : Val) {uuid : Val}
    {method : Method} (hfree : opened (uuid, method) = none) :
    Ends w (react (.atomStart kind name uuid method) w) [] ∧
      Tracing flow (Function.update opened (uuid, method) (some ⟨kind, name, uuid, method⟩))
        (react (.atomStart kind name uuid method) w) := by
  have hslot := h.free _ hfree
  have hnew : nextAtomSpan w ∉ startedSpans w.calls := newSpan_fresh h.inv.numbered _
  have hne : ∀ k s, slots w.host.listener k = some s → nextAtomSpan w ≠ s := by
    rintro k s hs rfl
    exact hnew (h.inv.held_started hs)
  have hw : react (.atomStart kind name uuid method) w =
      handedOff name (nextAtomSpan w) (openedAtom kind name uuid method w) := by
    simp [react, startedAtom, hslot]
  have hcalls : (react (.atomStart kind name uuid method) w).calls = w.calls ++
      [.start (nextAtomSpan w) flow s!"taskflow.{kind.text}.{method.text}" .internal
        (atomAttributes kind name uuid method)] := by
    rw [hw, ← h.inv.flowContext.atomParent h.flowSpan]
    rfl
  have hatoms : (react (.atomStart kind name uuid method) w).host.listener.atomSpans =
      Function.update w.host.listener.atomSpans (uuid, method) (some (nextAtomSpan w)) := by
    rw [hw]
    rfl
  have hinv := inv_react (.atomStart kind name uuid method) h.inv
  refine ⟨⟨_, hcalls, rfl⟩, hinv, ?_, by rw [hw]; exact h.flowSpan, ?_, ?_, ?_⟩
  · rw [hcalls]
    exact h.known.append (by simp [startedSpans, Call.started, Call.span])
  · rw [hcalls]
    exact h.flowFresh.append (by simpa [Call.span] using hne .flow flow h.flowSpan)
  · intro key hkey
    rw [hatoms]
    by_cases hk : key = (uuid, method)
    · subst hk
      simp at hkey
    · rw [Function.update_of_ne hk] at hkey ⊢
      exact h.free key hkey
  · intro key p hp
    rw [hatoms, hcalls]
    by_cases hk : key = (uuid, method)
    · subst hk
      rw [Function.update_self, Option.some.injEq] at hp
      subst hp
      refine ⟨nextAtomSpan w, Function.update_self .., ?_, by simp⟩
      -- the span is new, so no call so far is about it
      have hfresh := fresh_of_not_started h.known hnew
      refine ⟨by simpa using hfresh.1, ?_⟩
      rw [statusOf, statusFrom_append hfresh.1, ← statusOf, hfresh.2]
      rfl
    · rw [Function.update_of_ne hk] at hp ⊢
      obtain ⟨span, hs, hf, hstart⟩ := h.busy key p hp
      exact ⟨span, hs, hf.append (by simpa [Call.span] using hne (.atom key) span hs),
        List.mem_append_left _ hstart⟩

lemma Tracing.finish (h : Tracing flow opened w) (kind : Kind) (isFailure : Bool)
    (details : Details) {uuid : Val} {method : Method} {p : Phase}
    (hopen : opened (uuid, method) = some p) :
    let v := react (.atomFinish kind uuid method isFailure details) w
    ∃ span, Ends w v [span] ∧ PhaseTraced v.calls flow (p, isFailure) span ∧
      Tracing flow (Function.update opened (uuid, method) none) v := by
  intro v
  obtain ⟨span, hs, hfresh, hstart⟩ := h.busy _ _ hopen
  have hw : v =
      (poppedAtom (uuid, method) w).called (atomClosing span isFailure details.result) := by
    simp [v, react, finishedAtom, hs]
  have hcalls : v.calls = w.calls ++ atomClosing span isFailure details.result := by
    rw [hw]
    rfl
  have hatoms : v.host.listener.atomSpans =
      Function.update w.host.listener.atomSpans (uuid, method) none := by
    rw [hw]
    rfl
  have hends := (atomClosing_ends span isFailure details.result).2
  have hother : ∀ k s, slots w.host.listener k = some s → k ≠ .atom (uuid, method) →
      ∀ c ∈ atomClosing span isFailure details.result, c.span ≠ s := by
    rintro k s hk hne c hc rfl
    rw [atomClosing_span c hc] at hk
    exact hne (h.inv.held_once (k := .atom (uuid, method)) hk hs)
  refine ⟨span, ⟨_, hcalls, hends⟩, ?_, inv_react _ h.inv, ?_, ?_, ?_, ?_, ?_⟩
  · rw [hcalls]
    exact ⟨List.mem_append_left _ hstart,
      List.mem_append_right _ (mem_finishedSpans.mp (by rw [hends]; simp)),
      statusOf_atomClosing hfresh isFailure details.result⟩
  · rw [hcalls]
    refine h.known.append fun c hc => ?_
    rw [atomClosing_span c hc, startedSpans_append]
    exact List.mem_append_left _ (mem_startedSpans hstart)
  · rw [hw]
    exact h.flowSpan
  · rw [hcalls]
    exact h.flowFresh.append (hother .flow flow h.flowSpan (by simp))
  · intro key hkey
    rw [hatoms]
    by_cases hk : key = (uuid, method)
    · rw [hk, Function.update_self]
    · rw [Function.update_of_ne hk] at hkey ⊢
      exact h.free key hkey
  · intro key q hq
    rw [hatoms, hcalls]
    have hk : key ≠ (uuid, method) := by
      rintro rfl
      simp at hq
    rw [Function.update_of_ne hk] at hq ⊢
    obtain ⟨t, ht, hf, hst⟩ := h.busy key q hq
    exact ⟨t, ht, hf.append (hother (.atom key) t ht (by simpa using hk)),
      List.mem_append_left _ hst⟩

lemma Idle.start (h : Idle w) (details : Details) :
    let v := react (.flowStart details) w
    ∃ flow parent, Ends w v [] ∧
      .start flow parent "taskflow.flow.run" .internal (flowAttributes details) ∈ v.calls ∧
      Tracing flow (fun _ => none) v := by
  intro v
  have hnew : nextFlowSpan w ∉ startedSpans w.calls := newSpan_fresh h.inv.numbered _
  have hw : v = startedFlow details w := by simp [v, react, h.noFlow]
  have hcalls : v.calls = w.calls ++ [.start (nextFlowSpan w) (spanIn w.current)
      "taskflow.flow.run" .internal (flowAttributes details)] := by
    rw [hw]
    rfl
  refine ⟨nextFlowSpan w, spanIn w.current, ⟨_, hcalls, rfl⟩, by simp [hcalls],
    inv_react _ h.inv, ?_, ?_, ?_, ?_, ?_⟩
  · rw [hw]
    exact h.known.append (by simp [startedSpans, Call.started, Call.span])
  · rw [hw]
    rfl
  · rw [hw]
    have hfresh := fresh_of_not_started h.known hnew
    refine ⟨by simpa [startedFlow, withListener, World.called] using hfresh.1, ?_⟩
    change statusFrom _ _ (w.calls ++ [_]) = _
    rw [statusFrom_append hfresh.1, ← statusOf, hfresh.2]
    rfl
  · intro key _
    rw [hw]
    exact h.noAtoms key
  · intro key p hp
    simp at hp

lemma Tracing.finishFlow (h : Tracing flow opened w) (hnone : ∀ key, opened key = none)
    (state : State) :
    let v := react (.flowFinish state) w
    Ends w v [flow] ∧ .finish flow ∈ v.calls ∧
      (statusOf v.calls flow = .error ↔ flowFinishStates state = some true) ∧ Idle v := by
  intro v
  have hw : v = (tookFlow w).called (flowClosing state flow) := by
    simp [v, react, finishedFlow, h.flowSpan]
  have hcalls : v.calls = w.calls ++ flowClosing state flow := by
    rw [hw]
    rfl
  have hends := (flowClosing_ends state flow).2
  refine ⟨⟨_, hcalls, hends⟩, ?_, ?_, inv_react _ h.inv, ?_, by rw [hw]; rfl, ?_⟩
  · rw [hcalls]
    exact List.mem_append_right _ (mem_finishedSpans.mp (by rw [hends]; simp))
  · rw [hcalls]
    exact statusOf_flowClosing h.flowFresh state
  · rw [hcalls]
    refine h.known.append fun c hc => ?_
    rw [flowClosing_span c hc, startedSpans_append]
    exact List.mem_append_left _ (h.inv.held_started (k := .flow) h.flowSpan)
  · intro key
    rw [hw]
    exact h.free key (hnone key)

/-! ### Whole runs -/

lemma notify_of {m : Meaning} {n : Notification} (hn : meaning n = m) (w : TfWorld Ctx)
    (c : Ctx) : notify w (c, n) = react m { w with current := c } := by
  rw [notify_eq, hn]

/-- The notifications of a run after its start, phase by phase. -/
lemma tracing_phases {ns : List (Notice Ctx)} {ps : List (Phase × Bool)}
    (hns : Phases opened ns ps) (h : Tracing flow opened w) :
    let v := Runs.run notify w ns
    ∃ spans, Ends w v spans ∧ List.Forall₂ (PhaseTraced v.calls flow) ps spans ∧
      Tracing flow (fun _ => none) v := by
  induction hns generalizing w with
  | @done opened hnone =>
    have hopened : opened = fun _ => none := funext hnone
    exact ⟨[], Ends.refl w, .nil, hopened ▸ h⟩
  | @other opened c n ns ps hn _ ih =>
    rw [Runs.run_cons, notify_of hn]
    exact ih (h.under c)
  | @start opened c n ns ps kind name uuid method hn hfree _ ih =>
    rw [Runs.run_cons, notify_of hn]
    obtain ⟨hends, hs⟩ := (h.under c).start kind name hfree
    obtain ⟨spans, hrest, hps, hend⟩ := ih hs
    exact ⟨spans, hends.trans hrest, hps, hend⟩
  | @finish opened c n ns ps kind uuid method isFailure details p hn hopen _ ih =>
    rw [Runs.run_cons, notify_of hn]
    obtain ⟨span, hends, hp, hs⟩ := (h.under c).finish kind isFailure details hopen
    obtain ⟨spans, hrest, hps, hend⟩ := ih hs
    exact ⟨span :: spans, hends.trans hrest, .cons (hp.of_ends hrest) hps, hend⟩

/-- One run, from its flow's start to its finish. -/
lemma idle_run {c d : Ctx} {n m : Notification} {body : List (Notice Ctx)}
    {ps : List (Phase × Bool)} {details : Details} {state : State}
    (hn : meaning n = .flowStart details) (hbody : Phases (fun _ => none) body ps)
    (hm : meaning m = .flowFinish state) (h : Idle w) :
    let v := notify (Runs.run notify (notify w (c, n)) body) (d, m)
    ∃ flow atoms, Ends w v (atoms ++ [flow]) ∧
      RunTraced v.calls ⟨details, ps, state⟩ (flow, atoms) ∧ Idle v := by
  obtain ⟨flow, parent, hopened, hstart, hs⟩ := (h.under c).start details
  rw [← notify_of hn] at hopened hstart hs
  obtain ⟨atoms, hbodyEnds, hatoms, hopen⟩ := tracing_phases hbody hs
  obtain ⟨hclosed, hended, hstatus, hidle⟩ := (hopen.under d).finishFlow (fun _ => rfl) state
  rw [← notify_of hm] at hclosed hended hstatus hidle
  refine ⟨flow, atoms, (hopened.trans hbodyEnds).trans hclosed, ⟨⟨parent, ?_⟩, hended, hstatus,
    ?_⟩, hidle⟩
  · obtain ⟨cs, hcs, -⟩ := hbodyEnds.trans hclosed
    rw [hcs]
    exact List.mem_append_left _ hstart
  · exact hatoms.imp fun _ _ hp => hp.of_ends hclosed

/-- The spans of runs in the order they end: a run's flow span ends last. -/
def endOrder (spans : List (SpanContext × List SpanContext)) : List SpanContext :=
  spans.flatMap fun s => s.2 ++ [s.1]

lemma idle_history {ns : List (Notice Ctx)} {runs : List FlowRun} (hns : History ns runs)
    (h : Idle w) :
    let v := Runs.run notify w ns
    ∃ spans, Ends w v (endOrder spans) ∧ List.Forall₂ (RunTraced v.calls) runs spans ∧
      Idle v := by
  induction hns generalizing w with
  | nil => exact ⟨[], Ends.refl w, .nil, h⟩
  | @other c n ns runs hn _ ih =>
    rw [Runs.run_cons, notify_of hn]
    exact ih (h.under c)
  | @run c d n m body ns ps runs details state hn hbody hm _ ih =>
    rw [List.cons_append, Runs.run_cons, Runs.run_append, Runs.run_cons]
    obtain ⟨flow, atoms, hends, hrun, hidle⟩ := idle_run (c := c) (d := d) hn hbody hm h
    obtain ⟨spans, hrest, hruns, hend⟩ := ih hidle
    exact ⟨(flow, atoms) :: spans, hends.trans hrest, .cons (hrun.of_ends hrest) hruns, hend⟩

/-- When nothing is open, every span that was started has ended, once. -/
lemma Idle.perm (h : Idle w) : (finishedSpans w.calls).Nodup ∧
    (startedSpans w.calls).Perm (finishedSpans w.calls) := by
  have hnone : ∀ k, slots w.host.listener k = none := by
    rintro (_ | key)
    · exact h.noFlow
    · exact h.noAtoms key
  have hone : ∀ span ∈ startedSpans w.calls, (finishedSpans w.calls).count span = 1 := by
    intro span hspan
    obtain ⟨k, hk⟩ := started_opened (s := ⟨w, []⟩) hspan
    rcases h.inv.onePlace hk with ⟨hj, -, -⟩ | ⟨-, hr, -⟩ | ⟨-, -, hf⟩
    · simpa [hnone] using hj k
    · simp [removed] at hr
    · exact hf
  have hsub : ∀ span ∈ finishedSpans w.calls, span ∈ startedSpans w.calls :=
    fun span hspan => h.known _ (mem_finishedSpans.mp hspan)
  have hnodup : (finishedSpans w.calls).Nodup := by
    rw [List.nodup_iff_count_le_one]
    intro span
    by_cases hspan : span ∈ finishedSpans w.calls
    · exact Nat.le_of_eq (hone span (hsub span hspan))
    · simp [List.count_eq_zero.mpr hspan]
  refine ⟨hnodup, (List.perm_ext_iff_of_nodup h.inv.started_nodup hnodup).mpr ?_⟩
  exact fun span => ⟨fun hs => List.count_pos_iff.mp (by rw [hone span hs]; omega), hsub span⟩

lemma idle_init (current : Ctx) (graph : List Node) (contextAttr : ℕ → Option Ctx) :
    Idle (init current graph contextAttr).world :=
  ⟨inv_init current graph contextAttr, known_nil, rfl, fun _ => rfl⟩

/-- **The span tree.** In a well-formed history the spans ended are, one for one, the flow
spans of its runs and below each the spans of the run's own phases; no span stays open. -/
theorem span_tree (current : Ctx) (graph : List Node) (contextAttr : ℕ → Option Ctx)
    (ns : List (Notice Ctx)) (runs : List FlowRun) (hns : History ns runs) :
    let calls := (Runs.run notify (init current graph contextAttr).world ns).calls
    ∃ spans : List (SpanContext × List SpanContext),
      List.Forall₂ (RunTraced calls) runs spans ∧
      finishedSpans calls = endOrder spans ∧ (finishedSpans calls).Nodup ∧
      (startedSpans calls).Perm (finishedSpans calls) := by
  intro calls
  obtain ⟨spans, hends, hruns, hidle⟩ := idle_history hns (idle_init current graph contextAttr)
  obtain ⟨cs, hcs, hfinished⟩ := hends
  refine ⟨spans, hruns, ?_, hidle.perm⟩
  simp only [calls, hcs, finishedSpans_append, hfinished]
  rfl

end

/-- A task that fails and is reverted, and the flow with it. -/
def revertedTask : List (Notice BareContext) :=
  let details : Details := ⟨.str, .failure none "boom"⟩
  [(empty, .flow .running details), (empty, .atom .task .running details),
   (empty, .atom .task .failure details), (empty, .flow (.other "RESUMING") details),
   (empty, .atom .task .reverting details), (empty, .atom .task .reverted details),
   (empty, .flow .reverted details)]

lemma history_revertedTask : History revertedTask
    [⟨⟨.str, .failure none "boom"⟩,
      [(⟨.task, .str "task_name", .str "task_uuid", .execute⟩, true),
       (⟨.task, .str "task_name", .str "task_uuid", .revert⟩, false)], .reverted⟩] := by
  change History ((_, _) :: [_, _, _, _, _] ++ (_, _) :: []) _
  refine .run rfl ?_ rfl .nil
  refine .start rfl rfl (.finish rfl rfl (.other rfl (.start rfl ?_ (.finish rfl rfl (.done ?_)))))
  · decide
  · intro key
    simp [Function.update_apply]

theorem span_tree_reverted :
    let calls := (Runs.run notify (init empty [] fun _ => none).world revertedTask).calls
    ∃ spans : List (SpanContext × List SpanContext),
      List.Forall₂ (RunTraced calls)
        [⟨⟨.str, .failure none "boom"⟩,
          [(⟨.task, .str "task_name", .str "task_uuid", .execute⟩, true),
           (⟨.task, .str "task_name", .str "task_uuid", .revert⟩, false)], .reverted⟩] spans ∧
      finishedSpans calls = endOrder spans ∧ (finishedSpans calls).Nodup ∧
      (startedSpans calls).Perm (finishedSpans calls) :=
  span_tree _ _ _ revertedTask _ history_revertedTask

end OtelOpenstack.SpanTree
