import OtelOpenstack.Engines
import OtelOpenstack.SpawnedTraces

/-!
One trace through everything: requests, messages, spawned work, threads and flows.

Engines run on the same workers. Their listeners are told of flows and atoms in any order, and
whoever runs the body of an atom works for the operation of the atom's span until it ends.
-/

set_option autoImplicit false

namespace OtelOpenstack.FlowTraces

open Effects Python Otel ContextApi Carriers TraceContext Causes Listener ListenerSteps
open Http (Reading)
open Traces (Op Nested)
open Engines (enterBody exitBody enterBody_apply exitBody_apply)
open SpawnedTraces (Joint Waiting Held Stacked)
open Runs (run Legal inv_of_legal getElem?_append_of_some of_getElem?_append)

/-- An atom's body that a worker is inside of, and all that waits for it. -/
structure Body (E U Ctx H α : Type) where
  engine : E
  token : Token Ctx
  interrupted : Waiting Ctx H α
  frames : List (Spawns.Frame U Ctx)
  waiting : List (Waiting Ctx H α)

/-- Beside the context of every engine's flow, and beside that stashed on every atom, stands the
operation it was made for. -/
structure Whole (E U Ctx H α : Type) where
  joint : Joint U Ctx H α
  listeners : E → TraceListener Ctx
  contextAttr : ℕ → Option Ctx
  flowOps : E → Option ℕ
  stashed : ℕ → Option ℕ
  bodies : U → List (Body E U Ctx H α)

inductive Event (E U Ctx H α : Type)
  | joint (e : SpawnedTraces.Event U Ctx H α)
  | notify (engine : E) (u : U) (n : Notification)
  | enter (engine : E) (u : U) (atom : ℕ)
  | exit (u : U)

/-- The operation of a span that a listener starts, which names the context it is to be in. -/
def opUnder (cause : Option ℕ) : Call → Option Op
  | .start span parent _ kind _ => some ⟨cause, parent, span, parent, kind⟩
  | _ => none

section

variable {E U Ctx H α : Type}

def Whole.init (start : U → Ctx) (host : U → H) : Whole E U Ctx H α where
  joint := Joint.init start host
  listeners := fun _ => TraceListener.init
  contextAttr := fun _ => none
  flowOps := fun _ => none
  stashed := fun _ => none
  bodies := fun _ => []

/-- What the span a notification starts is caused by: that of an atom by the flow's, while one
is traced, and any other by what the engine's worker is inside of. -/
def Whole.cause (s : Whole E U Ctx H α) (e : E) (u : U) : Meaning → Option ℕ
  | .atomStart _ _ _ _ =>
    if (s.listeners e).flowContext.isSome then s.flowOps e else s.joint.inside u
  | _ => s.joint.inside u

variable (graph : E → List Node)

/-- What a worker sees when it runs code of an engine. -/
def Whole.view (s : Whole E U Ctx H α) (e : E) (u : U) : TfWorld Ctx :=
  ⟨(s.joint.sys.workers u).current, s.joint.sys.calls, [],
    ⟨s.listeners e, graph e, s.contextAttr⟩⟩

variable [DecidableEq E]

/-- The operations of the flows, after a notification that started `ops`. -/
def Whole.flowOpsAfter (s : Whole E U Ctx H α) (e : E) : Meaning → List Op → E → Option ℕ
  | .flowStart _, _ :: _ => Function.update s.flowOps e (some s.joint.sys.ops.length)
  | _, _ => s.flowOps

omit [DecidableEq E] in
/-- The operations that contexts are stashed for, after a notification that started `ops`. -/
def Whole.stashedAfter (s : Whole E U Ctx H α) (e : E) (u : U) :
    Meaning → List Op → ℕ → Option ℕ
  | .atomStart _ name _ _, _ :: _ => match atomTable (s.view graph e u) name with
    | none => s.stashed
    | some atom => Function.update s.stashed atom (some s.joint.sys.ops.length)
  | _, _ => s.stashed

variable [DecidableEq U] [Propagator Ctx] (r : Reading α)

def step (s : Whole E U Ctx H α) : Event E U Ctx H α → Whole E U Ctx H α
  | .joint e => { s with joint := SpawnedTraces.step r s.joint e }
  | .notify e u n =>
    let v := (receive noFaults n (s.view graph e u)).2
    let new := v.calls.drop s.joint.sys.calls.length
    let ops := new.filterMap (opUnder (s.cause e u (meaning n)))
    { s with
      joint := { s.joint with
        sys := { s.joint.sys with calls := v.calls, ops := s.joint.sys.ops ++ ops }
        causes := s.joint.causes ++ ops.map Op.cause }
      listeners := Function.update s.listeners e v.host.listener
      contextAttr := v.host.contextAttr
      flowOps := s.flowOpsAfter e (meaning n) ops
      stashed := s.stashedAfter graph e u (meaning n) ops }
  | .enter e u atom => match enterBody atom (s.view graph e u) with
    | (.ok (some token), v) =>
      { s with
        joint := s.joint.put u v.current ⟨⟨s.stashed atom, v.current⟩, []⟩ [] []
        contextAttr := v.host.contextAttr
        bodies := Function.update s.bodies u
          (⟨e, token, ⟨s.joint.work u, (s.joint.sys.workers u).frames⟩, s.joint.frames u,
            s.joint.waiting u⟩ :: s.bodies u) }
    -- nothing was stashed, and the body is run as it is
    | _ => s
  | .exit u => match s.bodies u with
    | [] => s
    | b :: bs =>
      let v := (exitBody (some b.token) (s.view graph b.engine u)).2
      { s with
        joint := s.joint.put u v.current b.interrupted b.frames b.waiting
        bodies := Function.update s.bodies u bs }

/-- A body ends when all that it went into has been left; engines may do as they like. -/
def Ok (s : Whole E U Ctx H α) : Event E U Ctx H α → Prop
  | .joint e => SpawnedTraces.Ok s.joint e
  | .exit u =>
    s.bodies u ≠ [] ∧ s.joint.frames u = [] ∧ (s.joint.sys.workers u).frames = []
  | _ => True

end

/-! ### What a notification does -/

section

variable {Ctx : Type} [ContextApi Ctx]

/-- To the spans, to the flow's context and to what is stashed on atoms. -/
inductive Reacted (m : Meaning) (w v : TfWorld Ctx) : Prop
  | quiet (cs : List Call) (hstarts : startedSpans cs = []) (hcalls : v.calls = w.calls ++ cs)
      (hflow : v.host.listener.flowContext = w.host.listener.flowContext ∨
        v.host.listener.flowContext = none)
      (hattr : v.host.contextAttr = w.host.contextAttr)
  | flow (details : Details) (hm : m = .flowStart details) (name : String) (attributes : Dict)
      (hcalls : v.calls = w.calls ++
        [.start (nextFlowSpan w) (spanIn w.current) name .internal attributes])
      (hflow : v.host.listener.flowContext = some (setSpan (nextFlowSpan w) w.current))
      (hattr : v.host.contextAttr = w.host.contextAttr)
  | atom (kind : Kind) (name uuid : Val) (method : Method)
      (hm : m = .atomStart kind name uuid method) (title : String) (attributes : Dict)
      (hcalls : v.calls = w.calls ++
        [.start (nextAtomSpan w) (atomParent w) title .internal attributes])
      (hflow : v.host.listener.flowContext = w.host.listener.flowContext)
      (hattr : v.host.contextAttr = match atomTable w name with
        | none => w.host.contextAttr
        | some atom =>
          Function.update w.host.contextAttr atom (some (setSpan (nextAtomSpan w) w.current)))

lemma reacted (m : Meaning) (w : TfWorld Ctx) : Reacted m w (react m w) := by
  rcases m with details | state | ⟨kind, name, uuid, method⟩ |
      ⟨kind, uuid, method, isFailure, details⟩ | _
  · rcases h : w.host.listener.flowSpan with _ | span
    · have hw : react (.flowStart details) w = startedFlow details w := by simp [react, h]
      exact hw ▸ .flow details rfl _ _ rfl rfl rfl
    · have hw : react (.flowStart details) w = w := by simp [react, h]
      exact hw.symm ▸ .quiet [] rfl (List.append_nil _).symm (Or.inl rfl) rfl
  · rcases h : w.host.listener.flowSpan with _ | span
    · have hw : react (.flowFinish state) w = tookFlow w := by simp [react, finishedFlow, h]
      exact hw ▸ .quiet [] rfl (List.append_nil _).symm (Or.inr rfl) rfl
    · have hw : react (.flowFinish state) w = (tookFlow w).called (flowClosing state span) := by
        simp [react, finishedFlow, h]
      exact hw ▸ .quiet _ (flowClosing_ends state span).1 rfl (Or.inr rfl) rfl
  · rcases h : w.host.listener.atomSpans (uuid, method) with _ | span
    · have hw : react (.atomStart kind name uuid method) w =
          handedOff name (nextAtomSpan w) (openedAtom kind name uuid method w) := by
        simp [react, startedAtom, h]
      exact hw ▸ .atom kind name uuid method rfl _ _ rfl rfl rfl
    · have hw : react (.atomStart kind name uuid method) w = w := by simp [react, startedAtom, h]
      exact hw.symm ▸ .quiet [] rfl (List.append_nil _).symm (Or.inl rfl) rfl
  · rcases h : w.host.listener.atomSpans (uuid, method) with _ | span
    · have hw : react (.atomFinish kind uuid method isFailure details) w = w := by
        simp [react, finishedAtom, h]
      exact hw.symm ▸ .quiet [] rfl (List.append_nil _).symm (Or.inl rfl) rfl
    · have hw : react (.atomFinish kind uuid method isFailure details) w =
          (poppedAtom (uuid, method) w).called (atomClosing span isFailure details.result) := by
        simp [react, finishedAtom, h]
      exact hw ▸ .quiet _ (atomClosing_ends span isFailure details.result).1 rfl (Or.inl rfl) rfl
  · exact .quiet [] rfl (List.append_nil _).symm (Or.inl rfl) rfl

end

/-! ### What holds throughout -/

section

variable {E U Ctx H α : Type} [Propagator Ctx]

/-- All that waits for a body is where the wrapper's token leads back to. -/
structure Body.Sound (ops : List Op) (start : U → Ctx) (b : Body E U Ctx H α) : Prop where
  nested : Nested ops b.interrupted.work.home b.token.old b.interrupted.frames
  held : Held ops start b.interrupted.work.op b.interrupted.work.home
  frames : ∀ f ∈ b.frames, f.Sound
  stacked : Stacked ops start b.interrupted.work.home b.frames b.waiting

structure Inv (start : U → Ctx) (s : Whole E U Ctx H α) : Prop where
  joint : SpawnedTraces.Inv start s.joint
  flows : ∀ e c, (s.listeners e).flowContext = some c →
    Held s.joint.sys.ops start (s.flowOps e) c
  stashes : ∀ a c, s.contextAttr a = some c → Held s.joint.sys.ops start (s.stashed a) c
  bodies : ∀ u, ∀ b ∈ s.bodies u, b.Sound s.joint.sys.ops start

variable {start : U → Ctx}

lemma Body.Sound.append {ops : List Op} {b : Body E U Ctx H α} (h : b.Sound ops start)
    (more : List Op) : b.Sound (ops ++ more) start :=
  ⟨h.nested.append more, h.held.append more, h.frames, h.stacked.append more⟩

lemma Inv.init (hstart : ∀ u, enabled (start u) = true) (host : U → H) :
    Inv start (Whole.init start host : Whole E U Ctx H α) :=
  ⟨SpawnedTraces.Inv.init hstart host, fun _ _ h => absurd h nofun, fun _ _ h => absurd h nofun,
    fun _ _ h => absurd h List.not_mem_nil⟩

/-! ### Spans that listeners start -/

lemma map_span_opUnder (cause : Option ℕ) (cs : List Call) :
    (cs.filterMap (opUnder cause)).map Op.span = startedSpans cs := by
  have hspan : ∀ c : Call, (opUnder cause c).map Op.span = c.started := by
    intro c
    cases c <;> rfl
  unfold startedSpans
  rw [List.map_filterMap]
  congr 1
  funext c
  exact hspan c

/-- Calls of a listener, with the operations they start. -/
def listened (s : Joint U Ctx H α) (cs : List Call) (ops : List Op) : Joint U Ctx H α :=
  { s with
    sys := { s.sys with calls := s.sys.calls ++ cs, ops := s.sys.ops ++ ops }
    causes := s.causes ++ ops.map Op.cause }

/-- An operation that was started in the context of its cause. -/
structure Caused (ops : List Op) (op : Op) : Prop where
  valid : op.span.isValid = true
  kind : op.kind = .internal
  called : op.parent = op.current
  caused : ∀ j, op.cause = some j → ∃ origin, ops[j]? = some origin ∧
    op.parent = origin.span ∧ op.span.traceId = origin.span.traceId

lemma caused_of_held {ops : List Op} {cause : Option ℕ} {c : Ctx}
    (h : Held ops start cause c) (calls : List Call) :
    Caused ops ⟨cause, spanIn c, newSpan calls (spanIn c), spanIn c, .internal⟩ := by
  refine ⟨newSpan_valid _ _, rfl, rfl, fun j hj => ?_⟩
  obtain ⟨origin, horigin, hvalid, hspan⟩ := h.inside j hj
  refine ⟨origin, horigin, hspan, ?_⟩
  rw [hspan]
  exact newSpan_traceId _ hvalid

lemma inv_listened {s : Joint U Ctx H α} (h : SpawnedTraces.Inv start s) {cs : List Call}
    {ops : List Op} (hspans : ops.map Op.span = startedSpans cs)
    (hops : ∀ op ∈ ops, Caused s.sys.ops op) :
    SpawnedTraces.Inv start (listened s cs ops) := by
  refine ⟨⟨?_, ?_, ?_, ?_⟩, ⟨h.spawns.genuine, h.spawns.faithful, h.spawns.frames⟩, ?_, ?_,
    h.placed, ?_, ?_, ?_, ?_⟩
  · simp only [listened, List.map_append, startedSpans_append, h.traces.spans, hspans]
  · intro i op hi
    by_cases hlt : i < s.sys.ops.length
    · simp only [listened, List.getElem?_append_left hlt] at hi
      exact (h.traces.linked i op hi).append ops
    · have hle : s.sys.ops.length ≤ i := Nat.le_of_not_lt hlt
      simp only [listened, List.getElem?_append_right hle] at hi
      have hop := hops op (List.mem_of_getElem? hi)
      refine ⟨hop.valid, fun _ _ => hop.called, fun j hj => ?_⟩
      obtain ⟨origin, horigin, hparent, htrace⟩ := hop.caused j hj
      have hjlt : j < s.sys.ops.length := (List.getElem?_eq_some_iff.mp horigin).1
      refine ⟨Nat.lt_of_lt_of_le hjlt hle, origin, getElem?_append_of_some horigin ops, hparent,
        htrace, ?_⟩
      rw [hop.kind]
      trivial
  · exact fun p hp => (h.traces.genuine p hp).append ops
  · exact fun u => (h.traces.nested u).append ops
  · exact fun u => (h.works u).append ops
  · exact fun u => (h.stacked u).append ops
  · exact fun k ref captured func hk => (h.closures k ref captured func hk).append ops
  · exact fun t c hc => (h.threads t c hc).append ops
  · simp only [listened, List.length_append, List.length_map, h.beside]
  · intro i op j hi hj
    by_cases hlt : i < s.sys.ops.length
    · simp only [listened, List.getElem?_append_left hlt] at hi
      simp only [listened, List.getElem?_append_left (h.beside ▸ hlt)] at hj
      obtain ⟨hji, origin, horigin, hrest⟩ := h.caused i op j hi hj
      exact ⟨hji, origin, getElem?_append_of_some horigin ops, hrest⟩
    · have hle : s.sys.ops.length ≤ i := Nat.le_of_not_lt hlt
      simp only [listened, List.getElem?_append_right hle] at hi
      simp only [listened, List.getElem?_append_right (h.beside ▸ hle), h.beside,
        List.getElem?_map, hi] at hj
      have hcause : op.cause = some j := Option.some.inj hj
      obtain ⟨origin, horigin, hrest⟩ :=
        (hops op (List.mem_of_getElem? hi)).caused j hcause
      have hjlt : j < s.sys.ops.length := (List.getElem?_eq_some_iff.mp horigin).1
      exact ⟨Nat.lt_of_lt_of_le hjlt hle, origin, getElem?_append_of_some horigin ops, hrest⟩

/-- The context of a span that was just started. -/
lemma held_started (ops : List Op) {op : Op} {c : Ctx} (hon : enabled c = true)
    (hvalid : op.span.isValid = true) :
    Held (ops ++ [op]) start (some ops.length) (setSpan op.span c) := by
  refine ⟨(enabled_setSpan _ _).trans hon, fun h => absurd h nofun, fun i hi => ?_⟩
  obtain rfl : ops.length = i := Option.some.inj hi
  exact ⟨op, List.getElem?_concat_length, hvalid, spanIn_setSpan _ _⟩

/-- The context an atom's span is started in is that of its cause. -/
lemma Inv.held_cause {s : Whole E U Ctx H α} (h : Inv start s) (e : E) (u : U) (kind : Kind)
    (name uuid : Val) (method : Method) :
    Held s.joint.sys.ops start (s.cause e u (.atomStart kind name uuid method))
      ((s.listeners e).flowContext.getD (s.joint.sys.workers u).current) := by
  cases hflow : (s.listeners e).flowContext with
  | none =>
    simp only [Whole.cause, hflow]
    exact h.joint.held u
  | some c =>
    simp only [Whole.cause, hflow]
    exact h.flows e c hflow

end

/-! ### Steps -/

section

variable {E U Ctx H α : Type} [DecidableEq E] [DecidableEq U] [Propagator Ctx] {start : U → Ctx}
  {graph : E → List Node} {r : Reading α} {s : Whole E U Ctx H α}

lemma step_notify {e : E} {u : U} {n : Notification} {v : TfWorld Ctx}
    (hv : react (meaning n) (s.view graph e u) = v) {cs : List Call}
    (hcalls : v.calls = s.joint.sys.calls ++ cs) :
    let ops := cs.filterMap (opUnder (s.cause e u (meaning n)))
    step graph r s (.notify e u n) =
      { joint := listened s.joint cs ops
        listeners := Function.update s.listeners e v.host.listener
        contextAttr := v.host.contextAttr
        flowOps := s.flowOpsAfter e (meaning n) ops
        stashed := s.stashedAfter graph e u (meaning n) ops
        bodies := s.bodies } := by
  intro ops
  simp only [step, receive_apply, hv, hcalls, List.drop_left]
  rfl

lemma Inv.notify (h : Inv start s) (e : E) (u : U) (n : Notification) :
    Inv start (step graph r s (.notify e u n)) := by
  have hcurrent := h.joint.held u
  cases reacted (meaning n) (s.view graph e u) with
  | quiet cs hstarts hcalls hflow hattr =>
    have hnil : cs.filterMap (opUnder (s.cause e u (meaning n))) = [] := by
      apply List.map_eq_nil_iff.mp
      rw [map_span_opUnder, hstarts]
    have hflowOps : s.flowOpsAfter e (meaning n) [] = s.flowOps := by
      cases meaning n <;> rfl
    have hstashed : s.stashedAfter graph e u (meaning n) [] = s.stashed := by
      cases meaning n <;> rfl
    rw [step_notify rfl hcalls, hnil, hflowOps, hstashed]
    refine ⟨inv_listened h.joint hstarts.symm (fun op hop => absurd hop List.not_mem_nil), ?_, ?_,
      ?_⟩
    · intro e' c hc
      simp only [listened, List.append_nil] at hc ⊢
      by_cases he : e' = e
      · subst he
        rw [Function.update_self] at hc
        rcases hflow with hsame | hnone
        · exact h.flows e' c (hsame.symm.trans hc)
        · exact absurd (hnone.symm.trans hc) nofun
      · rw [Function.update_of_ne he] at hc
        exact h.flows e' c hc
    · intro a c hc
      simp only [listened, List.append_nil]
      exact h.stashes a c ((congrFun hattr a).symm.trans hc)
    · simp only [listened, List.append_nil]
      exact h.bodies
  | flow details hm name attributes hcalls hflow hattr =>
    have hops : [Call.start (nextFlowSpan (s.view graph e u)) (spanIn (s.view graph e u).current)
        name .internal attributes].filterMap (opUnder (s.cause e u (meaning n))) =
        [⟨s.joint.inside u, spanIn (s.joint.sys.workers u).current,
          newSpan s.joint.sys.calls (spanIn (s.joint.sys.workers u).current),
          spanIn (s.joint.sys.workers u).current, .internal⟩] := by
      rw [hm]
      rfl
    have hcaused := caused_of_held hcurrent s.joint.sys.calls
    rw [step_notify rfl hcalls, hops, hm]
    refine ⟨inv_listened h.joint rfl fun op hop => ?_, ?_, ?_, ?_⟩
    · obtain rfl := List.mem_singleton.mp hop
      exact hcaused
    · intro e' c hc
      simp only [listened, Whole.flowOpsAfter] at hc ⊢
      by_cases he : e' = e
      · subst he
        rw [Function.update_self] at hc ⊢
        obtain rfl := Option.some.inj (hflow.symm.trans (hm ▸ hc))
        exact held_started _ hcurrent.on hcaused.valid
      · rw [Function.update_of_ne he] at hc ⊢
        exact (h.flows e' c hc).append _
    · intro a c hc
      exact (h.stashes a c ((congrFun hattr a).symm.trans (hm ▸ hc))).append _
    · exact fun u' b hb => (h.bodies u' b hb).append _
  | atom kind name uuid method hm title attributes hcalls hflow hattr =>
    let c₀ := (s.listeners e).flowContext.getD (s.joint.sys.workers u).current
    have hops : [Call.start (nextAtomSpan (s.view graph e u)) (atomParent (s.view graph e u))
        title .internal attributes].filterMap (opUnder (s.cause e u (meaning n))) =
        [⟨s.cause e u (.atomStart kind name uuid method), spanIn c₀,
          newSpan s.joint.sys.calls (spanIn c₀), spanIn c₀, .internal⟩] := by
      rw [hm]
      rfl
    have hcaused := caused_of_held (h.held_cause e u kind name uuid method) s.joint.sys.calls
    rw [step_notify rfl hcalls, hops, hm]
    refine ⟨inv_listened h.joint rfl fun op hop => ?_, ?_, ?_, ?_⟩
    · obtain rfl := List.mem_singleton.mp hop
      exact hcaused
    · intro e' c hc
      simp only [listened, Whole.flowOpsAfter] at hc ⊢
      by_cases he : e' = e
      · subst he
        rw [Function.update_self] at hc
        exact (h.flows e' c (hflow.symm.trans (hm ▸ hc))).append _
      · rw [Function.update_of_ne he] at hc
        exact (h.flows e' c hc).append _
    · intro a c hc
      have hc := (congrFun hattr a).symm.trans (hm ▸ hc)
      simp only [listened, Whole.stashedAfter]
      cases hatom : atomTable (s.view graph e u) name with
      | none =>
        simp only [hatom] at hc ⊢
        exact (h.stashes a c hc).append _
      | some atom =>
        simp only [hatom] at hc ⊢
        by_cases ha : a = atom
        · subst ha
          rw [Function.update_self] at hc ⊢
          obtain rfl := Option.some.inj hc
          exact held_started _ hcurrent.on hcaused.valid
        · rw [Function.update_of_ne ha] at hc ⊢
          exact (h.stashes a c hc).append _
    · exact fun u' b hb => (h.bodies u' b hb).append _

/-- A worker begins the body of an atom. -/
lemma Inv.enter (h : Inv start s) (e : E) (u : U) (atom : ℕ) :
    Inv start (step graph r s (.enter e u atom)) := by
  cases hattr : s.contextAttr atom with
  | none =>
    have hstep : step graph r s (.enter e u atom) = s := by
      simp [step, enterBody_apply, Whole.view, hattr]
    rw [hstep]
    exact h
  | some c =>
    have hstep : step graph r s (.enter e u atom) =
        { s with
          joint := s.joint.put u c ⟨⟨s.stashed atom, c⟩, []⟩ [] []
          contextAttr := Function.update s.contextAttr atom none
          bodies := Function.update s.bodies u
            (⟨e, ⟨(s.joint.sys.workers u).current⟩,
              ⟨s.joint.work u, (s.joint.sys.workers u).frames⟩, s.joint.frames u,
              s.joint.waiting u⟩ :: s.bodies u) } := by
      simp [step, enterBody_apply, Whole.view, hattr, Engines.entered]
    rw [hstep]
    refine ⟨?_, h.flows, ?_, ?_⟩
    · exact h.joint.put rfl rfl h.joint.spawns.faithful (fun f hf => absurd hf List.not_mem_nil)
        rfl (h.stashes atom c hattr) trivial
    · intro a c' hc'
      dsimp only at hc'
      by_cases ha : a = atom
      · subst ha
        rw [Function.update_self] at hc'
        exact absurd hc' (Option.some_ne_none c').symm
      · rw [Function.update_of_ne ha] at hc'
        exact h.stashes a c' hc'
    · refine Runs.forall_mem_update h.bodies (List.forall_mem_cons.mpr ⟨?_, h.bodies u⟩)
      exact ⟨h.joint.traces.nested u, h.joint.works u, h.joint.spawns.frames u, h.joint.stacked u⟩

/-- The body of an atom ends. -/
lemma Inv.exit (h : Inv start s) {u : U} (hok : Ok (E := E) s (.exit u)) :
    Inv start (step graph r s (.exit u)) := by
  obtain ⟨b, bs, hu⟩ := List.exists_cons_of_ne_nil hok.1
  have hsound := h.bodies u b (hu ▸ List.mem_cons_self ..)
  have hstep : step graph r s (.exit u) =
      { s with
        joint := s.joint.put u b.token.old b.interrupted b.frames b.waiting
        bodies := Function.update s.bodies u bs } := by
    simp [step, hu, exitBody_apply]
  rw [hstep]
  refine ⟨?_, h.flows, h.stashes, ?_⟩
  · exact h.joint.put rfl rfl h.joint.spawns.faithful hsound.frames hsound.nested hsound.held
      hsound.stacked
  · exact Runs.forall_mem_update h.bodies fun b' hb' =>
      h.bodies u b' (hu ▸ List.mem_cons_of_mem _ hb')

theorem Inv.step [Faithful Ctx] (h : Inv start s) {ev : Event E U Ctx H α} (hok : Ok s ev) :
    Inv start (step graph r s ev) := by
  cases ev with
  | joint ev =>
    obtain ⟨more, hmore⟩ := SpawnedTraces.ops_step (r := r) s.joint ev
    refine ⟨h.joint.step hok, fun e c hc => ?_, fun a c hc => ?_, fun u b hb => ?_⟩ <;>
      simp only [FlowTraces.step, ← hmore]
    · exact (h.flows e c hc).append more
    · exact (h.stashes a c hc).append more
    · exact (h.bodies u b hb).append more
  | notify e u n => exact h.notify e u n
  | enter e u atom => exact h.enter e u atom
  | exit u => exact h.exit hok

end

/-! ### Whole runs -/

section

variable {E U Ctx H α R : Type} [DecidableEq E] [DecidableEq U] [Propagator Ctx] [Faithful Ctx]
  {start : U → Ctx}

lemma inv_run (graph : E → List Node) (r : Reading α) (hstart : ∀ u, enabled (start u) = true)
    (host : U → H) {evs : List (Event E U Ctx H α)}
    (hl : Legal Ok (step graph r) (Whole.init start host) evs) :
    Inv start (run (step graph r) (Whole.init start host) evs) :=
  inv_of_legal (fun _ _ h hok => h.step hok) (Inv.init hstart host) hl

/-- **One trace through everything.** In every run, the span of an operation is a child of that
of its cause, and in the trace of the root of its tree. The cause is the operation whose callable
it was called in, the one whose request or message it serves, the one that the spawned work or
the thread it was called in came from, or the atom's whose body it was called in; of an atom it is
the flow. What is current on a worker, and on the records it makes, is the operation it is inside
of or works for; a worker that is in none, and works for none, has a context that some worker
started with. -/
theorem one_trace_everywhere (graph : E → List Node) (r : Reading α)
    (hstart : ∀ u, enabled (start u) = true) (host : U → H) {evs : List (Event E U Ctx H α)}
    (hl : Legal Ok (step graph r) (Whole.init start host) evs) :
    let s := (run (step graph r) (Whole.init start host) evs).joint
    s.sys.ops.map Op.span = startedSpans s.sys.calls ∧
      (∀ (i : ℕ) (op : Op), s.sys.ops[i]? = some op →
        (∃ j root, RootOf id s.causes j i ∧ s.sys.ops[j]? = some root) ∧
        (∀ (j : ℕ) (root : Op), RootOf id s.causes j i → s.sys.ops[j]? = some root →
          op.span.traceId = root.span.traceId) ∧
        ∀ (j : ℕ) (origin : Op), s.causes[i]? = some (some j) → s.sys.ops[j]? = some origin →
          op.parent = origin.span) ∧
      ∀ u, (s.inside u = none → ∃ v, (s.sys.workers u).current = start v) ∧
        ∀ i, s.inside u = some i → ∃ op : Op, s.sys.ops[i]? = some op ∧
          spanIn (s.sys.workers u).current = op.span ∧
          ∀ sampled resolve (hook : Option (RecordFactory.LogHook R)) base factory record,
            Correlation.KeepsIds hook →
            (RecordFactory.recordFactory sampled resolve hook base
              (spanIn (s.sys.workers u).current) factory).1 = .ok record →
            Correlation.Stamped sampled op.span record := by
  intro s
  have h : SpawnedTraces.Inv start s := (inv_run graph r hstart host hl).joint
  refine ⟨h.traces.spans, fun i op hi => ⟨h.exists_root hi,
    fun j root hroot hj => h.trace_of_root hroot hi hj, ?_⟩,
    fun u => ⟨(h.held u).outside, fun i hi => ?_⟩⟩
  · intro j origin hcause hj
    obtain ⟨-, origin', horigin', hparent, -⟩ := h.caused i op j hi hcause
    obtain rfl := Option.some.inj (horigin'.symm.trans hj)
    exact hparent
  · obtain ⟨op, hop, -, hspan⟩ := (h.held u).inside i hi
    refine ⟨op, hop, hspan, ?_⟩
    intro sampled resolve hook base factory record hhook hrecord
    rw [hspan] at hrecord
    exact Correlation.recordFactory_stamped hhook hrecord

end

/-- The handler of a message runs a flow of one task; the task, run by another worker, spawns
work, and that casts a message from a third worker when the task has ended. -/
def handlerRunsFlow : List (Event Unit ℕ BareContext Unit Unit) :=
  [.joint (.trace (.dispatch 0 .rpc none [.incoming (.val .none) (.val .none) []] [])),
    .notify () 0 (.flow .running ⟨fun _ => .str "flow", .other⟩),
    .notify () 0 (.atom .task .running ⟨fun _ => .str "task", .other⟩),
    .enter () 1 0,
    .joint (.spawn (.submit 1 0 [.fn (.own 7)] [])),
    .exit 1,
    .joint (.spawn (.invoke 2 (.traced 0 ⟨⟨1, 3⟩, false⟩ (.own 7)) [] [])),
    .joint (.trace (.store 2 [[]] ())),
    .joint (.trace
      (.send 2 false none [.target (.ok .none) (.ok .none), .dict 0, .val .none] []))]

def oneTask : Unit → List Node := fun _ => [⟨some (.str "task"), true, 0⟩]

lemma legal_handlerRunsFlow :
    Legal Ok (step oneTask Traces.blind) (Whole.init (fun _ => empty) fun _ => ())
      handlerRunsFlow := by
  refine ⟨⟨rfl, fun k hk => absurd hk nofun⟩, trivial, trivial, trivial,
    ⟨rfl, .own 7, rfl, trivial⟩, ⟨List.cons_ne_nil _ _, rfl, rfl⟩, ?_, trivial,
    ⟨0, rfl, by decide⟩, trivial⟩
  exact List.Mem.head _

theorem one_trace_everywhere_handler :
    let s := (run (step oneTask Traces.blind) (Whole.init (fun _ => empty) fun _ => ())
      handlerRunsFlow).joint
    s.causes = [none, some 0, some 1, some 2] ∧
      ∀ (i : ℕ) (op : Op), s.sys.ops[i]? = some op → ∀ (j : ℕ) (root : Op),
        RootOf id s.causes j i → s.sys.ops[j]? = some root →
        op.span.traceId = root.span.traceId := by
  intro s
  have htrace := one_trace_everywhere (R := Unit) oneTask Traces.blind (fun _ => rfl)
    (fun _ => ()) legal_handlerRunsFlow
  exact ⟨by decide, fun i op hop => (htrace.2.1 i op hop).2.1⟩

end OtelOpenstack.FlowTraces
