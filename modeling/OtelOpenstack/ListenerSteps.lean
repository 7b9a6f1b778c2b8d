import OtelOpenstack.Listener

/-!
What the receivers do when no outside call raises: one function on worlds for each part of a
receiver, and `received` for a whole notification.
-/

set_option autoImplicit false

namespace OtelOpenstack.ListenerSteps

open Effects Python Otel ContextApi Listener

/-- The calls that close a flow span. -/
def flowClosing (state : State) (span : SpanContext) : List Call :=
  (if flowFinishStates state = some true then [.setStatus span .error (some state.text)]
   else []) ++ [.finish span]

def failureCalls (span : SpanContext) : Result → List Call
  | .failure (some e) exceptionStr =>
    [.recordException span e, .setStatus span .error (some exceptionStr)]
  | .failure none exceptionStr => [.setStatus span .error (some exceptionStr)]
  | .other => [.setStatus span .error none]

/-- The calls that close an atom span. -/
def atomClosing (span : SpanContext) (isFailure : Bool) (result : Result) : List Call :=
  (if isFailure then failureCalls span result else []) ++ [.finish span]

/-- The attributes of a new atom span. -/
def atomAttributes (kind : Kind) (name uuid : Val) (method : Method) : Dict :=
  [(s!"taskflow.{kind.text}.name", name), (s!"taskflow.{kind.text}.uuid", uuid),
   (s!"taskflow.{kind.text}.method", .str method.text)]

def flowAttributes (details : Details) : Dict :=
  [("taskflow.flow.name", details.get "flow_name"),
   ("taskflow.flow.uuid", details.get "flow_uuid")]

section

variable {Ctx : Type}

abbrev TfWorld (Ctx : Type) := World Ctx (Host Ctx)

def withListener (w : TfWorld Ctx) (l : TraceListener Ctx) : TfWorld Ctx :=
  { w with host := { w.host with listener := l } }

/-- The listener's table of atoms, as it is after a look-up. -/
def atomTable (w : TfWorld Ctx) : Val → Option ℕ :=
  w.host.listener.atomsByName.getD (atomsOf w.host.executionGraph)

def tookFlow (w : TfWorld Ctx) : TfWorld Ctx :=
  withListener w { w.host.listener with flowSpan := none, flowContext := none }

def poppedAtom (key : Key) (w : TfWorld Ctx) : TfWorld Ctx :=
  withListener w
    { w.host.listener with atomSpans := Function.update w.host.listener.atomSpans key none }

lemma poppedAtom_of_none {w : TfWorld Ctx} {key : Key}
    (h : w.host.listener.atomSpans key = none) : poppedAtom key w = w := by
  have hu : Function.update w.host.listener.atomSpans key none = w.host.listener.atomSpans := by
    rw [← h, Function.update_eq_self]
  simp [poppedAtom, hu, withListener]

variable [ContextApi Ctx]

/-- The span the next start of a flow opens. -/
def nextFlowSpan (w : TfWorld Ctx) : SpanContext := newSpan w.calls (spanIn w.current)

def startedFlow (details : Details) (w : TfWorld Ctx) : TfWorld Ctx :=
  withListener
    (w.called [.start (nextFlowSpan w) (spanIn w.current) "taskflow.flow.run" .internal
      (flowAttributes details)])
    { w.host.listener with
      flowSpan := some (nextFlowSpan w)
      flowContext := some (setSpan (nextFlowSpan w) w.current) }

/-- The parent of the atom spans that open now. -/
def atomParent (w : TfWorld Ctx) : SpanContext :=
  spanIn (w.host.listener.flowContext.getD w.current)

/-- The span the next start of an atom opens. -/
def nextAtomSpan (w : TfWorld Ctx) : SpanContext := newSpan w.calls (atomParent w)

def openedAtom (kind : Kind) (name uuid : Val) (method : Method) (w : TfWorld Ctx) :
    TfWorld Ctx :=
  withListener
    (w.called [.start (nextAtomSpan w) (atomParent w)
      s!"taskflow.{kind.text}.{method.text}" .internal (atomAttributes kind name uuid method)])
    { w.host.listener with
      atomSpans :=
        Function.update w.host.listener.atomSpans (uuid, method) (some (nextAtomSpan w)) }

def handedOff (name : Val) (span : SpanContext) (w : TfWorld Ctx) : TfWorld Ctx :=
  { w with
    host :=
      { w.host with
        listener := { w.host.listener with atomsByName := some (atomTable w) }
        contextAttr := match atomTable w name with
          | none => w.host.contextAttr
          | some atom =>
            Function.update w.host.contextAttr atom (some (setSpan span w.current)) } }

/-! ### The parts of the receivers -/

lemma startFlow_idle {w : TfWorld Ctx} (details : Details) (h : w.host.listener.flowSpan = none) :
    startFlow noFaults details w = (.ok (), startedFlow details w) := by
  simp [startFlow, getListener, setListener, bind_apply, h, startedFlow, withListener,
    World.called, nextFlowSpan, flowAttributes]

lemma startFlow_tracing {w : TfWorld Ctx} (details : Details)
    (h : w.host.listener.flowSpan.isSome) :
    startFlow noFaults details w = (.ok (), w) := by
  simp [startFlow, getListener, bind_apply, h]

omit [ContextApi Ctx] in
lemma takeFlow_apply (w : TfWorld Ctx) :
    takeFlow w = (.ok w.host.listener.flowSpan, tookFlow w) := by
  simp [takeFlow, getListener, setListener, bind_apply, tookFlow, withListener]

omit [ContextApi Ctx] in
lemma closeFlow_apply (state : State) (span : SpanContext) (w : TfWorld Ctx) :
    closeFlow noFaults state span w = (.ok (), w.called (flowClosing state span)) := by
  by_cases h : flowFinishStates state = some true <;>
    simp [closeFlow, bind_apply, flowClosing, h, World.called]

lemma openAtom_free {w : TfWorld Ctx} (kind : Kind) (name : Val) {uuid : Val} {method : Method}
    (h : w.host.listener.atomSpans (uuid, method) = none) :
    openAtom noFaults kind name uuid method w =
      (.ok (some (nextAtomSpan w)), openedAtom kind name uuid method w) := by
  simp [openAtom, getListener, setListener, bind_apply, h, openedAtom, withListener,
    World.called, nextAtomSpan, atomParent, atomAttributes]

lemma openAtom_open {w : TfWorld Ctx} (kind : Kind) (name : Val) {uuid : Val} {method : Method}
    (h : (w.host.listener.atomSpans (uuid, method)).isSome) :
    openAtom noFaults kind name uuid method w = (.ok none, w) := by
  simp [openAtom, getListener, bind_apply, h]

omit [ContextApi Ctx] in
lemma atomByName_apply (name : Val) (w : TfWorld Ctx) :
    atomByName noFaults name w =
      (.ok (atomTable w name),
        withListener w { w.host.listener with atomsByName := some (atomTable w) }) := by
  rcases h : w.host.listener.atomsByName with _ | atoms
  · simp [atomByName, getListener, setListener, exceptException, bind_apply, h, tryExcept,
      atomTable, withListener]
  · have hw : withListener w { w.host.listener with atomsByName := some atoms } = w := by
      simp [withListener, ← h]
    simp [atomByName, getListener, bind_apply, h, atomTable, hw]

lemma handOff_apply (name : Val) (span : SpanContext) (w : TfWorld Ctx) :
    handOff noFaults name span w = (.ok (), handedOff name span w) := by
  rcases h : atomTable w name with _ | atom <;>
    simp [handOff, bind_apply, atomByName_apply, h, handedOff, withListener, setContextAttr]

omit [ContextApi Ctx] in
lemma popAtom_apply (uuid : Val) (method : Method) (w : TfWorld Ctx) :
    popAtom uuid method w =
      (.ok (w.host.listener.atomSpans (uuid, method)), poppedAtom (uuid, method) w) := by
  simp [popAtom, getListener, setListener, bind_apply, poppedAtom, withListener]

omit [ContextApi Ctx] in
lemma closeAtom_apply (span : SpanContext) (isFailure : Bool) (details : Details)
    (w : TfWorld Ctx) :
    closeAtom noFaults span isFailure details w =
      (.ok (), w.called (atomClosing span isFailure details.result)) := by
  cases isFailure
  · simp [closeAtom, atomClosing, World.called]
  · rcases h : details.result with ⟨_ | e, str⟩ | _ <;>
      simp [closeAtom, setFailure, bind_apply, atomClosing, failureCalls, h, World.called]

/-! ### Whole notifications -/

/-- What a notification asks of the listener. -/
inductive Meaning
  | flowStart (details : Details)
  | flowFinish (state : State)
  | atomStart (kind : Kind) (name uuid : Val) (method : Method)
  | atomFinish (kind : Kind) (uuid : Val) (method : Method) (isFailure : Bool) (details : Details)
  | other

def meaning : Notification → Meaning
  | .flow state details =>
    if state = .running then .flowStart details
    else if (flowFinishStates state).isSome then .flowFinish state
    else .other
  | .atom kind state details =>
    let name := details.get s!"{kind.text}_name"
    let uuid := details.get s!"{kind.text}_uuid"
    match atomStartMethods state with
    | some method => .atomStart kind name uuid method
    | none => match atomFinishMethods state with
      | some (method, isFailure) => .atomFinish kind uuid method isFailure details
      | none => .other

omit [ContextApi Ctx] in
def finishedFlow (state : State) (w : TfWorld Ctx) : TfWorld Ctx :=
  match w.host.listener.flowSpan with
  | none => tookFlow w
  | some span => (tookFlow w).called (flowClosing state span)

def startedAtom (kind : Kind) (name uuid : Val) (method : Method) (w : TfWorld Ctx) :
    TfWorld Ctx :=
  match w.host.listener.atomSpans (uuid, method) with
  | some _ => w
  | none => handedOff name (nextAtomSpan w) (openedAtom kind name uuid method w)

omit [ContextApi Ctx] in
def finishedAtom (uuid : Val) (method : Method) (isFailure : Bool) (result : Result)
    (w : TfWorld Ctx) : TfWorld Ctx :=
  match w.host.listener.atomSpans (uuid, method) with
  | none => w
  | some span => (poppedAtom (uuid, method) w).called (atomClosing span isFailure result)

/-- The effect of a notification. -/
def react : Meaning → TfWorld Ctx → TfWorld Ctx
  | .flowStart details, w => if w.host.listener.flowSpan.isSome then w else startedFlow details w
  | .flowFinish state, w => finishedFlow state w
  | .atomStart kind name uuid method, w => startedAtom kind name uuid method w
  | .atomFinish _ uuid method isFailure details, w =>
    finishedAtom uuid method isFailure details.result w
  | .other, w => w

omit [ContextApi Ctx] in
lemma finishFlow_apply (state : State) (w : TfWorld Ctx) :
    finishFlow noFaults state w = (.ok (), finishedFlow state w) := by
  rw [finishFlow, bind_of_ok (takeFlow_apply w), finishedFlow]
  rcases w.host.listener.flowSpan with _ | span
  · rfl
  · exact closeFlow_apply state span _

lemma startAtom_apply {state : State} {method : Method} (hm : atomStartMethods state = some method)
    (kind : Kind) (name uuid : Val) (w : TfWorld Ctx) :
    startAtom noFaults kind name uuid state w = (.ok (), startedAtom kind name uuid method w) := by
  simp only [startAtom, hm, startedAtom]
  rcases h : w.host.listener.atomSpans (uuid, method) with _ | span
  · rw [bind_of_ok (openAtom_free kind name h)]
    exact handOff_apply name _ _
  · rw [bind_of_ok (openAtom_open kind name (by simp [h]))]
    rfl

omit [ContextApi Ctx] in
lemma finishAtom_apply {state : State} {method : Method} {isFailure : Bool}
    (hm : atomFinishMethods state = some (method, isFailure)) (uuid : Val) (details : Details)
    (w : TfWorld Ctx) :
    finishAtom noFaults uuid state details w =
      (.ok (), finishedAtom uuid method isFailure details.result w) := by
  simp only [finishAtom, hm, finishedAtom]
  rw [bind_of_ok (popAtom_apply uuid method w)]
  rcases h : w.host.listener.atomSpans (uuid, method) with _ | span
  · rw [poppedAtom_of_none h]
    rfl
  · exact closeAtom_apply span isFailure details _

omit [ContextApi Ctx] in
lemma exceptException_of_ok {α : Type} {body handler : ListenerCode Ctx α} {w v : TfWorld Ctx}
    {a : α} (h : body w = (.ok a, v)) : exceptException body handler w = (.ok a, v) :=
  tryExcept_of_ok h

lemma onAtom_apply (kind : Kind) (state : State) (details : Details) (w : TfWorld Ctx) :
    onAtom noFaults kind state details w =
      (.ok (), react (meaning (.atom kind state details)) w) := by
  apply exceptException_of_ok
  rcases hs : atomStartMethods state with _ | method
  · rcases hf : atomFinishMethods state with _ | ⟨method, isFailure⟩
    · simp [meaning, hs, hf, react]
    · simpa [meaning, hs, hf, react] using finishAtom_apply hf _ details w
  · simpa [meaning, hs, react] using startAtom_apply hs kind _ _ w

/-- **What a notification does**, nothing outside raising. -/
theorem receive_apply (n : Notification) (w : TfWorld Ctx) :
    receive noFaults n w = (.ok (), react (meaning n) w) := by
  rcases n with ⟨state, details⟩ | ⟨kind, state, details⟩
  · apply exceptException_of_ok
    by_cases hr : state = .running
    · subst hr
      rcases h : w.host.listener.flowSpan with _ | span
      · simpa [meaning, react, h] using startFlow_idle details h
      · simpa [meaning, react, h] using startFlow_tracing details (by simp [h])
    · by_cases hf : (flowFinishStates state).isSome
      · simpa [meaning, hr, hf, react] using finishFlow_apply state w
      · simp [meaning, hr, hf, react]
  · cases kind <;> exact onAtom_apply _ state details w

/-! ### Where spans are held -/

/-- A field, or an entry of a table, that can hold a span. -/
inductive Slot
  | flow
  | atom (key : Key)
  deriving DecidableEq

omit [ContextApi Ctx] in
def slots (l : TraceListener Ctx) : Slot → Option SpanContext
  | .flow => l.flowSpan
  | .atom key => l.atomSpans key

omit [ContextApi Ctx] in
lemma slots_update_flow (l : TraceListener Ctx) (x : Option SpanContext) (c : Option Ctx) :
    slots { l with flowSpan := x, flowContext := c } = Function.update (slots l) .flow x := by
  funext j
  cases j <;> simp [slots]

omit [ContextApi Ctx] in
lemma slots_update_atom (l : TraceListener Ctx) (key : Key) (x : Option SpanContext) :
    slots { l with atomSpans := Function.update l.atomSpans key x } =
      Function.update (slots l) (.atom key) x := by
  funext j
  rcases j with _ | j
  · simp [slots]
  · by_cases h : j = key
    · subst h; simp [slots]
    · simp [slots, h]

lemma atomClosing_span {span : SpanContext} {isFailure : Bool} {result : Result} :
    ∀ c ∈ atomClosing span isFailure result, c.span = span := by
  cases isFailure <;> rcases result with ⟨_ | e, str⟩ | _ <;>
    simp [atomClosing, failureCalls, Call.span]

lemma flowClosing_span {state : State} {span : SpanContext} :
    ∀ c ∈ flowClosing state span, c.span = span := by
  by_cases h : flowFinishStates state = some true <;> simp [flowClosing, h, Call.span]

lemma atomClosing_ends (span : SpanContext) (isFailure : Bool) (result : Result) :
    startedSpans (atomClosing span isFailure result) = [] ∧
      finishedSpans (atomClosing span isFailure result) = [span] := by
  cases isFailure <;> rcases result with ⟨_ | e, str⟩ | _ <;>
    simp [atomClosing, failureCalls, startedSpans, finishedSpans, List.filterMap_cons,
      Call.started, Call.finished]

lemma flowClosing_ends (state : State) (span : SpanContext) :
    startedSpans (flowClosing state span) = [] ∧
      finishedSpans (flowClosing state span) = [span] := by
  by_cases h : flowFinishStates state = some true <;>
    simp [flowClosing, h, startedSpans, finishedSpans, List.filterMap_cons, Call.started,
      Call.finished]

omit [ContextApi Ctx] in
/-- The spans held, in slots of any kind: started, not ended, and each held once. Whatever was
started and is not held has ended. -/
structure Holding {K : Type} (held : K → Option SpanContext) (calls : List Call) : Prop where
  numbered : Numbered calls
  known : Known calls
  once : ∀ j k span, held j = some span → held k = some span → j = k
  started : ∀ k span, held k = some span → span ∈ startedSpans calls
  unended : ∀ k span, held k = some span → .finish span ∉ calls
  accounted : ∀ span ∈ startedSpans calls, .finish span ∈ calls ∨ ∃ k, held k = some span

section Holding

variable {K : Type} {held : K → Option SpanContext} {calls : List Call}

omit [ContextApi Ctx]

lemma holding_nil (h : ∀ k, held k = none) : Holding held [] := by
  refine ⟨numbered_nil, known_nil, ?_, ?_, ?_, ?_⟩ <;> simp [h, startedSpans]

variable [DecidableEq K]

lemma Holding.opens (h : Holding held calls) {k : K} (hk : held k = none) {parent : SpanContext}
    {name : String} {kind : SpanKind} {attributes : Dict} :
    Holding (Function.update held k (some (newSpan calls parent)))
      (calls ++ [.start (newSpan calls parent) parent name kind attributes]) := by
  have hnew := newSpan_fresh h.numbered parent
  have hcases : ∀ j span, Function.update held k (some (newSpan calls parent)) j = some span →
      j = k ∧ span = newSpan calls parent ∨ held j = some span ∧ span ≠ newSpan calls parent := by
    intro j span hj
    by_cases hjk : j = k
    · subst hjk
      exact Or.inl ⟨rfl, by simpa [eq_comm] using hj⟩
    · rw [Function.update_of_ne hjk] at hj
      refine Or.inr ⟨hj, ?_⟩
      rintro rfl
      exact hnew (h.started j _ hj)
  refine ⟨h.numbered.start _ _ _ _ _, h.known.append (by simp [startedSpans, Call.started,
    Call.span]), ?_, ?_, ?_, ?_⟩
  · intro i j span hi hj
    rcases hcases i span hi with ⟨rfl, rfl⟩ | ⟨hi, hne⟩ <;>
      rcases hcases j _ hj with ⟨rfl, hs⟩ | ⟨hj, hne'⟩
    · rfl
    · exact absurd rfl hne'
    · exact absurd hs hne
    · exact h.once i j span hi hj
  · intro j span hj
    rw [startedSpans_append, List.mem_append]
    rcases hcases j span hj with ⟨-, rfl⟩ | ⟨hj, -⟩
    · exact Or.inr (by simp [startedSpans, Call.started])
    · exact Or.inl (h.started j span hj)
  · intro j span hj hm
    have hm : .finish span ∈ calls := by simpa using hm
    rcases hcases j span hj with ⟨-, rfl⟩ | ⟨hj, -⟩
    · exact hnew (h.known _ hm)
    · exact h.unended j span hj hm
  · intro span hspan
    rw [startedSpans_append, List.mem_append] at hspan
    rcases hspan with hspan | hspan
    · rcases h.accounted span hspan with hend | ⟨j, hj⟩
      · exact Or.inl (List.mem_append_left _ hend)
      · have hjk : j ≠ k := by
          rintro rfl
          simp [hk] at hj
        exact Or.inr ⟨j, by rwa [Function.update_of_ne hjk]⟩
    · have : span = newSpan calls parent := by simpa [startedSpans, Call.started] using hspan
      exact Or.inr ⟨k, by rw [this, Function.update_self]⟩

lemma Holding.closes (h : Holding held calls) {k : K} {span : SpanContext}
    (hk : held k = some span) {cs : List Call} (habout : ∀ c ∈ cs, c.span = span)
    (hstarts : startedSpans cs = []) (hends : finishedSpans cs = [span]) :
    Holding (Function.update held k none) (calls ++ cs) := by
  have hcases : ∀ j t, Function.update held k none j = some t → held j = some t ∧ t ≠ span := by
    intro j t hj
    have hjk : j ≠ k := by
      rintro rfl
      simp at hj
    rw [Function.update_of_ne hjk] at hj
    refine ⟨hj, ?_⟩
    rintro rfl
    exact hjk (h.once j k t hj hk)
  have hstarted : startedSpans (calls ++ cs) = startedSpans calls := by
    rw [startedSpans_append, hstarts, List.append_nil]
  refine ⟨h.numbered.append hstarts, h.known.append fun c hc => ?_, ?_, ?_, ?_, ?_⟩
  · rw [habout c hc, hstarted]
    exact h.started k span hk
  · intro i j t hi hj
    exact h.once i j t (hcases i t hi).1 (hcases j t hj).1
  · intro j t hj
    rw [hstarted]
    exact h.started j t (hcases j t hj).1
  · intro j t hj hm
    obtain ⟨hj, hne⟩ := hcases j t hj
    rcases List.mem_append.mp hm with hm | hm
    · exact h.unended j t hj hm
    · exact hne (habout _ hm)
  · intro t ht
    rw [hstarted] at ht
    by_cases hts : t = span
    · exact Or.inl (List.mem_append_right _ (mem_finishedSpans.mp (by simp [hends, hts])))
    · rcases h.accounted t ht with hend | ⟨j, hj⟩
      · exact Or.inl (List.mem_append_left _ hend)
      · have hjk : j ≠ k := by
          rintro rfl
          exact hts (Option.some.inj (hj.symm.trans hk))
        exact Or.inr ⟨j, by rwa [Function.update_of_ne hjk]⟩

end Holding

/-- `_flow_context` goes with `_flow_span`. -/
def FlowContext (l : TraceListener Ctx) : Prop :=
  match l.flowSpan with
  | none => l.flowContext = none
  | some span => ∃ c, l.flowContext = some (setSpan span c)

/-- While a flow is traced, atom spans open under its span. -/
lemma FlowContext.atomParent {w : TfWorld Ctx} (h : FlowContext w.host.listener)
    {flow : SpanContext} (hflow : w.host.listener.flowSpan = some flow) :
    atomParent w = flow := by
  simp only [FlowContext, hflow] at h
  obtain ⟨c, hc⟩ := h
  simp [ListenerSteps.atomParent, hc]

lemma FlowContext.react {w : TfWorld Ctx} (h : FlowContext w.host.listener) (m : Meaning) :
    FlowContext (react m w).host.listener := by
  rcases m with details | state | ⟨kind, name, uuid, method⟩ |
      ⟨kind, uuid, method, isFailure, details⟩ | _
  · rcases hf : w.host.listener.flowSpan with _ | span
    · simp only [ListenerSteps.react, hf]
      exact ⟨w.current, rfl⟩
    · simpa [ListenerSteps.react, hf] using h
  · rcases hf : w.host.listener.flowSpan with _ | span <;>
      simp [ListenerSteps.react, finishedFlow, hf, FlowContext, tookFlow, withListener,
        World.called]
  · rcases hs : w.host.listener.atomSpans (uuid, method) with _ | span
    · simp only [ListenerSteps.react, startedAtom, hs]
      exact h
    · simpa only [ListenerSteps.react, startedAtom, hs] using h
  · rcases hs : w.host.listener.atomSpans (uuid, method) with _ | span
    · simpa only [ListenerSteps.react, finishedAtom, hs] using h
    · simp only [ListenerSteps.react, finishedAtom, hs]
      exact h
  · exact h

lemma slots_handedOff (name : Val) (span : SpanContext) (w : TfWorld Ctx) :
    slots (handedOff name span w).host.listener = slots w.host.listener := by
  funext j
  cases j <;> rfl

/-- What a notification does to the spans: nothing, or it opens one into a free slot, or it
empties a slot and ends what it held. -/
inductive Moved (w v : TfWorld Ctx) : Prop
  | same (hslots : slots v.host.listener = slots w.host.listener) (hcalls : v.calls = w.calls)
  | opens (k : Slot) (parent : SpanContext) (name : String) (attributes : Dict)
      (hfree : slots w.host.listener k = none)
      (hslots : slots v.host.listener =
        Function.update (slots w.host.listener) k (some (newSpan w.calls parent)))
      (hcalls : v.calls =
        w.calls ++ [.start (newSpan w.calls parent) parent name .internal attributes])
  | closes (k : Slot) (span : SpanContext) (cs : List Call)
      (hheld : slots w.host.listener k = some span)
      (hslots : slots v.host.listener = Function.update (slots w.host.listener) k none)
      (hcalls : v.calls = w.calls ++ cs) (habout : ∀ c ∈ cs, c.span = span)
      (hstarts : startedSpans cs = []) (hends : finishedSpans cs = [span])

omit [ContextApi Ctx] in
lemma Moved.calls_append {w v : TfWorld Ctx} (h : Moved w v) : ∃ cs, v.calls = w.calls ++ cs := by
  rcases h with ⟨-, hcalls⟩ | ⟨_, _, _, _, -, -, hcalls⟩ | ⟨_, _, _, -, -, hcalls, -, -, -⟩
  · exact ⟨[], by rw [hcalls, List.append_nil]⟩
  · exact ⟨_, hcalls⟩
  · exact ⟨_, hcalls⟩

lemma react_moved (m : Meaning) (w : TfWorld Ctx) : Moved w (react m w) := by
  rcases m with details | state | ⟨kind, name, uuid, method⟩ |
      ⟨kind, uuid, method, isFailure, details⟩ | _
  · rcases h : w.host.listener.flowSpan with _ | span
    · have hw : react (.flowStart details) w = startedFlow details w := by simp [react, h]
      exact hw ▸ .opens .flow (spanIn w.current) "taskflow.flow.run" _ h
        (slots_update_flow ..) rfl
    · have hw : react (.flowStart details) w = w := by simp [react, h]
      exact .same (by rw [hw]) (by rw [hw])
  · rcases h : w.host.listener.flowSpan with _ | span
    · have hw : react (.flowFinish state) w = tookFlow w := by simp [react, finishedFlow, h]
      refine hw ▸ .same ?_ rfl
      change slots { w.host.listener with flowSpan := none, flowContext := none } = _
      rw [slots_update_flow]
      exact Function.update_eq_self_iff.mpr h.symm
    · have hw : react (.flowFinish state) w = (tookFlow w).called (flowClosing state span) := by
        simp [react, finishedFlow, h]
      have hends := flowClosing_ends state span
      exact hw ▸ .closes .flow span _ h (slots_update_flow ..) rfl flowClosing_span
        hends.1 hends.2
  · rcases h : w.host.listener.atomSpans (uuid, method) with _ | span
    · have hw : react (.atomStart kind name uuid method) w =
          handedOff name (nextAtomSpan w) (openedAtom kind name uuid method w) := by
        simp [react, startedAtom, h]
      refine hw ▸ .opens (.atom (uuid, method)) (atomParent w) _ _ h ?_ rfl
      rw [slots_handedOff]
      exact slots_update_atom ..
    · have hw : react (.atomStart kind name uuid method) w = w := by simp [react, startedAtom, h]
      exact .same (by rw [hw]) (by rw [hw])
  · rcases h : w.host.listener.atomSpans (uuid, method) with _ | span
    · have hw : react (.atomFinish kind uuid method isFailure details) w = w := by
        simp [react, finishedAtom, h]
      exact .same (by rw [hw]) (by rw [hw])
    · have hw : react (.atomFinish kind uuid method isFailure details) w =
          (poppedAtom (uuid, method) w).called (atomClosing span isFailure details.result) := by
        simp [react, finishedAtom, h]
      have hends := atomClosing_ends span isFailure details.result
      exact hw ▸ .closes (.atom (uuid, method)) span _ h (slots_update_atom ..) rfl
        atomClosing_span hends.1 hends.2
  · exact .same rfl rfl

end

end OtelOpenstack.ListenerSteps
