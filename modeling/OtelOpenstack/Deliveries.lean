import OtelOpenstack.Messaging
import OtelOpenstack.Runs
import OtelOpenstack.TraceContext

/-!
A pooled worker that dispatches messages one after another.

A handler may do anything, dispatching further messages included; it only cannot take back a
call it made on a span. What a dispatch raises is the server's business, and the worker goes on.
-/

set_option autoImplicit false

namespace OtelOpenstack.Deliveries

open Effects Python Otel ContextApi Carriers Messaging

section

variable {Ctx H α : Type}

/-! ### Calls are only added -/

def Grown (w v : World Ctx H) : Prop := w.calls <+: v.calls

lemma grown_refl (w : World Ctx H) : Grown w w := List.prefix_refl _

lemma grown_trans (u v w : World Ctx H) (h : Grown u v) (h' : Grown v w) : Grown u w :=
  List.IsPrefix.trans h h'

lemma grown_of_noted (w v : World Ctx H) (h : Noted w v) : Grown w v := by
  obtain ⟨cs, -, rfl⟩ := h
  exact List.prefix_append _ _

lemma mayRaise_grown (F : Faults) (s : Step) : Keeps Grown (mayRaise F s : Code Ctx H Unit) :=
  (noted_of_silent (mayRaise_silent F s)).imp grown_of_noted

lemma record_grown (c : Call) : Keeps Grown (record c : Code Ctx H Unit) :=
  fun _ => List.prefix_append _ _

lemma detach_grown (t : Token Ctx) : Keeps Grown (detach t : Code Ctx H Unit) := grown_refl

/-- Whatever is attached in between, the token's context is back in the end. -/
lemma tryFinally_detach_state (m : Code Ctx H α) (t : Token Ctx) (w : World Ctx H) :
    (tryFinally m (detach t) w).2 = { (m w).2 with current := t.old } := by
  unfold Effects.tryFinally
  rcases m w with ⟨r, v⟩
  rfl

lemma mayRaise_record_grown (F : Faults) (s : Step) (c : Call) :
    Keeps Grown (do mayRaise F s; record c : Code Ctx H Unit) :=
  Keeps.bind grown_trans (mayRaise_grown F s) fun _ => record_grown c

variable [Propagator Ctx]

lemma useSpan_grown (F : Faults) (span : SpanContext) {body : Code Ctx H α}
    (h : Keeps Grown body) : Keeps Grown (useSpan F span body) := by
  unfold useSpan
  apply Keeps.tryFinally grown_trans
  · apply Keeps.tryExcept grown_trans
    · apply Keeps.bind grown_trans (Keeps.reads grown_refl _)
      intro c
      apply Keeps.bind grown_trans (fun w => grown_refl w)
      intro token
      exact Keeps.tryFinally grown_trans h (detach_grown token)
    · intro e
      apply Keeps.ite
      · apply Keeps.bind grown_trans (mayRaise_record_grown F _ _)
        intro _
        apply Keeps.bind grown_trans (mayRaise_record_grown F _ _)
        intro _
        exact Keeps.raise grown_refl e
      · exact Keeps.raise grown_refl e
  · exact mayRaise_record_grown F _ _

/-! ### Handlers and deliveries -/

/-- A wrapped callable that takes no call back. -/
structure Handler (Ctx H α : Type) where
  run : Wrapped Ctx H α
  grows : ∀ args kwargs, Keeps Grown (run args kwargs)

inductive Style | rpc | notification

/-- A message a dispatcher is called with, the handler it reaches, and which steps raise. -/
structure Delivery (Ctx H α : Type) where
  style : Style
  handler : Handler Ctx H α
  faults : Faults
  args : Args
  kwargs : Kwargs

def Delivery.dispatch (d : Delivery Ctx H α) : Code Ctx H α :=
  match d.style with
  | .rpc => rpcServerWrapper d.faults d.handler.run d.args d.kwargs
  | .notification => notificationServerWrapper d.faults d.handler.run d.args d.kwargs

/-- The worker after one more message. -/
def work (w : World Ctx H) (d : Delivery Ctx H α) : World Ctx H := (d.dispatch w).2

/-- The context a `ctxt` holds, if it holds one. -/
def wireContext (dicts : List Dict) (ctxt : Arg) : Option Ctx :=
  match carried dicts ctxt with
  | .ok c => if Propagator.isEmpty c then none else some c
  | .error _ => none

/-- The context a message has on the wire. -/
def onWire (dicts : List Dict) (incoming : Arg) : Option Ctx :=
  match incoming.ctxt.orEmpty dicts with
  | .ok ctxt => wireContext dicts ctxt
  | .error _ => none

lemma onWire_eq {dicts : List Dict} {incoming ctxt : Arg}
    (h : incoming.ctxt.orEmpty dicts = .ok ctxt) :
    onWire dicts incoming = (wireContext dicts ctxt : Option Ctx) := by
  unfold onWire
  rw [h]

def Delivery.wire (dicts : List Dict) (d : Delivery Ctx H α) : Option Ctx :=
  onWire dicts (arg d.args 0 d.kwargs "incoming")

/-- What a dispatch leaves: the context it found, and of calls either none or first of all the
start of a consumer span, a child of the one in `p`. -/
def Dispatched (p : Ctx) (w v : World Ctx H) : Prop :=
  v.current = w.current ∧
    (v.calls = w.calls ∨ ∃ name rest, v.calls = w.calls ++
      .start (newSpan w.calls (spanIn p)) (spanIn p) name .consumer [] :: rest)

/-- The part of a dispatch under the attached context. -/
lemma dispatched_attached (F : Faults) (p : Ctx) (name : String)
    {rest : SpanContext → Code Ctx H α} (hrest : ∀ span, Keeps Grown (rest span))
    (w : World Ctx H) :
    Dispatched p w
      ((do
        let token ← attach p
        tryFinally (startSpan F name .consumer none [] >>= rest) (detach token) :
          Code Ctx H α) w).2 := by
  change Dispatched p w (tryFinally _ (detach ⟨w.current⟩) { w with current := p }).2
  rw [tryFinally_detach_state]
  refine ⟨rfl, ?_⟩
  rcases hF : F .startSpan with _ | e
  · right
    let span := newSpan w.calls (spanIn p)
    let started : World Ctx H :=
      { w with
        current := p
        calls := w.calls ++ [.start span (spanIn p) name .consumer []] }
    have hstart : (startSpan F name .consumer none [] : Code Ctx H SpanContext)
        { w with current := p } = (.ok span, started) := by
      unfold startSpan mayRaise
      rw [hF]
      rfl
    obtain ⟨rest', hrest'⟩ := hrest span started
    refine ⟨name, rest', ?_⟩
    rw [bind_of_ok hstart]
    change (rest span started).2.calls = _
    rw [← hrest', List.append_assoc]
    rfl
  · left
    have hstart : (startSpan F name .consumer none [] : Code Ctx H SpanContext)
        { w with current := p } = (.error e, { w with current := p }) := by
      unfold startSpan mayRaise
      rw [hF]
      rfl
    rw [bind_of_error hstart]

lemma dispatched_refl (p : Ctx) (w : World Ctx H) : Dispatched p w w := ⟨rfl, Or.inl rfl⟩

lemma extract_silent (F : Faults) (ctxt : Arg) : Silent (extract F ctxt : Code Ctx H Ctx) := by
  unfold extract
  apply Silent.bind (mayRaise_silent F _)
  intro _
  apply Silent.bind (Silent.reads _)
  intro dicts
  exact Silent.liftExcept _

lemma extract_ok {F : Faults} {ctxt : Arg} {w : World Ctx H} {c : Ctx}
    (h : extract F ctxt w = (.ok c, w)) : carried w.dicts ctxt = .ok c := by
  unfold extract mayRaise at h
  cases hF : F .extract with
  | none =>
    rw [hF] at h
    exact congrArg Prod.fst h
  | some e =>
    rw [hF] at h
    exact absurd (congrArg Prod.fst h) nofun

lemma spanContextOf_silent (F : Faults) (ctxt : Arg) :
    Silent (spanContextOf F ctxt : Code Ctx H Ctx) := by
  unfold spanContextOf
  apply Silent.bind (extract_silent F ctxt)
  intro c w
  by_cases hempty : Propagator.isEmpty c = true
  · rw [if_pos hempty]
    exact Silent.bind (mayRaise_silent F _) (fun _ => Silent.reads _) w
  · rw [if_neg hempty]
    rfl

lemma spanContextOf_ok {F : Faults} {ctxt : Arg} {w : World Ctx H} {c : Ctx}
    (h : spanContextOf F ctxt w = (.ok c, w)) :
    c = (wireContext w.dicts ctxt).getD w.current := by
  obtain ⟨a, hx, h⟩ := (extract_silent F ctxt).ok_cases h
  unfold wireContext
  rw [extract_ok (Prod.ext hx (extract_silent F ctxt w))]
  by_cases hempty : Propagator.isEmpty a = true
  · rw [if_pos hempty] at h
    cases hF : F (.other "get_current") with
    | none =>
      simp only [bind_apply, mayRaise, hF, pure_apply, getCurrent_apply, Prod.mk.injEq,
        Except.ok.injEq] at h
      simp [hempty, h.1]
    | some e => simp [bind_apply, mayRaise, hF] at h
  · rw [if_neg hempty] at h
    obtain rfl : a = c := Except.ok.inj (congrArg Prod.fst h)
    simp [hempty]

/-- A step that reads: if it raises, nothing was dispatched. -/
lemma dispatched_silent {β : Type} {m : Code Ctx H β} {f : β → Code Ctx H α} {p : Ctx}
    {w : World Ctx H} (hm : Silent m)
    (hf : ∀ b, m w = (.ok b, w) → Dispatched p w (f b w).2) : Dispatched p w ((m >>= f) w).2 :=
  hm.post_bind (dispatched_refl p w) hf

/-- What both dispatches do before they attach the message's context. -/
lemma dispatched_received (F : Faults) (incoming : Arg) {off : Code Ctx H α}
    {rest : List Dict → Arg → Arg → Ctx → Code Ctx H α} {w : World Ctx H}
    (h : enabled w.current = true)
    (hrest : ∀ ctxt message p, Dispatched p w (rest w.dicts ctxt message p w).2) :
    Dispatched ((onWire w.dicts incoming).getD w.current) w
      ((do
        mayRaise F (.other "is_instrumentation_enabled")
        let c ← getCurrent
        if !enabled c then off
        else do
          let dicts ← getDicts
          mayRaise F (.other "getattr ctxt")
          let ctxt ← liftExcept (incoming.ctxt.orEmpty dicts)
          mayRaise F (.other "getattr message")
          let message ← liftExcept (incoming.message.orEmpty dicts)
          let spanCtx ← spanContextOf F ctxt
          rest dicts ctxt message spanCtx) w).2 := by
  apply dispatched_silent (mayRaise_silent F _)
  intro _ _
  rw [bind_of_ok (getCurrent_apply w), h]
  change Dispatched _ w ((getDicts >>= _) w).2
  have hdicts : getDicts w = (.ok w.dicts, w) := rfl
  rw [bind_of_ok hdicts]
  apply dispatched_silent (mayRaise_silent F _)
  intro _ _
  apply dispatched_silent (Silent.liftExcept _)
  intro ctxt hctxt
  apply dispatched_silent (mayRaise_silent F _)
  intro _ _
  apply dispatched_silent (Silent.liftExcept _)
  intro message _
  apply dispatched_silent (spanContextOf_silent F ctxt)
  intro spanCtx hspanCtx
  rw [onWire_eq (congrArg Prod.fst hctxt), ← spanContextOf_ok hspanCtx]
  exact hrest ctxt message spanCtx

section

variable (F : Faults) {wrapped : Wrapped Ctx H α}
  (hgrows : ∀ args kwargs, Keeps Grown (wrapped args kwargs)) (args : Args) (kwargs : Kwargs)
  (w : World Ctx H) (h : enabled w.current = true)

include hgrows h

lemma rpc_dispatched :
    Dispatched ((onWire w.dicts (arg args 0 kwargs "incoming")).getD w.current) w
      (rpcServerWrapper F wrapped args kwargs w).2 := by
  apply dispatched_received F (arg args 0 kwargs "incoming") h
  intro ctxt message p
  apply dispatched_silent (Silent.liftExcept _)
  intro method _
  apply dispatched_silent (Silent.liftExcept _)
  intro namespaceOf _
  apply dispatched_silent (Silent.liftExcept _)
  intro dest _
  apply dispatched_attached
  intro span
  apply Keeps.bind grown_trans (mayRaise_grown F _)
  intro _
  apply Keeps.bind grown_trans ((setRpcAttributes_noted F span _ _ _ _ _).imp grown_of_noted)
  intro _
  apply Keeps.bind grown_trans ((setIfTrue_noted F span _ _).imp grown_of_noted)
  intro _
  exact useSpan_grown F span (hgrows args kwargs)

lemma notification_dispatched :
    Dispatched ((onWire w.dicts (arg args 0 kwargs "incoming")).getD w.current) w
      (notificationServerWrapper F wrapped args kwargs w).2 := by
  apply dispatched_received F (arg args 0 kwargs "incoming") h
  intro ctxt message p
  apply dispatched_silent (Silent.liftExcept _)
  intro eventType _
  apply dispatched_silent (Silent.liftExcept _)
  intro dest _
  apply dispatched_attached
  intro span
  apply Keeps.bind grown_trans (mayRaise_grown F _)
  intro _
  apply Keeps.bind grown_trans (Keeps.liftExcept grown_refl _)
  intro eventType
  apply Keeps.bind grown_trans (Keeps.liftExcept grown_refl _)
  intro priority
  apply Keeps.bind grown_trans (Keeps.liftExcept grown_refl _)
  intro publisherId
  apply Keeps.bind grown_trans
    ((setNotificationAttributes_noted F span _ _ _ _ _ _).imp grown_of_noted)
  intro _
  apply Keeps.bind grown_trans ((setIfTrue_noted F span _ _).imp grown_of_noted)
  intro _
  exact useSpan_grown F span (hgrows args kwargs)

end

/-- One dispatch where instrumentation is enabled. -/
lemma work_dispatched (d : Delivery Ctx H α) (w : World Ctx H) (h : enabled w.current = true) :
    Dispatched ((d.wire w.dicts).getD w.current) w (work w d) := by
  unfold work Delivery.dispatch Delivery.wire
  cases d.style with
  | rpc => exact rpc_dispatched d.faults d.handler.grows d.args d.kwargs w h
  | notification => exact notification_dispatched d.faults d.handler.grows d.args d.kwargs w h

/-- The guard of every wrapper. -/
lemma guard_suppressed (F : Faults) {m n : Code Ctx H α} {w : World Ctx H}
    (h : enabled w.current = false) {P : World Ctx H → Prop} (hw : P w) (hm : P (m w).2) :
    P ((do
      mayRaise F (.other "is_instrumentation_enabled")
      let c ← getCurrent
      if !enabled c then m else n : Code Ctx H α) w).2 := by
  apply (mayRaise_silent F _).post_bind hw
  intro _ _
  rw [bind_of_ok (getCurrent_apply w), h]
  exact hm

/-- Where instrumentation is suppressed the handler is called as it is, if at all. -/
lemma work_suppressed (d : Delivery Ctx H α) {w : World Ctx H} (h : enabled w.current = false)
    {P : World Ctx H → Prop} (hw : P w) (hrun : P (d.handler.run d.args d.kwargs w).2) :
    P (work w d) := by
  unfold work Delivery.dispatch
  cases d.style with
  | rpc => exact guard_suppressed d.faults h hw hrun
  | notification => exact guard_suppressed d.faults h hw hrun

lemma work_grown (w : World Ctx H) (d : Delivery Ctx H α) : Grown w (work w d) := by
  cases h : enabled w.current with
  | true =>
    unfold Grown
    rcases (work_dispatched d w h).2 with hsame | ⟨name, rest, hstart⟩
    · rw [hsame]
    · rw [hstart]
      exact List.prefix_append _ _
  | false =>
    exact work_suppressed d h (grown_refl w) (d.handler.grows d.args d.kwargs w)

/-! ### What handlers may do -/

/-- A handler that first dispatches a sequence of its own. -/
def Handler.dispatching (ds : List (Delivery Ctx H α)) (next : Handler Ctx H α) :
    Handler Ctx H α where
  run args kwargs := do
    modifies fun w => Runs.run work w ds
    next.run args kwargs
  grows args kwargs := by
    apply Keeps.bind grown_trans
    · intro w
      exact Runs.inv_of_run (fun v d hv => grown_trans w v _ hv (work_grown v d)) (grown_refl w) ds
    · exact fun _ => next.grows args kwargs

omit [Propagator Ctx] in
lemma setItems_grown (carrier : Arg) (items : List (String × String)) :
    Keeps Grown (setItems carrier items : Code Ctx H Unit) := by
  induction items with
  | nil => exact Keeps.pure grown_refl ()
  | cons item items ih =>
    apply Keeps.bind grown_trans _ fun _ => ih
    unfold setItem
    cases carrier with
    | dict ref => exact grown_refl
    | object mapping truth get items' set => exact Keeps.liftExcept grown_refl _
    | _ => exact Keeps.raise grown_refl _

lemma inject_grown (F : Faults) (carrier : Arg) :
    Keeps Grown (inject F carrier : Code Ctx H Unit) := by
  unfold inject
  apply Keeps.bind grown_trans (mayRaise_grown F _)
  intro _
  apply Keeps.bind grown_trans (Keeps.reads grown_refl _)
  intro c
  exact setItems_grown carrier _

lemma injectWrapper_grown (F : Faults) (isNotification : Bool) (transport : Option String)
    {wrapped : Wrapped Ctx H α} (hgrows : ∀ args kwargs, Keeps Grown (wrapped args kwargs))
    (args : Args) (kwargs : Kwargs) :
    Keeps Grown (injectWrapper F isNotification transport wrapped args kwargs) := by
  unfold injectWrapper
  apply Keeps.bind grown_trans (mayRaise_grown F _)
  intro _
  apply Keeps.bind grown_trans (Keeps.reads grown_refl _)
  intro c
  apply Keeps.ite (hgrows args kwargs)
  apply Keeps.bind grown_trans (Keeps.reads grown_refl _)
  intro dicts
  apply Keeps.bind grown_trans (Keeps.liftExcept grown_refl _)
  intro dest
  apply Keeps.bind grown_trans
  · apply Keeps.bind grown_trans (mayRaise_grown F _)
    intro _ w
    exact List.prefix_append _ _
  intro span
  apply Keeps.bind grown_trans (mayRaise_grown F _)
  intro _
  apply Keeps.bind grown_trans
  · exact Keeps.onlyIf grown_refl ((setSendAttributes_noted F span _ _ _ _ _ _).imp
      grown_of_noted)
  intro _
  apply useSpan_grown F span
  apply Keeps.bind grown_trans (Keeps.onlyIf grown_refl (inject_grown F _))
  intro _
  exact hgrows args kwargs

/-- A handler that first sends a message of its own, and goes on whatever that raises. -/
def Handler.sending (F : Faults) (isNotification : Bool) (transport : Option String)
    (send : Handler Ctx H α) (args : Args) (kwargs : Kwargs) (next : Handler Ctx H α) :
    Handler Ctx H α where
  run args' kwargs' := do
    modifies fun w => (injectWrapper F isNotification transport send.run args kwargs w).2
    next.run args' kwargs'
  grows args' kwargs' :=
    Keeps.bind grown_trans
      (fun w => injectWrapper_grown F isNotification transport send.grows args kwargs w)
      fun _ => next.grows args' kwargs'

/-! ### Sequences -/

/-- A whole sequence leaves the context it began with. -/
lemma run_current (ds : List (Delivery Ctx H α)) {w : World Ctx H}
    (h : enabled w.current = true) : (Runs.run work w ds).current = w.current := by
  induction ds generalizing w with
  | nil => rfl
  | cons d ds ih =>
    have hd := (work_dispatched d w h).1
    rw [Runs.run_cons, ih (by rw [hd]; exact h), hd]

/-- **A pooled worker forgets each message.** Before and after every dispatch of a sequence the
current context is the one the sequence began with, and the consumer span of the message is a
child of the span the message carries or else of the span current where the sequence began. -/
theorem worker_forgets (w : World Ctx H) (h : enabled w.current = true)
    (ds : List (Delivery Ctx H α)) :
    ∀ pre d post, ds = pre ++ d :: post →
      let before := Runs.run work w pre
      let after := work before d
      before.current = w.current ∧ after.current = w.current ∧
        let parent := spanIn ((d.wire before.dicts).getD w.current)
        (after.calls = before.calls ∨ ∃ name rest, after.calls = before.calls ++
          .start (newSpan before.calls parent) parent name .consumer [] :: rest) := by
  rintro pre d post -
  have hbefore := run_current pre h
  have hd := work_dispatched d (Runs.run work w pre) (by rw [hbefore]; exact h)
  rw [hbefore] at hd
  exact ⟨hbefore, hd.1.trans hbefore, hd.2⟩

end

/-- A handler that leaves a context attached. -/
def attaching : Handler BareContext Unit Unit where
  run _ _ := do
    let _ ← attach ⟨⟨3, 4⟩, true⟩
    pure ()
  grows _ _ := grown_refl

/-- A message without trace context. -/
def plainMessage : Delivery BareContext Unit Unit :=
  ⟨.notification, attaching, noFaults, [.incoming (.val .none) (.val .none) []], []⟩

/-- A handler that takes on two messages and sends one before it attaches. -/
def nesting : Handler BareContext Unit Unit :=
  .dispatching [plainMessage, plainMessage] (.sending noFaults false none attaching [] [] attaching)

/-- A message with trace context on the wire. -/
def tracedMessage : Delivery BareContext Unit Unit :=
  ⟨.rpc, nesting, noFaults, [.incoming (.dict 0) (.val .none) []], []⟩

/-- A worker with nothing current, and the wire of a message from a span of trace 1. -/
def idleWorker : World BareContext Unit :=
  ⟨empty, [], [[("traceparent", .str (TraceContext.traceparent ⟨1, 2⟩))]], ()⟩

/-- The plain message after the traced one. -/
theorem worker_forgets_plain :
    let before := Runs.run work idleWorker [tracedMessage]
    let after := work before plainMessage
    before.current = idleWorker.current ∧ after.current = idleWorker.current ∧
      let parent := spanIn ((plainMessage.wire before.dicts).getD idleWorker.current)
      (after.calls = before.calls ∨ ∃ name rest, after.calls = before.calls ++
        .start (newSpan before.calls parent) parent name .consumer [] :: rest) :=
  worker_forgets idleWorker rfl [tracedMessage, plainMessage] [tracedMessage] plainMessage [] rfl

/-- Where instrumentation is suppressed the handler is called as it is. -/
theorem suppressed_worker_remembers :
    ¬ ∀ (w : World BareContext Unit) (ds : List (Delivery BareContext Unit Unit)) pre d post,
      ds = pre ++ d :: post →
      (work (Runs.run work w pre) d).current = (Runs.run work w pre).current := by
  intro h
  have hleft := h ⟨⟨invalidSpan, true⟩, [], [], ()⟩ [plainMessage] [] plainMessage [] rfl
  exact absurd hleft (by decide)

end OtelOpenstack.Deliveries
