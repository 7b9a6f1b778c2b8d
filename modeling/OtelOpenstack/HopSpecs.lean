import OtelOpenstack.Deliveries
import OtelOpenstack.Hops
import OtelOpenstack.Wires

/-!
What each way in does: which span it starts, under which parent, and what the wrapped callable
is given to send.
-/

set_option autoImplicit false

namespace OtelOpenstack.HopSpecs

open Effects Python Otel ContextApi Carriers Openings Hops Http Wires TraceContext

section

variable {Ctx H α : Type}

/-! ### Recording responses -/

/-- What setting attributes and statuses of spans keeps. -/
structure Annotates (R : World Ctx H → World Ctx H → Prop) : Prop where
  refl : ∀ w, R w w
  trans : ∀ u v w, R u v → R v w → R u w
  setAttribute : ∀ F span key value, Keeps R (setAttribute F span key value)
  setStatus : ∀ F span code description, Keeps R (setStatus F span code description)

section

variable {R : World Ctx H → World Ctx H → Prop} (hR : Annotates R)

include hR

lemma mayRaise_keeps (F : Faults) (s : Step) : Keeps R (mayRaise F s : Code Ctx H Unit) := by
  intro w
  rw [mayRaise_silent F s w]
  exact hR.refl w

lemma recordUrl_keeps (F : Faults) (r : Reading α) (span : SpanContext)
    (response : Option Response) :
    Keeps R (recordUrl F r span response : Code Ctx H Unit) := by
  apply Keeps.onlySome hR.refl
  intro url
  apply Keeps.onlyIf hR.refl
  apply Keeps.bind hR.trans (hR.setAttribute F span _ _)
  intro _
  apply Keeps.bind hR.trans (Keeps.liftExcept hR.refl _)
  intro parsed
  apply Keeps.bind hR.trans
  · apply Keeps.onlySome hR.refl
    intro host
    exact Keeps.onlyIf hR.refl (hR.setAttribute F span _ _)
  intro _
  apply Keeps.bind hR.trans (Keeps.liftExcept hR.refl _)
  intro port
  apply Keeps.onlySome hR.refl
  intro port
  exact Keeps.onlyIf hR.refl (hR.setAttribute F span _ _)

lemma recordResponse_keeps (F : Faults) (r : Reading α) (span : SpanContext)
    (response : Option Response) :
    Keeps R (recordResponse F r span response : Code Ctx H Unit) := by
  apply Keeps.onlySome hR.refl
  intro response
  apply Keeps.bind hR.trans
  · apply Keeps.onlySome hR.refl
    intro code
    apply Keeps.bind hR.trans (hR.setAttribute F span _ _)
    intro _
    exact Keeps.onlyIf hR.refl (hR.setStatus F span _ _)
  intro _
  exact recordUrl_keeps hR F r span _

lemma recordError_keeps (F : Faults) (r : Reading α) (span : SpanContext) (e : Exn) :
    Keeps R (KeystoneAuth.recordError F r span e : Code Ctx H Unit) := by
  apply Keeps.bind hR.trans
  · apply Keeps.onlySome hR.refl
    intro code
    exact hR.setAttribute F span _ _
  intro _
  exact recordUrl_keeps hR F r span _

lemma recordStatus_keeps (F : Faults) (r : Reading α) (span : SpanContext) (status : Val) :
    Keeps R (KeystoneMiddleware.recordStatus F r span status : Code Ctx H Unit) := by
  unfold KeystoneMiddleware.recordStatus
  cases KeystoneMiddleware.statusCode r status with
  | none => exact Keeps.pure hR.refl ()
  | some code =>
    apply Keeps.bind hR.trans (hR.setAttribute F span _ _)
    intro _
    exact Keeps.onlyIf hR.refl (hR.setStatus F span _ _)

lemma setErrorStatus_keeps (F : Faults) (span : SpanContext) (e : Exn) :
    Keeps R (setErrorStatus F span e : Code Ctx H Unit) := by
  apply Keeps.bind hR.trans (Keeps.liftExcept hR.refl _)
  intro text
  exact hR.setStatus F span _ _

variable [Propagator Ctx]

lemma afterResponse_keeps (r : Reading α) (span : SpanContext) (response : α) :
    Keeps R (afterResponse r span response : Code Ctx H α) := by
  apply Keeps.bind hR.trans (mayRaise_keeps hR _ _)
  intro _
  apply Keeps.bind hR.trans (Keeps.onlyIf hR.refl (recordResponse_keeps hR _ r span _))
  intro _
  exact Keeps.pure hR.refl response

lemma noteException_keeps (span : SpanContext) {handler : Exn → Code Ctx H Unit}
    (h : ∀ e, Keeps R (handler e)) (e : Exn) :
    Keeps R (noteException span handler e : Code Ctx H Unit) := by
  apply Keeps.onlyIf hR.refl
  apply Keeps.bind hR.trans (mayRaise_keeps hR _ _)
  intro _
  exact Keeps.onlyIf hR.refl (h e)

lemma afterApp_keeps (r : Reading α) (span : SpanContext) (captured : ℕ) (result : α) :
    Keeps R (afterApp r span captured result : Code Ctx H α) := by
  apply Keeps.bind hR.trans (mayRaise_keeps hR _ _)
  intro _
  apply Keeps.bind hR.trans
  · apply Keeps.onlyIf hR.refl
    apply Keeps.bind hR.trans (Keeps.reads hR.refl _)
    intro dicts
    exact recordStatus_keeps hR _ r span _
  intro _
  exact Keeps.pure hR.refl result

end

variable [Propagator Ctx]

/-! ### Sends -/

/-- What a send puts on the wire: its `ctxt`. -/
def sentCtxt (dicts : List Dict) (input : Input) : Dict :=
  match arg input.1 1 input.2 "ctxt" with
  | .dict ref => deref dicts ref
  | _ => []

omit [Propagator Ctx] in
/-- A step that only touches dictionaries. -/
lemma kept_dicts (w : World Ctx H) (dicts : List Dict) : Kept w { w with dicts } :=
  ⟨rfl, [], rfl, (List.append_nil _).symm⟩

/-- The span is current, and valid. -/
def InSpan (span : SpanContext) (c : Ctx) : Prop := spanIn c = span ∧ span.isValid = true

lemma inSpan_newSpan (calls : List Call) (parent : SpanContext) (c : Ctx) :
    InSpan (newSpan calls parent) (setSpan (newSpan calls parent) c) :=
  ⟨spanIn_setSpan _ _, newSpan_valid _ _⟩

variable [Faithful Ctx]

/-- Injection into a dictionary. -/
lemma inside_inject {Q : Input → World Ctx H → Prop} {u : World Ctx H} {span : SpanContext}
    {ref : ℕ} {f : Unit → Code Ctx H (Opening Ctx H Input α)} (hspan : InSpan span u.current)
    (href : ref < u.dicts.length)
    (hf : ∀ v : World Ctx H, Carries Ctx (deref v.dicts ref) span → Inside Q v (f () v)) :
    Inside Q u ((inject noFaults (.dict ref) >>= f) u) := by
  obtain ⟨rfl, hvalid⟩ := hspan
  apply inside_ok (inject_dict ref u) (kept_dicts u _)
  apply hf
  have hcarries := carries_setAll hvalid (deref u.dicts ref)
  have hderef := deref_modify href (setAll (Propagator.headers u.current))
  rw [← hderef] at hcarries
  exact hcarries

lemma enters_send (isNotification : Bool) (transport : Option String) {args : Args}
    {kwargs : Kwargs} {w : World Ctx H} (hon : enabled w.current = true) {ref : ℕ}
    (hctxt : arg args 1 kwargs "ctxt" = .dict ref) (href : ref < w.dicts.length) :
    Enters .producer (spanIn w.current) w.current
      (fun span input v => Carries Ctx (sentCtxt v.dicts input) span) w
      ((enterSend isNotification transport args kwargs : Code Ctx H (Opening Ctx H Input α))
        w) := by
  unfold enterSend
  rw [guard_on hon]
  apply enters_silent rfl (Silent.reads _)
  intro dicts _
  apply enters_silent rfl (Silent.liftExcept _)
  intro dest _
  refine enters_start (by rfl) ?_
  intro v hv hdicts
  apply runs_noted hv (noted_of_silent (mayRaise_silent _ _))
  intro _ cs _
  refine runs_noted (by exact hv) ?_ ?_
  · exact Keeps.onlyIf noted_refl (Messaging.setSendAttributes_noted _ _ _ _ _ _ _ _)
  intro _ ds _
  refine runs_enterSpan (by exact hv) hon ?_
  have href' : ref < v.dicts.length := by rw [hdicts]; exact href
  rw [hctxt, Arg.isMapping, onlyIf, if_pos rfl]
  refine inside_inject (inSpan_newSpan _ _ _) (by exact href') ?_
  intro u hcarries
  apply inside_call
  simpa only [sentCtxt, hctxt] using hcarries

/-! ### HTTP requests -/

/-- The headers of a request. -/
def sentHeaders (dicts : List Dict) (input : Input) : Dict :=
  match input.2.lookup "headers" with
  | some (.dict ref) => deref dicts ref
  | _ => []

omit [Propagator Ctx] [Faithful Ctx] in
lemma lookup_setKwarg (kwargs : Kwargs) (key : String) (a : Arg) :
    (setKwarg kwargs key a).lookup key = some a := by
  induction kwargs with
  | nil => simp [setKwarg]
  | cons kwarg kwargs ih =>
    obtain ⟨k, b⟩ := kwarg
    by_cases h : key = k
    · simp [setKwarg, h]
    · simp [setKwarg, h, List.lookup_cons, beq_false_of_ne h, ih]

omit [Propagator Ctx] [Faithful Ctx] in
lemma sentHeaders_setKwarg (dicts : List Dict) (args : Args) (kwargs : Kwargs) (ref : ℕ) :
    sentHeaders dicts (args, setKwarg kwargs "headers" (.dict ref)) = deref dicts ref := by
  unfold sentHeaders
  rw [lookup_setKwarg]

/-! ### Requests served -/

section Serve

open KeystoneMiddleware

/-- The context in the headers of a request. -/
def environContext (dicts : List Dict) : Arg → Except Exn (Option Ctx)
  | .dict ref => do
    let parent ← Propagator.extract (environGetter (deref dicts ref))
    pure (some parent)
  | _ => .ok none

omit [Faithful Ctx] in
/-- With no span current the parent comes from the headers. -/
lemma environParentContext_eq (environ : Arg) {w : World Ctx H}
    (hidle : (spanIn w.current).isValid = false) :
    environParentContext noFaults environ w =
      ((environContext w.dicts environ).map fun parent => (parent, .server), w) := by
  unfold environParentContext
  rw [bind_of_ok (getCurrent_apply w), if_neg (by rw [hidle]; decide)]
  cases environ with
  | dict ref =>
    change (Effects.liftExcept (Propagator.extract (environGetter (deref w.dicts ref))) >>=
      fun parent => pure (some parent, SpanKind.server) : Code Ctx H _) w = _
    cases hread : (Propagator.extract (environGetter (deref w.dicts ref)) : Except Exn Ctx) with
    | error e => simp only [environContext, hread, bind_apply, liftExcept_apply]; rfl
    | ok c => simp only [environContext, hread, bind_apply, liftExcept_apply]; rfl
  | val v => rfl
  | object mapping truth get items setItem => rfl
  | target topic exchange => rfl
  | incoming ctxt message modules => rfl

omit [Faithful Ctx] in
/-- The request of a session is served under the session's span. -/
lemma environContext_of_delivers {dicts : List Dict} {ref : ℕ} {sent : Dict}
    {span : SpanContext} {p : Option Ctx} (c : Ctx) (hsent : Carries Ctx sent span)
    (h : Delivers .http sent (deref dicts ref))
    (hp : environContext dicts (.dict ref) = .ok p) : spanIn (p.getD c) = span := by
  cases hread : (Propagator.extract (environGetter (deref dicts ref)) : Except Exn Ctx) with
  | error e =>
    rw [environContext, hread] at hp
    exact absurd hp nofun
  | ok d =>
    rw [environContext, hread] at hp
    obtain rfl := Except.ok.inj hp
    obtain ⟨text, htext, hback⟩ := hsent
    exact (environ_traceparent hback (h _ htext) hread).1

end Serve

/-! ### Messages dispatched -/

section Dispatch

open Messaging Deliveries

lemma spanContextOf_enabled {ctxt : Arg} {w : World Ctx H} {c : Ctx}
    (hon : enabled w.current = true) (h : spanContextOf noFaults ctxt w = (.ok c, w)) :
    enabled c = true := by
  obtain rfl := spanContextOf_ok h
  unfold wireContext
  cases hread : (carried w.dicts ctxt : Except Exn Ctx) with
  | error e => exact hon
  | ok d =>
    dsimp only
    split
    · exact hon
    · exact Faithful.extract_enabled _ d hread

omit [Faithful Ctx] in
/-- The part of a dispatch under the attached context. -/
lemma enters_consumer {w : World Ctx H} {p : Ctx} {name : String}
    {block : SpanContext → Code Ctx H (Opening Ctx H Input α)}
    (hblock : ∀ span (v : World Ctx H), v.current = p →
      Runs span p (fun _ _ => True) v (block span v)) :
    Enters .consumer (spanIn p) w.current (fun _ _ _ => True) w
      ((do
        let token ← attach p
        finalizing (startSpan noFaults name .consumer none [] >>= block) fun _ =>
          detach token) w) := by
  apply enters_attached
  refine enters_start (by rfl) ?_
  intro v hv _
  exact hblock _ v hv

omit [Faithful Ctx] in
lemma runs_dispatch {args : Args} {kwargs : Kwargs} {span : SpanContext} {p : Ctx}
    {v : World Ctx H} (hv : v.current = p) (hon : enabled p = true) :
    Runs span p (fun _ _ => True) v
      ((enterSpan span (pure (.call (args, kwargs))) : Code Ctx H (Opening Ctx H Input α)) v) :=
  runs_enterSpan hv hon (inside_call trivial)

/-- What both dispatches read before they attach a context. -/
lemma enters_received {w : World Ctx H} {parent : SpanContext} (incoming : Arg)
    {rest : List Dict → Arg → Arg → Ctx → Code Ctx H (Opening Ctx H Input α)}
    (hon : enabled w.current = true)
    (hparent : ∀ ctxt c, incoming.ctxt.orEmpty w.dicts = .ok ctxt →
      spanContextOf noFaults ctxt w = (.ok c, w) → spanIn c = parent)
    (hrest : ∀ ctxt message p, enabled p = true → spanIn p = parent →
      Enters .consumer parent w.current (fun _ _ _ => True) w (rest w.dicts ctxt message p w)) :
    Enters .consumer parent w.current (fun _ _ _ => True) w
      ((do
        let dicts ← getDicts
        mayRaise noFaults (.other "getattr ctxt")
        let ctxt ← Effects.liftExcept (incoming.ctxt.orEmpty dicts)
        mayRaise noFaults (.other "getattr message")
        let message ← Effects.liftExcept (incoming.message.orEmpty dicts)
        let spanCtx ← spanContextOf noFaults ctxt
        rest dicts ctxt message spanCtx) w) := by
  apply enters_silent rfl (Silent.reads _)
  intro dicts hdicts
  obtain rfl := Except.ok.inj (congrArg Prod.fst hdicts)
  apply enters_silent rfl (mayRaise_silent _ _)
  intro _ _
  apply enters_silent rfl (Silent.liftExcept _)
  intro ctxt hctxt
  apply enters_silent rfl (mayRaise_silent _ _)
  intro _ _
  apply enters_silent rfl (Silent.liftExcept _)
  intro message _
  apply enters_silent rfl (spanContextOf_silent _ _)
  intro p hp
  have hspan := hparent ctxt p (congrArg Prod.fst hctxt) hp
  exact hrest ctxt message p (spanContextOf_enabled hon hp) hspan

lemma enters_rpcDispatch {args : Args} {kwargs : Kwargs} {w : World Ctx H}
    {parent : SpanContext} (hon : enabled w.current = true)
    (hparent : ∀ ctxt c, (arg args 0 kwargs "incoming").ctxt.orEmpty w.dicts = .ok ctxt →
      spanContextOf noFaults ctxt w = (.ok c, w) → spanIn c = parent) :
    Enters .consumer parent w.current (fun _ _ _ => True) w
      ((enterRpcDispatch args kwargs : Code Ctx H (Opening Ctx H Input α)) w) := by
  unfold enterRpcDispatch
  rw [guard_on hon]
  apply enters_received (arg args 0 kwargs "incoming") hon hparent
  rintro ctxt message p hp_on rfl
  apply enters_silent rfl (Silent.liftExcept _)
  intro method _
  apply enters_silent rfl (Silent.liftExcept _)
  intro namespaceOf _
  apply enters_silent rfl (Silent.liftExcept _)
  intro dest _
  apply enters_consumer
  intro span v hv
  apply runs_noted hv (noted_of_silent (mayRaise_silent _ _))
  intro _ cs _
  refine runs_noted (by exact hv) (setRpcAttributes_noted _ _ _ _ _ _ _) ?_
  intro _ ds _
  refine runs_noted (by exact hv) (setIfTrue_noted _ _ _ _) ?_
  intro _ es _
  exact runs_dispatch hv hp_on

lemma enters_notificationDispatch {args : Args} {kwargs : Kwargs} {w : World Ctx H}
    {parent : SpanContext} (hon : enabled w.current = true)
    (hparent : ∀ ctxt c, (arg args 0 kwargs "incoming").ctxt.orEmpty w.dicts = .ok ctxt →
      spanContextOf noFaults ctxt w = (.ok c, w) → spanIn c = parent) :
    Enters .consumer parent w.current (fun _ _ _ => True) w
      ((enterNotificationDispatch args kwargs : Code Ctx H (Opening Ctx H Input α)) w) := by
  unfold enterNotificationDispatch
  rw [guard_on hon]
  apply enters_received (arg args 0 kwargs "incoming") hon hparent
  rintro ctxt message p hp_on rfl
  apply enters_silent rfl (Silent.liftExcept _)
  intro eventType _
  apply enters_silent rfl (Silent.liftExcept _)
  intro dest _
  apply enters_consumer
  intro span v hv
  apply runs_noted hv (noted_of_silent (mayRaise_silent _ _))
  intro _ cs _
  refine runs_noted (by exact hv) (Keeps.liftExcept noted_refl _) ?_
  intro eventType bs _
  refine runs_noted (by exact hv) (Keeps.liftExcept noted_refl _) ?_
  intro priority ds _
  refine runs_noted (by exact hv) (Keeps.liftExcept noted_refl _) ?_
  intro publisherId es _
  refine runs_noted (by exact hv) (setNotificationAttributes_noted _ _ _ _ _ _ _ _) ?_
  intro _ fs _
  refine runs_noted (by exact hv) (setIfTrue_noted _ _ _ _) ?_
  intro _ gs _
  exact runs_dispatch hv hp_on

/-- The message of a send is dispatched under the send's span. -/
lemma spanContextOf_of_delivers {a ctxt : Arg} {ref : ℕ} {sent : Dict} {span : SpanContext}
    {w : World Ctx H} {c : Ctx} (hsent : Carries Ctx sent span)
    (h : Delivers .messaging sent (deref w.dicts ref)) (ha : a.ctxt = .dict ref)
    (hctxt : a.ctxt.orEmpty w.dicts = .ok ctxt)
    (hc : spanContextOf noFaults ctxt w = (.ok c, w)) : spanIn c = span := by
  obtain ⟨text, htext, hback⟩ := hsent
  have hreceived := h _ htext
  have hnonempty : (deref w.dicts ref).isEmpty = false := by
    cases hd : deref w.dicts ref with
    | nil =>
      rw [hd] at hreceived
      exact absurd hreceived nofun
    | cons item d => rfl
  have hsame : (Arg.dict ref).orEmpty w.dicts = .ok (.dict ref) := by
    have htruth : (Arg.dict ref).truth w.dicts = .ok true := by rw [Arg.truth, hnonempty]; rfl
    rw [Arg.orEmpty, htruth]
    rfl
  rw [ha, hsame] at hctxt
  obtain rfl := Except.ok.inj hctxt
  cases hread : (carried w.dicts (.dict ref) : Except Exn Ctx) with
  | error e =>
    rw [spanContextOf_of_error hread] at hc
    exact absurd (congrArg Prod.fst hc) nofun
  | ok d =>
    obtain ⟨hspan, hempty⟩ := carried_traceparent ⟨text, hreceived, hback⟩ hread
    rw [spanContextOf_of_ok hread, hempty] at hc
    obtain rfl := Except.ok.inj (congrArg Prod.fst hc)
    exact hspan

end Dispatch

end

end OtelOpenstack.HopSpecs
