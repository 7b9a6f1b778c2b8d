import OtelOpenstack.Programs
import OtelOpenstack.Traces

/-!
What the ways in to the wrappers start, and what the ways out end.

A way in that raises has ended what it started, but for the span of a message, whose attributes
are recorded before it is made current: where reading them raises it is left open.
-/

set_option autoImplicit false

namespace OtelOpenstack.Settlement

open Effects Python Otel ContextApi Carriers Openings Hops HopSpecs Http Scopes Programs

section

variable {Ctx H ι α β : Type}

/-! ### What a message's span records -/

open Messaging in
/-- What a send records before it enters its span. -/
def describeSend [ContextApi Ctx] (isNotification : Bool) (transport : Option String) (args : Args)
    (kwargs : Kwargs) (span : SpanContext) : Code Ctx H Unit :=
  let message := arg args 2 kwargs "message"
  let message := if message.isMapping then message else emptyDict
  onlyIf (isRecording Ctx span)
    (setSendAttributes noFaults isNotification span transport (arg args 1 kwargs "ctxt")
      (arg args 0 kwargs "target") message (arg args 3 kwargs "wait_for_reply"))

open Messaging in
/-- What the dispatch of a call records before it enters its span. -/
def describeRpc (args : Args) (kwargs : Kwargs) (span : SpanContext) : Code Ctx H Unit := do
  let incoming := arg args 0 kwargs "incoming"
  let dicts ← getDicts
  let ctxt ← Effects.liftExcept (incoming.ctxt.orEmpty dicts)
  let message ← Effects.liftExcept (incoming.message.orEmpty dicts)
  let method ← Effects.liftExcept (message.get dicts "method" (.str ""))
  let namespaceOf ← Effects.liftExcept (message.get dicts "namespace" (.str ""))
  setRpcAttributes noFaults span ctxt method namespaceOf (consumerMessagingSystem incoming)
    "receive"
  setIfTrue noFaults span "messaging.message.id" (message.get dicts "msg_id" .none)

open Messaging in
/-- What the dispatch of a notification records before it enters its span. -/
def describeNotification (args : Args) (kwargs : Kwargs) (span : SpanContext) :
    Code Ctx H Unit := do
  let incoming := arg args 0 kwargs "incoming"
  let dicts ← getDicts
  let ctxt ← Effects.liftExcept (incoming.ctxt.orEmpty dicts)
  let message ← Effects.liftExcept (incoming.message.orEmpty dicts)
  let message := if message.isMapping then message else emptyDict
  let eventType ← Effects.liftExcept (message.get dicts "event_type" .none)
  let priority ← Effects.liftExcept (message.get dicts "priority" .none)
  let publisherId ← Effects.liftExcept (message.get dicts "publisher_id" .none)
  setNotificationAttributes noFaults span (consumerMessagingSystem incoming) "receive" ctxt
    eventType priority publisherId
  setIfTrue noFaults span "messaging.message.id" (message.get dicts "message_id" .none)

/-- Where `span` has just been started under `c`, recording its attributes raises. -/
def Unread [ContextApi Ctx] (kind : SpanKind) (describe : SpanContext → Code Ctx H Unit) (c : Ctx)
    (w : World Ctx H) (span : SpanContext) : Prop :=
  ∃ name e, (describe span
    ({ w with current := c }.called [.start span (spanIn c) name kind []])).1 = .error e

/-! ### Ways in and out -/

def IsMessage (kind : SpanKind) : Prop := kind = .producer ∨ kind = .consumer

/-- Since `w` no span was started, and `span` was ended, and no other. -/
def Ended (span : SpanContext) (w v : World Ctx H) : Prop :=
  ∃ cs, startedSpans cs = [] ∧ finishedSpans cs = [span] ∧ v.calls = w.calls ++ cs

/-- On its way out a wrapper ends its span. -/
def Settles (span : SpanContext) (exit : Except Exn α → Code Ctx H α) : Prop :=
  ∀ r u, Ended span u (exit r u).2

/-- The way in, as far as spans go; the span of a message may be left open if it is `unread`. -/
def Concluded (kind : SpanKind) (parent : SpanContext) (unread : SpanContext → Prop)
    (w : World Ctx H) : Except Exn (Opening Ctx H ι α) × World Ctx H → Prop
  | (.error _, v) => v.calls = w.calls ∨ Attempted kind parent w v ∨
    IsMessage kind ∧ unread (newSpan w.calls parent) ∧ Opened kind parent w v
  | (.ok o, v) => Opened kind parent w v ∧ Settles (newSpan w.calls parent) o.exit

/-- The way in once `span` is started, of which `describe` is to be recorded first. -/
def Remains (describe : Code Ctx H Unit) (span : SpanContext) (w : World Ctx H) :
    Except Exn (Opening Ctx H ι α) × World Ctx H → Prop
  | (.error _, v) => (∃ e, (describe w).1 = .error e) ∧ Spanless w v ∨ Ended span w v
  | (.ok o, v) => Spanless w v ∧ Settles span o.exit

lemma spanless_refl (w : World Ctx H) : Spanless w w := ⟨[], quiet_nil, (List.append_nil _).symm⟩

lemma spanless_trans (u v w : World Ctx H) (h : Spanless u v) (h' : Spanless v w) :
    Spanless u w := by
  obtain ⟨cs, hcs, hv⟩ := h
  obtain ⟨ds, hds, hw⟩ := h'
  exact ⟨cs ++ ds, hcs.append hds, by rw [hw, hv, List.append_assoc]⟩

lemma Ended.spanless {span : SpanContext} {u v w : World Ctx H} (h : Spanless u v)
    (h' : Ended span v w) : Ended span u w := by
  obtain ⟨cs, hcs, hv⟩ := h
  obtain ⟨ds, hstarted, hended, hw⟩ := h'
  refine ⟨cs ++ ds, ?_, ?_, ?_⟩
  · rw [startedSpans_append, hcs.1, hstarted, List.append_nil]
  · rw [finishedSpans_append, hcs.2, hended, List.nil_append]
  · rw [hw, hv, List.append_assoc]

lemma record_spanless {c : Call} (h : Quiet [c]) (F : Faults) (s : Step) :
    Keeps Spanless (do mayRaise F s; record c : Code Ctx H Unit) := by
  apply Keeps.bind spanless_trans
  · intro w
    rw [mayRaise_silent F s w]
    exact spanless_refl w
  · intro _ w
    exact ⟨[c], h, rfl⟩

lemma annotates_spanless : Annotates (Spanless : World Ctx H → World Ctx H → Prop) where
  refl := spanless_refl
  trans := spanless_trans
  setAttribute F _ _ _ := record_spanless ⟨rfl, rfl⟩ F _
  setStatus F _ _ _ := record_spanless ⟨rfl, rfl⟩ F _

lemma spanless_of_silent {p : Code Ctx H β} (h : Silent p) : Keeps Spanless p := by
  intro w
  rw [h w]
  exact spanless_refl w

variable {kind : SpanKind} {parent span : SpanContext} {unread : SpanContext → Prop}
  {w : World Ctx H}

lemma concluded_silent {p : Code Ctx H β} {f : β → Code Ctx H (Opening Ctx H ι α)}
    (hp : Silent p) (hf : ∀ b, p w = (.ok b, w) → Concluded kind parent unread w (f b w)) :
    Concluded kind parent unread w ((p >>= f) w) :=
  hp.post_bind_outcome (fun _ => Or.inl rfl) hf

/-- What is recorded, and the rest of the way in. -/
lemma remains_recorded {p : Code Ctx H β} {g : β → Code Ctx H Unit}
    {f : β → Code Ctx H (Opening Ctx H ι α)} (hp : Keeps Spanless p)
    (hf : ∀ b v, p w = (.ok b, v) → Remains (g b) span v (f b v)) :
    Remains (p >>= g) span w ((p >>= f) w) := by
  have hw := hp w
  rcases hres : p w with ⟨e | b, v⟩ <;> rw [hres] at hw
  · rw [bind_of_error hres]
    exact Or.inl ⟨⟨e, congrArg Prod.fst (bind_of_error hres)⟩, hw⟩
  · rw [bind_of_ok hres]
    have hrest := hf b v hres
    have hsame : ((p >>= g) w).1 = (g b v).1 := congrArg Prod.fst (bind_of_ok hres)
    rcases hf' : f b v with ⟨e | o, t⟩ <;> rw [hf'] at hrest
    · refine hrest.imp ?_ (Ended.spanless hw)
      exact fun ⟨hraised, ht⟩ => ⟨hsame ▸ hraised, spanless_trans _ _ _ hw ht⟩
    · exact ⟨spanless_trans _ _ _ hw hrest.1, hrest.2⟩

/-- The last that is recorded. -/
lemma remains_last {p : Code Ctx H Unit} {f : Unit → Code Ctx H (Opening Ctx H ι α)}
    (hp : Keeps Spanless p) (hf : ∀ v, Remains (pure ()) span v (f () v)) :
    Remains p span w ((p >>= f) w) := by
  have hpure : p = p >>= fun _ => pure () := by
    funext v
    rcases hv : p v with ⟨e | u, t⟩
    · exact (bind_of_error hv).symm
    · rw [bind_of_ok hv]
      rfl
  have hremains : Remains (p >>= fun _ => pure ()) span w ((p >>= f) w) :=
    remains_recorded hp fun _ v _ => hf v
  rwa [← hpure] at hremains

lemma Concluded.imp {unread' : SpanContext → Prop}
    {out : Except Exn (Opening Ctx H ι α) × World Ctx H} (h : Concluded kind parent unread w out)
    (himp : ∀ span, unread span → unread' span) : Concluded kind parent unread' w out := by
  rcases out with ⟨e | o, v⟩
  · exact h.imp_right (Or.imp_right fun h => ⟨h.1, himp _ h.2.1, h.2.2⟩)
  · exact h

lemma Remains.congr {describe describe' : Code Ctx H Unit}
    {out : Except Exn (Opening Ctx H ι α) × World Ctx H} (h : Remains describe span w out)
    (hsame : describe' w = describe w) : Remains describe' span w out := by
  rcases out with ⟨e | o, v⟩
  · exact h.imp_left (And.imp_left fun ⟨e, he⟩ => ⟨e, hsame ▸ he⟩)
  · exact h

/-- The step that starts the span of a message. -/
lemma concluded_start [ContextApi Ctx] {c : Ctx} {name : String}
    {describe : SpanContext → Code Ctx H Unit} {f : SpanContext → Code Ctx H (Opening Ctx H ι α)}
    (hkind : IsMessage kind)
    (hf : ∀ span (v : World Ctx H), v.dicts = w.dicts →
      Remains (describe span) span v (f span v)) :
    Concluded kind (spanIn c) (Unread kind describe c w) w
      ((startSpan noFaults name kind none [] >>= f) { w with current := c }) := by
  let span := newSpan w.calls (spanIn c)
  let start : Call := .start span (spanIn c) name kind []
  let u : World Ctx H := { w with current := c }.called [start]
  have hfirst : ∀ cs, u.calls ++ cs = w.calls ++ start :: cs := fun cs => by
    change w.calls ++ [start] ++ cs = _
    rw [List.append_assoc, List.singleton_append]
  have hrest := hf span u rfl
  rw [bind_of_ok (startSpan_noFaults ..)]
  change Concluded kind (spanIn c) _ w (f span u)
  rcases hres : f span u with ⟨e | o, v⟩ <;> rw [hres] at hrest
  · rcases hrest with ⟨⟨e', hraised⟩, cs, hcs, hcalls⟩ | ⟨cs, hstarted, hended, hcalls⟩
    · exact Or.inr (Or.inr ⟨hkind, ⟨name, e', hraised⟩, name, [], cs, hcs,
        hcalls.trans (hfirst cs)⟩)
    · exact Or.inr (Or.inl ⟨name, [], cs, hstarted, hended, hcalls.trans (hfirst cs)⟩)
  · obtain ⟨⟨cs, hcs, hcalls⟩, hexit⟩ := hrest
    exact ⟨⟨name, [], cs, hcs, hcalls.trans (hfirst cs)⟩, hexit⟩

/-- The span's own block. -/
lemma remains_enterSpan [ContextApi Ctx] {enter : Code Ctx H (Opening Ctx H ι α)}
    (h : Block Spanless (fun _ _ => True) { w with current := setSpan span w.current }
      (enter { w with current := setSpan span w.current })) :
    Remains (pure ()) span w (enterSpan span enter w) := by
  have hclose : ∀ r (v : World Ctx H), Ended span v (closeSpan span ⟨w.current⟩ r v).2 :=
    fun r v => ⟨closing Ctx span r, startedSpans_closing span r, finishedSpans_closing span r, rfl⟩
  change Remains (pure ()) span w (finalizing enter (closeSpan span ⟨w.current⟩)
    { w with current := setSpan span w.current })
  rcases he : enter { w with current := setSpan span w.current } with ⟨e | o, v⟩ <;>
    rw [he] at h
  · rw [finalizing, bind_of_error (tryExcept_of_error he)]
    exact Or.inr (Ended.spanless h (hclose _ v))
  · rw [finalizing, bind_of_ok (tryExcept_of_ok he)]
    refine ⟨h.1, fun r u => ?_⟩
    rw [finalized_state]
    exact Ended.spanless (h.2.1 r u) (hclose _ _)

/-- Attaching a context around it all. -/
lemma concluded_attached [ContextApi Ctx] {p : Ctx} {enter : Code Ctx H (Opening Ctx H ι α)}
    (h : Concluded kind parent unread w (enter { w with current := p })) :
    Concluded kind parent unread w
      ((do
        let token ← attach p
        finalizing enter fun _ => detach token) w) := by
  change Concluded kind parent unread w
    (finalizing enter (fun _ => detach ⟨w.current⟩) { w with current := p })
  rcases he : enter { w with current := p } with ⟨e | o, v⟩ <;> rw [he] at h
  · rw [finalizing, bind_of_error (tryExcept_of_error he)]
    exact h
  · rw [finalizing, bind_of_ok (tryExcept_of_ok he)]
    refine ⟨h.1, fun r u => ?_⟩
    rw [finalized_state]
    exact h.2 r u

lemma block_keeps {Q : ι → World Ctx H → Prop} {p : Code Ctx H β}
    {f : β → Code Ctx H (Opening Ctx H ι α)} (hp : Keeps Spanless p)
    (hf : ∀ b v, p w = (.ok b, v) → Block Spanless Q v (f b v)) :
    Block Spanless Q w ((p >>= f) w) := by
  have hw := hp w
  rcases hres : p w with ⟨e | b, v⟩ <;> rw [hres] at hw
  · rw [bind_of_error hres]
    exact hw
  · exact block_ok spanless_trans hres hw (hf b v hres)

lemma concluded_of_scoped [ContextApi Ctx] {Q : SpanContext → ι → World Ctx H → Prop}
    {out : Except Exn (Opening Ctx H ι α) × World Ctx H} (h : Scoped kind parent Q w out) :
    Concluded kind parent unread w out := by
  rcases out with ⟨e | o, v⟩
  · exact h.2.2.imp_right Or.inl
  · refine ⟨h.1, fun r u => ?_⟩
    obtain ⟨-, -, cs, hstarted, hended, hcalls⟩ := h.2.2.2.1 r u
    exact ⟨cs, hstarted, hended, hcalls⟩

end

/-! ### Each way in -/

section

variable {Ctx H α : Type} [Propagator Ctx] {w : World Ctx H}

lemma concluded_ownSpan {unread : SpanContext → Prop} (name : String) (attributes : Dict)
    (w : World Ctx H) :
    Concluded .internal (spanIn w.current) unread w
      ((ownSpan name attributes : Wrapping Ctx H Unit α).enter w) :=
  concluded_of_scoped (scoped_programSpan name .internal none attributes w)

open KeystoneMiddleware in
lemma concluded_call (r : Reading α) (environ : Arg) (startResponse : StartResponse Ctx H)
    {parent : SpanContext} {unread : SpanContext → Prop} (hon : enabled w.current = true)
    (hidle : (spanIn w.current).isValid = false)
    (hparent : ∀ p, environContext w.dicts environ = .ok p →
      spanIn (p.getD w.current) = parent) :
    Concluded .server parent unread w (enterCall r (.wsgi environ startResponse) w) := by
  have hread := enterCall_read r environ startResponse hon
  cases hrequest : readEnviron r environ w with
  | error e =>
    rw [hrequest] at hread
    rw [hread]
    exact Or.inl rfl
  | ok q =>
    rw [hrequest] at hread
    obtain ⟨hcode, -⟩ := hread
    have hcontext := environParentContext_eq environ hidle
    rw [hcode] at hcontext
    cases hp : (environContext w.dicts environ : Except Exn (Option Ctx)) with
    | error e =>
      rw [hp] at hcontext
      exact absurd (congrArg Prod.fst hcontext) nofun
    | ok p =>
      rw [hp] at hcontext
      obtain ⟨hsame, hkind⟩ := Prod.mk.inj (Except.ok.inj (congrArg Prod.fst hcontext))
      have hscoped := scoped_call r environ startResponse hon hcode
      rw [hsame, hkind, hparent p hp] at hscoped
      exact concluded_of_scoped hscoped

omit [Propagator Ctx] in
lemma setItem_spanless (carrier : Arg) (key : String) (value : Val) :
    Keeps Spanless (setItem carrier key value : Code Ctx H Unit) := by
  intro w
  cases carrier <;> exact ⟨[], quiet_nil, (List.append_nil _).symm⟩

lemma inject_spanless (carrier : Arg) :
    Keeps Spanless (inject noFaults carrier : Code Ctx H Unit) := by
  apply Keeps.bind spanless_trans (spanless_of_silent (mayRaise_silent _ _))
  intro _
  apply Keeps.bind spanless_trans (Keeps.reads spanless_refl _)
  intro c
  induction Propagator.headers c with
  | nil => exact Keeps.pure spanless_refl ()
  | cons item items ih =>
    apply Keeps.bind spanless_trans (setItem_spanless carrier _ _)
    intro _
    exact ih

open Messaging in
lemma concluded_send (isNotification : Bool) (transport : Option String) (args : Args)
    (kwargs : Kwargs) (hon : enabled w.current = true) :
    Concluded .producer (spanIn w.current)
      (Unread .producer (describeSend isNotification transport args kwargs) w.current w) w
      ((enterSend isNotification transport args kwargs : Code Ctx H (Opening Ctx H Input α))
        w) := by
  unfold enterSend
  rw [guard_on hon]
  apply concluded_silent (Silent.reads _)
  intro dicts _
  apply concluded_silent (Silent.liftExcept _)
  intro dest _
  apply concluded_start (Or.inl rfl)
  intro span v _
  rw [bind_of_ok (mayRaise_noFaults _ v)]
  apply remains_last
  · apply Keeps.onlyIf spanless_refl
    exact setSendAttributes_keeps _ _ annotates_spanless _ _ _ _ _ _
  intro t
  apply remains_enterSpan
  have hinject : Keeps Spanless
      (onlyIf (arg args 1 kwargs "ctxt").isMapping (inject noFaults (arg args 1 kwargs "ctxt")) :
        Code Ctx H Unit) := Keeps.onlyIf spanless_refl (inject_spanless _)
  exact block_keeps hinject fun _ _ _ => block_call spanless_refl trivial

open Messaging Deliveries in
/-- What both dispatches do before they attach a context. -/
lemma concluded_received (incoming : Arg) {parent : SpanContext} {unread : SpanContext → Prop}
    {rest : List Dict → Arg → Arg → Ctx → Code Ctx H (Opening Ctx H Input α)}
    (hrest : ∀ ctxt message p, spanContextOf noFaults ctxt w = (.ok p, w) →
      incoming.ctxt.orEmpty w.dicts = .ok ctxt → incoming.message.orEmpty w.dicts = .ok message →
      Concluded .consumer parent unread w (rest w.dicts ctxt message p w)) :
    Concluded .consumer parent unread w
      ((do
        let dicts ← getDicts
        mayRaise noFaults (.other "getattr ctxt")
        let ctxt ← Effects.liftExcept (incoming.ctxt.orEmpty dicts)
        mayRaise noFaults (.other "getattr message")
        let message ← Effects.liftExcept (incoming.message.orEmpty dicts)
        let spanCtx ← spanContextOf noFaults ctxt
        rest dicts ctxt message spanCtx) w) := by
  apply concluded_silent (Silent.reads _)
  intro dicts hdicts
  obtain rfl := Except.ok.inj (congrArg Prod.fst hdicts)
  apply concluded_silent (mayRaise_silent _ _)
  intro _ _
  apply concluded_silent (Silent.liftExcept _)
  intro ctxt hctxt
  apply concluded_silent (mayRaise_silent _ _)
  intro _ _
  apply concluded_silent (Silent.liftExcept _)
  intro message hmessage
  apply concluded_silent (spanContextOf_silent _ _)
  intro p hp
  exact hrest ctxt message p hp (congrArg Prod.fst hctxt) (congrArg Prod.fst hmessage)

/-- The part of a dispatch under the attached context. -/
lemma concluded_consumer {c : Ctx} {name : String} {describe : SpanContext → Code Ctx H Unit}
    {block : SpanContext → Code Ctx H (Opening Ctx H Input α)}
    (h : ∀ span (v : World Ctx H), v.dicts = w.dicts →
      Remains (describe span) span v (block span v)) :
    Concluded .consumer (spanIn c) (fun span => ∃ c, Unread .consumer describe c w span) w
      ((do
        let token ← attach c
        finalizing (startSpan noFaults name .consumer none [] >>= block) fun _ =>
          detach token) w) := by
  apply concluded_attached
  exact (concluded_start (Or.inr rfl) h).imp fun _ hunread => ⟨c, hunread⟩

open Messaging in
omit [Propagator Ctx] in
/-- What is left to record once the call has been read. -/
lemma describeRpc_of_read {args : Args} {kwargs : Kwargs} {span : SpanContext} {dicts : List Dict}
    {ctxt message : Arg} {method namespaceOf : Val} {v : World Ctx H} (hdicts : v.dicts = dicts)
    (hctxt : (arg args 0 kwargs "incoming").ctxt.orEmpty dicts = .ok ctxt)
    (hmessage : (arg args 0 kwargs "incoming").message.orEmpty dicts = .ok message)
    (hmethod : message.get dicts "method" (.str "") = .ok method)
    (hnamespace : message.get dicts "namespace" (.str "") = .ok namespaceOf) :
    describeRpc args kwargs span v =
      (do
        setRpcAttributes noFaults span ctxt method namespaceOf
          (consumerMessagingSystem (arg args 0 kwargs "incoming")) "receive"
        setIfTrue noFaults span "messaging.message.id" (message.get dicts "msg_id" .none) :
          Code Ctx H Unit) v := by
  have hget : getDicts v = (.ok dicts, v) := hdicts ▸ rfl
  unfold describeRpc
  simp only [bind_apply, hget, hctxt, hmessage, hmethod, hnamespace, Effects.liftExcept_apply]

open Messaging in
lemma concluded_rpcDispatch (args : Args) (kwargs : Kwargs) (hon : enabled w.current = true)
    {parent : SpanContext}
    (hparent : ∀ ctxt c, (arg args 0 kwargs "incoming").ctxt.orEmpty w.dicts = .ok ctxt →
      spanContextOf noFaults ctxt w = (.ok c, w) → spanIn c = parent) :
    Concluded .consumer parent
      (fun span => ∃ c, Unread .consumer (describeRpc args kwargs) c w span) w
      ((enterRpcDispatch args kwargs : Code Ctx H (Opening Ctx H Input α)) w) := by
  unfold enterRpcDispatch
  rw [guard_on hon]
  apply concluded_received (arg args 0 kwargs "incoming")
  intro ctxt message p hp hctxt hmessage
  obtain rfl := hparent ctxt p hctxt hp
  apply concluded_silent (Silent.liftExcept _)
  intro method hmethod
  apply concluded_silent (Silent.liftExcept _)
  intro namespaceOf hnamespace
  apply concluded_silent (Silent.liftExcept _)
  intro dest _
  apply concluded_consumer
  intro span v hdicts
  refine Remains.congr ?_ (describeRpc_of_read hdicts hctxt hmessage (congrArg Prod.fst hmethod)
    (congrArg Prod.fst hnamespace))
  rw [bind_of_ok (mayRaise_noFaults _ v)]
  apply remains_recorded (setRpcAttributes_keeps _ _ annotates_spanless _ _ _ _ _)
  intro _ t _
  apply remains_last (setIfTrue_keeps _ _ annotates_spanless _ _)
  intro u
  exact remains_enterSpan (block_call spanless_refl trivial)

open Messaging in
omit [Propagator Ctx] in
/-- What is left to read and to record once the payload has been read. -/
lemma describeNotification_of_read {args : Args} {kwargs : Kwargs} {span : SpanContext}
    {dicts : List Dict} {ctxt message : Arg} {v : World Ctx H} (hdicts : v.dicts = dicts)
    (hctxt : (arg args 0 kwargs "incoming").ctxt.orEmpty dicts = .ok ctxt)
    (hmessage : (arg args 0 kwargs "incoming").message.orEmpty dicts = .ok message) :
    let payload := if message.isMapping then message else emptyDict
    describeNotification args kwargs span v =
      (do
        let eventType ← Effects.liftExcept (payload.get dicts "event_type" .none)
        let priority ← Effects.liftExcept (payload.get dicts "priority" .none)
        let publisherId ← Effects.liftExcept (payload.get dicts "publisher_id" .none)
        setNotificationAttributes noFaults span
          (consumerMessagingSystem (arg args 0 kwargs "incoming")) "receive" ctxt eventType
          priority publisherId
        setIfTrue noFaults span "messaging.message.id"
          (payload.get dicts "message_id" .none) : Code Ctx H Unit) v := by
  have hget : getDicts v = (.ok dicts, v) := hdicts ▸ rfl
  unfold describeNotification
  simp only [bind_apply, hget, hctxt, hmessage, Effects.liftExcept_apply]

open Messaging in
lemma concluded_notificationDispatch (args : Args) (kwargs : Kwargs)
    (hon : enabled w.current = true) {parent : SpanContext}
    (hparent : ∀ ctxt c, (arg args 0 kwargs "incoming").ctxt.orEmpty w.dicts = .ok ctxt →
      spanContextOf noFaults ctxt w = (.ok c, w) → spanIn c = parent) :
    Concluded .consumer parent
      (fun span => ∃ c, Unread .consumer (describeNotification args kwargs) c w span) w
      ((enterNotificationDispatch args kwargs : Code Ctx H (Opening Ctx H Input α)) w) := by
  unfold enterNotificationDispatch
  rw [guard_on hon]
  apply concluded_received (arg args 0 kwargs "incoming")
  intro ctxt message p hp hctxt hmessage
  obtain rfl := hparent ctxt p hctxt hp
  apply concluded_silent (Silent.liftExcept _)
  intro eventType _
  apply concluded_silent (Silent.liftExcept _)
  intro dest _
  apply concluded_consumer
  intro span v hdicts
  refine Remains.congr ?_ (describeNotification_of_read hdicts hctxt hmessage)
  rw [bind_of_ok (mayRaise_noFaults _ v)]
  apply remains_recorded (Keeps.liftExcept spanless_refl _)
  intro eventType u₁ _
  apply remains_recorded (Keeps.liftExcept spanless_refl _)
  intro priority u₂ _
  apply remains_recorded (Keeps.liftExcept spanless_refl _)
  intro publisherId u₃ _
  apply remains_recorded (setNotificationAttributes_keeps _ _ annotates_spanless _ _ _ _ _ _)
  intro _ u₄ _
  apply remains_last (setIfTrue_keeps _ _ annotates_spanless _ _)
  intro u₅
  exact remains_enterSpan (block_call spanless_refl trivial)

end

end OtelOpenstack.Settlement
