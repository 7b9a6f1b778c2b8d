import OtelOpenstack.Http
import OtelOpenstack.Messaging
import OtelOpenstack.Openings

/-!
The ways in to the wrappers that send and to those that serve.

Each is the wrapper's own code up to the wrapped callable, and each wrapper is shown to be its
way in, the call, and the way out.
-/

set_option autoImplicit false

namespace OtelOpenstack.Hops

open Effects Python Otel ContextApi Carriers Openings Http

section

variable {Ctx H α : Type} [Propagator Ctx]

/-- A wrapped callable of the wrappers that pass on `*args, **kwargs`. -/
abbrev Input := Args × Kwargs

/-- The callable, its arguments apart. -/
def applied (wrapped : Input → Code Ctx H α) : Wrapped Ctx H α :=
  fun args kwargs => wrapped (args, kwargs)

omit [Propagator Ctx] in
lemma opens_guarded [ContextApi Ctx] {ι : Type} {what : String}
    {m n : (ι → Code Ctx H α) → Code Ctx H α} {off on : Code Ctx H (Opening Ctx H ι α)}
    (hm : Opens m off) (hn : Opens n on) :
    Opens
      (fun wrapped => do
        mayRaise noFaults (.other what)
        let c ← getCurrent
        if !enabled c then m wrapped else n wrapped)
      (do
        mayRaise noFaults (.other what)
        let c ← getCurrent
        if !enabled c then off else on) := by
  apply opens_bind
  intro _
  apply opens_bind
  intro c
  exact opens_ite hm hn

/-! ### Messaging -/

open Messaging in
def enterSend (isNotification : Bool) (transport : Option String) (args : Args)
    (kwargs : Kwargs) : Code Ctx H (Opening Ctx H Input α) := do
  mayRaise noFaults (.other "is_instrumentation_enabled")
  let c ← getCurrent
  if !enabled c then pure (.call (args, kwargs))
  else do
    let ctxt := arg args 1 kwargs "ctxt"
    let target := arg args 0 kwargs "target"
    let message := arg args 2 kwargs "message"
    let message := if message.isMapping then message else emptyDict
    let dicts ← getDicts
    let dest ← liftExcept (sendName isNotification dicts message)
    let span ← startSpan noFaults dest .producer none []
    mayRaise noFaults .isRecording
    onlyIf (isRecording Ctx span)
      (setSendAttributes noFaults isNotification span transport ctxt target message
        (arg args 3 kwargs "wait_for_reply"))
    enterSpan span do
      onlyIf ctxt.isMapping (inject noFaults ctxt)
      pure (.call (args, kwargs))

open Messaging in
lemma opens_send (isNotification : Bool) (transport : Option String) (args : Args)
    (kwargs : Kwargs) :
    Opens
      (fun wrapped : Input → Code Ctx H α =>
        injectWrapper noFaults isNotification transport (applied wrapped) args kwargs)
      (enterSend isNotification transport args kwargs) := by
  unfold injectWrapper enterSend
  apply opens_guarded (opens_call _)
  apply opens_bind
  intro dicts
  apply opens_bind
  intro dest
  apply opens_bind
  intro span
  apply opens_bind
  intro _
  apply opens_bind
  intro _
  apply opens_useSpan
  apply opens_bind
  intro _
  exact opens_call _

def send (isNotification : Bool) (transport : Option String) (args : Args) (kwargs : Kwargs) :
    Wrapping Ctx H Input α where
  code wrapped :=
    Messaging.injectWrapper noFaults isNotification transport (applied wrapped) args kwargs
  enter := enterSend isNotification transport args kwargs
  opens := opens_send isNotification transport args kwargs

open Messaging in
def enterRpcDispatch (args : Args) (kwargs : Kwargs) : Code Ctx H (Opening Ctx H Input α) := do
  mayRaise noFaults (.other "is_instrumentation_enabled")
  let c ← getCurrent
  if !enabled c then pure (.call (args, kwargs))
  else do
    let incoming := arg args 0 kwargs "incoming"
    let dicts ← getDicts
    mayRaise noFaults (.other "getattr ctxt")
    let ctxt ← liftExcept (incoming.ctxt.orEmpty dicts)
    mayRaise noFaults (.other "getattr message")
    let message ← liftExcept (incoming.message.orEmpty dicts)
    let spanCtx ← spanContextOf noFaults ctxt
    let method ← liftExcept (message.get dicts "method" (.str ""))
    let namespaceOf ← liftExcept (message.get dicts "namespace" (.str ""))
    let dest ← liftExcept (receiveName namespaceOf method)
    let token ← attach spanCtx
    finalizing
      (do
        let span ← startSpan noFaults dest .consumer none []
        mayRaise noFaults (.other "_consumer_messaging_system")
        setRpcAttributes noFaults span ctxt method namespaceOf (consumerMessagingSystem incoming)
          "receive"
        setIfTrue noFaults span "messaging.message.id" (message.get dicts "msg_id" .none)
        enterSpan span (pure (.call (args, kwargs))))
      fun _ => detach token

open Messaging in
lemma opens_rpcDispatch (args : Args) (kwargs : Kwargs) :
    Opens
      (fun wrapped : Input → Code Ctx H α =>
        rpcServerWrapper noFaults (applied wrapped) args kwargs)
      (enterRpcDispatch args kwargs) := by
  unfold rpcServerWrapper enterRpcDispatch
  apply opens_guarded (opens_call _)
  apply opens_bind
  intro dicts
  apply opens_bind
  intro _
  apply opens_bind
  intro ctxt
  apply opens_bind
  intro _
  apply opens_bind
  intro message
  apply opens_bind
  intro spanCtx
  apply opens_bind
  intro method
  apply opens_bind
  intro namespaceOf
  apply opens_bind
  intro dest
  apply opens_bind
  intro token
  apply opens_tryFinally
  apply opens_bind
  intro span
  apply opens_bind
  intro _
  apply opens_bind
  intro _
  apply opens_bind
  intro _
  exact opens_useSpan (opens_call _) span

def rpcDispatch (args : Args) (kwargs : Kwargs) : Wrapping Ctx H Input α where
  code wrapped := Messaging.rpcServerWrapper noFaults (applied wrapped) args kwargs
  enter := enterRpcDispatch args kwargs
  opens := opens_rpcDispatch args kwargs

open Messaging in
def enterNotificationDispatch (args : Args) (kwargs : Kwargs) :
    Code Ctx H (Opening Ctx H Input α) := do
  mayRaise noFaults (.other "is_instrumentation_enabled")
  let c ← getCurrent
  if !enabled c then pure (.call (args, kwargs))
  else do
    let incoming := arg args 0 kwargs "incoming"
    let dicts ← getDicts
    mayRaise noFaults (.other "getattr ctxt")
    let ctxt ← liftExcept (incoming.ctxt.orEmpty dicts)
    mayRaise noFaults (.other "getattr message")
    let message ← liftExcept (incoming.message.orEmpty dicts)
    let message := if message.isMapping then message else emptyDict
    let spanCtx ← spanContextOf noFaults ctxt
    let eventType ← liftExcept (message.get dicts "event_type" (.str ""))
    let dest ← liftExcept eventType.format
    let token ← attach spanCtx
    finalizing
      (do
        let span ← startSpan noFaults (dest ++ " receive") .consumer none []
        mayRaise noFaults (.other "_consumer_messaging_system")
        let eventType ← liftExcept (message.get dicts "event_type" .none)
        let priority ← liftExcept (message.get dicts "priority" .none)
        let publisherId ← liftExcept (message.get dicts "publisher_id" .none)
        setNotificationAttributes noFaults span (consumerMessagingSystem incoming) "receive" ctxt
          eventType priority publisherId
        setIfTrue noFaults span "messaging.message.id" (message.get dicts "message_id" .none)
        enterSpan span (pure (.call (args, kwargs))))
      fun _ => detach token

open Messaging in
lemma opens_notificationDispatch (args : Args) (kwargs : Kwargs) :
    Opens
      (fun wrapped : Input → Code Ctx H α =>
        notificationServerWrapper noFaults (applied wrapped) args kwargs)
      (enterNotificationDispatch args kwargs) := by
  unfold notificationServerWrapper enterNotificationDispatch
  apply opens_guarded (opens_call _)
  apply opens_bind
  intro dicts
  apply opens_bind
  intro _
  apply opens_bind
  intro ctxt
  apply opens_bind
  intro _
  apply opens_bind
  intro message
  apply opens_bind
  intro spanCtx
  apply opens_bind
  intro eventType
  apply opens_bind
  intro dest
  apply opens_bind
  intro token
  apply opens_tryFinally
  apply opens_bind
  intro span
  apply opens_bind
  intro _
  apply opens_bind
  intro eventType
  apply opens_bind
  intro priority
  apply opens_bind
  intro publisherId
  apply opens_bind
  intro _
  apply opens_bind
  intro _
  exact opens_useSpan (opens_call _) span

def notificationDispatch (args : Args) (kwargs : Kwargs) : Wrapping Ctx H Input α where
  code wrapped := Messaging.notificationServerWrapper noFaults (applied wrapped) args kwargs
  enter := enterNotificationDispatch args kwargs
  opens := opens_notificationDispatch args kwargs

/-! ### HTTP -/

variable (r : Reading α)

/-- What an HTTP client wrapper does once the response is there. -/
def afterResponse (span : SpanContext) (response : α) : Code Ctx H α := do
  mayRaise noFaults .isRecording
  onlyIf (isRecording Ctx span) (recordResponse noFaults r span (r.response response))
  pure response

/-- The `except Exception` of a wrapper. -/
def noteException (span : SpanContext) (handler : Exn → Code Ctx H Unit) (e : Exn) :
    Code Ctx H Unit :=
  onlyIf e.isException do
    mayRaise noFaults .isRecording
    onlyIf (isRecording Ctx span) (handler e)

open KeystoneAuth in
def enterSession (args : Args) (kwargs : Kwargs) : Code Ctx H (Opening Ctx H Input α) := do
  mayRaise noFaults (.other "is_instrumentation_enabled")
  let c ← getCurrent
  if !enabled c then pure (.call (args, kwargs))
  else do
    let dicts ← reads World.dicts
    let method ← liftExcept (httpMethod r dicts args kwargs)
    let url ← liftExcept (httpUrl dicts args kwargs)
    let service ← liftExcept (serviceType dicts kwargs)
    let requestId := (kwargs.lookup "global_request_id").getD (.val .none)
    let parsed ← liftExcept (r.urlparse url)
    let attributes ← liftExcept (attributes r dicts method url service requestId)
    let span ← startSpan noFaults (spanName method parsed.path) .client none attributes
    enterSpan span do
      let copy ← liftExcept (copyHeaders dicts kwargs)
      let headers ← newDict copy
      inject noFaults (.dict headers)
      andThen
        (handling (pure (.call (args, setKwarg kwargs "headers" (.dict headers))))
          (noteException span (recordError noFaults r span)))
        (afterResponse r span)

open KeystoneAuth in
lemma opens_session (args : Args) (kwargs : Kwargs) :
    Opens
      (fun wrapped : Input → Code Ctx H α =>
        KeystoneAuth.requestWrapper noFaults r (applied wrapped) args kwargs)
      (enterSession r args kwargs) := by
  unfold KeystoneAuth.requestWrapper enterSession
  apply opens_guarded (opens_call _)
  apply opens_bind
  intro dicts
  apply opens_bind
  intro method
  apply opens_bind
  intro url
  apply opens_bind
  intro service
  apply opens_bind
  intro parsed
  apply opens_bind
  intro attributes
  apply opens_bind
  intro span
  apply opens_useSpan
  apply opens_bind
  intro copy
  apply opens_bind
  intro headers
  apply opens_bind
  intro _
  exact opens_andThen (opens_handling (opens_call _) _) (afterResponse r span)

def session (args : Args) (kwargs : Kwargs) : Wrapping Ctx H Input α where
  code wrapped := KeystoneAuth.requestWrapper noFaults r (applied wrapped) args kwargs
  enter := enterSession r args kwargs
  opens := opens_session r args kwargs

open OpenStackSdk in
def enterProxy (proxy : Proxy) (args : Args) (kwargs : Kwargs) :
    Code Ctx H (Opening Ctx H Input α) := do
  mayRaise noFaults (.other "is_instrumentation_enabled")
  let c ← getCurrent
  if !enabled c then pure (.call (args, kwargs))
  else do
    let dicts ← reads World.dicts
    let method ← liftExcept (httpMethod r dicts args kwargs)
    let url ← liftExcept (httpUrl dicts args kwargs)
    let requestId ← liftExcept (globalRequestId proxy dicts args kwargs)
    let service ← liftExcept proxy.serviceType
    let region ← liftExcept proxy.regionName
    let names ← liftExcept (proxy.extractName url service)
    let attributes ← liftExcept (attributes r dicts method url service region requestId)
    let span ← startSpan noFaults (method ++ " " ++ String.intercalate "." names) .client none
      attributes
    enterSpan span do
      let copy ← liftExcept (copyHeaders dicts kwargs)
      let headers ← newDict copy
      inject noFaults (.dict headers)
      andThen (pure (.call (args, setKwarg kwargs "headers" (.dict headers))))
        (afterResponse r span)

open OpenStackSdk in
lemma opens_proxy (proxy : Proxy) (args : Args) (kwargs : Kwargs) :
    Opens
      (fun wrapped : Input → Code Ctx H α =>
        OpenStackSdk.requestWrapper noFaults r proxy (applied wrapped) args kwargs)
      (enterProxy r proxy args kwargs) := by
  unfold OpenStackSdk.requestWrapper enterProxy
  apply opens_guarded (opens_call _)
  apply opens_bind
  intro dicts
  apply opens_bind
  intro method
  apply opens_bind
  intro url
  apply opens_bind
  intro requestId
  apply opens_bind
  intro service
  apply opens_bind
  intro region
  apply opens_bind
  intro names
  apply opens_bind
  intro attributes
  apply opens_bind
  intro span
  apply opens_useSpan
  apply opens_bind
  intro copy
  apply opens_bind
  intro headers
  apply opens_bind
  intro _
  exact opens_andThen (opens_call _) (afterResponse r span)

def proxyRequest (proxy : OpenStackSdk.Proxy) (args : Args) (kwargs : Kwargs) :
    Wrapping Ctx H Input α where
  code wrapped := OpenStackSdk.requestWrapper noFaults r proxy (applied wrapped) args kwargs
  enter := enterProxy r proxy args kwargs
  opens := opens_proxy r proxy args kwargs

open KeystoneMiddleware in
/-- What the request wrapper does once the application has returned. -/
def afterApp (span : SpanContext) (captured : ℕ) (result : α) : Code Ctx H α := do
  mayRaise noFaults .isRecording
  onlyIf (isRecording Ctx span) do
    let dicts ← reads World.dicts
    recordStatus noFaults r span (((deref dicts captured).get "status").getD .none)
  pure result

open KeystoneMiddleware in
def enterCall : Invocation Ctx H → Code Ctx H (Opening Ctx H (Invocation Ctx H) α)
  | .other args kwargs => do
    mayRaise noFaults (.other "is_instrumentation_enabled")
    pure (.call (.other args kwargs))
  | .wsgi environ startResponse => do
    mayRaise noFaults (.other "is_instrumentation_enabled")
    let c ← getCurrent
    if !enabled c then pure (.call (.wsgi environ startResponse))
    else do
      let (parent, kind) ← environParentContext noFaults environ
      let dicts ← reads World.dicts
      let attributes ← liftExcept (requestAttributes r dicts environ)
      let name ← liftExcept (requestSpanName r dicts environ)
      let span ← startSpan noFaults name kind parent attributes
      enterSpan span do
        let captured ← newDict []
        let tracedStartResponse : StartResponse Ctx H := fun status rest => do
          setItem (.dict captured) "status" status
          startResponse status rest
        andThen
          (handling (pure (.call (.wsgi environ tracedStartResponse)))
            (noteException span (setErrorStatus noFaults span)))
          (afterApp r span captured)

open KeystoneMiddleware in
lemma opens_callWrapper (i : Invocation Ctx H) :
    Opens (fun wrapped => callWrapper noFaults r wrapped i) (enterCall r i : Code Ctx H _) := by
  cases i with
  | other args kwargs =>
    unfold callWrapper enterCall
    apply opens_bind
    intro _
    exact opens_call _
  | wsgi environ startResponse =>
    unfold callWrapper enterCall
    apply opens_guarded (opens_call _)
    apply opens_bind
    rintro ⟨parent, kind⟩
    apply opens_bind
    intro dicts
    apply opens_bind
    intro attributes
    apply opens_bind
    intro name
    apply opens_bind
    intro span
    apply opens_useSpan
    apply opens_bind
    intro captured
    exact opens_andThen (opens_handling (opens_call _) _) (afterApp r span captured)

def serve (environ : Arg) (startResponse : KeystoneMiddleware.StartResponse Ctx H) :
    Wrapping Ctx H (KeystoneMiddleware.Invocation Ctx H) α where
  code wrapped :=
    KeystoneMiddleware.callWrapper noFaults r wrapped (.wsgi environ startResponse)
  enter := enterCall r (.wsgi environ startResponse)
  opens := opens_callWrapper r (.wsgi environ startResponse)

/-! ### The program's own spans -/

/-- `with tracer.start_as_current_span(name)` around the program's own code. -/
def ownSpan (name : String) (attributes : Dict) : Wrapping Ctx H Unit α where
  code wrapped :=
    startAsCurrentSpan noFaults name .internal none attributes fun _ => wrapped ()
  enter := do
    let span ← startSpan noFaults name .internal none attributes
    enterSpan span (pure (.call ()))
  opens := opens_bind _ fun span => opens_useSpan (opens_call ()) span

end

end OtelOpenstack.Hops
