import OtelOpenstack.Carriers

/-!
The wrappers around oslo.messaging: a producer span and injection around the transport's sends,
extraction and a consumer span around the dispatchers.

What a wrapper computes from the values it is given is an `Except`: every operation on a value
of a foreign class may raise. The steps outside the wrapper's own code may raise too, as the
faults say.
-/

set_option autoImplicit false

namespace OtelOpenstack.Messaging

open Effects Python Otel ContextApi Carriers

/-! ### The broker -/

def messagingSystemByDriver (driver : String) : String :=
  if driver = "rabbit" then "rabbitmq" else if driver = "kombu" then "rabbitmq" else driver

def messagingSystemForDriver (driver : Option String) : String :=
  match driver with
  | none => "oslo.messaging"
  | some driver =>
    if driver = "" then "oslo.messaging"
    else messagingSystemByDriver ((driver.splitOn "+").headD "")

/-- The driver of the transport's parsed URL decides. -/
def producerMessagingSystem (transport : Option String) : String :=
  messagingSystemForDriver transport

def driverByIncomingModule (module : String) : Option String :=
  if module = "oslo_messaging._drivers.amqpdriver" then some "rabbit"
  else if module = "oslo_messaging._drivers.impl_kafka" then some "kafka"
  else if module = "oslo_messaging._drivers.impl_fake" then some "fake"
  else none

def consumerMessagingSystem (incoming : Arg) : String :=
  match incoming.modules.findSome? driverByIncomingModule with
  | some driver => messagingSystemForDriver (some driver)
  | none => "oslo.messaging"

/-! ### Names -/

/-- The name of an RPC method with its namespace, if it has one. -/
def dotted (namespaceOf method : Val) : Except Exn String := do
  let n ← namespaceOf.format
  let m ← method.format
  pure (n ++ "." ++ m)

def rpcMethod (dicts : List Dict) (message : Arg) : Except Exn (Option String) := do
  if !message.isMapping then pure none
  else do
    let method ← message.get dicts "method" .none
    if !(← method.truth) then pure none
    else do
      let namespaceOf ← message.get dicts "namespace" .none
      if ← namespaceOf.truth then do
        let name ← dotted namespaceOf method
        pure (some name)
      else do
        let name ← method.text
        pure (some name)

/-- The name of the span of a send. -/
def sendName (isNotification : Bool) (dicts : List Dict) (message : Arg) :
    Except Exn String := do
  if isNotification then do
    let eventType ← message.get dicts "event_type" .none
    if ← eventType.truth then do
      let name ← eventType.format
      pure (name ++ " send")
    else pure "send"
  else do
    match ← rpcMethod dicts message with
    | none => pure "send"
    | some name => if name = "" then pure "send" else pure (name ++ " send")

/-- The name of the span of an RPC dispatch. -/
def receiveName (namespaceOf method : Val) : Except Exn String := do
  if ← namespaceOf.truth then do
    let name ← dotted namespaceOf method
    pure (name ++ " receive")
  else do
    let name ← method.format
    pure (name ++ " receive")

section

variable {Ctx H α : Type}

def getDicts : Code Ctx H (List Dict) := reads World.dicts

variable (F : Faults)

/-! ### Attributes -/

/-- `span.set_attribute(key, str(value))`. -/
def setText (span : SpanContext) (key : String) (value : Val) : Code Ctx H Unit := do
  let text ← liftExcept value.text
  setAttribute F span key (.str text)

def setRequestId (span : SpanContext) (ctxt : Arg) : Code Ctx H Unit := do
  if !ctxt.isMapping then pure ()
  else do
    let dicts ← getDicts
    let requestId ← liftExcept (ctxt.get dicts "request_id" .none)
    if !(← liftExcept requestId.truth) then pure ()
    else do
      setText F span "openstack.request_id" requestId
      setText F span "messaging.message.conversation_id" requestId

def setRpcAttributes (span : SpanContext) (ctxt : Arg) (method namespaceOf : Val)
    (system operation : String) : Code Ctx H Unit := do
  setAttribute F span "messaging.system" (.str system)
  setAttribute F span "messaging.operation" (.str operation)
  setAttribute F span "messaging.operation.name" (.str operation)
  setAttribute F span "rpc.system" (.str "oslo.messaging")
  onlyIf (method ≠ .none) (setText F span "rpc.method" method)
  let given ← liftExcept namespaceOf.truth
  onlyIf given (setText F span "rpc.service" namespaceOf)
  setRequestId F span ctxt

/-- An attribute that is recorded as it is, unless it is `None`. -/
def setUnlessNone (span : SpanContext) (key : String) (value : Val) : Code Ctx H Unit :=
  onlyIf (value ≠ .none) (setAttribute F span key value)

def setNotificationAttributes (span : SpanContext) (system operation : String) (ctxt : Arg)
    (eventType priority publisherId : Val) : Code Ctx H Unit := do
  setAttribute F span "messaging.system" (.str system)
  setAttribute F span "messaging.operation" (.str operation)
  setAttribute F span "messaging.operation.name" (.str operation)
  setRequestId F span ctxt
  setUnlessNone F span "oslo_messaging.notification.priority" priority
  setUnlessNone F span "oslo_messaging.notification.event_type" eventType
  setUnlessNone F span "oslo_messaging.notification.publisher_id" publisherId

/-- `if value := ...: span.set_attribute(key, value)`. -/
def setIfTrue (span : SpanContext) (key : String) (value : Except Exn Val) :
    Code Ctx H Unit := do
  let v ← liftExcept value
  let given ← liftExcept v.truth
  onlyIf given (setAttribute F span key v)

/-- What a send records while its span is recording. -/
def setSendAttributes (isNotification : Bool) (span : SpanContext) (transport : Option String)
    (ctxt target message waitForReply : Arg) : Code Ctx H Unit := do
  let system := producerMessagingSystem transport
  setIfTrue F span "messaging.destination.name" target.topic
  setIfTrue F span "oslo_messaging.target.exchange" target.exchange
  let dicts ← getDicts
  if isNotification then do
    let eventType ← liftExcept (message.get dicts "event_type" .none)
    let priority ← liftExcept (message.get dicts "priority" .none)
    let publisherId ← liftExcept (message.get dicts "publisher_id" .none)
    setNotificationAttributes F span system "send" ctxt eventType priority publisherId
  else do
    let method ← liftExcept (message.get dicts "method" .none)
    let namespaceOf ← liftExcept (message.get dicts "namespace" .none)
    let waits ← liftExcept (waitForReply.truth dicts)
    setRpcAttributes F span ctxt method namespaceOf system (if waits then "call" else "cast")

variable [Propagator Ctx]

/-! ### Sends -/

/-- The wrapper of `Transport._send` and `Transport._send_notification`; `transport` is the
driver's name in the transport's URL. -/
def injectWrapper (isNotification : Bool) (transport : Option String)
    (wrapped : Wrapped Ctx H α) (args : Args) (kwargs : Kwargs) : Code Ctx H α := do
  mayRaise F (.other "is_instrumentation_enabled")
  let c ← getCurrent
  if !enabled c then wrapped args kwargs
  else do
    let ctxt := arg args 1 kwargs "ctxt"
    let target := arg args 0 kwargs "target"
    let message := arg args 2 kwargs "message"
    let message := if message.isMapping then message else emptyDict
    let dicts ← getDicts
    let dest ← liftExcept (sendName isNotification dicts message)
    let span ← startSpan F dest .producer none []
    mayRaise F .isRecording
    onlyIf (isRecording Ctx span)
      (setSendAttributes F isNotification span transport ctxt target message
        (arg args 3 kwargs "wait_for_reply"))
    useSpan F span do
      onlyIf ctxt.isMapping (inject F ctxt)
      wrapped args kwargs

/-! ### Dispatches -/

/-- The context a dispatch attaches: the one carried by the message, or the current one. -/
def spanContextOf (ctxt : Arg) : Code Ctx H Ctx := do
  let c ← extract F ctxt
  if Propagator.isEmpty c then do
    mayRaise F (.other "get_current")
    getCurrent
  else pure c

def rpcServerWrapper (wrapped : Wrapped Ctx H α) (args : Args) (kwargs : Kwargs) :
    Code Ctx H α := do
  mayRaise F (.other "is_instrumentation_enabled")
  let c ← getCurrent
  if !enabled c then wrapped args kwargs
  else do
    let incoming := arg args 0 kwargs "incoming"
    let dicts ← getDicts
    mayRaise F (.other "getattr ctxt")
    let ctxt ← liftExcept (incoming.ctxt.orEmpty dicts)
    mayRaise F (.other "getattr message")
    let message ← liftExcept (incoming.message.orEmpty dicts)
    let spanCtx ← spanContextOf F ctxt
    let method ← liftExcept (message.get dicts "method" (.str ""))
    let namespaceOf ← liftExcept (message.get dicts "namespace" (.str ""))
    let dest ← liftExcept (receiveName namespaceOf method)
    let token ← attach spanCtx
    tryFinally
      (do
        let span ← startSpan F dest .consumer none []
        mayRaise F (.other "_consumer_messaging_system")
        setRpcAttributes F span ctxt method namespaceOf (consumerMessagingSystem incoming)
          "receive"
        setIfTrue F span "messaging.message.id" (message.get dicts "msg_id" .none)
        useSpan F span (wrapped args kwargs))
      (detach token)

def notificationServerWrapper (wrapped : Wrapped Ctx H α) (args : Args) (kwargs : Kwargs) :
    Code Ctx H α := do
  mayRaise F (.other "is_instrumentation_enabled")
  let c ← getCurrent
  if !enabled c then wrapped args kwargs
  else do
    let incoming := arg args 0 kwargs "incoming"
    let dicts ← getDicts
    mayRaise F (.other "getattr ctxt")
    let ctxt ← liftExcept (incoming.ctxt.orEmpty dicts)
    mayRaise F (.other "getattr message")
    let message ← liftExcept (incoming.message.orEmpty dicts)
    let message := if message.isMapping then message else emptyDict
    let spanCtx ← spanContextOf F ctxt
    let eventType ← liftExcept (message.get dicts "event_type" (.str ""))
    let dest ← liftExcept eventType.format
    let token ← attach spanCtx
    tryFinally
      (do
        let span ← startSpan F (dest ++ " receive") .consumer none []
        mayRaise F (.other "_consumer_messaging_system")
        let eventType ← liftExcept (message.get dicts "event_type" .none)
        let priority ← liftExcept (message.get dicts "priority" .none)
        let publisherId ← liftExcept (message.get dicts "publisher_id" .none)
        setNotificationAttributes F span (consumerMessagingSystem incoming) "receive" ctxt
          eventType priority publisherId
        setIfTrue F span "messaging.message.id" (message.get dicts "message_id" .none)
        useSpan F span (wrapped args kwargs))
      (detach token)

end

section

variable {Ctx H : Type} [Propagator Ctx] {ctxt : Arg} {w : World Ctx H}

lemma spanContextOf_of_error {e : Exn}
    (h : (carried w.dicts ctxt : Except Exn Ctx) = .error e) :
    spanContextOf noFaults ctxt w = (.error e, w) := by
  unfold spanContextOf
  rw [bind_apply, extract_noFaults, h]

lemma spanContextOf_of_ok {c : Ctx} (h : carried w.dicts ctxt = .ok c) :
    spanContextOf noFaults ctxt w =
      (.ok (if Propagator.isEmpty c then w.current else c), w) := by
  unfold spanContextOf
  rw [bind_apply, extract_noFaults, h]
  dsimp only
  split <;> rfl

end

/-! ### Recording attributes -/

section

variable {Ctx H α : Type}

variable (F : Faults) (span : SpanContext)

lemma setText_noted (key : String) (value : Val) :
    Keeps Noted (setText F span key value : Code Ctx H Unit) :=
  Keeps.bind noted_trans (Keeps.liftExcept noted_refl _) fun _ => setAttribute_noted F span _ _

lemma setRequestId_noted (ctxt : Arg) :
    Keeps Noted (setRequestId F span ctxt : Code Ctx H Unit) := by
  unfold setRequestId
  apply Keeps.ite (Keeps.pure noted_refl ())
  apply Keeps.bind noted_trans (Keeps.reads noted_refl _)
  intro dicts
  apply Keeps.bind noted_trans (Keeps.liftExcept noted_refl _)
  intro requestId
  apply Keeps.bind noted_trans (Keeps.liftExcept noted_refl _)
  intro given
  apply Keeps.ite (Keeps.pure noted_refl ())
  apply Keeps.bind noted_trans (setText_noted F span _ _)
  intro _
  exact setText_noted F span _ _

lemma setRpcAttributes_noted (ctxt : Arg) (method namespaceOf : Val)
    (system operation : String) :
    Keeps Noted
      (setRpcAttributes F span ctxt method namespaceOf system operation : Code Ctx H Unit) := by
  unfold setRpcAttributes
  apply Keeps.bind noted_trans (setAttribute_noted F span _ _)
  intro _
  apply Keeps.bind noted_trans (setAttribute_noted F span _ _)
  intro _
  apply Keeps.bind noted_trans (setAttribute_noted F span _ _)
  intro _
  apply Keeps.bind noted_trans (setAttribute_noted F span _ _)
  intro _
  apply Keeps.bind noted_trans (Keeps.onlyIf noted_refl (setText_noted F span _ _))
  intro _
  apply Keeps.bind noted_trans (Keeps.liftExcept noted_refl _)
  intro given
  apply Keeps.bind noted_trans (Keeps.onlyIf noted_refl (setText_noted F span _ _))
  intro _
  exact setRequestId_noted F span ctxt

lemma setUnlessNone_noted (key : String) (value : Val) :
    Keeps Noted (setUnlessNone F span key value : Code Ctx H Unit) :=
  Keeps.onlyIf noted_refl (setAttribute_noted F span _ _)

lemma setNotificationAttributes_noted (system operation : String) (ctxt : Arg)
    (eventType priority publisherId : Val) :
    Keeps Noted (setNotificationAttributes F span system operation ctxt eventType priority
      publisherId : Code Ctx H Unit) := by
  unfold setNotificationAttributes
  apply Keeps.bind noted_trans (setAttribute_noted F span _ _)
  intro _
  apply Keeps.bind noted_trans (setAttribute_noted F span _ _)
  intro _
  apply Keeps.bind noted_trans (setAttribute_noted F span _ _)
  intro _
  apply Keeps.bind noted_trans (setRequestId_noted F span ctxt)
  intro _
  apply Keeps.bind noted_trans (setUnlessNone_noted F span _ _)
  intro _
  apply Keeps.bind noted_trans (setUnlessNone_noted F span _ _)
  intro _
  exact setUnlessNone_noted F span _ _

lemma setIfTrue_noted (key : String) (value : Except Exn Val) :
    Keeps Noted (setIfTrue F span key value : Code Ctx H Unit) := by
  unfold setIfTrue
  apply Keeps.bind noted_trans (Keeps.liftExcept noted_refl _)
  intro v
  apply Keeps.bind noted_trans (Keeps.liftExcept noted_refl _)
  intro given
  exact Keeps.onlyIf noted_refl (setAttribute_noted F span _ _)

lemma setSendAttributes_noted (isNotification : Bool) (transport : Option String)
    (ctxt target message waitForReply : Arg) :
    Keeps Noted (setSendAttributes F isNotification span transport ctxt target message
      waitForReply : Code Ctx H Unit) := by
  unfold setSendAttributes
  apply Keeps.bind noted_trans (setIfTrue_noted F span _ _)
  intro _
  apply Keeps.bind noted_trans (setIfTrue_noted F span _ _)
  intro _
  apply Keeps.bind noted_trans (Keeps.reads noted_refl _)
  intro dicts
  apply Keeps.ite
  · apply Keeps.bind noted_trans (Keeps.liftExcept noted_refl _)
    intro eventType
    apply Keeps.bind noted_trans (Keeps.liftExcept noted_refl _)
    intro priority
    apply Keeps.bind noted_trans (Keeps.liftExcept noted_refl _)
    intro publisherId
    exact setNotificationAttributes_noted F span _ _ _ _ _ _
  · apply Keeps.bind noted_trans (Keeps.liftExcept noted_refl _)
    intro method
    apply Keeps.bind noted_trans (Keeps.liftExcept noted_refl _)
    intro namespaceOf
    apply Keeps.bind noted_trans (Keeps.liftExcept noted_refl _)
    intro waits
    exact setRpcAttributes_noted F span _ _ _ _ _

end

end OtelOpenstack.Messaging
