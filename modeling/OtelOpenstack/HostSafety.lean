import OtelOpenstack.Messaging
import OtelOpenstack.TraceContext

/-!
What the messaging wrappers do to their host: the wrapped callable is called once, with the
arguments the wrapper was given, and what comes of it is what comes of the wrapper.

That takes values which answer the wrapper's questions. The questions are collected here
wrapper by wrapper, as the source asks them.
-/

set_option autoImplicit false

namespace OtelOpenstack.HostSafety

open Effects Python Otel ContextApi Carriers Messaging

/-! ### What a wrapper asks of the values it is given -/

def Answers {α : Type} (x : Except Exn α) : Prop := ∃ a, x = .ok a

lemma not_answers_error {α : Type} (e : Exn) : ¬ Answers (.error e : Except Exn α) := by
  rintro ⟨a, ha⟩
  cases ha

/-- `bool(v)`, and `str(v)` of a true one. -/
def AnswersText (v : Val) : Prop := ∃ b, v.truth = .ok b ∧ (b = true → Answers v.text)

/-- `bool(v)` of an attribute. -/
def AnswersTruth (x : Except Exn Val) : Prop := ∃ v, x = .ok v ∧ Answers v.truth

/-- What `_set_request_id` asks. -/
def AnswersRequestId (dicts : List Dict) (ctxt : Arg) : Prop :=
  ctxt.isMapping = true →
    ∃ requestId, ctxt.get dicts "request_id" .none = .ok requestId ∧ AnswersText requestId

/-- What `_set_rpc_attributes` asks. -/
def AnswersRpc (dicts : List Dict) (ctxt : Arg) (method namespaceOf : Val) : Prop :=
  (method ≠ .none → Answers method.text) ∧ AnswersText namespaceOf ∧
    AnswersRequestId dicts ctxt

/-- What `_set_notification_attributes` asks, and the keys it is given. -/
def AnswersNotification (dicts : List Dict) (ctxt message : Arg) : Prop :=
  Answers (message.get dicts "event_type" .none) ∧ Answers (message.get dicts "priority" .none) ∧
    Answers (message.get dicts "publisher_id" .none) ∧ AnswersRequestId dicts ctxt

/-- What naming the span of a notification send asks. -/
def AnswersEventName (dicts : List Dict) (message : Arg) : Prop :=
  ∃ eventType, message.get dicts "event_type" .none = .ok eventType ∧
    ∃ b, eventType.truth = .ok b ∧ (b = true → Answers eventType.format)

/-- What naming the span of an RPC send asks. -/
def AnswersMethodName (dicts : List Dict) (message : Arg) : Prop :=
  ∃ method, message.get dicts "method" .none = .ok method ∧
    ∃ b, method.truth = .ok b ∧ (b = true →
      ∃ namespaceOf, message.get dicts "namespace" .none = .ok namespaceOf ∧
        ∃ c, namespaceOf.truth = .ok c ∧
          if c then Answers namespaceOf.format ∧ Answers method.format else Answers method.text)

/-- What naming the span of an RPC dispatch asks. -/
def AnswersReceiveName (namespaceOf method : Val) : Prop :=
  ∃ b, namespaceOf.truth = .ok b ∧ (b = true → Answers namespaceOf.format) ∧
    Answers method.format

/-- What a send asks while its span is recording. -/
def AnswersSend (isNotification : Bool) (dicts : List Dict)
    (ctxt target message waitForReply : Arg) : Prop :=
  AnswersTruth target.topic ∧ AnswersTruth target.exchange ∧
    if isNotification then AnswersNotification dicts ctxt message
    else ∃ method namespaceOf, message.get dicts "method" .none = .ok method ∧
      message.get dicts "namespace" .none = .ok namespaceOf ∧
      Answers (waitForReply.truth dicts) ∧ AnswersRpc dicts ctxt method namespaceOf

/-- A mapping takes these items. -/
def Writable (carrier : Arg) (items : List (String × String)) : Prop :=
  match carrier with
  | .dict _ => True
  | .object _ _ _ _ set => ∀ item ∈ items, Answers (set item.1 (.str item.2))
  | _ => items = []

/-! ### Code that comes through -/

section

variable {Ctx H α β : Type}

/-- Given these dictionaries, the code returns exactly when `P`. -/
def ReturnsWhen (dicts : List Dict) (m : Code Ctx H α) (P : Prop) : Prop :=
  ∀ w, w.dicts = dicts → ((∃ a, (m w).1 = .ok a) ↔ P)

lemma ReturnsWhen.pure (dicts : List Dict) (a : α) :
    ReturnsWhen dicts (Pure.pure a : Code Ctx H α) True :=
  fun _ _ => ⟨fun _ => trivial, fun _ => ⟨a, rfl⟩⟩

lemma ReturnsWhen.congr {dicts : List Dict} {m : Code Ctx H α} {P Q : Prop}
    (hm : ReturnsWhen dicts m P) (h : P ↔ Q) : ReturnsWhen dicts m Q :=
  fun w hw => (hm w hw).trans h

lemma ReturnsWhen.lift_bind {dicts : List Dict} {x : Except Exn α} {f : α → Code Ctx H β}
    {Q : α → Prop} (hf : ∀ a, x = .ok a → ReturnsWhen dicts (f a) (Q a)) :
    ReturnsWhen dicts (liftExcept x >>= f) (∃ a, x = .ok a ∧ Q a) := by
  intro w hw
  cases x with
  | error e =>
    refine ⟨fun h => absurd h (not_answers_error e), ?_⟩
    rintro ⟨a, ha, -⟩
    cases ha
  | ok a =>
    have ha := hf a rfl w hw
    refine ⟨fun h => ⟨a, rfl, ha.mp h⟩, ?_⟩
    rintro ⟨b, hb, hQ⟩
    obtain rfl := Except.ok.inj hb
    exact ha.mpr hQ

lemma ReturnsWhen.reads_bind {dicts : List Dict} {f : List Dict → Code Ctx H β} {Q : Prop}
    (hf : ReturnsWhen dicts (f dicts) Q) : ReturnsWhen dicts (getDicts >>= f) Q := by
  rintro w rfl
  exact hf w rfl

/-- One after the other, the first recording attributes. -/
lemma ReturnsWhen.seq {dicts : List Dict} {m : Code Ctx H Unit} {n : Unit → Code Ctx H β}
    {P Q : Prop} (hnoted : Keeps Noted m) (hm : ReturnsWhen dicts m P)
    (hn : ReturnsWhen dicts (n ()) Q) : ReturnsWhen dicts (m >>= n) (P ∧ Q) := by
  intro w hw
  have hP := hm w hw
  obtain ⟨r, cs, -, hres⟩ := noted_outcome hnoted w
  have hQ := hn (w.called cs) hw
  rw [hres] at hP
  cases r with
  | error e =>
    rw [bind_of_error hres, ← hP]
    constructor
    · rintro ⟨a, ha⟩
      exact absurd ha nofun
    · rintro ⟨⟨a, ha⟩, -⟩
      exact absurd ha nofun
  | ok u =>
    have hyes : P := hP.mp ⟨u, rfl⟩
    rw [bind_of_ok hres, hQ]
    exact ⟨fun h => ⟨hyes, h⟩, And.right⟩

lemma ReturnsWhen.onlyIf {dicts : List Dict} {c : Bool} {m : Code Ctx H Unit} {P : Prop}
    (hm : ReturnsWhen dicts m P) : ReturnsWhen dicts (onlyIf c m) (c = true → P) := by
  intro w hw
  unfold Effects.onlyIf
  cases c with
  | true => simpa using hm w hw
  | false => exact ⟨fun _ h => absurd h nofun, fun _ => ⟨_, rfl⟩⟩

/-! ### The attribute functions -/

section

variable (dicts : List Dict) (span : SpanContext)

lemma returns_setAttribute (key : String) (value : Val) :
    ReturnsWhen dicts (setAttribute noFaults span key value : Code Ctx H Unit) True :=
  fun _ _ => ⟨fun _ => trivial, fun _ => ⟨(), rfl⟩⟩

lemma ReturnsWhen.set_bind {dicts : List Dict} {span : SpanContext} {key : String} {value : Val}
    {n : Unit → Code Ctx H β} {Q : Prop} (hn : ReturnsWhen dicts (n ()) Q) :
    ReturnsWhen dicts (setAttribute noFaults span key value >>= n) Q :=
  (ReturnsWhen.seq (setAttribute_noted noFaults span key value)
    (returns_setAttribute dicts span key value) hn).congr (by simp)

lemma returns_setText (key : String) (value : Val) :
    ReturnsWhen dicts (setText noFaults span key value : Code Ctx H Unit)
      (Answers value.text) := by
  have h : ReturnsWhen dicts (setText noFaults span key value : Code Ctx H Unit)
      (∃ t, value.text = .ok t ∧ True) :=
    ReturnsWhen.lift_bind fun t _ => returns_setAttribute dicts span key (.str t)
  simpa [Answers] using h

lemma returns_setIfTrue (key : String) (value : Except Exn Val) :
    ReturnsWhen dicts (setIfTrue noFaults span key value : Code Ctx H Unit)
      (AnswersTruth value) := by
  have h : ReturnsWhen dicts (setIfTrue noFaults span key value : Code Ctx H Unit)
      (∃ v, value = .ok v ∧ ∃ b, v.truth = .ok b ∧ (b = true → True)) := by
    apply ReturnsWhen.lift_bind
    intro v _
    apply ReturnsWhen.lift_bind
    intro b _
    exact ReturnsWhen.onlyIf (returns_setAttribute dicts span key v)
  simpa [AnswersTruth, Answers] using h

lemma returns_setRequestId (ctxt : Arg) :
    ReturnsWhen dicts (setRequestId noFaults span ctxt : Code Ctx H Unit)
      (AnswersRequestId dicts ctxt) := by
  unfold setRequestId AnswersRequestId AnswersText
  cases ctxt.isMapping with
  | false => exact (ReturnsWhen.pure dicts ()).congr (by simp)
  | true =>
    apply ReturnsWhen.congr (P := ∃ requestId, ctxt.get dicts "request_id" .none = .ok requestId ∧
      ∃ b, requestId.truth = .ok b ∧ (b = true → Answers requestId.text))
    · apply ReturnsWhen.reads_bind
      apply ReturnsWhen.lift_bind
      intro requestId _
      apply ReturnsWhen.lift_bind
      intro b _
      cases b with
      | false => exact (ReturnsWhen.pure dicts ()).congr (by simp)
      | true =>
        apply ReturnsWhen.congr (P := Answers requestId.text ∧ Answers requestId.text)
        · apply ReturnsWhen.seq (setText_noted noFaults span _ _)
          · exact returns_setText dicts span _ requestId
          · exact returns_setText dicts span _ requestId
        · simp
    · simp

lemma returns_setUnlessNone (key : String) (value : Val) :
    ReturnsWhen dicts (setUnlessNone noFaults span key value : Code Ctx H Unit) True :=
  (ReturnsWhen.onlyIf (returns_setAttribute dicts span key value)).congr (by simp)

lemma returns_setRpcAttributes (ctxt : Arg) (method namespaceOf : Val)
    (system operation : String) :
    ReturnsWhen dicts
      (setRpcAttributes noFaults span ctxt method namespaceOf system operation :
        Code Ctx H Unit)
      (AnswersRpc dicts ctxt method namespaceOf) := by
  unfold setRpcAttributes AnswersRpc AnswersText
  apply ReturnsWhen.set_bind
  apply ReturnsWhen.set_bind
  apply ReturnsWhen.set_bind
  apply ReturnsWhen.set_bind
  apply ReturnsWhen.congr (P := (decide (method ≠ .none) = true → Answers method.text) ∧
    ∃ b, namespaceOf.truth = .ok b ∧ (b = true → Answers namespaceOf.text) ∧
      AnswersRequestId dicts ctxt)
  · apply ReturnsWhen.seq (Keeps.onlyIf noted_refl (setText_noted noFaults span _ _))
    · exact ReturnsWhen.onlyIf (returns_setText dicts span _ method)
    · apply ReturnsWhen.lift_bind
      intro b _
      apply ReturnsWhen.seq (Keeps.onlyIf noted_refl (setText_noted noFaults span _ _))
      · exact ReturnsWhen.onlyIf (returns_setText dicts span _ namespaceOf)
      · exact returns_setRequestId dicts span ctxt
  · simp only [decide_eq_true_eq]
    constructor
    · rintro ⟨hmethod, b, hb, hns, hid⟩
      exact ⟨hmethod, ⟨b, hb, hns⟩, hid⟩
    · rintro ⟨hmethod, ⟨b, hb, hns⟩, hid⟩
      exact ⟨hmethod, b, hb, hns, hid⟩

lemma returns_setNotificationAttributes (system operation : String) (ctxt : Arg)
    (eventType priority publisherId : Val) :
    ReturnsWhen dicts (setNotificationAttributes noFaults span system operation ctxt eventType
      priority publisherId : Code Ctx H Unit) (AnswersRequestId dicts ctxt) := by
  unfold setNotificationAttributes
  apply ReturnsWhen.set_bind
  apply ReturnsWhen.set_bind
  apply ReturnsWhen.set_bind
  apply ReturnsWhen.congr (P := AnswersRequestId dicts ctxt ∧ True ∧ True ∧ True)
  · apply ReturnsWhen.seq (setRequestId_noted noFaults span ctxt)
    · exact returns_setRequestId dicts span ctxt
    · apply ReturnsWhen.seq (setUnlessNone_noted noFaults span _ _)
      · exact returns_setUnlessNone dicts span _ _
      · apply ReturnsWhen.seq (setUnlessNone_noted noFaults span _ _)
        · exact returns_setUnlessNone dicts span _ _
        · exact returns_setUnlessNone dicts span _ _
  · simp

/-- Reading the three keys and recording them. -/
lemma returns_readNotification (m : Arg) {f : Val → Val → Val → Code Ctx H β} {Q : Prop}
    (hf : ∀ a b c, ReturnsWhen dicts (f a b c) Q) :
    ReturnsWhen dicts
      (do
        let eventType ← liftExcept (m.get dicts "event_type" .none)
        let priority ← liftExcept (m.get dicts "priority" .none)
        let publisherId ← liftExcept (m.get dicts "publisher_id" .none)
        f eventType priority publisherId)
      (Answers (m.get dicts "event_type" .none) ∧ Answers (m.get dicts "priority" .none) ∧
        Answers (m.get dicts "publisher_id" .none) ∧ Q) := by
  apply ReturnsWhen.congr (P := ∃ a, m.get dicts "event_type" .none = .ok a ∧
    ∃ b, m.get dicts "priority" .none = .ok b ∧
      ∃ c, m.get dicts "publisher_id" .none = .ok c ∧ Q)
  · apply ReturnsWhen.lift_bind
    intro a _
    apply ReturnsWhen.lift_bind
    intro b _
    apply ReturnsWhen.lift_bind
    intro c _
    exact hf a b c
  · simp [Answers]

lemma returns_setSendAttributes (isNotification : Bool) (transport : Option String)
    (ctxt target message waitForReply : Arg) :
    ReturnsWhen dicts (setSendAttributes noFaults isNotification span transport ctxt target
        message waitForReply : Code Ctx H Unit)
      (AnswersSend isNotification dicts ctxt target message waitForReply) := by
  unfold setSendAttributes AnswersSend
  apply ReturnsWhen.seq (setIfTrue_noted noFaults span _ _) (returns_setIfTrue dicts span _ _)
  apply ReturnsWhen.seq (setIfTrue_noted noFaults span _ _) (returns_setIfTrue dicts span _ _)
  apply ReturnsWhen.reads_bind
  cases isNotification with
  | true =>
    exact returns_readNotification dicts message fun a b c =>
      returns_setNotificationAttributes dicts span _ _ ctxt a b c
  | false =>
    apply ReturnsWhen.congr (P := ∃ method, message.get dicts "method" .none = .ok method ∧
      ∃ namespaceOf, message.get dicts "namespace" .none = .ok namespaceOf ∧
        ∃ b, waitForReply.truth dicts = .ok b ∧ AnswersRpc dicts ctxt method namespaceOf)
    · apply ReturnsWhen.lift_bind
      intro method _
      apply ReturnsWhen.lift_bind
      intro namespaceOf _
      apply ReturnsWhen.lift_bind
      intro b _
      exact returns_setRpcAttributes dicts span ctxt method namespaceOf _ _
    · simp [Answers]

end

/-! ### The names of the spans -/

lemma answers_bind {x : Except Exn α} {f : α → Except Exn β} :
    Answers (x >>= f) ↔ ∃ a, x = .ok a ∧ Answers (f a) := by
  constructor
  · rintro ⟨b, hb⟩
    obtain ⟨a, ha, hf⟩ := of_bind_ok hb
    exact ⟨a, ha, b, hf⟩
  · rintro ⟨a, rfl, h⟩
    exact h

lemma answers_pure (a : α) : Answers (pure a : Except Exn α) := ⟨a, rfl⟩

lemma answers_map {x : Except Exn α} {f : α → Except Exn β} (hf : ∀ a, Answers (f a)) :
    Answers (x >>= f) ↔ Answers x := by
  rw [answers_bind]
  exact ⟨fun ⟨a, ha, _⟩ => ⟨a, ha⟩, fun ⟨a, ha⟩ => ⟨a, ha, hf a⟩⟩

lemma answers_fmap {x : Except Exn α} {f : α → β} : Answers (f <$> x) ↔ Answers x := by
  cases x with
  | error e =>
    exact ⟨fun h => absurd h (not_answers_error e), fun h => absurd h (not_answers_error e)⟩
  | ok a => exact ⟨fun _ => ⟨a, rfl⟩, fun _ => ⟨f a, rfl⟩⟩

lemma answers_dotted (namespaceOf method : Val) :
    Answers (dotted namespaceOf method) ↔
      Answers namespaceOf.format ∧ Answers method.format := by
  unfold dotted
  rw [answers_bind]
  constructor
  · rintro ⟨n, hn, h⟩
    exact ⟨⟨n, hn⟩, (answers_map fun m => answers_pure _).mp h⟩
  · rintro ⟨⟨n, hn⟩, h⟩
    exact ⟨n, hn, (answers_map fun m => answers_pure _).mpr h⟩

lemma answers_eventName (dicts : List Dict) (message : Arg) :
    Answers (sendName true dicts message) ↔ AnswersEventName dicts message := by
  unfold sendName AnswersEventName
  rw [if_pos rfl, answers_bind]
  apply exists_congr
  intro eventType
  apply and_congr_right
  intro _
  rw [answers_bind]
  apply exists_congr
  intro b
  apply and_congr_right
  intro _
  cases b with
  | false => simp [answers_pure]
  | true => simp [answers_fmap]

lemma answers_rpcMethod (dicts : List Dict) {message : Arg} (h : message.isMapping = true) :
    Answers (rpcMethod dicts message) ↔ AnswersMethodName dicts message := by
  unfold rpcMethod AnswersMethodName
  rw [h, if_neg (by decide), answers_bind]
  apply exists_congr
  intro method
  apply and_congr_right
  intro _
  rw [answers_bind]
  apply exists_congr
  intro b
  apply and_congr_right
  intro _
  cases b with
  | false => simp [answers_pure]
  | true =>
    rw [if_neg (by decide), answers_bind]
    simp only [true_implies]
    apply exists_congr
    intro namespaceOf
    apply and_congr_right
    intro _
    rw [answers_bind]
    apply exists_congr
    intro c
    apply and_congr_right
    intro _
    cases c with
    | false => simp [answers_fmap]
    | true => simp [answers_fmap, answers_dotted]

lemma answers_methodName (dicts : List Dict) {message : Arg} (h : message.isMapping = true) :
    Answers (sendName false dicts message) ↔ AnswersMethodName dicts message := by
  rw [← answers_rpcMethod dicts h]
  unfold sendName
  rw [if_neg (by decide)]
  apply answers_map
  intro name
  cases name with
  | none => exact answers_pure _
  | some name =>
    by_cases hname : name = ""
    · simp [hname, answers_pure]
    · simp [hname, answers_pure]

lemma answers_receiveName (namespaceOf method : Val) :
    Answers (receiveName namespaceOf method) ↔ AnswersReceiveName namespaceOf method := by
  unfold receiveName AnswersReceiveName
  rw [answers_bind]
  apply exists_congr
  intro b
  apply and_congr_right
  intro _
  cases b with
  | false => simp [answers_fmap]
  | true => simp [answers_fmap, answers_dotted]

/-! ### Injection -/

lemma setItems_outcome (carrier : Arg) (items : List (String × String)) (w : World Ctx H) :
    (∃ dicts, (setItems carrier items w).2 = { w with dicts }) ∧
      (Answers (setItems carrier items w).1 ↔ Writable carrier items) := by
  cases carrier with
  | dict ref =>
    refine ⟨?_, fun _ => trivial, fun _ => ?_⟩
    · induction items generalizing w with
      | nil => exact ⟨w.dicts, rfl⟩
      | cons item items ih => exact ih _
    · induction items generalizing w with
      | nil => exact ⟨(), rfl⟩
      | cons item items ih => exact ih _ trivial
  | object mapping truth get items' set =>
    induction items with
    | nil => exact ⟨⟨w.dicts, rfl⟩, fun _ => nofun, fun _ => ⟨(), rfl⟩⟩
    | cons item items ih =>
      simp only [setItems, setItem, bind_apply, liftExcept_apply]
      rcases hset : set item.1 (.str item.2) with e | u
      · refine ⟨⟨w.dicts, rfl⟩, fun h => absurd h (not_answers_error e), fun h => ?_⟩
        have hitem := h item (List.mem_cons_self ..)
        rw [hset] at hitem
        exact absurd hitem (not_answers_error e)
      · refine ⟨ih.1, ih.2.trans ?_⟩
        have hitem : Answers (set item.1 (.str item.2)) := ⟨u, hset⟩
        simp [Writable, hitem]
  | _ =>
    cases items with
    | nil => exact ⟨⟨w.dicts, rfl⟩, fun _ => rfl, fun _ => ⟨(), rfl⟩⟩
    | cons item items =>
      refine ⟨⟨w.dicts, rfl⟩, fun h => absurd h (not_answers_error _), fun h => ?_⟩
      exact absurd h (List.cons_ne_nil _ _)

lemma inject_outcome [Propagator Ctx] (c : Bool) (carrier : Arg) (w : World Ctx H) :
    (∃ dicts, (onlyIf c (inject noFaults carrier) w).2 = { w with dicts }) ∧
      (Answers (onlyIf c (inject noFaults carrier) w).1 ↔
        (c = true → Writable carrier (Propagator.headers w.current))) := by
  cases c with
  | false => exact ⟨⟨w.dicts, rfl⟩, fun _ h => absurd h nofun, fun _ => ⟨_, rfl⟩⟩
  | true =>
    have h := setItems_outcome carrier (Propagator.headers w.current) w
    exact ⟨h.1, h.2.trans ⟨fun hw _ => hw, fun hw => hw rfl⟩⟩

/-! ### The wrapped callable and its host -/

/-- What the wrapped callable was called with, and the program's own state. -/
structure Host (H : Type) where
  received : List (Args × Kwargs)
  app : H

/-- The world without the record of what was received. -/
def seen (w : World Ctx (Host H)) : World Ctx H := ⟨w.current, w.calls, w.dicts, w.host.app⟩

/-- The wrapped callable, its calls on record. -/
def original (wrapped : Wrapped Ctx H α) : Wrapped Ctx (Host H) α := fun args kwargs w =>
  let out := wrapped args kwargs (seen w)
  (out.1, ⟨out.2.current, out.2.calls, out.2.dicts,
    ⟨w.host.received ++ [(args, kwargs)], out.2.host⟩⟩)

/-- The wrapped callable was called once and with these arguments, what came of it is what comes
out, and the spans started around it have been ended. -/
def CalledOnce (wrapped : Wrapped Ctx H α) (args : Args) (kwargs : Kwargs)
    (w : World Ctx (Host H)) (out : Except Exn α × World Ctx (Host H)) : Prop :=
  out.2.host.received = w.host.received ++ [(args, kwargs)] ∧
    ∃ called : World Ctx H, called.host = w.host.app ∧
      out.1 = (wrapped args kwargs called).1 ∧
      out.2.host.app = (wrapped args kwargs called).2.host ∧
      ∃ before after, called.calls = w.calls ++ before ∧
        out.2.calls = (wrapped args kwargs called).2.calls ++ after ∧
        ∀ span ∈ startedSpans (before ++ after), span ∈ finishedSpans (before ++ after)

/-- Either `P`, and the callable is called once, or not `P`, and it is not called at all. -/
def Decided (wrapped : Wrapped Ctx H α) (args : Args) (kwargs : Kwargs)
    (w v : World Ctx (Host H)) (m : Code Ctx (Host H) α) (P : Prop) : Prop :=
  (P ∧ CalledOnce wrapped args kwargs w (m v)) ∨ (¬ P ∧ (m v).2.host = w.host)

section

variable {wrapped : Wrapped Ctx H α} {args : Args} {kwargs : Kwargs}
  {w v : World Ctx (Host H)}

lemma Decided.iff {m : Code Ctx (Host H) α} {P : Prop}
    (h : Decided wrapped args kwargs w v m P) : CalledOnce wrapped args kwargs w (m v) ↔ P := by
  rcases h with ⟨hP, hcalled⟩ | ⟨hP, hhost⟩
  · exact ⟨fun _ => hP, fun _ => hcalled⟩
  · refine ⟨fun hcalled => ?_, fun h => absurd h hP⟩
    have hlen := congrArg List.length hcalled.1
    rw [hhost] at hlen
    simp at hlen

lemma Decided.congr {m : Code Ctx (Host H) α} {P Q : Prop}
    (h : Decided wrapped args kwargs w v m P) (hPQ : P ↔ Q) :
    Decided wrapped args kwargs w v m Q := by
  unfold Decided at h ⊢
  rwa [← hPQ]

lemma Decided.lift_bind {β : Type} {x : Except Exn β} {f : β → Code Ctx (Host H) α}
    {Q : β → Prop} (hhost : v.host = w.host)
    (hf : ∀ b, x = .ok b → Decided wrapped args kwargs w v (f b) (Q b)) :
    Decided wrapped args kwargs w v (liftExcept x >>= f) (∃ b, x = .ok b ∧ Q b) := by
  cases x with
  | error e =>
    right
    refine ⟨?_, hhost⟩
    rintro ⟨b, hb, -⟩
    exact absurd hb nofun
  | ok b =>
    rcases hf b rfl with ⟨hQ, hcalled⟩ | ⟨hQ, hkept⟩
    · exact Or.inl ⟨⟨b, rfl, hQ⟩, hcalled⟩
    · right
      refine ⟨?_, hkept⟩
      rintro ⟨c, hc, hQc⟩
      obtain rfl := Except.ok.inj hc
      exact hQ hQc

lemma Decided.answers_bind {β : Type} {x : Except Exn β} {f : β → Code Ctx (Host H) α}
    {Q : Prop} (hhost : v.host = w.host)
    (hf : ∀ b, x = .ok b → Decided wrapped args kwargs w v (f b) Q) :
    Decided wrapped args kwargs w v (liftExcept x >>= f) (Answers x ∧ Q) :=
  (Decided.lift_bind hhost hf).congr (by simp [Answers])

/-- After attributes are recorded. -/
lemma Decided.seq {m : Code Ctx (Host H) Unit} {f : Unit → Code Ctx (Host H) α} {P Q : Prop}
    (hhost : v.host = w.host) (hnoted : Keeps Noted m) (hm : ReturnsWhen v.dicts m P)
    (hf : ∀ cs, startedSpans cs = [] →
      Decided wrapped args kwargs w (v.called cs) (f ()) Q) :
    Decided wrapped args kwargs w v (m >>= f) (P ∧ Q) := by
  have hP := hm v rfl
  obtain ⟨r, cs, hcs, hres⟩ := noted_outcome hnoted v
  rw [hres] at hP
  cases r with
  | error e =>
    right
    rw [bind_of_error hres]
    refine ⟨fun h => ?_, hhost⟩
    obtain ⟨a, ha⟩ := hP.mpr h.1
    exact absurd ha nofun
  | ok u =>
    have hyes : P := hP.mp ⟨u, rfl⟩
    unfold Decided
    rw [bind_of_ok hres]
    rcases hf cs hcs with ⟨hQ, hcalled⟩ | ⟨hQ, hkept⟩
    · exact Or.inl ⟨⟨hyes, hQ⟩, hcalled⟩
    · exact Or.inr ⟨fun h => hQ h.2, hkept⟩

/-- What a dispatch attaches is nothing to the host. -/
lemma Decided.tryFinally {m : Code Ctx (Host H) α} {P : Prop} (t : Token Ctx)
    (h : Decided wrapped args kwargs w v m P) :
    Decided wrapped args kwargs w v (tryFinally m (detach t)) P := by
  unfold Decided Effects.tryFinally
  unfold Decided at h
  rcases hm : m v with ⟨r, u⟩
  rw [hm] at h
  exact h

lemma Decided.mayRaise_bind {s : Step} {f : Unit → Code Ctx (Host H) α} {P : Prop}
    (h : Decided wrapped args kwargs w v (f ()) P) :
    Decided wrapped args kwargs w v (mayRaise noFaults s >>= f) P := h

lemma Decided.reads_bind {β : Type} {g : World Ctx (Host H) → β}
    {f : β → Code Ctx (Host H) α} {P : Prop} (h : Decided wrapped args kwargs w v (f (g v)) P) :
    Decided wrapped args kwargs w v (reads g >>= f) P := h

lemma Decided.guard [ContextApi Ctx] {what : String} {off on : Code Ctx (Host H) α} {P : Prop}
    (hon : enabled v.current = true) (h : Decided wrapped args kwargs w v on P) :
    Decided wrapped args kwargs w v
      (do
        mayRaise noFaults (.other what)
        let c ← getCurrent
        if !enabled c then off else on) P := by
  unfold Decided
  rw [guard_on hon]
  exact h

lemma Decided.attach_bind {c : Ctx} {f : Token Ctx → Code Ctx (Host H) α} {P : Prop}
    (h : Decided wrapped args kwargs w { v with current := c } (f ⟨v.current⟩) P) :
    Decided wrapped args kwargs w v (attach c >>= f) P := h

/-- Without its guard a wrapper is just the callable. -/
lemma calledOnce_original (wrapped : Wrapped Ctx H α) (args : Args) (kwargs : Kwargs)
    (w : World Ctx (Host H)) :
    CalledOnce wrapped args kwargs w (original wrapped args kwargs w) :=
  ⟨rfl, seen w, rfl, rfl, rfl, [], [], (List.append_nil _).symm, (List.append_nil _).symm, nofun⟩

variable [Propagator Ctx]

/-- The last step of every wrapper: the callable in the current span. -/
lemma Decided.inSpan {before : List Call} {span : SpanContext} (hhost : v.host = w.host)
    (hcalls : v.calls = w.calls ++ before) (hspan : startedSpans before = [span])
    {c : Bool} {carrier : Arg} :
    Decided wrapped args kwargs w v
      (useSpan noFaults span do
        onlyIf c (inject noFaults carrier)
        original wrapped args kwargs)
      (c = true → Writable carrier (Propagator.headers (setSpan span v.current))) := by
  unfold Decided
  rw [useSpan_noFaults]
  obtain ⟨⟨dicts, hstate⟩, hanswers⟩ :=
    inject_outcome c carrier { v with current := setSpan span v.current }
  rcases hres : onlyIf c (inject noFaults carrier)
    { v with current := setSpan span v.current } with ⟨e | u, t⟩ <;>
    rw [hres] at hstate hanswers <;> obtain rfl := hstate
  · right
    rw [bind_of_error hres]
    refine ⟨fun hw => ?_, hhost⟩
    exact not_answers_error e (hanswers.mpr hw)
  · left
    rw [bind_of_ok hres]
    refine ⟨hanswers.mp ⟨u, rfl⟩, ?_, ?_⟩
    · change v.host.received ++ _ = _
      rw [hhost]
    · refine ⟨seen { v with current := setSpan span v.current, dicts }, ?_, rfl, rfl, before,
        closing Ctx span (wrapped args kwargs _).1, hcalls, rfl, ?_⟩
      · change v.host.app = _
        rw [hhost]
      · intro s hs
        rw [startedSpans_append, hspan, startedSpans_closing, List.append_nil] at hs
        obtain rfl := List.mem_singleton.mp hs
        exact mem_finishedSpans.mpr (List.mem_append_right _ (finish_mem_closing s _))

lemma Decided.callable (before : List Call) {span : SpanContext} (hhost : v.host = w.host)
    (hcalls : v.calls = w.calls ++ before) (hspan : startedSpans before = [span]) :
    Decided wrapped args kwargs w v (useSpan noFaults span (original wrapped args kwargs))
      True := by
  have h : Decided wrapped args kwargs w v
      (useSpan noFaults span do
        onlyIf false (inject noFaults emptyDict)
        original wrapped args kwargs) _ := Decided.inSpan hhost hcalls hspan
  exact h.congr (by simp)

lemma Decided.start_bind {name : String} {kind : SpanKind}
    {f : SpanContext → Code Ctx (Host H) α} {P : Prop}
    (h : Decided wrapped args kwargs w
      (v.called [.start (newSpan v.calls (spanIn v.current)) (spanIn v.current) name kind []])
      (f (newSpan v.calls (spanIn v.current))) P) :
    Decided wrapped args kwargs w v (startSpan noFaults name kind none [] >>= f) P := h

lemma Decided.spanContext_bind {ctxt : Arg} {f : Ctx → Code Ctx (Host H) α} {Q : Prop}
    (hhost : v.host = w.host) (h : ∀ c, Decided wrapped args kwargs w v (f c) Q) :
    Decided wrapped args kwargs w v (spanContextOf noFaults ctxt >>= f)
      (Answers (carried v.dicts ctxt : Except Exn Ctx) ∧ Q) := by
  rcases hx : (carried v.dicts ctxt : Except Exn Ctx) with e | c
  · right
    rw [bind_of_error (spanContextOf_of_error hx)]
    exact ⟨fun hP => not_answers_error e hP.1, hhost⟩
  · unfold Decided
    rw [bind_of_ok (spanContextOf_of_ok hx)]
    exact (h _).congr ⟨fun hQ => ⟨⟨c, rfl⟩, hQ⟩, And.right⟩

end

/-! ### The four wrappers -/

inductive Wrapper | rpcSend | notificationSend | rpcDispatch | notificationDispatch

variable [Propagator Ctx]

def Wrapper.run (wrapper : Wrapper) (transport : Option String) (wrapped : Wrapped Ctx H α) :
    Wrapped Ctx H α :=
  match wrapper with
  | .rpcSend => injectWrapper noFaults false transport wrapped
  | .notificationSend => injectWrapper noFaults true transport wrapped
  | .rpcDispatch => rpcServerWrapper noFaults wrapped
  | .notificationDispatch => notificationServerWrapper noFaults wrapped

/-- Everything a send asks is answered, and its `ctxt` takes what is injected. -/
def HarmlessSend (isNotification : Bool) (args : Args) (kwargs : Kwargs) (w : World Ctx H) :
    Prop :=
  let ctxt := arg args 1 kwargs "ctxt"
  let target := arg args 0 kwargs "target"
  let message := arg args 2 kwargs "message"
  let message := if message.isMapping then message else emptyDict
  let span := newSpan w.calls (spanIn w.current)
  (if isNotification then AnswersEventName w.dicts message
    else AnswersMethodName w.dicts message) ∧
  (isRecording Ctx span = true →
    AnswersSend isNotification w.dicts ctxt target message
      (arg args 3 kwargs "wait_for_reply")) ∧
  (ctxt.isMapping = true → Writable ctxt (Propagator.headers (setSpan span w.current)))

lemma isMapping_orElse (message : Arg) :
    (if message.isMapping then message else emptyDict).isMapping = true := by
  cases h : message.isMapping with
  | true => rw [if_pos rfl, h]
  | false => rfl

lemma answers_sendName (isNotification : Bool) (dicts : List Dict) {message : Arg}
    (h : message.isMapping = true) :
    Answers (sendName isNotification dicts message) ↔
      if isNotification then AnswersEventName dicts message
      else AnswersMethodName dicts message := by
  cases isNotification with
  | true => exact answers_eventName dicts message
  | false => exact answers_methodName dicts h

section

variable (transport : Option String) (wrapped : Wrapped Ctx H α) (args : Args) (kwargs : Kwargs)
  (w : World Ctx (Host H))

/-- The end of a dispatch: the message's id, and the callable in the current span. -/
lemma decided_messageId {wrapped : Wrapped Ctx H α} {args : Args} {kwargs : Kwargs}
    {w : World Ctx (Host H)} {c : Ctx} {span parent : SpanContext} {name key : String}
    (value : Except Exn Val) {cs : List Call} (hcs : startedSpans cs = []) :
    Decided wrapped args kwargs w
      ((({ w with current := c }).called [.start span parent name .consumer []]).called cs)
      (do
        setIfTrue noFaults span key value
        useSpan noFaults span (original wrapped args kwargs))
      (AnswersTruth value) := by
  apply Decided.congr (P := AnswersTruth value ∧ True)
  · refine Decided.seq (by rfl) (setIfTrue_noted noFaults _ _ _) ?_ ?_
    · exact returns_setIfTrue _ _ _ _
    · intro ds hds
      refine Decided.callable ([.start span parent name .consumer []] ++ cs ++ ds) (by rfl) ?_ ?_
      · simp [World.called]
      · rw [startedSpans_append, startedSpans_append, hcs, hds]
        rfl
  · simp

lemma decided_send (isNotification : Bool) (h : enabled w.current = true) :
    Decided wrapped args kwargs w w
      (injectWrapper noFaults isNotification transport (original wrapped) args kwargs)
      (HarmlessSend isNotification args kwargs w) := by
  unfold injectWrapper HarmlessSend
  apply Decided.guard h
  apply Decided.reads_bind
  dsimp only
  rw [← answers_sendName isNotification w.dicts (isMapping_orElse _)]
  apply Decided.answers_bind rfl
  intro dest _
  apply Decided.start_bind
  apply Decided.mayRaise_bind
  refine Decided.seq (by rfl) ?_ ?_ ?_
  · exact Keeps.onlyIf noted_refl (setSendAttributes_noted noFaults _ _ _ _ _ _ _)
  · exact ReturnsWhen.onlyIf (returns_setSendAttributes w.dicts _ _ _ _ _ _ _)
  · intro cs hcs
    refine Decided.inSpan (by rfl) (List.append_assoc w.calls _ cs) ?_
    rw [startedSpans_append, hcs]
    rfl

/-- What both dispatches ask before they attach the message's context. -/
lemma decided_received (incoming : Arg) {off : Code Ctx (Host H) α}
    {rest : List Dict → Arg → Arg → Ctx → Code Ctx (Host H) α} {Q : Arg → Arg → Prop}
    (h : enabled w.current = true)
    (hrest : ∀ ctxt message spanCtx,
      Decided wrapped args kwargs w w (rest w.dicts ctxt message spanCtx) (Q ctxt message)) :
    Decided wrapped args kwargs w w
      (do
        mayRaise noFaults (.other "is_instrumentation_enabled")
        let c ← getCurrent
        if !enabled c then off
        else do
          let dicts ← getDicts
          mayRaise noFaults (.other "getattr ctxt")
          let ctxt ← liftExcept (incoming.ctxt.orEmpty dicts)
          mayRaise noFaults (.other "getattr message")
          let message ← liftExcept (incoming.message.orEmpty dicts)
          let spanCtx ← spanContextOf noFaults ctxt
          rest dicts ctxt message spanCtx)
      (∃ ctxt, incoming.ctxt.orEmpty w.dicts = .ok ctxt ∧
        ∃ message, incoming.message.orEmpty w.dicts = .ok message ∧
        Answers (carried w.dicts ctxt : Except Exn Ctx) ∧ Q ctxt message) := by
  apply Decided.guard h
  apply Decided.reads_bind
  apply Decided.mayRaise_bind
  apply Decided.lift_bind rfl
  intro ctxt _
  apply Decided.mayRaise_bind
  apply Decided.lift_bind rfl
  intro message _
  apply Decided.spanContext_bind rfl
  intro spanCtx
  exact hrest ctxt message spanCtx

/-- Everything an RPC dispatch asks is answered. -/
def HarmlessRpcDispatch (args : Args) (kwargs : Kwargs) (w : World Ctx H) : Prop :=
  let incoming := arg args 0 kwargs "incoming"
  ∃ ctxt, incoming.ctxt.orEmpty w.dicts = .ok ctxt ∧
  ∃ message, incoming.message.orEmpty w.dicts = .ok message ∧
  Answers (carried w.dicts ctxt : Except Exn Ctx) ∧
  ∃ method, message.get w.dicts "method" (.str "") = .ok method ∧
  ∃ namespaceOf, message.get w.dicts "namespace" (.str "") = .ok namespaceOf ∧
  AnswersReceiveName namespaceOf method ∧ AnswersRpc w.dicts ctxt method namespaceOf ∧
  AnswersTruth (message.get w.dicts "msg_id" .none)

lemma decided_rpcDispatch (h : enabled w.current = true) :
    Decided wrapped args kwargs w w (rpcServerWrapper noFaults (original wrapped) args kwargs)
      (HarmlessRpcDispatch args kwargs w) := by
  unfold rpcServerWrapper HarmlessRpcDispatch
  apply decided_received _ _ _ _ (arg args 0 kwargs "incoming") h
  intro ctxt message spanCtx
  apply Decided.lift_bind rfl
  intro method _
  apply Decided.lift_bind rfl
  intro namespaceOf _
  rw [← answers_receiveName]
  apply Decided.answers_bind rfl
  intro dest _
  apply Decided.attach_bind
  apply Decided.tryFinally
  apply Decided.start_bind
  apply Decided.mayRaise_bind
  refine Decided.seq (by rfl) (setRpcAttributes_noted noFaults _ _ _ _ _ _) ?_ ?_
  · exact returns_setRpcAttributes w.dicts _ _ _ _ _ _
  · intro cs hcs
    exact decided_messageId _ hcs

/-- Everything a notification dispatch asks is answered. -/
def HarmlessNotificationDispatch (args : Args) (kwargs : Kwargs) (w : World Ctx H) : Prop :=
  let incoming := arg args 0 kwargs "incoming"
  ∃ ctxt, incoming.ctxt.orEmpty w.dicts = .ok ctxt ∧
  ∃ received, incoming.message.orEmpty w.dicts = .ok received ∧
  let message := if received.isMapping then received else emptyDict
  Answers (carried w.dicts ctxt : Except Exn Ctx) ∧
  ∃ eventType, message.get w.dicts "event_type" (.str "") = .ok eventType ∧
  Answers eventType.format ∧ AnswersNotification w.dicts ctxt message ∧
  AnswersTruth (message.get w.dicts "message_id" .none)

lemma decided_notificationDispatch (h : enabled w.current = true) :
    Decided wrapped args kwargs w w
      (notificationServerWrapper noFaults (original wrapped) args kwargs)
      (HarmlessNotificationDispatch args kwargs w) := by
  unfold notificationServerWrapper HarmlessNotificationDispatch
  apply decided_received _ _ _ _ (arg args 0 kwargs "incoming") h
  intro ctxt received spanCtx
  apply Decided.lift_bind rfl
  intro eventType _
  apply Decided.answers_bind rfl
  intro dest _
  apply Decided.attach_bind
  apply Decided.tryFinally
  apply Decided.start_bind
  apply Decided.mayRaise_bind
  unfold AnswersNotification
  simp only [and_assoc]
  apply Decided.answers_bind (by rfl)
  intro eventType' _
  apply Decided.answers_bind (by rfl)
  intro priority _
  apply Decided.answers_bind (by rfl)
  intro publisherId _
  refine Decided.seq (by rfl) (setNotificationAttributes_noted noFaults _ _ _ _ _ _ _) ?_ ?_
  · exact returns_setNotificationAttributes w.dicts _ _ _ _ _ _ _
  · intro cs hcs
    exact decided_messageId _ hcs

/-- Everything the wrapper asks is answered, or it asks nothing. -/
def Harmless (wrapper : Wrapper) (args : Args) (kwargs : Kwargs) (w : World Ctx H) : Prop :=
  enabled w.current = true → match wrapper with
    | .rpcSend => HarmlessSend false args kwargs w
    | .notificationSend => HarmlessSend true args kwargs w
    | .rpcDispatch => HarmlessRpcDispatch args kwargs w
    | .notificationDispatch => HarmlessNotificationDispatch args kwargs w

/-- **Messaging telemetry and its host.** A wrapper calls the wrapped callable once, with the
arguments it was given, hands on what came of it, and ends the span it started, exactly when
every question it asks of the values it is given is answered. -/
theorem calledOnce_iff (wrapper : Wrapper) :
    CalledOnce wrapped args kwargs w (wrapper.run transport (original wrapped) args kwargs w) ↔
      Harmless wrapper args kwargs w := by
  unfold Harmless
  cases h : enabled w.current with
  | false =>
    have hout : wrapper.run transport (original wrapped) args kwargs w =
        original wrapped args kwargs w := by
      cases wrapper <;> exact guard_off h
    rw [hout]
    exact ⟨fun _ h => absurd h nofun, fun _ => calledOnce_original wrapped args kwargs w⟩
  | true =>
    simp only [true_implies]
    cases wrapper with
    | rpcSend => exact (decided_send transport wrapped args kwargs w false h).iff
    | notificationSend => exact (decided_send transport wrapped args kwargs w true h).iff
    | rpcDispatch => exact (decided_rpcDispatch wrapped args kwargs w h).iff
    | notificationDispatch => exact (decided_notificationDispatch wrapped args kwargs w h).iff

end

end

/-- A dispatcher or transport that does nothing. -/
def idle : Wrapped BareContext Unit Unit := fun _ _ => pure ()

def idleHost : World BareContext (Host Unit) := ⟨empty, [], [], [], ()⟩

/-- An RPC message that is text. -/
def textMessage : Args := [.incoming (.val .none) (.val (.str "ping")) []]

/-- A send with a `ctxt` that cannot be written to. -/
def readOnlySend : Args := [.target (.ok .none) (.ok .none), readOnly [], .val .none]

theorem callable_not_reached :
    ¬ CalledOnce idle textMessage [] idleHost
        (Wrapper.rpcDispatch.run none (original idle) textMessage [] idleHost) ∧
      ¬ CalledOnce idle readOnlySend [] idleHost
        (Wrapper.rpcSend.run none (original idle) readOnlySend [] idleHost) := by
  refine ⟨fun h => ?_, fun h => ?_⟩
  · exact absurd (congrArg List.length h.1) (by decide)
  · exact absurd (congrArg List.length h.1) (by decide)

end OtelOpenstack.HostSafety
