import Mathlib.Data.List.Forall2
import OtelOpenstack.Programs
import OtelOpenstack.TokenFlows

/-!
What telemetry says of values it has no use for.

Messages, request contexts, headers and environments are dictionaries. A wrapper reads a few keys
of them; under any other key there may be a secret. Two runs of one program are compared, from
worlds whose dictionaries differ in their secrets.
-/

set_option autoImplicit false

namespace OtelOpenstack.Secrets

open Effects Python Otel ContextApi Carriers Http Messaging TwoRuns Programs

/-! ### Worlds that differ in their secrets -/

/-- The items agree, but for a value under a secret key. -/
def SameItem (secret : String → Prop) (item item' : String × Val) : Prop :=
  item.1 = item'.1 ∧ (¬ secret item.1 → item.2 = item'.2)

def SameDict (secret : String → Prop) : Dict → Dict → Prop := List.Forall₂ (SameItem secret)

def SameDicts (secret : String → Prop) : List Dict → List Dict → Prop :=
  List.Forall₂ (SameDict secret)

structure SameWorld {Ctx H : Type} (secret : String → Prop) (w w' : World Ctx H) : Prop where
  current : w.current = w'.current
  calls : w.calls = w'.calls
  host : w.host = w'.host
  dicts : SameDicts secret w.dicts w'.dicts

/-- The keys the wrappers read. -/
def readKeys : List String :=
  ["method", "namespace", "msg_id", "event_type", "priority", "publisher_id", "message_id",
    "request_id", "service_type", "REQUEST_METHOD", "PATH_INFO", "wsgi.url_scheme", "SERVER_NAME",
    "SERVER_PORT", "status"]

/-- No wrapper reads a secret, and the propagator asks for none. -/
structure Unread (Ctx : Type) [Propagator Ctx] (secret : String → Prop) : Prop where
  wrappers : ∀ key ∈ readKeys, ¬ secret key
  propagator : ∀ getter getter' : String → Except Exn (Option (List Val)),
    (∀ key, ¬ secret key → ¬ secret (KeystoneMiddleware.environKey key) →
      getter key = getter' key) →
    (Propagator.extract getter : Except Exn Ctx) = Propagator.extract getter'

variable {secret : String → Prop}

/-! ### Dictionaries -/

lemma SameDict.get {d d' : Dict} (h : SameDict secret d d') {key : String} (hkey : ¬ secret key) :
    d.get key = d'.get key := by
  induction h with
  | nil => rfl
  | @cons item item' d d' hitem _ ih =>
    obtain ⟨k, v⟩ := item
    obtain ⟨k', v'⟩ := item'
    obtain ⟨hk, hv⟩ := hitem
    obtain rfl : k = k' := hk
    rw [Dict.get_cons, Dict.get_cons]
    by_cases hkk : key = k
    · subst hkk
      rw [if_pos rfl, if_pos rfl, show v = v' from hv hkey]
    · rw [if_neg hkk, if_neg hkk]
      exact ih

lemma SameDict.isEmpty {d d' : Dict} (h : SameDict secret d d') : d.isEmpty = d'.isEmpty := by
  cases h <;> rfl

lemma SameDict.set {d d' : Dict} (h : SameDict secret d d') (key : String) (value : Val) :
    SameDict secret (d.set key value) (d'.set key value) := by
  induction h with
  | nil => exact .cons ⟨rfl, fun _ => rfl⟩ .nil
  | @cons item item' d d' hitem hrest ih =>
    obtain ⟨k, v⟩ := item
    obtain ⟨k', v'⟩ := item'
    obtain rfl : k = k' := hitem.1
    rw [Dict.set_cons, Dict.set_cons]
    by_cases hkk : key = k
    · rw [if_pos hkk, if_pos hkk]
      exact .cons ⟨rfl, fun _ => rfl⟩ hrest
    · rw [if_neg hkk, if_neg hkk]
      exact .cons hitem ih

section

variable {dicts dicts' : List Dict} (h : SameDicts secret dicts dicts')

include h

lemma sameDict_deref (ref : ℕ) : SameDict secret (deref dicts ref) (deref dicts' ref) := by
  induction h generalizing ref with
  | nil => exact .nil
  | cons hd _ ih =>
    cases ref with
    | zero => exact hd
    | succ ref => exact ih ref

lemma sameDicts_modify (ref : ℕ) (key : String) (value : Val) :
    SameDicts secret (dicts.modify ref (·.set key value))
      (dicts'.modify ref (·.set key value)) := by
  induction h generalizing ref with
  | nil => cases ref <;> exact .nil
  | cons hd hrest ih =>
    cases ref with
    | zero => exact .cons (hd.set key value) hrest
    | succ ref => exact .cons hd (ih ref)

lemma truth_same (a : Arg) : a.truth dicts = a.truth dicts' := by
  cases a with
  | dict ref => exact congrArg (fun b => Except.ok !b) (sameDict_deref h ref).isEmpty
  | _ => rfl

lemma orEmpty_same (a : Arg) : a.orEmpty dicts = a.orEmpty dicts' := by
  unfold Arg.orEmpty
  rw [truth_same h]

lemma get_same (a : Arg) {key : String} (hkey : ¬ secret key) (default : Val) :
    a.get dicts key default = a.get dicts' key default := by
  cases a with
  | dict ref =>
    exact congrArg (fun v => Except.ok (v.getD default)) ((sameDict_deref h ref).get hkey)
  | object _ _ get => cases get <;> rfl
  | _ => rfl

end

/-! ### What is read of arguments -/

section

variable {Ctx : Type} [Propagator Ctx] (hunread : Unread Ctx secret) {dicts dicts' : List Dict}
  (h : SameDicts secret dicts dicts')

include hunread h

lemma read_same (a : Arg) (key : String) (default : Val) (hkey : key ∈ readKeys) :
    a.get dicts key default = a.get dicts' key default :=
  get_same h a (hunread.wrappers key hkey) default

lemma deref_same (ref : ℕ) (key : String) (hkey : key ∈ readKeys) :
    (deref dicts ref).get key = (deref dicts' ref).get key :=
  (sameDict_deref h ref).get (hunread.wrappers key hkey)

lemma rpcMethod_same (message : Arg) : rpcMethod dicts message = rpcMethod dicts' message := by
  unfold rpcMethod
  rw [read_same hunread h message "method" .none (by decide),
    read_same hunread h message "namespace" .none (by decide)]

lemma sendName_same (isNotification : Bool) (message : Arg) :
    sendName isNotification dicts message = sendName isNotification dicts' message := by
  unfold sendName
  rw [read_same hunread h message "event_type" .none (by decide), rpcMethod_same hunread h]

lemma serviceType_same (kwargs : Kwargs) :
    KeystoneAuth.serviceType dicts kwargs = KeystoneAuth.serviceType dicts' kwargs := by
  unfold KeystoneAuth.serviceType
  dsimp only
  rw [read_same hunread h _ "service_type" .none (by decide)]

lemma environAttribute_same (ref : ℕ) (key name : String) (hkey : key ∈ readKeys) :
    KeystoneMiddleware.environAttribute (deref dicts ref) key name =
      KeystoneMiddleware.environAttribute (deref dicts' ref) key name :=
  TokenFlows.environAttribute_congr (deref_same hunread h ref key hkey) name

lemma requestAttributes_same {α : Type} (r : Reading α) (environ : Arg) :
    KeystoneMiddleware.requestAttributes r dicts environ =
      KeystoneMiddleware.requestAttributes r dicts' environ := by
  cases environ with
  | dict ref =>
    have hattribute (key name : String) := environAttribute_same hunread h ref key name
    simp only [KeystoneMiddleware.requestAttributes]
    rw [hattribute "REQUEST_METHOD" _ (by decide), hattribute "PATH_INFO" _ (by decide),
      hattribute "wsgi.url_scheme" _ (by decide), hattribute "SERVER_NAME" _ (by decide),
      deref_same hunread h ref "SERVER_PORT" (by decide)]
  | _ => rfl

lemma requestSpanName_same {α : Type} (r : Reading α) (environ : Arg) :
    KeystoneMiddleware.requestSpanName r dicts environ =
      KeystoneMiddleware.requestSpanName r dicts' environ := by
  cases environ with
  | dict ref =>
    have htext (key : String) (hkey : key ∈ readKeys) :=
      TokenFlows.textOf_congr (deref_same hunread h ref key hkey)
    simp only [KeystoneMiddleware.requestSpanName]
    rw [htext "REQUEST_METHOD" (by decide), htext "PATH_INFO" (by decide)]
  | _ => rfl

lemma environContext_same (ref : ℕ) :
    (Propagator.extract (KeystoneMiddleware.environGetter (deref dicts ref)) : Except Exn Ctx) =
      Propagator.extract (KeystoneMiddleware.environGetter (deref dicts' ref)) := by
  apply hunread.propagator
  intro key _ hkey
  unfold KeystoneMiddleware.environGetter
  rw [(sameDict_deref h ref).get hkey]

lemma carried_same (carrier : Arg) :
    (carried dicts carrier : Except Exn Ctx) = carried dicts' carrier := by
  apply hunread.propagator
  intro key hkey _
  unfold defaultGetter
  rw [get_same h carrier hkey]

end

section

variable {α : Type} (r : Reading α) {dicts dicts' : List Dict} (h : SameDicts secret dicts dicts')

include h

lemma orText_same (method : String) (a : Arg) : orText dicts method a = orText dicts' method a := by
  unfold orText
  rw [truth_same h]

lemma httpMethod_same (args : Args) (kwargs : Kwargs) :
    httpMethod r dicts args kwargs = httpMethod r dicts' args kwargs := by
  unfold httpMethod
  rw [orText_same h]

lemma httpUrl_same (args : Args) (kwargs : Kwargs) :
    httpUrl dicts args kwargs = httpUrl dicts' args kwargs :=
  orText_same h _ _

lemma sessionAttributes_same (method url : String) (service : Option String) (requestId : Arg) :
    KeystoneAuth.attributes r dicts method url service requestId =
      KeystoneAuth.attributes r dicts' method url service requestId := by
  unfold KeystoneAuth.attributes
  rw [truth_same h]

lemma globalRequestId_same (proxy : OpenStackSdk.Proxy) (args : Args) (kwargs : Kwargs) :
    OpenStackSdk.globalRequestId proxy dicts args kwargs =
      OpenStackSdk.globalRequestId proxy dicts' args kwargs := by
  unfold OpenStackSdk.globalRequestId
  dsimp only
  rw [truth_same h]

lemma proxyAttributes_same (method url : String) (service region : Val) (requestId : Arg) :
    OpenStackSdk.attributes r dicts method url service region requestId =
      OpenStackSdk.attributes r dicts' method url service region requestId := by
  unfold OpenStackSdk.attributes
  rw [truth_same h]

end

/-! ### Copies of headers -/

/-- Both copies raise the same, or they agree but for secrets. -/
def SameCopy (secret : String → Prop) : Except Exn Dict → Except Exn Dict → Prop
  | .ok d, .ok d' => SameDict secret d d'
  | .error e, .error e' => e = e'
  | _, _ => False

lemma sameDict_refl (d : Dict) : SameDict secret d d := by
  induction d with
  | nil => exact .nil
  | cons item d ih => exact .cons ⟨rfl, fun _ => rfl⟩ ih

lemma sameCopy_refl (x : Except Exn Dict) : SameCopy secret x x := by
  cases x with
  | error e => rfl
  | ok d => exact sameDict_refl d

section

variable {dicts dicts' : List Dict} (h : SameDicts secret dicts dicts')

include h

lemma toDict_same (a : Arg) : SameCopy secret (a.toDict dicts) (a.toDict dicts') := by
  unfold Arg.toDict
  split
  · exact sameDict_deref h _
  · exact sameCopy_refl _
  · exact sameCopy_refl _
  · rfl

lemma sessionHeaders_same (kwargs : Kwargs) :
    SameCopy secret (KeystoneAuth.copyHeaders dicts kwargs)
      (KeystoneAuth.copyHeaders dicts' kwargs) := by
  unfold KeystoneAuth.copyHeaders
  rw [orEmpty_same h]
  cases ((kwargs.lookup "headers").getD (.val .none)).orEmpty dicts' with
  | error e => exact sameCopy_refl _
  | ok headers => exact toDict_same h headers

lemma proxyHeaders_same (kwargs : Kwargs) :
    SameCopy secret (OpenStackSdk.copyHeaders dicts kwargs)
      (OpenStackSdk.copyHeaders dicts' kwargs) := by
  unfold OpenStackSdk.copyHeaders
  split
  · exact sameCopy_refl _
  · exact toDict_same h _

end

/-! ### Code that does the same in both -/

section

variable {Ctx H α β : Type}

/-- Code that does not look at secrets: it comes out the same, and leaves worlds that differ in
their secrets. -/
def Blind (secret : String → Prop) (m : Code Ctx H α) : Prop := Alike (SameWorld secret) m m

lemma blind_reads_dicts {k : List Dict → Code Ctx H α}
    (h : ∀ dicts dicts', SameDicts secret dicts dicts' →
      Alike (SameWorld secret) (k dicts) (k dicts')) : Blind secret (reads World.dicts >>= k) :=
  Alike.reads_bind fun _ _ hw => h _ _ hw.dicts

lemma blind_reads_host {γ : Type} (f : H → γ) :
    Blind secret (reads fun w : World Ctx H => f w.host) :=
  fun _ _ h => ⟨congrArg (fun host => Except.ok (f host)) h.host, h⟩

lemma blind_getCurrent : Blind secret (getCurrent : Code Ctx H Ctx) :=
  fun _ _ h => ⟨congrArg Except.ok h.current, h⟩

lemma blind_mayRaise (F : Faults) (s : Step) : Blind secret (mayRaise F s : Code Ctx H Unit) := by
  unfold mayRaise
  cases F s with
  | none => exact Alike.pure ()
  | some e => exact Alike.raise e

lemma blind_record (c : Call) : Blind secret (record c : Code Ctx H Unit) := by
  apply Alike.modifies
  intro w w' h
  exact ⟨h.current, congrArg (· ++ [c]) h.calls, h.host, h.dicts⟩

lemma blind_call (F : Faults) (s : Step) (c : Call) :
    Blind secret (do mayRaise F s; record c : Code Ctx H Unit) :=
  Alike.bind (blind_mayRaise F s) fun _ => blind_record c

lemma blind_attach (c : Ctx) : Blind secret (attach c : Code Ctx H (Token Ctx)) :=
  fun _ _ h =>
    ⟨congrArg (fun old => Except.ok (Token.mk old)) h.current, rfl, h.calls, h.host, h.dicts⟩

lemma blind_detach (token : Token Ctx) : Blind secret (detach token : Code Ctx H Unit) :=
  Alike.modifies fun _ _ h => ⟨rfl, h.calls, h.host, h.dicts⟩

lemma blind_setItem (carrier : Arg) (key : String) (value : Val) :
    Blind secret (setItem carrier key value : Code Ctx H Unit) := by
  cases carrier with
  | dict ref =>
    apply Alike.modifies
    intro w w' h
    exact ⟨h.current, h.calls, h.host, sameDicts_modify h.dicts ref key value⟩
  | object _ _ _ _ set => exact Alike.liftExcept (set key value)
  | _ => exact Alike.raise noItemAssignment

lemma alike_newDict {d d' : Dict} (h : SameDict secret d d') :
    Alike (SameWorld secret) (newDict d : Code Ctx H ℕ) (newDict d') := by
  intro w w' hw
  have hlength : w.dicts.length = w'.dicts.length := List.Forall₂.length_eq hw.dicts
  exact ⟨congrArg Except.ok hlength, hw.current, hw.calls, hw.host,
    List.rel_append hw.dicts (.cons h .nil)⟩

/-- Dictionaries made of copies that agree but for secrets. -/
lemma alike_copied {copied copied' : Except Exn Dict} (h : SameCopy secret copied copied')
    {k : ℕ → Code Ctx H α} (hk : ∀ ref, Blind secret (k ref)) :
    Alike (SameWorld secret)
      (do
        let copy ← liftExcept copied
        let ref ← newDict copy
        k ref)
      (do
        let copy ← liftExcept copied'
        let ref ← newDict copy
        k ref) := by
  rcases copied with e | d <;> rcases copied' with e' | d'
  · obtain rfl : e = e' := h
    exact fun w w' hw => ⟨rfl, hw⟩
  · exact absurd h id
  · exact absurd h id
  · exact (alike_newDict h).bind hk

variable [Propagator Ctx] {F : Faults}

lemma blind_startSpan (name : String) (kind : SpanKind) (context : Option Ctx)
    (attributes : Dict) :
    Blind secret (startSpan F name kind context attributes : Code Ctx H SpanContext) := by
  apply Alike.bind (blind_mayRaise F _)
  intro _ w w' h
  dsimp only
  rw [h.current, h.calls]
  exact ⟨rfl, rfl, rfl, h.host, h.dicts⟩

lemma alike_useSpan (span : SpanContext) {body body' : Code Ctx H α}
    (h : Alike (SameWorld secret) body body') :
    Alike (SameWorld secret) (useSpan F span body) (useSpan F span body') := by
  apply Alike.tryFinally _ (blind_call F _ _)
  apply Alike.tryExcept
  · apply Alike.bind blind_getCurrent
    intro c
    apply Alike.bind (blind_attach _)
    intro token
    exact Alike.tryFinally h (blind_detach token)
  · intro e
    dsimp only
    apply Alike.ite _ (Alike.raise e)
    apply Alike.bind (blind_call F _ _)
    intro _
    apply Alike.bind (blind_call F _ _)
    intro _
    exact Alike.raise e

/-- A block in a span; what it does with the span is alike. -/
lemma alike_span (name : String) (kind : SpanKind) (context : Option Ctx) (attributes : Dict)
    {body body' : SpanContext → Code Ctx H α}
    (h : ∀ span, Alike (SameWorld secret) (body span) (body' span)) :
    Alike (SameWorld secret) (startAsCurrentSpan F name kind context attributes body)
      (startAsCurrentSpan F name kind context attributes body') := by
  apply Alike.bind (blind_startSpan name kind context attributes)
  intro span
  exact alike_useSpan span (h span)

lemma blind_onException (span : SpanContext) {handler : Exn → Code Ctx H Unit}
    {body : Code Ctx H α} (hhandler : ∀ e, Blind secret (handler e)) (hbody : Blind secret body) :
    Blind secret (onException F span handler body) := by
  apply Alike.tryExcept hbody
  intro e
  apply Alike.bind _ fun _ => Alike.raise e
  apply Alike.onlyIf
  intro _
  apply Alike.bind (blind_mayRaise F _)
  intro _
  exact Alike.onlyIf fun _ => hhandler e

omit [Propagator Ctx] in
lemma blind_setErrorStatus (span : SpanContext) (e : Exn) :
    Blind secret (setErrorStatus F span e : Code Ctx H Unit) := by
  apply Alike.bind (Alike.liftExcept _)
  intro text
  exact blind_call F _ _

lemma blind_inject (carrier : Arg) : Blind secret (inject F carrier : Code Ctx H Unit) := by
  apply Alike.bind (blind_mayRaise F _)
  intro _
  apply Alike.bind blind_getCurrent
  intro c
  induction Propagator.headers c with
  | nil => exact Alike.pure ()
  | cons item items ih =>
    apply Alike.bind (blind_setItem carrier _ _)
    intro _
    exact ih

lemma blind_extract (hunread : Unread Ctx secret) (carrier : Arg) :
    Blind secret (extract F carrier : Code Ctx H Ctx) := by
  apply Alike.bind (blind_mayRaise F _)
  intro _
  apply blind_reads_dicts
  intro dicts dicts' h
  exact Alike.liftExcept_of_eq (carried_same hunread h carrier)

/-- A wrapper that first asks whether instrumentation is enabled. -/
lemma blind_guarded {what : String} {off on : Code Ctx H α} (hoff : Blind secret off)
    (hon : Blind secret on) :
    Blind secret (do
      mayRaise F (.other what)
      let c ← getCurrent
      if !enabled c then off else on) := by
  apply Alike.bind (blind_mayRaise F _)
  intro _
  apply Alike.bind blind_getCurrent
  intro c
  exact Alike.ite hoff hon

end

/-! ### Recording -/

section

variable {Ctx H α : Type} (F : Faults) (span : SpanContext)

lemma blind_setAttribute (key : String) (value : Val) :
    Blind secret (setAttribute F span key value : Code Ctx H Unit) :=
  blind_call F _ _

lemma blind_recordUrl (r : Reading α) (response : Option Response) :
    Blind secret (recordUrl F r span response : Code Ctx H Unit) := by
  apply Alike.onlySome
  intro url
  apply Alike.onlyIf
  intro _
  apply Alike.bind (blind_setAttribute F span _ _)
  intro _
  apply Alike.bind (Alike.liftExcept _)
  intro parsed
  apply Alike.bind
  · apply Alike.onlySome
    intro host
    exact Alike.onlyIf fun _ => blind_setAttribute F span _ _
  intro _
  apply Alike.bind (Alike.liftExcept _)
  intro port
  apply Alike.onlySome
  intro port
  exact Alike.onlyIf fun _ => blind_setAttribute F span _ _

lemma blind_recordResponse (r : Reading α) (response : Option Response) :
    Blind secret (recordResponse F r span response : Code Ctx H Unit) := by
  apply Alike.onlySome
  intro response
  apply Alike.bind _ fun _ => blind_recordUrl F span r _
  apply Alike.onlySome
  intro code
  apply Alike.bind (blind_setAttribute F span _ _)
  intro _
  exact Alike.onlyIf fun _ => blind_call F _ _

lemma blind_recordError (r : Reading α) (e : Exn) :
    Blind secret (KeystoneAuth.recordError F r span e : Code Ctx H Unit) := by
  apply Alike.bind
  · exact Alike.onlySome _ fun code => blind_setAttribute F span _ _
  intro _
  exact blind_recordUrl F span r _

lemma blind_recordStatus (r : Reading α) (status : Val) :
    Blind secret (KeystoneMiddleware.recordStatus F r span status : Code Ctx H Unit) := by
  unfold KeystoneMiddleware.recordStatus
  cases KeystoneMiddleware.statusCode r status with
  | none => exact Alike.pure ()
  | some code =>
    apply Alike.bind (blind_setAttribute F span _ _)
    intro _
    exact Alike.onlyIf fun _ => blind_call F _ _

lemma blind_setField (key : String) (read : Except Exn Val) :
    Blind secret (Authentication.setField F span key read : Code Ctx H Unit) := by
  apply Alike.bind (Alike.liftExcept _)
  intro value
  apply Alike.bind (Alike.liftExcept _)
  intro given
  apply Alike.onlyIf
  intro _
  apply Alike.bind (Alike.liftExcept _)
  intro text
  exact blind_setAttribute F span key _

lemma blind_setRoles (tuple : List String → Val)
    (read : Except Exn (Option Authentication.RoleNames)) :
    Blind secret (Authentication.setRoles F tuple span read : Code Ctx H Unit) := by
  apply Alike.bind (Alike.liftExcept _)
  intro roleNames
  apply Alike.onlySome
  intro names
  apply Alike.bind (Alike.liftExcept _)
  intro given
  apply Alike.onlyIf
  intro _
  apply Alike.bind (Alike.liftExcept _)
  intro texts
  exact blind_setAttribute F span "user.roles" _

lemma blind_recordIdentity (tuple : List String → Val) (fields : Authentication.Fields) :
    Blind secret (Authentication.recordIdentity F tuple span fields : Code Ctx H Unit) := by
  apply Alike.bind (Alike.liftExcept _)
  intro tokenAuth
  apply Alike.bind (Alike.liftExcept _)
  intro user
  apply Alike.onlySome
  intro authRef
  apply Alike.bind (blind_setField F span _ _)
  intro _
  apply Alike.bind (blind_setField F span _ _)
  intro _
  apply Alike.bind (blind_setField F span _ _)
  intro _
  apply Alike.bind (blind_setField F span _ _)
  intro _
  apply Alike.bind (blind_setField F span _ _)
  intro _
  exact blind_setRoles F span tuple _

lemma blind_recordToken (presentKey validKey : String) (token valid : Except Exn Val) :
    Blind secret (Authentication.recordToken F span presentKey validKey token valid :
      Code Ctx H (Option Bool)) := by
  apply Alike.bind (Alike.liftExcept _)
  intro present
  apply Alike.bind (blind_setAttribute F span _ _)
  intro _
  apply Alike.ite _ (Alike.pure none)
  apply Alike.bind (Alike.liftExcept _)
  intro known
  apply Alike.bind
  · exact Alike.onlySome known fun b => blind_setAttribute F span validKey _
  · exact fun _ => Alike.pure known

lemma blind_recordRequest (tuple : List String → Val) (request : Authentication.Request H) :
    Blind secret (Authentication.recordRequest F tuple span request : Code Ctx H Unit) := by
  apply Alike.ite (Alike.pure ())
  apply Alike.bind (blind_reads_host request.fields)
  intro fields
  apply Alike.bind (blind_recordToken F span _ _ _ _)
  intro userValid
  apply Alike.bind (blind_recordToken F span _ _ _ _)
  intro _
  exact Alike.onlyIf fun _ => blind_recordIdentity F span tuple fields

lemma blind_setText (key : String) (value : Val) :
    Blind secret (setText F span key value : Code Ctx H Unit) := by
  apply Alike.bind (Alike.liftExcept _)
  intro text
  exact blind_setAttribute F span key _

lemma blind_setIfTrue (key : String) (value : Except Exn Val) :
    Blind secret (setIfTrue F span key value : Code Ctx H Unit) := by
  apply Alike.bind (Alike.liftExcept _)
  intro v
  apply Alike.bind (Alike.liftExcept _)
  intro given
  exact Alike.onlyIf fun _ => blind_setAttribute F span key _

lemma blind_setUnlessNone (key : String) (value : Val) :
    Blind secret (setUnlessNone F span key value : Code Ctx H Unit) :=
  Alike.onlyIf fun _ => blind_setAttribute F span key value

/-- What both descriptions of a message begin with. -/
lemma blind_setSystem (system operation : String) {rest : Code Ctx H Unit}
    (h : Blind secret rest) :
    Blind secret (do
      setAttribute F span "messaging.system" (.str system)
      setAttribute F span "messaging.operation" (.str operation)
      setAttribute F span "messaging.operation.name" (.str operation)
      rest) := by
  apply Alike.bind (blind_setAttribute F span _ _)
  intro _
  apply Alike.bind (blind_setAttribute F span _ _)
  intro _
  apply Alike.bind (blind_setAttribute F span _ _)
  intro _
  exact h

variable [Propagator Ctx] (hunread : Unread Ctx secret)

include hunread

lemma blind_setRequestId (ctxt : Arg) :
    Blind secret (setRequestId F span ctxt : Code Ctx H Unit) := by
  apply Alike.ite (Alike.pure ())
  apply blind_reads_dicts
  intro dicts dicts' h
  rw [read_same hunread h ctxt "request_id" .none (by decide)]
  apply Alike.bind (Alike.liftExcept _)
  intro requestId
  apply Alike.bind (Alike.liftExcept _)
  intro given
  apply Alike.ite (Alike.pure ())
  apply Alike.bind (blind_setText F span _ _)
  intro _
  exact blind_setText F span _ _

lemma blind_setRpcAttributes (ctxt : Arg) (method namespaceOf : Val) (system operation : String) :
    Blind secret (setRpcAttributes F span ctxt method namespaceOf system operation :
      Code Ctx H Unit) := by
  apply blind_setSystem F span
  apply Alike.bind (blind_setAttribute F span _ _)
  intro _
  apply Alike.bind (Alike.onlyIf fun _ => blind_setText F span _ _)
  intro _
  apply Alike.bind (Alike.liftExcept _)
  intro given
  apply Alike.bind (Alike.onlyIf fun _ => blind_setText F span _ _)
  intro _
  exact blind_setRequestId F span hunread ctxt

lemma blind_setNotificationAttributes (system operation : String) (ctxt : Arg)
    (eventType priority publisherId : Val) :
    Blind secret (setNotificationAttributes F span system operation ctxt eventType priority
      publisherId : Code Ctx H Unit) := by
  apply blind_setSystem F span
  apply Alike.bind (blind_setRequestId F span hunread ctxt)
  intro _
  apply Alike.bind (blind_setUnlessNone F span _ _)
  intro _
  apply Alike.bind (blind_setUnlessNone F span _ _)
  intro _
  exact blind_setUnlessNone F span _ _

lemma blind_setSendAttributes (isNotification : Bool) (transport : Option String)
    (ctxt target message waitForReply : Arg) :
    Blind secret (setSendAttributes F isNotification span transport ctxt target message
      waitForReply : Code Ctx H Unit) := by
  apply Alike.bind (blind_setIfTrue F span _ _)
  intro _
  apply Alike.bind (blind_setIfTrue F span _ _)
  intro _
  apply blind_reads_dicts
  intro dicts dicts' h
  apply Alike.ite
  · rw [read_same hunread h message "event_type" .none (by decide),
      read_same hunread h message "priority" .none (by decide),
      read_same hunread h message "publisher_id" .none (by decide)]
    apply Alike.bind (Alike.liftExcept _)
    intro eventType
    apply Alike.bind (Alike.liftExcept _)
    intro priority
    apply Alike.bind (Alike.liftExcept _)
    intro publisherId
    exact blind_setNotificationAttributes F span hunread _ _ _ _ _ _
  · rw [read_same hunread h message "method" .none (by decide),
      read_same hunread h message "namespace" .none (by decide), truth_same h]
    apply Alike.bind (Alike.liftExcept _)
    intro method
    apply Alike.bind (Alike.liftExcept _)
    intro namespaceOf
    apply Alike.bind (Alike.liftExcept _)
    intro waits
    exact blind_setRpcAttributes F span hunread _ _ _ _ _

end

/-! ### The wrappers -/

section

variable {Ctx H α : Type} [Propagator Ctx] (hunread : Unread Ctx secret) {F : Faults}

/-- What an HTTP client wrapper does inside its span. -/
lemma blind_client (span : SpanContext) (r : Reading α) {copied copied' : Except Exn Dict}
    (hcopied : SameCopy secret copied copied') {call : ℕ → Code Ctx H α}
    (hcall : ∀ ref, Blind secret (call ref)) :
    let within (copied : Except Exn Dict) : Code Ctx H α := do
      let copy ← liftExcept copied
      let headers ← newDict copy
      inject F (.dict headers)
      let response ← call headers
      mayRaise F .isRecording
      onlyIf (isRecording Ctx span) (recordResponse F r span (r.response response))
      pure response
    Alike (SameWorld secret) (within copied) (within copied') := by
  apply alike_copied hcopied
  intro ref
  apply Alike.bind (blind_inject _)
  intro _
  apply Alike.bind (hcall ref)
  intro response
  apply Alike.bind (blind_mayRaise F _)
  intro _
  apply Alike.bind
  · exact Alike.onlyIf fun _ => blind_recordResponse F span r _
  · exact fun _ => Alike.pure response

include hunread

lemma blind_session (r : Reading α) {wrapped : Wrapped Ctx H α}
    (h : ∀ args kwargs, Blind secret (wrapped args kwargs)) (args : Args) (kwargs : Kwargs) :
    Blind secret (KeystoneAuth.requestWrapper F r wrapped args kwargs) := by
  apply blind_guarded (h args kwargs)
  apply blind_reads_dicts
  intro dicts dicts' hsame
  rw [httpMethod_same r hsame, httpUrl_same hsame, serviceType_same hunread hsame]
  apply Alike.bind (Alike.liftExcept _)
  intro method
  apply Alike.bind (Alike.liftExcept _)
  intro url
  apply Alike.bind (Alike.liftExcept _)
  intro service
  apply Alike.bind (Alike.liftExcept _)
  intro parsed
  rw [sessionAttributes_same r hsame]
  apply Alike.bind (Alike.liftExcept _)
  intro attributes
  apply alike_span
  intro span
  apply blind_client span r (sessionHeaders_same hsame kwargs)
  intro ref
  exact blind_onException span (blind_recordError F span r) (h _ _)

omit hunread in
lemma blind_proxy (r : Reading α) (proxy : OpenStackSdk.Proxy) {wrapped : Wrapped Ctx H α}
    (h : ∀ args kwargs, Blind secret (wrapped args kwargs)) (args : Args) (kwargs : Kwargs) :
    Blind secret (OpenStackSdk.requestWrapper F r proxy wrapped args kwargs) := by
  apply blind_guarded (h args kwargs)
  apply blind_reads_dicts
  intro dicts dicts' hsame
  rw [httpMethod_same r hsame, httpUrl_same hsame, globalRequestId_same hsame]
  apply Alike.bind (Alike.liftExcept _)
  intro method
  apply Alike.bind (Alike.liftExcept _)
  intro url
  apply Alike.bind (Alike.liftExcept _)
  intro requestId
  apply Alike.bind (Alike.liftExcept _)
  intro service
  apply Alike.bind (Alike.liftExcept _)
  intro region
  apply Alike.bind (Alike.liftExcept _)
  intro names
  rw [proxyAttributes_same r hsame]
  apply Alike.bind (Alike.liftExcept _)
  intro attributes
  apply alike_span
  intro span
  exact blind_client span r (proxyHeaders_same hsame kwargs) fun ref => h _ _

lemma blind_environParentContext (environ : Arg) :
    Blind secret (KeystoneMiddleware.environParentContext F environ :
      Code Ctx H (Option Ctx × SpanKind)) := by
  apply Alike.bind blind_getCurrent
  intro c
  apply Alike.ite (Alike.pure _)
  cases environ with
  | dict ref =>
    apply Alike.bind (blind_mayRaise F _)
    intro _
    apply blind_reads_dicts
    intro dicts dicts' hsame
    rw [environContext_same hunread hsame]
    apply Alike.bind (Alike.liftExcept _)
    exact fun parent => Alike.pure _
  | _ => exact Alike.pure _

lemma blind_request (r : Reading α) {wrapped : KeystoneMiddleware.Invocation Ctx H → Code Ctx H α}
    (hwsgi : ∀ environ start, (∀ status rest, Blind secret (start status rest)) →
      Blind secret (wrapped (.wsgi environ start)))
    (hother : ∀ args kwargs, Blind secret (wrapped (.other args kwargs)))
    {i : KeystoneMiddleware.Invocation Ctx H}
    (hi : ∀ environ start, i = .wsgi environ start →
      ∀ status rest, Blind secret (start status rest)) :
    Blind secret (KeystoneMiddleware.callWrapper F r wrapped i) := by
  cases i with
  | other args kwargs =>
    apply Alike.bind (blind_mayRaise F _)
    intro _
    exact hother args kwargs
  | wsgi environ start =>
    have hstart := hi environ start rfl
    apply blind_guarded (hwsgi environ start hstart)
    apply Alike.bind (blind_environParentContext hunread environ)
    rintro ⟨parent, kind⟩
    apply blind_reads_dicts
    intro dicts dicts' hsame
    rw [requestAttributes_same hunread hsame, requestSpanName_same hunread hsame]
    apply Alike.bind (Alike.liftExcept _)
    intro attributes
    apply Alike.bind (Alike.liftExcept _)
    intro name
    apply alike_span
    intro span
    apply Alike.bind (alike_newDict .nil)
    intro captured
    apply Alike.bind
    · apply blind_onException span (blind_setErrorStatus span)
      -- the start_response passed on notes the status and calls the one it was given
      apply hwsgi
      intro status rest
      exact Alike.bind (blind_setItem _ _ _) fun _ => hstart status rest
    intro result
    apply Alike.bind (blind_mayRaise F _)
    intro _
    apply Alike.bind _ fun _ => Alike.pure result
    apply Alike.onlyIf
    intro _
    apply blind_reads_dicts
    intro dicts dicts' hsame
    rw [deref_same hunread hsame captured "status" (by decide)]
    exact blind_recordStatus F span r _

lemma blind_parentContext (request : Authentication.Request H) :
    Blind secret (Authentication.parentContext F request : Code Ctx H (Option Ctx × SpanKind)) := by
  apply Alike.bind blind_getCurrent
  intro c
  apply Alike.ite (Alike.pure _)
  apply Alike.bind (blind_reads_host request.headers)
  intro read
  apply Alike.bind (Alike.liftExcept _)
  intro headers
  split
  · exact Alike.pure _
  · apply Alike.bind (blind_extract hunread _)
    exact fun parent => Alike.pure _

lemma blind_process (tuple : List String → Val)
    {wrapped : List (Authentication.Request H) → List (String × Authentication.Request H) →
      Code Ctx H α}
    (h : ∀ args kwargs, Blind secret (wrapped args kwargs))
    (args : List (Authentication.Request H)) (kwargs : List (String × Authentication.Request H)) :
    Blind secret (Authentication.processRequestWrapper F tuple wrapped args kwargs) := by
  apply blind_guarded (h args kwargs)
  apply Alike.bind (blind_parentContext hunread _)
  rintro ⟨parent, kind⟩
  apply alike_span
  intro span
  apply Alike.bind
  · apply blind_onException span _ (h args kwargs)
    intro e
    exact Alike.bind (blind_setErrorStatus span e) fun _ => blind_recordRequest F span tuple _
  intro result
  apply Alike.bind (blind_mayRaise F _)
  intro _
  apply Alike.bind
  · exact Alike.onlyIf fun _ => blind_recordRequest F span tuple _
  · exact fun _ => Alike.pure result

lemma blind_send (isNotification : Bool) (transport : Option String) {wrapped : Wrapped Ctx H α}
    (h : ∀ args kwargs, Blind secret (wrapped args kwargs)) (args : Args) (kwargs : Kwargs) :
    Blind secret (injectWrapper F isNotification transport wrapped args kwargs) := by
  apply blind_guarded (h args kwargs)
  apply blind_reads_dicts
  intro dicts dicts' hsame
  rw [sendName_same hunread hsame]
  apply Alike.bind (Alike.liftExcept _)
  intro dest
  apply Alike.bind (blind_startSpan _ _ _ _)
  intro span
  apply Alike.bind (blind_mayRaise F _)
  intro _
  apply Alike.bind
  · exact Alike.onlyIf fun _ => blind_setSendAttributes F span hunread _ _ _ _ _ _
  intro _
  apply alike_useSpan
  apply Alike.bind (Alike.onlyIf fun _ => blind_inject _)
  intro _
  exact h args kwargs

/-- What both dispatches do before they look at the message. -/
lemma blind_received (incoming : Arg) {off : Code Ctx H α}
    {rest : List Dict → Arg → Arg → Ctx → Code Ctx H α} (hoff : Blind secret off)
    (hrest : ∀ dicts dicts', SameDicts secret dicts dicts' → ∀ ctxt message spanCtx,
      Alike (SameWorld secret) (rest dicts ctxt message spanCtx)
        (rest dicts' ctxt message spanCtx)) :
    Blind secret (do
      mayRaise F (.other "is_instrumentation_enabled")
      let c ← getCurrent
      if !enabled c then off
      else do
        let dicts ← getDicts
        mayRaise F (.other "getattr ctxt")
        let ctxt ← liftExcept (incoming.ctxt.orEmpty dicts)
        mayRaise F (.other "getattr message")
        let message ← liftExcept (incoming.message.orEmpty dicts)
        let spanCtx ← spanContextOf F ctxt
        rest dicts ctxt message spanCtx) := by
  apply blind_guarded hoff
  apply blind_reads_dicts
  intro dicts dicts' hsame
  rw [orEmpty_same hsame, orEmpty_same hsame]
  apply Alike.bind (blind_mayRaise F _)
  intro _
  apply Alike.bind (Alike.liftExcept _)
  intro ctxt
  apply Alike.bind (blind_mayRaise F _)
  intro _
  apply Alike.bind (Alike.liftExcept _)
  intro message
  apply Alike.bind
  · apply Alike.bind (blind_extract hunread ctxt)
    intro c
    apply Alike.ite _ (Alike.pure c)
    exact Alike.bind (blind_mayRaise F _) fun _ => blind_getCurrent
  intro spanCtx
  exact hrest dicts dicts' hsame ctxt message spanCtx

omit hunread [Propagator Ctx] in
/-- The message's context is attached around what is done with it. -/
lemma alike_attached (spanCtx : Ctx) {m m' : Code Ctx H α} (h : Alike (SameWorld secret) m m') :
    Alike (SameWorld secret)
      (do
        let token ← attach spanCtx
        tryFinally m (detach token))
      (do
        let token ← attach spanCtx
        tryFinally m' (detach token)) := by
  apply Alike.bind (blind_attach spanCtx)
  intro token
  exact Alike.tryFinally h (blind_detach token)

lemma blind_rpcDispatch {wrapped : Wrapped Ctx H α}
    (h : ∀ args kwargs, Blind secret (wrapped args kwargs)) (args : Args) (kwargs : Kwargs) :
    Blind secret (rpcServerWrapper F wrapped args kwargs) := by
  apply blind_received hunread _ (h args kwargs)
  intro dicts dicts' hsame ctxt message spanCtx
  have hread (key : String) (default : Val) := read_same hunread hsame message key default
  rw [hread "method" _ (by decide), hread "namespace" _ (by decide)]
  apply Alike.bind (Alike.liftExcept _)
  intro method
  apply Alike.bind (Alike.liftExcept _)
  intro namespaceOf
  apply Alike.bind (Alike.liftExcept _)
  intro dest
  apply alike_attached
  apply Alike.bind (blind_startSpan _ _ _ _)
  intro span
  apply Alike.bind (blind_mayRaise F _)
  intro _
  apply Alike.bind (blind_setRpcAttributes F span hunread _ _ _ _ _)
  intro _
  rw [hread "msg_id" _ (by decide)]
  apply Alike.bind (blind_setIfTrue F span _ _)
  intro _
  exact alike_useSpan span (h args kwargs)

lemma blind_notificationDispatch {wrapped : Wrapped Ctx H α}
    (h : ∀ args kwargs, Blind secret (wrapped args kwargs)) (args : Args) (kwargs : Kwargs) :
    Blind secret (notificationServerWrapper F wrapped args kwargs) := by
  apply blind_received hunread _ (h args kwargs)
  intro dicts dicts' hsame ctxt message spanCtx
  let given : Arg := if message.isMapping then message else emptyDict
  have hread (key : String) (default : Val) := read_same hunread hsame given key default
  rw [hread "event_type" (.str "") (by decide)]
  apply Alike.bind (Alike.liftExcept _)
  intro eventType
  apply Alike.bind (Alike.liftExcept _)
  intro dest
  apply alike_attached
  apply Alike.bind (blind_startSpan _ _ _ _)
  intro span
  apply Alike.bind (blind_mayRaise F _)
  intro _
  rw [hread "event_type" .none (by decide), hread "priority" _ (by decide),
    hread "publisher_id" _ (by decide), hread "message_id" _ (by decide)]
  apply Alike.bind (Alike.liftExcept _)
  intro eventType'
  apply Alike.bind (Alike.liftExcept _)
  intro priority
  apply Alike.bind (Alike.liftExcept _)
  intro publisherId
  apply Alike.bind (blind_setNotificationAttributes F span hunread _ _ _ _ _ _)
  intro _
  apply Alike.bind (blind_setIfTrue F span _ _)
  intro _
  exact alike_useSpan span (h args kwargs)

end

/-! ### The theorem -/

section

variable {Ctx H α : Type} [Propagator Ctx]

/-- The program's own code does not look at secrets. -/
def OwnBlind (secret : String → Prop) : Condition Ctx H := fun _ m => Blind secret m

/-- **Secrets stay out of the telemetry.** A program whose own code does not look at values under
secret keys comes out the same with any such values, with wrappers on its calls, and all that it
has recorded is the same; and the secrets are where they were. -/
theorem secrets_unrecorded (hunread : Unread Ctx secret) {m n : Code Ctx H α}
    (h : Instruments (OwnBlind secret) α m n) {w w' : World Ctx H} (hw : SameWorld secret w w') :
    (m w).1 = (m w').1 ∧ (m w).2.calls = (m w').2.calls ∧ SameWorld secret (m w).2 (m w').2 := by
  have hblind : Blind secret m := by
    induction h with
    | own h => exact h
    | seq _ _ ihm ihf => exact Alike.bind ihm ihf
    | handled _ _ ihm ihk => exact Alike.tryExcept ihm ihk
    | cleanup _ _ ihm ihf => exact Alike.tryFinally ihm ihf
    | span _ name kind context attributes _ ih => exact alike_span name kind context attributes ih
    | session _ r _ args kwargs ih => exact blind_session hunread r ih args kwargs
    | proxy _ r proxy _ args kwargs ih => exact blind_proxy r proxy ih args kwargs
    | send _ isNotification transport _ args kwargs ih =>
      exact blind_send hunread isNotification transport ih args kwargs
    | rpcDispatch _ _ args kwargs ih => exact blind_rpcDispatch hunread ih args kwargs
    | notificationDispatch _ _ args kwargs ih =>
      exact blind_notificationDispatch hunread ih args kwargs
    | request _ r _ _ i hi ihwsgi ihother => exact blind_request hunread r ihwsgi ihother hi
    | process _ tuple _ args kwargs ih => exact blind_process hunread tuple ih args kwargs
  obtain ⟨hout, hleft⟩ := hblind w w' hw
  exact ⟨hout, hleft.calls, hleft⟩

end

/-- Passwords and tokens. -/
def Credential (key : String) : Prop := key ∈ ["args", "auth_token", "X-Auth-Token"]

lemma unread_credential : Unread BareContext Credential where
  wrappers := by
    intro key hkey hsecret
    revert key
    unfold Credential
    decide
  propagator getter getter' h := by
    change TraceContext.extractBare getter = TraceContext.extractBare getter'
    unfold TraceContext.extractBare
    rw [h "traceparent" (by unfold Credential; decide) (by unfold Credential; decide)]

/-- A message with a password in its arguments, and the context it is sent in. -/
def withPassword (password : String) : World BareContext Unit where
  current := empty
  calls := []
  dicts := [[("auth_token", .str password), ("request_id", .str "req-1")],
    [("method", .str "set_admin_password"), ("args", .str password)]]
  host := ()

/-- The message is sent. -/
def sendPassword : Code BareContext Unit Unit :=
  injectWrapper noFaults false (some "rabbit") (fun _ _ => pure ())
    [.target (.ok (.str "compute")) (.ok .none), .dict 0, .dict 1] []

lemma same_withPassword (password password' : String) :
    SameWorld Credential (withPassword password) (withPassword password') := by
  have hsecret {key : String} (hkey : Credential key) (v v' : Val) :
      SameItem Credential (key, v) (key, v') := ⟨rfl, fun hnot => absurd hkey hnot⟩
  have hargs : Credential "args" := by unfold Credential; decide
  have htoken : Credential "auth_token" := by unfold Credential; decide
  refine ⟨rfl, rfl, rfl, .cons ?_ (.cons ?_ .nil)⟩
  · exact .cons (hsecret htoken _ _) (.cons ⟨rfl, fun _ => rfl⟩ .nil)
  · exact .cons ⟨rfl, fun _ => rfl⟩ (.cons (hsecret hargs _ _) .nil)

theorem secrets_unrecorded_password :
    (sendPassword (withPassword "first")).2.calls =
      (sendPassword (withPassword "second")).2.calls := by
  have hprogram : Instruments (OwnBlind Credential) Unit sendPassword
      ((fun _ _ => pure () : Wrapped BareContext Unit Unit)
        [.target (.ok (.str "compute")) (.ok .none), .dict 0, .dict 1] []) :=
    .send tame_noFaults _ _ (fun _ _ => .own (Alike.pure ())) _ _
  exact (secrets_unrecorded unread_credential hprogram
    (same_withPassword "first" "second")).2.1

end OtelOpenstack.Secrets
