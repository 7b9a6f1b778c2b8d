import OtelOpenstack.ServerStacks
import OtelOpenstack.TwoRuns

/-!
What the spans around a request say of its tokens.

Two requests are compared that differ in the values of their tokens, and whose wrapped code comes
to the same. Of each wrapper the way in and the way out are run, from the worlds that the wrapped
code finds and leaves: what is recorded is compared up to the ids of spans.
-/

set_option autoImplicit false

namespace OtelOpenstack.TokenFlows

open Effects Python Otel ContextApi Carriers Openings Hops Http KeystoneMiddleware
open Authentication AuthRecording Scopes ServerStacks TraceContext TwoRuns

/-! ### Requests that differ in their tokens -/

/-- The variables that tokens come in. -/
def tokenKeys : List String :=
  ["HTTP_X_AUTH_TOKEN", "HTTP_X_STORAGE_TOKEN", "HTTP_X_SERVICE_TOKEN"]

/-- The header is one that a token comes in. -/
def IsTokenHeader (key : String) : Prop := environKey key ∈ tokenKeys

instance (key : String) : Decidable (IsTokenHeader key) :=
  inferInstanceAs (Decidable (environKey key ∈ tokenKeys))

/-- The environments differ in their tokens at most, or neither is a dictionary. -/
def SameEnviron (dicts dicts' : List Dict) (environ environ' : Arg) : Prop :=
  (∃ ref ref', environ = .dict ref ∧ environ' = .dict ref' ∧
    ∀ key, key ∉ tokenKeys → (deref dicts ref).get key = (deref dicts' ref').get key) ∨
  ((∀ ref, environ ≠ .dict ref) ∧ ∀ ref, environ' ≠ .dict ref)

/-- The headers differ in their tokens at most. -/
structure SameCarrier (dicts dicts' : List Dict) (headers headers' : Arg) : Prop where
  isNone : headers = .val .none ↔ headers' = .val .none
  get : ∀ key, ¬ IsTokenHeader key →
    headers.get dicts key .none = headers'.get dicts' key .none

/-- The headers of two requests, as far as they can be read. -/
def SameHeaders (dicts dicts' : List Dict) (read read' : Except Exn Arg) : Prop :=
  match getattr read (.val .none), getattr read' (.val .none) with
  | .ok headers, .ok headers' => SameCarrier dicts dicts' headers headers'
  | .error e, .error e' => e = e'
  | _, _ => False

/-- Reading the token gives a value that is true, or one that is not. -/
def TokenIs (present : Bool) (token : Except Exn Val) : Prop :=
  ∃ v, getattr token .none = .ok v ∧ v.truth = .ok present

/-- Two tokens that are both there or both absent; what is not even that is the same. -/
def SameToken (token token' : Except Exn Val) : Prop :=
  (∃ present, TokenIs present token ∧ TokenIs present token') ∨ token = token'

structure SameFields (f f' : Fields) : Prop where
  userToken : SameToken f.userToken f'.userToken
  userTokenValid : f.userTokenValid = f'.userTokenValid
  serviceToken : SameToken f.serviceToken f'.serviceToken
  serviceTokenValid : f.serviceTokenValid = f'.serviceTokenValid
  tokenAuth : f.tokenAuth = f'.tokenAuth

lemma tokenPresent_of_is {present : Bool} {token : Except Exn Val} (h : TokenIs present token) :
    tokenPresent token = .ok present := by
  obtain ⟨v, hread, htruth⟩ := h
  unfold tokenPresent
  rw [hread]
  change caught v.truth false = _
  rw [htruth]
  rfl

/-- Of a token only its presence is read. -/
lemma SameToken.present {token token' : Except Exn Val} (h : SameToken token token') :
    tokenPresent token = tokenPresent token' := by
  rcases h with ⟨present, his, his'⟩ | rfl
  · rw [tokenPresent_of_is his, tokenPresent_of_is his']
  · rfl

section

variable {Ctx H ι α : Type} [Propagator Ctx]

/-- What is relied on of the propagator: it does not look at tokens. -/
def ReadsNoToken (Ctx : Type) [Propagator Ctx] : Prop :=
  ∀ getter getter' : String → Except Exn (Option (List Val)),
    (∀ key, ¬ IsTokenHeader key → getter key = getter' key) →
      (Propagator.extract getter : Except Exn Ctx) = Propagator.extract getter'

/-- Instrumentation is on in both, or off, and a span is current in both or in none. -/
structure SameScope (w w' : World Ctx H) : Prop where
  enabled : enabled w.current = enabled w'.current
  valid : (spanIn w.current).isValid = (spanIn w'.current).isValid

/-! ### What a wrapper records -/

/-- A call, whichever span it is about. -/
def withoutIds : Call → Call
  | .start _ _ name kind attributes => .start invalidSpan invalidSpan name kind attributes
  | .setAttribute _ key value => .setAttribute invalidSpan key value
  | .setStatus _ code description => .setStatus invalidSpan code description
  | .recordException _ e => .recordException invalidSpan e
  | .finish _ => .finish invalidSpan

/-- Code that comes out with `result` and leaves the world `left`. -/
def coming (result : Except Exn α) (left : World Ctx H) : Code Ctx H α := fun _ => (result, left)

/-- A wrapper around such code. -/
structure Pass (Ctx H ι α : Type) where
  wrapping : Wrapping Ctx H ι α
  before : World Ctx H
  result : Except Exn α
  left : World Ctx H

def Pass.run (p : Pass Ctx H ι α) : Except Exn α × World Ctx H :=
  p.wrapping.code (fun _ => coming p.result p.left) p.before

/-- The world the wrapped code is called in, if it is. -/
def Pass.inside (p : Pass Ctx H ι α) : World Ctx H := (p.wrapping.enter p.before).2

/-- The calls on the way in. -/
def Pass.begun (p : Pass Ctx H ι α) : List Call :=
  p.inside.calls.drop p.before.calls.length

/-- The calls on the way out, if the wrapped code was called. -/
def Pass.ended (p : Pass Ctx H ι α) : List Call :=
  match (p.wrapping.enter p.before).1 with
  | .error _ => []
  | .ok _ => p.run.2.calls.drop p.left.calls.length

/-- The calls the wrapper makes. -/
def Pass.recorded (p : Pass Ctx H ι α) : List Call := p.begun ++ p.ended

/-- Both wrappers come out the same, having recorded the same: names, kinds, attributes and
statuses, in the same order. -/
structure Pass.Same (p p' : Pass Ctx H ι α) : Prop where
  outcome : p.run.1 = p'.run.1
  recorded : p.recorded.map withoutIds = p'.recorded.map withoutIds

/-- The spans are recording in both, or in none. -/
def Pass.SameSampling (p p' : Pass Ctx H ι α) : Prop :=
  (startedSpans p.begun).map (isRecording Ctx) = (startedSpans p'.begun).map (isRecording Ctx)

/-! ### The two wrappers -/

/-- A call of the middleware, and what comes of it. -/
structure Served (Ctx H α : Type) where
  environ : Arg
  startResponse : StartResponse Ctx H
  before : World Ctx H
  result : Except Exn α
  left : World Ctx H

def Served.pass (r : Reading α) (q : Served Ctx H α) : Pass Ctx H (Invocation Ctx H) α :=
  ⟨serve r q.environ q.startResponse, q.before, q.result, q.left⟩

/-- The status that `start_response` was called with last. -/
def Served.status (q : Served Ctx H α) : Val :=
  ((deref q.left.dicts q.before.dicts.length).get "status").getD .none

structure Served.Alike (r : Reading α) (q q' : Served Ctx H α) : Prop where
  scope : SameScope q.before q'.before
  environ : SameEnviron q.before.dicts q'.before.dicts q.environ q'.environ
  sampling : (q.pass r).SameSampling (q'.pass r)
  result : q.result = q'.result
  status : enabled q.before.current = true → q.status = q'.status

/-- A call of `process_request`, and what comes of it. -/
structure Processed (Ctx H α : Type) where
  args : List (Request H)
  kwargs : List (String × Request H)
  before : World Ctx H
  result : Except Exn α
  left : World Ctx H

def Processed.pass (tuple : List String → Val) (p : Processed Ctx H α) :
    Pass Ctx H (List (Request H) × List (String × Request H)) α :=
  ⟨process tuple p.args p.kwargs, p.before, p.result, p.left⟩

def Processed.request (p : Processed Ctx H α) : Request H := requestArg p.args p.kwargs

/-- The fields of the request, as `process_request` leaves them. -/
def Processed.fields (p : Processed Ctx H α) : Fields := p.request.fields p.left.host

structure Processed.Alike (tuple : List String → Val) (p p' : Processed Ctx H α) : Prop where
  headers : SameHeaders p.before.dicts p'.before.dicts (p.request.headers p.before.host)
    (p'.request.headers p'.before.host)
  sampling : (p.pass tuple).SameSampling (p'.pass tuple)
  isNone : p.request.isNone = p'.request.isNone
  result : p.result = p'.result
  fields : SameFields p.fields p'.fields

/-- The parent decided on, and the kind of the span. -/
def Served.decided (q : Served Ctx H α) : Except Exn (Option Ctx × SpanKind) :=
  (environParentContext noFaults q.environ q.before).1

def Processed.decided (p : Processed Ctx H α) : Except Exn (Option Ctx × SpanKind) :=
  (parentContext noFaults p.request p.before).1

/-- A request through the middleware: `__call__`, and its call of `process_request`. -/
structure Exchange (Ctx H α β : Type) [Propagator Ctx] (r : Reading α) where
  call : Served Ctx H α
  process : Processed Ctx H β
  within : process.before.current = (call.pass r).inside.current

structure Exchange.Alike {β : Type} {r : Reading α} (tuple : List String → Val)
    (x x' : Exchange Ctx H α β r) : Prop where
  call : x.call.Alike r x'.call
  process : x.process.Alike tuple x'.process

/-- Both spans of the one are those of the other. -/
structure Exchange.Same {β : Type} {r : Reading α} (tuple : List String → Val)
    (x x' : Exchange Ctx H α β r) : Prop where
  callParent : x.call.decided = x'.call.decided
  call : (x.call.pass r).Same (x'.call.pass r)
  processParent : x.process.decided = x'.process.decided
  process : (x.process.pass tuple).Same (x'.process.pass tuple)

/-! ### Code that records the same -/

/-- What is kept on the way out: `P` of the calls since `u` and `u'`, which are the same up to ids,
and `S` of the dictionaries and the host programs. -/
def Noting (P : Call → Prop) (S : List Dict × H → List Dict × H → Prop) (u u' w w' : World Ctx H) :
    Prop :=
  S (w.dicts, w.host) (w'.dicts, w'.host) ∧
    ∃ cs cs', w.calls = u.calls ++ cs ∧ w'.calls = u'.calls ++ cs' ∧
      cs.map withoutIds = cs'.map withoutIds ∧ (∀ c ∈ cs, P c)

/-- A key of the identity, or of its scope. -/
def isIdentityKey (key : String) : Bool :=
  "user.".toList.isPrefixOf key.toList || "openstack.".toList.isPrefixOf key.toList

/-- The call records something of the identity. -/
def Identifies : Call → Prop
  | .start _ _ _ _ attributes => ∃ item ∈ attributes, isIdentityKey item.1 = true
  | .setAttribute _ key _ => isIdentityKey key = true
  | _ => False

section

variable {P : Call → Prop} {S : List Dict × H → List Dict × H → Prop} {u u' : World Ctx H}
  {span span' : SpanContext}

omit [Propagator Ctx] in
lemma noting_called {w w' : World Ctx H} (h : Noting P S u u' w w') {cs cs' : List Call}
    (hcs : cs.map withoutIds = cs'.map withoutIds) (hP : ∀ c ∈ cs, P c) :
    Noting P S u u' (w.called cs) (w'.called cs') := by
  obtain ⟨hS, ds, ds', hds, hds', hsame, hdsP⟩ := h
  refine ⟨hS, ds ++ cs, ds' ++ cs', ?_, ?_, ?_, ?_⟩
  · rw [World.called, hds, List.append_assoc]
  · rw [World.called, hds', List.append_assoc]
  · rw [List.map_append, List.map_append, hsame, hcs]
  · intro c hc
    rcases List.mem_append.mp hc with hmem | hmem
    · exact hdsP c hmem
    · exact hP c hmem

omit [Propagator Ctx] in
lemma alike_record {c c' : Call} (hc : withoutIds c = withoutIds c') (hP : P c) :
    Alike (Noting P S u u') (record c : Code Ctx H Unit) (record c') := by
  apply Alike.modifies
  intro w w' h
  refine noting_called h ?_ ?_
  · rw [List.map_singleton, List.map_singleton, hc]
  · intro d hd
    rw [List.mem_singleton.mp hd]
    exact hP

omit [Propagator Ctx] in
lemma alike_setAttribute (key : String) (value : Val) (hP : P (.setAttribute span key value)) :
    Alike (Noting P S u u') (setAttribute noFaults span key value : Code Ctx H Unit)
      (setAttribute noFaults span' key value) := by
  apply Alike.bind (Alike.pure ())
  intro _
  exact alike_record rfl hP

omit [Propagator Ctx] in
lemma alike_setStatus (code : StatusCode) (description : Option String)
    (hP : P (.setStatus span code description)) :
    Alike (Noting P S u u') (setStatus noFaults span code description : Code Ctx H Unit)
      (setStatus noFaults span' code description) := by
  apply Alike.bind (Alike.pure ())
  intro _
  exact alike_record rfl hP

omit [Propagator Ctx] in
lemma alike_setErrorStatus (hP : ∀ description, P (.setStatus span .error description))
    (e : Exn) :
    Alike (Noting P S u u') (setErrorStatus noFaults span e : Code Ctx H Unit)
      (setErrorStatus noFaults span' e) := by
  apply Alike.bind (Alike.liftExcept _)
  intro text
  exact alike_setStatus .error (some text) (hP _)

omit [Propagator Ctx] in
lemma alike_detach (t t' : Token Ctx) :
    Alike (Noting P S u u') (detach t : Code Ctx H Unit) (detach t') := by
  apply Alike.modifies
  rintro w w' ⟨hS, cs, cs', hcs, hcs', hsame, hP⟩
  exact ⟨hS, cs, cs', hcs, hcs', hsame, hP⟩

/-- The end of `use_span`, which records nothing of an identity. -/
lemma closing_same (hsampling : isRecording Ctx span = isRecording Ctx span')
    (r : Except Exn Unit) :
    (closing Ctx span r).map withoutIds = (closing Ctx span' r).map withoutIds ∧
      ∀ c ∈ closing Ctx span r, ¬ Identifies c := by
  unfold closing
  cases r with
  | ok a =>
    refine ⟨rfl, fun c hc => ?_⟩
    rw [List.mem_singleton.mp hc]
    exact id
  | error e =>
    dsimp only
    rw [← hsampling]
    by_cases hboth : (e.isException && isRecording Ctx span) = true
    · rw [if_pos hboth, if_pos hboth]
      refine ⟨rfl, fun c hc => ?_⟩
      simp only [List.mem_cons, List.not_mem_nil, or_false] at hc
      rcases hc with rfl | rfl | rfl
      · exact id
      · exact id
      · exact id
    · rw [if_neg hboth, if_neg hboth]
      refine ⟨rfl, fun c hc => ?_⟩
      rw [List.mem_singleton.mp hc]
      exact id

lemma alike_closeSpan (hP : ∀ c, ¬ Identifies c → P c)
    (hsampling : isRecording Ctx span = isRecording Ctx span') (t t' : Token Ctx)
    (r : Except Exn Unit) :
    Alike (Noting P S u u') (closeSpan span t r : Code Ctx H Unit) (closeSpan span' t' r) := by
  obtain ⟨hsame, hnot⟩ := closing_same hsampling r
  apply Alike.bind (alike_detach t t')
  intro _
  apply Alike.modifies
  intro w w' h
  exact noting_called h hsame fun c hc => hP c (hnot c hc)

/-- The way out of a wrapper with one span: `handler` around the wrapped code, and `after` it if
it returned. -/
def exitOf (span : SpanContext) (c : Ctx) (handler : Exn → Code Ctx H Unit)
    (after : α → Code Ctx H α) (r : Except Exn α) : Code Ctx H α :=
  finalized
    (tryExcept (liftExcept r) (fun e => do
      noteException span handler e
      raise e) >>= after)
    (closeSpan span ⟨c⟩)

lemma alike_exitOf (hP : ∀ c, ¬ Identifies c → P c)
    (hsampling : isRecording Ctx span = isRecording Ctx span') (c c' : Ctx)
    {handler handler' : Exn → Code Ctx H Unit} {after after' : α → Code Ctx H α}
    (hhandler : ∀ e, Alike (Noting P S u u') (handler e) (handler' e))
    (hafter : ∀ a, Alike (Noting P S u u') (after a) (after' a)) (r : Except Exn α) :
    Alike (Noting P S u u') (exitOf span c handler after r)
      (exitOf span' c' handler' after' r) := by
  apply Alike.finishWith
  · apply Alike.bind _ hafter
    apply Alike.tryExcept (Alike.liftExcept r)
    intro e
    apply Alike.bind _ fun _ => Alike.raise e
    apply Alike.onlyIf
    intro _
    apply Alike.bind (Alike.pure ())
    intro _
    rw [hsampling]
    exact Alike.onlyIf fun _ => hhandler e
  · intro result
    apply Alike.bind (alike_closeSpan hP hsampling _ _ _)
    intro _
    exact Alike.liftExcept result

/-! ### Recording a request -/

section

variable (tuple : List String → Val)

omit [Propagator Ctx] in
lemma alike_setField (hP : ∀ c, P c) (key : String) (read : Except Exn Val) :
    Alike (Noting P S u u') (setField noFaults span key read : Code Ctx H Unit)
      (setField noFaults span' key read) := by
  apply Alike.bind (Alike.liftExcept _)
  intro value
  apply Alike.bind (Alike.liftExcept _)
  intro given
  apply Alike.onlyIf
  intro _
  apply Alike.bind (Alike.liftExcept _)
  intro text
  exact alike_setAttribute key _ (hP _)

omit [Propagator Ctx] in
lemma alike_setRoles (hP : ∀ c, P c) (read : Except Exn (Option RoleNames)) :
    Alike (Noting P S u u') (setRoles noFaults tuple span read : Code Ctx H Unit)
      (setRoles noFaults tuple span' read) := by
  apply Alike.bind (Alike.liftExcept _)
  intro roleNames
  apply Alike.onlySome
  intro names
  apply Alike.bind (Alike.liftExcept _)
  intro given
  apply Alike.onlyIf
  intro _
  apply Alike.bind (Alike.liftExcept _)
  intro texts
  exact alike_setAttribute "user.roles" _ (hP _)

omit [Propagator Ctx] in
/-- The identity is recorded of the user alone. -/
lemma alike_recordIdentity (hP : ∀ c, P c) {f f' : Fields} (h : f.tokenAuth = f'.tokenAuth) :
    Alike (Noting P S u u') (recordIdentity noFaults tuple span f : Code Ctx H Unit)
      (recordIdentity noFaults tuple span' f') := by
  unfold recordIdentity
  rw [h]
  apply Alike.bind (Alike.liftExcept _)
  intro tokenAuth
  apply Alike.bind (Alike.liftExcept _)
  intro user
  apply Alike.onlySome
  intro authRef
  apply Alike.bind (alike_setField hP _ _)
  intro _
  apply Alike.bind (alike_setField hP _ _)
  intro _
  apply Alike.bind (alike_setField hP _ _)
  intro _
  apply Alike.bind (alike_setField hP _ _)
  intro _
  apply Alike.bind (alike_setField hP _ _)
  intro _
  exact alike_setRoles tuple hP _

omit [Propagator Ctx] in
/-- Of a token its presence is recorded, and its validity. -/
lemma alike_recordToken (hP : ∀ c, ¬ Identifies c → P c) {presentKey validKey : String}
    (hpresentKey : isIdentityKey presentKey = false) (hvalidKey : isIdentityKey validKey = false)
    {token token' : Except Exn Val} (h : SameToken token token') (valid : Except Exn Val) :
    Alike (Noting P S u u')
      (recordToken noFaults span presentKey validKey token valid : Code Ctx H (Option Bool))
      (recordToken noFaults span' presentKey validKey token' valid) := by
  have hnot {key : String} (hkey : isIdentityKey key = false) (value : Val) :
      P (.setAttribute span key value) :=
    hP _ fun hidentifies => absurd (hkey.symm.trans hidentifies) nofun
  unfold recordToken
  rw [← h.present]
  apply Alike.bind (Alike.liftExcept _)
  intro present
  apply Alike.bind (alike_setAttribute presentKey _ (hnot hpresentKey _))
  intro _
  cases present with
  | false => exact Alike.pure none
  | true =>
    apply Alike.bind (Alike.liftExcept _)
    intro known
    apply Alike.bind _ fun _ => Alike.pure known
    exact Alike.onlySome known fun b => alike_setAttribute validKey _ (hnot hvalidKey _)

/-- The user token was there and was found valid. -/
def UserAccepted (f : Fields) : Prop :=
  tokenPresent f.userToken = .ok true ∧ tokenValid f.userTokenValid = .ok (some true)

omit [Propagator Ctx] in
/-- A token is only known to be valid if it was there. -/
lemma recordToken_valid {presentKey validKey : String} {token valid : Except Exn Val}
    {w : World Ctx H} {b : Bool}
    (h : (recordToken noFaults span presentKey validKey token valid w).1 = .ok (some b)) :
    tokenPresent token = .ok true ∧ tokenValid valid = .ok (some b) := by
  unfold recordToken at h
  cases hpresent : tokenPresent token with
  | error e =>
    rw [hpresent] at h
    exact absurd h nofun
  | ok present =>
    rw [hpresent] at h
    cases present with
    | false => exact absurd h nofun
    | true =>
      cases hvalid : tokenValid valid with
      | error e =>
        rw [hvalid] at h
        exact absurd h nofun
      | ok known =>
        rw [hvalid] at h
        cases known with
        | none => exact absurd h nofun
        | some c => exact ⟨rfl, h⟩

/-- What may be recorded of a request with these fields. -/
def Allowed (f : Fields) (c : Call) : Prop := Identifies c → UserAccepted f

/-- The fields of the two requests, as they are read. -/
def Reads (request request' : Request H) (f f' : Fields) (x y : List Dict × H) : Prop :=
  request.fields x.2 = f ∧ request'.fields y.2 = f'

omit [Propagator Ctx] in
/-- Requests that differ in their tokens are recorded alike, and their identity only where the
user token was accepted. -/
lemma alike_recordRequest {request request' : Request H} {f f' : Fields}
    (hnone : request.isNone = request'.isNone) (h : SameFields f f') :
    Alike (Noting (Allowed f) (Reads request request' f f') u u')
      (recordRequest noFaults tuple span request : Code Ctx H Unit)
      (recordRequest noFaults tuple span' request') := by
  unfold recordRequest
  rw [← hnone]
  cases request.isNone with
  | true => exact Alike.pure ()
  | false =>
    have hP : ∀ c, ¬ Identifies c → Allowed f c := fun c hnot hidentifies =>
      absurd hidentifies hnot
    apply Alike.reads_bind
    rintro w w' ⟨⟨hf, hf'⟩, -⟩
    rw [hf, hf', ← h.userTokenValid, ← h.serviceTokenValid]
    apply (alike_recordToken hP (by decide) (by decide) h.userToken _).bind_returned
    intro v userValid hvalid
    apply Alike.bind (alike_recordToken hP (by decide) (by decide) h.serviceToken _)
    intro _
    apply Alike.onlyIf
    intro htrue
    obtain rfl := beq_iff_eq.mp htrue
    have haccepted : UserAccepted f := recordToken_valid hvalid
    exact alike_recordIdentity tuple (fun _ _ => haccepted) h.tokenAuth

lemma alike_afterProcess {request request' : Request H} {f f' : Fields}
    (hsampling : isRecording Ctx span = isRecording Ctx span')
    (hnone : request.isNone = request'.isNone) (h : SameFields f f') (result : α) :
    Alike (Noting (Allowed f) (Reads request request' f f') u u')
      (afterProcess tuple span request result : Code Ctx H α)
      (afterProcess tuple span' request' result) := by
  apply Alike.bind (Alike.pure ())
  intro _
  apply Alike.bind _ fun _ => Alike.pure result
  rw [hsampling]
  exact Alike.onlyIf fun _ => alike_recordRequest tuple hnone h

end

section

variable (r : Reading α)

omit [Propagator Ctx] in
lemma alike_recordStatus (hP : ∀ c, ¬ Identifies c → P c) (status : Val) :
    Alike (Noting P S u u') (recordStatus noFaults r span status : Code Ctx H Unit)
      (recordStatus noFaults r span' status) := by
  unfold recordStatus
  cases statusCode r status with
  | none => exact Alike.pure ()
  | some code =>
    have hkey : ¬ Identifies (.setAttribute span "http.response.status_code" (.int code)) := by
      change ¬ isIdentityKey "http.response.status_code" = true
      decide
    apply Alike.bind (alike_setAttribute _ _ (hP _ hkey))
    intro _
    apply Alike.onlyIf
    intro _
    exact alike_setStatus .error none (hP _ id)

/-- The statuses the two requests captured. -/
def Captured (captured captured' : ℕ) (x y : List Dict × H) : Prop :=
  ((deref x.1 captured).get "status").getD .none =
    ((deref y.1 captured').get "status").getD .none

lemma alike_afterApp (hP : ∀ c, ¬ Identifies c → P c)
    (hsampling : isRecording Ctx span = isRecording Ctx span') (captured captured' : ℕ)
    (result : α) :
    Alike (Noting P (Captured captured captured') u u')
      (afterApp r span captured result : Code Ctx H α) (afterApp r span' captured' result) := by
  apply Alike.bind (Alike.pure ())
  intro _
  apply Alike.bind _ fun _ => Alike.pure result
  rw [hsampling]
  apply Alike.onlyIf
  intro _
  apply Alike.reads_bind
  rintro w w' ⟨hstatus, -⟩
  unfold Captured at hstatus
  rw [hstatus]
  exact alike_recordStatus r hP _

end

end

/-! ### Two passes -/

section

variable {ι : Type} {p p' : Pass Ctx H ι α} {P : Call → Prop}

/-- The passes are the same, and what is recorded is allowed. -/
structure Pass.Agree (P : Call → Prop) (p p' : Pass Ctx H ι α) : Prop where
  same : p.Same p'
  allowed : ∀ c ∈ p.recorded, P c

omit [Propagator Ctx] in
lemma Pass.run_of_error {e : Exn} {v : World Ctx H}
    (h : p.wrapping.enter p.before = (.error e, v)) : p.run = (.error e, v) := by
  rw [Pass.run, p.wrapping.opens]
  exact bind_of_error h

omit [Propagator Ctx] in
lemma Pass.run_of_ok {o : Opening Ctx H ι α} {v : World Ctx H}
    (h : p.wrapping.enter p.before = (.ok o, v)) : p.run = o.exit p.result p.left := by
  rw [Pass.run, p.wrapping.opens]
  exact bind_of_ok h

omit [Propagator Ctx] in
/-- Of wrapped code the wrapper sees what it comes to. -/
lemma Pass.run_wrapped {wrapped : ι → Code Ctx H α}
    (h : ∀ input, wrapped input p.inside = (p.result, p.left)) :
    p.wrapping.code wrapped p.before = p.run := by
  rcases henter : p.wrapping.enter p.before with ⟨e | o, v⟩
  · rw [Pass.run_of_error henter, p.wrapping.opens]
    exact bind_of_error henter
  · rw [Pass.run_of_ok henter, p.wrapping.opens, bind_of_ok henter]
    have hinside : p.inside = v := by rw [Pass.inside, henter]
    have hwrapped := h o.input
    rw [hinside] at hwrapped
    unfold finishWith
    rw [hwrapped]

omit [Propagator Ctx] in
lemma Pass.begun_of {out : Except Exn (Opening Ctx H ι α)} {v : World Ctx H} {cs : List Call}
    (h : p.wrapping.enter p.before = (out, v)) (hcalls : v.calls = p.before.calls ++ cs) :
    p.begun = cs := by
  rw [Pass.begun, Pass.inside, h, hcalls, List.drop_left]

omit [Propagator Ctx] in
/-- The wrapped code is not called. -/
lemma Pass.recorded_of_error {e : Exn} (h : p.wrapping.enter p.before = (.error e, p.before)) :
    p.recorded = [] := by
  have hended : p.ended = [] := by rw [Pass.ended, h]
  rw [Pass.recorded, Pass.begun_of h (List.append_nil _).symm, hended]
  rfl

omit [Propagator Ctx] in
/-- The wrapped code is called, and `ds` are the calls on the way out. -/
lemma Pass.recorded_of_ok {o : Opening Ctx H ι α} {v : World Ctx H} {cs ds : List Call}
    (h : p.wrapping.enter p.before = (.ok o, v)) (hv : v.calls = p.before.calls ++ cs)
    (hds : (o.exit p.result p.left).2.calls = p.left.calls ++ ds) : p.recorded = cs ++ ds := by
  have hended : p.ended = ds := by
    rw [Pass.ended, h, Pass.run_of_ok h]
    dsimp only
    rw [hds, List.drop_left]
  rw [Pass.recorded, Pass.begun_of h hv, hended]

omit [Propagator Ctx] in
lemma Pass.agree_of_error {e : Exn} (h : p.wrapping.enter p.before = (.error e, p.before))
    (h' : p'.wrapping.enter p'.before = (.error e, p'.before)) : p.Agree P p' := by
  have hrecorded := Pass.recorded_of_error h
  refine ⟨⟨?_, ?_⟩, ?_⟩
  · rw [Pass.run_of_error h, Pass.run_of_error h']
  · rw [hrecorded, Pass.recorded_of_error h']
  · rw [hrecorded]
    exact fun c hc => absurd hc List.not_mem_nil

omit [Propagator Ctx] in
/-- The wrapped code is called, and the two ways out are alike. -/
lemma Pass.agree_of_ok {S : List Dict × H → List Dict × H → Prop} {o o' : Opening Ctx H ι α}
    {v v' : World Ctx H} {cs cs' : List Call} (h : p.wrapping.enter p.before = (.ok o, v))
    (h' : p'.wrapping.enter p'.before = (.ok o', v')) (hv : v.calls = p.before.calls ++ cs)
    (hv' : v'.calls = p'.before.calls ++ cs') (hcs : cs.map withoutIds = cs'.map withoutIds)
    (hP : ∀ c ∈ cs, P c) (hresult : p.result = p'.result)
    (hS : S (p.left.dicts, p.left.host) (p'.left.dicts, p'.left.host))
    (hexit : ∀ r, Alike (Noting P S p.left p'.left) (o.exit r) (o'.exit r)) :
    p.Agree P p' := by
  have hstart : Noting P S p.left p'.left p.left p'.left :=
    ⟨hS, [], [], (List.append_nil _).symm, (List.append_nil _).symm, rfl,
      fun c hc => absurd hc List.not_mem_nil⟩
  obtain ⟨hout, -, ds, ds', hds, hds', hsame, hdsP⟩ := hexit p.result _ _ hstart
  have hrecorded : p.recorded = cs ++ ds := Pass.recorded_of_ok h hv hds
  have hrecorded' : p'.recorded = cs' ++ ds' := by
    rw [hresult] at hds'
    exact Pass.recorded_of_ok h' hv' hds'
  refine ⟨⟨?_, ?_⟩, ?_⟩
  · rw [Pass.run_of_ok h, Pass.run_of_ok h', ← hresult]
    exact hout
  · rw [hrecorded, hrecorded', List.map_append, List.map_append, hcs, hsame]
  · rw [hrecorded]
    intro c hc
    rcases List.mem_append.mp hc with hmem | hmem
    · exact hP c hmem
    · exact hdsP c hmem

omit [Propagator Ctx] in
/-- Instrumentation is off in both. -/
lemma Pass.agree_of_off {input input' : ι}
    (h : p.wrapping.enter p.before = (.ok (.call input), p.before))
    (h' : p'.wrapping.enter p'.before = (.ok (.call input'), p'.before))
    (hresult : p.result = p'.result) : p.Agree P p' :=
  Pass.agree_of_ok (S := fun _ _ => True) h h' (List.append_nil _).symm (List.append_nil _).symm
    rfl (fun _ hc => absurd hc List.not_mem_nil) hresult trivial fun r => Alike.liftExcept r

/-- Whether the one span of each is recording. -/
lemma Pass.sampling {span span' parent parent' : SpanContext} {name name' : String}
    {kind kind' : SpanKind} {attributes attributes' : Dict} (h : p.SameSampling p')
    (hbegun : p.begun = [.start span parent name kind attributes])
    (hbegun' : p'.begun = [.start span' parent' name' kind' attributes']) :
    isRecording Ctx span = isRecording Ctx span' := by
  unfold Pass.SameSampling at h
  rw [hbegun, hbegun'] at h
  exact (List.cons.inj h).1

end

/-! ### The way in of a request -/

lemma environAttribute_congr {environ environ' : Dict} {key : String}
    (h : environ.get key = environ'.get key) (name : String) :
    environAttribute environ key name = environAttribute environ' key name := by
  unfold environAttribute
  rw [h]

lemma textOf_congr {environ environ' : Dict} {key : String}
    (h : environ.get key = environ'.get key) : textOf environ key = textOf environ' key := by
  unfold textOf
  rw [h]

lemma environAttribute_key {environ d : Dict} {key name : String}
    (h : environAttribute environ key name = .ok d) : ∀ item ∈ d, item.1 = name := by
  obtain ⟨given, -, h⟩ := of_bind_ok h
  intro item hitem
  cases given with
  | false =>
    obtain rfl := Except.ok.inj h
    exact absurd hitem List.not_mem_nil
  | true =>
    obtain ⟨text, -, h⟩ := of_bind_ok h
    obtain rfl := Except.ok.inj h
    rw [List.mem_singleton.mp hitem]

section

variable {w w' : World Ctx H} {environ environ' : Arg}

lemma environContext_of_ne (h : ∀ ref, environ ≠ .dict ref) (dicts : List Dict) :
    (HopSpecs.environContext dicts environ : Except Exn (Option Ctx)) = .ok none := by
  cases environ with
  | dict ref => exact absurd rfl (h ref)
  | _ => rfl

lemma environContext_same (hextract : ReadsNoToken Ctx) {dicts dicts' : List Dict}
    (h : SameEnviron dicts dicts' environ environ') :
    (HopSpecs.environContext dicts environ : Except Exn (Option Ctx)) =
      HopSpecs.environContext dicts' environ' := by
  rcases h with ⟨ref, ref', rfl, rfl, hget⟩ | ⟨hne, hne'⟩
  · have hsame : (Propagator.extract (environGetter (deref dicts ref)) : Except Exn Ctx) =
        Propagator.extract (environGetter (deref dicts' ref')) := by
      apply hextract
      intro key hkey
      unfold environGetter
      rw [hget _ hkey]
    simp only [HopSpecs.environContext, hsame]
  · rw [environContext_of_ne hne, environContext_of_ne hne']

lemma environParentContext_same (hextract : ReadsNoToken Ctx) (hscope : SameScope w w')
    (h : SameEnviron w.dicts w'.dicts environ environ') :
    (environParentContext noFaults environ w).1 =
      (environParentContext noFaults environ' w').1 := by
  cases hvalid : (spanIn w.current).isValid with
  | true =>
    unfold environParentContext
    rw [bind_of_ok (getCurrent_apply w), bind_of_ok (getCurrent_apply w'), if_pos hvalid,
      if_pos (hscope.valid.symm.trans hvalid)]
    rfl
  | false =>
    rw [HopSpecs.environParentContext_eq environ hvalid,
      HopSpecs.environParentContext_eq environ' (hscope.valid.symm.trans hvalid),
      environContext_same hextract h]

end

variable (r : Reading α) {environ environ' : Arg} {dicts dicts' : List Dict}

omit [Propagator Ctx] in
/-- Of what is no dictionary nothing is read. -/
lemma request_of_ne (h : ∀ ref, environ ≠ .dict ref) (dicts : List Dict) :
    requestAttributes r dicts environ = .ok [] ∧
      requestSpanName r dicts environ = .ok "keystonemiddleware.request" := by
  cases environ with
  | dict ref => exact absurd rfl (h ref)
  | _ => exact ⟨rfl, rfl⟩

omit [Propagator Ctx] in
lemma requestAttributes_same (h : SameEnviron dicts dicts' environ environ') :
    requestAttributes r dicts environ = requestAttributes r dicts' environ' := by
  rcases h with ⟨ref, ref', rfl, rfl, hget⟩ | ⟨hne, hne'⟩
  · dsimp only [requestAttributes]
    rw [environAttribute_congr (hget "REQUEST_METHOD" (by decide)),
      environAttribute_congr (hget "PATH_INFO" (by decide)),
      environAttribute_congr (hget "wsgi.url_scheme" (by decide)),
      environAttribute_congr (hget "SERVER_NAME" (by decide)),
      hget "SERVER_PORT" (by decide)]
  · rw [(request_of_ne r hne dicts).1, (request_of_ne r hne' dicts').1]

omit [Propagator Ctx] in
lemma requestSpanName_same (h : SameEnviron dicts dicts' environ environ') :
    requestSpanName r dicts environ = requestSpanName r dicts' environ' := by
  rcases h with ⟨ref, ref', rfl, rfl, hget⟩ | ⟨hne, hne'⟩
  · dsimp only [requestSpanName]
    rw [textOf_congr (hget "REQUEST_METHOD" (by decide)),
      textOf_congr (hget "PATH_INFO" (by decide))]
  · rw [(request_of_ne r hne dicts).2, (request_of_ne r hne' dicts').2]

/-- The span of a request is started alike. -/
lemma readEnviron_same {w w' : World Ctx H} (hextract : ReadsNoToken Ctx)
    (hscope : SameScope w w') (h : SameEnviron w.dicts w'.dicts environ environ') :
    readEnviron r environ w = readEnviron r environ' w' := by
  unfold readEnviron
  rw [environParentContext_same hextract hscope h, requestAttributes_same r h,
    requestSpanName_same r h]

omit [Propagator Ctx] in
lemma requestAttributes_keys {d : Dict} (h : requestAttributes r dicts environ = .ok d) :
    ∀ item ∈ d, isIdentityKey item.1 = false := by
  by_cases hdict : ∃ ref, environ = .dict ref
  · obtain ⟨ref, rfl⟩ := hdict
    obtain ⟨method, hmethod, h⟩ := of_bind_ok h
    obtain ⟨path, hpath, h⟩ := of_bind_ok h
    obtain ⟨scheme, hscheme, h⟩ := of_bind_ok h
    obtain ⟨host, hhost, h⟩ := of_bind_ok h
    obtain rfl := Except.ok.inj h
    intro item hitem
    simp only [List.mem_append] at hitem
    rcases hitem with (((hitem | hitem) | hitem) | hitem) | hitem
    · rw [environAttribute_key hmethod item hitem]
      decide
    · rw [environAttribute_key hpath item hitem]
      decide
    · rw [environAttribute_key hscheme item hitem]
      decide
    · rw [environAttribute_key hhost item hitem]
      decide
    · split at hitem
      · exact absurd hitem List.not_mem_nil
      · rw [List.mem_singleton.mp hitem]
        exact (by decide : isIdentityKey "server.port" = false)
  · have hne : ∀ ref, environ ≠ .dict ref := fun ref heq => hdict ⟨ref, heq⟩
    obtain rfl := Except.ok.inj ((request_of_ne r hne dicts).1.symm.trans h)
    exact fun item hitem => absurd hitem List.not_mem_nil

lemma readEnviron_keys {w : World Ctx H} {q : RequestSpan Ctx}
    (h : readEnviron r environ w = .ok q) :
    ∀ item ∈ q.attributes, isIdentityKey item.1 = false := by
  obtain ⟨⟨parent, kind⟩, -, h⟩ := of_bind_ok h
  obtain ⟨attributes, hattributes, h⟩ := of_bind_ok h
  obtain ⟨name, -, h⟩ := of_bind_ok h
  obtain rfl := Except.ok.inj h
  exact requestAttributes_keys r hattributes

/-- The application is called inside of the request span. -/
def Served.opening (q : Served Ctx H α) (started : RequestSpan Ctx) :
    Opening Ctx H (Invocation Ctx H) α where
  input := .wsgi q.environ (tracedStartResponse q.startResponse q.before.dicts.length)
  exit := exitOf (started.span q.before) q.before.current
    (setErrorStatus noFaults (started.span q.before))
    (afterApp r (started.span q.before) q.before.dicts.length)

lemma Served.enter_ok {q : Served Ctx H α} (hon : enabled q.before.current = true)
    {started : RequestSpan Ctx} (h : readEnviron r q.environ q.before = .ok started) :
    (q.pass r).wrapping.enter q.before =
      (.ok (q.opening r started), started.world q.before) := by
  have hread := enterCall_read r q.environ q.startResponse hon
  rw [h] at hread
  obtain ⟨hparent, -⟩ := hread
  obtain ⟨⟨parent, kind⟩, hctx, h⟩ := of_bind_ok h
  obtain ⟨attributes, hattributes, h⟩ := of_bind_ok h
  obtain ⟨name, hname, h⟩ := of_bind_ok h
  obtain rfl := Except.ok.inj h
  change enterCall r (.wsgi q.environ q.startResponse) q.before = _
  unfold enterCall
  dsimp only
  rw [guard_on hon, bind_of_ok hparent]
  dsimp only
  rw [bind_of_ok (reads_apply _ q.before), hattributes, hname]
  rfl

/-- The way in to two requests of which the same is read: instrumentation is off, or reading raises,
or the application is called. -/
lemma Served.enter_same {q q' : Served Ctx H α} (henabled : enabled q.before.current =
      enabled q'.before.current)
    (hsame : readEnviron r q.environ q.before = readEnviron r q'.environ q'.before) :
    (∃ input input', (q.pass r).wrapping.enter q.before = (.ok (.call input), q.before) ∧
        (q'.pass r).wrapping.enter q'.before = (.ok (.call input'), q'.before)) ∨
      (∃ e, (q.pass r).wrapping.enter q.before = (.error e, q.before) ∧
        (q'.pass r).wrapping.enter q'.before = (.error e, q'.before)) ∨
      ∃ started, enabled q.before.current = true ∧
        readEnviron r q.environ q.before = .ok started ∧
        (q.pass r).wrapping.enter q.before =
          (.ok (q.opening r started), started.world q.before) ∧
        (q'.pass r).wrapping.enter q'.before =
          (.ok (q'.opening r started), started.world q'.before) := by
  cases hon : enabled q.before.current with
  | false => exact .inl ⟨_, _, guard_off hon, guard_off (henabled.symm.trans hon)⟩
  | true =>
    have hon' := henabled.symm.trans hon
    cases hread : readEnviron r q.environ q.before with
    | error e =>
      have henter := enterCall_read r q.environ q.startResponse hon
      have henter' := enterCall_read r q'.environ q'.startResponse hon'
      rw [hread] at henter
      rw [← hsame, hread] at henter'
      exact .inr (.inl ⟨e, henter, henter'⟩)
    | ok started =>
      exact .inr (.inr ⟨started, rfl, rfl, Served.enter_ok r hon hread,
        Served.enter_ok r hon' (hsame.symm.trans hread)⟩)

/-- Two requests of which the same is read are recorded the same, and nothing of an identity. -/
lemma Served.agree {q q' : Served Ctx H α} (h : q.Alike r q')
    (hsame : readEnviron r q.environ q.before = readEnviron r q'.environ q'.before) :
    (q.pass r).Agree (fun c => ¬ Identifies c) (q'.pass r) := by
  rcases Served.enter_same r h.scope.enabled hsame with ⟨input, input', henter, henter'⟩ |
    ⟨e, henter, henter'⟩ | ⟨started, hon, hread, henter, henter'⟩
  · exact Pass.agree_of_off henter henter' h.result
  · exact Pass.agree_of_error henter henter'
  · have hsampling := Pass.sampling h.sampling (Pass.begun_of henter rfl)
      (Pass.begun_of henter' rfl)
    refine Pass.agree_of_ok (S := Captured q.before.dicts.length q'.before.dicts.length) henter
      henter' rfl rfl rfl ?_ h.result (h.status hon) fun result => ?_
    · intro c hc
      rw [List.mem_singleton.mp hc]
      rintro ⟨item, hitem, hkey⟩
      exact absurd ((readEnviron_keys r hread item hitem).symm.trans hkey) nofun
    · apply alike_exitOf (fun c hnot => hnot) hsampling
      · intro e
        exact alike_setErrorStatus (fun _ => id) e
      · intro a
        exact alike_afterApp r (fun c hnot => hnot) hsampling _ _ a

/-- Inside of the two calls the scopes are the same again. -/
lemma Served.inside_same {q q' : Served Ctx H α} (hscope : SameScope q.before q'.before)
    (hsame : readEnviron r q.environ q.before = readEnviron r q'.environ q'.before) :
    SameScope (q.pass r).inside (q'.pass r).inside := by
  have hinside {x : Served Ctx H α} {out : Except Exn (Opening Ctx H (Invocation Ctx H) α)}
      {v : World Ctx H} (henter : (x.pass r).wrapping.enter x.before = (out, v)) :
      (x.pass r).inside = v := congrArg Prod.snd henter
  rcases Served.enter_same r hscope.enabled hsame with ⟨input, input', henter, henter'⟩ |
    ⟨e, henter, henter'⟩ | ⟨started, -, -, henter, henter'⟩
  · rw [hinside henter, hinside henter']
    exact hscope
  · rw [hinside henter, hinside henter']
    exact hscope
  · rw [hinside henter, hinside henter']
    refine ⟨?_, ?_⟩
    · exact (enabled_setSpan _ _).trans (hscope.enabled.trans (enabled_setSpan _ _).symm)
    · have hvalid (v : World Ctx H) : (spanIn (started.world v).current).isValid = true := by
        rw [RequestSpan.world, spanIn_setSpan]
        exact newSpan_valid _ _
      rw [hvalid, hvalid]

/-! ### The way in of an authentication -/

section

variable {w w' : World Ctx H}

omit r in
lemma SameCarrier.context (hextract : ReadsNoToken Ctx) {headers headers' : Arg}
    (h : SameCarrier dicts dicts' headers headers') :
    (requestContext dicts headers : Except Exn (Option Ctx)) = requestContext dicts' headers' := by
  by_cases hnone : headers = .val .none
  · rw [hnone, h.isNone.mp hnone]
    rfl
  · have hsame : (carried dicts headers : Except Exn Ctx) = carried dicts' headers' := by
      apply hextract
      intro key hkey
      unfold defaultGetter
      rw [h.get key hkey]
    rw [requestContext_of_ne hnone, requestContext_of_ne fun heq => hnone (h.isNone.mpr heq),
      hsame]

lemma parentContext_same (hextract : ReadsNoToken Ctx) (hscope : SameScope w w')
    {request request' : Request H}
    (h : SameHeaders w.dicts w'.dicts (request.headers w.host) (request'.headers w'.host)) :
    (parentContext noFaults request w).1 = (parentContext noFaults request' w').1 := by
  cases hvalid : (spanIn w.current).isValid with
  | true =>
    unfold parentContext
    rw [bind_of_ok (getCurrent_apply w), bind_of_ok (getCurrent_apply w'), if_pos hvalid,
      if_pos (hscope.valid.symm.trans hvalid)]
    rfl
  | false =>
    rw [parentContext_eq request hvalid,
      parentContext_eq request' (hscope.valid.symm.trans hvalid)]
    unfold SameHeaders at h
    cases hread : getattr (request.headers w.host) (.val .none) with
    | error e =>
      cases hread' : getattr (request'.headers w'.host) (.val .none) with
      | error e' =>
        rw [hread, hread'] at h
        obtain rfl : e = e' := h
        rfl
      | ok headers' =>
        rw [hread, hread'] at h
        exact absurd h id
    | ok headers =>
      cases hread' : getattr (request'.headers w'.host) (.val .none) with
      | error e' =>
        rw [hread, hread'] at h
        exact absurd h id
      | ok headers' =>
        rw [hread, hread'] at h
        change ((requestContext w.dicts headers).map _) = (requestContext w'.dicts headers').map _
        rw [SameCarrier.context hextract h]

end

variable (tuple : List String → Val)

/-- The way in to an authentication that no parent is found for. -/
lemma enterProcess_error {args : List (Request H)} {kwargs : List (String × Request H)}
    {w : World Ctx H} (hon : enabled w.current = true) {e : Exn}
    (h : (parentContext noFaults (requestArg args kwargs) w).1 = .error e) :
    (enterProcess tuple args kwargs w :
      Except Exn (Opening Ctx H _ α) × World Ctx H) = (.error e, w) := by
  have hparent : parentContext noFaults (requestArg args kwargs) w = (.error e, w) :=
    Prod.ext h (parentContext_silent _ w)
  unfold enterProcess
  rw [guard_on hon]
  exact bind_of_error hparent

/-- The way in to an authentication, and its way out. -/
lemma enterProcess_exit {args : List (Request H)} {kwargs : List (String × Request H)}
    {w : World Ctx H} (hon : enabled w.current = true) {parent : Option Ctx} {kind : SpanKind}
    (h : (parentContext noFaults (requestArg args kwargs) w).1 = .ok (parent, kind)) :
    (enterProcess tuple args kwargs w : Except Exn (Opening Ctx H _ α) × World Ctx H) =
      (.ok ⟨(args, kwargs), exitOf (authSpan parent w) w.current
        (fun e => do
          setErrorStatus noFaults (authSpan parent w) e
          recordRequest noFaults tuple (authSpan parent w) (requestArg args kwargs))
        (afterProcess tuple (authSpan parent w) (requestArg args kwargs))⟩,
        entered parent kind w) := by
  have hparent : parentContext noFaults (requestArg args kwargs) w = (.ok (parent, kind), w) :=
    Prod.ext h (parentContext_silent _ w)
  unfold enterProcess
  rw [guard_on hon]
  dsimp only
  rw [bind_of_ok hparent]
  rfl

/-- Two authentications that find the same parent are recorded the same, and an identity only where
the user token was accepted. -/
lemma Processed.agree {p p' : Processed Ctx H α} (hscope : SameScope p.before p'.before)
    (h : p.Alike tuple p') (hsame : p.decided = p'.decided) :
    (p.pass tuple).Agree (Allowed p.fields) (p'.pass tuple) := by
  cases hon : enabled p.before.current with
  | false =>
    exact Pass.agree_of_off (guard_off hon) (guard_off (hscope.enabled.symm.trans hon)) h.result
  | true =>
    have hon' := hscope.enabled.symm.trans hon
    cases hparent : p.decided with
    | error e =>
      exact Pass.agree_of_error (enterProcess_error tuple hon hparent)
        (enterProcess_error tuple hon' (hsame.symm.trans hparent))
    | ok decided =>
      obtain ⟨parent, kind⟩ := decided
      have henter := enterProcess_exit (α := α) tuple hon hparent
      have henter' := enterProcess_exit (α := α) tuple hon' (hsame.symm.trans hparent)
      have hsampling := Pass.sampling h.sampling (Pass.begun_of henter rfl)
        (Pass.begun_of henter' rfl)
      have hP : ∀ c, ¬ Identifies c → Allowed p.fields c :=
        fun c hnot hidentifies => absurd hidentifies hnot
      refine Pass.agree_of_ok (S := Reads p.request p'.request p.fields p'.fields) henter henter'
        rfl rfl rfl ?_ h.result ⟨rfl, rfl⟩ fun result => ?_
      · intro c hc
        rw [List.mem_singleton.mp hc]
        exact hP _ fun ⟨item, hitem, _⟩ => absurd hitem List.not_mem_nil
      · apply alike_exitOf hP hsampling
        · intro e
          apply Alike.bind (alike_setErrorStatus (fun _ => hP _ id) e)
          intro _
          exact alike_recordRequest tuple h.isNone h.fields
        · intro a
          exact alike_afterProcess tuple hsampling h.isNone h.fields a

/-! ### Both spans -/

lemma Served.alike_refl (q : Served Ctx H α) : q.Alike r q where
  scope := ⟨rfl, rfl⟩
  environ := by
    by_cases hdict : ∃ ref, q.environ = .dict ref
    · obtain ⟨ref, href⟩ := hdict
      exact .inl ⟨ref, ref, href, href, fun _ _ => rfl⟩
    · have hne : ∀ ref, q.environ ≠ .dict ref := fun ref heq => hdict ⟨ref, heq⟩
      exact .inr ⟨hne, hne⟩
  sampling := rfl
  result := rfl
  status _ := rfl

omit r in
lemma Processed.alike_refl (p : Processed Ctx H α) : p.Alike tuple p where
  headers := by
    unfold SameHeaders
    cases getattr (p.request.headers p.before.host) (.val .none) with
    | error e => rfl
    | ok headers => exact ⟨Iff.rfl, fun _ _ => rfl⟩
  sampling := rfl
  isNone := rfl
  result := rfl
  fields := ⟨.inr rfl, rfl, .inr rfl, rfl, rfl⟩

/-- **Tokens stay out of the spans.** Two requests that differ in the values of their tokens, and
whose wrapped code comes to the same, are recorded the same, on the request span and on the
authentication span. Of every request the identity is recorded on the authentication span only, and
only where the user token was there and was found valid. -/
theorem tokens_do_not_flow {β : Type} :
    (ReadsNoToken Ctx → ∀ x x' : Exchange Ctx H α β r, x.Alike tuple x' → x.Same tuple x') ∧
      (∀ q : Served Ctx H α, ∀ c ∈ (q.pass r).recorded, ¬ Identifies c) ∧
      ∀ p : Processed Ctx H β, ∀ c ∈ (p.pass tuple).recorded,
        Identifies c → UserAccepted p.fields := by
  refine ⟨?_, ?_, ?_⟩
  · intro hextract x x' h
    have hread := readEnviron_same r hextract h.call.scope h.call.environ
    have hinside := Served.inside_same r h.call.scope hread
    have hscope : SameScope x.process.before x'.process.before := by
      refine ⟨?_, ?_⟩
      · rw [x.within, x'.within]
        exact hinside.enabled
      · rw [x.within, x'.within]
        exact hinside.valid
    have hdecided : x.process.decided = x'.process.decided :=
      parentContext_same hextract hscope h.process.headers
    exact ⟨environParentContext_same hextract h.call.scope h.call.environ,
      (Served.agree r h.call hread).same, hdecided,
      (Processed.agree tuple hscope h.process hdecided).same⟩
  · intro q
    exact (Served.agree r (q.alike_refl r) rfl).allowed
  · intro p
    exact (Processed.agree tuple ⟨rfl, rfl⟩ (p.alike_refl tuple) rfl).allowed

end

/-! ### One user with two tokens -/

lemma readsNoToken_bare : ReadsNoToken BareContext := by
  intro getter getter' h
  change extractBare getter = extractBare getter'
  unfold extractBare
  rw [h "traceparent" (by decide)]

def user : AuthRef where
  userId := .ok (.str "42")
  username := .ok (.str "demo")
  projectId := .ok (.str "p1")
  projectName := .ok .none
  domainId := .ok .none
  roleNames := .ok none

/-- A request with the user token `token`, and no service token. -/
def tokenRequest (token : String) : Request Unit where
  isNone := false
  headers _ := .ok (.dict 1)
  fields _ := {
    userToken := .ok (.str token), userTokenValid := .ok (.bool true)
    serviceToken := .ok .none, serviceTokenValid := .error (missing "service_token_valid")
    tokenAuth := .ok (some (.ok (some user))) }

/-- The environment and the headers of the request. -/
def tokenDicts (token : String) : List Dict :=
  [[("REQUEST_METHOD", .str "GET"), ("HTTP_X_AUTH_TOKEN", .str token)],
    [("X-Auth-Token", .str token)]]

def tokenCall (token : String) : Served BareContext Unit Unit where
  environ := .dict 0
  startResponse _ _ := pure (.val .none)
  before := ⟨empty, [], tokenDicts token, ()⟩
  result := .ok ()
  left := ⟨empty, [], tokenDicts token, ()⟩

def tokenExchange (token : String) : Exchange BareContext Unit Unit Unit Reading.nothing where
  call := tokenCall token
  process := ⟨[tokenRequest token], [], ((tokenCall token).pass Reading.nothing).inside, .ok (),
    ((tokenCall token).pass Reading.nothing).inside⟩
  within := rfl

/-- Where no token is looked for, there is none. -/
lemma get_environ (token : String) {key : String} (h : key ∉ tokenKeys) :
    (deref (tokenDicts token) 0).get key = Dict.get [("REQUEST_METHOD", .str "GET")] key := by
  have hne : key ≠ "HTTP_X_AUTH_TOKEN" := by
    rintro rfl
    exact h (by decide)
  change Dict.get (("REQUEST_METHOD", .str "GET") :: ("HTTP_X_AUTH_TOKEN", .str token) :: []) key =
    _
  rw [Dict.get_cons, Dict.get_cons, Dict.get_cons, if_neg hne]

lemma get_headers (token : String) {key : String} (h : ¬ IsTokenHeader key) :
    (Arg.dict 1).get (tokenDicts token ++ [[]]) key .none = .ok .none := by
  have hne : key ≠ "X-Auth-Token" := by
    rintro rfl
    exact h (by decide)
  change Except.ok ((Dict.get (("X-Auth-Token", .str token) :: []) key).getD .none) = _
  rw [Dict.get_cons, if_neg hne]
  rfl

lemma call_sampled (token : String) :
    (startedSpans ((tokenExchange token).call.pass Reading.nothing).begun).map
      (isRecording BareContext) = [true] := rfl

lemma process_sampled (token : String) :
    (startedSpans ((tokenExchange token).process.pass fun _ => .none).begun).map
      (isRecording BareContext) = [true] := rfl

lemma tokenExchange_alike {token token' : String} (h : (Val.str token).truth = .ok true)
    (h' : (Val.str token').truth = .ok true) :
    (tokenExchange token).Alike (fun _ => .none) (tokenExchange token') where
  call := {
    scope := ⟨rfl, rfl⟩
    environ := .inl ⟨0, 0, rfl, rfl, fun _ hkey =>
      (get_environ token hkey).trans (get_environ token' hkey).symm⟩
    sampling := (call_sampled token).trans (call_sampled token').symm
    result := rfl
    status _ := rfl }
  process := {
    headers := ⟨Iff.rfl, fun _ hkey =>
      (get_headers token hkey).trans (get_headers token' hkey).symm⟩
    sampling := (process_sampled token).trans (process_sampled token').symm
    isNone := rfl
    result := rfl
    fields := ⟨.inl ⟨true, ⟨_, rfl, h⟩, _, rfl, h'⟩, rfl, .inr rfl, rfl, rfl⟩ }

/-- A user that comes with one token or another. -/
theorem tokens_do_not_flow_user :
    (tokenExchange "first").Same (fun _ => .none) (tokenExchange "second") ∧
      (∃ c ∈ ((tokenExchange "first").process.pass fun _ => .none).recorded, Identifies c) ∧
      UserAccepted (tokenExchange "first").process.fields := by
  have hrecorded : ∃ c ∈ ((tokenExchange "first").process.pass fun _ => .none).recorded,
      Identifies c := by
    exact ⟨_, List.mem_of_getElem? (i := 4) rfl, rfl⟩
  have hflow := @tokens_do_not_flow BareContext Unit Unit _ Reading.nothing (fun _ => .none) Unit
  obtain ⟨c, hc, hidentifies⟩ := hrecorded
  exact ⟨hflow.1 readsNoToken_bare _ _ (tokenExchange_alike rfl rfl), ⟨c, hc, hidentifies⟩,
    hflow.2.2 _ c hc hidentifies⟩

end OtelOpenstack.TokenFlows
