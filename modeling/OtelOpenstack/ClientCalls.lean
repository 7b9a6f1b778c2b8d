import OtelOpenstack.HostSafety
import OtelOpenstack.Scopes

/-!
The two HTTP clients' wrappers and their callers: what a wrapper asks of the values it is given,
what the wrapped callable is called with, and what is said of the request by its span.
-/

set_option autoImplicit false

namespace OtelOpenstack.ClientCalls

open Effects Python Otel ContextApi Carriers Http HostSafety HopSpecs Wires

/-! ### The two wrappers as one -/

/-- Whose requests: those of a keystoneauth1 session, or of a proxy of the SDK. -/
inductive Client
  | session
  | proxy (proxy : OpenStackSdk.Proxy)

section

variable {Ctx H α : Type}

/-- What is read before the span is started, as the source reads it: its name and attributes. -/
def Client.plan (r : Reading α) (dicts : List Dict) (args : Args) (kwargs : Kwargs) :
    Client → Except Exn (String × Dict)
  | .session => do
    let method ← httpMethod r dicts args kwargs
    let url ← httpUrl dicts args kwargs
    let service ← KeystoneAuth.serviceType dicts kwargs
    let parsed ← r.urlparse url
    let attributes ← KeystoneAuth.attributes r dicts method url service
      ((kwargs.lookup "global_request_id").getD (.val .none))
    pure (KeystoneAuth.spanName method parsed.path, attributes)
  | .proxy p => do
    let method ← httpMethod r dicts args kwargs
    let url ← httpUrl dicts args kwargs
    let requestId ← OpenStackSdk.globalRequestId p dicts args kwargs
    let service ← p.serviceType
    let region ← p.regionName
    let names ← p.extractName url service
    let attributes ← OpenStackSdk.attributes r dicts method url service region requestId
    pure (method ++ " " ++ String.intercalate "." names, attributes)

def Client.copyHeaders (dicts : List Dict) (kwargs : Kwargs) : Client → Except Exn Dict
  | .session => KeystoneAuth.copyHeaders dicts kwargs
  | .proxy _ => OpenStackSdk.copyHeaders dicts kwargs

variable [Propagator Ctx]

def Client.run (F : Faults) (r : Reading α) (wrapped : Wrapped Ctx H α) :
    Client → Wrapped Ctx H α
  | .session => KeystoneAuth.requestWrapper F r wrapped
  | .proxy p => OpenStackSdk.requestWrapper F r p wrapped

/-- Only a session's wrapper reads the exception. -/
def Client.noteError (r : Reading α) (span : SpanContext) (e : Exn) : Client → Code Ctx H Unit
  | .session =>
    onlyIf (e.isException && isRecording Ctx span) (KeystoneAuth.recordError noFaults r span e)
  | .proxy _ => pure ()

/-- What a wrapper does after the call. -/
def Client.settle (r : Reading α) (span : SpanContext) (client : Client) :
    Except Exn α → Code Ctx H α
  | .ok response => do
    mayRaise noFaults .isRecording
    onlyIf (isRecording Ctx span) (recordResponse noFaults r span (r.response response))
    pure response
  | .error e => do
    client.noteError r span e
    raise e

/-- The block in the span. -/
def Client.body (r : Reading α) (wrapped : Wrapped Ctx H α) (dicts : List Dict) (args : Args)
    (kwargs : Kwargs) (span : SpanContext) (client : Client) : Code Ctx H α := do
  let copy ← liftExcept (client.copyHeaders dicts kwargs)
  let headers ← newDict copy
  inject noFaults (.dict headers)
  finishWith (wrapped args (setKwarg kwargs "headers" (.dict headers))) (client.settle r span)

/-- What a session's wrapper does around and after the call. -/
lemma onException_settle (r : Reading α) (span : SpanContext) (m : Code Ctx H α) :
    (do
      let response ← onException noFaults span (KeystoneAuth.recordError noFaults r span) m
      mayRaise noFaults .isRecording
      onlyIf (isRecording Ctx span) (recordResponse noFaults r span (r.response response))
      pure response) = finishWith m (Client.session.settle r span) := by
  funext w
  unfold onException finishWith
  rcases hm : m w with ⟨e | a, v⟩
  · rw [bind_apply, tryExcept_of_error hm]
    dsimp only [Client.settle, Client.noteError]
    cases e.isException with
    | false => rfl
    | true =>
      cases isRecording Ctx span with
      | false => rfl
      | true =>
        obtain ⟨e', hraise⟩ := Openings.reraise_apply (α := α)
          (KeystoneAuth.recordError noFaults r span e) e v
        have hhandled : (do
            onlyIf true do
              mayRaise noFaults .isRecording
              onlyIf true (KeystoneAuth.recordError noFaults r span e)
            raise e : Code Ctx H α) v = (.error e', _) := hraise
        rw [hhandled]
        exact hraise.symm
  · rw [bind_of_ok (tryExcept_of_ok hm)]
    rfl

omit [Propagator Ctx] in
lemma liftExcept_bind {β γ : Type} (x : Except Exn β) (f : β → Except Exn γ)
    (g : γ → Code Ctx H α) :
    liftExcept (x >>= f) >>= g = liftExcept x >>= fun b => liftExcept (f b) >>= g := by
  cases x <;> rfl

omit [Propagator Ctx] in
lemma liftExcept_pure {β : Type} (b : β) (g : β → Code Ctx H α) :
    liftExcept (pure b) >>= g = g b := rfl

/-- A result is looked at, and handed on. -/
lemma settle_response (r : Reading α) (span : SpanContext) (p : OpenStackSdk.Proxy)
    (m : Code Ctx H α) :
    (do
      let response ← m
      mayRaise noFaults .isRecording
      onlyIf (isRecording Ctx span) (recordResponse noFaults r span (r.response response))
      pure response) = finishWith m ((Client.proxy p).settle r span) := by
  funext w
  unfold finishWith
  rcases hm : m w with ⟨e | a, v⟩
  · rw [bind_of_error hm]
    rfl
  · rw [bind_of_ok hm]
    rfl

/-- **One wrapper.** Both clients ask first, and have their caller's request made in a span of
its own, with headers of its own. -/
lemma run_of_enabled (client : Client) (r : Reading α) (wrapped : Wrapped Ctx H α) (args : Args)
    (kwargs : Kwargs) {w : World Ctx H} (hon : enabled w.current = true) :
    client.run noFaults r wrapped args kwargs w =
      (do
        let plan ← liftExcept (client.plan r w.dicts args kwargs)
        startAsCurrentSpan noFaults plan.1 .client none plan.2 fun span =>
          client.body r wrapped w.dicts args kwargs span) w := by
  cases client with
  | session =>
    change KeystoneAuth.requestWrapper noFaults r wrapped args kwargs w = _
    unfold KeystoneAuth.requestWrapper
    rw [guard_on hon, bind_of_ok (reads_apply _ w)]
    simp only [Client.plan, liftExcept_bind, liftExcept_pure, onException_settle]
    rfl
  | proxy p =>
    change OpenStackSdk.requestWrapper noFaults r p wrapped args kwargs w = _
    unfold OpenStackSdk.requestWrapper
    rw [guard_on hon, bind_of_ok (reads_apply _ w)]
    simp only [Client.plan, liftExcept_bind, liftExcept_pure, settle_response _ _ p]
    rfl

end

/-! ### Recording what came of a request -/

section

variable {Ctx H α : Type} (r : Reading α) (span : SpanContext)

/-- What reading the URL of a response comes out with. -/
def readUrl (response : Option Response) : Except Exn Unit :=
  match response.bind Response.url with
  | none => .ok ()
  | some url =>
    if url = "" then .ok ()
    else do
      let parsed ← r.urlparse url
      let _ ← parsed.port
      pure ()

/-- The status a response has, on the span. -/
def statusCalls (response : Option Response) : List Call :=
  match response.bind Response.statusCode with
  | none => []
  | some code =>
    .setAttribute span "http.response.status_code" (.int code) ::
      if 400 ≤ code then [.setStatus span .error none] else []

/-- A call that sets an attribute. -/
def IsAttribute : Call → Prop
  | .setAttribute _ _ _ => True
  | _ => False

/-- One attribute, and then what sets attributes. -/
lemma set_attribute_then {m : Code Ctx H Unit} {res : Except Exn Unit} (key : String)
    (value : Val)
    (h : ∀ v, ∃ cs, (∀ c ∈ cs, IsAttribute c) ∧ m v = (res, v.called cs)) (w : World Ctx H) :
    ∃ cs, (∀ c ∈ cs, IsAttribute c) ∧
      (do
        setAttribute noFaults span key value
        m) w = (res, w.called cs) := by
  obtain ⟨cs, hcs, hm⟩ := h (w.called [.setAttribute span key value])
  refine ⟨.setAttribute span key value :: cs, ?_, ?_⟩
  · intro c hc
    rcases List.mem_cons.mp hc with rfl | hmem
    · trivial
    · exact hcs c hmem
  · rw [bind_of_ok (setAttribute_noFaults span key value w), hm, World.called_called]
    rfl

/-- Nothing is called. -/
lemma none_called (res : Except Exn Unit) (w : World Ctx H) :
    ∃ cs, (∀ c ∈ cs, IsAttribute c) ∧ (res, w) = (res, w.called cs) :=
  ⟨[], nofun, by simp [World.called]⟩

lemma recordPort_outcome (port : Except Exn (Option ℕ)) (w : World Ctx H) :
    ∃ cs, (∀ c ∈ cs, IsAttribute c) ∧
      (do
        let port ← liftExcept port
        onlySome port fun port =>
          onlyIf (port ≠ 0) (setAttribute noFaults span "server.port" (.int port)) :
        Code Ctx H Unit) w =
        (do
          let _ ← port
          pure (), w.called cs) := by
  cases port with
  | error e => exact none_called _ w
  | ok port =>
    cases port with
    | none => exact none_called _ w
    | some port =>
      by_cases hzero : port = 0
      · subst hzero
        exact none_called _ w
      · refine ⟨[.setAttribute span "server.port" (.int port)], by simp [IsAttribute], ?_⟩
        simp [bind_apply, onlySome, onlyIf, hzero]

lemma recordParsed_outcome (parsed : Url) (w : World Ctx H) :
    ∃ cs, (∀ c ∈ cs, IsAttribute c) ∧
      (do
        onlySome parsed.hostname fun host =>
          onlyIf (host ≠ "") (setAttribute noFaults span "server.address" (.str host))
        let port ← liftExcept parsed.port
        onlySome port fun port =>
          onlyIf (port ≠ 0) (setAttribute noFaults span "server.port" (.int port)) :
        Code Ctx H Unit) w =
        (do
          let _ ← parsed.port
          pure (), w.called cs) := by
  have hport (v : World Ctx H) := recordPort_outcome span parsed.port v
  cases parsed.hostname with
  | none => exact hport w
  | some host =>
    by_cases hhost : host = ""
    · subst hhost
      exact hport w
    · have hset : onlyIf (decide (host ≠ ""))
          (setAttribute noFaults span "server.address" (.str host) : Code Ctx H Unit) =
          setAttribute noFaults span "server.address" (.str host) := if_pos (by simpa using hhost)
      have hthen := set_attribute_then span "server.address" (.str host) hport w
      rw [← hset] at hthen
      exact hthen

/-- Recording a URL sets attributes, and raises what reading it raises. -/
lemma recordUrl_outcome (response : Option Response) (w : World Ctx H) :
    ∃ cs, (∀ c ∈ cs, IsAttribute c) ∧
      recordUrl noFaults r span response w = (readUrl r response, w.called cs) := by
  unfold recordUrl readUrl
  cases response.bind Response.url with
  | none => exact none_called _ w
  | some url =>
    by_cases hurl : url = ""
    · subst hurl
      exact none_called _ w
    · dsimp only
      rw [if_neg hurl]
      have hparsed (v : World Ctx H) : ∃ cs, (∀ c ∈ cs, IsAttribute c) ∧
          (liftExcept (r.urlparse url) >>= fun parsed => do
            onlySome parsed.hostname fun host =>
              onlyIf (host ≠ "") (setAttribute noFaults span "server.address" (.str host))
            let port ← liftExcept parsed.port
            onlySome port fun port =>
              onlyIf (port ≠ 0) (setAttribute noFaults span "server.port" (.int port)) :
            Code Ctx H Unit) v =
            (do
              let parsed ← r.urlparse url
              let _ ← parsed.port
              pure (), v.called cs) := by
        cases r.urlparse url with
        | error e => exact none_called _ v
        | ok parsed => exact recordParsed_outcome span parsed v
      obtain ⟨cs, hcs, hthen⟩ := set_attribute_then span "url.full" (.str url) hparsed w
      exact ⟨cs, hcs, (congrFun (if_pos (by simpa using hurl)) w).trans hthen⟩

lemma recordResponse_outcome (response : Option Response) (w : World Ctx H) :
    ∃ cs, (∀ c ∈ cs, IsAttribute c) ∧
      recordResponse noFaults r span response w =
        (readUrl r response, w.called (statusCalls span response ++ cs)) := by
  cases response with
  | none =>
    exact ⟨[], nofun, by simp [recordResponse, onlySome, readUrl, statusCalls, World.called]⟩
  | some response =>
    obtain ⟨cs, hcs, hurl⟩ := recordUrl_outcome r span (some response)
      (w.called (statusCalls span (some response)))
    refine ⟨cs, hcs, ?_⟩
    rw [← World.called_called, ← hurl]
    unfold recordResponse statusCalls
    cases hcode : response.statusCode with
    | none =>
      simp [onlySome, hcode, World.called]
      rfl
    | some code =>
      by_cases hbad : 400 ≤ code
      · simp [onlySome, onlyIf, hcode, hbad, bind_apply, World.called_called]
      · simp [onlySome, onlyIf, hcode, hbad, bind_apply]

lemma recordError_outcome (e : Exn) (w : World Ctx H) :
    ∃ cs, (∀ c ∈ cs, IsAttribute c) ∧
      KeystoneAuth.recordError noFaults r span e w =
        (readUrl r (r.errorResponse e), w.called cs) := by
  have hurl (v : World Ctx H) := recordUrl_outcome r span (r.errorResponse e) v
  unfold KeystoneAuth.recordError
  cases r.httpStatus e with
  | none => exact hurl w
  | some code => exact set_attribute_then span "http.response.status_code" (.int code) hurl w

/-- What reading the exception comes out with. -/
def Client.readError (Ctx : Type) [ContextApi Ctx] (e : Exn) : Client → Except Exn Unit
  | .session =>
    if e.isException && isRecording Ctx span then readUrl r (r.errorResponse e) else .ok ()
  | .proxy _ => .ok ()

/-- What the call came out with, once the wrapper has recorded it. -/
def Client.settled (Ctx : Type) [ContextApi Ctx] (client : Client) : Except Exn α → Except Exn α
  | .ok response => do
    if isRecording Ctx span then readUrl r (r.response response) else pure ()
    pure response
  | .error e => do
    client.readError r span Ctx e
    .error e

/-- The status a request that came out so has, on its span. -/
def settledCalls (Ctx : Type) [ContextApi Ctx] : Except Exn α → List Call
  | .ok response => if isRecording Ctx span then statusCalls span (r.response response) else []
  | .error _ => []

variable [Propagator Ctx] (client : Client)

lemma noteError_outcome (e : Exn) (w : World Ctx H) :
    ∃ cs, (∀ c ∈ cs, IsAttribute c) ∧
      client.noteError r span e w = (client.readError r span Ctx e, w.called cs) := by
  cases client with
  | proxy p => exact none_called _ w
  | session =>
    unfold Client.noteError Client.readError
    cases e.isException && isRecording Ctx span with
    | false => exact none_called _ w
    | true => exact recordError_outcome r span e w

lemma settle_outcome (came : Except Exn α) (w : World Ctx H) :
    ∃ cs, (∀ c ∈ cs, IsAttribute c) ∧
      client.settle r span came w =
        (client.settled r span Ctx came, w.called (settledCalls r span Ctx came ++ cs)) := by
  cases came with
  | ok response =>
    simp only [Client.settle, Client.settled, settledCalls]
    cases isRecording Ctx span with
    | false => exact ⟨[], nofun, by simp [bind_apply, onlyIf, World.called]; rfl⟩
    | true =>
      obtain ⟨cs, hcs, hrecord⟩ := recordResponse_outcome r span (r.response response) w
      refine ⟨cs, hcs, ?_⟩
      rw [bind_of_ok (mayRaise_noFaults _ w)]
      simp only [onlyIf, if_true, bind_apply, hrecord]
      cases readUrl r (r.response response) <;> rfl
  | error e =>
    obtain ⟨cs, hcs, hnote⟩ := noteError_outcome r span client e w
    refine ⟨cs, hcs, ?_⟩
    simp only [Client.settle, Client.settled, settledCalls, bind_apply, hnote]
    cases client.readError r span Ctx e <;> rfl

end

/-! ### The request in its span -/

section

variable {Ctx H α : Type} [Propagator Ctx]

/-- The span of a request that is made now. -/
def requestSpan (w : World Ctx H) : SpanContext := newSpan w.calls (spanIn w.current)

/-- The world in which the span is started, and current. -/
def inside (plan : String × Dict) (w : World Ctx H) : World Ctx H :=
  { w with
    current := setSpan (requestSpan w) w.current
    calls := w.calls ++ [.start (requestSpan w) (spanIn w.current) plan.1 .client plan.2] }

/-- The world with the headers of the request, in which the current context is injected. -/
def withHeaders (copy : Dict) (w : World Ctx H) : World Ctx H :=
  { w with dicts := w.dicts ++ [setAll (Propagator.headers w.current) copy] }

def ownHeaders (dicts : List Dict) (kwargs : Kwargs) : Kwargs :=
  setKwarg kwargs "headers" (.dict dicts.length)

/-- The request as it is made for the caller, or what is raised before it is. -/
def Client.request (r : Reading α) (wrapped : Wrapped Ctx H α) (args : Args) (kwargs : Kwargs)
    (w : World Ctx H) (client : Client) : Except Exn (Except Exn α × World Ctx H) := do
  let plan ← client.plan r w.dicts args kwargs
  let copy ← client.copyHeaders w.dicts kwargs
  pure (wrapped args (ownHeaders w.dicts kwargs) (withHeaders copy (inside plan w)))

variable (r : Reading α) (wrapped : Wrapped Ctx H α) (args : Args) (kwargs : Kwargs)
  (client : Client)

lemma run_of_plan {w : World Ctx H} (hon : enabled w.current = true) {plan : String × Dict}
    (hplan : client.plan r w.dicts args kwargs = .ok plan) :
    client.run noFaults r wrapped args kwargs w =
      let out := client.body r wrapped w.dicts args kwargs (requestSpan w) (inside plan w)
      (out.1, ({ out.2 with current := w.current }).called
        (closing Ctx (requestSpan w) out.1)) := by
  rw [run_of_enabled client r wrapped args kwargs hon, hplan]
  change startAsCurrentSpan noFaults plan.1 .client none plan.2 _ w = _
  unfold startAsCurrentSpan
  rw [bind_of_ok (startSpan_noFaults ..), useSpan_noFaults]
  rfl

lemma body_of_copy {dicts : List Dict} (span : SpanContext) {copy : Dict}
    (hcopy : client.copyHeaders dicts kwargs = .ok copy) (u : World Ctx H) :
    client.body r wrapped dicts args kwargs span u =
      let came := wrapped args (ownHeaders u.dicts kwargs) (withHeaders copy u)
      client.settle r span came.1 came.2 := by
  have hnew : newDict copy u = (.ok u.dicts.length, { u with dicts := u.dicts ++ [copy] }) := rfl
  have hinject := inject_dict u.dicts.length { u with dicts := u.dicts ++ [copy] }
  rw [Scopes.modify_concat] at hinject
  unfold Client.body
  rw [hcopy, bind_of_ok (liftExcept_apply _ u), bind_of_ok hnew, bind_of_ok hinject]
  rfl

/-- What comes out of a request that is made, and what is left of it. -/
lemma run_of_request {w : World Ctx H} (hon : enabled w.current = true) {plan : String × Dict}
    {copy : Dict} (hplan : client.plan r w.dicts args kwargs = .ok plan)
    (hcopy : client.copyHeaders w.dicts kwargs = .ok copy) :
    let span := requestSpan w
    let came := wrapped args (ownHeaders w.dicts kwargs) (withHeaders copy (inside plan w))
    let res := client.settled r span Ctx came.1
    ∃ cs, (∀ c ∈ cs, IsAttribute c) ∧
      client.run noFaults r wrapped args kwargs w =
        (res, ({ came.2 with current := w.current }).called
          (settledCalls r span Ctx came.1 ++ cs ++ closing Ctx span res)) := by
  intro span came res
  obtain ⟨cs, hcs, hsettle⟩ := settle_outcome r span client came.1 came.2
  have hbody : client.body r wrapped w.dicts args kwargs span (inside plan w) =
      client.settle r span came.1 came.2 := body_of_copy r wrapped args kwargs client span hcopy _
  refine ⟨cs, hcs, ?_⟩
  rw [run_of_plan r wrapped args kwargs client hon hplan, hbody, hsettle]
  simp only [World.called, List.append_assoc]
  rfl

/-- A request whose headers cannot be copied. -/
lemma run_of_copy_error {w : World Ctx H} (hon : enabled w.current = true) {plan : String × Dict}
    {e : Exn} (hplan : client.plan r w.dicts args kwargs = .ok plan)
    (hcopy : client.copyHeaders w.dicts kwargs = .error e) :
    client.run noFaults r wrapped args kwargs w =
      (.error e, ({ inside plan w with current := w.current }).called
        (closing Ctx (requestSpan w) (.error e : Except Exn α))) := by
  have hbody : client.body r wrapped w.dicts args kwargs (requestSpan w) (inside plan w) =
      (.error e, inside plan w) := by
    unfold Client.body
    rw [hcopy]
    rfl
  rw [run_of_plan r wrapped args kwargs client hon hplan, hbody]

/-- The wrapper hands on what came of the request, where reading it raises nothing else. -/
def Client.Readable (Ctx : Type) [ContextApi Ctx] (span : SpanContext) :
    Except Exn α → Prop
  | .ok response => isRecording Ctx span = true → Answers (readUrl r (r.response response))
  | .error e => ∀ e', client.readError r span Ctx e = .error e' → e' = e

lemma settled_eq_iff (span : SpanContext) (came : Except Exn α) :
    client.settled r span Ctx came = came ↔ client.Readable r Ctx span came := by
  cases came with
  | ok response =>
    simp only [Client.settled, Client.Readable]
    cases isRecording Ctx span with
    | false => simp [pure, Except.pure]
    | true =>
      cases hread : readUrl r (r.response response) with
      | error e => simpa using not_answers_error e
      | ok u => simp [Answers]
  | error e =>
    simp only [Client.settled, Client.Readable]
    cases hread : client.readError r span Ctx e with
    | error e' => simp [bind, Except.bind]
    | ok u => simp [bind, Except.bind]

lemma request_of_plan_error {w : World Ctx H} {e : Exn}
    (hplan : client.plan r w.dicts args kwargs = .error e) :
    client.request r wrapped args kwargs w = .error e := by
  unfold Client.request
  rw [hplan]
  rfl

lemma request_of_copy_error {w : World Ctx H} {plan : String × Dict} {e : Exn}
    (hplan : client.plan r w.dicts args kwargs = .ok plan)
    (hcopy : client.copyHeaders w.dicts kwargs = .error e) :
    client.request r wrapped args kwargs w = .error e := by
  unfold Client.request
  rw [hplan, hcopy]
  rfl

lemma request_of_ok {w : World Ctx H} {plan : String × Dict} {copy : Dict}
    (hplan : client.plan r w.dicts args kwargs = .ok plan)
    (hcopy : client.copyHeaders w.dicts kwargs = .ok copy) :
    client.request r wrapped args kwargs w =
      .ok (wrapped args (ownHeaders w.dicts kwargs) (withHeaders copy (inside plan w))) := by
  unfold Client.request
  rw [hplan, hcopy]
  rfl

/-- **A client's request.** Either something asked before the request raises, and it is not made;
or the wrapped callable is called once, with what the caller gave but for headers of its own,
and what came of it is what comes out exactly when it can be read. -/
theorem request_handed_on (w : World Ctx (Host H)) (hon : enabled w.current = true) :
    let out := client.run noFaults r (original wrapped) args kwargs w
    match client.request r wrapped args kwargs (seen w) with
    | .error e => out.1 = .error e ∧ out.2.host = w.host ∧ out.2.dicts = w.dicts
    | .ok came =>
      out.2.host = ⟨w.host.received ++ [(args, ownHeaders w.dicts kwargs)], came.2.host⟩ ∧
        out.2.dicts = came.2.dicts ∧ out.2.current = w.current ∧
        (out.1 = came.1 ↔ client.Readable r Ctx (requestSpan w) came.1) := by
  have hdicts : (seen w).dicts = w.dicts := rfl
  dsimp only
  cases hplan : client.plan r w.dicts args kwargs with
  | error e =>
    rw [run_of_enabled client r _ args kwargs hon, hplan]
    rw [← hdicts] at hplan
    rw [request_of_plan_error r wrapped args kwargs client hplan]
    exact ⟨rfl, rfl, rfl⟩
  | ok plan =>
    cases hcopy : client.copyHeaders w.dicts kwargs with
    | error e =>
      rw [run_of_copy_error r _ args kwargs client hon hplan hcopy]
      rw [← hdicts] at hplan hcopy
      rw [request_of_copy_error r wrapped args kwargs client hplan hcopy]
      exact ⟨rfl, rfl, rfl⟩
    | ok copy =>
      obtain ⟨cs, -, hrun⟩ := run_of_request r (original wrapped) args kwargs client hon hplan hcopy
      rw [← hdicts] at hplan hcopy
      rw [hrun, request_of_ok r wrapped args kwargs client hplan hcopy]
      exact ⟨rfl, rfl, rfl, settled_eq_iff r client _ _⟩

end

def getServers : Args := [.val (.str "/servers"), .val (.str "GET")]

def badPort : Exn := exn "ValueError" "Port could not be cast to integer value"

/-- Every request is answered, from a URL with a port that is no number. -/
def unreadable : Reading Unit where
  urlparse s := .ok ⟨s, some "keystone", if s = "/servers" then .ok none else .error badPort⟩
  upper := id
  str _ := .ok ""
  int _ := none
  response _ := some ⟨some 200, some "https://keystone:none/servers"⟩
  httpStatus _ := none
  errorResponse _ := none

/-- The result of a request is lost where the port in its URL cannot be read. -/
theorem request_handed_on_lost :
    let out := Client.session.run noFaults unreadable (original idle) getServers [] idleHost
    out.2.host.received.length = 1 ∧ out.1 ≠ .ok () := by
  have h := request_handed_on unreadable idle getServers [] .session idleHost rfl
  have hmade : ∃ came, Client.session.request unreadable idle getServers [] (seen idleHost) =
      .ok came ∧ came.1 = .ok () := ⟨_, rfl, rfl⟩
  obtain ⟨came, hmade, hcame⟩ := hmade
  rw [hmade] at h
  obtain ⟨hhost, -, -, hout⟩ := h
  refine ⟨congrArg (List.length ∘ Host.received) hhost, fun hok => ?_⟩
  have hreadable := hout.mp (hok.trans hcame.symm)
  rw [hcame] at hreadable
  obtain ⟨u, hu⟩ := hreadable rfl
  exact absurd hu (by simp [readUrl, unreadable, bind, Except.bind])

end OtelOpenstack.ClientCalls
