import OtelOpenstack.ClientCalls

/-!
What the span of a request says of it: whether it failed, on the client's side and on the
server's.
-/

set_option autoImplicit false

namespace OtelOpenstack.Verdicts

open Effects Python Otel ContextApi Carriers Http Scopes Wires ClientCalls

/-! ### The status of a span that runs -/

/-- The span has not ended, and has the status of a failure or none. -/
def Rated (span : SpanContext) (failed : Bool) (calls : List Call) : Prop :=
  .finish span ∉ calls ∧ statusOf calls span = if failed then .error else .unset

/-- What an outcome is to a span. -/
def raised {α : Type} : Except Exn α → Bool
  | .ok _ => false
  | .error e => e.isException

section

variable {span : SpanContext} {failed : Bool} {calls cs : List Call}

lemma rated_iff_fresh : Rated span false calls ↔ Fresh calls span := by
  simp [Rated, Fresh]

lemma statusFrom_of_attributes (hcs : ∀ c ∈ cs, IsAttribute c) (code : StatusCode) :
    statusFrom span code cs = code := by
  induction cs with
  | nil => rfl
  | cons c cs ih =>
    have hc := hcs c (List.mem_cons_self ..)
    have hrest := ih fun d hd => hcs d (List.mem_cons_of_mem _ hd)
    cases c with
    | setAttribute s key value => exact hrest
    | _ => exact hc.elim

lemma Rated.append (h : Rated span failed calls) {failed' : Bool} (hends : .finish span ∉ cs)
    (hstatus : statusFrom span (if failed then .error else .unset) cs =
      if failed' then .error else .unset) : Rated span failed' (calls ++ cs) := by
  refine ⟨fun hmem => ?_, ?_⟩
  · rcases List.mem_append.mp hmem with hmem | hmem
    · exact h.1 hmem
    · exact hends hmem
  · rw [statusOf, statusFrom_append h.1]
    change statusFrom span (statusOf calls span) cs = _
    rw [h.2, hstatus]

lemma Rated.attributes (h : Rated span failed calls) (hcs : ∀ c ∈ cs, IsAttribute c) :
    Rated span failed (calls ++ cs) :=
  h.append (fun hmem => hcs _ hmem) (statusFrom_of_attributes hcs _)

lemma Rated.fails (h : Rated span failed calls) (description : Option String) :
    Rated span true (calls ++ [.setStatus span .error description]) := by
  apply h.append (by simp)
  cases failed <;> simp [statusFrom, StatusCode.set]

lemma rated_start (h : Fresh calls span) (parent : SpanContext) (name : String) (kind : SpanKind)
    (attributes : Dict) :
    Rated span false (calls ++ [.start span parent name kind attributes]) :=
  (rated_iff_fresh.mpr h).append (by simp) rfl

/-- How the span is rated in the end. -/
lemma Rated.ended {Ctx α : Type} [ContextApi Ctx] {bad : Bool}
    (h : Rated span (isRecording Ctx span && bad) calls) (res : Except Exn α) :
    .finish span ∈ calls ++ closing Ctx span res ∧
      statusOf (calls ++ closing Ctx span res) span =
        if isRecording Ctx span && (bad || raised res) then .error else .unset := by
  refine ⟨List.mem_append_right _ (finish_mem_closing span res), ?_⟩
  rw [statusOf, statusFrom_append h.1]
  change statusFrom span (statusOf calls span) _ = _
  rw [h.2]
  cases res with
  | ok a => simp [closing, statusFrom, raised]
  | error e =>
    unfold closing raised
    rcases isRecording Ctx span with _ | _ <;> rcases hexc : e.isException with _ | _ <;>
      cases bad <;> simp [statusFrom, StatusCode.set, hexc]

end

/-- The code gives a running span no status, and does not end it. -/
def Spares {Ctx H α : Type} (span : SpanContext) (m : Code Ctx H α) : Prop :=
  Keeps (fun u v => Fresh u.calls span → Fresh v.calls span) m

/-- A new span. -/
lemma fresh_newSpan {calls : List Call} (hknown : Known calls) (hnumbered : Numbered calls)
    (parent : SpanContext) : Fresh calls (newSpan calls parent) :=
  fresh_of_not_started hknown (newSpan_fresh hnumbered parent)

/-! ### Clients -/

section

variable {Ctx H α : Type}

/-- A response with an error status. -/
def badStatus (response : Option Response) : Bool :=
  match response.bind Response.statusCode with
  | none => false
  | some code => decide (400 ≤ code)

/-- The response to a request, if it was made and answered. -/
def answered (r : Reading α) : Except Exn (Except Exn α × World Ctx H) → Option Response
  | .ok (.ok response, _) => r.response response
  | _ => none

variable [Propagator Ctx] (r : Reading α) (wrapped : Wrapped Ctx H α) (args : Args)
  (kwargs : Kwargs) (client : Client)

lemma rated_statusCalls {span : SpanContext} {calls : List Call} (h : Rated span false calls)
    (response : Option Response) :
    Rated span (badStatus response) (calls ++ statusCalls span response) := by
  unfold badStatus statusCalls
  cases response.bind Response.statusCode with
  | none => simpa using h
  | some code =>
    have hcode : Rated span false (calls ++ [.setAttribute span "http.response.status_code"
        (.int code)]) := h.attributes (by simp [IsAttribute])
    by_cases hbad : 400 ≤ code
    · simpa [hbad] using hcode.fails none
    · simpa [hbad] using hcode

lemma rated_settledCalls {span : SpanContext} {calls : List Call} (h : Rated span false calls)
    (came : Except Exn α) (v : World Ctx H) :
    Rated span (isRecording Ctx span && badStatus (answered r (.ok (came, v))))
      (calls ++ settledCalls r span Ctx came) := by
  cases came with
  | error e => simpa [settledCalls, answered, badStatus] using h
  | ok response =>
    simp only [settledCalls, answered]
    cases isRecording Ctx span with
    | false => simpa using h
    | true => simpa using rated_statusCalls h (r.response response)

/-- **The client's verdict.** The span of a request that was begun has ended, as a failure when
what came out is an exception or the response had an error status, and with no status
otherwise. -/
theorem client_verdict {w : World Ctx H} (hon : enabled w.current = true) (hknown : Known w.calls)
    (hnumbered : Numbered w.calls) (hplan : HostSafety.Answers (client.plan r w.dicts args kwargs))
    (hspares : ∀ args kwargs, Spares (requestSpan w) (wrapped args kwargs)) :
    let span := requestSpan w
    let out := client.run noFaults r wrapped args kwargs w
    .finish span ∈ out.2.calls ∧
      statusOf out.2.calls span =
        if isRecording Ctx span &&
          (badStatus (answered r (client.request r wrapped args kwargs w)) || raised out.1) then
          .error
        else .unset := by
  intro span out
  obtain ⟨plan, hplan⟩ := hplan
  have hstarted : Rated span false (inside plan w).calls :=
    rated_start (fresh_newSpan hknown hnumbered _) _ _ _ _
  cases hcopy : client.copyHeaders w.dicts kwargs with
  | error e =>
    have hout : out = _ := run_of_copy_error r wrapped args kwargs client hon hplan hcopy
    have hrated : Rated span (isRecording Ctx span && false) (inside plan w).calls := by
      rwa [Bool.and_false]
    rw [hout, request_of_copy_error r wrapped args kwargs client hplan hcopy]
    exact hrated.ended (.error e : Except Exn α)
  | ok copy =>
    obtain ⟨cs, hcs, hrun⟩ := run_of_request r wrapped args kwargs client hon hplan hcopy
    have hout : out = _ := hrun
    let called := withHeaders copy (inside plan w)
    let came := wrapped args (ownHeaders w.dicts kwargs) called
    have hcame : Rated span false came.2.calls :=
      rated_iff_fresh.mpr (hspares args _ called (rated_iff_fresh.mp hstarted))
    have hrated := (rated_settledCalls r hcame came.1 came.2).attributes hcs
    rw [hout, request_of_ok r wrapped args kwargs client hplan hcopy]
    simp only [World.called, ← List.append_assoc]
    exact hrated.ended _

end

def idleWorld : World BareContext Unit := ⟨empty, [], [], ()⟩

/-- Every request is answered with `404`. -/
def notFound : Reading Unit :=
  { (Reading.nothing : Reading Unit) with response := fun _ => some ⟨some 404, none⟩ }

theorem client_verdict_not_found :
    statusOf (Client.session.run noFaults notFound HostSafety.idle getServers [] idleWorld).2.calls
      (requestSpan idleWorld) = .error := by
  have hplan : HostSafety.Answers (Client.session.plan notFound idleWorld.dicts getServers []) :=
    ⟨_, rfl⟩
  exact (client_verdict notFound HostSafety.idle getServers [] .session rfl known_nil numbered_nil
    hplan fun _ _ _ h => h).2

/-! ### Servers -/

section

open KeystoneMiddleware

variable {Ctx H α : Type}

/-- What an application does until it has a result: code of its own, and calls of
`start_response`. -/
inductive Act (Ctx H : Type)
  | own (m : Code Ctx H Unit)
  | respond (status : Val) (rest : Args)

def act (start : StartResponse Ctx H) : List (Act Ctx H) → Code Ctx H Unit
  | [] => pure ()
  | .own m :: acts => do
    m
    act start acts
  | .respond status rest :: acts => do
    let _ ← start status rest
    act start acts

/-- An application. -/
def serve (acts : List (Act Ctx H)) (result : Code Ctx H α) : Invocation Ctx H → Code Ctx H α
  | .wsgi _ start => do
    act start acts
    result
  | .other _ _ => result

/-- The status it has told its server in the end; an application may start its response anew. -/
def lastStatus : Val → List (Act Ctx H) → Val
  | told, [] => told
  | told, .own _ :: acts => lastStatus told acts
  | _, .respond status _ :: acts => lastStatus status acts

/-- The code gives a running span no status, does not end it, and leaves a dictionary alone. -/
def Apart (span : SpanContext) (ref : ℕ) (u v : World Ctx H) : Prop :=
  (Fresh u.calls span → Fresh v.calls span) ∧
    (ref < u.dicts.length → ref < v.dicts.length ∧ deref v.dicts ref = deref u.dicts ref)

/-- All of an application's own code does. -/
def Act.apart (span : SpanContext) (ref : ℕ) : Act Ctx H → Prop
  | .own m => Keeps (Apart span ref) m
  | .respond _ _ => True

/-- A response with the status of a server's failure, or an exception. -/
def failedRequest (r : Reading α) (status : Val) : Except Exn α → Bool
  | .ok _ =>
    match statusCode r status with
    | none => false
    | some code => decide (500 ≤ code)
  | .error e => e.isException

/-- Where an application has come to: its span runs, and once it has a result the last status it
told is the captured one. -/
def Captured (span : SpanContext) (ref : ℕ) (told : Val) (out : Except Exn Unit × World Ctx H) :
    Prop :=
  Fresh out.2.calls span ∧ ref < out.2.dicts.length ∧
    (out.1 = .ok () → ((deref out.2.dicts ref).get "status").getD .none = told)

section

variable {span : SpanContext} {ref : ℕ} {start : StartResponse Ctx H}
  (hstart : ∀ status rest, Keeps (Apart span ref) (start status rest))

include hstart

/-- **The status captured** is the last one the application told its server. -/
lemma act_captured (acts : List (Act Ctx H)) (hacts : ∀ a ∈ acts, a.apart span ref) {told : Val}
    {u : World Ctx H} (hfresh : Fresh u.calls span) (href : ref < u.dicts.length)
    (htold : ((deref u.dicts ref).get "status").getD .none = told) :
    Captured span ref (lastStatus told acts) (act (tracedStartResponse start ref) acts u) := by
  -- one step, from a world in which the status told so far is captured
  have hstep {β : Type} {m : Code Ctx H β} {n : Code Ctx H Unit} {last told : Val}
      {t : World Ctx H} (hm : Keeps (Apart span ref) m) (hfresh : Fresh t.calls span)
      (href : ref < t.dicts.length)
      (htold : ((deref t.dicts ref).get "status").getD .none = told)
      (hn : ∀ v : World Ctx H, Fresh v.calls span → ref < v.dicts.length →
        ((deref v.dicts ref).get "status").getD .none = told → Captured span ref last (n v)) :
      Captured span ref last ((m >>= fun _ => n) t) := by
    obtain ⟨hcalls, hdicts⟩ := hm t
    obtain ⟨href', hsame⟩ := hdicts href
    rcases hres : m t with ⟨e | x, v⟩ <;> rw [hres] at hcalls href' hsame
    · rw [bind_of_error hres]
      exact ⟨hcalls hfresh, href', nofun⟩
    · rw [bind_of_ok hres]
      refine hn v (hcalls hfresh) href' ?_
      dsimp only at hsame
      rw [hsame, htold]
  induction acts generalizing told u with
  | nil => exact ⟨hfresh, href, fun _ => htold⟩
  | cons a acts ih =>
    have hrest := fun b hb => hacts b (List.mem_cons_of_mem _ hb)
    cases a with
    | own m =>
      have hown : Keeps (Apart span ref) m := hacts _ (List.mem_cons_self ..)
      exact hstep hown hfresh href htold fun v => ih hrest
    | respond status rest =>
      let t : World Ctx H := { u with dicts := u.dicts.modify ref (·.set "status" status) }
      have ht : ((deref t.dicts ref).get "status").getD .none = status := by
        rw [deref_modify href, Dict.get_set_self]
        rfl
      have href' : ref < t.dicts.length := by rwa [List.length_modify]
      exact hstep (hstart status rest) (t := t) hfresh href' ht fun v => ih hrest

end

variable [Propagator Ctx] (r : Reading α)

omit [Propagator Ctx] in
lemma rated_recordStatus {span : SpanContext} {w : World Ctx H} (h : Rated span false w.calls)
    (status : Val) (a : α) :
    ∃ v : World Ctx H, recordStatus noFaults r span status w = (.ok (), v) ∧
      Rated span (failedRequest r status (.ok a)) v.calls := by
  unfold recordStatus failedRequest
  cases statusCode r status with
  | none => exact ⟨w, rfl, h⟩
  | some code =>
    have hcode : Rated span false (w.calls ++ [.setAttribute span "http.response.status_code"
        (.int code)]) := h.attributes (by simp [IsAttribute])
    by_cases hbad : 500 ≤ code
    · refine ⟨_, by simp [bind_apply, onlyIf, hbad]; rfl, ?_⟩
      simpa [hbad, World.called] using hcode.fails none
    · refine ⟨_, by simp [bind_apply, onlyIf, hbad]; rfl, ?_⟩
      simpa [hbad, World.called] using hcode

/-- The block in the span of a request. -/
def servedIn (wrapped : Invocation Ctx H → Code Ctx H α) (environ : Arg)
    (start : StartResponse Ctx H) (span : SpanContext) : Code Ctx H α := do
  let captured ← newDict []
  let result ← onException noFaults span (setErrorStatus noFaults span)
    (wrapped (.wsgi environ (tracedStartResponse start captured)))
  mayRaise noFaults .isRecording
  onlyIf (isRecording Ctx span) do
    let dicts ← reads World.dicts
    recordStatus noFaults r span (((deref dicts captured).get "status").getD .none)
  pure result

section

variable {acts : List (Act Ctx H)} {result : Code Ctx H α} {start : StartResponse Ctx H}
  (environ : Arg) {span : SpanContext}

omit [Propagator Ctx] in
lemma serve_captured {ref : ℕ} {v : World Ctx H} (hacts : ∀ a ∈ acts, a.apart span ref)
    (hstart : ∀ status rest, Keeps (Apart span ref) (start status rest))
    (hresult : Keeps (Apart span ref) result) (hfresh : Fresh v.calls span)
    (href : ref < v.dicts.length) (hempty : deref v.dicts ref = []) :
    let out := serve acts result (.wsgi environ (tracedStartResponse start ref)) v
    Fresh out.2.calls span ∧ ∀ a, out.1 = .ok a →
      ((deref out.2.dicts ref).get "status").getD .none = lastStatus .none acts := by
  have htold : ((deref v.dicts ref).get "status").getD .none = .none := by rw [hempty]; rfl
  obtain ⟨hcalls, href', hlast⟩ := act_captured hstart acts hacts hfresh href htold
  dsimp only [serve]
  rcases hact : act (tracedStartResponse start ref) acts v with ⟨e | x, t⟩ <;>
    rw [hact] at hcalls href' hlast
  · rw [bind_of_error hact]
    exact ⟨hcalls, nofun⟩
  · rw [bind_of_ok hact]
    obtain ⟨hsame, hdicts⟩ := hresult t
    refine ⟨hsame hcalls, fun a _ => ?_⟩
    rw [(hdicts href').2]
    exact hlast rfl

lemma rated_servedIn {u : World Ctx H}
    (hacts : ∀ a ∈ acts, a.apart span u.dicts.length)
    (hstart : ∀ status rest, Keeps (Apart span u.dicts.length) (start status rest))
    (hresult : Keeps (Apart span u.dicts.length) result) (hfresh : Fresh u.calls span) :
    let out := servedIn r (serve acts result) environ start span u
    ∃ bad, Rated span (isRecording Ctx span && bad) out.2.calls ∧
      (bad || raised out.1) = failedRequest r (lastStatus .none acts) out.1 := by
  let v : World Ctx H := { u with dicts := u.dicts ++ [[]] }
  have hnew : newDict [] u = (.ok u.dicts.length, v) := rfl
  have href : u.dicts.length < v.dicts.length := by simp [v]
  have hempty : deref v.dicts u.dicts.length = [] := by simp [v, deref]
  obtain ⟨hcalls, hlast⟩ := serve_captured environ (v := v) hacts hstart hresult hfresh href hempty
  have hrated := rated_iff_fresh.mpr hcalls
  dsimp only [servedIn]
  rw [bind_of_ok hnew]
  unfold onException
  rcases happ : serve acts result (.wsgi environ (tracedStartResponse start u.dicts.length)) v with
    ⟨e | a, t⟩ <;> rw [happ] at hrated hlast
  · -- a text that raises leaves the status to the end of the span
    have hraised : ∃ (e' : Exn) (t' : World Ctx H) (bad : Bool), (do
        onlyIf e.isException do
          mayRaise noFaults .isRecording
          onlyIf (isRecording Ctx span) (setErrorStatus noFaults span e)
        raise e : Code Ctx H α) t = (.error e', t') ∧
          Rated span (isRecording Ctx span && bad) t'.calls ∧
          (bad || e'.isException) = e'.isException := by
      rcases hrec : isRecording Ctx span with _ | _
      · refine ⟨e, t, false, ?_, hrated, rfl⟩
        rcases e.isException with _ | _ <;> rfl
      · rcases hexc : e.isException with _ | _
        · exact ⟨e, t, false, rfl, hrated, rfl⟩
        · rcases hstr : e.str with e' | text
          · refine ⟨e', t, false, ?_, hrated, rfl⟩
            simp [onlyIf, bind_apply, setErrorStatus, hstr]
          · refine ⟨e, t.called [.setStatus span .error (some text)], true, ?_,
              hrated.fails (some text), hexc.symm⟩
            simp [onlyIf, bind_apply, setErrorStatus, hstr]
    obtain ⟨e', t', bad, hraised, hended, hbad⟩ := hraised
    rw [bind_of_error ((tryExcept_of_error happ).trans hraised)]
    exact ⟨bad, hended, hbad⟩
  · rw [bind_of_ok (tryExcept_of_ok happ), bind_of_ok (mayRaise_noFaults _ t)]
    rcases hrec : isRecording Ctx span with _ | _
    · exact ⟨failedRequest r (lastStatus .none acts) (.ok a), hrated, Bool.or_false _⟩
    · obtain ⟨t', hrecord, hended⟩ := rated_recordStatus r hrated
        (((deref t.dicts u.dicts.length).get "status").getD .none) a
      have hthen : (onlyIf true do
          let dicts ← reads World.dicts
          recordStatus noFaults r span
            (((deref dicts u.dicts.length).get "status").getD .none) : Code Ctx H Unit) t =
          (.ok (), t') := hrecord
      rw [bind_of_ok hthen, ← hlast a rfl]
      exact ⟨_, hended, Bool.or_false _⟩

end

/-- A request whose environment can be read is served in its span. -/
lemma callWrapper_of_environ {w : World Ctx H} (hon : enabled w.current = true) {environ : Arg}
    {q : RequestSpan Ctx} (hread : readEnviron r environ w = .ok q)
    (wrapped : Invocation Ctx H → Code Ctx H α) (start : StartResponse Ctx H) :
    callWrapper noFaults r wrapped (.wsgi environ start) w =
      useSpan noFaults (q.span w) (servedIn r wrapped environ start (q.span w))
        (w.called [.start (q.span w) (q.above w) q.name q.kind q.attributes]) := by
  have hparent := enterCall_read r environ start hon
  rw [hread] at hparent
  obtain ⟨⟨parent, kind⟩, -, hrest⟩ := of_bind_ok hread
  obtain ⟨attributes, hattributes, hrest⟩ := of_bind_ok hrest
  obtain ⟨name, hname, ⟨⟩⟩ := of_bind_ok hrest
  unfold callWrapper
  dsimp only
  rw [guard_on hon, bind_of_ok hparent.1]
  dsimp only
  rw [bind_of_ok (reads_apply _ w), hattributes, hname]
  rfl

/-- **The server's verdict.** The span of a request has ended, as a failure when an exception came
out of the call, or a result did and the last status the application told its server was 500 or
above, and with no status otherwise. -/
theorem server_verdict {w : World Ctx H} (hon : enabled w.current = true) (hknown : Known w.calls)
    (hnumbered : Numbered w.calls) {environ : Arg} {q : RequestSpan Ctx}
    (hread : readEnviron r environ w = .ok q) {acts : List (Act Ctx H)} {result : Code Ctx H α}
    {start : StartResponse Ctx H} (hacts : ∀ a ∈ acts, a.apart (q.span w) w.dicts.length)
    (hstart : ∀ status rest, Keeps (Apart (q.span w) w.dicts.length) (start status rest))
    (hresult : Keeps (Apart (q.span w) w.dicts.length) result) :
    let out := callWrapper noFaults r (serve acts result) (.wsgi environ start) w
    .finish (q.span w) ∈ out.2.calls ∧
      statusOf out.2.calls (q.span w) =
        if isRecording Ctx (q.span w) && failedRequest r (lastStatus .none acts) out.1 then .error
        else .unset := by
  let span := q.span w
  let u : World Ctx H :=
    { w with
      current := setSpan span w.current
      calls := w.calls ++ [.start span (q.above w) q.name q.kind q.attributes] }
  have hstarted : Rated span false u.calls :=
    rated_start (fresh_newSpan hknown hnumbered _) _ _ _ _
  have hrated := rated_servedIn r environ (u := u) hacts hstart hresult
    (rated_iff_fresh.mp hstarted)
  dsimp only
  rw [callWrapper_of_environ r hon hread, useSpan_noFaults]
  obtain ⟨bad, hrated, hbad⟩ := hrated
  obtain ⟨hended, hstatus⟩ := hrated.ended (servedIn r (serve acts result) environ start span u).1
  rw [hbad] at hstatus
  exact ⟨hended, hstatus⟩

end

/-- Every number is 500. -/
def serverError : Reading Unit where
  urlparse _ := .ok ⟨"", none, .ok none⟩
  upper := id
  str _ := .ok ""
  int _ := some 500
  response _ := none
  httpStatus _ := none
  errorResponse _ := none

/-- An application that starts its response anew. -/
def startsAnew : List (Act BareContext Unit) :=
  [.respond .none [], .own (pure ()), .respond (.str "500 Internal Server Error") []]

theorem server_verdict_anew :
    let out := KeystoneMiddleware.callWrapper noFaults serverError (serve startsAnew (pure ()))
      (.wsgi (.val .none) fun _ _ => pure (.val .none)) idleWorld
    statusOf out.2.calls (newSpan [] invalidSpan) = .error := by
  have hkeeps {α : Type} (a : α) (span : SpanContext) (ref : ℕ) :
      Keeps (Apart span ref) (pure a : Code BareContext Unit α) := fun _ => ⟨id, fun h => ⟨h, rfl⟩⟩
  have hacts : ∀ a ∈ startsAnew, a.apart (newSpan [] invalidSpan) 0 := by
    simp only [startsAnew, List.forall_mem_cons]
    exact ⟨trivial, hkeeps _ _ _, trivial, nofun⟩
  have hread : readEnviron serverError (.val .none) idleWorld =
      .ok ⟨none, .server, [], "keystonemiddleware.request"⟩ := rfl
  exact (server_verdict serverError rfl known_nil numbered_nil hread hacts
    (fun _ _ => hkeeps _ _ _) (hkeeps _ _ _)).2

end OtelOpenstack.Verdicts
