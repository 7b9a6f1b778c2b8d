import OtelOpenstack.Scopes

/-!
The body of a response, which the server takes from the application chunk by chunk after
`__call__` has returned, and the request span, which has then ended.
-/

set_option autoImplicit false

namespace OtelOpenstack.Bodies

open Effects Python Otel ContextApi Carriers Openings Hops Http Scopes KeystoneMiddleware

/-- What an application returns. Its chunks are made when they are asked for; `close` does
nothing where there is no such method. -/
structure Iterable (Ctx H : Type) where
  next : Code Ctx H (Option Val)
  close : Code Ctx H Unit

/-- A WSGI application, behind the middleware's own `__call__`. -/
abbrev App (Ctx H : Type) := Invocation Ctx H → Code Ctx H (Iterable Ctx H)

section

variable {Ctx H : Type}

/-- The server takes at most `n` chunks, and closes the iterable when it wants no more or when
the iterable raises: the states in which it has the iterable, and the one when it is done. -/
def served (body : Iterable Ctx H) : ℕ → World Ctx H → List (World Ctx H) × World Ctx H
  | 0, w => ([w], (body.close w).2)
  | n + 1, w => match body.next w with
    | (.ok (some _), v) => (w :: (served body n v).1, (served body n v).2)
    | (.ok none, v) => ([w], v)
    | (.error _, v) => ([w, v], (body.close v).2)

/-- `root`, and the spans started below it. -/
inductive Under (calls : List Call) (root : SpanContext) : SpanContext → Prop
  | root : Under calls root root
  | child {span parent : SpanContext} {name : String} {kind : SpanKind} {attributes : Dict} :
    .start span parent name kind attributes ∈ calls → Under calls root parent →
      Under calls root span

lemma eq_of_childless {calls : List Call} {root span : SpanContext}
    (hnone : ∀ child name kind attributes, .start child root name kind attributes ∉ calls)
    (h : Under calls root span) : span = root := by
  induction h with
  | root => rfl
  | child hstart _ ih =>
    rw [ih] at hstart
    exact absurd hstart (hnone _ _ _ _)

def startedSince (w v : World Ctx H) : List SpanContext :=
  startedSpans (v.calls.drop w.calls.length)

def OpenedUnder (root : SpanContext) (w v : World Ctx H) : Prop :=
  ∀ span ∈ startedSince w v, Under v.calls root span

def Unended (root : SpanContext) (w : World Ctx H) : Prop := .finish root ∉ w.calls

/-- Called under a span that has been started, the code opens its spans under that one and leaves
it to its owner to end. -/
def Below [ContextApi Ctx] (v u : World Ctx H) : Prop :=
  spanIn v.current ∈ startedSpans v.calls → Numbered v.calls →
    ∃ cs, u.calls = v.calls ++ cs ∧ .finish (spanIn v.current) ∉ cs ∧
      ∀ span ∈ startedSpans cs, Under cs (spanIn v.current) span

/-- An application that does so, whatever request it is called with, if `start_response` does. -/
def StaysBelow [ContextApi Ctx] (app : App Ctx H) : Prop :=
  ∀ environ startResponse, (∀ status rest, Keeps Below (startResponse status rest)) →
    Keeps Below (app (.wsgi environ startResponse))

lemma Under.mono {calls calls' : List Call} {root span : SpanContext}
    (h : Under calls root span) (hsub : ∀ c ∈ calls, c ∈ calls') : Under calls' root span := by
  induction h with
  | root => exact Under.root
  | child hstart _ ih => exact Under.child (hsub _ hstart) ih

lemma below_tracedStartResponse [ContextApi Ctx] {startResponse : StartResponse Ctx H}
    (h : ∀ status rest, Keeps Below (startResponse status rest)) (captured : ℕ) (status : Val)
    (rest : Args) : Keeps Below (tracedStartResponse startResponse captured status rest) :=
  fun v => h status rest { v with dicts := v.dicts.modify captured (·.set "status" status) }

variable [Propagator Ctx] (r : Reading (Iterable Ctx H)) (app : App Ctx H) (environ : Arg)
  (startResponse : StartResponse Ctx H) (w : World Ctx H)

def appCall : Option (Invocation Ctx H × World Ctx H) :=
  match enterCall r (.wsgi environ startResponse) w with
  | (.ok o, v) => some (o.input, v)
  | (.error _, _) => none

/-- The request span covers the request: until the server is done with what the application
returned it has not ended, and the spans opened from the application's call on are under it. -/
def Covers : Prop :=
  ∀ input v, appCall r environ startResponse w = some (input, v) →
    ∀ request ∈ startedSince w v,
      Unended request (app input v).2 ∧
        match callWrapper noFaults r app (.wsgi environ startResponse) w with
        | (.error _, _) => OpenedUnder request v (app input v).2
        | (.ok body, t) => ∀ n, (∀ u ∈ (served body n t).1, Unended request u) ∧
            OpenedUnder request v (served body n t).2

/-- There is no request span, or no call of the application; or the application raises in the
call, and no iterable is handed to the server. -/
def HandsNothingOver : Prop :=
  enabled w.current = false ∨ (∃ e, readEnviron r environ w = .error e) ∨
    ∃ input v e u, appCall r environ startResponse w = some (input, v) ∧
      app input v = (.error e, u)

variable {w} {q : RequestSpan Ctx}

omit [Propagator Ctx] w in
lemma recordStatus_returns (span : SpanContext) (status : Val) (u : World Ctx H) :
    (recordStatus noFaults r span status u).1 = .ok () := by
  unfold recordStatus
  cases statusCode r status with
  | none => rfl
  | some code =>
    dsimp only
    rw [bind_of_ok (setAttribute_noFaults ..), onlyIf]
    split
    · rfl
    · rfl

omit w in
lemma afterApp_returns (span : SpanContext) (captured : ℕ) (result : Iterable Ctx H)
    (u : World Ctx H) : (afterApp r span captured result u).1 = .ok result := by
  unfold afterApp
  rw [bind_of_ok (mayRaise_noFaults _ u)]
  cases isRecording Ctx span with
  | false => rfl
  | true =>
    let status := ((deref u.dicts captured).get "status").getD .none
    have hreturns := recordStatus_returns r span status u
    rcases hrecord : recordStatus noFaults r span status u with ⟨e | ⟨⟩, v⟩
    · exact absurd (hreturns.symm.trans (congrArg Prod.fst hrecord)) nofun
    · exact congrArg Prod.fst (bind_of_ok hrecord)

omit w in
lemma passes_callWrapper (i : Invocation Ctx H) : Passes (enterCall r i) := by
  cases i with
  | other args kwargs => exact passes_bind _ fun _ => passes_call _
  | wsgi environ startResponse =>
    unfold enterCall
    apply passes_bind
    intro _
    apply passes_bind
    intro c
    apply passes_ite (passes_call _)
    apply passes_bind
    rintro ⟨parent, kind⟩
    apply passes_bind
    intro dicts
    apply passes_bind
    intro attributes
    apply passes_bind
    intro name
    apply passes_bind
    intro span
    apply passes_enterSpan
    apply passes_bind
    intro captured
    apply passes_andThen
    · exact passes_handling (passes_call _)
    · exact afterApp_returns r span captured

/-! ### The end of the request span -/

lemma startedSince_world : startedSince w (q.world w) = [q.span w] := by
  unfold startedSince RequestSpan.world
  rw [List.drop_left]
  rfl

/-- The wrapper, where the application is called: it returns what the application returned or
raises if that raised, and it has then ended the request span. -/
lemma callWrapper_of_read (hon : enabled w.current = true) (h : readEnviron r environ w = .ok q) :
    let input := Invocation.wsgi environ (tracedStartResponse startResponse w.dicts.length)
    appCall r environ startResponse w = some (input, q.world w) ∧
      ∃ result t, callWrapper noFaults r app (.wsgi environ startResponse) w = (result, t) ∧
        SameWay (app input (q.world w)).1 result ∧ ¬ Unended (q.span w) t := by
  intro input
  have hread := enterCall_read r environ startResponse hon
  rw [h] at hread
  obtain ⟨hparent, exit, henter⟩ := hread
  have hscoped := scoped_call r environ startResponse hon hparent
  rw [henter] at hscoped
  obtain ⟨-, -, -, hends, -⟩ := hscoped
  rcases happ : app input (q.world w) with ⟨result, u⟩
  have hcode : callWrapper noFaults r app (.wsgi environ startResponse) w = exit result u := by
    have hopens := congrFun (opens_callWrapper r (.wsgi environ startResponse) app) w
    refine hopens.trans ((bind_of_ok henter).trans ?_)
    rw [finishWith, happ]
  refine ⟨?_, (exit result u).1, (exit result u).2, hcode, ?_, ?_⟩
  · unfold appCall
    rw [henter]
  · exact passes_callWrapper r _ w _ _ henter result u
  · obtain ⟨-, -, cs, -, hended, hcalls⟩ := hends result u
    have hmem : q.span w ∈ finishedSpans cs := by
      rw [hended]
      exact List.mem_singleton_self _
    rw [Unended, hcalls, not_not]
    exact List.mem_append_right _ (mem_finishedSpans.mp hmem)

omit [Propagator Ctx] in
lemma mem_served (body : Iterable Ctx H) (n : ℕ) (t : World Ctx H) : t ∈ (served body n t).1 := by
  cases n with
  | zero => exact List.mem_singleton_self t
  | succ n =>
    unfold served
    rcases body.next t with ⟨e | chunk, v⟩
    · exact List.mem_cons_self
    · cases chunk with
      | none => exact List.mem_singleton_self t
      | some chunk => exact List.mem_cons_self

/-- An application that returns an iterable is not covered, whatever it does. -/
lemma handsNothingOver_of_covers (h : Covers r app environ startResponse w) :
    HandsNothingOver r app environ startResponse w := by
  cases hon : enabled w.current with
  | false => exact Or.inl hon
  | true =>
    cases hread : readEnviron r environ w with
    | error e => exact Or.inr (Or.inl ⟨e, hread⟩)
    | ok q =>
      obtain ⟨hcall, result, t, hcode, hsame, hended⟩ :=
        callWrapper_of_read r app environ startResponse hon hread
      have hrequest : q.span w ∈ startedSince w (q.world w) := by
        rw [startedSince_world]
        exact List.mem_singleton_self _
      obtain ⟨-, hserved⟩ := h _ _ hcall _ hrequest
      rw [hcode] at hserved
      rcases happ : app _ (q.world w) with ⟨e | body, u⟩ <;> rw [happ] at hsame
      · exact Or.inr (Or.inr ⟨_, _, e, u, hcall, happ⟩)
      · -- the iterable is handed over after the request span has ended
        cases result with
        | error e => exact hsame.elim
        | ok body' => exact absurd ((hserved 0).1 t (mem_served body' 0 t)) hended

lemma covers_of_off (hoff : enabled w.current = false) :
    Covers r app environ startResponse w := by
  have henter : enterCall r (.wsgi environ startResponse) w =
      (.ok (.call (.wsgi environ startResponse)), w) := guard_off hoff
  intro input v hcall
  unfold appCall at hcall
  rw [henter] at hcall
  obtain ⟨-, rfl⟩ := Prod.mk.inj (Option.some.inj hcall)
  intro request hrequest
  rw [startedSince, List.drop_length] at hrequest
  exact absurd hrequest List.not_mem_nil

lemma covers_of_unread (hon : enabled w.current = true) {e : Exn}
    (hread : readEnviron r environ w = .error e) : Covers r app environ startResponse w := by
  have henter := enterCall_read r environ startResponse hon
  rw [hread] at henter
  intro input v hcall
  unfold appCall at hcall
  rw [henter] at hcall
  exact absurd hcall nofun

/-- An application that raises under its request span, having stayed below it, is covered. -/
lemma covered_of_below (hknown : Known w.calls) (hnumbered : Numbered w.calls)
    (hon : enabled w.current = true) (hread : readEnviron r environ w = .ok q)
    {input : Invocation Ctx H} {v u : World Ctx H} {e : Exn}
    (hcall : appCall r environ startResponse w = some (input, v))
    (happ : app input v = (.error e, u)) (hbelow : Below v u) :
    Covers r app environ startResponse w := by
  obtain ⟨hcall', result, t, hcode, hsame, -⟩ :=
    callWrapper_of_read r app environ startResponse hon hread
  obtain ⟨rfl, rfl⟩ := Prod.mk.inj (Option.some.inj (hcall'.symm.trans hcall))
  rw [happ] at hsame
  have hcurrent : spanIn (q.world w).current = q.span w := spanIn_setSpan _ _
  have hstarted : q.span w ∈ startedSpans (q.world w).calls := by
    rw [RequestSpan.world, startedSpans_append]
    exact List.mem_append_right _ (List.mem_singleton_self _)
  obtain ⟨cs, hcalls, hends, hunder⟩ :=
    hbelow (hcurrent ▸ hstarted) (hnumbered.start _ _ _ _ _)
  rw [hcurrent] at hends hunder
  intro input' v' hcall'' request hrequest
  obtain ⟨rfl, rfl⟩ := Prod.mk.inj (Option.some.inj (hcall'.symm.trans hcall''))
  rw [startedSince_world, List.mem_singleton] at hrequest
  subst hrequest
  rw [happ, hcode]
  refine ⟨?_, ?_⟩
  · rw [Unended, hcalls, RequestSpan.world, List.mem_append, List.mem_append]
    rintro ((hold | hnew) | hmine)
    · exact newSpan_fresh hnumbered (q.above w) (hknown _ hold)
    · exact absurd (List.mem_singleton.mp hnew) nofun
    · exact hends hmine
  · cases result with
    | ok body => exact hsame.elim
    | error e' =>
      intro span hspan
      rw [startedSince, hcalls, List.drop_left] at hspan
      exact (hunder span hspan).mono fun c hc => by
        rw [hcalls]
        exact List.mem_append_right _ hc

/-- **The request span ends with the call.** A request it covers is one of which no iterable is
handed to the server; and those it does cover, of every application that stays below the span
it is called under. -/
theorem covers_iff (r : Reading (Iterable Ctx H)) (app : App Ctx H) (environ : Arg)
    (startResponse : StartResponse Ctx H) (w : World Ctx H) :
    (Covers r app environ startResponse w → HandsNothingOver r app environ startResponse w) ∧
      (Known w.calls → Numbered w.calls → StaysBelow app →
        (∀ status rest, Keeps Below (startResponse status rest)) →
        (Covers r app environ startResponse w ↔
          HandsNothingOver r app environ startResponse w)) := by
  refine ⟨handsNothingOver_of_covers r app environ startResponse, ?_⟩
  intro hknown hnumbered hbelow hstart
  refine ⟨handsNothingOver_of_covers r app environ startResponse, fun h => ?_⟩
  cases hon : enabled w.current with
  | false => exact covers_of_off r app environ startResponse hon
  | true =>
    cases hread : readEnviron r environ w with
    | error e => exact covers_of_unread r app environ startResponse hon hread
    | ok q =>
      obtain hoff | ⟨e, herr⟩ | ⟨input, v, e, u, hcall, happ⟩ := h
      · exact absurd (hon.symm.trans hoff) nofun
      · exact absurd (hread.symm.trans herr) nofun
      · have hinput := hcall
        rw [(callWrapper_of_read r app environ startResponse hon hread).1] at hinput
        obtain ⟨rfl, rfl⟩ := Prod.mk.inj (Option.some.inj hinput)
        apply covered_of_below r app environ startResponse hknown hnumbered hon hread hcall happ
        have hkeeps := hbelow environ _
          (below_tracedStartResponse hstart w.dicts.length) (q.world w)
        rw [happ] at hkeeps
        exact hkeeps

end

/-! ### A streamed body -/

/-- An application that starts its response in the call, and makes the one chunk of its body
inside a span when it is asked for. -/
def streaming : App BareContext Bool
  | .wsgi _ startResponse => do
    let _ ← startResponse (.str "200 OK") []
    pure {
      next := do
        let left ← reads World.host
        if left then do
          modifies fun w => { w with host := false }
          startAsCurrentSpan noFaults "render" .internal none [] fun _ =>
            pure (some (.str "chunk"))
        else pure none
      close := pure () }
  | .other _ _ => pure ⟨pure none, pure ()⟩

def streamed : World BareContext Bool where
  current := empty
  calls := []
  dicts := [[("REQUEST_METHOD", .str "GET"), ("PATH_INFO", .str "/v3")]]
  host := true

/-- The one number there is, of the status, is 200. -/
def reading : Reading (Iterable BareContext Bool) :=
  { Reading.nothing with int := fun _ => some 200 }

/-- The span of the chunk is a root of its own. -/
theorem streamed_not_covered :
    ¬ Covers reading streaming (.dict 0) (fun _ _ => pure (.val .none)) streamed := by
  intro h
  obtain ⟨-, hserved⟩ := h _ _ rfl ⟨1, 1⟩ (by decide)
  have hunder := (hserved 1).2 ⟨2, 2⟩ (by decide)
  change Under [.start ⟨1, 1⟩ invalidSpan "GET /v3" .server
    [("http.request.method", .str "GET"), ("url.path", .str "/v3")],
    .setAttribute ⟨1, 1⟩ "http.response.status_code" (.int 200), .finish ⟨1, 1⟩,
    .start ⟨2, 2⟩ invalidSpan "render" .internal [], .finish ⟨2, 2⟩] ⟨1, 1⟩ ⟨2, 2⟩ at hunder
  exact absurd (eq_of_childless (by simp [invalidSpan]) hunder) (by decide)

/-- An application that raises in the call, inside a span of its own. -/
def failing : App BareContext Bool := fun _ =>
  startAsCurrentSpan noFaults "load" .internal none [] fun _ => raise (exn "LookupError" "no body")

lemma failing_below : StaysBelow failing := by
  intro environ startResponse hstart v hcurrent hnumbered
  let root := spanIn v.current
  let span := newSpan v.calls root
  let raised : Except Exn (Iterable BareContext Bool) := .error (exn "LookupError" "no body")
  have hne : root ≠ span := ne_of_mem_of_not_mem hcurrent (newSpan_fresh hnumbered root)
  have hcalls : (failing (.wsgi environ startResponse) v).2.calls =
      v.calls ++ [.start span root "load" .internal []] ++ closing BareContext span raised := by
    unfold failing startAsCurrentSpan
    rw [bind_of_ok (startSpan_noFaults _ _ _ _ v), useSpan_noFaults]
    rfl
  refine ⟨.start span root "load" .internal [] :: closing BareContext span raised, ?_, ?_, ?_⟩
  · rw [hcalls, List.append_assoc]
    rfl
  · rw [← mem_finishedSpans]
    change root ∉ finishedSpans (closing BareContext span raised)
    rw [finishedSpans_closing, List.mem_singleton]
    exact hne
  · intro s hs
    have hs : s ∈ span :: startedSpans (closing BareContext span raised) := hs
    rw [startedSpans_closing, List.mem_singleton] at hs
    subst hs
    exact Under.child (List.mem_cons_self ..) Under.root

theorem covers_iff_failing :
    Covers reading failing (.dict 0) (fun _ _ => pure (.val .none)) streamed := by
  have hstart : ∀ (status : Val) (rest : Args),
      Keeps Below (pure (.val .none) : Code BareContext Bool Arg) :=
    fun _ _ v _ _ => ⟨[], (List.append_nil _).symm, List.not_mem_nil, nofun⟩
  have hraises : HandsNothingOver reading failing (.dict 0) (fun _ _ => pure (.val .none))
      streamed := Or.inr (Or.inr ⟨_, _, _, _, rfl, rfl⟩)
  exact ((covers_iff reading failing _ _ streamed).2 known_nil numbered_nil failing_below
    hstart).mpr hraises

end OtelOpenstack.Bodies
