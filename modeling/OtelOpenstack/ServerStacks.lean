import OtelOpenstack.Stacks

/-!
A request on its way through instrumented `auth_token` middlewares, one inside the other, by
`__call__` or by `process_request`, with spans of the program around and between them.

The two wrappers look for a parent in two places, the environment and the request's headers;
both find the one trace header that came with the request.
-/

set_option autoImplicit false

namespace OtelOpenstack.ServerStacks

open Effects Python Otel ContextApi Carriers Openings Hops HopSpecs Http TraceContext Scopes
open Stacks Runs KeystoneMiddleware Authentication

/-! ### The inbound header -/

/-- What a getter answers for a header: nothing or one text. -/
def IsText (found : Except Exn (Option (List Val))) : Prop :=
  found = .ok none ∨ ∃ text, found = .ok (some [.str text])

/-- The getter finds texts, and of trace headers `inbound`. -/
def Finds (getter : String → Except Exn (Option (List Val))) (inbound : Option String) : Prop :=
  getter "traceparent" = .ok (inbound.map fun header => [.str header]) ∧
    ∀ key, IsText (getter key)

/-- What is relied on of the propagator: a valid trace header names a span, and `extract` finds
the span through any getter; without a valid header it finds none. -/
structure Names (Ctx : Type) [Propagator Ctx] (named : String → Option SpanContext) : Prop where
  extracts : ∀ getter inbound, Finds getter inbound → ∃ c : Ctx, Propagator.extract getter = .ok c
  finds : ∀ getter inbound (c : Ctx), Finds getter inbound → Propagator.extract getter = .ok c →
    ∀ remote, inbound.bind named = some remote → spanIn c = remote
  findsNone : ∀ getter inbound (c : Ctx), Finds getter inbound →
    Propagator.extract getter = .ok c → inbound.bind named = none → (spanIn c).isValid = false

lemma names_bare : Names BareContext parseTraceparent := by
  have hread : ∀ (getter : String → Except Exn (Option (List Val))) (inbound : Option String),
      Finds getter inbound → (Propagator.extract getter : Except Exn BareContext) =
        .ok (((inbound.bind parseTraceparent).map (setSpan · empty)).getD empty) := by
    rintro getter inbound ⟨hget, -⟩
    change extractBare getter = _
    unfold extractBare
    rw [hget]
    cases inbound with
    | none => rfl
    | some header => rfl
  refine ⟨fun getter inbound h => ⟨_, hread getter inbound h⟩, ?_, ?_⟩
  · intro getter inbound c h hc remote hremote
    obtain rfl := Except.ok.inj ((hread getter inbound h).symm.trans hc)
    rw [hremote]
    rfl
  · intro getter inbound c h hc hnone
    obtain rfl := Except.ok.inj ((hread getter inbound h).symm.trans hc)
    rw [hnone]
    rfl

/-- What is read of the environment for attributes. -/
def readKeys : List String := ["REQUEST_METHOD", "PATH_INFO", "wsgi.url_scheme", "SERVER_NAME"]

/-- The environment has built-in values where attributes are read, and its getter finds
`inbound`. -/
def EnvironHas (inbound : Option String) (dicts : List Dict) : Arg → Prop
  | .dict ref => Finds (environGetter (deref dicts ref)) inbound ∧
    ∀ key ∈ readKeys, ∀ o, (deref dicts ref).get key ≠ some (.obj o)
  | _ => inbound = none

section

variable {Ctx H α : Type} [Propagator Ctx]

/-- The headers of the request, which may be `None`, have `inbound`. -/
def RequestHas (Ctx : Type) [Propagator Ctx] (inbound : Option String) (dicts : List Dict)
    (headers : Except Exn Arg) : Prop :=
  match getattr headers (.val .none) with
  | .ok (.val .none) => inbound = none
  | .ok carrier => Finds (defaultGetter Ctx dicts carrier) inbound
  | .error _ => False

/-! ### The unit -/

/-- A middleware is called in one of the two ways, the program opens a span or changes its
dictionaries and its state, or the unit comes out of the callable it is in. -/
inductive Event (Ctx H α : Type)
  | call (environ : Arg) (startResponse : StartResponse Ctx H)
  | process (args : List (Request H)) (kwargs : List (String × Request H))
  | span (name : String) (kind : SpanKind) (context : Option Ctx) (attributes : Dict)
  | store (dicts : List Dict) (host : H)
  | leave (result : Except Exn α)

/-- The span of a middleware has the outermost one of its stack, by its place in the list of
operations; the scope of a middleware has the place of its own. -/
abbrev ServerStack (Ctx H α : Type) := Stack Ctx H α (Option ℕ) (Option ℕ)

/-- The outermost middleware the unit is inside of. -/
def outermost (frames : List (Frame Ctx H α (Option ℕ))) : Option ℕ :=
  (frames.filterMap Frame.given).getLast?

/-- The outermost middleware of the stack the next one is in: itself, if it is inside of none. -/
def entry (s : ServerStack Ctx H α) : ℕ := (outermost s.frames).getD s.ops.length

variable (r : Reading α) (tuple : List String → Val)

def step (s : ServerStack Ctx H α) : Event Ctx H α → ServerStack Ctx H α
  | .call environ startResponse =>
    s.enter (some (entry s)) (fun _ => some s.ops.length) (serve r environ startResponse)
  | .process args kwargs =>
    s.enter (some (entry s)) (fun _ => some s.ops.length) (process tuple args kwargs)
  | .span name kind context attributes =>
    s.enter none (fun _ => none) (programSpan name kind context attributes)
  | .store dicts host => s.store dicts host
  | .leave result => s.leave result

/-- Every middleware sees the same inbound header. -/
def Ok (inbound : Option String) (s : ServerStack Ctx H α) : Event Ctx H α → Prop
  | .call environ _ => EnvironHas inbound s.world.dicts environ
  | .process args kwargs =>
    RequestHas Ctx inbound s.world.dicts ((requestArg args kwargs).headers s.world.host)
  | _ => True

/-- Whether a middleware is called. -/
def Event.isMiddleware : Event Ctx H α → Bool
  | .call _ _ => true
  | .process _ _ => true
  | _ => false

/-- The parent a middleware's span has, and its kind. -/
structure Decided (named : String → Option SpanContext) (inbound : Option String)
    (current : SpanContext) (start : Start) : Prop where
  internal : current.isValid = true → start.kind = .internal ∧ start.parent = current
  server : current.isValid = false → start.kind = .server ∧
    (∀ remote, inbound.bind named = some remote → start.parent = remote) ∧
    (inbound.bind named = none → start.parent.isValid = false)

/-! ### Deciding the parent -/

variable {named : String → Option SpanContext} {inbound : Option String} {w : World Ctx H}

/-- The parent decided on, its kind, and the code that decides. -/
def Decides (named : String → Option SpanContext) (inbound : Option String)
    (m : Code Ctx H (Option Ctx × SpanKind)) (w : World Ctx H) : Prop :=
  ∃ parent kind, m w = (.ok (parent, kind), w) ∧
    Decided named inbound (spanIn w.current)
      ⟨newSpan w.calls (spanIn (parent.getD w.current)), spanIn (parent.getD w.current), kind⟩

/-- Under a valid span the wrappers do not look for another parent. -/
lemma decides_internal {m : Code Ctx H (Option Ctx × SpanKind)}
    (hcode : m w = (.ok (none, .internal), w)) (hvalid : (spanIn w.current).isValid = true) :
    Decides named inbound m w :=
  ⟨none, .internal, hcode, fun _ => ⟨rfl, rfl⟩,
    fun hidle => absurd (hvalid.symm.trans hidle) nofun⟩

/-- Otherwise they look for one in what they read it of: there is no header, or the context is
extracted by a getter that finds it. -/
lemma decides_server (hnames : Names Ctx named) {m : Code Ctx H (Option Ctx × SpanKind)}
    {context : Except Exn (Option Ctx)}
    (hcode : m w = (context.map fun parent => (parent, .server), w))
    (hidle : (spanIn w.current).isValid = false)
    (hcontext : context = .ok none ∧ inbound = none ∨
      ∃ getter, Finds getter inbound ∧ context = some <$> Propagator.extract getter) :
    Decides named inbound m w := by
  have hnot : (spanIn w.current).isValid ≠ true := by
    rw [hidle]
    nofun
  rcases hcontext with ⟨rfl, rfl⟩ | ⟨getter, hfinds, rfl⟩
  · exact ⟨none, .server, hcode, fun hvalid => absurd hvalid hnot, fun _ => ⟨rfl, nofun,
      fun _ => hidle⟩⟩
  · obtain ⟨c, hc⟩ := hnames.extracts getter inbound hfinds
    rw [hc] at hcode
    exact ⟨some c, .server, hcode, fun hvalid => absurd hvalid hnot, fun _ => ⟨rfl,
      hnames.finds getter inbound c hfinds hc, hnames.findsNone getter inbound c hfinds hc⟩⟩

lemma decides_environ (hnames : Names Ctx named) {environ : Arg}
    (h : EnvironHas inbound w.dicts environ) :
    Decides named inbound (environParentContext noFaults environ) w := by
  cases hvalid : (spanIn w.current).isValid with
  | true =>
    refine decides_internal ?_ hvalid
    unfold environParentContext
    rw [bind_of_ok (getCurrent_apply w), if_pos hvalid]
    rfl
  | false =>
    refine decides_server hnames (environParentContext_eq environ hvalid) hvalid ?_
    cases environ with
    | dict ref => exact Or.inr ⟨_, h.1, rfl⟩
    | val v => exact Or.inl ⟨rfl, h⟩
    | object mapping truth get items setItem => exact Or.inl ⟨rfl, h⟩
    | target topic exchange => exact Or.inl ⟨rfl, h⟩
    | incoming ctxt message modules => exact Or.inl ⟨rfl, h⟩

/-- The context in the headers of a request, which may be `None`. -/
def requestContext (dicts : List Dict) : Arg → Except Exn (Option Ctx)
  | .val .none => .ok none
  | headers => some <$> carried dicts headers

lemma requestContext_of_ne {headers : Arg} (h : headers ≠ .val .none) (dicts : List Dict) :
    (requestContext dicts headers : Except Exn (Option Ctx)) = some <$> carried dicts headers := by
  unfold requestContext
  split
  · exact absurd rfl h
  · rfl

lemma parentContext_eq (request : Request H) (hidle : (spanIn w.current).isValid = false) :
    parentContext noFaults request w =
      ((getattr (request.headers w.host) (.val .none) >>= requestContext w.dicts).map
        fun parent => (parent, .server), w) := by
  unfold parentContext
  rw [bind_of_ok (getCurrent_apply w), if_neg (by rw [hidle]; decide),
    bind_of_ok (reads_apply _ w)]
  cases getattr (request.headers w.host) (.val .none) with
  | error e => rfl
  | ok headers =>
    change (match headers with
      | .val .none => pure (none, .server)
      | headers => do
        let parent ← extract noFaults headers
        pure (some parent, .server) : Code Ctx H (Option Ctx × SpanKind)) w =
      ((requestContext w.dicts headers).map fun parent => (parent, .server), w)
    split
    · rfl
    · rename_i hne
      rw [requestContext_of_ne hne, bind_apply, extract_noFaults]
      cases (carried w.dicts headers : Except Exn Ctx) with
      | error e => rfl
      | ok c => rfl

lemma decides_request (hnames : Names Ctx named) {request : Request H}
    (h : RequestHas Ctx inbound w.dicts (request.headers w.host)) :
    Decides named inbound (parentContext noFaults request) w := by
  cases hvalid : (spanIn w.current).isValid with
  | true =>
    refine decides_internal ?_ hvalid
    unfold parentContext
    rw [bind_of_ok (getCurrent_apply w), if_pos hvalid]
    rfl
  | false =>
    refine decides_server hnames (parentContext_eq request hvalid) hvalid ?_
    unfold RequestHas at h
    split at h
    · rename_i hheaders
      exact Or.inl ⟨by rw [hheaders]; rfl, h⟩
    · rename_i carrier hcarrier hheaders
      refine Or.inr ⟨_, h, ?_⟩
      rw [hheaders]
      exact requestContext_of_ne hcarrier w.dicts
    · exact absurd h id

/-! ### Ways in that do not raise -/

omit [Propagator Ctx] in
lemma reads_builtin {environ : Dict} {key : String} (h : ∀ o, environ.get key ≠ some (.obj o)) :
    (∃ b, ((environ.get key).getD .none).truth = .ok b) ∧
      ∃ text, ((environ.get key).getD .none).text = .ok text := by
  cases hget : environ.get key with
  | none => exact ⟨⟨_, rfl⟩, _, rfl⟩
  | some v =>
    cases v with
    | obj o => exact absurd hget (h o)
    | none => exact ⟨⟨_, rfl⟩, _, rfl⟩
    | bool b => exact ⟨⟨_, rfl⟩, _, rfl⟩
    | int n => exact ⟨⟨_, rfl⟩, _, rfl⟩
    | str text => exact ⟨⟨_, rfl⟩, _, rfl⟩

lemma environAttribute_ok {environ : Dict} {key : String}
    (h : ∀ o, environ.get key ≠ some (.obj o)) (name : String) :
    ∃ d, environAttribute environ key name = .ok d := by
  obtain ⟨⟨b, hb⟩, text, htext⟩ := reads_builtin h
  unfold environAttribute
  dsimp only
  rw [hb, htext]
  cases b with
  | true => exact ⟨_, rfl⟩
  | false => exact ⟨_, rfl⟩

lemma textOf_ok {environ : Dict} {key : String} (h : ∀ o, environ.get key ≠ some (.obj o)) :
    ∃ text, textOf environ key = .ok text := by
  obtain ⟨⟨b, hb⟩, text, htext⟩ := reads_builtin h
  unfold textOf
  dsimp only
  rw [hb, htext]
  cases b with
  | true => exact ⟨_, rfl⟩
  | false => exact ⟨_, rfl⟩

lemma requestAttributes_ok {dicts : List Dict} {environ : Arg}
    (h : EnvironHas inbound dicts environ) :
    ∃ attributes, requestAttributes r dicts environ = .ok attributes := by
  cases environ with
  | dict ref =>
    have hkey : ∀ key ∈ readKeys, ∀ name,
        ∃ d, environAttribute (deref dicts ref) key name = .ok d :=
      fun key hkey name => environAttribute_ok (h.2 key hkey) name
    obtain ⟨method, hmethod⟩ := hkey "REQUEST_METHOD" (by decide) "http.request.method"
    obtain ⟨path, hpath⟩ := hkey "PATH_INFO" (by decide) "url.path"
    obtain ⟨scheme, hscheme⟩ := hkey "wsgi.url_scheme" (by decide) "url.scheme"
    obtain ⟨host, hhost⟩ := hkey "SERVER_NAME" (by decide) "server.address"
    unfold requestAttributes
    dsimp only
    rw [hmethod, hpath, hscheme, hhost]
    exact ⟨_, rfl⟩
  | val v => exact ⟨_, rfl⟩
  | object mapping truth get items setItem => exact ⟨_, rfl⟩
  | target topic exchange => exact ⟨_, rfl⟩
  | incoming ctxt message modules => exact ⟨_, rfl⟩

lemma requestSpanName_ok {dicts : List Dict} {environ : Arg}
    (h : EnvironHas inbound dicts environ) :
    ∃ name, requestSpanName r dicts environ = .ok name := by
  cases environ with
  | dict ref =>
    obtain ⟨method, hmethod⟩ := textOf_ok (h.2 "REQUEST_METHOD" (by decide))
    obtain ⟨path, hpath⟩ := textOf_ok (h.2 "PATH_INFO" (by decide))
    unfold requestSpanName
    dsimp only
    rw [hmethod, hpath]
    have hite : ∀ {c : Prop} [Decidable c] {x y : Except Exn String}, (∃ name, x = .ok name) →
        (∃ name, y = .ok name) → ∃ name, (if c then x else y) = .ok name := by
      intro c _ x y hx hy
      split
      · exact hx
      · exact hy
    exact hite ⟨_, rfl⟩ (hite ⟨_, rfl⟩ ⟨_, rfl⟩)
  | val v => exact ⟨_, rfl⟩
  | object mapping truth get items setItem => exact ⟨_, rfl⟩
  | target topic exchange => exact ⟨_, rfl⟩
  | incoming ctxt message modules => exact ⟨_, rfl⟩

lemma enterCall_ok {environ : Arg} {startResponse : StartResponse Ctx H}
    (hon : enabled w.current = true) (h : EnvironHas inbound w.dicts environ)
    {parent : Option Ctx} {kind : SpanKind}
    (hparent : environParentContext noFaults environ w = (.ok (parent, kind), w)) :
    ∃ o v, (enterCall r (.wsgi environ startResponse) w :
      Except Exn (Opening Ctx H (Invocation Ctx H) α) × World Ctx H) = (.ok o, v) := by
  obtain ⟨attributes, hattributes⟩ := requestAttributes_ok r h
  obtain ⟨name, hname⟩ := requestSpanName_ok r h
  have hread : readEnviron r environ w = .ok ⟨parent, kind, attributes, name⟩ := by
    rw [readEnviron, hparent, hattributes, hname]
    rfl
  have henter := enterCall_read r environ startResponse hon
  rw [hread] at henter
  obtain ⟨-, exit, hcall⟩ := henter
  exact ⟨_, _, hcall⟩

lemma enterProcess_ok {args : List (Request H)} {kwargs : List (String × Request H)}
    (hon : enabled w.current = true) {parent : Option Ctx} {kind : SpanKind}
    (hparent : parentContext noFaults (requestArg args kwargs) w = (.ok (parent, kind), w)) :
    ∃ o v, (enterProcess tuple args kwargs w :
      Except Exn (Opening Ctx H _ α) × World Ctx H) = (.ok o, v) := by
  unfold enterProcess
  rw [guard_on hon]
  dsimp only
  rw [bind_of_ok hparent]
  exact ⟨_, _, rfl⟩

/-! ### Steps -/

/-- A middleware was called: its span is the one decided on, and it is the innermost scope. -/
def Called (named : String → Option SpanContext) (inbound : Option String)
    (s s' : ServerStack Ctx H α) : Prop :=
  ∃ start exit, Decided named inbound s.current start ∧
    s'.ops = s.ops ++ [⟨some (entry s), s.current, start⟩] ∧
    s'.frames = ⟨start, s.world.current, exit, some s.ops.length⟩ :: s.frames ∧
    s'.world.current = setSpan start.span s.world.current

variable {home : Ctx} {s : ServerStack Ctx H α}

/-- A scope that is entered without raising, under the parent decided on. -/
lemma called_of_entered {ι : Type} {kind : SpanKind} {parent : SpanContext}
    {Q : SpanContext → ι → World Ctx H → Prop} {s' : ServerStack Ctx H α}
    (h : Entered s (some (entry s)) (fun _ => some s.ops.length) kind parent Q s')
    (hframes : ∃ f, s'.frames = f :: s.frames)
    (hdecided : Decided named inbound s.current ⟨newSpan s.world.calls parent, parent, kind⟩) :
    Called named inbound s s' := by
  have hmore : s'.frames ≠ s.frames := by
    obtain ⟨f, hf⟩ := hframes
    rw [hf]
    exact List.cons_ne_self f s.frames
  cases h with
  | into exit input opened ends current dicts ops frames handed =>
    exact ⟨_, exit, hdecided, ops, frames, current⟩
  | raised current dicts frames nothing ops => exact absurd frames hmore
  | undone current dicts frames attempted ops => exact absurd frames hmore

/-- **A middleware is called.** -/
lemma middleware (hnames : Names Ctx named) (hhome : enabled home = true) (h : Balanced home s)
    {e : Event Ctx H α} (hok : Ok inbound s e) (he : e.isMiddleware = true) :
    Balanced home (step r tuple s e) ∧ Called named inbound s (step r tuple s e) := by
  have hon : enabled s.world.current = true := h.nested.enabled hhome
  cases e with
  | call environ startResponse =>
    obtain ⟨parent, kind, hparent, hdecided⟩ := decides_environ hnames hok
    have hentered := entered_of_scoped (some (entry s)) (fun _ => some s.ops.length)
      (m := serve r environ startResponse) (scoped_call r environ startResponse hon hparent)
    have hframes := frames_of_ok (some (entry s)) (fun _ => some s.ops.length)
      (m := serve r environ startResponse) (enterCall_ok r hon hok hparent)
    exact ⟨h.enter hentered, called_of_entered hentered hframes hdecided⟩
  | process args kwargs =>
    obtain ⟨parent, kind, hparent, hdecided⟩ := decides_request hnames hok
    have hentered := entered_of_scoped (some (entry s)) (fun _ => some s.ops.length)
      (m := process tuple args kwargs) (scoped_process tuple args kwargs hon hparent)
    have hframes := frames_of_ok (some (entry s)) (fun _ => some s.ops.length)
      (m := process tuple args kwargs) (enterProcess_ok tuple hon hparent)
    exact ⟨h.enter hentered, called_of_entered hentered hframes hdecided⟩
  | span name kind context attributes => exact absurd he nofun
  | store dicts host => exact absurd he nofun
  | leave result => exact absurd he nofun

omit [Propagator Ctx] in
lemma outermost_cons_some (start : Start) (before : Ctx) (exit : Except Exn α → Code Ctx H α)
    (i : ℕ) (fs : List (Frame Ctx H α (Option ℕ))) :
    outermost (⟨start, before, exit, some i⟩ :: fs) = some ((outermost fs).getD i) := by
  simp [outermost, List.getLast?_cons]

omit [Propagator Ctx] in
/-- The outermost middleware stays the outermost one as scopes inside of it are left. -/
lemma outermost_of_tail {f : Frame Ctx H α (Option ℕ)} {fs : List (Frame Ctx H α (Option ℕ))}
    {j : ℕ} (h : outermost fs = some j) : outermost (f :: fs) = some j := by
  unfold outermost at h ⊢
  cases hf : f.given with
  | none =>
    rw [List.filterMap_cons_none hf]
    exact h
  | some i =>
    rw [List.filterMap_cons_some hf, List.getLast?_cons, h]
    rfl

/-- An operation of a middleware has the span it should; only the first one of its stack, which
is there, may have found no span. -/
structure Placed (named : String → Option SpanContext) (inbound : Option String)
    (ops : List (Op (Option ℕ))) (i : ℕ) (op : Op (Option ℕ)) (stack : ℕ) : Prop where
  decided : Decided named inbound op.current op.start
  first : i = stack ∨ op.current.isValid = true
  top : ∃ top, ops[stack]? = some top ∧ top.tag = some stack

structure Inv (named : String → Option SpanContext) (inbound : Option String) (home : Ctx)
    (s : ServerStack Ctx H α) : Prop where
  balanced : Balanced home s
  entered : ∀ j, outermost s.frames = some j → ∃ op, s.ops[j]? = some op ∧ op.tag = some j
  placed : ∀ (i : ℕ) (op : Op (Option ℕ)) (stack : ℕ), s.ops[i]? = some op →
    op.tag = some stack → Placed named inbound s.ops i op stack

lemma Placed.append {ops : List (Op (Option ℕ))} {i : ℕ} {op : Op (Option ℕ)} {stack : ℕ}
    (h : Placed named inbound ops i op stack) (more : List (Op (Option ℕ))) :
    Placed named inbound (ops ++ more) i op stack := by
  obtain ⟨top, htop, htag⟩ := h.top
  exact ⟨h.decided, h.first, top, getElem?_append_of_some htop more, htag⟩

/-- One more operation. -/
lemma Inv.append {s' : ServerStack Ctx H α} {op : Op (Option ℕ)}
    (h : Inv named inbound home s) (hbalanced : Balanced home s')
    (hops : s'.ops = s.ops ++ [op])
    (hentered : ∀ j, outermost s'.frames = some j →
      outermost s.frames = some j ∨ j = s.ops.length ∧ op.tag = some j)
    (hplaced : ∀ stack, op.tag = some stack →
      Placed named inbound s'.ops s.ops.length op stack) : Inv named inbound home s' := by
  refine ⟨hbalanced, ?_, ?_⟩
  · intro j hj
    rw [hops]
    rcases hentered j hj with hold | ⟨rfl, htag⟩
    · obtain ⟨top, htop, htag⟩ := h.entered j hold
      exact ⟨top, getElem?_append_of_some htop _, htag⟩
    · exact ⟨op, List.getElem?_concat_length, htag⟩
  · intro i op' stack hi htag
    rw [hops] at hi
    rcases of_getElem?_append hi with hold | ⟨rfl, rfl⟩
    · rw [hops]
      exact (h.placed i op' stack hold htag).append _
    · exact hplaced stack htag

lemma Inv.called {s' : ServerStack Ctx H α} (h : Inv named inbound home s)
    (hbalanced : Balanced home s') (hcalled : Called named inbound s s') :
    Inv named inbound home s' := by
  obtain ⟨start, exit, hdecided, hops, hframes, -⟩ := hcalled
  have hentry : outermost s'.frames = some (entry s) := by
    rw [hframes, outermost_cons_some]
    rfl
  refine h.append hbalanced hops ?_ ?_
  · intro j hj
    obtain rfl := Option.some.inj (hentry.symm.trans hj)
    cases hout : outermost s.frames with
    | none =>
      have hlast : entry s = s.ops.length := by simp [entry, hout]
      exact Or.inr ⟨hlast, rfl⟩
    | some j =>
      have hsame : entry s = j := by simp [entry, hout]
      exact Or.inl (by rw [hsame])
  · intro stack hstack
    obtain rfl := Option.some.inj hstack
    cases hout : outermost s.frames with
    | none =>
      have hlast : entry s = s.ops.length := by simp [entry, hout]
      have hnew : s'.ops[entry s]? = some ⟨some (entry s), s.current, start⟩ := by
        rw [hops, hlast]
        exact List.getElem?_concat_length
      exact ⟨hdecided, Or.inl hlast.symm, _, hnew, rfl⟩
    | some j =>
      have hsame : entry s = j := by simp [entry, hout]
      have hinside : s.frames ≠ [] := by
        intro hnil
        rw [hnil] at hout
        exact absurd hout nofun
      obtain ⟨top, htop, htag⟩ := h.entered j hout
      refine ⟨hdecided, Or.inr (h.balanced.current_valid hinside), top, ?_, ?_⟩
      · rw [hops, hsame]
        exact getElem?_append_of_some htop _
      · rw [hsame]
        exact htag

/-- A span of the program. -/
lemma Inv.program {ι : Type} {kind : SpanKind} {parent : SpanContext}
    {Q : SpanContext → ι → World Ctx H → Prop} {s' : ServerStack Ctx H α}
    (h : Inv named inbound home s) (he : Entered s none (fun _ => none) kind parent Q s') :
    Inv named inbound home s' := by
  have hbalanced := h.balanced.enter he
  cases he with
  | into exit input opened ends current dicts ops frames handed =>
    refine h.append hbalanced ops (fun j hj => Or.inl ?_) nofun
    rw [frames] at hj
    exact hj
  | raised current dicts frames nothing ops =>
    refine ⟨hbalanced, ?_, ?_⟩
    · rw [frames, ops]
      exact h.entered
    · rw [ops]
      exact h.placed
  | undone current dicts frames attempted ops =>
    refine h.append hbalanced ops (fun j hj => Or.inl ?_) nofun
    rw [frames] at hj
    exact hj

lemma Inv.step (hnames : Names Ctx named) (hhome : enabled home = true)
    (h : Inv named inbound home s) {e : Event Ctx H α} (hok : Ok inbound s e) :
    Inv named inbound home (step r tuple s e) := by
  have hmiddleware : e.isMiddleware = true →
      Inv named inbound home (ServerStacks.step r tuple s e) := by
    intro he
    obtain ⟨hbalanced, hcalled⟩ := middleware r tuple hnames hhome h.balanced hok he
    exact h.called hbalanced hcalled
  cases e with
  | call environ startResponse => exact hmiddleware rfl
  | process args kwargs => exact hmiddleware rfl
  | span name kind context attributes =>
    have hscoped := scoped_programSpan (α := α) name kind context attributes s.world
    exact h.program (entered_of_scoped none (fun _ => none) hscoped)
  | store dicts host => exact ⟨h.balanced.store dicts host, h.entered, h.placed⟩
  | leave result =>
    refine ⟨h.balanced.leave result, ?_, ?_⟩
    · intro j hj
      cases hframes : s.frames with
      | nil =>
        simp only [ServerStacks.step, Stack.leave, hframes] at hj
        exact absurd hj nofun
      | cons f fs =>
        simp only [ServerStacks.step, Stack.leave, hframes] at hj ⊢
        exact h.entered j (by rw [hframes]; exact outermost_of_tail hj)
    · cases hframes : s.frames with
      | nil => simpa only [ServerStacks.step, Stack.leave, hframes] using h.placed
      | cons f fs => simpa only [ServerStacks.step, Stack.leave, hframes] using h.placed

omit [Propagator Ctx] in
/-- A middleware's span is a server span if it is the first of its stack and found none. -/
lemma Placed.server_iff {ops : List (Op (Option ℕ))} {i : ℕ} {op top : Op (Option ℕ)} {stack : ℕ}
    (h : Placed named inbound ops i op stack) (hi : ops[i]? = some op)
    (htop : ops[stack]? = some top) :
    op.start.kind = .server ↔ i = stack ∧ top.current.isValid = false := by
  constructor
  · intro hkind
    have hidle : op.current.isValid = false := by
      cases hvalid : op.current.isValid with
      | false => rfl
      | true =>
        have hinternal := (h.decided.internal hvalid).1
        rw [hkind] at hinternal
        exact absurd hinternal nofun
    obtain rfl | hvalid := h.first
    · obtain rfl := Option.some.inj (hi.symm.trans htop)
      exact ⟨rfl, hidle⟩
    · exact absurd (hvalid.symm.trans hidle) nofun
  · rintro ⟨rfl, hidle⟩
    obtain rfl := Option.some.inj (hi.symm.trans htop)
    exact (h.decided.server hidle).1

/-- **One server span for each request.** In every run every middleware that is called opens
one span. In each stack that span is a server span only for the outermost middleware, and for
it exactly when no span was current; it is then under the inbound header's span, or else a root.
Every other one is internal, under the span that was current. Whatever a middleware comes out
with, its span has then ended once, and the context is the one it was called in. -/
theorem one_server_span (hnames : Names Ctx named) (hhome : enabled home = true) (host : H)
    {es : List (Event Ctx H α)}
    (hl : Legal (Ok inbound) (step r tuple) (Stack.init home host) es) :
    let s := run (step r tuple) (Stack.init home host) es
    s.ops.map Op.start = starts s.world.calls ∧
      (∀ (i : ℕ) (op : Op (Option ℕ)) (stack : ℕ), s.ops[i]? = some op → op.tag = some stack →
        ∃ top, s.ops[stack]? = some top ∧ top.tag = some stack ∧
          (op.start.kind = .server ↔ i = stack ∧ top.current.isValid = false) ∧
          (op.start.kind = .server →
            (∀ remote, inbound.bind named = some remote → op.start.parent = remote) ∧
            (inbound.bind named = none → op.start.parent.isValid = false)) ∧
          (op.start.kind ≠ .server →
            op.start.kind = .internal ∧ op.start.parent = op.current)) ∧
      (∀ e, Ok inbound s e → e.isMiddleware = true →
        let s' := step r tuple s e
        ∃ op f, s'.ops = s.ops ++ [op] ∧ s'.frames = f :: s.frames ∧ op.tag = some (entry s) ∧
          op.current = spanIn s.world.current ∧ f.start = op.start ∧
          f.before = s.world.current ∧ spanIn s'.world.current = op.start.span) ∧
      (s.frames = [] → s.world.current = home) ∧
      (∀ span ∈ startedSpans s.world.calls, (finishedSpans s.world.calls).count span =
        if span ∈ s.frames.map fun f => f.start.span then 0 else 1) ∧
      ∀ result f fs, s.frames = f :: fs →
        let s' := step r tuple s (.leave result)
        s'.frames = fs ∧ s'.world.current = f.before ∧
          (finishedSpans s'.world.calls).count f.start.span = 1 := by
  intro s
  have hinit : Inv named inbound home (Stack.init home host : ServerStack Ctx H α) :=
    ⟨balanced_init home host, nofun, nofun⟩
  have h : Inv named inbound home s :=
    inv_of_legal (fun _ _ ht hok => ht.step r tuple hnames hhome hok) hinit hl
  refine ⟨h.balanced.logged, ?_, ?_, ?_, fun span => h.balanced.count_finished, ?_⟩
  · intro i op stack hi htag
    have hplaced := h.placed i op stack hi htag
    obtain ⟨top, htop, htopTag⟩ := hplaced.top
    refine ⟨top, htop, htopTag, hplaced.server_iff hi htop, ?_, ?_⟩
    · intro hkind
      cases hvalid : op.current.isValid with
      | false => exact (hplaced.decided.server hvalid).2
      | true =>
        have hinternal := (hplaced.decided.internal hvalid).1
        exact absurd (hkind.symm.trans hinternal) nofun
    · intro hkind
      cases hvalid : op.current.isValid with
      | false => exact absurd (hplaced.decided.server hvalid).1 hkind
      | true => exact hplaced.decided.internal hvalid
  · intro e hok he s'
    obtain ⟨-, start, exit, -, hops, hframes, hcurrent⟩ :=
      middleware r tuple hnames hhome h.balanced hok he
    exact ⟨_, _, hops, hframes, rfl, rfl, rfl, rfl, (congrArg spanIn hcurrent).trans
      (spanIn_setSpan _ _)⟩
  · intro hframes
    have hnested := h.balanced.nested
    rw [hframes] at hnested
    exact hnested
  · intro result f fs hframes
    obtain ⟨hcurrent, hfs, -⟩ := h.balanced.leave_current hframes result
    exact ⟨hfs, hcurrent, h.balanced.leave_ended hframes result⟩

end

/-! ### One request -/

/-- A request with the trace header in its headers, and no tokens. -/
def tracedRequest : Request Unit where
  isNone := false
  headers _ := .ok (.dict 1)
  fields := (noRequest Unit).fields

/-- The environment and the headers of a request with a trace header. -/
def tracedDicts : List Dict :=
  [[(environKey "traceparent", .str (traceparent ⟨7, 7⟩))],
    [("traceparent", .str (traceparent ⟨7, 7⟩))]]

/-- `__call__`, with `process_request` inside of it. -/
def callAndProcess : List (Event BareContext Unit Unit) :=
  [.store tracedDicts (), .call (.dict 0) fun _ _ => pure (.val .none),
    .process [tracedRequest] []]

/-- The getter of a mapping with one text in it. -/
lemma finds_of_single {getter : String → Except Exn (Option (List Val))} {header : String}
    (here : String → Prop) [DecidablePred here]
    (hget : ∀ key, getter key = if here key then .ok (some [.str header]) else .ok none)
    (hkey : here "traceparent") : Finds getter (some header) := by
  refine ⟨(hget "traceparent").trans (if_pos hkey), ?_⟩
  intro key
  rw [hget key]
  by_cases h : here key
  · rw [if_pos h]
    exact Or.inr ⟨header, rfl⟩
  · rw [if_neg h]
    exact Or.inl rfl

lemma finds_environ : Finds (environGetter (deref tracedDicts 0)) (some (traceparent ⟨7, 7⟩)) := by
  refine finds_of_single (fun key => environKey key = environKey "traceparent") ?_ rfl
  intro key
  have hget : (deref tracedDicts 0).get (environKey key) =
      if environKey key = environKey "traceparent" then some (.str (traceparent ⟨7, 7⟩))
      else none := Dict.get_cons ..
  unfold environGetter
  rw [hget]
  by_cases h : environKey key = environKey "traceparent"
  · rw [if_pos h, if_pos h]
    rfl
  · rw [if_neg h, if_neg h]
    rfl

lemma finds_headers :
    Finds (defaultGetter BareContext (tracedDicts ++ [[]]) (.dict 1))
      (some (traceparent ⟨7, 7⟩)) := by
  refine finds_of_single (fun key => key = "traceparent") ?_ rfl
  intro key
  have hget : (Arg.dict 1).get (tracedDicts ++ [[]]) key .none =
      .ok (if key = "traceparent" then .str (traceparent ⟨7, 7⟩) else .none) := by
    change Except.ok ((Dict.get [("traceparent", .str (traceparent ⟨7, 7⟩))] key).getD .none) = _
    rw [Dict.get_cons]
    by_cases h : key = "traceparent"
    · rw [if_pos h, if_pos h]
      rfl
    · rw [if_neg h, if_neg h]
      rfl
  unfold defaultGetter
  rw [hget]
  by_cases h : key = "traceparent"
  · rw [if_pos h, if_pos h]
    rfl
  · rw [if_neg h, if_neg h]
    rfl

lemma ok_callAndProcess :
    Legal (Ok (some (traceparent ⟨7, 7⟩))) (step .nothing fun _ => .none)
      (Stack.init empty ()) callAndProcess := by
  have hkeys : ∀ key ∈ readKeys, ∀ o, (deref tracedDicts 0).get key ≠ some (.obj o) := by
    intro key hkey o
    change Dict.get [(environKey "traceparent", .str (traceparent ⟨7, 7⟩))] key ≠ _
    rw [Dict.get_cons]
    split
    · exact fun h => absurd (Option.some.inj h) nofun
    · exact nofun
  exact ⟨trivial, ⟨finds_environ, hkeys⟩, finds_headers, trivial⟩

theorem one_server_span_callAndProcess :
    let s := run (step .nothing fun _ => .none) (Stack.init empty ()) callAndProcess
    s.ops.map (fun op => (op.tag, op.start.kind)) = [(some 0, .server), (some 0, .internal)] ∧
      ∀ op, s.ops[0]? = some op → op.start.parent = ⟨7, 7⟩ := by
  intro s
  obtain ⟨-, hops, -⟩ := one_server_span .nothing (fun _ => .none) names_bare
    (show enabled (empty : BareContext) = true from rfl) () ok_callAndProcess
  have hkinds : s.ops.map (fun op => (op.tag, op.start.kind)) =
      [(some 0, .server), (some 0, .internal)] := rfl
  have hremote : (some (traceparent ⟨7, 7⟩)).bind parseTraceparent = some ⟨7, 7⟩ := by
    rw [Option.bind_some]
    exact parse_traceparent (by decide)
  refine ⟨hkinds, ?_⟩
  intro op hop
  have hfirst : (s.ops.map fun op => (op.tag, op.start.kind))[0]? =
      some (op.tag, op.start.kind) := by
    rw [List.getElem?_map, hop]
    rfl
  rw [hkinds] at hfirst
  obtain ⟨htag, hkind⟩ := Prod.mk.inj (Option.some.inj hfirst)
  obtain ⟨top, -, -, -, hparent, -⟩ := hops 0 op 0 hop htag.symm
  exact (hparent hkind.symm).1 ⟨7, 7⟩ hremote

end OtelOpenstack.ServerStacks
