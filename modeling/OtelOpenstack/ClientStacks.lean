import OtelOpenstack.ClientCalls
import OtelOpenstack.Stacks

/-!
Instrumented client calls inside of instrumented client calls: `Proxy.request` and
`Session.request`, at any depth, and the headers each hands on.
-/

set_option autoImplicit false

namespace OtelOpenstack.ClientStacks

open Effects Python Otel ContextApi Carriers Openings Hops HopSpecs Http Wires TraceContext Scopes
open ClientCalls (Client liftExcept_bind liftExcept_pure)
open Stacks Runs

/-- The unit makes a request by one of the two clients, opens a span of its own, changes its
dictionaries and its program's state, or comes out of the callable it is in. -/
inductive Event (Ctx H α : Type)
  | request (client : Client) (args : Args) (kwargs : Kwargs)
  | own (name : String) (attributes : Dict)
  | store (dicts : List Dict) (host : H)
  | leave (result : Except Exn α)

/-- A mapping, with the items `d`. -/
def MappingOf (dicts : List Dict) : Arg → Dict → Prop
  | .dict ref, d => ref < dicts.length ∧ d = deref dicts ref
  | .object mapping truth _ items _, d =>
    mapping = true ∧ truth = .ok (!d.isEmpty) ∧ items = .ok d
  | _, _ => False

/-- The headers the caller gave: none, or a mapping. -/
def Headers (dicts : List Dict) (kwargs : Kwargs) (d : Dict) : Prop :=
  match kwargs.lookup "headers" with
  | none => d = []
  | some headers => MappingOf dicts headers d

section

variable {Ctx H α : Type} [Propagator Ctx]

/-- A unit inside of client calls and spans of its own; a client has the input its callable is
handed. -/
abbrev ClientStack (Ctx H α : Type) := Stack Ctx H α Unit (Option Input)

variable (r : Reading α)

def request (client : Client) (args : Args) (kwargs : Kwargs) : Wrapping Ctx H Input α :=
  match client with
  | .session => session r args kwargs
  | .proxy p => proxyRequest r p args kwargs

def step (s : ClientStack Ctx H α) : Event Ctx H α → ClientStack Ctx H α
  | .request client args kwargs => s.enter () some (request r client args kwargs)
  | .own name attributes => s.enter () (fun _ => none) (ownSpan name attributes)
  | .store dicts host => s.store dicts host
  | .leave result => s.leave result

omit [Propagator Ctx] in
/-- The parent of a scope's span is the span of the next scope, and at last `outside`. -/
def Chained (outside : SpanContext) : List (Frame Ctx H α (Option Input)) → Prop
  | [] => True
  | f :: fs => f.start.parent = (fs.head?.map fun g => g.start.span).getD outside ∧
    Chained outside fs

/-- The inner call is handed a new dictionary of headers, with the caller's items but for what
the propagator writes, and the client's span under `traceparent`. -/
structure HandsOn (args : Args) (kwargs : Kwargs) (caller : Dict) (s s' : ClientStack Ctx H α)
    (f : Frame Ctx H α (Option Input)) : Prop where
  given : f.given = some (args, setKwarg kwargs "headers" (.dict s.world.dicts.length))
  made : s'.world.dicts.length = s.world.dicts.length + 1
  agrees : ∀ key, key ∉ (Propagator.headers s'.world.current).map Prod.fst →
    (deref s'.world.dicts s.world.dicts.length).get key = caller.get key
  carries : Carries Ctx (deref s'.world.dicts s.world.dicts.length) f.start.span

/-! ### Copies of headers -/

lemma get_setAll_of_not_mem {items : List (String × String)} {key : String}
    (h : key ∉ items.map Prod.fst) (d : Dict) : (setAll items d).get key = d.get key := by
  induction items generalizing d with
  | nil => rfl
  | cons item items ih =>
    obtain ⟨k, v⟩ := item
    simp only [List.map_cons, List.mem_cons, not_or] at h
    rw [setAll, ih h.2, Dict.get_set_of_ne _ _ h.1]

lemma copyHeaders_session {dicts : List Dict} {kwargs : Kwargs} {d : Dict}
    (h : Headers dicts kwargs d) : KeystoneAuth.copyHeaders dicts kwargs = .ok d := by
  have hempty : ∀ a : Arg, a.truth dicts = .ok (!d.isEmpty) → a.toDict dicts = .ok d →
      (do
        let headers ← a.orEmpty dicts
        headers.toDict dicts) = .ok d := by
    intro a htruth hitems
    unfold Arg.orEmpty
    rw [htruth]
    cases hd : d with
    | nil => rfl
    | cons item rest =>
      rw [← hd, ← hitems, hd]
      rfl
  unfold Headers at h
  unfold KeystoneAuth.copyHeaders
  cases hlookup : kwargs.lookup "headers" with
  | none =>
    rw [hlookup] at h
    subst h
    rfl
  | some headers =>
    rw [hlookup] at h
    rw [Option.getD_some]
    cases headers with
    | dict ref =>
      obtain ⟨-, rfl⟩ := h
      exact hempty _ rfl rfl
    | object mapping truth get items setItem =>
      obtain ⟨-, rfl, rfl⟩ := h
      exact hempty _ rfl rfl
    | val v => exact absurd h id
    | target topic exchange => exact absurd h id
    | incoming ctxt message modules => exact absurd h id

lemma copyHeaders_proxy {dicts : List Dict} {kwargs : Kwargs} {d : Dict}
    (h : Headers dicts kwargs d) : OpenStackSdk.copyHeaders dicts kwargs = .ok d := by
  unfold Headers at h
  unfold OpenStackSdk.copyHeaders
  cases hlookup : kwargs.lookup "headers" with
  | none =>
    rw [hlookup] at h
    rw [h]
  | some headers =>
    rw [hlookup] at h
    cases headers with
    | dict ref =>
      obtain ⟨-, rfl⟩ := h
      rfl
    | object mapping truth get items setItem =>
      obtain ⟨-, -, rfl⟩ := h
      rfl
    | val v => exact absurd h id
    | target topic exchange => exact absurd h id
    | incoming ctxt message modules => exact absurd h id

/-- Headers that were given can be copied. -/
lemma copyHeaders_of_headers {dicts : List Dict} {kwargs : Kwargs} {d : Dict} (client : Client)
    (h : Headers dicts kwargs d) : client.copyHeaders dicts kwargs = .ok d := by
  cases client with
  | session => exact copyHeaders_session h
  | proxy p => exact copyHeaders_proxy h

/-! ### The way in -/

section

variable (client : Client) (args : Args) (kwargs : Kwargs)

/-- The block in the span of a client, up to the call. -/
def block (dicts : List Dict) (span : SpanContext) : Code Ctx H (Opening Ctx H Input α) := do
  let copy ← Effects.liftExcept (client.copyHeaders dicts kwargs)
  let headers ← newDict copy
  inject noFaults (.dict headers)
  let call := pure (.call (args, setKwarg kwargs "headers" (.dict headers)))
  andThen
    (match client with
      | .session => handling call (noteException span (KeystoneAuth.recordError noFaults r span))
      | .proxy _ => call)
    (afterResponse r span)

/-- A client reads what it is called with, and starts its span. -/
lemma enter_of_enabled {w : World Ctx H} (hon : enabled w.current = true) :
    (request r client args kwargs).enter w =
      (do
        let plan ← Effects.liftExcept (client.plan r w.dicts args kwargs)
        let span ← startSpan noFaults plan.1 .client none plan.2
        enterSpan span (block r client args kwargs w.dicts span)) w := by
  cases client with
  | session =>
    change enterSession r args kwargs w = _
    unfold enterSession
    rw [guard_on hon, bind_of_ok (reads_apply _ w)]
    simp only [Client.plan, liftExcept_bind, liftExcept_pure]
    rfl
  | proxy p =>
    change enterProxy r p args kwargs w = _
    unfold enterProxy
    rw [guard_on hon, bind_of_ok (reads_apply _ w)]
    simp only [Client.plan, liftExcept_bind, liftExcept_pure]
    rfl

/-- Where the headers can be copied the block comes to the call. -/
lemma block_returns {dicts : List Dict} {copy : Dict}
    (hcopy : client.copyHeaders dicts kwargs = .ok copy) (span : SpanContext) (v : World Ctx H) :
    ∃ o u, block r client args kwargs dicts span v = (.ok o, u) := by
  have hnew : newDict copy v = (.ok v.dicts.length, { v with dicts := v.dicts ++ [copy] }) := rfl
  have hinject := inject_dict v.dicts.length { v with dicts := v.dicts ++ [copy] }
  unfold block
  rw [hcopy, bind_of_ok (liftExcept_apply _ v), bind_of_ok hnew, bind_of_ok hinject]
  cases client with
  | session => exact ⟨_, _, rfl⟩
  | proxy p => exact ⟨_, _, rfl⟩

end

/-! ### Steps -/

structure Inv (home : Ctx) (s : ClientStack Ctx H α) : Prop where
  balanced : Balanced home s
  chained : Chained (spanIn home) s.frames

variable {r} {home : Ctx} {s : ClientStack Ctx H α}

omit [Propagator Ctx] in
/-- The span that is current is that of the innermost scope. -/
lemma current_eq [ContextApi Ctx] (h : Balanced home s) :
    s.current = (s.frames.head?.map fun f => f.start.span).getD (spanIn home) := by
  have hnested := h.nested
  cases hframes : s.frames with
  | nil =>
    rw [hframes] at hnested
    rw [Stack.current, show s.world.current = home from hnested]
    rfl
  | cons f fs =>
    rw [hframes] at hnested
    rw [Stack.current, hnested.1, spanIn_setSpan]
    rfl

/-- A scope under the current span. -/
lemma Inv.enter {ι : Type} {given : ι → Option Input} {kind : SpanKind}
    {Q : SpanContext → ι → World Ctx H → Prop} {s' : ClientStack Ctx H α} (h : Inv home s)
    (he : Entered s () given kind s.current Q s') : Inv home s' := by
  refine ⟨h.balanced.enter he, ?_⟩
  cases he with
  | into exit input opened ends current dicts ops frames handed =>
    rw [frames]
    exact ⟨current_eq h.balanced, h.chained⟩
  | raised current dicts frames nothing ops =>
    rw [frames]
    exact h.chained
  | undone current dicts frames attempted ops =>
    rw [frames]
    exact h.chained

/-- What a client call does, given what is copied of the caller's headers. -/
def Requests (s s' : ClientStack Ctx H α) (args : Args) (kwargs : Kwargs)
    (copied : Except Exn Dict) : Prop :=
  Entered s () some .client s.current
    (fun _ => Handed args kwargs copied s.world.dicts) s'

lemma requests_of_request (hon : enabled s.world.current = true) (client : Client) (args : Args)
    (kwargs : Kwargs) :
    Requests s (step r s (.request client args kwargs)) args kwargs
      (client.copyHeaders s.world.dicts kwargs) := by
  cases client with
  | session => exact entered_of_scoped () some (scoped_session r args kwargs hon)
  | proxy p => exact entered_of_scoped () some (scoped_proxy r p args kwargs hon)

/-- Where what is read raises, the unit stays where it is. -/
lemma request_unread (hon : enabled s.world.current = true) {client : Client} {args : Args}
    {kwargs : Kwargs} {e : Exn} (hplan : client.plan r s.world.dicts args kwargs = .error e) :
    let s' := step r s (.request client args kwargs)
    s'.world = s.world ∧ s'.frames = s.frames := by
  have henter := enter_of_enabled r client args kwargs hon
  rw [hplan, bind_of_error (liftExcept_apply _ _)] at henter
  change (s.enter () some (request r client args kwargs)).world = _ ∧
    (s.enter () some (request r client args kwargs)).frames = _
  unfold Stack.enter
  rw [henter]
  exact ⟨rfl, rfl⟩

/-- Where nothing raises, it is in a scope more. -/
lemma request_read (hon : enabled s.world.current = true) {client : Client} {args : Args}
    {kwargs : Kwargs} {plan : String × Dict} {copy : Dict}
    (hplan : client.plan r s.world.dicts args kwargs = .ok plan)
    (hcopy : client.copyHeaders s.world.dicts kwargs = .ok copy) :
    ∃ f, (step r s (.request client args kwargs)).frames = f :: s.frames := by
  apply frames_of_ok
  rw [enter_of_enabled r client args kwargs hon, hplan, bind_of_ok (liftExcept_apply _ _),
    bind_of_ok (startSpan_noFaults ..)]
  unfold enterSpan finalizing
  generalize newSpan s.world.calls _ = span
  obtain ⟨o, u, hblock⟩ := block_returns r client args kwargs hcopy span
    { s.world.called [.start span (spanIn s.world.current) plan.1 .client plan.2] with
      current := setSpan span s.world.current }
  exact ⟨_, _, bind_of_ok (tryExcept_of_ok hblock)⟩

lemma Inv.step (hhome : enabled home = true) (h : Inv home s) (e : Event Ctx H α) :
    Inv home (ClientStacks.step r s e) := by
  have hon : enabled s.world.current = true := h.balanced.nested.enabled hhome
  cases e with
  | request client args kwargs =>
    exact h.enter (requests_of_request (r := r) hon client args kwargs)
  | own name attributes =>
    have hscoped := scoped_programSpan (α := α) name .internal none attributes s.world
    exact h.enter (entered_of_scoped () (fun _ => none) hscoped)
  | store dicts host => exact ⟨h.balanced.store dicts host, h.chained⟩
  | leave result =>
    refine ⟨h.balanced.leave result, ?_⟩
    have hchained := h.chained
    cases hframes : s.frames with
    | nil => simpa only [ClientStacks.step, Stack.leave, hframes] using hchained
    | cons f fs =>
      rw [hframes] at hchained
      simpa only [ClientStacks.step, Stack.leave, hframes] using hchained.2

variable [Faithful Ctx]

lemma handsOn_of_handed {args : Args} {kwargs : Kwargs} {d : Dict} {input : Input}
    {s' : ClientStack Ctx H α} {f : Frame Ctx H α (Option Input)}
    (hcurrent : spanIn s'.world.current = f.start.span) (hvalid : f.start.span.isValid = true)
    (hgiven : f.given = some input)
    (h : Handed args kwargs (.ok d) s.world.dicts input s'.world) :
    HandsOn args kwargs d s s' f := by
  obtain ⟨copy, hcopy, rfl, hdicts⟩ := h
  obtain rfl := Except.ok.inj hcopy
  have hderef : deref s'.world.dicts s.world.dicts.length =
      setAll (Propagator.headers s'.world.current) d := by
    rw [hdicts]
    simp [deref]
  refine ⟨hgiven, ?_, ?_, ?_⟩
  · rw [hdicts]
    simp
  · intro key hkey
    rw [hderef, get_setAll_of_not_mem hkey]
  · rw [hderef, ← hcurrent]
    exact carries_setAll (by rw [hcurrent]; exact hvalid) d

/-- **A client call.** -/
lemma Inv.request (hhome : enabled home = true) (h : Inv home s) (client : Client) (args : Args)
    {kwargs : Kwargs} {d : Dict} (hd : Headers s.world.dicts kwargs d) :
    let s' := ClientStacks.step r s (.request client args kwargs)
    s.world.dicts <+: s'.world.dicts ∧
      match client.plan r s.world.dicts args kwargs with
      | .error _ => s'.world = s.world ∧ s'.frames = s.frames
      | .ok _ => ∃ f, s'.frames = f :: s.frames ∧ f.before = s.world.current ∧
        f.start.kind = .client ∧ f.start.parent = spanIn s.world.current ∧
        spanIn s'.world.current = f.start.span ∧ HandsOn args kwargs d s s' f := by
  intro s'
  have hon : enabled s.world.current = true := h.balanced.nested.enabled hhome
  have hcopy := copyHeaders_of_headers client hd
  have hrequests := requests_of_request (r := r) hon client args kwargs
  rw [hcopy] at hrequests
  cases hplan : client.plan r s.world.dicts args kwargs with
  | error e =>
    obtain ⟨hworld, hframes⟩ := request_unread hon hplan
    exact ⟨hworld ▸ List.prefix_refl _, hworld, hframes⟩
  | ok plan =>
    obtain ⟨g, hg⟩ := request_read hon hplan hcopy
    have hmore : (ClientStacks.step r s (.request client args kwargs)).frames ≠ s.frames := by
      rw [hg]
      exact List.cons_ne_self g s.frames
    cases hrequests with
    | into exit input opened ends current dicts ops frames handed =>
      have hcurrent : spanIn s'.world.current = newSpan s.world.calls s.current :=
        (congrArg spanIn current).trans (spanIn_setSpan _ _)
      exact ⟨dicts, _, frames, rfl, rfl, rfl, hcurrent,
        handsOn_of_handed hcurrent (newSpan_valid _ _) rfl handed⟩
    | raised current dicts frames nothing ops => exact absurd frames hmore
    | undone current dicts frames attempted ops => exact absurd frames hmore

/-- **Nested client calls.** In every run the spans of the scopes the unit is inside of are a
chain of parents that ends with the span current outside, and every other span has ended once.
A client call modifies no dictionary there is. Where reading what it is called with raises,
nothing happens; otherwise it hands on a new dictionary with the caller's headers and its own
span. Whatever a scope came out with, its span has then ended once and the context is the one
it was entered in. -/
theorem headers_on_the_wire (r : Reading α) {home : Ctx} (hhome : enabled home = true) (host : H)
    (es : List (Event Ctx H α)) :
    let s := run (step r) (Stack.init home host) es
    Chained (spanIn home) s.frames ∧ (s.frames = [] → s.world.current = home) ∧
      (∀ span ∈ startedSpans s.world.calls, (finishedSpans s.world.calls).count span =
        if span ∈ s.frames.map fun f => f.start.span then 0 else 1) ∧
      (∀ client args kwargs d, Headers s.world.dicts kwargs d →
        let s' := step r s (.request client args kwargs)
        s.world.dicts <+: s'.world.dicts ∧
          match client.plan r s.world.dicts args kwargs with
          | .error _ => s'.world = s.world ∧ s'.frames = s.frames
          | .ok _ => ∃ f, s'.frames = f :: s.frames ∧ f.before = s.world.current ∧
            f.start.kind = .client ∧ f.start.parent = spanIn s.world.current ∧
            spanIn s'.world.current = f.start.span ∧ HandsOn args kwargs d s s' f) ∧
      ∀ result f fs, s.frames = f :: fs →
        let s' := step r s (.leave result)
        s'.frames = fs ∧ s'.world.current = f.before ∧ s.world.dicts <+: s'.world.dicts ∧
          (finishedSpans s'.world.calls).count f.start.span = 1 := by
  intro s
  have hinit : Inv home (Stack.init home host : ClientStack Ctx H α) :=
    ⟨balanced_init home host, trivial⟩
  have h : Inv home s := inv_of_run (fun _ e ht => ht.step hhome e) hinit es
  refine ⟨h.chained, ?_, fun span => h.balanced.count_finished, ?_, ?_⟩
  · intro hframes
    have hnested := h.balanced.nested
    rw [hframes] at hnested
    exact hnested
  · intro client args kwargs d hd
    exact h.request hhome client args hd
  · intro result f fs hframes
    obtain ⟨hcurrent, hfs, hdicts⟩ := h.balanced.leave_current hframes result
    exact ⟨hfs, hcurrent, hdicts, h.balanced.leave_ended hframes result⟩

end

/-- A proxy's request with headers of another trace, and the session's inside of it, with those
the proxy's wrapper made. -/
def nestedRequests : List (Event BareContext Unit Unit) :=
  [.store [[("traceparent", .str (traceparent ⟨7, 7⟩)), ("Accept", .str "*/*")]] (),
    .request (.proxy .plain) [] [("headers", .dict 0)],
    .request .session [] [("headers", .dict 1)]]

theorem headers_on_the_wire_nested :
    let s := run (step .nothing) (Stack.init empty ()) nestedRequests
    s.world.dicts.map (fun d => (d.get "traceparent", d.get "Accept")) =
        [(some (.str (traceparent ⟨7, 7⟩)), some (.str "*/*")),
          (some (.str (traceparent ⟨1, 1⟩)), some (.str "*/*")),
          (some (.str (traceparent ⟨1, 2⟩)), some (.str "*/*"))] ∧
      s.frames.map (fun f => (f.start.span, f.start.parent)) =
        [(⟨1, 2⟩, ⟨1, 1⟩), (⟨1, 1⟩, invalidSpan)] ∧
      Chained invalidSpan s.frames := by
  intro s
  obtain ⟨hchained, -⟩ := headers_on_the_wire .nothing
    (show enabled (empty : BareContext) = true from rfl) () nestedRequests
  exact ⟨rfl, rfl, hchained⟩

end OtelOpenstack.ClientStacks
