import OtelOpenstack.Causes
import OtelOpenstack.Runs
import OtelOpenstack.Scopes

/-!
One trace end to end: workers that call one another by requests and messages.

A worker is inside the wrappers whose callables it runs, the innermost first. The workers take
steps in any order. What an operation was caused by is written down as it starts: an operation
is called inside another, or serves a request or a message of another, or begins a tree.
-/

set_option autoImplicit false

namespace OtelOpenstack.Traces

open Effects Python Otel ContextApi Carriers Openings Hops HopSpecs Http Wires Causes
open TraceContext
open Scopes (enters_ownSpan enters_session enters_proxy enters_call)
open Runs (getElem?_append_of_some of_getElem?_append)

/-- An operation: its cause, the span current where it was called, and its own span. -/
structure Op where
  cause : Option ℕ
  current : SpanContext
  span : SpanContext
  parent : SpanContext
  kind : SpanKind

/-- A request or a message under way, and the operation that sent it. -/
structure Packet where
  op : ℕ
  hop : Hop
  content : Dict

/-- A wrapper a worker is inside of; one that sends has what its callable was given to send. -/
structure Frame (Ctx H α : Type) where
  op : ℕ
  packet : Option Packet
  exit : Except Exn α → Code Ctx H α

structure Worker (Ctx H α : Type) where
  current : Ctx
  dicts : List Dict
  host : H
  frames : List (Frame Ctx H α)

structure Sys (U Ctx H α : Type) where
  calls : List Call
  ops : List Op
  packets : List Packet
  workers : U → Worker Ctx H α

/-- A worker opens a span of its own, calls `Proxy.request`, `Session.request` or a send, has
what it is sending transmitted, takes a request or a message, from a packet or from elsewhere,
changes its dictionaries and its program's state, or comes out of the callable it is in. -/
inductive Event (U Ctx H α : Type)
  | work (u : U) (name : String) (attributes : Dict)
  | proxy (u : U) (proxy : OpenStackSdk.Proxy) (args : Args) (kwargs : Kwargs)
  | session (u : U) (args : Args) (kwargs : Kwargs)
  | send (u : U) (isNotification : Bool) (transport : Option String) (args : Args)
      (kwargs : Kwargs)
  | transmit (u : U)
  | serve (u : U) (source : Option ℕ) (environ : Arg)
      (startResponse : KeystoneMiddleware.StartResponse Ctx H)
  | dispatch (u : U) (style : Deliveries.Style) (source : Option ℕ) (args : Args)
      (kwargs : Kwargs)
  | store (u : U) (dicts : List Dict) (host : H)
  | leave (u : U) (result : Except Exn α)

/-- The operation a call on the tracer starts. -/
def opOf (cause : Option ℕ) (current : SpanContext) : Call → Option Op
  | .start span parent _ kind _ => some ⟨cause, current, span, parent, kind⟩
  | _ => none

def newOps (cause : Option ℕ) (current : SpanContext) (calls : List Call) : List Op :=
  calls.filterMap (opOf cause current)

section

variable {U Ctx H α : Type}

def Sys.init (home : U → Ctx) (host : U → H) : Sys U Ctx H α :=
  ⟨[], [], [], fun u => ⟨home u, [], host u, []⟩⟩

def Sys.world (s : Sys U Ctx H α) (u : U) : World Ctx H :=
  ⟨(s.workers u).current, s.calls, (s.workers u).dicts, (s.workers u).host⟩

/-- The operation a worker is inside of. -/
def Sys.caller (s : Sys U Ctx H α) (u : U) : Option ℕ :=
  (s.workers u).frames.head?.map Frame.op

def isSending : SpanKind → Bool
  | .client => true
  | .producer => true
  | _ => false

/-- The innermost client or producer operation a worker is inside of. -/
def Sys.innermost (s : Sys U Ctx H α) (u : U) : Option ℕ :=
  ((s.workers u).frames.map Frame.op).find? fun i => s.ops[i]?.any fun op => isSending op.kind

/-- The operation a packet was sent by. -/
def Sys.sender (s : Sys U Ctx H α) (source : Option ℕ) : Option ℕ :=
  source.bind fun k => s.packets[k]?.map Packet.op

variable [DecidableEq U] [Propagator Ctx]

/-- After a worker ran code that ended in `w`, inside `frames`. -/
def Sys.ran (s : Sys U Ctx H α) (u : U) (cause : Option ℕ) (frames : List (Frame Ctx H α))
    (w : World Ctx H) : Sys U Ctx H α where
  calls := w.calls
  ops := s.ops ++
    newOps cause (spanIn (s.workers u).current) (w.calls.drop s.calls.length)
  packets := s.packets
  workers := Function.update s.workers u ⟨w.current, w.dicts, w.host, frames⟩

/-- A worker goes into a wrapper, up to the call of the callable; `sends` is what the callable
is given to send. -/
def Sys.enter {ι : Type} (s : Sys U Ctx H α) (u : U) (cause : Option ℕ)
    (sends : List Dict → ι → Option (Hop × Dict)) (m : Wrapping Ctx H ι α) : Sys U Ctx H α :=
  match m.enter (s.world u) with
  | (.error _, w) => s.ran u cause (s.workers u).frames w
  | (.ok o, w) =>
    let packet := (sends w.dicts o.input).map fun p => ⟨s.ops.length, p.1, p.2⟩
    s.ran u cause (⟨s.ops.length, packet, o.exit⟩ :: (s.workers u).frames) w

variable (r : Reading α)

def step (s : Sys U Ctx H α) : Event U Ctx H α → Sys U Ctx H α
  | .work u name attributes => s.enter u (s.caller u) (fun _ _ => none) (ownSpan name attributes)
  | .proxy u proxy args kwargs =>
    s.enter u (s.caller u) (fun dicts input => some (.http, sentHeaders dicts input))
      (proxyRequest r proxy args kwargs)
  | .session u args kwargs =>
    s.enter u (s.caller u) (fun dicts input => some (.http, sentHeaders dicts input))
      (session r args kwargs)
  | .send u isNotification transport args kwargs =>
    s.enter u (s.caller u) (fun dicts input => some (.messaging, sentCtxt dicts input))
      (send isNotification transport args kwargs)
  | .transmit u =>
    { s with
      packets := s.packets ++ ((s.workers u).frames.findSome? Frame.packet).toList }
  | .serve u source environ startResponse =>
    s.enter u (s.sender source) (fun _ _ => none) (serve r environ startResponse)
  | .dispatch u .rpc source args kwargs =>
    s.enter u (s.sender source) (fun _ _ => none) (rpcDispatch args kwargs)
  | .dispatch u .notification source args kwargs =>
    s.enter u (s.sender source) (fun _ _ => none) (notificationDispatch args kwargs)
  | .store u dicts host =>
    { s with workers := Function.update s.workers u { s.workers u with dicts, host } }
  | .leave u result => match (s.workers u).frames with
    | [] => s
    | f :: fs => s.ran u none fs (f.exit result (s.world u)).2

/-- The worker has no active span. -/
def Idle (s : Sys U Ctx H α) (u : U) : Prop := (spanIn (s.workers u).current).isValid = false

/-- The mapping holds what packet `k` brings. -/
def Brings (s : Sys U Ctx H α) (u : U) (hop : Hop) (k : ℕ) (a : Arg) : Prop :=
  ∃ p ref, s.packets[k]? = some p ∧ p.hop = hop ∧ a = .dict ref ∧
    Delivers hop p.content (deref (s.workers u).dicts ref)

/-- Sends have a `ctxt` dictionary, and requests and messages are taken by idle workers. -/
def Ok (s : Sys U Ctx H α) : Event U Ctx H α → Prop
  | .send u _ _ args kwargs =>
    ∃ ref, arg args 1 kwargs "ctxt" = .dict ref ∧ ref < (s.workers u).dicts.length
  | .serve u source environ _ =>
    Idle s u ∧ ∀ k, source = some k → Brings s u .http k environ
  | .dispatch u _ source args kwargs =>
    Idle s u ∧ ∀ k, source = some k →
      Brings s u .messaging k (arg args 0 kwargs "incoming").ctxt
  | _ => True

/-! ### What holds throughout -/

/-- The kind of a sender, and of the operations its packets may cause. -/
def Follows : SpanKind → SpanKind → Prop
  | .server, kind => kind = .client
  | .consumer, kind => kind = .producer
  | _, _ => True

def sending : Hop → SpanKind
  | .http => .client
  | .messaging => .producer

def taking : Hop → SpanKind
  | .http => .server
  | .messaging => .consumer

/-- Operation `i` of the list has the parent and the trace it should. -/
structure Linked (ops : List Op) (i : ℕ) (op : Op) : Prop where
  valid : op.span.isValid = true
  called : op.kind ≠ .server → op.kind ≠ .consumer → op.parent = op.current
  caused : ∀ j, op.cause = some j → j < i ∧ ∃ origin, ops[j]? = some origin ∧
    op.parent = origin.span ∧ op.span.traceId = origin.span.traceId ∧ Follows op.kind origin.kind

/-- A packet carries the span of the operation that sent it. -/
def Genuine (Ctx : Type) [Propagator Ctx] (ops : List Op) (p : Packet) : Prop :=
  ∃ op, ops[p.op]? = some op ∧ op.kind = sending p.hop ∧ Carries Ctx p.content op.span

/-- The frame of an operation whose span is current. -/
structure FrameOf (ops : List Op) (c : Ctx) (f : Frame Ctx H α) (op : Op) : Prop where
  listed : ops[f.op]? = some op
  current : spanIn c = op.span
  enabled : enabled c = true
  packet : ∀ p, f.packet = some p → p.op = f.op ∧ Genuine Ctx ops p
  sends : f.packet.isSome = isSending op.kind

/-- A stack of frames: leaving one after the other leads back to the context `home`. -/
def Nested (ops : List Op) (home : Ctx) : Ctx → List (Frame Ctx H α) → Prop
  | c, [] => c = home
  | c, f :: fs => (∃ op, FrameOf ops c f op) ∧
    ∃ before, Restores before f.exit ∧ Nested ops home before fs

structure Inv (home : U → Ctx) (s : Sys U Ctx H α) : Prop where
  spans : s.ops.map Op.span = startedSpans s.calls
  linked : ∀ i op, s.ops[i]? = some op → Linked s.ops i op
  genuine : ∀ p ∈ s.packets, Genuine Ctx s.ops p
  nested : ∀ u, Nested s.ops (home u) (s.workers u).current (s.workers u).frames

/-! ### More operations -/

lemma Linked.append {ops : List Op} {i : ℕ} {op : Op} (h : Linked ops i op) (more : List Op) :
    Linked (ops ++ more) i op := by
  refine ⟨h.valid, h.called, ?_⟩
  intro j hj
  obtain ⟨hlt, origin, horigin, hrest⟩ := h.caused j hj
  exact ⟨hlt, origin, getElem?_append_of_some horigin more, hrest⟩

lemma Genuine.append {ops : List Op} {p : Packet} (h : Genuine Ctx ops p) (more : List Op) :
    Genuine Ctx (ops ++ more) p := by
  obtain ⟨op, hop, hrest⟩ := h
  exact ⟨op, getElem?_append_of_some hop more, hrest⟩

lemma FrameOf.append {ops : List Op} {c : Ctx} {f : Frame Ctx H α} {op : Op}
    (h : FrameOf ops c f op) (more : List Op) : FrameOf (ops ++ more) c f op := by
  refine ⟨getElem?_append_of_some h.listed more, h.current, h.enabled, ?_, h.sends⟩
  intro p hp
  exact ⟨(h.packet p hp).1, (h.packet p hp).2.append more⟩

lemma Nested.append {ops : List Op} {home c : Ctx} {fs : List (Frame Ctx H α)}
    (h : Nested ops home c fs) (more : List Op) : Nested (ops ++ more) home c fs := by
  induction fs generalizing c with
  | nil => exact h
  | cons f fs ih =>
    obtain ⟨⟨op, hop⟩, before, hexit, hrest⟩ := h
    exact ⟨⟨op, hop.append more⟩, before, hexit, ih hrest⟩

lemma Nested.enabled {ops : List Op} {home c : Ctx} {fs : List (Frame Ctx H α)}
    (h : Nested ops home c fs) (hhome : ContextApi.enabled home = true) :
    ContextApi.enabled c = true := by
  cases fs with
  | nil => rw [show c = home from h, hhome]
  | cons f fs =>
    obtain ⟨⟨op, hop⟩, -⟩ := h
    exact hop.enabled

/-- What a stack of frames sends is of the innermost client or producer operation. -/
lemma Nested.sent {ops : List Op} {home c : Ctx} {fs : List (Frame Ctx H α)}
    (h : Nested ops home c fs) :
    (fs.findSome? Frame.packet).map Packet.op =
        (fs.map Frame.op).find? (fun i => ops[i]?.any fun op => isSending op.kind) ∧
      ∀ p, fs.findSome? Frame.packet = some p → Genuine Ctx ops p := by
  induction fs generalizing c with
  | nil => exact ⟨rfl, fun p hp => absurd hp nofun⟩
  | cons f fs ih =>
    obtain ⟨⟨op, hop⟩, before, -, hrest⟩ := h
    have hany : (ops[f.op]?.any fun op => isSending op.kind) = f.packet.isSome := by
      rw [hop.listed, hop.sends]
      rfl
    rw [List.findSome?_cons, List.map_cons, List.find?_cons, hany]
    cases hf : f.packet with
    | none => exact ih hrest
    | some p =>
      obtain ⟨hp, hgenuine⟩ := hop.packet p hf
      refine ⟨congrArg some hp, ?_⟩
      intro q hq
      obtain rfl := Option.some.inj hq
      exact hgenuine

lemma newOps_span (cause : Option ℕ) (current : SpanContext) (calls : List Call) :
    (newOps cause current calls).map Op.span = startedSpans calls := by
  have hspan : ∀ c : Call, (opOf cause current c).map Op.span = c.started := by
    intro c
    cases c <;> rfl
  unfold newOps startedSpans
  rw [List.map_filterMap]
  congr 1
  funext c
  exact hspan c

lemma newOps_eq_nil {cause : Option ℕ} {current : SpanContext} {calls : List Call}
    (h : startedSpans calls = []) : newOps cause current calls = [] := by
  rw [← newOps_span cause current] at h
  exact List.map_eq_nil_iff.mp h

/-! ### Steps -/

section

variable {home : U → Ctx} {s : Sys U Ctx H α} {u : U}

omit [DecidableEq U] in
lemma Inv.init (home : U → Ctx) (host : U → H) : Inv home (Sys.init home host : Sys U Ctx H α) :=
  ⟨rfl, fun _ _ h => absurd h nofun, fun _ h => absurd h nofun, fun _ => rfl⟩

/-- Only the stack of the worker that ran is another. -/
lemma nested_ran {ops : List Op} {cause : Option ℕ} {fs : List (Frame Ctx H α)} {w : World Ctx H}
    (h : ∀ u', Nested ops (home u') (s.workers u').current (s.workers u').frames)
    (hu : Nested ops (home u) w.current fs) (u' : U) :
    Nested ops (home u') ((s.ran u cause fs w).workers u').current
      ((s.ran u cause fs w).workers u').frames := by
  by_cases heq : u' = u
  · subst heq
    simpa only [Sys.ran, Function.update_self] using hu
  · simpa only [Sys.ran, Function.update_of_ne heq] using h u'

/-- A worker ran code that started no span. -/
lemma Inv.quiet (h : Inv home s) (cause : Option ℕ) {fs : List (Frame Ctx H α)}
    {w : World Ctx H} (hquiet : NoStart (s.world u) w)
    (hnested : Nested s.ops (home u) w.current fs) : Inv home (s.ran u cause fs w) := by
  obtain ⟨cs, hcs, hcalls⟩ := hquiet
  have hops : (s.ran u cause fs w).ops = s.ops := by
    simp only [Sys.ran]
    rw [hcalls, Sys.world, List.drop_left, newOps_eq_nil hcs, List.append_nil]
  refine ⟨?_, ?_, ?_, ?_⟩
  · rw [hops, h.spans, Sys.ran, hcalls, startedSpans_append, hcs, List.append_nil]
    rfl
  · rw [hops]
    exact h.linked
  · rw [hops]
    exact h.genuine
  · rw [hops]
    exact nested_ran h.nested hnested

/-- A worker ran code that started one span. -/
lemma Inv.started (h : Inv home s) {cause : Option ℕ} {fs : List (Frame Ctx H α)}
    {w : World Ctx H} {kind : SpanKind} {parent : SpanContext} {op : Op}
    (hop : op = ⟨cause, spanIn (s.workers u).current, newSpan s.calls parent, parent, kind⟩)
    (hstarted : Started kind parent (s.world u) w)
    (hlinked : Linked s.ops s.ops.length op)
    (hnested : Nested (s.ops ++ [op]) (home u) w.current fs) :
    Inv home (s.ran u cause fs w) := by
  obtain ⟨name, attributes, cs, hcs, hcalls⟩ := hstarted
  have hops : (s.ran u cause fs w).ops = s.ops ++ [op] := by
    simp only [Sys.ran]
    rw [hcalls, Sys.world, List.drop_left, newOps, List.filterMap_cons]
    simp only [opOf]
    rw [← newOps, newOps_eq_nil hcs, hop]
  refine ⟨?_, ?_, ?_, ?_⟩
  · have hstart : ∀ c : Call, c.started = some op.span →
        startedSpans (c :: cs) = [op.span] := by
      intro c hc
      rw [startedSpans, List.filterMap_cons, hc]
      exact congrArg (op.span :: ·) hcs
    rw [hops, List.map_append, h.spans, Sys.ran, hcalls, startedSpans_append,
      hstart _ (by rw [hop]; rfl)]
    rfl
  · rw [hops]
    intro i op' hi
    rcases of_getElem?_append hi with hold | ⟨rfl, rfl⟩
    · exact (h.linked i op' hold).append [op]
    · exact hlinked.append [op']
  · rw [hops]
    intro p hp
    exact (h.genuine p hp).append [op]
  · rw [hops]
    exact nested_ran (fun u' => (h.nested u').append [op]) hnested

/-- An operation of this kind, cause and parent has its place. -/
structure Placed (s : Sys U Ctx H α) (u : U) (cause : Option ℕ) (kind : SpanKind)
    (parent : SpanContext) : Prop where
  called : kind ≠ .server → kind ≠ .consumer → parent = spanIn (s.workers u).current
  caused : ∀ j, cause = some j → ∃ origin, s.ops[j]? = some origin ∧ parent = origin.span ∧
    Follows kind origin.kind

omit [DecidableEq U] in
lemma Placed.linked {cause : Option ℕ} {kind : SpanKind} {parent : SpanContext}
    (hplaced : Placed s u cause kind parent) (h : Inv home s) :
    Linked s.ops s.ops.length
      ⟨cause, spanIn (s.workers u).current, newSpan s.calls parent, parent, kind⟩ := by
  refine ⟨newSpan_valid _ _, hplaced.called, ?_⟩
  intro j hj
  obtain ⟨origin, horigin, rfl, hfollows⟩ := hplaced.caused j hj
  have hlt : j < s.ops.length := (List.getElem?_eq_some_iff.mp horigin).1
  have hvalid := (h.linked j origin horigin).valid
  exact ⟨hlt, origin, horigin, rfl, newSpan_traceId _ hvalid, hfollows⟩

/-- A worker goes into a wrapper. -/
lemma Inv.enter {ι : Type} (h : Inv home s) (m : Wrapping Ctx H ι α) {cause : Option ℕ}
    {sends : List Dict → ι → Option (Hop × Dict)} {kind : SpanKind}
    {parent : SpanContext} {Q : SpanContext → ι → World Ctx H → Prop}
    (hplaced : Placed s u cause kind parent)
    (henters : Enters kind parent (s.workers u).current Q (s.world u) (m.enter (s.world u)))
    (hsends : ∀ span input (v : World Ctx H), Q span input v →
      (sends v.dicts input).isSome = isSending kind ∧
        ∀ p, sends v.dicts input = some p → kind = sending p.1 ∧ Carries Ctx p.2 span) :
    Inv home (s.enter u cause sends m) := by
  have hlinked := hplaced.linked h
  have hnested := h.nested u
  unfold Sys.enter
  rcases hm : m.enter (s.world u) with ⟨e | o, w⟩ <;> rw [hm] at henters
  · obtain ⟨hcurrent, hquiet | hstarted⟩ := henters
    · refine h.quiet cause hquiet ?_
      rw [hcurrent]
      exact hnested
    · refine h.started rfl hstarted hlinked ?_
      rw [hcurrent]
      exact hnested.append _
  · obtain ⟨hstarted, hspan, hon, hexit, hQ⟩ := henters
    obtain ⟨hsome, hpacket⟩ := hsends _ _ _ hQ
    refine h.started rfl hstarted hlinked ?_
    refine ⟨⟨_, List.getElem?_concat_length, hspan, hon, ?_, ?_⟩, _, hexit, hnested.append _⟩
    · intro p hp
      obtain ⟨q, hq, rfl⟩ := Option.map_eq_some_iff.mp hp
      obtain ⟨hkind, hcarries⟩ := hpacket q hq
      exact ⟨rfl, _, List.getElem?_concat_length, hkind, hcarries⟩
    · rw [Option.isSome_map, hsome]

omit [DecidableEq U] in
/-- A call has its place: its cause is the operation the worker is in, whose span is current. -/
lemma Inv.placed_call (h : Inv home s) (u : U) (kind : SpanKind)
    (hkind : ∀ origin, Follows kind origin) :
    Placed s u (s.caller u) kind (spanIn (s.workers u).current) := by
  refine ⟨fun _ _ => rfl, ?_⟩
  intro j hj
  have hnested := h.nested u
  unfold Sys.caller at hj
  cases hfs : (s.workers u).frames with
  | nil =>
    rw [hfs] at hj
    exact absurd hj nofun
  | cons f fs =>
    rw [hfs] at hj hnested
    obtain rfl : f.op = j := Option.some.inj hj
    obtain ⟨⟨op, hop⟩, -⟩ := hnested
    exact ⟨op, hop.listed, hop.current, hkind _⟩

omit [DecidableEq U] in
/-- What is taken has its place, under the span that `found` says it is under: that of the
sender when it comes from a packet. -/
lemma Inv.placed_taken (h : Inv home s) (u : U) {source : Option ℕ} {hop : Hop} {a : Arg}
    {found : SpanContext → Prop} (hsource : ∀ k, source = some k → Brings s u hop k a)
    (hfound : ∃ parent, found parent)
    (hsent : ∀ sent span ref, Carries Ctx sent span → a = .dict ref →
      Delivers hop sent (deref (s.workers u).dicts ref) → found span) :
    ∃ parent, Placed s u (s.sender source) (taking hop) parent ∧ found parent := by
  have htaking : ¬ (taking hop ≠ .server ∧ taking hop ≠ .consumer) := by
    cases hop <;> simp [taking]
  cases source with
  | none =>
    obtain ⟨parent, hparent⟩ := hfound
    exact ⟨parent, ⟨fun hs hc => absurd ⟨hs, hc⟩ htaking, fun j hj => absurd hj nofun⟩, hparent⟩
  | some k =>
    obtain ⟨p, ref, hp, rfl, ha, hdelivers⟩ := hsource k rfl
    obtain ⟨origin, horigin, hkind, hcarries⟩ := h.genuine p (List.mem_of_getElem? hp)
    refine ⟨origin.span, ⟨fun hs hc => absurd ⟨hs, hc⟩ htaking, ?_⟩,
      hsent _ _ _ hcarries ha hdelivers⟩
    intro j hj
    have hsender : s.sender (some k) = some p.op := by
      rw [Sys.sender, Option.bind_some, hp, Option.map_some]
    obtain rfl := Option.some.inj (hsender.symm.trans hj)
    refine ⟨origin, horigin, rfl, ?_⟩
    cases hhop : p.hop <;> rw [hhop] at hkind <;> exact hkind

/-- A worker goes into a wrapper that sends. -/
lemma Inv.enter_sending {ι : Type} (h : Inv home s) (m : Wrapping Ctx H ι α) {cause : Option ℕ}
    (hop : Hop) (content : List Dict → ι → Dict) {parent : SpanContext}
    (hplaced : Placed s u cause (sending hop) parent)
    (henters : Enters (sending hop) parent (s.workers u).current
      (fun span input v => Carries Ctx (content v.dicts input) span) (s.world u)
      (m.enter (s.world u))) :
    Inv home (s.enter u cause (fun dicts input => some (hop, content dicts input)) m) := by
  apply h.enter m hplaced henters
  intro span input v hcarries
  refine ⟨?_, fun p hp => ?_⟩
  · cases hop <;> rfl
  · obtain rfl := Option.some.inj hp
    exact ⟨rfl, hcarries⟩

/-- A worker goes into a wrapper that sends nothing. -/
lemma Inv.enter_silently {ι : Type} (h : Inv home s) (m : Wrapping Ctx H ι α)
    {cause : Option ℕ} {kind : SpanKind} {parent : SpanContext}
    (hkind : isSending kind = false) (hplaced : Placed s u cause kind parent)
    (henters : Enters kind parent (s.workers u).current (fun _ _ _ => True) (s.world u)
      (m.enter (s.world u))) :
    Inv home (s.enter u cause (fun _ _ => none) m) := by
  apply h.enter m hplaced henters
  intro span input v _
  exact ⟨hkind.symm, fun p hp => absurd hp (Option.some_ne_none p).symm⟩

variable [Faithful Ctx] {r : Reading α}

omit [Faithful Ctx] in
lemma Inv.serve (h : Inv home s) (hon : enabled (s.workers u).current = true) {source : Option ℕ}
    {environ : Arg} {startResponse : KeystoneMiddleware.StartResponse Ctx H}
    (hok : Ok s (.serve u source environ startResponse)) :
    Inv home (step r s (.serve u source environ startResponse)) := by
  obtain ⟨hidle, hsource⟩ := hok
  let found (parent : SpanContext) : Prop :=
    ∀ p, environContext (s.workers u).dicts environ = .ok p →
      spanIn (p.getD (s.workers u).current) = parent
  have hfound : ∃ parent, found parent := by
    cases hread : (environContext (s.workers u).dicts environ : Except Exn (Option Ctx)) with
    | error e => exact ⟨invalidSpan, fun p hp => absurd (hread.symm.trans hp) nofun⟩
    | ok p =>
      refine ⟨spanIn (p.getD (s.workers u).current), fun q hq => ?_⟩
      obtain rfl := Except.ok.inj (hread.symm.trans hq)
      rfl
  have hsent : ∀ sent span ref, Carries Ctx sent span → environ = .dict ref →
      Delivers .http sent (deref (s.workers u).dicts ref) → found span := by
    rintro sent span ref hcarries rfl hdelivers p hp
    exact environContext_of_delivers _ hcarries hdelivers hp
  obtain ⟨parent, hplaced, hparent⟩ := h.placed_taken u hsource hfound hsent
  exact h.enter_silently _ rfl hplaced (enters_call r environ startResponse hon hidle hparent)

/-- The parent a dispatcher finds for what worker `u` takes. -/
def DispatchedUnder (s : Sys U Ctx H α) (u : U) (incoming : Arg) (parent : SpanContext) : Prop :=
  ∀ ctxt c, incoming.ctxt.orEmpty (s.workers u).dicts = .ok ctxt →
    Messaging.spanContextOf noFaults ctxt (s.world u) = (.ok c, s.world u) → spanIn c = parent

omit [DecidableEq U] [Faithful Ctx] in
lemma exists_dispatchedUnder (s : Sys U Ctx H α) (u : U) (incoming : Arg) :
    ∃ parent, DispatchedUnder s u incoming parent := by
  cases hctxt : incoming.ctxt.orEmpty (s.workers u).dicts with
  | error e => exact ⟨invalidSpan, fun _ _ hok => absurd (hctxt.symm.trans hok) nofun⟩
  | ok ctxt =>
    cases hread : (carried (s.workers u).dicts ctxt : Except Exn Ctx) with
    | error e =>
      refine ⟨invalidSpan, fun ctxt' c hok hc => ?_⟩
      obtain rfl := Except.ok.inj (hctxt.symm.trans hok)
      rw [Messaging.spanContextOf_of_error hread] at hc
      exact absurd (congrArg Prod.fst hc) nofun
    | ok d =>
      let found := if Propagator.isEmpty d then (s.workers u).current else d
      refine ⟨spanIn found, fun ctxt' c hok hc => ?_⟩
      obtain rfl := Except.ok.inj (hctxt.symm.trans hok)
      rw [Messaging.spanContextOf_of_ok hread] at hc
      exact congrArg spanIn (Except.ok.inj (congrArg Prod.fst hc)).symm

lemma Inv.dispatch (h : Inv home s) (hon : enabled (s.workers u).current = true)
    {style : Deliveries.Style} {source : Option ℕ} {args : Args} {kwargs : Kwargs}
    (hok : Ok s (.dispatch u style source args kwargs)) :
    Inv home (step r s (.dispatch u style source args kwargs)) := by
  obtain ⟨-, hsource⟩ := hok
  have hfound := exists_dispatchedUnder s u (arg args 0 kwargs "incoming")
  obtain ⟨parent, hplaced, hparent⟩ := h.placed_taken u hsource hfound
    fun sent span ref hcarries ha hdelivers ctxt c hctxt hc =>
      spanContextOf_of_delivers hcarries hdelivers ha hctxt hc
  cases style with
  | rpc => exact h.enter_silently _ rfl hplaced (enters_rpcDispatch hon hparent)
  | notification => exact h.enter_silently _ rfl hplaced (enters_notificationDispatch hon hparent)

/-- **One step.** -/
theorem Inv.step (hhome : ∀ u, enabled (home u) = true) (h : Inv home s) {e : Event U Ctx H α}
    (hok : Ok s e) : Inv home (step r s e) := by
  have hon : ∀ u, enabled (s.workers u).current = true := fun u => (h.nested u).enabled (hhome u)
  cases e with
  | work u name attributes =>
    have hplaced := h.placed_call u .internal fun _ => trivial
    have henters := enters_ownSpan (α := α) name attributes (w := s.world u) (hon u)
    exact h.enter_silently (ownSpan name attributes) rfl hplaced henters
  | proxy u proxy args kwargs =>
    have hplaced := h.placed_call u .client fun _ => trivial
    have henters := enters_proxy r proxy args kwargs (w := s.world u) (hon u)
    exact h.enter_sending (proxyRequest r proxy args kwargs) .http sentHeaders hplaced henters
  | session u args kwargs =>
    have hplaced := h.placed_call u .client fun _ => trivial
    have henters := enters_session r args kwargs (w := s.world u) (hon u)
    exact h.enter_sending (session r args kwargs) .http sentHeaders hplaced henters
  | send u isNotification transport args kwargs =>
    obtain ⟨ref, hctxt, href⟩ := hok
    have hplaced := h.placed_call u .producer fun _ => trivial
    have henters :=
      enters_send (α := α) isNotification transport (w := s.world u) (hon u) hctxt href
    exact h.enter_sending (send isNotification transport args kwargs) .messaging sentCtxt hplaced
      henters
  | transmit u =>
    refine ⟨h.spans, h.linked, ?_, h.nested⟩
    intro p hp
    rcases List.mem_append.mp hp with hold | hnew
    · exact h.genuine p hold
    · exact (h.nested u).sent.2 p (Option.mem_toList.mp hnew)
  | serve u source environ startResponse => exact h.serve (hon u) hok
  | dispatch u style source args kwargs => exact h.dispatch (hon u) hok
  | store u dicts host =>
    refine ⟨h.spans, h.linked, h.genuine, ?_⟩
    intro u'
    by_cases hu : u' = u
    · subst hu
      simpa only [Traces.step, Function.update_self] using h.nested u'
    · simpa only [Traces.step, Function.update_of_ne hu] using h.nested u'
  | leave u result =>
    have hnested := h.nested u
    cases hfs : (s.workers u).frames with
    | nil => simpa only [Traces.step, hfs] using h
    | cons f fs =>
      rw [hfs] at hnested
      simp only [Traces.step, hfs]
      obtain ⟨-, before, hexit, hrest⟩ := hnested
      obtain ⟨hcurrent, hquiet⟩ := hexit result (s.world u)
      refine h.quiet none hquiet ?_
      rw [hcurrent]
      exact hrest

end

/-! ### Whole runs -/

omit [DecidableEq U] in
lemma Inv.founded {home : U → Ctx} {s : Sys U Ctx H α} (h : Inv home s) :
    Founded Op.cause s.ops := by
  rintro i j ⟨op, hop, hcause⟩
  exact ((h.linked i op hop).caused j hcause).1

omit [DecidableEq U] in
/-- An operation is in the trace of its root. -/
lemma Inv.trace_of_root {home : U → Ctx} {s : Sys U Ctx H α} (h : Inv home s) {i j : ℕ}
    {op root : Op} (hroot : RootOf Op.cause s.ops j i) (hi : s.ops[i]? = some op)
    (hj : s.ops[j]? = some root) : op.span.traceId = root.span.traceId := by
  let trace (k : ℕ) : Option ℕ := s.ops[k]?.map fun op => op.span.traceId
  have hedge : ∀ k l, CausedBy Op.cause s.ops k l → trace k = trace l := by
    rintro k l ⟨op', hop', hcause⟩
    obtain ⟨-, origin, horigin, -, htrace, -⟩ := (h.linked k op' hop').caused l hcause
    simp only [trace, hop', horigin, Option.map_some, htrace]
  have hsame := hroot.inherits hedge
  simp only [trace, hi, hj, Option.map_some] at hsame
  exact Option.some.inj hsame

omit [DecidableEq U] in
/-- An operation that serves a request or a message is under the span of its sender. -/
lemma Inv.under_sender {home : U → Ctx} {s : Sys U Ctx H α} (h : Inv home s) {i j : ℕ}
    {op origin : Op} (hi : s.ops[i]? = some op) (hcause : op.cause = some j)
    (hj : s.ops[j]? = some origin) :
    op.parent = origin.span ∧ Follows op.kind origin.kind := by
  obtain ⟨-, origin', horigin', hparent, -, hfollows⟩ := (h.linked i op hi).caused j hcause
  obtain rfl := Option.some.inj (horigin'.symm.trans hj)
  exact ⟨hparent, hfollows⟩

variable [Faithful Ctx]

lemma inv_run {r : Reading α} {home : U → Ctx} (hhome : ∀ u, enabled (home u) = true)
    (host : U → H) {es : List (Event U Ctx H α)}
    (hl : Runs.Legal Ok (step r) (Sys.init home host) es) :
    Inv home (Runs.run (step r) (Sys.init home host) es) :=
  Runs.inv_of_legal (fun _ _ h hok => h.step hhome hok) (Inv.init home host) hl

/-- **One trace end to end.** In every run every span is that of an operation, and every
operation is in the trace of the root of its tree. The parent of a server or consumer span is
the client or producer span whose request or message it serves, the innermost one the sender
was inside of, and the parent of a client or producer span is the span current at the call. -/
theorem one_trace (r : Reading α) {home : U → Ctx} (hhome : ∀ u, enabled (home u) = true)
    (host : U → H) {es : List (Event U Ctx H α)}
    (hl : Runs.Legal Ok (step r) (Sys.init home host) es) :
    let s := Runs.run (step r) (Sys.init home host) es
    s.ops.map Op.span = startedSpans s.calls ∧
      (∀ i op, s.ops[i]? = some op →
        (∃ j root, RootOf Op.cause s.ops j i ∧ s.ops[j]? = some root) ∧
        (∀ j root, RootOf Op.cause s.ops j i → s.ops[j]? = some root →
          op.span.traceId = root.span.traceId) ∧
        (∀ j origin, op.cause = some j → s.ops[j]? = some origin →
          (op.kind = .server → op.parent = origin.span ∧ origin.kind = .client) ∧
          (op.kind = .consumer → op.parent = origin.span ∧ origin.kind = .producer)) ∧
        (op.kind = .client ∨ op.kind = .producer → op.parent = op.current)) ∧
      ∀ pre u post, es = pre ++ .transmit u :: post →
        let t := Runs.run (step r) (Sys.init home host) pre
        (step r t (.transmit u)).packets.map Packet.op =
          t.packets.map Packet.op ++ (t.innermost u).toList := by
  intro s
  have h : Inv home s := inv_run hhome host hl
  refine ⟨h.spans, fun i op hi => ⟨?_, ?_, ?_, ?_⟩, ?_⟩
  · have hlt : i < s.ops.length := (List.getElem?_eq_some_iff.mp hi).1
    obtain ⟨j, ⟨root, hj, hnone⟩, hpath⟩ := exists_rootOf h.founded hlt
    exact ⟨j, root, ⟨⟨root, hj, hnone⟩, hpath⟩, hj⟩
  · intro j root hroot hj
    exact h.trace_of_root hroot hi hj
  · intro j origin hcause hj
    obtain ⟨hparent, hfollows⟩ := h.under_sender hi hcause hj
    refine ⟨fun hkind => ⟨hparent, ?_⟩, fun hkind => ⟨hparent, ?_⟩⟩ <;> rw [hkind] at hfollows <;>
      exact hfollows
  · intro hkind
    have hserver : op.kind ≠ .server := by rcases hkind with h | h <;> rw [h] <;> decide
    have hconsumer : op.kind ≠ .consumer := by rcases hkind with h | h <;> rw [h] <;> decide
    exact (h.linked i op hi).called hserver hconsumer
  · rintro pre u post rfl
    intro t
    have ht : Inv home t := inv_run hhome host hl.before
    have hsent := (ht.nested u).sent.1
    simp only [step, List.map_append, Sys.innermost, ← hsent, Option.toList_map]

end

/-- Nothing is read of URLs or responses. -/
def blind : Reading Unit :=
  ⟨fun _ => .ok ⟨"", none, .ok none⟩, id, fun _ => .ok "", fun _ => none, fun _ => none,
    fun _ => none, fun _ => none⟩

/-- The environment in which the request of span `⟨1, 2⟩` arrives, with a header added on its
way. -/
def arrived : Dict :=
  environOf [("REQUEST_METHOD", .str "GET")]
    (setAll (Propagator.headers (⟨⟨1, 2⟩, false⟩ : BareContext)) [] ++ [("Via", .str "proxy")])

/-- Worker 0 makes a request through an SDK proxy; worker 1 serves it and casts a message, which
worker 2 dispatches. -/
def requestAndCast : List (Event ℕ BareContext Unit Unit) :=
  [.proxy 0 .plain [] [], .session 0 [] [], .transmit 0,
    .store 1 [arrived, []] (), .serve 1 (some 0) (.dict 0) fun _ _ => pure (.val .none),
    .send 1 false none [.target (.ok .none) (.ok .none), .dict 1, .val .none] [], .transmit 1,
    .store 2 [[("traceparent", .str (traceparent ⟨1, 4⟩))]] (),
    .dispatch 2 .rpc (some 1) [.incoming (.dict 0) (.val .none) []] []]

lemma delivers_arrived :
    Delivers .http [("traceparent", .str (traceparent ⟨1, 2⟩))] arrived := by
  have hempty : LastSpelling ([] : Dict) := trivial
  have hheaders : ∀ header ∈ Propagator.headers (⟨⟨1, 2⟩, false⟩ : BareContext),
      Spells header.1 → header.1 = "traceparent" := by
    intro header hheader _
    obtain rfl := List.mem_singleton.mp hheader
    rfl
  apply delivers_injected (⟨⟨1, 2⟩, false⟩ : BareContext) hheaders hempty
  intro item hitem
  obtain rfl := List.mem_singleton.mp hitem
  unfold Spells
  decide

lemma ok_requestAndCast :
    Runs.Legal Ok (step blind) (Sys.init (fun _ => empty) fun _ => ()) requestAndCast := by
  refine ⟨trivial, trivial, trivial, trivial, ⟨rfl, ?_⟩, ⟨1, rfl, by decide⟩, trivial, trivial,
    ⟨rfl, ?_⟩, trivial⟩
  · rintro k hk
    obtain rfl := Option.some.inj hk
    exact ⟨⟨1, .http, [("traceparent", .str (traceparent ⟨1, 2⟩))]⟩, 0, rfl, rfl, rfl,
      delivers_arrived⟩
  · rintro k hk
    obtain rfl := Option.some.inj hk
    exact ⟨⟨3, .messaging, [("traceparent", .str (traceparent ⟨1, 4⟩))]⟩, 0, rfl, rfl, rfl,
      fun value hvalue => hvalue⟩

theorem one_trace_requestAndCast :
    let s := Runs.run (step blind) (Sys.init (fun _ => empty) fun _ => ()) requestAndCast
    (s.ops.map fun op => (op.cause, op.kind, op.parent)) =
        [(none, .client, invalidSpan), (some 0, .client, ⟨1, 1⟩), (some 1, .server, ⟨1, 2⟩),
          (some 2, .producer, ⟨1, 3⟩), (some 3, .consumer, ⟨1, 4⟩)] ∧
      s.ops.map Op.span = startedSpans s.calls ∧
      ∀ i op, s.ops[i]? = some op → ∀ j root, RootOf Op.cause s.ops j i →
        s.ops[j]? = some root → op.span.traceId = root.span.traceId := by
  intro s
  obtain ⟨hspans, hops, -⟩ := one_trace blind (fun _ => rfl) (fun _ => ()) ok_requestAndCast
  exact ⟨by decide, hspans, fun i op hop => (hops i op hop).2.1⟩

end OtelOpenstack.Traces
