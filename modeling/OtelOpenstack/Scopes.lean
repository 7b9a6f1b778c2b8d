import OtelOpenstack.HopSpecs
import OtelOpenstack.AuthRecording

/-!
Wrappers as scopes: each starts one span on its way in, and on its way out ends that span, once,
and puts back the context it found.

What a wrapper does to the dictionaries that exist is nothing; it only makes new ones.
-/

set_option autoImplicit false

namespace OtelOpenstack.Scopes

open Effects Python Otel ContextApi Carriers Openings Hops HopSpecs Http Wires TraceContext

section

variable {Ctx H ι α β : Type}

/-- Calls that start and end no span. -/
def Quiet (calls : List Call) : Prop := startedSpans calls = [] ∧ finishedSpans calls = []

/-- Since `w` there were quiet calls and new dictionaries. -/
def Within (w v : World Ctx H) : Prop :=
  v.current = w.current ∧ w.dicts <+: v.dicts ∧ ∃ cs, Quiet cs ∧ v.calls = w.calls ++ cs

lemma quiet_nil : Quiet [] := ⟨rfl, rfl⟩

lemma Quiet.append {cs ds : List Call} (h : Quiet cs) (h' : Quiet ds) : Quiet (cs ++ ds) := by
  refine ⟨?_, ?_⟩
  · rw [startedSpans_append, h.1, h'.1, List.append_nil]
  · rw [finishedSpans_append, h.2, h'.2, List.append_nil]

lemma within_refl (w : World Ctx H) : Within w w :=
  ⟨rfl, List.prefix_refl _, [], quiet_nil, (List.append_nil _).symm⟩

lemma within_trans (u v w : World Ctx H) (h : Within u v) (h' : Within v w) : Within u w := by
  obtain ⟨hcurrent, hdicts, cs, hcs, hv⟩ := h
  obtain ⟨hcurrent', hdicts', ds, hds, hw⟩ := h'
  refine ⟨hcurrent'.trans hcurrent, hdicts.trans hdicts', cs ++ ds, hcs.append hds, ?_⟩
  rw [hw, hv, List.append_assoc]

lemma within_newDict (w : World Ctx H) (d : Dict) : Within w { w with dicts := w.dicts ++ [d] } :=
  ⟨rfl, List.prefix_append _ _, [], quiet_nil, (List.append_nil _).symm⟩

lemma mayRaise_record_within (F : Faults) (s : Step) {c : Call} (h : Quiet [c]) :
    Keeps Within (do mayRaise F s; record c : Code Ctx H Unit) := by
  apply Keeps.bind within_trans
  · intro w
    rw [mayRaise_silent F s w]
    exact within_refl w
  · intro _ w
    exact ⟨rfl, List.prefix_refl _, [c], h, rfl⟩

lemma annotates_within : Annotates (Within : World Ctx H → World Ctx H → Prop) where
  refl := within_refl
  trans := within_trans
  setAttribute F _ _ _ := mayRaise_record_within F _ ⟨rfl, rfl⟩
  setStatus F _ _ _ := mayRaise_record_within F _ ⟨rfl, rfl⟩

/-! ### Recording an authenticated request -/

section

open Authentication

variable (F : Faults) (tuple : List String → Val) (span : SpanContext)
  {R : World Ctx H → World Ctx H → Prop} (hR : Annotates R)

include hR

lemma setField_keeps (key : String) (read : Except Exn Val) :
    Keeps R (setField F span key read : Code Ctx H Unit) := by
  apply Keeps.bind hR.trans (Keeps.liftExcept hR.refl _)
  intro value
  apply Keeps.bind hR.trans (Keeps.liftExcept hR.refl _)
  intro truth
  apply Keeps.onlyIf hR.refl
  apply Keeps.bind hR.trans (Keeps.liftExcept hR.refl _)
  intro text
  exact hR.setAttribute F span _ _

lemma setRoles_keeps (read : Except Exn (Option RoleNames)) :
    Keeps R (setRoles F tuple span read : Code Ctx H Unit) := by
  apply Keeps.bind hR.trans (Keeps.liftExcept hR.refl _)
  intro roleNames
  apply Keeps.onlySome hR.refl
  intro names
  apply Keeps.bind hR.trans (Keeps.liftExcept hR.refl _)
  intro truth
  apply Keeps.onlyIf hR.refl
  apply Keeps.bind hR.trans (Keeps.liftExcept hR.refl _)
  intro texts
  exact hR.setAttribute F span _ _

lemma recordIdentity_keeps (fields : Fields) :
    Keeps R (recordIdentity F tuple span fields : Code Ctx H Unit) := by
  apply Keeps.bind hR.trans (Keeps.liftExcept hR.refl _)
  intro tokenAuth
  apply Keeps.bind hR.trans (Keeps.liftExcept hR.refl _)
  intro user
  apply Keeps.onlySome hR.refl
  intro authRef
  apply Keeps.bind hR.trans (setField_keeps F span hR _ _)
  intro _
  apply Keeps.bind hR.trans (setField_keeps F span hR _ _)
  intro _
  apply Keeps.bind hR.trans (setField_keeps F span hR _ _)
  intro _
  apply Keeps.bind hR.trans (setField_keeps F span hR _ _)
  intro _
  apply Keeps.bind hR.trans (setField_keeps F span hR _ _)
  intro _
  exact setRoles_keeps F tuple span hR _

lemma recordToken_keeps (presentKey validKey : String) (token valid : Except Exn Val) :
    Keeps R (recordToken F span presentKey validKey token valid :
      Code Ctx H (Option Bool)) := by
  apply Keeps.bind hR.trans (Keeps.liftExcept hR.refl _)
  intro present
  apply Keeps.bind hR.trans (hR.setAttribute F span _ _)
  intro _
  apply Keeps.ite
  · apply Keeps.bind hR.trans (Keeps.liftExcept hR.refl _)
    intro result
    apply Keeps.bind hR.trans (Keeps.onlySome hR.refl _ fun _ => hR.setAttribute F span _ _)
    intro _
    exact Keeps.pure hR.refl result
  · exact Keeps.pure hR.refl none

lemma recordRequest_keeps (request : Request H) :
    Keeps R (recordRequest F tuple span request : Code Ctx H Unit) := by
  apply Keeps.ite (Keeps.pure hR.refl ())
  apply Keeps.bind hR.trans (Keeps.reads hR.refl _)
  intro fields
  apply Keeps.bind hR.trans (recordToken_keeps F span hR _ _ _ _)
  intro userValid
  apply Keeps.bind hR.trans (recordToken_keeps F span hR _ _ _ _)
  intro _
  exact Keeps.onlyIf hR.refl (recordIdentity_keeps F tuple span hR fields)

end

/-! ### Scopes -/

/-- Since `w` a span was started, a child of `parent`, and none was ended. -/
def Opened (kind : SpanKind) (parent : SpanContext) (w v : World Ctx H) : Prop :=
  ∃ name attributes cs, Quiet cs ∧
    v.calls = w.calls ++ .start (newSpan w.calls parent) parent name kind attributes :: cs

/-- Since `w` a span was started, a child of `parent`, and it was ended once. -/
def Attempted (kind : SpanKind) (parent : SpanContext) (w v : World Ctx H) : Prop :=
  ∃ name attributes cs, startedSpans cs = [] ∧ finishedSpans cs = [newSpan w.calls parent] ∧
    v.calls = w.calls ++ .start (newSpan w.calls parent) parent name kind attributes :: cs

/-- On its way out a wrapper ends `span`, and leaves `c` current. -/
def Ends (span : SpanContext) (c : Ctx) (exit : Except Exn α → Code Ctx H α) : Prop :=
  ∀ r u, (exit r u).2.current = c ∧ u.dicts <+: (exit r u).2.dicts ∧
    ∃ cs, startedSpans cs = [] ∧ finishedSpans cs = [span] ∧
      (exit r u).2.calls = u.calls ++ cs

variable [ContextApi Ctx]

/-- The way in to a scope: its span is a child of `parent`. It calls the callable where `Q`,
with the span current; if it raises, whatever it began it has ended. -/
def Scoped (kind : SpanKind) (parent : SpanContext) (Q : SpanContext → ι → World Ctx H → Prop)
    (w : World Ctx H) : Except Exn (Opening Ctx H ι α) × World Ctx H → Prop
  | (.error _, v) => v.current = w.current ∧ w.dicts <+: v.dicts ∧
    (v.calls = w.calls ∨ Attempted kind parent w v)
  | (.ok o, v) => Opened kind parent w v ∧ w.dicts <+: v.dicts ∧
    v.current = setSpan (newSpan w.calls parent) w.current ∧
    Ends (newSpan w.calls parent) w.current o.exit ∧ Q (newSpan w.calls parent) o.input v

lemma finishedSpans_closing (span : SpanContext) (r : Except Exn β) :
    finishedSpans (closing Ctx span r) = [span] := by
  unfold closing
  cases r with
  | ok a => rfl
  | error e =>
    dsimp only
    split <;> rfl

section

variable {kind : SpanKind} {parent : SpanContext} {Q : SpanContext → ι → World Ctx H → Prop}
  {w : World Ctx H}

lemma scoped_silent {p : Code Ctx H β} {f : β → Code Ctx H (Opening Ctx H ι α)} (hp : Silent p)
    (hf : ∀ b, p w = (.ok b, w) → Scoped kind parent Q w (f b w)) :
    Scoped kind parent Q w ((p >>= f) w) :=
  hp.post_bind_outcome (fun _ => ⟨rfl, List.prefix_refl _, Or.inl rfl⟩) hf

/-- The step that starts the span, and the block inside it. -/
lemma scoped_span {name : String} {context : Option Ctx} {attributes : Dict}
    {block : SpanContext → Code Ctx H (Opening Ctx H ι α)}
    (hparent : spanIn (context.getD w.current) = parent)
    (h : ∀ v : World Ctx H, v.current = setSpan (newSpan w.calls parent) w.current →
      v.dicts = w.dicts →
      Block Within (Q (newSpan w.calls parent)) v (block (newSpan w.calls parent) v)) :
    Scoped kind parent Q w
      ((do
        let span ← startSpan noFaults name kind context attributes
        enterSpan span (block span)) w) := by
  subst hparent
  let parent := spanIn (context.getD w.current)
  let span := newSpan w.calls parent
  let v : World Ctx H :=
    { w.called [.start span parent name kind attributes] with current := setSpan span w.current }
  have hblock := h v rfl rfl
  rw [bind_of_ok (startSpan_noFaults ..)]
  change Scoped kind parent Q w (finalizing (block span) (closeSpan span ⟨w.current⟩) v)
  rcases he : block span v with ⟨e | o, t⟩ <;> rw [he] at hblock
  · rw [finalizing, bind_of_error (tryExcept_of_error he)]
    obtain ⟨-, hdicts, cs, hcs, hcalls⟩ := hblock
    let ending := closing Ctx span (.error e : Except Exn Unit)
    have hstarted : startedSpans ending = [] := startedSpans_closing span _
    have hended : finishedSpans ending = [span] := finishedSpans_closing span _
    refine ⟨rfl, hdicts, Or.inr ⟨name, attributes, cs ++ ending, ?_, ?_, ?_⟩⟩
    · rw [startedSpans_append, hcs.1, hstarted, List.append_nil]
    · rw [finishedSpans_append, hcs.2, hended, List.nil_append]
    · change t.calls ++ ending = _
      rw [hcalls]
      simp [v, World.called, span, parent]
  · rw [finalizing, bind_of_ok (tryExcept_of_ok he)]
    obtain ⟨⟨hcurrent, hdicts, cs, hcs, hcalls⟩, hexit, hQ⟩ := hblock
    refine ⟨⟨name, attributes, cs, hcs, ?_⟩, hdicts, hcurrent, ?_, hQ⟩
    · rw [hcalls]
      simp [v, World.called, span, parent]
    · intro r u
      rw [finalized_state]
      obtain ⟨-, hgrown, ds, hds, hout⟩ := hexit r u
      let ending := closing Ctx span (outcome (o.exit r u).1)
      have hstarted : startedSpans ending = [] := startedSpans_closing span _
      have hended : finishedSpans ending = [span] := finishedSpans_closing span _
      refine ⟨rfl, hgrown, ds ++ ending, ?_, ?_, ?_⟩
      · rw [startedSpans_append, hds.1, hstarted, List.append_nil]
      · rw [finishedSpans_append, hds.2, hended, List.nil_append]
      · change (o.exit r u).2.calls ++ _ = _
        rw [hout, List.append_assoc]

end

end

/-! ### The program's own spans -/

section

variable {Ctx H α : Type} [Propagator Ctx]

/-- `with tracer.start_as_current_span(...)` around the program's own code. -/
def programSpan (name : String) (kind : SpanKind) (context : Option Ctx) (attributes : Dict) :
    Wrapping Ctx H Unit α where
  code wrapped := startAsCurrentSpan noFaults name kind context attributes fun _ => wrapped ()
  enter := do
    let span ← startSpan noFaults name kind context attributes
    enterSpan span (pure (.call ()))
  opens := opens_bind _ fun span => opens_useSpan (opens_call ()) span

lemma scoped_programSpan (name : String) (kind : SpanKind) (context : Option Ctx)
    (attributes : Dict) (w : World Ctx H) :
    Scoped kind (spanIn (context.getD w.current)) (fun _ _ _ => True) w
      ((programSpan name kind context attributes : Wrapping Ctx H Unit α).enter w) := by
  apply scoped_span rfl
  intro v _ _
  exact block_call within_refl trivial

/-! ### HTTP clients -/

/-- The inner call is handed the arguments, but a new dictionary of headers: the copy of the
caller's, with the headers of the span. -/
def Handed (args : Args) (kwargs : Kwargs) (copied : Except Exn Dict) (dicts : List Dict)
    (input : Input) (v : World Ctx H) : Prop :=
  ∃ copy, copied = .ok copy ∧
    input = (args, setKwarg kwargs "headers" (.dict dicts.length)) ∧
    v.dicts = dicts ++ [setAll (Propagator.headers v.current) copy]

omit [Propagator Ctx] in
lemma modify_concat (dicts : List Dict) (d : Dict) (f : Dict → Dict) :
    (dicts ++ [d]).modify dicts.length f = dicts ++ [f d] := by
  induction dicts with
  | nil => simp
  | cons e dicts ih => simp [ih]

/-- The part of a client's block in which headers are made. -/
lemma block_headers {Q : Input → World Ctx H → Prop} {u : World Ctx H}
    {copied : Except Exn Dict} {f : ℕ → Code Ctx H (Opening Ctx H Input α)}
    (hf : ∀ copy, copied = .ok copy →
      let v : World Ctx H :=
        { u with dicts := u.dicts ++ [setAll (Propagator.headers u.current) copy] }
      Block Within Q v (f u.dicts.length v)) :
    Block Within Q u
      ((do
        let copy ← Effects.liftExcept copied
        let headers ← newDict copy
        inject noFaults (.dict headers)
        f headers) u) := by
  apply block_silent within_refl (Silent.liftExcept _)
  intro copy hcopied
  obtain rfl : copied = .ok copy := congrArg Prod.fst hcopied
  have hmake : (do
      let headers ← newDict copy
      inject noFaults (.dict headers)
      f headers : Code Ctx H (Opening Ctx H Input α)) u =
        f u.dicts.length { u with
          dicts := u.dicts ++ [setAll (Propagator.headers u.current) copy] } := by
    have hnew : newDict copy u = (.ok u.dicts.length, { u with dicts := u.dicts ++ [copy] }) := rfl
    have hinject := inject_dict u.dicts.length { u with dicts := u.dicts ++ [copy] }
    rw [bind_of_ok hnew, bind_of_ok hinject, modify_concat]
  rw [hmake]
  exact block_of_keeps within_trans (within_newDict u _) (hf copy rfl)

variable (r : Reading α)

lemma scoped_session (args : Args) (kwargs : Kwargs) {w : World Ctx H}
    (hon : enabled w.current = true) :
    Scoped .client (spanIn w.current)
      (fun _ => Handed args kwargs (KeystoneAuth.copyHeaders w.dicts kwargs) w.dicts) w
      ((enterSession r args kwargs : Code Ctx H (Opening Ctx H Input α)) w) := by
  unfold enterSession
  rw [guard_on hon]
  apply scoped_silent (Silent.reads _)
  intro dicts hdicts
  obtain rfl : w.dicts = dicts := Except.ok.inj (congrArg Prod.fst hdicts)
  apply scoped_silent (Silent.liftExcept _)
  intro method _
  apply scoped_silent (Silent.liftExcept _)
  intro url _
  apply scoped_silent (Silent.liftExcept _)
  intro service _
  apply scoped_silent (Silent.liftExcept _)
  intro parsed _
  apply scoped_silent (Silent.liftExcept _)
  intro attributes _
  refine scoped_span (by rfl) ?_
  intro v _ hv
  apply block_headers
  intro copy hcopied
  apply block_andThen within_trans
  · apply block_handling within_refl within_trans
    · refine block_call within_refl ⟨copy, hcopied, ?_, ?_⟩
      · rw [hv]
      · rw [hv]
    · exact noteException_keeps annotates_within _ (recordError_keeps annotates_within _ r _)
  · exact afterResponse_keeps annotates_within r _

lemma scoped_proxy (proxy : OpenStackSdk.Proxy) (args : Args) (kwargs : Kwargs)
    {w : World Ctx H} (hon : enabled w.current = true) :
    Scoped .client (spanIn w.current)
      (fun _ => Handed args kwargs (OpenStackSdk.copyHeaders w.dicts kwargs) w.dicts) w
      ((enterProxy r proxy args kwargs : Code Ctx H (Opening Ctx H Input α)) w) := by
  unfold enterProxy
  rw [guard_on hon]
  apply scoped_silent (Silent.reads _)
  intro dicts hdicts
  obtain rfl : w.dicts = dicts := Except.ok.inj (congrArg Prod.fst hdicts)
  apply scoped_silent (Silent.liftExcept _)
  intro method _
  apply scoped_silent (Silent.liftExcept _)
  intro url _
  apply scoped_silent (Silent.liftExcept _)
  intro requestId _
  apply scoped_silent (Silent.liftExcept _)
  intro service _
  apply scoped_silent (Silent.liftExcept _)
  intro region _
  apply scoped_silent (Silent.liftExcept _)
  intro names _
  apply scoped_silent (Silent.liftExcept _)
  intro attributes _
  refine scoped_span (by rfl) ?_
  intro v _ hv
  apply block_headers
  intro copy hcopied
  apply block_andThen within_trans
  · refine block_call within_refl ⟨copy, hcopied, ?_, ?_⟩
    · rw [hv]
    · rw [hv]
  · exact afterResponse_keeps annotates_within r _

/-! ### The request span -/

open KeystoneMiddleware in
lemma scoped_call (environ : Arg) (startResponse : StartResponse Ctx H) {w : World Ctx H}
    (hon : enabled w.current = true) {parent : Option Ctx} {kind : SpanKind}
    (hparent : environParentContext noFaults environ w = (.ok (parent, kind), w)) :
    Scoped kind (spanIn (parent.getD w.current)) (fun _ _ _ => True) w
      (enterCall r (.wsgi environ startResponse) w) := by
  unfold enterCall
  dsimp only
  rw [guard_on hon, bind_of_ok hparent]
  apply scoped_silent (Silent.reads _)
  intro dicts _
  apply scoped_silent (Silent.liftExcept _)
  intro attributes _
  apply scoped_silent (Silent.liftExcept _)
  intro name _
  apply scoped_span rfl
  intro v _ _
  have hnew : newDict [] v = (.ok v.dicts.length, { v with dicts := v.dicts ++ [[]] }) := rfl
  apply block_ok within_trans hnew (within_newDict v _)
  apply block_andThen within_trans
  · apply block_handling within_refl within_trans
    · exact block_call within_refl trivial
    · apply noteException_keeps annotates_within
      intro e
      exact setErrorStatus_keeps annotates_within _ _ _
  · exact afterApp_keeps annotates_within r _ _

section

open KeystoneMiddleware

/-- What the request span is started with. -/
structure RequestSpan (Ctx : Type) where
  parent : Option Ctx
  kind : SpanKind
  attributes : Dict
  name : String

/-- What is read of the environment, which may raise. -/
def readEnviron (environ : Arg) (w : World Ctx H) : Except Exn (RequestSpan Ctx) := do
  let (parent, kind) ← (environParentContext noFaults environ w).1
  let attributes ← requestAttributes r w.dicts environ
  let name ← requestSpanName r w.dicts environ
  pure ⟨parent, kind, attributes, name⟩

variable (q : RequestSpan Ctx) (w : World Ctx H)

/-- The span the request span is under. -/
def RequestSpan.above : SpanContext := spanIn (q.parent.getD w.current)

def RequestSpan.span : SpanContext := newSpan w.calls (q.above w)

/-- The request span is current, and there is a dictionary for the status. -/
def RequestSpan.world : World Ctx H where
  current := setSpan (q.span w) w.current
  calls := w.calls ++ [.start (q.span w) (q.above w) q.name q.kind q.attributes]
  dicts := w.dicts ++ [[]]
  host := w.host

/-- The `start_response` the application is given. -/
def tracedStartResponse (startResponse : StartResponse Ctx H) (captured : ℕ) :
    StartResponse Ctx H := fun status rest => do
  setItem (.dict captured) "status" status
  startResponse status rest

lemma silent_environParentContext (environ : Arg) :
    Silent (environParentContext noFaults environ : Code Ctx H (Option Ctx × SpanKind)) := by
  unfold environParentContext
  apply Silent.bind (Silent.reads _)
  intro c
  split
  · exact Silent.pure _
  · split
    · apply Silent.bind (mayRaise_silent noFaults _)
      intro _
      apply Silent.bind (Silent.reads _)
      intro dicts
      apply Silent.bind (Silent.liftExcept _)
      intro parent
      exact Silent.pure _
    · exact Silent.pure _

/-- Where the environment cannot be read the application is not called. -/
lemma enterCall_read (environ : Arg) (startResponse : StartResponse Ctx H) {w : World Ctx H}
    (hon : enabled w.current = true) :
    match readEnviron r environ w with
    | .error e => enterCall r (.wsgi environ startResponse) w = (.error e, w)
    | .ok q => environParentContext noFaults environ w = (.ok (q.parent, q.kind), w) ∧
      ∃ exit, enterCall r (.wsgi environ startResponse) w =
        (.ok ⟨.wsgi environ (tracedStartResponse startResponse w.dicts.length), exit⟩,
          q.world w) := by
  have hsilent := silent_environParentContext environ w
  unfold readEnviron enterCall
  dsimp only
  rw [guard_on hon]
  rcases hparent : environParentContext noFaults environ w with ⟨e | ⟨parent, kind⟩, v⟩ <;>
    rw [hparent] at hsilent <;> obtain rfl : v = w := hsilent
  · exact bind_of_error hparent
  · rw [bind_of_ok hparent]
    dsimp only
    rw [bind_of_ok (reads_apply _ v)]
    cases hattributes : requestAttributes r v.dicts environ with
    | error e => rfl
    | ok attributes =>
      cases hname : requestSpanName r v.dicts environ with
      | error e => rfl
      | ok name => exact ⟨rfl, _, rfl⟩

end

/-! ### The authentication span -/

open Authentication

variable (tuple : List String → Val)

/-- What the authentication wrapper does once the request has been processed. -/
def afterProcess (span : SpanContext) (request : Request H) (result : α) : Code Ctx H α := do
  mayRaise noFaults .isRecording
  onlyIf (isRecording Ctx span) (recordRequest noFaults tuple span request)
  pure result

def enterProcess (args : List (Request H)) (kwargs : List (String × Request H)) :
    Code Ctx H (Opening Ctx H (List (Request H) × List (String × Request H)) α) := do
  mayRaise noFaults (.other "is_instrumentation_enabled")
  let c ← getCurrent
  if !enabled c then pure (.call (args, kwargs))
  else do
    let request := requestArg args kwargs
    let (parent, kind) ← parentContext noFaults request
    let span ← startSpan noFaults "keystonemiddleware.authenticate" kind parent []
    enterSpan span do
      andThen
        (handling (pure (.call (args, kwargs)))
          (noteException span fun e => do
            setErrorStatus noFaults span e
            recordRequest noFaults tuple span request))
        (afterProcess tuple span request)

lemma opens_process (args : List (Request H)) (kwargs : List (String × Request H)) :
    Opens
      (fun wrapped : List (Request H) × List (String × Request H) → Code Ctx H α =>
        processRequestWrapper noFaults tuple (fun args kwargs => wrapped (args, kwargs)) args
          kwargs)
      (enterProcess tuple args kwargs) := by
  unfold processRequestWrapper enterProcess
  apply opens_guarded (opens_call _)
  apply opens_bind
  rintro ⟨parent, kind⟩
  apply opens_bind
  intro span
  apply opens_useSpan
  exact opens_andThen (opens_handling (opens_call _) _)
    (afterProcess tuple span (requestArg args kwargs))

def process (args : List (Request H)) (kwargs : List (String × Request H)) :
    Wrapping Ctx H (List (Request H) × List (String × Request H)) α where
  code wrapped :=
    processRequestWrapper noFaults tuple (fun args kwargs => wrapped (args, kwargs)) args kwargs
  enter := enterProcess tuple args kwargs
  opens := opens_process tuple args kwargs

lemma scoped_process (args : List (Request H)) (kwargs : List (String × Request H))
    {w : World Ctx H} (hon : enabled w.current = true) {parent : Option Ctx} {kind : SpanKind}
    (hparent : parentContext noFaults (requestArg args kwargs) w = (.ok (parent, kind), w)) :
    Scoped kind (spanIn (parent.getD w.current)) (fun _ _ _ => True) w
      ((enterProcess tuple args kwargs : Code Ctx H (Opening Ctx H _ α)) w) := by
  unfold enterProcess
  rw [guard_on hon]
  dsimp only
  rw [bind_of_ok hparent]
  apply scoped_span rfl
  intro v _ _
  have hrecord (span : SpanContext) :
      Keeps Within (recordRequest noFaults tuple span (requestArg args kwargs) : Code Ctx H Unit) :=
    recordRequest_keeps noFaults tuple span annotates_within _
  apply block_andThen within_trans
  · apply block_handling within_refl within_trans
    · exact block_call within_refl trivial
    · apply noteException_keeps annotates_within
      intro e
      apply Keeps.bind within_trans (setErrorStatus_keeps annotates_within _ _ _)
      intro _
      exact hrecord _
  · intro result
    apply Keeps.bind within_trans (mayRaise_keeps annotates_within _ _)
    intro _
    apply Keeps.bind within_trans (Keeps.onlyIf within_refl (hrecord _))
    intro _
    exact Keeps.pure within_refl result

end

/-! ### Scopes in a trace -/

section

variable {Ctx H ι α : Type} [Propagator Ctx] {w : World Ctx H}

omit [Propagator Ctx] in
/-- A scope starts its one span, and restores the context. -/
lemma enters_of_scoped [ContextApi Ctx] {kind : SpanKind} {parent : SpanContext}
    {Q Q' : SpanContext → ι → World Ctx H → Prop}
    {out : Except Exn (Opening Ctx H ι α) × World Ctx H} (hon : enabled w.current = true)
    (h : Scoped kind parent Q w out)
    (hQ : ∀ input v, spanIn v.current = newSpan w.calls parent →
      Q (newSpan w.calls parent) input v → Q' (newSpan w.calls parent) input v) :
    Enters kind parent w.current Q' w out := by
  rcases out with ⟨e | o, v⟩
  · obtain ⟨hcurrent, -, hsame | ⟨name, attributes, cs, hcs, -, hcalls⟩⟩ := h
    · exact ⟨hcurrent, Or.inl ⟨[], rfl, by rw [hsame, List.append_nil]⟩⟩
    · exact ⟨hcurrent, Or.inr ⟨name, attributes, cs, hcs, hcalls⟩⟩
  · obtain ⟨⟨name, attributes, cs, hcs, hcalls⟩, -, hcurrent, hends, hinput⟩ := h
    have hspan : spanIn v.current = newSpan w.calls parent := by
      rw [hcurrent]
      exact spanIn_setSpan _ _
    refine ⟨⟨name, attributes, cs, hcs.1, hcalls⟩, hspan, ?_, ?_, hQ o.input v hspan hinput⟩
    · rw [hcurrent]
      exact (enabled_setSpan _ _).trans hon
    · intro r u
      obtain ⟨hback, -, ds, hds, -, hout⟩ := hends r u
      exact ⟨hback, ds, hds, hout⟩

lemma enters_ownSpan (name : String) (attributes : Dict) (hon : enabled w.current = true) :
    Enters .internal (spanIn w.current) w.current (fun _ _ _ => True) w
      ((ownSpan name attributes : Wrapping Ctx H Unit α).enter w) :=
  enters_of_scoped hon (scoped_programSpan name .internal none attributes w)
    fun _ _ _ _ => trivial

/-- The headers handed on carry the client's span. -/
lemma carries_of_handed [Faithful Ctx] {args : Args} {kwargs : Kwargs}
    {copied : Except Exn Dict} {dicts : List Dict} {span : SpanContext} {input : Input}
    {v : World Ctx H} (hvalid : span.isValid = true) (hspan : spanIn v.current = span)
    (h : Handed args kwargs copied dicts input v) :
    Carries Ctx (sentHeaders v.dicts input) span := by
  obtain ⟨copy, -, rfl, hdicts⟩ := h
  subst hspan
  have hderef : deref v.dicts dicts.length = setAll (Propagator.headers v.current) copy := by
    rw [hdicts]
    simp [deref, List.getD_eq_getElem?_getD]
  rw [sentHeaders_setKwarg, hderef]
  exact carries_setAll hvalid copy

variable (r : Reading α)

lemma enters_session [Faithful Ctx] (args : Args) (kwargs : Kwargs)
    (hon : enabled w.current = true) :
    Enters .client (spanIn w.current) w.current
      (fun span input v => Carries Ctx (sentHeaders v.dicts input) span) w
      ((enterSession r args kwargs : Code Ctx H (Opening Ctx H Input α)) w) :=
  enters_of_scoped hon (scoped_session r args kwargs hon)
    fun _ _ hspan hinput => carries_of_handed (newSpan_valid _ _) hspan hinput

lemma enters_proxy [Faithful Ctx] (proxy : OpenStackSdk.Proxy) (args : Args) (kwargs : Kwargs)
    (hon : enabled w.current = true) :
    Enters .client (spanIn w.current) w.current
      (fun span input v => Carries Ctx (sentHeaders v.dicts input) span) w
      ((enterProxy r proxy args kwargs : Code Ctx H (Opening Ctx H Input α)) w) :=
  enters_of_scoped hon (scoped_proxy r proxy args kwargs hon)
    fun _ _ hspan hinput => carries_of_handed (newSpan_valid _ _) hspan hinput

open KeystoneMiddleware in
lemma enters_call (environ : Arg) (startResponse : StartResponse Ctx H) {parent : SpanContext}
    (hon : enabled w.current = true) (hidle : (spanIn w.current).isValid = false)
    (hparent : ∀ p, environContext w.dicts environ = .ok p →
      spanIn (p.getD w.current) = parent) :
    Enters .server parent w.current (fun _ _ _ => True) w
      (enterCall r (.wsgi environ startResponse) w) := by
  have hread := enterCall_read r environ startResponse hon
  cases hrequest : readEnviron r environ w with
  | error e =>
    rw [hrequest] at hread
    rw [hread]
    exact ⟨rfl, Or.inl (noStart_refl w)⟩
  | ok q =>
    rw [hrequest] at hread
    obtain ⟨hcode, -⟩ := hread
    have hcontext := environParentContext_eq environ hidle
    rw [hcode] at hcontext
    cases hp : (environContext w.dicts environ : Except Exn (Option Ctx)) with
    | error e =>
      rw [hp] at hcontext
      exact absurd (congrArg Prod.fst hcontext) nofun
    | ok p =>
      rw [hp] at hcontext
      obtain ⟨hsame, hkind⟩ := Prod.mk.inj (Except.ok.inj (congrArg Prod.fst hcontext))
      have hscoped := scoped_call r environ startResponse hon hcode
      rw [hsame, hkind, hparent p hp] at hscoped
      exact enters_of_scoped hon hscoped fun _ _ _ _ => trivial

end

end OtelOpenstack.Scopes
