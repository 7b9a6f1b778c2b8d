import OtelOpenstack.HopSpecs

/-!
Sends in any number of execution units at once, and the message each puts on the wire.

A send injects into the mapping it was handed, and the transport copies the mapping later. Two
sends that were handed one mapping may both write to it before either is copied, so every
injection is written down, with the mapping and the producer span it was of.
-/

set_option autoImplicit false

namespace OtelOpenstack.SharedSends

open Effects Python Otel ContextApi Carriers Openings Hops HopSpecs Wires TraceContext Runs

/-- A send that has called the transport: its producer span, if instrumentation was on, and
what the transport was given. -/
structure Sending (Ctx H α : Type) where
  span : Option SpanContext
  input : Input
  exit : Except Exn α → Code Ctx H α

/-- An execution unit, and the sends it is inside of, the innermost first. -/
structure Worker (Ctx H α : Type) where
  current : Ctx
  host : H
  sends : List (Sending Ctx H α)

/-- A message on the wire, and the producer span of its send. -/
structure Message where
  span : Option SpanContext
  ctxt : Dict

/-- The dictionaries are shared; the injections are listed from the last one on. -/
structure Sys (U Ctx H α : Type) where
  calls : List Call
  dicts : List Dict
  injections : List (ℕ × SpanContext)
  wire : List Message
  workers : U → Worker Ctx H α

/-- A unit sends, up to the call of the transport; the transport copies the `ctxt`; it returns
or raises. Between these the unit starts spans, attaches contexts, and changes dictionaries and
the program's state. -/
inductive Event (U Ctx H α : Type)
  | send (u : U) (isNotification : Bool) (transport : Option String) (args : Args)
      (kwargs : Kwargs)
  | copy (u : U)
  | leave (u : U) (result : Except Exn α)
  | work (u : U) (name : String) (kind : SpanKind) (context : Option Ctx) (attributes : Dict)
  | attach (u : U) (c : Ctx)
  | store (u : U) (dicts : List Dict) (host : H)

/-- The mapping a send was handed. -/
def ctxtOf (input : Input) : Arg := arg input.1 1 input.2 "ctxt"

/-- The injection of a send with this span, if it has one. -/
def injection (input : Input) (span : Option SpanContext) : List (ℕ × SpanContext) :=
  match ctxtOf input, span with
  | .dict ref, some span => [(ref, span)]
  | _, _ => []

section

variable {U Ctx H α : Type}

def Sys.init (home : U → Ctx) (host : U → H) : Sys U Ctx H α :=
  ⟨[], [], [], [], fun u => ⟨home u, host u, []⟩⟩

def Sys.world (s : Sys U Ctx H α) (u : U) : World Ctx H :=
  ⟨(s.workers u).current, s.calls, s.dicts, (s.workers u).host⟩

variable [DecidableEq U]

/-- After a unit ran code that ended in `w`, inside `sends`. -/
def Sys.ran (s : Sys U Ctx H α) (u : U) (sends : List (Sending Ctx H α)) (w : World Ctx H) :
    Sys U Ctx H α :=
  { s with
    calls := w.calls
    dicts := w.dicts
    workers := Function.update s.workers u ⟨w.current, w.host, sends⟩ }

variable [Propagator Ctx]

def step (s : Sys U Ctx H α) : Event U Ctx H α → Sys U Ctx H α
  | .send u isNotification transport args kwargs =>
    match enterSend isNotification transport args kwargs (s.world u) with
    | (.error _, w) => s.ran u (s.workers u).sends w
    | (.ok o, w) =>
      let span := (startedSpans (w.calls.drop s.calls.length)).head?
      { s.ran u (⟨span, o.input, o.exit⟩ :: (s.workers u).sends) w with
        injections := injection o.input span ++ s.injections }
  | .copy u => match (s.workers u).sends with
    | [] => s
    | f :: _ => { s with wire := s.wire ++ [⟨f.span, sentCtxt s.dicts f.input⟩] }
  | .leave u result => match (s.workers u).sends with
    | [] => s
    | f :: fs => s.ran u fs (f.exit result (s.world u)).2
  | .work u name kind context attributes =>
    s.ran u (s.workers u).sends (startSpan noFaults name kind context attributes (s.world u)).2
  | .attach u c => s.ran u (s.workers u).sends { s.world u with current := c }
  | .store u dicts host => s.ran u (s.workers u).sends { s.world u with dicts, host }

/-- A send has a `ctxt` dictionary. The program leaves the `traceparent` of its dictionaries
alone. -/
def Ok (s : Sys U Ctx H α) : Event U Ctx H α → Prop
  | .send _ _ _ args kwargs => ∃ ref, ctxtOf (args, kwargs) = .dict ref ∧ ref < s.dicts.length
  | .store _ dicts _ => s.dicts.length ≤ dicts.length ∧ ∀ ref < s.dicts.length,
      (deref dicts ref).get "traceparent" = (deref s.dicts ref).get "traceparent"
  | _ => True

/-- Since the injection of this send there was none into its mapping. -/
def LastInto (injections : List (ℕ × SpanContext)) (f : Sending Ctx H α) : Prop :=
  ∀ span, f.span = some span → ∃ ref others before, ctxtOf f.input = .dict ref ∧
    injections = others ++ (ref, span) :: before ∧ ∀ other ∈ others, other.1 ≠ ref

/-- Every message is copied before another send injects into its mapping. -/
def Undisturbed (s : Sys U Ctx H α) : Event U Ctx H α → Prop
  | .copy u => ∀ f ∈ (s.workers u).sends.head?, LastInto s.injections f
  | _ => True

end

/-! ### Messages with their own context -/

section

variable (Ctx H α : Type) [Propagator Ctx]

def dispatch : Deliveries.Style → Args → Kwargs → Wrapping Ctx H Input α
  | .rpc => rpcDispatch
  | .notification => notificationDispatch

/-- The context of a message is that of its producer span: it is written there, and a dispatch
of the message starts its span under it. -/
structure Own (span : SpanContext) (ctxt : Dict) : Prop where
  carries : Carries Ctx ctxt span
  consumed : ∀ style args kwargs ref (w : World Ctx H), enabled w.current = true →
    (arg args 0 kwargs "incoming").ctxt = .dict ref → deref w.dicts ref = ctxt →
    ∃ new, ((dispatch Ctx H α style args kwargs).enter w).2.calls = w.calls ++ new ∧
      ∀ consumer parent name kind attributes,
        .start consumer parent name kind attributes ∈ new → parent = span

def Message.Genuine (m : Message) : Prop := ∀ span, m.span = some span → Own Ctx H α span m.ctxt

variable {Ctx H α} [Faithful Ctx]

lemma own_of_carries {span : SpanContext} {ctxt : Dict} (h : Carries Ctx ctxt span) :
    Own Ctx H α span ctxt := by
  refine ⟨h, ?_⟩
  intro style args kwargs ref w hon hctxt hderef
  have hparent : ∀ a c, (arg args 0 kwargs "incoming").ctxt.orEmpty w.dicts = .ok a →
      Messaging.spanContextOf noFaults a w = (.ok c, w) → spanIn c = span := by
    intro a c ha hc
    have hdelivers : Delivers .messaging ctxt (deref w.dicts ref) := by
      intro value hvalue
      rw [hderef]
      exact hvalue
    exact spanContextOf_of_delivers h hdelivers hctxt ha hc
  have henters : Enters .consumer span w.current (fun _ _ _ => True) w
      ((dispatch Ctx H α style args kwargs).enter w) := by
    cases style with
    | rpc => exact enters_rpcDispatch hon hparent
    | notification => exact enters_notificationDispatch hon hparent
  have hnone : ∀ {cs : List Call}, startedSpans cs = [] → ∀ consumer parent name kind attributes,
      .start consumer parent name kind attributes ∉ cs := by
    intro cs hcs consumer parent name kind attributes hmem
    have hstarted := mem_startedSpans hmem
    rw [hcs] at hstarted
    exact absurd hstarted List.not_mem_nil
  have hstarted : ∀ {v : World Ctx H}, Started .consumer span w v →
      ∃ new, v.calls = w.calls ++ new ∧ ∀ consumer parent name kind attributes,
        .start consumer parent name kind attributes ∈ new → parent = span := by
    rintro v ⟨name, attributes, cs, hcs, hv⟩
    refine ⟨_, hv, ?_⟩
    intro consumer parent name' kind attributes' hmem
    rcases List.mem_cons.mp hmem with heq | hmem
    · injection heq
    · exact absurd hmem (hnone hcs _ _ _ _ _)
  rcases hrun : (dispatch Ctx H α style args kwargs).enter w with ⟨e | o, v⟩ <;>
    rw [hrun] at henters
  · rcases henters.2 with ⟨cs, hcs, hv⟩ | h
    · exact ⟨cs, hv, fun _ _ _ _ _ hmem => absurd hmem (hnone hcs _ _ _ _ _)⟩
    · exact hstarted h
  · exact hstarted henters.1

end

/-! ### What a send does to the dictionaries -/

section

variable {Ctx H α : Type}

/-- A span was started since `w`, and no other. -/
def Began (span : SpanContext) (w v : World Ctx H) : Prop :=
  ∃ parent name kind attributes cs, span = newSpan w.calls parent ∧ startedSpans cs = [] ∧
    v.calls = w.calls ++ .start span parent name kind attributes :: cs

lemma Began.noStart {span : SpanContext} {u v w : World Ctx H} (h : Began span u v)
    (h' : NoStart v w) : Began span u w := by
  obtain ⟨parent, name, kind, attributes, cs, hspan, hcs, hv⟩ := h
  obtain ⟨ds, hds, hw⟩ := h'
  refine ⟨parent, name, kind, attributes, cs ++ ds, hspan, ?_, ?_⟩
  · rw [startedSpans_append, hcs, hds, List.append_nil]
  · rw [hw, hv, List.append_assoc]
    rfl

/-- The dictionaries are left alone on the way out. -/
def Leaves (exit : Except Exn α → Code Ctx H α) : Prop :=
  ∀ r u, (exit r u).2.dicts = u.dicts ∧ NoStart u (exit r u).2

variable [Propagator Ctx]

/-- The way in to a send that was handed the mapping `ref`: if it raises it has written nothing,
and otherwise it has written the headers of its own span. -/
def Injects (ref : ℕ) (input : Input) (w : World Ctx H) :
    Except Exn (Opening Ctx H Input α) × World Ctx H → Prop
  | (.error _, v) => v.dicts = w.dicts ∧ (NoStart w v ∨ ∃ span, Began span w v)
  | (.ok o, v) => o.input = input ∧ Leaves o.exit ∧ ∃ c : Ctx, Began (spanIn c) w v ∧
    v.dicts = w.dicts.modify ref (setAll (Propagator.headers c))

lemma injects_silent {β : Type} {ref : ℕ} {input : Input} {w : World Ctx H} {p : Code Ctx H β}
    {f : β → Code Ctx H (Opening Ctx H Input α)} (hp : Silent p)
    (hf : ∀ b, Injects ref input w (f b w)) : Injects ref input w ((p >>= f) w) :=
  hp.post_bind_outcome (fun _ => ⟨rfl, Or.inl (noStart_refl w)⟩) fun b _ => hf b

/-- Once its span is started, a send injects that span and calls the transport. -/
lemma injects_enterSpan {ref : ℕ} {input : Input} {span : SpanContext} {w v : World Ctx H}
    (hbegan : Began span w v) (hdicts : v.dicts = w.dicts) :
    Injects ref input w
      ((enterSpan span (do
        onlyIf (Arg.dict ref).isMapping (inject noFaults (.dict ref))
        pure (.call input)) : Code Ctx H (Opening Ctx H Input α)) v) := by
  let u : World Ctx H := { v with current := setSpan span v.current }
  have hrun : (enterSpan span (do
      onlyIf (Arg.dict ref).isMapping (inject noFaults (.dict ref))
      pure (.call input)) : Code Ctx H (Opening Ctx H Input α)) v =
      (.ok ⟨input, fun r => finalized (Effects.liftExcept r) (closeSpan span ⟨v.current⟩)⟩,
        { u with dicts := v.dicts.modify ref (setAll (Propagator.headers u.current)) }) := by
    unfold enterSpan finalizing
    have hinject := inject_dict ref u
    simp [bind_apply, Effects.tryExcept, Arg.isMapping, onlyIf, hinject, u, Opening.call]
  rw [hrun]
  refine ⟨rfl, ?_, u.current, ?_, ?_⟩
  · intro r t
    rw [finalized_state]
    exact ⟨rfl, closing Ctx span (outcome r), startedSpans_closing _ _, rfl⟩
  · have hcurrent : spanIn u.current = span := spanIn_setSpan _ _
    rw [hcurrent]
    exact hbegan
  · change v.dicts.modify ref _ = _
    rw [hdicts]

lemma injects_send (isNotification : Bool) (transport : Option String) {args : Args}
    {kwargs : Kwargs} {w : World Ctx H} (hon : enabled w.current = true) {ref : ℕ}
    (hctxt : ctxtOf (args, kwargs) = .dict ref) :
    Injects ref (args, kwargs) w
      ((enterSend isNotification transport args kwargs : Code Ctx H (Opening Ctx H Input α))
        w) := by
  have hctxt : arg args 1 kwargs "ctxt" = .dict ref := hctxt
  unfold enterSend
  rw [guard_on hon, hctxt]
  apply injects_silent (Silent.reads _)
  intro dicts
  apply injects_silent (Silent.liftExcept _)
  intro dest
  rw [bind_of_ok (startSpan_noFaults ..), bind_of_ok (mayRaise_noFaults _ _)]
  generalize hspan : newSpan w.calls _ = span
  generalize hv : w.called _ = v
  have hbegan : Began span w v := by
    subst hspan hv
    exact ⟨_, dest, .producer, [], [], rfl, rfl, rfl⟩
  have hdicts : v.dicts = w.dicts := by
    rw [← hv]
    rfl
  have hnoted : Keeps Noted (onlyIf (isRecording Ctx span)
      (Messaging.setSendAttributes noFaults isNotification span transport (.dict ref)
        (arg args 0 kwargs "target")
        (if (arg args 2 kwargs "message").isMapping then arg args 2 kwargs "message"
          else emptyDict)
        (arg args 3 kwargs "wait_for_reply")) : Code Ctx H Unit) :=
    Keeps.onlyIf noted_refl (Messaging.setSendAttributes_noted _ _ _ _ _ _ _ _)
  obtain ⟨r, cs, hcs, hres⟩ := noted_outcome hnoted v
  have hbegan' : Began span w (v.called cs) := hbegan.noStart ⟨cs, hcs, rfl⟩
  cases r with
  | error e =>
    rw [bind_of_error hres]
    exact ⟨hdicts, Or.inr ⟨span, hbegan'⟩⟩
  | ok _ =>
    rw [bind_of_ok hres]
    exact injects_enterSpan hbegan' hdicts

end

/-! ### What holds throughout -/

section

variable {U Ctx H α : Type}

/-- A send under way has injected, if it has a span. -/
def Injected (injections : List (ℕ × SpanContext)) (f : Sending Ctx H α) : Prop :=
  Leaves f.exit ∧
    ∀ span, f.span = some span → ∃ ref, ctxtOf f.input = .dict ref ∧ (ref, span) ∈ injections

/-- Every send has a span of its own, and a mapping carries the one injected last. -/
structure Inv [Propagator Ctx] (s : Sys U Ctx H α) : Prop where
  numbered : Numbered s.calls
  started : ∀ i ∈ s.injections, i.2 ∈ startedSpans s.calls
  stored : ∀ i ∈ s.injections, i.1 < s.dicts.length
  distinct : (s.injections.map Prod.snd).Nodup
  written : ∀ ref span, s.injections.lookup ref = some span →
    Carries Ctx (deref s.dicts ref) span
  sending : ∀ u, ∀ f ∈ (s.workers u).sends, Injected s.injections f

lemma inv_init [Propagator Ctx] (home : U → Ctx) (host : U → H) :
    Inv (Sys.init home host : Sys U Ctx H α) :=
  ⟨numbered_nil, nofun, nofun, List.nodup_nil, nofun, fun _ => nofun⟩

lemma Injected.cons {injections : List (ℕ × SpanContext)} {f : Sending Ctx H α}
    (h : Injected injections f) (i : ℕ × SpanContext) : Injected (i :: injections) f := by
  refine ⟨h.1, ?_⟩
  intro span hspan
  obtain ⟨ref, hctxt, hmem⟩ := h.2 span hspan
  exact ⟨ref, hctxt, List.mem_cons_of_mem _ hmem⟩

/-- Code that starts one span at most. -/
def Numbers (w v : World Ctx H) : Prop := NoStart w v ∨ ∃ span, Began span w v

lemma Numbers.numbered {w v : World Ctx H} (h : Numbers w v) (hw : Numbered w.calls) :
    Numbered v.calls := by
  rcases h with ⟨cs, hcs, hv⟩ | ⟨span, parent, name, kind, attributes, cs, rfl, hcs, hv⟩
  · rw [hv]
    exact hw.append hcs
  · have hstart := hw.start parent parent name kind attributes
    rw [hv, ← List.singleton_append, ← List.append_assoc]
    exact hstart.append hcs

lemma Numbers.started {w v : World Ctx H} (h : Numbers w v) {span : SpanContext}
    (hw : span ∈ startedSpans w.calls) : span ∈ startedSpans v.calls := by
  have hcalls : ∃ new, v.calls = w.calls ++ new := by
    rcases h with ⟨cs, -, hv⟩ | ⟨_, _, _, _, _, cs, -, -, hv⟩
    · exact ⟨cs, hv⟩
    · exact ⟨_, hv⟩
  obtain ⟨new, hv⟩ := hcalls
  rw [hv, startedSpans_append]
  exact List.mem_append_left _ hw

/-- The dictionaries that were there are still there, with the same `traceparent`. -/
def Spares (dicts dicts' : List Dict) : Prop :=
  dicts.length ≤ dicts'.length ∧ ∀ ref < dicts.length,
    (deref dicts' ref).get "traceparent" = (deref dicts ref).get "traceparent"

lemma spares_refl (dicts : List Dict) : Spares dicts dicts := ⟨le_rfl, fun _ _ => rfl⟩

variable [DecidableEq U]

/-- The sends under way once a unit has taken a step. -/
lemma mem_ran {s : Sys U Ctx H α} {u v : U} {sends : List (Sending Ctx H α)} {w : World Ctx H}
    {f : Sending Ctx H α} (hf : f ∈ ((s.ran u sends w).workers v).sends) :
    f ∈ sends ∨ f ∈ (s.workers v).sends := by
  by_cases hv : v = u
  · subst hv
    simp only [Sys.ran, Function.update_self] at hf
    exact Or.inl hf
  · simp only [Sys.ran, Function.update_of_ne hv] at hf
    exact Or.inr hf

lemma Inv.ran [Propagator Ctx] {s : Sys U Ctx H α} (h : Inv s) {u : U}
    {sends : List (Sending Ctx H α)} {w : World Ctx H}
    (hcalls : Numbers (s.world u) w) (hdicts : Spares s.dicts w.dicts)
    (hsends : ∀ f ∈ sends, Injected s.injections f) : Inv (s.ran u sends w) := by
  refine ⟨hcalls.numbered h.numbered, fun i hi => hcalls.started (h.started i hi), ?_,
    h.distinct, ?_, ?_⟩
  · intro i hi
    exact lt_of_lt_of_le (h.stored i hi) hdicts.1
  · intro ref span (hlast : s.injections.lookup ref = some span)
    have hmem : (ref, span) ∈ s.injections := by
      obtain ⟨others, before, heq, -⟩ := List.lookup_eq_some_iff.mp hlast
      rw [heq]
      simp
    obtain ⟨text, hget, hread⟩ := h.written ref span hlast
    exact ⟨text, (hdicts.2 ref (h.stored _ hmem)).trans hget, hread⟩
  · intro v f hf
    rcases mem_ran hf with hnew | hold
    · exact hsends f hnew
    · exact h.sending v f hold

variable [Propagator Ctx] [Faithful Ctx]

/-- A send has injected. -/
lemma Inv.injected {s : Sys U Ctx H α} (h : Inv s) {u : U} {sends : List (Sending Ctx H α)}
    {w : World Ctx H} {ref : ℕ} {c : Ctx} (href : ref < s.dicts.length)
    (hbegan : Began (spanIn c) (s.world u) w)
    (hdicts : w.dicts = s.dicts.modify ref (setAll (Propagator.headers c)))
    (hsends : ∀ f ∈ sends, Injected ((ref, spanIn c) :: s.injections) f) :
    Inv { s.ran u sends w with injections := (ref, spanIn c) :: s.injections } := by
  have hnumbers : Numbers (s.world u) w := Or.inr ⟨_, hbegan⟩
  obtain ⟨parent, name, kind, attributes, cs, hspan, hcs, hcalls⟩ := hbegan
  have hvalid : (spanIn c).isValid = true := by rw [hspan]; exact newSpan_valid _ _
  have hfresh : spanIn c ∉ startedSpans s.calls := by
    rw [hspan]
    exact newSpan_fresh h.numbered parent
  have hnew : spanIn c ∈ startedSpans w.calls := by
    rw [hcalls]
    exact mem_startedSpans (List.mem_append_right _ (List.mem_cons_self ..))
  have hlength : w.dicts.length = s.dicts.length := by rw [hdicts, List.length_modify]
  refine ⟨hnumbers.numbered h.numbered, ?_, ?_, ?_, ?_, ?_⟩
  · intro i hi
    rcases List.mem_cons.mp hi with rfl | hi
    · exact hnew
    · exact hnumbers.started (h.started i hi)
  · intro i hi
    change i.1 < w.dicts.length
    rw [hlength]
    rcases List.mem_cons.mp hi with rfl | hi
    · exact href
    · exact h.stored i hi
  · refine List.nodup_cons.mpr ⟨?_, h.distinct⟩
    intro hmem
    obtain ⟨i, hi, heq⟩ := List.mem_map.mp hmem
    have hstarted := h.started i hi
    rw [heq] at hstarted
    exact hfresh hstarted
  · intro ref' span hlast
    change Carries Ctx (deref w.dicts ref') span
    rw [hdicts]
    change ((ref, spanIn c) :: s.injections).lookup ref' = some span at hlast
    rw [List.lookup_cons] at hlast
    by_cases hsame : ref' = ref
    · subst hsame
      obtain rfl : spanIn c = span := by simpa using hlast
      rw [deref_modify href]
      exact carries_setAll hvalid _
    · rw [deref_modify_ne (Ne.symm hsame)]
      refine h.written ref' span ?_
      simpa [beq_false_of_ne hsame] using hlast
  · intro v f hf
    rcases mem_ran hf with hnew | hold
    · exact hsends f hnew
    · exact (h.sending v f hold).cons _

omit [DecidableEq U] [Faithful Ctx] in
lemma enterSend_off (isNotification : Bool) (transport : Option String) (args : Args)
    (kwargs : Kwargs) {w : World Ctx H} (hoff : enabled w.current = false) :
    (enterSend isNotification transport args kwargs : Code Ctx H (Opening Ctx H Input α)) w =
      (.ok (Opening.call (args, kwargs)), w) := by
  unfold enterSend
  rw [guard_off hoff]
  rfl

omit [Propagator Ctx] [Faithful Ctx] [DecidableEq U] in
/-- The span begun is the one that is found. -/
lemma Began.head {span : SpanContext} {w v : World Ctx H} (h : Began span w v) :
    (startedSpans (v.calls.drop w.calls.length)).head? = some span := by
  obtain ⟨parent, name, kind, attributes, cs, -, -, hv⟩ := h
  rw [hv, List.drop_left]
  rfl

omit [Faithful Ctx] in
/-- Where instrumentation is suppressed a send injects nothing. -/
lemma Inv.send_off {s : Sys U Ctx H α} (h : Inv s) {u : U}
    (hoff : enabled (s.workers u).current = false) (isNotification : Bool)
    (transport : Option String) {args : Args} {kwargs : Kwargs} {ref : ℕ}
    (hctxt : ctxtOf (args, kwargs) = .dict ref) :
    Inv (step s (.send u isNotification transport args kwargs)) := by
  have hrun := enterSend_off (α := α) isNotification transport args kwargs (w := s.world u) hoff
  have hspan : (startedSpans ((s.world u).calls.drop s.calls.length)).head? = none := by
    simp [Sys.world, startedSpans]
  have hinjection : injection (args, kwargs) none = [] := by
    simp only [injection, hctxt]
  have hstep : step s (.send u isNotification transport args kwargs) =
      s.ran u (⟨none, (args, kwargs), fun r => Effects.liftExcept r⟩ :: (s.workers u).sends)
        (s.world u) := by
    simp only [step, hrun, hspan, Opening.call, hinjection, List.nil_append]
    rfl
  rw [hstep]
  refine h.ran (Or.inl (noStart_refl _)) (spares_refl _) ?_
  intro f hf
  rcases List.mem_cons.mp hf with rfl | hf
  · exact ⟨fun r u => ⟨rfl, noStart_refl u⟩,
      fun span hnone => absurd hnone.symm (Option.some_ne_none span)⟩
  · exact h.sending u f hf

lemma Inv.send {s : Sys U Ctx H α} (h : Inv s) (u : U) (isNotification : Bool)
    (transport : Option String) {args : Args} {kwargs : Kwargs} {ref : ℕ}
    (hctxt : ctxtOf (args, kwargs) = .dict ref) (href : ref < s.dicts.length) :
    Inv (step s (.send u isNotification transport args kwargs)) := by
  cases hon : enabled (s.workers u).current with
  | false => exact h.send_off hon isNotification transport hctxt
  | true =>
    have hinjects := injects_send (α := α) isNotification transport (w := s.world u) hon hctxt
    rcases hrun : (enterSend isNotification transport args kwargs :
      Code Ctx H (Opening Ctx H Input α)) (s.world u) with ⟨e | o, w⟩ <;>
      rw [hrun] at hinjects
    · have hstep : step s (.send u isNotification transport args kwargs) =
          s.ran u (s.workers u).sends w := by
        simp only [step, hrun]
      rw [hstep]
      obtain ⟨hdicts, hnumbers⟩ := hinjects
      refine h.ran hnumbers ?_ (h.sending u)
      rw [hdicts]
      exact spares_refl _
    · obtain ⟨hinput, hleaves, c, hbegan, hdicts⟩ := hinjects
      have hspan : (startedSpans (w.calls.drop s.calls.length)).head? = some (spanIn c) :=
        hbegan.head
      have hinjection : injection o.input (some (spanIn c)) = [(ref, spanIn c)] := by
        rw [hinput]
        simp only [injection, hctxt]
      have hstep : step s (.send u isNotification transport args kwargs) =
          { s.ran u (⟨some (spanIn c), o.input, o.exit⟩ :: (s.workers u).sends) w with
            injections := (ref, spanIn c) :: s.injections } := by
        simp only [step, hrun, hspan, hinjection, List.singleton_append]
      rw [hstep]
      refine h.injected href hbegan hdicts ?_
      intro f hf
      rcases List.mem_cons.mp hf with rfl | hf
      · refine ⟨hleaves, ?_⟩
        intro span heq
        obtain rfl := Option.some.inj heq
        exact ⟨ref, hinput ▸ hctxt, List.mem_cons_self ..⟩
      · exact (h.sending u f hf).cons _

lemma Inv.step {s : Sys U Ctx H α} (h : Inv s) {e : Event U Ctx H α} (hok : Ok s e) :
    Inv (step s e) := by
  cases e with
  | send u isNotification transport args kwargs =>
    obtain ⟨ref, hctxt, href⟩ := hok
    exact h.send u isNotification transport hctxt href
  | copy u =>
    cases hsends : (s.workers u).sends with
    | nil => simpa only [SharedSends.step, hsends] using h
    | cons f fs =>
      simp only [SharedSends.step, hsends]
      exact ⟨h.numbered, h.started, h.stored, h.distinct, h.written, h.sending⟩
  | leave u result =>
    cases hsends : (s.workers u).sends with
    | nil => simpa only [SharedSends.step, hsends] using h
    | cons f fs =>
      have hf := h.sending u
      rw [hsends] at hf
      obtain ⟨hdicts, hcalls⟩ := (hf f (List.mem_cons_self ..)).1 result (s.world u)
      simp only [SharedSends.step, hsends]
      refine h.ran (Or.inl hcalls) ?_ fun g hg => hf g (List.mem_cons_of_mem _ hg)
      rw [hdicts]
      exact spares_refl _
  | work u name kind context attributes =>
    let parent := spanIn (context.getD (s.workers u).current)
    have hbegan : Began (newSpan s.calls parent) (s.world u)
        (startSpan noFaults name kind context attributes (s.world u)).2 :=
      ⟨parent, name, kind, attributes, [], rfl, rfl, rfl⟩
    exact h.ran (Or.inr ⟨_, hbegan⟩) (spares_refl _) (h.sending u)
  | attach u c =>
    exact h.ran (Or.inl ⟨[], rfl, (List.append_nil _).symm⟩) (spares_refl _) (h.sending u)
  | store u dicts host =>
    exact h.ran (Or.inl ⟨[], rfl, (List.append_nil _).symm⟩) hok (h.sending u)

omit [DecidableEq U] in
/-- **One copy.** The mapping of a send carries its span exactly when no injection into the
mapping came after its own. -/
lemma Inv.genuine_iff {s : Sys U Ctx H α} (h : Inv s) {f : Sending Ctx H α}
    (hf : Injected s.injections f) :
    Message.Genuine Ctx H α ⟨f.span, sentCtxt s.dicts f.input⟩ ↔ LastInto s.injections f := by
  have hsent : ∀ {ref}, ctxtOf f.input = .dict ref →
      sentCtxt s.dicts f.input = deref s.dicts ref := by
    intro ref hctxt
    have harg : arg f.input.1 1 f.input.2 "ctxt" = .dict ref := hctxt
    rw [sentCtxt, harg]
  constructor
  · intro hgenuine span hspan
    obtain ⟨ref, hctxt, hmem⟩ := hf.2 span hspan
    have hcarries := (hgenuine span hspan).carries
    dsimp only at hcarries
    rw [hsent hctxt] at hcarries
    cases hlast : s.injections.lookup ref with
    | none =>
      have habsent := List.lookup_eq_none_iff.mp hlast _ hmem
      simp at habsent
    | some last =>
      obtain ⟨others, before, heq, hothers⟩ := List.lookup_eq_some_iff.mp hlast
      obtain rfl : span = last := hcarries.unique (h.written ref last hlast)
      refine ⟨ref, others, before, hctxt, heq, ?_⟩
      intro other hother
      exact Ne.symm (by simpa using hothers other hother)
  · intro hlast span hspan
    obtain ⟨ref, others, before, hctxt, heq, hothers⟩ := hlast span hspan
    have hlookup : s.injections.lookup ref = some span := by
      refine List.lookup_eq_some_iff.mpr ⟨others, before, heq, ?_⟩
      intro other hother
      simpa using Ne.symm (hothers other hother)
    change Own Ctx H α span (sentCtxt s.dicts f.input)
    rw [hsent hctxt]
    exact own_of_carries (h.written ref span hlookup)

/-- **One step.** Messages stay genuine exactly in steps that are undisturbed. -/
lemma Inv.wire_iff {s : Sys U Ctx H α} (h : Inv s) (e : Event U Ctx H α) :
    (∀ m ∈ (SharedSends.step s e).wire, m.Genuine Ctx H α) ↔
      (∀ m ∈ s.wire, m.Genuine Ctx H α) ∧ Undisturbed s e := by
  cases e with
  | copy u =>
    cases hsends : (s.workers u).sends with
    | nil => simp [SharedSends.step, Undisturbed, hsends]
    | cons f fs =>
      have hf : Injected s.injections f := h.sending u f (by rw [hsends]; simp)
      have hiff := h.genuine_iff hf
      simp only [SharedSends.step, Undisturbed, hsends, List.head?_cons, Option.mem_some_iff,
        List.mem_append, List.mem_singleton]
      constructor
      · intro hall
        refine ⟨fun m hm => hall m (Or.inl hm), ?_⟩
        rintro g rfl
        exact hiff.mp (hall _ (Or.inr rfl))
      · rintro ⟨hwire, hlast⟩ m (hm | rfl)
        · exact hwire m hm
        · exact hiff.mpr (hlast f rfl)
  | leave u result =>
    cases hsends : (s.workers u).sends with
    | nil => simp [SharedSends.step, Undisturbed, hsends]
    | cons f fs => simp [SharedSends.step, Undisturbed, hsends, Sys.ran]
  | send u isNotification transport args kwargs =>
    rcases hrun : (enterSend isNotification transport args kwargs :
      Code Ctx H (Opening Ctx H Input α)) (s.world u) with ⟨e | o, w⟩
    · simp [SharedSends.step, Undisturbed, hrun, Sys.ran]
    · simp [SharedSends.step, Undisturbed, hrun, Sys.ran]
  | work u name kind context attributes => simp [SharedSends.step, Undisturbed, Sys.ran]
  | attach u c => simp [SharedSends.step, Undisturbed, Sys.ran]
  | store u dicts host => simp [SharedSends.step, Undisturbed, Sys.ran]

lemma Inv.run_iff {s : Sys U Ctx H α} (h : Inv s) {es : List (Event U Ctx H α)}
    (hl : Legal Ok SharedSends.step s es) :
    (∀ m ∈ (run SharedSends.step s es).wire, m.Genuine Ctx H α) ↔
      (∀ m ∈ s.wire, m.Genuine Ctx H α) ∧ Legal Undisturbed SharedSends.step s es := by
  induction es generalizing s with
  | nil => simp [Legal]
  | cons e es ih =>
    have hrest := ih (h.step hl.1) hl.2
    have hstep := h.wire_iff e
    rw [run_cons, hrest, hstep, Legal]
    exact and_assoc

/-- **Concurrent sends.** In every run of sends in any number of units every send has a span of
its own, and every message carries the context of its own producer span exactly when no other
send injects into its mapping between its injection and its copy. -/
theorem own_context_iff (home : U → Ctx) (host : U → H) {es : List (Event U Ctx H α)}
    (hl : Legal Ok step (Sys.init home host) es) :
    let s := run step (Sys.init home host) es
    (s.injections.map Prod.snd).Nodup ∧
      ((∀ m ∈ s.wire, m.Genuine Ctx H α) ↔ Legal Undisturbed step (Sys.init home host) es) := by
  intro s
  have hinit : Inv (Sys.init home host : Sys U Ctx H α) := inv_init home host
  have hs : Inv s := inv_of_legal (fun _ _ h hok => h.step hok) hinit hl
  have hiff := hinit.run_iff hl
  have hwire : ∀ m ∈ (Sys.init home host : Sys U Ctx H α).wire, m.Genuine Ctx H α := nofun
  exact ⟨hs.distinct, hiff.trans (and_iff_right hwire)⟩

end

/-! ### One dictionary for two sends -/

/-- What is sent with the dictionary `0`. -/
def castOf : Args := [.target (.ok .none) (.ok .none), .dict 0, .val .none]

/-- Unit 0 sends, and its message is copied. -/
def alone : List (Event ℕ BareContext Unit Unit) :=
  [.store 0 [[]] (), .send 0 false none castOf [], .copy 0]

/-- Unit 1 sends with the same dictionary before the message of unit 0 is copied. -/
def twoAtOnce : List (Event ℕ BareContext Unit Unit) :=
  [.store 0 [[]] (), .send 0 false none castOf [], .send 1 false none castOf [], .copy 0]

lemma ok_alone : Legal Ok step (Sys.init (fun _ => empty) fun _ => ()) alone := by
  refine ⟨⟨Nat.zero_le _, fun _ h => absurd h (Nat.not_lt_zero _)⟩, ⟨0, rfl, by decide⟩, trivial,
    trivial⟩

lemma ok_twoAtOnce : Legal Ok step (Sys.init (fun _ => empty) fun _ => ()) twoAtOnce := by
  refine ⟨⟨Nat.zero_le _, fun _ h => absurd h (Nat.not_lt_zero _)⟩, ⟨0, rfl, by decide⟩,
    ⟨0, rfl, by decide⟩, trivial, trivial⟩

theorem own_context_alone :
    let s := run step (Sys.init (fun _ => empty) fun _ => ()) alone
    s.wire.length = 1 ∧ ∀ m ∈ s.wire, m.Genuine BareContext Unit Unit := by
  refine ⟨rfl, (own_context_iff (fun _ => empty) (fun _ => ()) ok_alone).2.mpr ?_⟩
  refine ⟨trivial, trivial, ?_, trivial⟩
  intro f hf span hspan
  obtain rfl := Option.some.inj hf
  obtain rfl : (⟨1, 1⟩ : SpanContext) = span := Option.some.inj hspan
  exact ⟨0, [], [], rfl, rfl, nofun⟩

/-- The message of one send carries the context of the other. -/
theorem sends_swap_context :
    ∃ es : List (Event ℕ BareContext Unit Unit),
      Legal Ok step (Sys.init (fun _ => empty) fun _ => ()) es ∧
      ¬ ∀ m ∈ (run step (Sys.init (fun _ => empty) fun _ => ()) es).wire,
        ∀ span, m.span = some span → Carries BareContext m.ctxt span := by
  refine ⟨twoAtOnce, ok_twoAtOnce, ?_⟩
  intro h
  have hwire : (run step (Sys.init (fun _ => empty) fun _ => ()) twoAtOnce).wire =
      [⟨some ⟨1, 1⟩, [("traceparent", .str (traceparent ⟨2, 2⟩))]⟩] := rfl
  rw [hwire] at h
  have hcarries := h _ (List.mem_singleton.mpr rfl) ⟨1, 1⟩ rfl
  have hother : Carries BareContext [("traceparent", .str (traceparent ⟨2, 2⟩))] ⟨2, 2⟩ :=
    ⟨_, rfl, readsBack_traceparent (by decide)⟩
  exact absurd (hcarries.unique hother) (by decide)

end OtelOpenstack.SharedSends
