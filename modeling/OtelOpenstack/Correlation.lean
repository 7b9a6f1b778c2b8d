import OtelOpenstack.RecordFactory
import OtelOpenstack.Traces

/-!
Log records and the traces they are made in.

Workers call one another by requests and messages, and each has a record factory of its own. What
a record is stamped with is compared with the operation its worker was inside of.
-/

set_option autoImplicit false

namespace OtelOpenstack.Correlation

open Effects Python Otel ContextApi Carriers TraceContext RecordFactory Causes
open Http (Reading)
open Traces (Op Sys Inv Nested)
open Runs (run run_snoc Legal inv_of_legal getElem?_append_of_some)

/-! ### Records of one factory -/

section

variable {R : Type} (sampled : SpanContext → Bool)

/-- The ids of the span are on the record; without a span it has none. -/
def Stamped (span : SpanContext) (record : LogRecord R) : Prop :=
  if span = invalidSpan then
    record.otelSpanID = "0" ∧ record.otelTraceID = "0" ∧ record.otelTraceSampled = false
  else
    record.otelSpanID = String.ofList (toHex 16 span.spanId) ∧
      record.otelTraceID = String.ofList (toHex 32 span.traceId) ∧
      record.otelTraceSampled = sampled span

/-- A hook that leaves the ids on the record as they are. -/
def KeepsIds (hook : Option (LogHook R)) : Prop :=
  ∀ f, hook = some f → ∀ span record, (f span record).1.otelSpanID = record.otelSpanID ∧
    (f span record).1.otelTraceID = record.otelTraceID ∧
    (f span record).1.otelTraceSampled = record.otelTraceSampled

variable {sampled}

lemma callHook_stamped {hook : Option (LogHook R)} (hhook : KeepsIds hook) {span : SpanContext}
    {record made : LogRecord R} (hrecord : Stamped sampled span record)
    (hmade : callHook hook span record = .ok made) : Stamped sampled span made := by
  unfold callHook at hmade
  cases hook with
  | none =>
    obtain rfl := Except.ok.inj hmade
    exact hrecord
  | some f =>
    obtain ⟨hspan, htrace, hsampled⟩ := hhook f rfl span record
    dsimp only at hmade
    rcases hf : f span record with ⟨changed, e⟩
    rw [hf] at hmade hspan htrace hsampled
    have hchanged : changed = made := by
      cases e with
      | none => exact Except.ok.inj hmade
      | some e =>
        dsimp only at hmade
        split at hmade
        · exact Except.ok.inj hmade
        · exact absurd hmade nofun
    subst hchanged
    unfold Stamped at hrecord ⊢
    rw [hspan, htrace, hsampled]
    exact hrecord

/-- What the factory makes is stamped with the span that is current. -/
lemma recordFactory_stamped {resolve : Eff Exn RecordFactory.State Val}
    {hook : Option (LogHook R)} (hhook : KeepsIds hook) {base : Except Exn R} {span : SpanContext}
    {s : RecordFactory.State} {record : LogRecord R}
    (h : (recordFactory sampled resolve hook base span s).1 = .ok record) :
    Stamped sampled span record := by
  cases base with
  | error e => exact absurd h nofun
  | ok base =>
    rcases hname : resolve s with ⟨name, s'⟩
    rw [recordFactory_ok sampled hname] at h
    obtain ⟨name, -, h⟩ := of_bind_ok h
    by_cases hspan : span = invalidSpan
    · rw [if_pos hspan] at h
      obtain rfl := Except.ok.inj h
      unfold Stamped
      rw [if_pos hspan]
      exact ⟨rfl, rfl, rfl⟩
    · rw [if_neg hspan] at h
      refine callHook_stamped hhook ?_ h
      unfold Stamped
      rw [if_neg hspan]
      exact ⟨rfl, rfl, rfl⟩

end

/-! ### Workers that log -/

/-- A record, who made it, and the operation that worker was inside of. -/
structure Entry (U R : Type) where
  worker : U
  op : Option ℕ
  record : Except Exn (LogRecord R)

structure Logging (U Ctx H α R : Type) where
  sys : Sys U Ctx H α
  factories : U → RecordFactory.State
  entries : List (Entry U R)

/-- A worker takes a step, something about its provider changes, or it makes a record. -/
inductive Event (U Ctx H α R : Type)
  | trace (e : Traces.Event U Ctx H α)
  | provide (u : U) (p : Provider)
  | log (u : U) (base : Except Exn R)

section

variable {U Ctx H α R : Type} [DecidableEq U] [Propagator Ctx]

variable (r : Reading α) (sampled : SpanContext → Bool) (hook : U → Option (LogHook R))

def step (s : Logging U Ctx H α R) : Event U Ctx H α R → Logging U Ctx H α R
  | .trace e => { s with sys := Traces.step r s.sys e }
  | .provide u p =>
    { s with factories := Function.update s.factories u { s.factories u with provider := p } }
  | .log u base =>
    let made := recordFactory sampled resolveServiceName (hook u) base
      (spanIn (s.sys.workers u).current) (s.factories u)
    { s with
      factories := Function.update s.factories u made.2
      entries := s.entries ++ [⟨u, s.sys.caller u, made.1⟩] }

def Ok (s : Logging U Ctx H α R) : Event U Ctx H α R → Prop
  | .trace e => Traces.Ok s.sys e
  | _ => True

omit [DecidableEq U] in
/-- No service is configured, and no record was made. -/
def Logging.init (home : U → Ctx) (host : U → H) : Logging U Ctx H α R :=
  ⟨Sys.init home host, fun _ => ⟨unconfigured, .none⟩, []⟩

/-- The record has the ids of the operation's span, or of the span that was current in the
worker's own context. -/
def Entry.Correlated (ops : List Op) (home : U → Ctx) (entry : Entry U R) : Prop :=
  ∀ record, entry.record = .ok record →
    match entry.op with
    | some i => ∃ op, ops[i]? = some op ∧ Stamped sampled op.span record
    | none => Stamped sampled (spanIn (home entry.worker)) record

variable {r sampled hook}

omit [DecidableEq U] in
lemma Entry.Correlated.append {ops : List Op} {home : U → Ctx} {entry : Entry U R}
    (h : entry.Correlated sampled ops home) (more : List Op) :
    entry.Correlated sampled (ops ++ more) home := by
  intro record hrecord
  have hstamped := h record hrecord
  split at hstamped
  case h_1 i hop =>
    obtain ⟨op, hi, hspan⟩ := hstamped
    exact ⟨op, getElem?_append_of_some hi more, hspan⟩
  case h_2 hop => exact hstamped

/-- Operations are added, and none is taken away. -/
lemma ops_enter {ι : Type} (s : Sys U Ctx H α) (u : U) (cause : Option ℕ)
    (sends : List Dict → ι → Option (Wires.Hop × Dict)) (m : Openings.Wrapping Ctx H ι α) :
    s.ops <+: (s.enter u cause sends m).ops := by
  unfold Sys.enter
  split <;> exact List.prefix_append _ _

lemma ops_step (s : Sys U Ctx H α) (e : Traces.Event U Ctx H α) :
    s.ops <+: (Traces.step r s e).ops := by
  cases e with
  | dispatch u style source args kwargs => cases style <;> exact ops_enter ..
  | transmit u => exact List.prefix_refl _
  | store u dicts host => exact List.prefix_refl _
  | leave u result =>
    simp only [Traces.step]
    split
    · exact List.prefix_refl _
    · exact List.prefix_append _ _
  | _ => exact ops_enter ..

omit [DecidableEq U] in
/-- What is current while a worker is inside an operation, and what is while it is in none. -/
lemma stamped_caller {home : U → Ctx} {s : Sys U Ctx H α} (h : Inv home s) (u : U)
    {record : LogRecord R}
    (hrecord : Stamped sampled (spanIn (s.workers u).current) record) :
    match s.caller u with
    | some i => ∃ op, s.ops[i]? = some op ∧ Stamped sampled op.span record
    | none => Stamped sampled (spanIn (home u)) record := by
  have hnested := h.nested u
  unfold Sys.caller
  cases hfs : (s.workers u).frames with
  | nil =>
    rw [hfs] at hnested
    have hcurrent : (s.workers u).current = home u := hnested
    rw [hcurrent] at hrecord
    exact hrecord
  | cons f fs =>
    rw [hfs] at hnested
    obtain ⟨⟨op, hop⟩, -⟩ := hnested
    rw [hop.current] at hrecord
    exact ⟨op, hop.listed, hrecord⟩

/-- The workers are as they should be, and so are the records made so far. -/
structure Kept (sampled : SpanContext → Bool) (home : U → Ctx) (s : Logging U Ctx H α R) :
    Prop where
  sys : Inv home s.sys
  entries : ∀ entry ∈ s.entries, entry.Correlated sampled s.sys.ops home

variable [Faithful Ctx]

lemma Kept.step {home : U → Ctx} (hhome : ∀ u, enabled (home u) = true)
    (hhook : ∀ u, KeepsIds (hook u)) {s : Logging U Ctx H α R} (h : Kept sampled home s)
    {e : Event U Ctx H α R} (hok : Ok s e) : Kept sampled home (step r sampled hook s e) := by
  cases e with
  | trace e =>
    refine ⟨h.sys.step hhome hok, fun entry hentry => ?_⟩
    obtain ⟨more, hmore⟩ := ops_step (r := r) s.sys e
    change entry.Correlated sampled (Traces.step r s.sys e).ops home
    rw [← hmore]
    exact (h.entries entry hentry).append more
  | provide u p => exact ⟨h.sys, h.entries⟩
  | log u base =>
    refine ⟨h.sys, fun entry hentry => ?_⟩
    rcases List.mem_append.mp hentry with hold | hnew
    · exact h.entries entry hold
    · obtain rfl := List.mem_singleton.mp hnew
      intro record hrecord
      exact stamped_caller h.sys u (recordFactory_stamped (hhook u) hrecord)

/-- **Records join their traces.** In every run, a record made inside an operation has on it the
trace id of the root of that operation's tree and the span id of the operation itself, on whatever
worker and whatever has happened since; and a record made outside has those of the span its worker
started with, if any. -/
theorem records_join_traces (r : Reading α) {home : U → Ctx}
    (hhome : ∀ u, enabled (home u) = true) (host : U → H) (hhook : ∀ u, KeepsIds (hook u))
    {es : List (Event U Ctx H α R)}
    (hl : Legal Ok (step r sampled hook) (Logging.init home host) es) :
    let s := run (step r sampled hook) (Logging.init home host) es
    ∀ entry ∈ s.entries, ∀ record, entry.record = .ok record →
      (∀ i, entry.op = some i → ∃ op root j, s.sys.ops[i]? = some op ∧
        RootOf Op.cause s.sys.ops j i ∧ s.sys.ops[j]? = some root ∧
        record.otelTraceID = String.ofList (toHex 32 root.span.traceId) ∧
        record.otelSpanID = String.ofList (toHex 16 op.span.spanId)) ∧
      (entry.op = none → Stamped sampled (spanIn (home entry.worker)) record) := by
  intro s entry hentry record hrecord
  have hinit : Kept sampled home (Logging.init home host : Logging U Ctx H α R) :=
    ⟨Inv.init home host, fun _ h => absurd h List.not_mem_nil⟩
  have h : Kept sampled home s :=
    inv_of_legal (fun _ _ h hok => h.step hhome hhook hok) hinit hl
  have hstamped := h.entries entry hentry record hrecord
  refine ⟨fun i hi => ?_, fun hnone => ?_⟩
  · rw [hi] at hstamped
    obtain ⟨op, hop, hspan⟩ := hstamped
    have hvalid := (h.sys.linked i op hop).valid
    have hne : op.span ≠ invalidSpan := by
      intro hinvalid
      rw [hinvalid] at hvalid
      exact absurd hvalid (by decide)
    unfold Stamped at hspan
    rw [if_neg hne] at hspan
    obtain ⟨hspanId, htraceId, -⟩ := hspan
    have hlt : i < s.sys.ops.length := (List.getElem?_eq_some_iff.mp hop).1
    obtain ⟨j, hroot⟩ := exists_rootOf h.sys.founded hlt
    obtain ⟨root, hj, -⟩ := hroot.1
    rw [h.sys.trace_of_root hroot hop hj] at htraceId
    exact ⟨op, root, j, hop, hroot, hj, htraceId, hspanId⟩
  · rw [hnone] at hstamped
    exact hstamped

omit [Faithful Ctx] in
/-- Where nothing is logged a run is one of the workers. -/
lemma legal_trace {s : Logging U Ctx H α R} {es : List (Traces.Event U Ctx H α)}
    (h : Legal Traces.Ok (Traces.step r) s.sys es) :
    Legal Ok (step r sampled hook) s (es.map .trace) := by
  induction es generalizing s with
  | nil => trivial
  | cons e es ih => exact ⟨h.1, ih h.2⟩

end

/-- Worker 0 makes a request, worker 1 serves it and casts a message, worker 2 dispatches it, and
the handler logs. -/
def handlerLogs : List (Event ℕ BareContext Unit Unit Unit) :=
  Traces.requestAndCast.map .trace ++ [.log 2 (.ok ())]

theorem records_join_traces_handler :
    let s := run (step Traces.blind (fun _ => true) fun _ => none)
      (Logging.init (fun _ => empty) fun _ => ()) handlerLogs
    (s.entries.map Entry.op = [some 4]) ∧
      ∀ entry ∈ s.entries, ∀ record, entry.record = .ok record → ∀ i, entry.op = some i →
        ∃ op root j, s.sys.ops[i]? = some op ∧ RootOf Op.cause s.sys.ops j i ∧
          s.sys.ops[j]? = some root ∧
          record.otelTraceID = String.ofList (toHex 32 root.span.traceId) ∧
          record.otelSpanID = String.ofList (toHex 16 op.span.spanId) := by
  intro s
  have hlegal : Legal Ok (step Traces.blind (fun _ => true) fun _ => none)
      (Logging.init (fun _ => empty) fun _ => ()) handlerLogs :=
    (Runs.legal_append ..).mpr ⟨legal_trace Traces.ok_requestAndCast, trivial, trivial⟩
  have hnone : KeepsIds (none : Option (LogHook Unit)) := fun _ h => absurd h nofun
  have hjoin :=
    records_join_traces Traces.blind (fun _ => rfl) (fun _ => ()) (fun _ => hnone) hlegal
  exact ⟨by decide, fun entry hentry record hrecord => (hjoin entry hentry record hrecord).1⟩

end OtelOpenstack.Correlation
