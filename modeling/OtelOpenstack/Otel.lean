import OtelOpenstack.Effects
import OtelOpenstack.Python

/-!
What the instrumentation uses of OpenTelemetry: contexts, the current context of an execution
unit, and spans.

Contexts are a parameter, `ContextApi`, with what is documented of them as its laws. The
current context is a context variable: attaching returns a token that remembers the context
replaced, and detaching puts back the one its token remembers, whatever happened in between.
Spans are known by their span contexts, and the calls made on them are recorded as they are
made; the ids of a new span are fresh.
-/

set_option autoImplicit false

namespace OtelOpenstack.Otel

open Effects Python

structure SpanContext where
  traceId : ℕ
  spanId : ℕ
  deriving DecidableEq

def SpanContext.isValid (s : SpanContext) : Bool := s.traceId != 0 && s.spanId != 0

def invalidSpan : SpanContext := ⟨0, 0⟩

inductive SpanKind | internal | server | client | producer | consumer
  deriving DecidableEq

inductive StatusCode | unset | ok | error
  deriving DecidableEq

/-- `opentelemetry.context` and the span stored in a context. -/
class ContextApi (Ctx : Type) where
  /-- `Context()`, which every execution unit starts with -/
  empty : Ctx
  /-- `get_current_span(context).get_span_context()` -/
  spanIn : Ctx → SpanContext
  /-- `set_span_in_context(span, context)` -/
  setSpan : SpanContext → Ctx → Ctx
  /-- `is_instrumentation_enabled()` when the context is current -/
  enabled : Ctx → Bool
  /-- `span.is_recording()` of a span not ended yet -/
  isRecording : SpanContext → Bool
  spanIn_setSpan : ∀ s c, spanIn (setSpan s c) = s
  spanIn_empty : spanIn empty = invalidSpan
  enabled_setSpan : ∀ s c, enabled (setSpan s c) = enabled c
  enabled_empty : enabled empty = true

attribute [simp] ContextApi.spanIn_setSpan ContextApi.spanIn_empty ContextApi.enabled_setSpan
  ContextApi.enabled_empty

open ContextApi

/-- A context with nothing else in it: a span, and whether instrumentation is suppressed. -/
structure BareContext where
  span : SpanContext
  suppressed : Bool
  deriving DecidableEq

instance : ContextApi BareContext where
  empty := ⟨invalidSpan, false⟩
  spanIn := BareContext.span
  setSpan span c := { c with span }
  enabled c := !c.suppressed
  isRecording := SpanContext.isValid
  spanIn_setSpan _ _ := rfl
  spanIn_empty := rfl
  enabled_setSpan _ _ := rfl
  enabled_empty := rfl

/-- A call on the tracer or on a span. -/
inductive Call
  | start (span parent : SpanContext) (name : String) (kind : SpanKind) (attributes : Dict)
  | setAttribute (span : SpanContext) (key : String) (value : Val)
  | setStatus (span : SpanContext) (code : StatusCode) (description : Option String)
  | recordException (span : SpanContext) (e : Exn)
  | finish (span : SpanContext)
  deriving DecidableEq

/-- The span a call starts. -/
def Call.started : Call → Option SpanContext
  | .start span _ _ _ _ => some span
  | _ => none

/-- The span a call ends. -/
def Call.finished : Call → Option SpanContext
  | .finish span => some span
  | _ => none

def startedSpans (calls : List Call) : List SpanContext := calls.filterMap Call.started

def finishedSpans (calls : List Call) : List SpanContext := calls.filterMap Call.finished

/-- The span a call is about. -/
def Call.span : Call → SpanContext
  | .start span _ _ _ _ => span
  | .setAttribute span _ _ => span
  | .setStatus span _ _ => span
  | .recordException span _ => span
  | .finish span => span

/-- `Span.set_status`: `ok` stays, and `unset` changes nothing. -/
def StatusCode.set : StatusCode → StatusCode → StatusCode
  | .ok, _ => .ok
  | code, .unset => code
  | _, code => code

/-- The status of a span after more calls; a span that has ended keeps its own. -/
def statusFrom (span : SpanContext) : StatusCode → List Call → StatusCode
  | code, [] => code
  | code, .setStatus s new _ :: cs =>
    statusFrom span (if s = span then code.set new else code) cs
  | code, .finish s :: cs => if s = span then code else statusFrom span code cs
  | code, _ :: cs => statusFrom span code cs

def statusOf (calls : List Call) (span : SpanContext) : StatusCode :=
  statusFrom span .unset calls

/-- The span context of the next span, given its parent: a valid parent hands on its trace. -/
def newSpan (calls : List Call) (parent : SpanContext) : SpanContext where
  traceId := if parent.isValid then parent.traceId else (startedSpans calls).length + 1
  spanId := (startedSpans calls).length + 1

/-- What one execution unit sees: its current context, the calls made so far, the
dictionaries that exist, by reference, and the host program. -/
structure World (Ctx H : Type) where
  current : Ctx
  calls : List Call
  dicts : List Dict
  host : H

/-- The token of an `attach`. -/
structure Token (Ctx : Type) where
  old : Ctx

/-- A step of a wrapper outside the wrapper's own code that may raise. -/
inductive Step
  | startSpan | setAttribute (key : String) | setStatus | recordException | endSpan
  | isRecording | inject | extract
  | other (what : String)
  deriving DecidableEq

/-- Which steps raise, and what. -/
abbrev Faults := Step → Option Exn

def noFaults : Faults := fun _ => none

section Api

variable {Ctx H : Type} {α : Type}

/-- A computation of an execution unit. -/
abbrev Code (Ctx H : Type) : Type → Type := Eff Exn (World Ctx H)

def mayRaise (F : Faults) (s : Step) : Code Ctx H Unit :=
  match F s with
  | none => pure ()
  | some e => raise e

def getCurrent : Code Ctx H Ctx := reads World.current

def attach (c : Ctx) : Code Ctx H (Token Ctx) :=
  fun w => (.ok ⟨w.current⟩, { w with current := c })

def detach (t : Token Ctx) : Code Ctx H Unit := modifies fun w => { w with current := t.old }

def record (c : Call) : Code Ctx H Unit := modifies fun w => { w with calls := w.calls ++ [c] }

def setAttribute (F : Faults) (span : SpanContext) (key : String) (value : Val) :
    Code Ctx H Unit := do
  mayRaise F (.setAttribute key)
  record (.setAttribute span key value)

def setStatus (F : Faults) (span : SpanContext) (code : StatusCode)
    (description : Option String) : Code Ctx H Unit := do
  mayRaise F .setStatus
  record (.setStatus span code description)

def recordException (F : Faults) (span : SpanContext) (e : Exn) : Code Ctx H Unit := do
  mayRaise F .recordException
  record (.recordException span e)

def endSpan (F : Faults) (span : SpanContext) : Code Ctx H Unit := do
  mayRaise F .endSpan
  record (.finish span)

variable [ContextApi Ctx]

/-- `tracer.start_span`; without a context the parent is the span that is current. -/
def startSpan (F : Faults) (name : String) (kind : SpanKind) (context : Option Ctx)
    (attributes : Dict) : Code Ctx H SpanContext := do
  mayRaise F .startSpan
  fun w =>
    let parent := spanIn (context.getD w.current)
    let span := newSpan w.calls parent
    (.ok span, { w with calls := w.calls ++ [.start span parent name kind attributes] })

/-- The description of the status `use_span` sets. Like every other call of OpenTelemetry it is
taken to get by with an exception that has no text. -/
def described (e : Exn) : String :=
  match e.str with
  | .ok text => s!"{e.cls.name}: {text}"
  | .error _ => e.cls.name

/-- `trace.use_span(span, end_on_exit=True)`. -/
def useSpan (F : Faults) (span : SpanContext) (body : Code Ctx H α) : Code Ctx H α :=
  tryFinally
    (tryExcept
      (do
        let c ← getCurrent
        let token ← attach (setSpan span c)
        tryFinally body (detach token))
      fun e => do
        if e.isException && isRecording Ctx span then
          recordException F span e
          setStatus F span .error (some (described e))
        raise e)
    (endSpan F span)

end Api

/-! ### The calls when nothing raises -/

section NoFaults

variable {Ctx H : Type}

@[simp] lemma getCurrent_apply (w : World Ctx H) : getCurrent w = (.ok w.current, w) := rfl

@[simp] lemma attach_apply (c : Ctx) (w : World Ctx H) :
    attach c w = (.ok ⟨w.current⟩, { w with current := c }) := rfl

@[simp] lemma detach_apply (t : Token Ctx) (w : World Ctx H) :
    detach t w = (.ok (), { w with current := t.old }) := rfl

@[simp] lemma mayRaise_noFaults (s : Step) (w : World Ctx H) :
    mayRaise noFaults s w = (.ok (), w) := rfl

/-- The world after more calls. -/
def World.called (w : World Ctx H) (cs : List Call) : World Ctx H :=
  { w with calls := w.calls ++ cs }

lemma World.called_called (w : World Ctx H) (cs ds : List Call) :
    (w.called cs).called ds = w.called (cs ++ ds) := by
  simp [World.called]

@[simp] lemma setAttribute_noFaults (span : SpanContext) (key : String) (value : Val)
    (w : World Ctx H) :
    setAttribute noFaults span key value w =
      (.ok (), w.called [.setAttribute span key value]) := rfl

@[simp] lemma setStatus_noFaults (span : SpanContext) (code : StatusCode)
    (description : Option String) (w : World Ctx H) :
    setStatus noFaults span code description w =
      (.ok (), w.called [.setStatus span code description]) := rfl

@[simp] lemma recordException_noFaults (span : SpanContext) (e : Exn) (w : World Ctx H) :
    recordException noFaults span e w = (.ok (), w.called [.recordException span e]) := rfl

@[simp] lemma endSpan_noFaults (span : SpanContext) (w : World Ctx H) :
    endSpan noFaults span w = (.ok (), w.called [.finish span]) := rfl

@[simp] lemma startSpan_noFaults [ContextApi Ctx] (name : String) (kind : SpanKind)
    (context : Option Ctx) (attributes : Dict) (w : World Ctx H) :
    startSpan noFaults name kind context attributes w =
      (.ok (newSpan w.calls (spanIn (context.getD w.current))),
        w.called [.start (newSpan w.calls (spanIn (context.getD w.current)))
          (spanIn (context.getD w.current)) name kind attributes]) := rfl

section

variable [ContextApi Ctx] {α : Type}

/-- The calls at the end of `use_span`, when its body came out with `r`. -/
def closing (Ctx : Type) [ContextApi Ctx] (span : SpanContext) (r : Except Exn α) : List Call :=
  match r with
  | .ok _ => [.finish span]
  | .error e =>
    if e.isException && isRecording Ctx span then
      [.recordException span e, .setStatus span .error (some (described e)),
        .finish span]
    else [.finish span]

lemma useSpan_noFaults (span : SpanContext) (body : Code Ctx H α) (w : World Ctx H) :
    useSpan noFaults span body w =
      ((body { w with current := setSpan span w.current }).1,
        ({ (body { w with current := setSpan span w.current }).2 with
          current := w.current }).called
            (closing Ctx span (body { w with current := setSpan span w.current }).1)) := by
  unfold useSpan
  simp only [Effects.tryFinally, tryExcept, bind_apply, getCurrent_apply, attach_apply,
    detach_apply]
  rcases body { w with current := setSpan span w.current } with ⟨e | a, v⟩
  · by_cases h : (e.isException && isRecording Ctx span) = true
    · simp [closing, h, bind_apply, World.called]
    · simp [closing, h]
  · rfl

/-- The guard every wrapper begins with, when instrumentation is on. -/
lemma guard_on {what : String} {off on : Code Ctx H α} {w : World Ctx H}
    (h : enabled w.current = true) :
    (do
      mayRaise noFaults (.other what)
      let c ← getCurrent
      if !enabled c then off else on) w = on w := by
  rw [bind_of_ok (mayRaise_noFaults _ w), bind_of_ok (getCurrent_apply w), h]
  rfl

lemma guard_off {what : String} {off on : Code Ctx H α} {w : World Ctx H}
    (h : enabled w.current = false) :
    (do
      mayRaise noFaults (.other what)
      let c ← getCurrent
      if !enabled c then off else on) w = off w := by
  rw [bind_of_ok (mayRaise_noFaults _ w), bind_of_ok (getCurrent_apply w), h]
  rfl

end

end NoFaults

/-! ### Started and ended spans -/

@[simp] lemma startedSpans_append (cs ds : List Call) :
    startedSpans (cs ++ ds) = startedSpans cs ++ startedSpans ds := by
  simp [startedSpans]

@[simp] lemma finishedSpans_append (cs ds : List Call) :
    finishedSpans (cs ++ ds) = finishedSpans cs ++ finishedSpans ds := by
  simp [finishedSpans]

/-- Span ids count up, so the next one is not taken. -/
def Numbered (calls : List Call) : Prop :=
  ∀ s ∈ startedSpans calls, s.spanId ≤ (startedSpans calls).length

lemma numbered_nil : Numbered [] := by simp [Numbered, startedSpans]

lemma newSpan_valid (calls : List Call) (parent : SpanContext) :
    (newSpan calls parent).isValid = true := by
  have htrace : (newSpan calls parent).traceId ≠ 0 := by
    unfold newSpan
    cases h : parent.isValid with
    | false => simp
    | true =>
      have hne : parent.traceId ≠ 0 := fun hzero => by simp [SpanContext.isValid, hzero] at h
      simpa using hne
  have hspan : (newSpan calls parent).spanId ≠ 0 := Nat.succ_ne_zero _
  simp [SpanContext.isValid, htrace, hspan]

/-- A valid parent hands on its trace. -/
lemma newSpan_traceId (calls : List Call) {parent : SpanContext} (h : parent.isValid = true) :
    (newSpan calls parent).traceId = parent.traceId := by
  simp [newSpan, h]

lemma newSpan_fresh {calls : List Call} (h : Numbered calls) (parent : SpanContext) :
    newSpan calls parent ∉ startedSpans calls := by
  intro hm
  have := h _ hm
  simp only [newSpan] at this
  omega

lemma Numbered.start {calls : List Call} (h : Numbered calls) (parent p : SpanContext)
    (name : String) (kind : SpanKind) (attributes : Dict) :
    Numbered (calls ++ [.start (newSpan calls parent) p name kind attributes]) := by
  intro s hs
  have hlen : (startedSpans (calls ++
      [.start (newSpan calls parent) p name kind attributes])).length =
      (startedSpans calls).length + 1 := by
    simp [startedSpans, Call.started]
  rw [hlen]
  rw [startedSpans_append, List.mem_append] at hs
  rcases hs with hs | hs
  · exact Nat.le_succ_of_le (h s hs)
  · have : s = newSpan calls parent := by simpa [startedSpans, Call.started] using hs
    simp [this, newSpan]

lemma Numbered.append {calls : List Call} (h : Numbered calls) {cs : List Call}
    (hcs : startedSpans cs = []) : Numbered (calls ++ cs) := by
  intro s hs
  rw [startedSpans_append, hcs, List.append_nil] at hs ⊢
  exact h s hs

/-- Only spans that were started are called. -/
def Known (calls : List Call) : Prop := ∀ c ∈ calls, c.span ∈ startedSpans calls

lemma known_nil : Known [] := by simp [Known]

lemma Known.append {calls cs : List Call} (h : Known calls)
    (hcs : ∀ c ∈ cs, c.span ∈ startedSpans (calls ++ cs)) : Known (calls ++ cs) := by
  intro c hc
  rcases List.mem_append.mp hc with hc | hc
  · rw [startedSpans_append]
    exact List.mem_append_left _ (h c hc)
  · exact hcs c hc

lemma mem_startedSpans {calls : List Call} {span parent : SpanContext} {name : String}
    {kind : SpanKind} {attributes : Dict} (h : .start span parent name kind attributes ∈ calls) :
    span ∈ startedSpans calls :=
  List.mem_filterMap.mpr ⟨_, h, rfl⟩

/-- The end of `use_span` starts no span, and ends its own. -/
lemma startedSpans_closing {Ctx α : Type} [ContextApi Ctx] (span : SpanContext)
    (r : Except Exn α) : startedSpans (closing Ctx span r) = [] := by
  unfold closing
  cases r with
  | ok a => rfl
  | error e =>
    dsimp only
    split <;> rfl

lemma mem_finishedSpans {calls : List Call} {span : SpanContext} :
    span ∈ finishedSpans calls ↔ .finish span ∈ calls := by
  refine ⟨fun h => ?_, fun h => List.mem_filterMap.mpr ⟨_, h, rfl⟩⟩
  obtain ⟨c, hc, hf⟩ := List.mem_filterMap.mp h
  cases c <;> simp_all [Call.finished]

lemma finish_mem_closing {Ctx α : Type} [ContextApi Ctx] (span : SpanContext)
    (r : Except Exn α) : .finish span ∈ closing Ctx span r := by
  unfold closing
  cases r with
  | ok a => simp
  | error e =>
    dsimp only
    split <;> simp

/-! ### Calls on spans that were started already -/

section

variable {Ctx H α : Type}

/-- Nothing has happened but such calls. -/
def Noted (w v : World Ctx H) : Prop := ∃ cs, startedSpans cs = [] ∧ v = w.called cs

lemma noted_refl (w : World Ctx H) : Noted w w := ⟨[], rfl, by simp [World.called]⟩

lemma noted_trans (u v w : World Ctx H) (h : Noted u v) (h' : Noted v w) : Noted u w := by
  obtain ⟨cs, hcs, rfl⟩ := h
  obtain ⟨ds, hds, rfl⟩ := h'
  refine ⟨cs ++ ds, ?_, World.called_called u cs ds⟩
  rw [startedSpans_append, hcs, hds, List.append_nil]

lemma mayRaise_silent (F : Faults) (s : Step) : Silent (mayRaise F s : Code Ctx H Unit) := by
  unfold mayRaise
  cases F s with
  | none => exact Silent.pure ()
  | some e => exact fun _ => rfl

lemma noted_of_silent {m : Code Ctx H α} (h : Silent m) : Keeps Noted m := by
  intro w
  rw [h w]
  exact noted_refl w

/-- What code comes out with that makes such calls, and the calls. -/
lemma noted_outcome {m : Code Ctx H α} (h : Keeps Noted m) (w : World Ctx H) :
    ∃ r cs, startedSpans cs = [] ∧ m w = (r, w.called cs) := by
  obtain ⟨cs, hcs, hv⟩ := h w
  exact ⟨(m w).1, cs, hcs, Prod.ext rfl hv⟩

lemma record_noted {c : Call} (h : c.started = none) :
    Keeps Noted (record c : Code Ctx H Unit) :=
  fun _ => ⟨[c], by simp [startedSpans, h], rfl⟩

section

variable (F : Faults) (span : SpanContext)

lemma setAttribute_noted (key : String) (value : Val) :
    Keeps Noted (setAttribute F span key value : Code Ctx H Unit) :=
  Keeps.bind noted_trans (noted_of_silent (mayRaise_silent F _)) fun _ => record_noted rfl

end

end

/-! ### Status -/

lemma statusFrom_append_of_ended {span : SpanContext} {cs : List Call} (h : .finish span ∈ cs)
    (code : StatusCode) (ds : List Call) :
    statusFrom span code (cs ++ ds) = statusFrom span code cs := by
  induction cs generalizing code with
  | nil => simp at h
  | cons c cs ih =>
    cases c with
    | finish s =>
      by_cases hs : s = span
      · simp [statusFrom, hs]
      · have hm : .finish span ∈ cs := by simpa [Ne.symm hs] using h
        simp [statusFrom, hs, ih hm]
    | _ =>
      have hm : .finish span ∈ cs := by simpa using h
      simp [statusFrom, ih hm]

lemma statusFrom_append {span : SpanContext} {cs : List Call} (h : .finish span ∉ cs)
    (code : StatusCode) (ds : List Call) :
    statusFrom span code (cs ++ ds) = statusFrom span (statusFrom span code cs) ds := by
  induction cs generalizing code with
  | nil => rfl
  | cons c cs ih =>
    simp only [List.mem_cons, not_or] at h
    cases c with
    | finish s =>
      have hs : s ≠ span := by rintro rfl; exact h.1 rfl
      simp [statusFrom, hs, ih h.2]
    | _ => simp [statusFrom, ih h.2]

/-- Calls about other spans leave a span's status. -/
lemma statusFrom_of_ne {span : SpanContext} {cs : List Call} (h : ∀ c ∈ cs, c.span ≠ span)
    (code : StatusCode) : statusFrom span code cs = code := by
  induction cs generalizing code with
  | nil => rfl
  | cons c cs ih =>
    have hc := h c (List.mem_cons_self ..)
    have hcs := ih fun d hd => h d (List.mem_cons_of_mem _ hd)
    cases c <;> simp_all [statusFrom, Call.span]

/-- A span that has not ended, with no status yet. -/
def Fresh (calls : List Call) (span : SpanContext) : Prop :=
  .finish span ∉ calls ∧ statusOf calls span = .unset

lemma fresh_of_not_started {calls : List Call} {span : SpanContext} (h : Known calls)
    (hs : span ∉ startedSpans calls) : Fresh calls span := by
  have hne : ∀ c ∈ calls, c.span ≠ span := by
    rintro c hc rfl
    exact hs (h c hc)
  exact ⟨fun hm => hne _ hm rfl, statusFrom_of_ne hne _⟩

lemma Fresh.append {calls cs : List Call} {span : SpanContext} (h : Fresh calls span)
    (hcs : ∀ c ∈ cs, c.span ≠ span) : Fresh (calls ++ cs) span := by
  refine ⟨?_, ?_⟩
  · intro hm
    rcases List.mem_append.mp hm with hm | hm
    · exact h.1 hm
    · exact hcs _ hm rfl
  · rw [statusOf, statusFrom_append h.1, statusFrom_of_ne hcs]
    exact h.2

end OtelOpenstack.Otel
