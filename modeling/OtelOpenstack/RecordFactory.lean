import OtelOpenstack.Authentication
import OtelOpenstack.TraceContext

/-!
The log-record factory: records are stamped with the current span and with the service name of a
logger provider, which is looked up once and then remembered.

The provider may not be configured yet when the first records are made, so a run is a sequence of
records and of changes to what can be read of the provider. The factory is compared with one that
looks the name up for each record.
-/

set_option autoImplicit false

namespace OtelOpenstack.RecordFactory

open Effects Python Otel Authentication TraceContext

/-! ### The provider -/

abbrev Get := String → Val → Except Exn Val

def noAttributes : Get := fun _ default => .ok default

/-- A resource, by the `get` of its attributes. -/
structure Resource where
  attributes : Except Exn Get

/-- What can be read of a provider; a missing attribute raises `AttributeError`. -/
structure Provider where
  resource : Except Exn (Option Resource)

/-- `getattr(resource, "attributes", {})`. -/
def attributesOf : Option Resource → Except Exn Get
  | none => .ok noAttributes
  | some resource => getattr resource.attributes noAttributes

def Provider.serviceName (p : Provider) : Except Exn Val := do
  let resource ← getattr p.resource none
  let get ← attributesOf resource
  get "service.name" (.str "")

/-! ### The factory -/

/-- A record; `base` is what the factory before made of it. -/
structure LogRecord (R : Type) where
  base : R
  otelServiceName : Val
  otelSpanID : String
  otelTraceID : String
  otelTraceSampled : Bool

/-- A hook may change the record, and raise. -/
abbrev LogHook (R : Type) := SpanContext → LogRecord R → LogRecord R × Option Exn

/-- What the factory sees: the provider, and `service_name`. -/
structure State where
  provider : Provider
  serviceName : Val

def resolveServiceName : Eff Exn State Val := do
  let known ← reads State.serviceName
  if known = .none then do
    let provider ← reads State.provider
    let name ← liftExcept provider.serviceName
    modifies fun s => { s with serviceName := name }
    pure name
  else pure known

def lookUp : Eff Exn State Val := do
  let provider ← reads State.provider
  liftExcept provider.serviceName

section

variable {R : Type} (sampled : SpanContext → Bool)

def LogRecord.inSpan (record : LogRecord R) (span : SpanContext) : LogRecord R :=
  { record with
    otelSpanID := String.ofList (toHex 16 span.spanId)
    otelTraceID := String.ofList (toHex 32 span.traceId)
    otelTraceSampled := sampled span }

/-- `log_hook(span, record)`, an `Exception` of which is dropped. -/
def callHook (hook : Option (LogHook R)) (span : SpanContext) (record : LogRecord R) :
    Except Exn (LogRecord R) :=
  match hook with
  | none => .ok record
  | some hook => match hook span record with
    | (record, none) => .ok record
    | (record, some e) => if e.isException then .ok record else .error e

/-- `record_factory`, given how the service name is resolved; `base` comes from the factory
before. -/
def recordFactory (resolve : Eff Exn State Val) (hook : Option (LogHook R))
    (base : Except Exn R) (span : SpanContext) : Eff Exn State (LogRecord R) := do
  let base ← liftExcept base
  let name ← resolve
  let record : LogRecord R := ⟨base, name, "0", "0", false⟩
  if span = invalidSpan then pure record
  else liftExcept (callHook hook span (record.inSpan sampled span))

/-! ### Runs -/

/-- Something about the provider changes, or a record is created while a span is current. -/
inductive Event (R : Type)
  | provide (p : Provider)
  | log (base : Except Exn R) (span : SpanContext)

def logged (resolve : Eff Exn State Val) (hook : Option (LogHook R)) :
    State → List (Event R) → List (Except Exn (LogRecord R))
  | _, [] => []
  | s, .provide p :: es => logged resolve hook { s with provider := p } es
  | s, .log base span :: es =>
    let (record, s') := recordFactory sampled resolve hook base span s
    record :: logged resolve hook s' es

/-- The service names to be found, record by record. -/
def readings : Provider → List (Event R) → List (Except Exn Val)
  | _, [] => []
  | _, .provide p :: es => readings p es
  | p, .log (.ok _) _ :: es => p.serviceName :: readings p es
  | p, .log (.error _) _ :: es => readings p es

/-- Once there is a name to be found, it is the one found from then on. A look-up that raises or
finds `None` does not count: the next record looks again. -/
def Steady (names : List (Except Exn Val)) : Prop :=
  names.Pairwise fun name later => ∀ v, name = .ok v → v ≠ .none → later = .ok v

/-! ### One record -/

def stamped (hook : Option (LogHook R)) (base : R) (span : SpanContext)
    (name : Except Exn Val) : Except Exn (LogRecord R) := do
  let name ← name
  let record : LogRecord R := ⟨base, name, "0", "0", false⟩
  if span = invalidSpan then pure record
  else callHook hook span (record.inSpan sampled span)

lemma recordFactory_ok {resolve : Eff Exn State Val} {s s' : State} {name : Except Exn Val}
    (h : resolve s = (name, s')) (hook : Option (LogHook R)) (base : R) (span : SpanContext) :
    recordFactory sampled resolve hook (.ok base) span s =
      (stamped sampled hook base span name, s') := by
  unfold recordFactory stamped
  rw [bind_of_ok (liftExcept_apply _ s)]
  cases name with
  | error e => rw [bind_of_error h]; rfl
  | ok name =>
    rw [bind_of_ok h]
    by_cases hspan : span = invalidSpan
    · simp only [if_pos hspan]; rfl
    · simp only [if_neg hspan]; rfl

lemma stamped_name (base : R) (span : SpanContext) (name : Except Exn Val) :
    (stamped sampled none base span name).map LogRecord.otelServiceName = name := by
  unfold stamped
  cases name with
  | error e => rfl
  | ok name => by_cases h : span = invalidSpan <;> simp [h, callHook, LogRecord.inSpan] <;> rfl

lemma lookUp_apply (s : State) : lookUp s = (s.provider.serviceName, s) := rfl

lemma resolveServiceName_of_known {s : State} (h : s.serviceName ≠ .none) :
    resolveServiceName s = (.ok s.serviceName, s) := by
  unfold resolveServiceName
  rw [bind_of_ok (reads_apply _ s), if_neg h]
  rfl

lemma resolveServiceName_of_error {p : Provider} {e : Exn} (h : p.serviceName = .error e) :
    resolveServiceName ⟨p, .none⟩ = (.error e, ⟨p, .none⟩) := by
  unfold resolveServiceName
  rw [bind_of_ok (reads_apply _ _), if_pos rfl, bind_of_ok (reads_apply _ _), h]
  rfl

lemma resolveServiceName_of_ok {p : Provider} {name : Val} (h : p.serviceName = .ok name) :
    resolveServiceName ⟨p, .none⟩ = (.ok name, ⟨p, name⟩) := by
  unfold resolveServiceName
  rw [bind_of_ok (reads_apply _ _), if_pos rfl, bind_of_ok (reads_apply _ _), h]
  rfl

/-! ### Runs of the two factories -/

/-- From a state with a name or without one, every record is what it would be if the name were
looked up for it. -/
def AsLookedUp (s t : State) (es : List (Event R)) : Prop :=
  ∀ hook, logged sampled resolveServiceName hook s es = logged sampled lookUp hook t es

lemma asLookedUp_cons {s s' t : State} {name : Except Exn Val}
    (h : resolveServiceName s = (name, s')) (base : R) (span : SpanContext)
    (es : List (Event R)) :
    AsLookedUp sampled s t (.log (.ok base) span :: es) ↔
      t.provider.serviceName = name ∧ AsLookedUp sampled s' t es := by
  have hrun (hook : Option (LogHook R)) :
      logged sampled resolveServiceName hook s (.log (.ok base) span :: es) =
          stamped sampled hook base span name :: logged sampled resolveServiceName hook s' es ∧
        logged sampled lookUp hook t (.log (.ok base) span :: es) =
          stamped sampled hook base span t.provider.serviceName ::
            logged sampled lookUp hook t es := by
    simp only [logged, recordFactory_ok sampled h, recordFactory_ok sampled (lookUp_apply t),
      and_self]
  constructor
  · intro hsame
    refine ⟨?_, fun hook => ?_⟩
    · have hnone := hsame none
      rw [(hrun none).1, (hrun none).2] at hnone
      rw [← stamped_name sampled base span t.provider.serviceName,
        ← (List.cons.inj hnone).1, stamped_name]
    · have hhook := hsame hook
      rw [(hrun hook).1, (hrun hook).2] at hhook
      exact (List.cons.inj hhook).2
  · rintro ⟨hname, hrest⟩ hook
    rw [(hrun hook).1, (hrun hook).2, hname, hrest hook]

lemma asLookedUp_raised (s t : State) (e : Exn) (span : SpanContext) (es : List (Event R)) :
    AsLookedUp sampled s t (.log (.error e) span :: es) ↔ AsLookedUp sampled s t es :=
  forall_congr' fun _ => List.cons_inj_right _

/-- A name that is known is what is to be found at every record. -/
lemma asLookedUp_known {name : Val} (hname : name ≠ .none) (p : Provider) (known : Val)
    (es : List (Event R)) :
    AsLookedUp sampled ⟨p, name⟩ ⟨p, known⟩ es ↔ ∀ found ∈ readings p es, found = .ok name := by
  induction es generalizing p with
  | nil => exact iff_of_true (fun _ => rfl) nofun
  | cons event es ih =>
    cases event with
    | provide p' => exact ih p'
    | log base span =>
      cases base with
      | error e => rw [asLookedUp_raised, ih p, readings]
      | ok base =>
        rw [asLookedUp_cons sampled (resolveServiceName_of_known hname), ih p, readings,
          List.forall_mem_cons]

/-- **When remembering the name is looking it up.** For every sequence of records and of changes
to the provider, every record is what it would be if the name were looked up for it exactly when
the first name found other than `None` is found at every later record. -/
theorem as_looked_up_iff (p : Provider) (es : List (Event R)) :
    AsLookedUp sampled ⟨p, .none⟩ ⟨p, .none⟩ es ↔ Steady (readings p es) := by
  induction es generalizing p with
  | nil => exact iff_of_true (fun _ => rfl) List.Pairwise.nil
  | cons event es ih =>
    cases event with
    | provide p' => exact ih p'
    | log base span =>
      cases base with
      | error e => rw [asLookedUp_raised, ih p, readings]
      | ok base =>
        rw [readings, Steady, List.pairwise_cons]
        cases hname : p.serviceName with
        | error e =>
          rw [asLookedUp_cons sampled (resolveServiceName_of_error hname), ih p, hname]
          refine and_congr_left' ?_
          exact iff_of_true rfl fun _ _ _ h => absurd h nofun
        | ok name =>
          rw [asLookedUp_cons sampled (resolveServiceName_of_ok hname), hname]
          by_cases hnone : name = .none
          · subst hnone
            rw [ih p]
            refine and_congr_left' (iff_of_true rfl fun _ _ v h hv => ?_)
            exact absurd (Except.ok.inj h).symm hv
          · rw [asLookedUp_known sampled hnone]
            constructor
            · rintro ⟨-, hfound⟩
              refine ⟨fun later hlater v hv _ => ?_, ?_⟩
              · rw [hfound later hlater, hv]
              · refine List.pairwise_of_forall_mem_list fun found hf later hl v hv _ => ?_
                rw [hfound later hl, ← hv, hfound found hf]
            · rintro ⟨hfound, -⟩
              exact ⟨rfl, fun found hf => hfound found hf name rfl hnone⟩

end

/-! ### A record before there is a name -/

def unconfigured : Provider := ⟨.ok none⟩

def configured : Provider :=
  ⟨.ok (some ⟨.ok fun key default =>
    .ok (if key = "service.name" then .str "nova" else default)⟩)⟩

/-- A record, then the provider is configured, then another record. -/
def early : List (Event Unit) :=
  [.log (.ok ()) invalidSpan, .provide configured, .log (.ok ()) invalidSpan]

theorem early_record_unnames :
    ¬ AsLookedUp (fun _ => false) ⟨unconfigured, .none⟩ ⟨unconfigured, .none⟩ early := by
  intro h
  have hnames := congrArg (List.map (Except.map LogRecord.otelServiceName)) (h none)
  have hcached : (logged (fun _ => false) resolveServiceName none ⟨unconfigured, .none⟩ early).map
      (Except.map LogRecord.otelServiceName) = [.ok (.str ""), .ok (.str "")] := by rfl
  have hfresh : (logged (fun _ => false) lookUp none ⟨unconfigured, .none⟩ early).map
      (Except.map LogRecord.otelServiceName) = [.ok (.str ""), .ok (.str "nova")] := by rfl
  rw [hcached, hfresh] at hnames
  exact absurd hnames (by decide)

end OtelOpenstack.RecordFactory
