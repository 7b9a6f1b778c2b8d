import OtelOpenstack.Hooks
import OtelOpenstack.Python
import OtelOpenstack.Runs

/-!
The entry points around which requests and messages get their spans, and the instrumentors that
wrap them: of keystoneauth1, the SDK, oslo.messaging and keystonemiddleware.

Another package may wrap the same entry points. An instrumentor that was switched on while
instrumentation was suppressed has put nothing on, and takes something off all the same.
-/

set_option autoImplicit false

namespace OtelOpenstack.RequestHooks

open Effects Hooks Python Runs

/-! ### Entry points -/

inductive Owner
  | session | proxy | transport | rpcDispatcher | notificationDispatcher | baseAuthProtocol
  deriving DecidableEq

abbrev Target := Owner × String

/-- A layer on an entry point: the instrumentor's, or another package's. -/
inductive Layer
  | own
  | other (id : ℕ) (isProxy : Bool)
  deriving DecidableEq

def Layer.isOwn : Layer → Bool
  | .own => true
  | .other _ _ => false

/-- `isinstance(func, ObjectProxy)`. -/
def Layer.isProxy : Layer → Bool
  | .own => true
  | .other _ isProxy => isProxy

lemma Layer.isProxy_of_isOwn : ∀ l : Layer, l.isOwn = true → l.isProxy = true := by
  rintro (_ | _) h
  · rfl
  · exact absurd h nofun

structure Process where
  hooks : Table Target Layer
  /-- `_original_call`: what `BaseAuthProtocol.__call__` was -/
  originalCall : Option (List Layer)

/-- `wrapt.wrap_function_wrapper` of one entry point after the other. -/
def wrap (fails : Target → Option Exn) (ts : List Target) : Eff Exn Process Unit := fun s =>
  match putEach fails (ts.map (·, Layer.own)) s.hooks with
  | (.ok _, h) => (.ok (), { s with hooks := h })
  | (.error e, h) => (.error e, { s with hooks := h })

/-- `unwrap` of one entry point after the other. -/
def unwrap (ts : List Target) : Eff Exn Process Unit :=
  modifies fun s => { s with hooks := takeOffAll Layer.isProxy s.hooks ts }

/-- `if not is_instrumentation_enabled() or not library: return`. -/
def ifEnabled (enabled there : Bool) (m : Eff Exn Process Unit) : Eff Exn Process Unit :=
  if !enabled || !there then pure () else m

/-! ### keystoneauth1 -/

def sessionRequest : Target := (.session, "request")

def keystoneAuth1Instrument (there enabled : Bool) (fails : Target → Option Exn) :
    Eff Exn Process Unit :=
  ifEnabled enabled there (wrap fails [sessionRequest])

def keystoneAuth1Uninstrument (there : Bool) : Eff Exn Process Unit :=
  onlyIf there (unwrap [sessionRequest])

/-! ### openstacksdk -/

def proxyRequest : Target := (.proxy, "request")

def openStackSdkInstrument (there enabled : Bool) (fails : Target → Option Exn) :
    Eff Exn Process Unit :=
  ifEnabled enabled there (wrap fails [proxyRequest])

/-- Nothing is asked here, but without the SDK there is no attribute to unwrap. -/
def openStackSdkUninstrument (there : Bool) : Eff Exn Process Unit :=
  unwrap (if there then [proxyRequest] else [])

/-! ### oslo.messaging -/

/-- `_WRAPPED_METHODS`. -/
def wrappedMethods (there : Bool) : List Target :=
  if there then
    [(.transport, "_send"), (.transport, "_send_notification"), (.rpcDispatcher, "dispatch"),
      (.notificationDispatcher, "dispatch")]
  else []

/-- It is not asked whether instrumentation is enabled. -/
def osloMessagingInstrument (there : Bool) (fails : Target → Option Exn) : Eff Exn Process Unit :=
  if wrappedMethods there ≠ [] then
    wrap fails
      [(.transport, "_send"), (.transport, "_send_notification"), (.rpcDispatcher, "dispatch"),
        (.notificationDispatcher, "dispatch")]
  else pure ()

def osloMessagingUninstrument (there : Bool) : Eff Exn Process Unit := unwrap (wrappedMethods there)

/-! ### keystonemiddleware -/

def authCall : Target := (.baseAuthProtocol, "__call__")

def processRequest : Target := (.baseAuthProtocol, "process_request")

def keystoneMiddlewareInstrument (there enabled : Bool) (fails : Target → Option Exn) :
    Eff Exn Process Unit :=
  ifEnabled enabled there do
    modifies fun s => { s with originalCall := some (s.hooks authCall) }
    wrap fails [authCall, processRequest]

/-- What was found on `__call__` is put back by hand; `process_request` is unwrapped. -/
def keystoneMiddlewareUninstrument (there : Bool) : Eff Exn Process Unit :=
  onlyIf there do
    modifies fun s => match s.originalCall with
      | none => s
      | some found => ⟨Function.update s.hooks authCall found, none⟩
    unwrap [processRequest]

/-! ### An instrumentor among other packages -/

inductive Instrumentor | keystoneAuth1 | openStackSdk | osloMessaging | keystoneMiddleware
  deriving DecidableEq

/-- `_instrument`. -/
def instrumentPart (there enabled : Bool) (fails : Target → Option Exn) :
    Instrumentor → Eff Exn Process Unit
  | .keystoneAuth1 => keystoneAuth1Instrument there enabled fails
  | .openStackSdk => openStackSdkInstrument there enabled fails
  | .osloMessaging => osloMessagingInstrument there fails
  | .keystoneMiddleware => keystoneMiddlewareInstrument there enabled fails

/-- `_uninstrument`. -/
def uninstrumentPart (there : Bool) : Instrumentor → Eff Exn Process Unit
  | .keystoneAuth1 => keystoneAuth1Uninstrument there
  | .openStackSdk => openStackSdkUninstrument there
  | .osloMessaging => osloMessagingUninstrument there
  | .keystoneMiddleware => keystoneMiddlewareUninstrument there

def instrument (i : Instrumentor) (there enabled : Bool) (fails : Target → Option Exn) :
    Eff Exn (Instrumented Process) Unit :=
  switchOn (instrumentPart there enabled fails i)

def uninstrument (i : Instrumentor) (there : Bool) : Eff Exn (Instrumented Process) Unit :=
  switchOff (uninstrumentPart there i)

/-- The instrumentor is switched, instrumentation being enabled or not and wrapping an entry point
raising or not; another package puts a layer on an entry point, or takes its own off. -/
inductive Event
  | instrument (enabled : Bool) (fails : Target → Option Exn)
  | uninstrument
  | add (t : Target) (id : ℕ) (isProxy : Bool)
  | remove (t : Target) (id : ℕ)

/-- The layers without those of one other package. -/
def without (id : ℕ) (ls : List Layer) : List Layer :=
  ls.filter fun
    | .own => true
    | .other id' _ => id' ≠ id

/-- What the other packages do to the hooks. -/
def othersStep (h : Table Target Layer) : Event → Table Target Layer
  | .add t id isProxy => put h t (.other id isProxy)
  | .remove t id => Function.update h t (without id (h t))
  | _ => h

def step (i : Instrumentor) (there : Bool) (s : Instrumented Process) (e : Event) :
    Instrumented Process :=
  match e with
  | .instrument enabled fails => (instrument i there enabled fails s).2
  | .uninstrument => (uninstrument i there s).2
  | e => { s with process := { s.process with hooks := othersStep s.process.hooks e } }

/-- No layer on the hooks, and the instrumentor off. -/
def bare : Instrumented Process := ⟨false, ⟨fun _ => [], none⟩⟩

/-- Switched on while instrumentation is suppressed, and off again, an instrumentor takes off
another package's layer. -/
example : (run (step .keystoneAuth1 true) bare [.add sessionRequest 7 true,
    .instrument false (fun _ => none), .uninstrument]).process.hooks sessionRequest = [] := rfl

/-! ### What the instrumentors have in common -/

/-- The entry points an instrumentor wraps, in order. -/
def targets (there : Bool) : Instrumentor → List Target
  | .keystoneAuth1 => if there then [sessionRequest] else []
  | .openStackSdk => if there then [proxyRequest] else []
  | .osloMessaging => wrappedMethods there
  | .keystoneMiddleware => if there then [authCall, processRequest] else []

/-- The entry points an instrumentor unwraps. -/
def unwrapped (there : Bool) : Instrumentor → List Target
  | .keystoneMiddleware => if there then [processRequest] else []
  | i => targets there i

/-- Switched on, the instrumentor does something. -/
def acts (enabled there : Bool) : Instrumentor → Bool
  | .osloMessaging => true
  | _ => enabled && there

lemma unwrapped_nodup (there : Bool) (i : Instrumentor) : (unwrapped there i).Nodup := by
  cases i <;> cases there <;> decide

/-- What is wrapped is unwrapped, or put back by hand. -/
lemma mem_targets {there : Bool} {i : Instrumentor} {t : Target} (ht : t ∈ targets there i) :
    t ∈ unwrapped there i ∨ t = authCall ∧ i = .keystoneMiddleware ∧ there = true := by
  revert t
  cases i <;> cases there <;> decide

lemma authCall_not_mem_unwrapped (there : Bool) (i : Instrumentor) :
    authCall ∉ unwrapped there i := by
  cases i <;> cases there <;> decide

/-- The layers an instrumentor puts on. -/
def layers (ts : List Target) : List (Target × Layer) := ts.map (·, Layer.own)

lemma map_fst_layers (ts : List Target) : (layers ts).map Prod.fst = ts := by
  rw [layers, List.map_map]
  exact List.map_id ts

lemma own_of_mem_layersOn {ts : List Target} {t : Target} {l : Layer}
    (h : l ∈ layersOn (layers ts) t) : l = .own := by
  obtain ⟨p, hp, hl⟩ := List.mem_filterMap.mp h
  obtain ⟨u, -, rfl⟩ := List.mem_map.mp hp
  split at hl
  · exact (Option.some.inj hl).symm
  · exact absurd hl nofun

/-- The layers of the others are the same with more layers of the instrumentor. -/
lemma others_putAll (h : Table Target Layer) (ts : List Target) (t : Target) :
    others Layer.isOwn (putAll h (layers ts) t) = others Layer.isOwn (h t) := by
  have hnew : others Layer.isOwn (layersOn (layers ts) t).reverse = [] := by
    apply List.filter_eq_nil_iff.mpr
    intro l hl
    rw [own_of_mem_layersOn (List.mem_reverse.mp hl)]
    decide
  rw [putAll_apply]
  have happend : others Layer.isOwn ((layersOn (layers ts) t).reverse ++ h t) =
      others Layer.isOwn (layersOn (layers ts) t).reverse ++ others Layer.isOwn (h t) :=
    List.filter_append ..
  rw [happend, hnew, List.nil_append]

/-- What an instrumentor notes before it wraps. -/
def noted (i : Instrumentor) (s : Process) : Option (List Layer) :=
  match i with
  | .keystoneMiddleware => some (s.hooks authCall)
  | _ => s.originalCall

section

variable {i : Instrumentor} {there enabled : Bool} {fails : Target → Option Exn}

lemma wrap_of_ok {ts : List Target} (h : ∀ t ∈ ts, fails t = none) (s : Process) :
    wrap fails ts s = (.ok (), { s with hooks := putAll s.hooks (layers ts) }) := by
  have hall : ∀ p ∈ layers ts, fails p.1 = none := by
    intro p hp
    obtain ⟨t, ht, rfl⟩ := List.mem_map.mp hp
    exact h t ht
  unfold wrap
  rw [show ts.map (·, Layer.own) = layers ts from rfl, putEach_of_ok hall]

lemma wrap_of_error {done rest : List Target} {t : Target} {e : Exn}
    (hdone : ∀ u ∈ done, fails u = none) (ht : fails t = some e) (s : Process) :
    wrap fails (done ++ t :: rest) s =
      (.error e, { s with hooks := putAll s.hooks (layers done) }) := by
  have hall : ∀ p ∈ layers done, fails p.1 = none := by
    intro p hp
    obtain ⟨u, hu, rfl⟩ := List.mem_map.mp hp
    exact hdone u hu
  have hsplit : (done ++ t :: rest).map (·, Layer.own) =
      layers done ++ (t, .own) :: layers rest := by
    simp [layers]
  unfold wrap
  rw [hsplit, putEach_of_error hall ht]

lemma instrumentPart_of_idle (h : acts enabled there i = false) (s : Process) :
    instrumentPart there enabled fails i s = (.ok (), s) := by
  cases i with
  | osloMessaging => exact absurd h nofun
  | _ =>
    have hpass : (!enabled || !there) = true := by
      cases enabled <;> cases there <;> first | rfl | exact absurd h nofun
    simp only [instrumentPart, keystoneAuth1Instrument, openStackSdkInstrument,
      keystoneMiddlewareInstrument, ifEnabled, hpass, if_true]
    rfl

lemma instrumentPart_of_acts (h : acts enabled there i = true) (s : Process) :
    instrumentPart there enabled fails i s =
      wrap fails (targets there i) { s with originalCall := noted i s } := by
  cases i with
  | osloMessaging => cases there <;> rfl
  | _ =>
    obtain ⟨rfl, rfl⟩ : enabled = true ∧ there = true := by simpa [acts] using h
    rfl

/-- The hooks after `_uninstrument`. -/
def hooksAfter (there : Bool) (i : Instrumentor) (s : Process) : Table Target Layer :=
  let h := match s.originalCall with
    | none => s.hooks
    | some found => Function.update s.hooks authCall found
  takeOffAll Layer.isProxy h (unwrapped there i)

lemma uninstrumentPart_apply {s : Process}
    (h : s.originalCall ≠ none → i = .keystoneMiddleware ∧ there = true) :
    uninstrumentPart there i s = (.ok (), ⟨hooksAfter there i s, none⟩) := by
  obtain ⟨hooks, originalCall⟩ := s
  cases originalCall with
  | none => cases i <;> cases there <;> rfl
  | some found =>
    obtain ⟨rfl, rfl⟩ := h nofun
    rfl

lemma hooksAfter_of_mem {s : Process} {t : Target} (ht : t ∈ unwrapped there i) :
    hooksAfter there i s t = peel Layer.isProxy (s.hooks t) := by
  have hne : t ≠ authCall := by
    rintro rfl
    exact authCall_not_mem_unwrapped there i ht
  unfold hooksAfter
  rw [takeOffAll_of_mem _ (unwrapped_nodup there i) _ ht]
  cases s.originalCall with
  | none => rfl
  | some found => exact congrArg _ (Function.update_of_ne hne _ _)

lemma hooksAfter_of_not_mem {s : Process} {t : Target} (ht : t ∉ unwrapped there i)
    (hne : t ≠ authCall) : hooksAfter there i s t = s.hooks t := by
  unfold hooksAfter
  rw [takeOffAll_of_not_mem _ _ ht]
  cases s.originalCall with
  | none => rfl
  | some found => exact Function.update_of_ne hne _ _

lemma hooksAfter_authCall (s : Process) :
    hooksAfter there i s authCall = s.originalCall.getD (s.hooks authCall) := by
  unfold hooksAfter
  rw [takeOffAll_of_not_mem _ _ (authCall_not_mem_unwrapped there i)]
  cases s.originalCall with
  | none => rfl
  | some found => exact Function.update_self ..

end

/-! ### Steps -/

/-- If the first entry point can be wrapped, all can. -/
def AllOrNone (fails : Target → Option Exn) : List Target → Prop
  | [] => True
  | t :: ts => fails t = none → ∀ u ∈ ts, fails u = none

lemma allOrNone_iff {fails : Target → Option Exn} {done rest : List Target} {t : Target} {e : Exn}
    (hdone : ∀ u ∈ done, fails u = none) (ht : fails t = some e) :
    AllOrNone fails (done ++ t :: rest) ↔ done = [] := by
  cases done with
  | nil => exact ⟨fun _ => rfl, fun _ hnone => absurd (ht.symm.trans hnone) nofun⟩
  | cons u done =>
    refine ⟨fun hall => ?_, fun hnil => absurd hnil nofun⟩
    have hnone := hall (hdone u (List.mem_cons_self ..)) t
      (List.mem_append_right _ (List.mem_cons_self ..))
    exact absurd (ht.symm.trans hnone) nofun

lemma allOrNone_of_ok {fails : Target → Option Exn} {ts : List Target}
    (h : ∀ t ∈ ts, fails t = none) : AllOrNone fails ts := by
  cases ts with
  | nil => trivial
  | cons t ts => exact fun _ u hu => h u (List.mem_cons_of_mem _ hu)

section

variable {i : Instrumentor} {there : Bool}

/-- Switched on, an instrumentor that does something wraps all its entry points, or those before
one that raises. -/
lemma step_instrument {s : Instrumented Process} (hoff : s.on = false) {enabled : Bool}
    (hacts : acts enabled there i = true) (fails : Target → Option Exn) :
    ((∀ t ∈ targets there i, fails t = none) ∧ step i there s (.instrument enabled fails) =
      ⟨true, ⟨putAll s.process.hooks (layers (targets there i)), noted i s.process⟩⟩) ∨
    ∃ done t rest e, targets there i = done ++ t :: rest ∧ (∀ u ∈ done, fails u = none) ∧
      fails t = some e ∧ step i there s (.instrument enabled fails) =
        ⟨false, ⟨putAll s.process.hooks (layers done), noted i s.process⟩⟩ := by
  obtain ⟨on, process⟩ := s
  obtain rfl : on = false := hoff
  have hpart : instrumentPart there enabled fails i process =
      wrap fails (targets there i) { process with originalCall := noted i process } :=
    instrumentPart_of_acts hacts process
  rcases first_failure fails (layers (targets there i)) with
    hall | ⟨done, p, rest, e, hlayers, hdone, hp⟩
  · have hok : ∀ t ∈ targets there i, fails t = none := fun t ht =>
      hall (t, .own) (List.mem_map_of_mem ht)
    rw [wrap_of_ok hok] at hpart
    refine Or.inl ⟨hok, ?_⟩
    simp only [step, instrument, switchOn_of_ok hpart]
  · have hsplit : targets there i = done.map Prod.fst ++ p.1 :: rest.map Prod.fst := by
      have hfst := congrArg (List.map Prod.fst) hlayers
      rwa [map_fst_layers, List.map_append, List.map_cons] at hfst
    have hbefore : ∀ u ∈ done.map Prod.fst, fails u = none := by
      intro u hu
      obtain ⟨q, hq, rfl⟩ := List.mem_map.mp hu
      exact hdone q hq
    rw [hsplit, wrap_of_error hbefore hp] at hpart
    refine Or.inr ⟨_, _, _, e, hsplit, hbefore, hp, ?_⟩
    simp only [step, instrument, switchOn_of_error hpart]

lemma step_instrument_of_idle {s : Instrumented Process} (hoff : s.on = false) {enabled : Bool}
    (hidle : acts enabled there i = false) (fails : Target → Option Exn) :
    step i there s (.instrument enabled fails) = ⟨true, s.process⟩ := by
  obtain ⟨on, process⟩ := s
  obtain rfl : on = false := hoff
  simp only [step, instrument, switchOn_of_ok (instrumentPart_of_idle hidle process)]

lemma step_instrument_of_on {s : Instrumented Process} (hon : s.on = true) (enabled : Bool)
    (fails : Target → Option Exn) : step i there s (.instrument enabled fails) = s := by
  simp [step, instrument, switchOn, hon]

lemma step_uninstrument_of_off {s : Instrumented Process} (hoff : s.on = false) :
    step i there s .uninstrument = s := by
  simp [step, uninstrument, switchOff, hoff]

/-! ### What holds in a run -/

variable (i there) in
/-- The instrumentor has layers on its own entry points only; it has one on `__call__` only if it
noted what was there; and it notes that only for keystonemiddleware. -/
structure Inv (s : Instrumented Process) : Prop where
  home : ∀ t, t ∉ targets there i → ∀ l ∈ s.process.hooks t, l.isOwn = false
  unnoted : s.on = true → s.process.originalCall = none →
    ∀ l ∈ s.process.hooks authCall, l.isOwn = false
  only : s.process.originalCall ≠ none → i = .keystoneMiddleware ∧ there = true

/-- The other packages' layers are the ones there would be without the instrumentor, and it has
none of its own while it is off. -/
structure Undisturbed (s : Instrumented Process) (alone : Table Target Layer) : Prop where
  others : ∀ t, others Layer.isOwn (s.process.hooks t) = alone t
  gone : s.on = false → ∀ t, ∀ l ∈ s.process.hooks t, l.isOwn = false

lemma step_uninstrument {s : Instrumented Process} (h : Inv i there s) (hon : s.on = true) :
    step i there s .uninstrument = ⟨false, ⟨hooksAfter there i s.process, none⟩⟩ := by
  obtain ⟨on, process⟩ := s
  obtain rfl : on = true := hon
  simp only [step, uninstrument, switchOff_of_ok (uninstrumentPart_apply h.only)]

variable (i there) in
/-- An instrumentor that is switched off finds its layer outermost on what it unwraps, and its
only one, or none and nothing to unwrap; and what it noted of `__call__` is what the others have
there. Where wrapping raises when it is switched on, nothing has been wrapped yet. -/
def Orderly (s : Instrumented Process) : Event → Prop
  | .instrument enabled fails =>
    s.on = false → acts enabled there i = true → AllOrNone fails (targets there i)
  | .uninstrument => s.on = true →
    (∀ t ∈ unwrapped there i, Outermost Layer.isProxy Layer.isOwn (s.process.hooks t)) ∧
      ∀ found, s.process.originalCall = some found →
        found = others Layer.isOwn (s.process.hooks authCall)
  | _ => True

/-- Every hook is left as the others have it. -/
lemma undoes_iff {s : Instrumented Process} (h : Inv i there s) (hon : s.on = true) :
    (∀ t, hooksAfter there i s.process t = others Layer.isOwn (s.process.hooks t)) ↔
      Orderly i there s .uninstrument := by
  have hpeel := peel_eq_others_iff Layer.isProxy_of_isOwn
  constructor
  · intro hundo _
    refine ⟨fun t ht => ?_, fun found hfound => ?_⟩
    · rw [← hpeel, ← hooksAfter_of_mem ht]
      exact hundo t
    · rw [← hundo authCall, hooksAfter_authCall, hfound]
      rfl
  · intro horderly t
    obtain ⟨hout, hcall⟩ := horderly hon
    by_cases ht : t ∈ unwrapped there i
    · rw [hooksAfter_of_mem ht]
      exact (hpeel _).mpr (hout t ht)
    by_cases htcall : t = authCall
    · subst htcall
      rw [hooksAfter_authCall]
      cases hnoted : s.process.originalCall with
      | none => exact (others_eq_self.mpr (h.unnoted hon hnoted)).symm
      | some found => exact hcall found hnoted
    · have hnot : t ∉ targets there i := fun hmem =>
        (mem_targets hmem).elim ht fun hcall => htcall hcall.1
      rw [hooksAfter_of_not_mem ht htcall]
      exact (others_eq_self.mpr (h.home t hnot)).symm

lemma others_othersStep (h : Table Target Layer) (e : Event) (t : Target) :
    others Layer.isOwn (othersStep h e t) =
      othersStep (fun u => others Layer.isOwn (h u)) e t := by
  cases e with
  | add u id isProxy =>
    simp only [othersStep, put]
    by_cases hut : t = u
    · subst hut
      rw [Function.update_self, Function.update_self, others_cons]
      rfl
    · rw [Function.update_of_ne hut, Function.update_of_ne hut]
  | remove u id =>
    simp only [othersStep]
    by_cases hut : t = u
    · subst hut
      rw [Function.update_self, Function.update_self]
      exact List.filter_comm ..
    · rw [Function.update_of_ne hut, Function.update_of_ne hut]
  | _ => rfl

lemma mem_othersStep {h : Table Target Layer} {e : Event} {t : Target} {l : Layer}
    (hl : l ∈ othersStep h e t) : l ∈ h t ∨ l.isOwn = false := by
  cases e with
  | add u id isProxy =>
    simp only [othersStep, put] at hl
    by_cases hut : t = u
    · subst hut
      rw [Function.update_self] at hl
      rcases List.mem_cons.mp hl with rfl | hmem
      · exact Or.inr rfl
      · exact Or.inl hmem
    · rw [Function.update_of_ne hut] at hl
      exact Or.inl hl
  | remove u id =>
    simp only [othersStep] at hl
    by_cases hut : t = u
    · subst hut
      rw [Function.update_self] at hl
      exact Or.inl (List.mem_of_mem_filter hl)
    · rw [Function.update_of_ne hut] at hl
      exact Or.inl hl
  | _ => exact Or.inl hl

lemma putAll_of_not_mem {ts : List Target} (hts : ∀ t ∈ ts, t ∈ targets there i)
    (h : Table Target Layer) {t : Target} (ht : t ∉ targets there i) :
    putAll h (layers ts) t = h t := by
  have hnot : t ∉ (layers ts).map Prod.fst := by
    rw [map_fst_layers]
    exact fun hmem => ht (hts t hmem)
  rw [putAll_apply, layersOn_of_not_mem hnot]
  rfl

/-- Entry points have been wrapped by an instrumentor that was off. -/
lemma inv_wrapped {s : Instrumented Process} (h : Inv i there s)
    (hgone : ∀ t, ∀ l ∈ s.process.hooks t, l.isOwn = false) {enabled : Bool}
    (hacts : acts enabled there i = true) {ts : List Target}
    (hts : ∀ t ∈ ts, t ∈ targets there i) (on : Bool) :
    Inv i there ⟨on, ⟨putAll s.process.hooks (layers ts), noted i s.process⟩⟩ where
  home t ht l hl := by
    dsimp only at hl
    rw [putAll_of_not_mem hts _ ht] at hl
    exact h.home t ht l hl
  unnoted _ hnone l hl := by
    have hcall : authCall ∉ targets there i := by
      cases i with
      | keystoneMiddleware => exact absurd hnone nofun
      | _ => cases there <;> decide
    dsimp only at hl
    rw [putAll_of_not_mem hts _ hcall] at hl
    exact hgone authCall l hl
  only hnoted := by
    cases i with
    | keystoneMiddleware =>
      have hthere : (enabled && there) = true := hacts
      exact ⟨rfl, (Bool.and_eq_true_iff.mp hthere).2⟩
    | _ => exact h.only hnoted

lemma inv_step {s : Instrumented Process} (h : Inv i there s)
    (hgone : s.on = false → ∀ t, ∀ l ∈ s.process.hooks t, l.isOwn = false) (e : Event)
    (hgone' : (step i there s e).on = false →
      ∀ t, ∀ l ∈ (step i there s e).process.hooks t, l.isOwn = false) :
    Inv i there (step i there s e) := by
  have hothers (h' : Table Target Layer)
      (hmem : ∀ t, ∀ l ∈ h' t, l ∈ s.process.hooks t ∨ l.isOwn = false) :
      Inv i there ⟨s.on, h', s.process.originalCall⟩ := by
    refine ⟨fun t ht l hl => ?_, fun hon hnone l hl => ?_, h.only⟩
    · exact (hmem t l hl).elim (h.home t ht l) id
    · exact (hmem authCall l hl).elim (h.unnoted hon hnone l) id
  cases e with
  | instrument enabled fails =>
    cases hon : s.on with
    | true =>
      rw [step_instrument_of_on hon]
      exact h
    | false =>
      have hnone := hgone hon
      cases hacts : acts enabled there i with
      | false =>
        rw [step_instrument_of_idle hon hacts]
        exact ⟨h.home, fun _ _ => hnone authCall, h.only⟩
      | true =>
        rcases step_instrument hon hacts fails with
          ⟨-, hstep⟩ | ⟨done, t, rest, e, htargets, -, -, hstep⟩
        · rw [hstep]
          exact inv_wrapped h hnone hacts (fun _ ht => ht) true
        · rw [hstep]
          refine inv_wrapped h hnone hacts (fun u hu => ?_) false
          rw [htargets]
          exact List.mem_append_left _ hu
  | uninstrument =>
    cases hon : s.on with
    | false =>
      rw [step_uninstrument_of_off hon]
      exact h
    | true =>
      have hstep := step_uninstrument h hon
      rw [hstep] at hgone' ⊢
      exact ⟨fun t _ => hgone' rfl t, nofun, fun hnoted => absurd rfl hnoted⟩
  | add t id isProxy => exact hothers _ fun u l hl => mem_othersStep hl
  | remove t id => exact hothers _ fun u l hl => mem_othersStep hl

/-- One step disturbs nobody, and leaves nothing behind, exactly if it is orderly. -/
lemma undisturbed_step_iff {s : Instrumented Process} {alone : Table Target Layer}
    (h : Inv i there s) (hs : Undisturbed s alone) (e : Event) :
    Undisturbed (step i there s e) (othersStep alone e) ↔ Orderly i there s e := by
  have halone : (fun u => others Layer.isOwn (s.process.hooks u)) = alone := funext hs.others
  have hothers (d : Event) : Undisturbed
      ⟨s.on, othersStep s.process.hooks d, s.process.originalCall⟩ (othersStep alone d) := by
    refine ⟨fun t => ?_, fun hoff t l hl => (mem_othersStep hl).elim (hs.gone hoff t l) id⟩
    rw [others_othersStep, halone]
  cases e with
  | instrument enabled fails =>
    cases hon : s.on with
    | true =>
      rw [step_instrument_of_on hon]
      exact ⟨fun _ hoff => absurd (hon.symm.trans hoff) nofun, fun _ => hs⟩
    | false =>
      cases hacts : acts enabled there i with
      | false =>
        rw [step_instrument_of_idle hon hacts]
        exact ⟨fun _ _ hacts' => absurd (hacts.symm.trans hacts') nofun,
          fun _ => ⟨hs.others, nofun⟩⟩
      | true =>
        have hsame (ts : List Target) (t : Target) :
            others Layer.isOwn (putAll s.process.hooks (layers ts) t) = alone t :=
          (others_putAll _ ts t).trans (hs.others t)
        rcases step_instrument hon hacts fails with
          ⟨hok, hstep⟩ | ⟨done, t, rest, e, htargets, hdone, ht, hstep⟩
        · rw [hstep]
          exact ⟨fun _ _ _ => allOrNone_of_ok hok, fun _ => ⟨hsame _, nofun⟩⟩
        · have horderly : Orderly i there s (.instrument enabled fails) ↔ done = [] := by
            rw [← allOrNone_iff hdone ht, ← htargets]
            exact ⟨fun hall => hall hon hacts, fun hall _ _ => hall⟩
          rw [hstep, horderly]
          constructor
          · intro hundisturbed
            cases done with
            | nil => rfl
            | cons u done =>
              have hmem : Layer.own ∈ putAll s.process.hooks (layers (u :: done)) u := by
                rw [putAll_apply]
                apply List.mem_append_left
                rw [List.mem_reverse, layers, List.map_cons, layersOn_cons, if_pos rfl]
                exact List.mem_cons_self ..
              exact absurd (hundisturbed.gone rfl u _ hmem) nofun
          · rintro rfl
            exact ⟨hsame [], fun _ => hs.gone hon⟩
  | uninstrument =>
    cases hon : s.on with
    | false =>
      rw [step_uninstrument_of_off hon]
      exact ⟨fun _ hon' => absurd (hon.symm.trans hon') nofun, fun _ => hs⟩
    | true =>
      rw [step_uninstrument h hon, ← undoes_iff h hon]
      have hkept (t : Target) : others Layer.isOwn (others Layer.isOwn (s.process.hooks t)) =
          others Layer.isOwn (s.process.hooks t) :=
        others_eq_self.mpr fun l hl => by simpa using (List.mem_filter.mp hl).2
      constructor
      · intro hundisturbed t
        have hnone := others_eq_self.mpr (hundisturbed.gone rfl t)
        exact hnone.symm.trans ((hundisturbed.others t).trans (hs.others t).symm)
      · intro hundo
        refine ⟨fun t => ?_, fun _ t => ?_⟩
        · dsimp only
          rw [hundo t, hkept]
          exact hs.others t
        · dsimp only
          rw [hundo t]
          exact others_eq_self.mp (hkept t)
  | add t id isProxy => exact ⟨fun _ => trivial, fun _ => hothers (.add t id isProxy)⟩
  | remove t id => exact ⟨fun _ => trivial, fun _ => hothers (.remove t id)⟩

end

/-! ### The theorem -/

/-- **Nobody is disturbed by an orderly instrumentor.** For each of the instrumentors, its library
being there or not, and after any events: at every moment the layers of the other packages are
those there would be without it, and it has none of its own while it is off, exactly when every
switching on and off is orderly where it comes. -/
theorem undisturbed_iff_orderly (i : Instrumentor) (there : Bool) (es : List Event) :
    (∀ pre post, es = pre ++ post →
      Undisturbed (run (step i there) bare pre) (run othersStep (fun _ => []) pre)) ↔
    Legal (Orderly i there) (step i there) bare es := by
  let both (p : Instrumented Process × Table Target Layer) (e : Event) :=
    (step i there p.1 e, othersStep p.2 e)
  let P (p : Instrumented Process × Table Target Layer) : Prop := Undisturbed p.1 p.2
  let start : Instrumented Process × Table Target Layer := (bare, fun _ => [])
  have hstart : Inv i there bare ∧ P start :=
    ⟨⟨fun _ _ => nofun, nofun, fun hnoted => absurd rfl hnoted⟩, fun _ => rfl, fun _ _ => nofun⟩
  have hiff (p : Instrumented Process × Table Target Layer) (e : Event)
      (hp : Inv i there p.1 ∧ P p) : P (both p e) ↔ Orderly i there p.1 e :=
    undisturbed_step_iff hp.1 hp.2 e
  have hkept (p : Instrumented Process × Table Target Layer) (e : Event)
      (hp : Inv i there p.1 ∧ P p) (hok : P (both p e)) :
      Inv i there (both p e).1 ∧ P (both p e) :=
    ⟨inv_step hp.1 hp.2.gone e hok.gone, hok⟩
  have halways : (∀ pre post, es = pre ++ post → P (run both start pre)) ↔
      P start ∧ Legal (fun p e => P (both p e)) both start es := always_iff
  have hlegal : Legal (fun p e => P (both p e)) both start es ↔
      Legal (fun p e => Orderly i there p.1 e) both start es := legal_iff hiff hkept hstart es
  rw [hlegal, and_iff_right hstart.2] at halways
  have hprod : Legal (fun p e => Orderly i there p.1 e) both start es ↔
      Legal (Orderly i there) (step i there) bare es := legal_prod _ _ othersStep bare _ es
  rw [← hprod, ← halways]
  have hboth (pre : List Event) : run both start pre =
      (run (step i there) bare pre, run othersStep (fun _ => []) pre) :=
    run_prod _ othersStep bare _ pre
  simp only [hboth, P]

end OtelOpenstack.RequestHooks
