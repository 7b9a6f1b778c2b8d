import OtelOpenstack.Backend

/-!
Starting a process under auto-instrumentation, up to the hook that selects the backend:
`sitecustomize`, which patches eventlet where the operator opted in, and the distro it selects.

What auto-instrumentation itself, the distro this one derives from, eventlet and imports do are
parameters.
-/

set_option autoImplicit false

namespace OtelOpenstack.Startup

open Effects Eventlet Backend Python

section

variable {H : Type}

/-- `os.environ.setdefault(name, value)`. -/
def setdefault (name value : String) : Eff Exn (Process H) Unit :=
  modifies fun p => if (p.environ name).isSome then p else p.setenv name value

/-- `OsloServiceDistro._configure`; `base` is that of the distro it derives from. -/
def configureDistro (base : Eff Exn (Process H) Unit) : Eff Exn (Process H) Unit := do
  setdefault "OTEL_EXPORTER_OTLP_PROTOCOL" "http/protobuf"
  base
  setenv "OTEL_PYTHON_CONFIGURATOR" "oslo_service"

/-- `sitecustomize`; `shipped` is whether `_oslo_service_eventlet` is there. -/
def sitecustomize (rt : Runtime H) (shipped : Bool) (sep : Char) (thisDir : String)
    (autoInstrumentation : Eff Exn (Process H) Unit) : Eff Exn (Process H) Unit := do
  onlyIf shipped (tryPatch rt sep thisDir)
  setdefault "OTEL_PYTHON_DISTRO" "oslo_service"
  autoInstrumentation

/-- `auto_instrumentation.initialize`, until its first hooks have run: it has the distro that is
named configured, or whatever else there is, and calls the hooks. -/
def untilHooks (backends : Option (Backends H)) (base others : Eff Exn (Process H) Unit) :
    Eff Exn (Process H) Unit := do
  let distro ← reads fun p => p.environ "OTEL_PYTHON_DISTRO"
  if distro = some "oslo_service" then configureDistro base else others
  preInstrument backends

/-! ### What is outside -/

/-- What other code leaves as it is: the name of the backend, whether sockets are green, and the
backend. -/
structure Aside (green : H → Bool) (b : Backends H) (p q : Process H) : Prop where
  environ : q.environ "OTEL_PYTHON_OSLO_SERVICE_BACKEND" =
    p.environ "OTEL_PYTHON_OSLO_SERVICE_BACKEND"
  green : green q.host = green p.host
  chosen : b.getBackendType q.host = b.getBackendType p.host

/-- What the process is started with: imports, the distros and a patch that raises leave sockets,
name and backend as they were, a patch that returns makes the sockets green, and initializing a
backend chooses it. -/
structure Outside (green : H → Bool) (b : Backends H) (rt : Runtime H)
    (base others : Eff Exn (Process H) Unit) : Prop where
  imports : ∀ module, Keeps (Aside green b) (rt.importModule module)
  warn : Keeps (Aside green b) rt.warn
  original : Keeps (Aside green b) rt.original
  base : Keeps (Aside green b) base
  others : Keeps (Aside green b) others
  patched : ∀ p q, rt.monkeyPatch p = (.ok (), q) → green q.host = true ∧
    b.getBackendType q.host = b.getBackendType p.host
  unpatched : ∀ p q e, rt.monkeyPatch p = (.error e, q) → Aside green b p q
  selects : b.Lawful
  green_init : ∀ type p, green (b.initBackend type p).2.host = green p.host

variable {green : H → Bool} {b : Backends H}

lemma aside_refl (p : Process H) : Aside green b p p := ⟨rfl, rfl, rfl⟩

lemma aside_trans (p q r : Process H) (h : Aside green b p q) (h' : Aside green b q r) :
    Aside green b p r :=
  ⟨h'.environ.trans h.environ, h'.green.trans h.green, h'.chosen.trans h.chosen⟩

lemma setenv_aside {name : String} (hname : name ≠ "OTEL_PYTHON_OSLO_SERVICE_BACKEND")
    (value : String) (p : Process H) : Aside green b p (p.setenv name value) :=
  ⟨Process.environ_setenv_of_ne p value hname.symm, rfl, rfl⟩

lemma setdefault_aside {name : String} (hname : name ≠ "OTEL_PYTHON_OSLO_SERVICE_BACKEND")
    (value : String) : Keeps (Aside green b) (setdefault name value) := by
  intro p
  unfold setdefault
  simp only [modifies_apply]
  split
  · exact aside_refl p
  · exact setenv_aside hname value p

lemma configureDistro_aside {base : Eff Exn (Process H) Unit} (h : Keeps (Aside green b) base) :
    Keeps (Aside green b) (configureDistro base) := by
  apply Keeps.bind aside_trans (setdefault_aside (by decide) _)
  intro _
  apply Keeps.bind aside_trans h
  intro _
  exact fun p => setenv_aside (by decide) _ p

/-- What patching leaves: sockets are green and the backend is named `eventlet`, or nothing of
that has changed. -/
def Patched (green : H → Bool) (b : Backends H) (p q : Process H) : Prop :=
  b.getBackendType q.host = b.getBackendType p.host ∧
    if green q.host then
      q.environ "OTEL_PYTHON_OSLO_SERVICE_BACKEND" = some "eventlet"
    else
      q.environ "OTEL_PYTHON_OSLO_SERVICE_BACKEND" =
        p.environ "OTEL_PYTHON_OSLO_SERVICE_BACKEND"

lemma patched_of_aside {p q : Process H} (hp : green p.host = false) (haside : Aside green b p q) :
    Patched green b p q := by
  refine ⟨haside.chosen, ?_⟩
  rw [haside.green, hp]
  exact haside.environ

lemma Patched.aside {p q r : Process H} (hq : Patched green b p q) (haside : Aside green b q r) :
    Patched green b p r := by
  refine ⟨haside.chosen.trans hq.1, ?_⟩
  rw [haside.green, haside.environ]
  exact hq.2

lemma Patched.from_aside {p q r : Process H} (haside : Aside green b p q)
    (hr : Patched green b q r) : Patched green b p r := by
  refine ⟨hr.1.trans haside.chosen, ?_⟩
  rw [← haside.environ]
  exact hr.2

/-- With green sockets the backend is not that of threads; and if startup came through and
backends can be initialized, it is that of eventlet with green sockets, and without them the one
the operator asked for. -/
def Agrees (green : H → Bool) (b : Backends H) (p : Process H)
    (out : Except Exn Unit × Process H) : Prop :=
  (green out.2.host = true → b.getBackendType out.2.host ≠ some .threading) ∧
    ((∀ type q, b.getBackendType q.host = none →
        b.getBackendType (b.initBackend type q).2.host = some type) → out.1 = .ok () →
      b.getBackendType out.2.host = if green out.2.host then some .eventlet else asked none p)

lemma agrees_of_error {p q : Process H} {e : Exn} (hq : Patched green b p q)
    (hnone : b.getBackendType p.host = none) : Agrees green b p (.error e, q) := by
  refine ⟨fun _ hthreading => ?_, fun _ => nofun⟩
  exact absurd ((hq.1.trans hnone).symm.trans hthreading) nofun

section

variable {rt : Runtime H} {base others : Eff Exn (Process H) Unit}
  (h : Outside green b rt base others)

include h

omit h in
lemma bind_aside (module : String) (attributes : List (String × ℕ)) (p : Process H) :
    Aside green b p (p.bind module attributes) := by
  induction attributes generalizing p with
  | nil => exact aside_refl p
  | cons first attributes ih =>
    obtain ⟨name, value⟩ := first
    let q : Process H :=
      { p with
        bound := Function.update p.bound module
          (Function.update (p.bound module) name (some value)) }
    have hq : Aside green b p q := ⟨rfl, rfl, rfl⟩
    exact aside_trans p q _ hq (ih q)

omit h in
lemma unlessMissing_aside {m handler : Eff Exn (Process H) Unit} (hm : Keeps (Aside green b) m)
    (hhandler : Keeps (Aside green b) handler) :
    Keeps (Aside green b) (unlessMissing rt m handler) := by
  apply Keeps.tryExcept aside_trans
  · exact Keeps.bind aside_trans hm fun _ => Keeps.pure aside_refl true
  · intro e
    apply Keeps.ite _ (Keeps.raise aside_refl e)
    exact Keeps.bind aside_trans hhandler fun _ => Keeps.pure aside_refl false

lemma rebind_aside (rebindings : List (String × List (String × ℕ))) :
    Keeps (Aside green b) (rebind rt rebindings) := by
  induction rebindings with
  | nil => exact Keeps.pure aside_refl false
  | cons rebinding rebindings ih =>
    obtain ⟨module, attributes⟩ := rebinding
    apply Keeps.bind aside_trans
    · exact unlessMissing_aside (h.imports module) (Keeps.pure aside_refl _)
    intro imported
    apply Keeps.bind aside_trans
    · exact Keeps.onlyIf aside_refl (bind_aside module attributes)
    intro _
    exact Keeps.bind aside_trans ih fun _ => Keeps.pure aside_refl _

lemma unpatchSdk_aside : Keeps (Aside green b) (unpatchSdk rt) := by
  apply Keeps.bind aside_trans
  · apply Keeps.tryExcept aside_trans h.original
    intro e
    exact Keeps.ite (Keeps.pure aside_refl none) (Keeps.raise aside_refl e)
  intro real
  cases real with
  | none => exact Keeps.pure aside_refl false
  | some real =>
    apply Keeps.bind aside_trans (Keeps.liftExcept aside_refl _)
    intro rebindings
    exact rebind_aside h rebindings

omit h in
lemma registerForkhook_aside : Keeps (Aside green b) (registerForkhook rt) := by
  apply Keeps.bind aside_trans (Keeps.reads aside_refl _)
  intro installed
  apply Keeps.ite (Keeps.pure aside_refl true)
  apply Keeps.ite (Keeps.pure aside_refl false)
  exact Keeps.bind aside_trans (fun _ => ⟨rfl, rfl, rfl⟩) fun _ => Keeps.pure aside_refl true

omit h in
lemma unlessMissing_of_error {m handler : Eff Exn (Process H) Unit} {p q : Process H} {e : Exn}
    (hm : m p = (.error e, q)) (hhandler : Keeps (Aside green b) handler) :
    ∃ r t, unlessMissing rt m handler p = (r, t) ∧ r ≠ .ok true ∧ Aside green b q t := by
  have hbody : (do
      m
      pure true) p = (.error e, q) := bind_of_error hm
  unfold unlessMissing
  rw [tryExcept_of_error hbody]
  split
  case isTrue =>
    have haside := hhandler q
    rcases hres : handler q with ⟨e' | u, t⟩ <;> rw [hres] at haside
    · exact ⟨.error e', t, bind_of_error hres, nofun, haside⟩
    · exact ⟨.ok false, t, bind_of_ok hres, nofun, haside⟩
  case isFalse => exact ⟨.error e, q, rfl, nofun, aside_refl q⟩

/-- What is done where the operator opted in. -/
lemma patch_patched {p : Process H} (hp : green p.host = false) :
    let patch : Eff Exn (Process H) Unit := do
      let patched ← unlessMissing rt
        (do
          rt.importModule "eventlet"
          rt.monkeyPatch)
        rt.warn
      onlyIf patched do
        setenv "OTEL_PYTHON_OSLO_SERVICE_BACKEND" "eventlet"
        let _ ← registerForkhook rt
        let _ ← unpatchSdk rt
        pure ⟨⟩
    Patched green b p (patch p).2 := by
  intro patch
  let tried : Eff Exn (Process H) Unit := do
    rt.importModule "eventlet"
    rt.monkeyPatch
  -- it raised: nothing has changed, and nothing more is done
  have hfailed {q : Process H} {e : Exn} (htried : tried p = (.error e, q))
      (haside : Aside green b p q) : Patched green b p (patch p).2 := by
    have hwarned : ∃ r t, unlessMissing rt tried rt.warn p = (r, t) ∧ r ≠ .ok true ∧
        Aside green b q t := unlessMissing_of_error htried h.warn
    obtain ⟨r, t, hmissing, hr, hleft⟩ := hwarned
    have hpatched := patched_of_aside hp (aside_trans _ _ _ haside hleft)
    rcases r with e' | patched
    · rw [show patch p = (.error e', t) from bind_of_error hmissing]
      exact hpatched
    · cases patched with
      | true => exact absurd rfl hr
      | false =>
        rw [show patch p = (.ok ⟨⟩, t) from bind_of_ok hmissing]
        exact hpatched
  have himport := h.imports "eventlet" p
  rcases hi : rt.importModule "eventlet" p with ⟨e | u, q⟩ <;> rw [hi] at himport
  · exact hfailed (bind_of_error hi) himport
  · rcases hm : rt.monkeyPatch q with ⟨e | u, t⟩
    · exact hfailed ((bind_of_ok hi).trans hm) (aside_trans _ _ _ himport (h.unpatched q t e hm))
    · have htried : tried p = (.ok (), t) := (bind_of_ok hi).trans hm
      obtain ⟨hgreen, hchosen⟩ := h.patched q t hm
      have hmissing : unlessMissing rt tried rt.warn p = (.ok true, t) :=
        tryExcept_of_ok (bind_of_ok htried)
      let named := t.setenv "OTEL_PYTHON_OSLO_SERVICE_BACKEND" "eventlet"
      have hnamed : Patched green b p named := by
        refine ⟨hchosen.trans himport.chosen, ?_⟩
        rw [show green named.host = true from hgreen]
        exact Process.environ_setenv_self t _ _
      have hrest : Keeps (Aside green b) (do
          let _ ← registerForkhook rt
          let _ ← unpatchSdk rt
          pure ⟨⟩ : Eff Exn (Process H) Unit) := by
        apply Keeps.bind aside_trans registerForkhook_aside
        intro _
        apply Keeps.bind aside_trans (unpatchSdk_aside h)
        intro _
        exact Keeps.pure aside_refl _
      rw [show patch p = (do
        let _ ← registerForkhook rt
        let _ ← unpatchSdk rt
        pure ⟨⟩ : Eff Exn (Process H) Unit) named from bind_of_ok hmissing]
      exact hnamed.aside (hrest named)

lemma tryPatch_patched {sep : Char} {thisDir : String} (hdir : thisDir ≠ "") {p : Process H}
    (hp : green p.host = false) : Patched green b p (tryPatch rt sep thisDir p).2 := by
  unfold tryPatch
  rw [bind_of_ok (reads_apply _ p)]
  split
  case isTrue => exact patched_of_aside hp (aside_refl p)
  case isFalse =>
    rw [stripPath_apply hdir]
    have hhidden : Aside green b p (Eventlet.hidden sep thisDir p) := by
      unfold Eventlet.hidden
      split
      · exact setenv_aside (by decide) _ p
      · exact aside_refl p
    have hrestored (q : Process H) : Aside green b q (restored sep thisDir p q) := by
      unfold restored
      split
      · exact setenv_aside (by decide) _ q
      · exact aside_refl q
    have hpatch := patch_patched h (hhidden.green.trans hp)
    exact (Patched.from_aside hhidden hpatch).aside (hrestored _)

lemma preInstrument_agrees {p q : Process H} (hq : Patched green b p q)
    (hnone : b.getBackendType p.host = none) : Agrees green b p (preInstrument (some b) q) := by
  obtain ⟨hchosen, henviron⟩ := hq
  rw [hnone] at hchosen
  have hasked : asked none q = if green q.host then some .eventlet else asked none p := by
    unfold asked backendName
    split at henviron
    case isTrue hgreen =>
      simp only [henviron, hgreen]
      rfl
    case isFalse hgreen =>
      simp only [henviron, hgreen]
      rfl
  unfold preInstrument
  cases hname : asked none q with
  | none =>
    rw [selectBackend_leaves (Or.inl hname)]
    rw [hname] at hasked
    refine ⟨fun _ hthreading => ?_, fun _ _ => hchosen.trans hasked⟩
    exact absurd (hchosen.symm.trans hthreading) nofun
  | some type =>
    obtain ⟨hstate, -⟩ := selectBackend_initializes hname hchosen
    rw [hname] at hasked
    unfold Agrees
    rw [hstate, h.green_init type q]
    refine ⟨fun hgreen hthreading => ?_, fun hworks _ => (hworks type q hchosen).trans hasked⟩
    rw [hgreen, if_pos rfl] at hasked
    obtain rfl := Option.some.inj hasked
    exact absurd (h.selects _ q _ hchosen hthreading) nofun

end

variable {rt : Runtime H} {base others : Eff Exn (Process H) Unit}

end

/-! ### An operator who opted in -/

/-- Whether sockets are green, and the backend. -/
abbrev Host := Bool × Option BackendType

def backends : Backends Host where
  getBackendType := Prod.snd
  initBackend type := modifies fun p => { p with host := (p.host.1, some (p.host.2.getD type)) }

/-- Eventlet is there, and patches. -/
def patching : Runtime Host where
  importModule _ := pure ⟨⟩
  isImportError _ := false
  monkeyPatch := modifies fun p => { p with host := (true, p.host.2) }
  warn := pure ⟨⟩
  hasRegisterAtFork := true
  original := pure none
  getattr _ _ := .ok 0

/-- The operator opted in, and asks for threads too. -/
def contradictory : Process Host where
  environ name :=
    if name = "OTEL_PYTHON_EVENTLET_MONKEY_PATCH" then some "true"
    else if name = "OTEL_PYTHON_OSLO_SERVICE_BACKEND" then some "threading"
    else none
  forkhookInstalled := false
  forkhooks := 0
  bound _ _ := none
  host := (false, none)

end OtelOpenstack.Startup
