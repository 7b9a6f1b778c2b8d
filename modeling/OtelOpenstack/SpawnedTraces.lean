import OtelOpenstack.Correlation
import OtelOpenstack.Spawns

/-!
One trace through spawned work.

The workers that call one another by requests and messages also submit callables, call them
and start threads, in any order and wherever they are. A worker that is inside a callable is
at work for the operation its closure was made in, however long ago and by whatever worker.
-/

set_option autoImplicit false

namespace OtelOpenstack.SpawnedTraces

open Effects Python Otel ContextApi Carriers Openings TraceContext Causes Propagation
open Http (Reading)
open Traces (Op Nested Idle opOf newOps newOps_eq_nil)
open Runs (run Legal inv_of_legal getElem?_append_of_some of_getElem?_append)
open Scopes (enters_ownSpan enters_session enters_proxy)
open HopSpecs (enters_send)

/-- What a worker is at: the operation it works for, and the context it began in. -/
structure Work (Ctx : Type) where
  op : Option ℕ
  home : Ctx

/-- Work that waits for a callable to come back, and the wrappers it is inside of. -/
structure Waiting (Ctx H α : Type) where
  work : Work Ctx
  frames : List (Traces.Frame Ctx H α)

/-- Beside every operation and every closure stands the operation it was made in, and so for
every thread that was started. -/
structure Joint (U Ctx H α : Type) where
  sys : Traces.Sys U Ctx H α
  host : Host U Ctx
  frames : U → List (Spawns.Frame U Ctx)
  causes : List (Option ℕ)
  madeIn : List (Option ℕ)
  startedIn : U → Option ℕ
  work : U → Work Ctx
  waiting : U → List (Waiting Ctx H α)

inductive Event (U Ctx H α : Type)
  | trace (e : Traces.Event U Ctx H α)
  | spawn (e : Spawns.Event U Ctx)

section

variable {U Ctx H α : Type}

/-- The worker that takes the step. -/
def worker : Traces.Event U Ctx H α → U
  | .work u _ _ => u
  | .proxy u _ _ _ => u
  | .session u _ _ => u
  | .send u _ _ _ _ => u
  | .transmit u => u
  | .serve u _ _ _ => u
  | .dispatch u _ _ _ _ => u
  | .store u _ _ => u
  | .leave u _ => u

/-- The operation the innermost closure of a callable was made in. -/
def madeUnder (madeIn : List (Option ℕ)) (here : Option ℕ) : Fn Ctx → Option ℕ
  | .own _ => here
  | .traced ref _ func => madeUnder madeIn (madeIn.getD ref none) func

/-- The operation a worker is inside of, or works for. -/
def Joint.inside (s : Joint U Ctx H α) (u : U) : Option ℕ :=
  (s.sys.caller u).or (s.work u).op

/-- The workers, as far as spawned work goes. -/
def Joint.spawns (s : Joint U Ctx H α) : Spawns.Sys U Ctx :=
  ⟨fun u => (s.sys.workers u).current, s.host, s.frames⟩

def Joint.init (start : U → Ctx) (host : U → H) : Joint U Ctx H α where
  sys := Traces.Sys.init start host
  host := ⟨[], [], [], fun _ => none⟩
  frames := fun _ => []
  causes := []
  madeIn := []
  startedIn := fun _ => none
  work := fun u => ⟨none, start u⟩
  waiting := fun _ => []

variable [DecidableEq U]

/-- A worker is in another context, inside other wrappers. -/
def moved (sys : Traces.Sys U Ctx H α) (u : U) (c : Ctx)
    (frames : List (Traces.Frame Ctx H α)) : Traces.Sys U Ctx H α :=
  { sys with
    workers := Function.update sys.workers u { sys.workers u with current := c, frames } }

@[simp] lemma moved_ops (sys : Traces.Sys U Ctx H α) (u : U) (c : Ctx)
    (frames : List (Traces.Frame Ctx H α)) : (moved sys u c frames).ops = sys.ops := rfl

/-- A worker is at other work, which other work waits for. -/
def Joint.put (s : Joint U Ctx H α) (u : U) (c : Ctx) (w : Waiting Ctx H α)
    (frames : List (Spawns.Frame U Ctx)) (waiting : List (Waiting Ctx H α)) : Joint U Ctx H α :=
  { s with
    sys := moved s.sys u c w.frames
    frames := Function.update s.frames u frames
    work := Function.update s.work u w.work
    waiting := Function.update s.waiting u waiting }

/-- A worker begins work for `op`. -/
def Joint.begin (s : Joint U Ctx H α) (u : U) (op : Option ℕ) (v : Spawns.Sys U Ctx) :
    Joint U Ctx H α :=
  { s.put u (v.current u) ⟨⟨op, v.current u⟩, []⟩ (v.frames u)
      (⟨s.work u, (s.sys.workers u).frames⟩ :: s.waiting u) with
    host := v.host }

/-- A worker goes on with what was waiting. -/
def Joint.resume (s : Joint U Ctx H α) (u : U) (v : Spawns.Sys U Ctx) : Joint U Ctx H α :=
  match s.waiting u with
  | [] => s
  | w :: ws => { s.put u (v.current u) w (v.frames u) ws with host := v.host }

variable [Propagator Ctx]

variable (r : Reading α)

def step (s : Joint U Ctx H α) : Event U Ctx H α → Joint U Ctx H α
  | .trace e =>
    let sys := Traces.step r s.sys e
    { s with
      sys
      causes := s.causes ++ (sys.ops.drop s.sys.ops.length).map fun op =>
        op.cause.or (s.work (worker e)).op }
  | .spawn e =>
    let v := Spawns.step s.spawns e
    match e with
    | .submit u _ _ _ =>
      { s with
        host := v.host
        madeIn := s.madeIn ++ (v.host.made.drop s.host.made.length).map fun _ => s.inside u }
    | .invoke u f _ _ => s.begin u (madeUnder s.madeIn (s.inside u) f) v
    | .leave u => s.resume u v
    | .ambient u c => { s with sys := moved s.sys u c (s.sys.workers u).frames }
    | .start u t =>
      { s with
        host := v.host
        startedIn := Function.update s.startedIn t (s.inside u) }
    | .runThread t =>
      s.begin t (if (s.host.contextAttr t).isSome then s.startedIn t else s.inside t) v

/-- Work ends when the wrappers it went into have been left, and contexts change by wrappers
and spawned work alone. -/
def Ok (s : Joint U Ctx H α) : Event U Ctx H α → Prop
  | .trace e => Traces.Ok s.sys e
  | .spawn (.leave u) => Spawns.Legal s.spawns (.leave u) ∧ (s.sys.workers u).frames = []
  | .spawn (.ambient _ _) => False
  | .spawn e => Spawns.Legal s.spawns e

end

/-! ### What holds throughout -/

section

variable {U Ctx H α : Type} [Propagator Ctx]

/-- The context is one of the operation; outside of any, one that a worker started with. -/
structure Held (ops : List Op) (start : U → Ctx) (op : Option ℕ) (c : Ctx) : Prop where
  on : enabled c = true
  outside : op = none → ∃ u, c = start u
  inside : ∀ i, op = some i → ∃ o, ops[i]? = some o ∧ o.span.isValid = true ∧ spanIn c = o.span

/-- What waits is where the wrappers' tokens lead back to. -/
def Stacked (ops : List Op) (start : U → Ctx) :
    Ctx → List (Spawns.Frame U Ctx) → List (Waiting Ctx H α) → Prop
  | _, [], [] => True
  | home, f :: fs, w :: ws =>
    (f.tokens = [] → f.before = home) ∧ Nested ops w.work.home f.before w.frames ∧
      Held ops start w.work.op w.work.home ∧ Stacked ops start w.work.home fs ws
  | _, _, _ => False

structure Inv (start : U → Ctx) (s : Joint U Ctx H α) : Prop where
  traces : Traces.Inv (fun u => (s.work u).home) s.sys
  spawns : Spawns.Inv s.spawns
  works : ∀ u, Held s.sys.ops start (s.work u).op (s.work u).home
  stacked : ∀ u, Stacked s.sys.ops start (s.work u).home (s.frames u) (s.waiting u)
  placed : s.madeIn.length = s.host.made.length
  closures : ∀ (k : ℕ) ref captured func, s.host.made[k]? = some (.traced ref captured func) →
    Held s.sys.ops start (s.madeIn.getD k none) captured
  threads : ∀ t c, s.host.contextAttr t = some c → Held s.sys.ops start (s.startedIn t) c
  beside : s.causes.length = s.sys.ops.length
  caused : ∀ (i : ℕ) (op : Op) j, s.sys.ops[i]? = some op → s.causes[i]? = some (some j) →
    j < i ∧ ∃ origin, s.sys.ops[j]? = some origin ∧ op.parent = origin.span ∧
      op.span.traceId = origin.span.traceId

variable {start : U → Ctx} {s : Joint U Ctx H α}

lemma Held.append {ops : List Op} {op : Option ℕ} {c : Ctx} (h : Held ops start op c)
    (more : List Op) : Held (ops ++ more) start op c := by
  refine ⟨h.on, h.outside, fun i hi => ?_⟩
  obtain ⟨o, ho, hrest⟩ := h.inside i hi
  exact ⟨o, getElem?_append_of_some ho more, hrest⟩

lemma Stacked.append {ops : List Op} {home : Ctx} {fs : List (Spawns.Frame U Ctx)}
    {ws : List (Waiting Ctx H α)} (h : Stacked ops start home fs ws) (more : List Op) :
    Stacked (ops ++ more) start home fs ws := by
  induction fs generalizing home ws with
  | nil =>
    cases ws with
    | nil => trivial
    | cons w ws => exact h.elim
  | cons f fs ih =>
    cases ws with
    | nil => exact h.elim
    | cons w ws =>
      obtain ⟨htokens, hnested, hheld, hrest⟩ := h
      exact ⟨htokens, hnested.append more, hheld.append more, ih hrest⟩

lemma Inv.init (hstart : ∀ u, enabled (start u) = true) (host : U → H) :
    Inv start (Joint.init start host : Joint U Ctx H α) := by
  refine ⟨Traces.Inv.init start host, ⟨?_, ?_, ?_⟩, ?_, ?_, rfl, ?_, ?_, rfl, ?_⟩
  · exact fun f hf => absurd hf List.not_mem_nil
  · exact fun b hb => absurd hb List.not_mem_nil
  · exact fun u f hf => absurd hf List.not_mem_nil
  · exact fun u => ⟨hstart u, fun _ => ⟨u, rfl⟩, fun i hi => absurd hi nofun⟩
  · exact fun u => trivial
  · exact fun k ref captured func hk => absurd hk nofun
  · exact fun t c hc => absurd hc nofun
  · exact fun i op j hi => absurd hi nofun

/-- The current context is that of the operation a worker is inside of, or works for. -/
lemma Inv.held (h : Inv start s) (u : U) :
    Held s.sys.ops start (s.inside u) (s.sys.workers u).current := by
  have hnested := h.traces.nested u
  unfold Joint.inside Traces.Sys.caller
  cases hfs : (s.sys.workers u).frames with
  | nil =>
    rw [hfs] at hnested
    have hcurrent : (s.sys.workers u).current = (s.work u).home := hnested
    rw [hcurrent]
    exact h.works u
  | cons f fs =>
    rw [hfs] at hnested
    obtain ⟨⟨op, hop⟩, -⟩ := hnested
    refine ⟨hop.enabled, fun hnone => absurd hnone nofun, fun i hi => ?_⟩
    obtain rfl : f.op = i := Option.some.inj hi
    exact ⟨op, hop.listed, (h.traces.linked _ _ hop.listed).valid, hop.current⟩

/-- The context the program's own callable finds is that of the operation the innermost closure
was made in. -/
lemma Inv.held_inside (h : Inv start s) {f : Fn Ctx} (hf : Spawns.Genuine s.host.made f)
    {here : Option ℕ} {c : Ctx} (hhere : Held s.sys.ops start here c) :
    Held s.sys.ops start (madeUnder s.madeIn here f) (f.inside c) := by
  induction f generalizing here c with
  | own id => exact hhere
  | traced ref captured func ih =>
    obtain ⟨hmade, hfunc⟩ := hf
    exact ih hfunc (h.closures ref ref captured func hmade)

/-- A worker inside of an operation, or at work for one, has an active span. -/
lemma Inv.not_idle (h : Inv start s) {u : U} {j : ℕ} (hj : (s.work u).op = some j) :
    ¬ Idle s.sys u := by
  intro hidle
  have hheld := h.held u
  unfold Joint.inside at hheld
  rw [hj] at hheld
  obtain ⟨i, hi⟩ : ∃ i, (s.sys.caller u).or (some j) = some i := by
    cases s.sys.caller u <;> exact ⟨_, rfl⟩
  obtain ⟨o, -, hvalid, hspan⟩ := hheld.inside i hi
  unfold Idle at hidle
  rw [hspan, hvalid] at hidle
  exact absurd hidle nofun

end

/-! ### What a wrapper starts -/

section

variable {U Ctx H α : Type} [DecidableEq U] [Propagator Ctx] {sys : Traces.Sys U Ctx H α} {u : U}

lemma ops_of_noStart {w : World Ctx H} (h : NoStart (sys.world u) w) (cause : Option ℕ)
    (fs : List (Traces.Frame Ctx H α)) : (sys.ran u cause fs w).ops = sys.ops := by
  obtain ⟨cs, hcs, hcalls⟩ := h
  simp only [Traces.Sys.ran]
  rw [hcalls, Traces.Sys.world, List.drop_left, newOps_eq_nil hcs, List.append_nil]

lemma ops_of_started {kind : SpanKind} {parent : SpanContext} {w : World Ctx H}
    (h : Started kind parent (sys.world u) w) (cause : Option ℕ)
    (fs : List (Traces.Frame Ctx H α)) :
    (sys.ran u cause fs w).ops = sys.ops ++
      [⟨cause, spanIn (sys.workers u).current, newSpan sys.calls parent, parent, kind⟩] := by
  obtain ⟨name, attributes, cs, hcs, hcalls⟩ := h
  simp only [Traces.Sys.ran]
  rw [hcalls, Traces.Sys.world, List.drop_left, newOps, List.filterMap_cons]
  simp only [opOf]
  rw [← newOps, newOps_eq_nil hcs]

/-- At most one operation is started: one that the worker calls where it is. -/
def StartsCalled (sys : Traces.Sys U Ctx H α) (u : U) (ops : List Op) : Prop :=
  ops = sys.ops ∨ ∃ kind, ops = sys.ops ++
    [⟨sys.caller u, spanIn (sys.workers u).current,
      newSpan sys.calls (spanIn (sys.workers u).current), spanIn (sys.workers u).current, kind⟩]

lemma startsCalled_enter {ι : Type} {m : Wrapping Ctx H ι α}
    {sends : List Dict → ι → Option (Wires.Hop × Dict)} {kind : SpanKind} {c : Ctx}
    {Q : SpanContext → ι → World Ctx H → Prop}
    (h : Enters kind (spanIn (sys.workers u).current) c Q (sys.world u)
      (m.enter (sys.world u))) :
    StartsCalled sys u (sys.enter u (sys.caller u) sends m).ops := by
  unfold Traces.Sys.enter
  rcases hm : m.enter (sys.world u) with ⟨e | o, w⟩ <;> rw [hm] at h
  · obtain ⟨-, hquiet | hstarted⟩ := h
    · exact Or.inl (ops_of_noStart hquiet _ _)
    · exact Or.inr ⟨kind, ops_of_started hstarted _ _⟩
  · exact Or.inr ⟨kind, ops_of_started h.1 _ _⟩

/-- What a worker with an active span starts, it calls. -/
lemma startsCalled_step [Faithful Ctx] {r : Reading α} {home : U → Ctx} (h : Traces.Inv home sys)
    {e : Traces.Event U Ctx H α} (hon : enabled (sys.workers (worker e)).current = true)
    (hidle : ¬ Idle sys (worker e)) (hok : Traces.Ok sys e) :
    StartsCalled sys (worker e) (Traces.step r sys e).ops := by
  cases e with
  | work u name attributes =>
    exact startsCalled_enter (enters_ownSpan (α := α) name attributes (w := sys.world u) hon)
  | proxy u proxy args kwargs =>
    exact startsCalled_enter (enters_proxy r proxy args kwargs (w := sys.world u) hon)
  | session u args kwargs =>
    exact startsCalled_enter (enters_session r args kwargs (w := sys.world u) hon)
  | send u isNotification transport args kwargs =>
    obtain ⟨ref, hctxt, href⟩ := hok
    exact startsCalled_enter
      (enters_send (α := α) isNotification transport (w := sys.world u) hon hctxt href)
  | transmit u => exact Or.inl rfl
  | serve u source environ startResponse => exact absurd hok.1 hidle
  | dispatch u style source args kwargs => exact absurd hok.1 hidle
  | store u dicts host => exact Or.inl rfl
  | leave u result =>
    have hnested := h.nested u
    cases hfs : (sys.workers u).frames with
    | nil =>
      simp only [Traces.step, hfs]
      exact Or.inl rfl
    | cons f fs =>
      rw [hfs] at hnested
      obtain ⟨-, before, hexit, -⟩ := hnested
      simp only [Traces.step, hfs]
      exact Or.inl (ops_of_noStart (hexit result (sys.world u)).2 none fs)

end

/-! ### Steps -/

section

variable {U Ctx H α : Type} [DecidableEq U] [Propagator Ctx] {start : U → Ctx}
  {s : Joint U Ctx H α}

/-- A worker is put to other work; `host` is what is left of the calls that do it. -/
lemma Inv.put (h : Inv start s) {u : U} {c : Ctx} {w : Waiting Ctx H α}
    {frames : List (Spawns.Frame U Ctx)} {waiting : List (Waiting Ctx H α)} {host : Host U Ctx}
    (hmade : host.made = s.host.made) (hattr : host.contextAttr = s.host.contextAttr)
    (hfaithful : ∀ b ∈ host.begun, Spawns.Faithful host.made b)
    (hsound : ∀ f ∈ frames, f.Sound) (hnested : Nested s.sys.ops w.work.home c w.frames)
    (hheld : Held s.sys.ops start w.work.op w.work.home)
    (hstacked : Stacked s.sys.ops start w.work.home frames waiting) :
    Inv start { s.put u c w frames waiting with host } := by
  refine ⟨⟨h.traces.spans, h.traces.linked, h.traces.genuine, ?_⟩, ⟨?_, hfaithful, ?_⟩, ?_, ?_,
    ?_, ?_, ?_, h.beside, h.caused⟩
  · intro u'
    by_cases hu : u' = u
    · subst hu
      simpa only [Joint.put, moved, Function.update_self] using hnested
    · simpa only [Joint.put, moved, Function.update_of_ne hu] using h.traces.nested u'
  · intro f hf
    simp only [Joint.spawns, hmade] at hf ⊢
    exact h.spawns.genuine f hf
  · exact Runs.forall_mem_update h.spawns.frames hsound
  · intro u'
    by_cases hu : u' = u
    · subst hu
      simpa only [Joint.put, moved_ops, Function.update_self] using hheld
    · simpa only [Joint.put, moved_ops, Function.update_of_ne hu] using h.works u'
  · intro u'
    by_cases hu : u' = u
    · subst hu
      simpa only [Joint.put, moved_ops, Function.update_self] using hstacked
    · simpa only [Joint.put, moved_ops, Function.update_of_ne hu] using h.stacked u'
  · exact h.placed.trans (congrArg List.length hmade.symm)
  · intro k ref captured func hk
    exact h.closures k ref captured func (hmade ▸ hk)
  · intro t c hc
    exact h.threads t c (hattr ▸ hc)

/-- A worker begins a callable. -/
lemma Inv.begin (h : Inv start s) {u : U} {op : Option ℕ} {v : Spawns.Sys U Ctx}
    {f : Spawns.Frame U Ctx} {c : Ctx} (hv : Spawns.Inv v) (hmade : v.host.made = s.host.made)
    (hattr : v.host.contextAttr = s.host.contextAttr) (hframes : v.frames u = f :: s.frames u)
    (hcurrent : v.current u = c) (hbefore : f.before = (s.sys.workers u).current)
    (htokens : f.tokens = [] → f.before = c) (hheld : Held s.sys.ops start op c) :
    Inv start (s.begin u op v) := by
  have hsound : ∀ f ∈ v.frames u, f.Sound := hv.frames u
  unfold Joint.begin
  rw [hcurrent]
  rw [hframes] at hsound ⊢
  refine h.put hmade hattr hv.faithful hsound rfl hheld ⟨htokens, ?_, h.works u, h.stacked u⟩
  rw [hbefore]
  exact h.traces.nested u

/-- A worker comes back to what it was at. -/
lemma Inv.resume (h : Inv start s) {u : U} {v : Spawns.Sys U Ctx}
    {f : Spawns.Frame U Ctx} {fs : List (Spawns.Frame U Ctx)} (hv : Spawns.Inv v)
    (hmade : v.host.made = s.host.made) (hattr : v.host.contextAttr = s.host.contextAttr)
    (hu : s.frames u = f :: fs) (hframes : v.frames u = fs)
    (hcurrent : v.current u = if f.tokens = [] then (s.sys.workers u).current else f.before)
    (hnone : (s.sys.workers u).frames = []) : Inv start (s.resume u v) := by
  have hsound : ∀ f ∈ v.frames u, f.Sound := hv.frames u
  have hstacked := h.stacked u
  have hnested := h.traces.nested u
  rw [hu] at hstacked
  rw [hnone] at hnested
  have hhome : (s.sys.workers u).current = (s.work u).home := hnested
  unfold Joint.resume
  cases hws : s.waiting u with
  | nil =>
    rw [hws] at hstacked
    exact hstacked.elim
  | cons w ws =>
    rw [hws] at hstacked
    obtain ⟨htokens, hwaiting, hheld, hrest⟩ := hstacked
    have hback : v.current u = f.before := by
      rw [hcurrent]
      split
      · next hnil => rw [htokens hnil, hhome]
      · rfl
    dsimp only
    rw [hback]
    rw [hframes] at hsound ⊢
    exact h.put hmade hattr hv.faithful hsound hwaiting hheld hrest

/-- A worker that spawns nothing, and begins and ends nothing that was spawned. -/
lemma Inv.trace [Faithful Ctx] {r : Reading α} (h : Inv start s) {e : Traces.Event U Ctx H α}
    (hok : Traces.Ok s.sys e) : Inv start (step r s (.trace e)) := by
  have htraces := h.traces.step (r := r) (fun u => (h.works u).on) hok
  obtain ⟨more, hmore⟩ := Correlation.ops_step (r := r) s.sys e
  have hops : (step r s (.trace e)).sys.ops = s.sys.ops ++ more := hmore.symm
  have hcauses : (step r s (.trace e)).causes =
      s.causes ++ more.map fun op => op.cause.or (s.work (worker e)).op := by
    simp only [step]
    rw [← hmore, List.drop_left]
  refine ⟨htraces, ⟨h.spawns.genuine, h.spawns.faithful, h.spawns.frames⟩, ?_, ?_, h.placed,
    ?_, ?_, ?_, ?_⟩
  · rw [hops]
    exact fun u => (h.works u).append more
  · rw [hops]
    exact fun u => (h.stacked u).append more
  · rw [hops]
    exact fun k ref captured func hk => (h.closures k ref captured func hk).append more
  · rw [hops]
    exact fun t c hc => (h.threads t c hc).append more
  · rw [hcauses, hops, List.length_append, List.length_append, List.length_map, h.beside]
  · intro i op j hi hj
    have hlinked := htraces.linked i op hi
    rw [hcauses] at hj
    rw [hops] at hi ⊢
    by_cases hlt : i < s.sys.ops.length
    · rw [List.getElem?_append_left hlt] at hi
      rw [List.getElem?_append_left (h.beside ▸ hlt)] at hj
      obtain ⟨hji, origin, horigin, hrest⟩ := h.caused i op j hi hj
      exact ⟨hji, origin, getElem?_append_of_some horigin more, hrest⟩
    · have hle : s.sys.ops.length ≤ i := Nat.le_of_not_lt hlt
      rw [List.getElem?_append_right hle] at hi
      rw [List.getElem?_append_right (h.beside ▸ hle), h.beside, List.getElem?_map, hi] at hj
      have hor : op.cause.or (s.work (worker e)).op = some j := Option.some.inj hj
      cases hcause : op.cause with
      | some k =>
        rw [hcause] at hor
        obtain rfl : k = j := Option.some.inj hor
        obtain ⟨hki, origin, horigin, hparent, htrace, -⟩ := hlinked.caused k hcause
        exact ⟨hki, origin, hops ▸ horigin, hparent, htrace⟩
      | none =>
        -- the operation was called from the worker's outermost code
        rw [hcause] at hor
        have hwork : (s.work (worker e)).op = some j := hor
        have hheld := h.held (worker e)
        have hcalled := startsCalled_step (r := r) h.traces hheld.on (h.not_idle hwork) hok
        rcases hcalled with hnone | ⟨kind, hone⟩
        · have hempty : more = [] := List.append_right_eq_self.mp (hmore.trans hnone)
          rw [hempty] at hi
          exact absurd hi nofun
        · obtain rfl := List.append_cancel_left (hmore.trans hone)
          have hzero : i - s.sys.ops.length = 0 := by
            have hbound := (List.getElem?_eq_some_iff.mp hi).1
            rw [List.length_singleton] at hbound
            omega
          rw [hzero] at hi
          obtain rfl := Option.some.inj hi
          have hcaller : s.sys.caller (worker e) = none := hcause
          have hinside : s.inside (worker e) = some j := by
            unfold Joint.inside
            rw [hcaller, hwork]
            rfl
          obtain ⟨o, ho, hvalid, hspan⟩ := hheld.inside j hinside
          have hj' : j < s.sys.ops.length := (List.getElem?_eq_some_iff.mp ho).1
          refine ⟨Nat.lt_of_lt_of_le hj' hle, o, getElem?_append_of_some ho _, hspan, ?_⟩
          rw [hspan]
          exact newSpan_traceId _ hvalid

/-- A worker submits, begins or ends a callable, starts a thread or runs one. -/
lemma Inv.spawn {r : Reading α} (h : Inv start s) {e : Spawns.Event U Ctx}
    (hok : Ok s (.spawn e)) : Inv start (step r s (.spawn e)) := by
  cases e with
  | submit u funcIndex args kwargs =>
    have hlegal : Spawns.Legal s.spawns (.submit u funcIndex args kwargs) := hok
    have hnext := Spawns.inv_step _ _ h.spawns hlegal
    obtain ⟨hon, func, hfunc, -⟩ := hlegal
    simp only [step]
    rw [Spawns.step_submit hon hfunc] at hnext ⊢
    refine ⟨h.traces, ⟨hnext.genuine, hnext.faithful, hnext.frames⟩, h.works, h.stacked, ?_, ?_,
      h.threads, h.beside, h.caused⟩
    · simp [Joint.spawns, h.placed]
    · intro k ref captured func' hk
      simp only [Joint.spawns, List.drop_left, List.map_singleton, List.getD_eq_getElem?_getD]
      rcases of_getElem?_append hk with hold | ⟨rfl, hnew⟩
      · have hlt : k < s.madeIn.length := by
          rw [h.placed]
          exact (List.getElem?_eq_some_iff.mp hold).1
        rw [List.getElem?_append_left hlt, ← List.getD_eq_getElem?_getD]
        exact h.closures k ref captured func' hold
      · obtain ⟨-, rfl, -⟩ := Fn.traced.inj hnew
        have hplace : (s.madeIn ++ [s.inside u])[s.spawns.host.made.length]? =
            some (s.inside u) := by
          rw [show s.spawns.host.made.length = s.madeIn.length from h.placed.symm]
          exact List.getElem?_concat_length
        rw [hplace]
        exact h.held u
  | invoke u f args kwargs =>
    have hlegal : Spawns.Legal s.spawns (.invoke u f args kwargs) := hok
    have hnext := Spawns.inv_step _ _ h.spawns hlegal
    have hgenuine := h.spawns.of_known hlegal
    simp only [step]
    rw [Spawns.step_invoke] at hnext ⊢
    refine h.begin hnext rfl rfl (Function.update_self ..) (Function.update_self ..) rfl ?_
      (h.held_inside hgenuine (h.held u))
    intro hnil
    cases f with
    | own id => rfl
    | traced ref captured func => exact absurd hnil (by simp [Fn.tokens])
  | leave u =>
    obtain ⟨hlegal, hnone⟩ := hok
    have hnext := Spawns.inv_step _ _ h.spawns hlegal
    obtain ⟨f, fs, hu⟩ := List.exists_cons_of_ne_nil hlegal
    have hsound := h.spawns.frames u f (hu ▸ List.mem_cons_self ..)
    simp only [step]
    rw [Spawns.step_leave hu hsound] at hnext ⊢
    exact h.resume hnext rfl rfl hu (Function.update_self ..) (Function.update_self ..) hnone
  | ambient u c => exact hok.elim
  | start u t =>
    simp only [step]
    rw [Spawns.step_start]
    refine ⟨h.traces, ⟨h.spawns.genuine, h.spawns.faithful, h.spawns.frames⟩, h.works, h.stacked,
      h.placed, h.closures, ?_, h.beside, h.caused⟩
    intro t' c hc
    by_cases ht : t' = t
    · subst ht
      simp only [Joint.spawns, Function.update_self] at hc ⊢
      obtain rfl := Option.some.inj hc
      exact h.held u
    · simp only [Joint.spawns, Function.update_of_ne ht] at hc ⊢
      exact h.threads t' c hc
  | runThread t =>
    have hlegal : Spawns.Legal s.spawns (.runThread t) := hok
    have hnext := Spawns.inv_step _ _ h.spawns hlegal
    simp only [step]
    rw [Spawns.step_runThread] at hnext ⊢
    have hheld := h.held t
    cases hattr : s.host.contextAttr t with
    | none =>
      have hgetD : (s.spawns.host.contextAttr t).getD (s.spawns.current t) =
          (s.sys.workers t).current := by
        rw [show s.spawns.host.contextAttr t = none from hattr]
        rfl
      exact h.begin hnext rfl rfl (Function.update_self ..)
        ((Function.update_self ..).trans hgetD) rfl (fun _ => rfl)
        hheld
    | some c =>
      have hgetD : (s.spawns.host.contextAttr t).getD (s.spawns.current t) = c := by
        rw [show s.spawns.host.contextAttr t = some c from hattr]
        rfl
      refine h.begin hnext rfl rfl (Function.update_self ..)
        ((Function.update_self ..).trans hgetD) rfl ?_
        (h.threads t c hattr)
      intro hnil
      rw [show s.spawns.host.contextAttr t = some c from hattr] at hnil
      exact absurd hnil (List.cons_ne_nil _ _)

theorem Inv.step [Faithful Ctx] {r : Reading α} (h : Inv start s) {e : Event U Ctx H α}
    (hok : Ok s e) : Inv start (step r s e) := by
  cases e with
  | trace e => exact h.trace hok
  | spawn e => exact h.spawn hok

/-- Operations are added, and none is taken away. -/
lemma ops_step {r : Reading α} (s : Joint U Ctx H α) (e : Event U Ctx H α) :
    s.sys.ops <+: (step r s e).sys.ops := by
  cases e with
  | trace e => exact Correlation.ops_step s.sys e
  | spawn e =>
    cases e with
    | leave u =>
      simp only [step, Joint.resume]
      split <;> exact List.prefix_refl _
    | _ => exact List.prefix_refl _

end

/-! ### Roots -/

section

variable {U Ctx H α : Type} [Propagator Ctx] {start : U → Ctx} {s : Joint U Ctx H α}

lemma Inv.founded (h : Inv start s) : Founded id s.causes := by
  rintro i j ⟨cause, hi, rfl⟩
  have hlt : i < s.sys.ops.length := h.beside ▸ (List.getElem?_eq_some_iff.mp hi).1
  exact (h.caused i _ j (List.getElem?_eq_getElem hlt) hi).1

lemma Inv.exists_root (h : Inv start s) {i : ℕ} {op : Op} (hi : s.sys.ops[i]? = some op) :
    ∃ j root, RootOf id s.causes j i ∧ s.sys.ops[j]? = some root := by
  have hlt : i < s.causes.length := h.beside ▸ (List.getElem?_eq_some_iff.mp hi).1
  obtain ⟨j, hroot⟩ := exists_rootOf h.founded hlt
  obtain ⟨cause, hj, -⟩ := hroot.1
  have hj' : j < s.sys.ops.length := h.beside ▸ (List.getElem?_eq_some_iff.mp hj).1
  exact ⟨j, _, hroot, List.getElem?_eq_getElem hj'⟩

/-- An operation is in the trace of its root. -/
lemma Inv.trace_of_root (h : Inv start s) {i j : ℕ} {op root : Op}
    (hroot : RootOf id s.causes j i) (hi : s.sys.ops[i]? = some op)
    (hj : s.sys.ops[j]? = some root) : op.span.traceId = root.span.traceId := by
  let trace (k : ℕ) : Option ℕ := s.sys.ops[k]?.map fun op => op.span.traceId
  have hedge : ∀ k l, CausedBy id s.causes k l → trace k = trace l := by
    rintro k l ⟨cause, hk, rfl⟩
    have hlt : k < s.sys.ops.length := h.beside ▸ (List.getElem?_eq_some_iff.mp hk).1
    have hop : s.sys.ops[k]? = some s.sys.ops[k] := List.getElem?_eq_getElem hlt
    obtain ⟨-, origin, horigin, -, htrace⟩ := h.caused k _ l hop hk
    simp only [trace, hop, horigin, Option.map_some, htrace]
  have hsame := hroot.inherits hedge
  simp only [trace, hi, hj, Option.map_some] at hsame
  exact Option.some.inj hsame

end

end OtelOpenstack.SpawnedTraces
