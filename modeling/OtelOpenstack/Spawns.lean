import OtelOpenstack.Propagation
import OtelOpenstack.Runs

/-!
Spawned work under any schedule.

Units of execution submit callables through wrapped entry points, call callables whenever and
wherever they like, and change contexts in between. A closure is made for one submission and
carries the context of that one.
-/

set_option autoImplicit false

namespace OtelOpenstack.Spawns

open Effects Python Otel ContextApi Propagation

/-- What a frame is the body of. -/
inductive Work (U Ctx : Type)
  | call (f : Fn Ctx)
  | thread (t : U)

/-- A body a unit is inside of, the context the unit had before and the wrappers' tokens. -/
structure Frame (U Ctx : Type) where
  work : Work U Ctx
  before : Ctx
  tokens : List (Token Ctx)

structure Sys (U Ctx : Type) where
  current : U → Ctx
  host : Host U Ctx
  frames : U → List (Frame U Ctx)

/-- A unit calls a wrapped spawn, begins a call, ends what it is inside of, or has its context
changed otherwise; it starts a thread; a thread begins its run. -/
inductive Event (U Ctx : Type)
  | submit (u : U) (funcIndex : ℕ) (args : Args Ctx) (kwargs : Kwargs Ctx)
  | invoke (u : U) (f : Fn Ctx) (args : Args Ctx) (kwargs : Kwargs Ctx)
  | leave (u : U)
  | ambient (u : U) (c : Ctx)
  | start (u t : U)
  | runThread (t : U)

section

variable {U Ctx α : Type}

/-- The wrapper around a thread's run, up to its body. -/
def enterRun (t : U) : SpawnCode U Ctx (List (Token Ctx)) := do
  let captured ← reads fun w => w.host.contextAttr t
  match captured with
  | none => pure []
  | some c => do
    let token ← attach c
    pure [token]

theorem wrapThreadRun_eq (wrapped : SpawnCode U Ctx α) (t : U) :
    wrapThreadRun wrapped t = (do
      let tokens ← enterRun t
      tryFinally wrapped (exitCall tokens)) := by
  funext w
  rcases h : w.host.contextAttr t with _ | c
  · simp [wrapThreadRun, enterRun, bind_apply, h, exitCall]
  · simp [wrapThreadRun, enterRun, bind_apply, h, exitCall, Effects.tryFinally]

/-- An original entry point, as far as the wrapper sees: it is called. -/
def receive (args : Args Ctx) (kwargs : Kwargs Ctx) : SpawnCode U Ctx Unit :=
  modifies fun w =>
    { w with host := { w.host with received := w.host.received ++ [(args, kwargs)] } }

def Sys.init (current : U → Ctx) : Sys U Ctx :=
  ⟨current, ⟨[], [], [], fun _ => none⟩, fun _ => []⟩

def Sys.view (s : Sys U Ctx) (u : U) : SpawnWorld U Ctx := ⟨s.current u, [], [], s.host⟩

variable [DecidableEq U]

def Sys.store (s : Sys U Ctx) (u : U) (v : SpawnWorld U Ctx) : Sys U Ctx :=
  { s with current := Function.update s.current u v.current, host := v.host }

def Sys.push (s : Sys U Ctx) (u : U) (work : Work U Ctx) (before : Ctx) :
    Except Exn (List (Token Ctx)) → Sys U Ctx
  | .ok tokens =>
    { s with frames := Function.update s.frames u (⟨work, before, tokens⟩ :: s.frames u) }
  | .error _ => s

variable [ContextApi Ctx]

def step (s : Sys U Ctx) : Event U Ctx → Sys U Ctx
  | .submit u funcIndex args kwargs =>
    s.store u (spawnWrapper funcIndex receive args kwargs (s.view u)).2
  | .invoke u f args kwargs =>
    let r := enterCall none f args kwargs (s.view u)
    (s.store u r.2).push u (.call f) (s.current u) r.1
  | .leave u => match s.frames u with
    | [] => s
    | frame :: frames =>
      { s.store u (exitCall frame.tokens (s.view u)).2 with
        frames := Function.update s.frames u frames }
  | .ambient u c => { s with current := Function.update s.current u c }
  | .start u t => s.store u (wrapThreadStart (pure ()) t (s.view u)).2
  | .runThread t =>
    let r := enterRun t (s.view t)
    (s.store t r.2).push t (.thread t) (s.current t) r.1

/-! ### Closures -/

omit [DecidableEq U] [ContextApi Ctx]

/-- The callables there are: the program's own, and the closures made so far. -/
def Known (s : Sys U Ctx) : Fn Ctx → Prop
  | .own _ => True
  | f => f ∈ s.host.made

/-- The closures a callable consists of are the ones made under their numbers. -/
def Genuine (made : List (Fn Ctx)) : Fn Ctx → Prop
  | .own _ => True
  | .traced ref captured func =>
    made[ref]? = some (.traced ref captured func) ∧ Genuine made func

lemma Genuine.append {made : List (Fn Ctx)} {f : Fn Ctx} (h : Genuine made f)
    (more : List (Fn Ctx)) : Genuine (made ++ more) f := by
  induction f with
  | own id => trivial
  | traced ref captured func ih =>
    obtain ⟨hmade, hfunc⟩ := h
    have hlt : ref < made.length := (List.getElem?_eq_some_iff.mp hmade).1
    exact ⟨by rw [List.getElem?_append_left hlt, hmade], ih hfunc⟩

/-- A call that a closure made runs what the closure was made for, in the context it was made
in. -/
def Faithful (made : List (Fn Ctx)) (b : Begun Ctx) : Prop :=
  ∀ i, b.via = some i → made[i]? = some (.traced i b.current b.func)

lemma Faithful.append {made : List (Fn Ctx)} {b : Begun Ctx} (h : Faithful made b)
    (more : List (Fn Ctx)) : Faithful (made ++ more) b := by
  intro i hi
  have hmade := h i hi
  have hlt : i < made.length := (List.getElem?_eq_some_iff.mp hmade).1
  rw [List.getElem?_append_left hlt, hmade]

/-- The calls a genuine callable makes are faithful. -/
lemma Genuine.faithful {made : List (Fn Ctx)} {f : Fn Ctx} (h : Genuine made f)
    (args : Args Ctx) (kwargs : Kwargs Ctx) {via : Option ℕ} {c : Ctx}
    (hvia : ∀ i, via = some i → made[i]? = some (.traced i c f)) :
    ∀ b ∈ f.calls args kwargs via c, Faithful made b ∧ b.args = args ∧ b.kwargs = kwargs := by
  induction f generalizing via c with
  | own id =>
    intro b hb
    obtain rfl : b = _ := List.mem_singleton.mp hb
    exact ⟨hvia, rfl, rfl⟩
  | traced ref captured func ih =>
    obtain ⟨hmade, hfunc⟩ := h
    intro b hb
    rcases List.mem_cons.mp hb with rfl | hb
    · exact ⟨hvia, rfl, rfl⟩
    · refine ih hfunc ?_ b hb
      intro i hi
      obtain rfl : ref = i := Option.some.inj hi
      exact hmade

/-- What the tokens of a frame remember. -/
def Frame.Sound (frame : Frame U Ctx) : Prop :=
  match frame.work with
  | .call f => frame.tokens = f.tokens frame.before
  | .thread _ => frame.tokens = [] ∨ frame.tokens = [⟨frame.before⟩]

structure Inv (s : Sys U Ctx) : Prop where
  genuine : ∀ f ∈ s.host.made, Genuine s.host.made f
  faithful : ∀ b ∈ s.host.begun, Faithful s.host.made b
  frames : ∀ u, ∀ frame ∈ s.frames u, frame.Sound

lemma Inv.of_known {s : Sys U Ctx} (h : Inv s) {f : Fn Ctx} (hf : Known s f) :
    Genuine s.host.made f := by
  cases f with
  | own id => trivial
  | traced ref captured func => exact h.genuine _ hf

/-- Legal events: spawns are of callables there are, with instrumentation enabled, and calls
are of callables there are. -/
def Legal (s : Sys U Ctx) : Event U Ctx → Prop
  | .submit u funcIndex args _ =>
    enabled (s.current u) = true ∧ ∃ func, args[funcIndex]? = some (.fn func) ∧ Known s func
  | .invoke _ f _ _ => Known s f
  | .leave u => s.frames u ≠ []
  | .ambient _ _ => True
  | .start _ _ => True
  | .runThread _ => True

lemma inv_init (current : U → Ctx) : Inv (Sys.init current) := by
  refine ⟨?_, ?_, ?_⟩ <;> simp [Sys.init]

end

section

variable {U Ctx : Type} [DecidableEq U] [ContextApi Ctx] {s : Sys U Ctx}

/-- A spawn of a callable: one closure is made, and the original entry point is called with it
in the callable's place. -/
lemma step_submit {u : U} {funcIndex : ℕ} {args : Args Ctx} {func : Fn Ctx}
    (hon : enabled (s.current u) = true) (hfunc : args[funcIndex]? = some (.fn func))
    (kwargs : Kwargs Ctx) :
    let closure := Fn.traced s.host.made.length (s.current u) func
    step s (.submit u funcIndex args kwargs) =
      { s with
        host := { s.host with
          made := s.host.made ++ [closure]
          received := s.host.received ++ [(args.set funcIndex (.fn closure), kwargs)] } } := by
  have happly := spawnWrapper_apply (w := s.view u) hon hfunc receive kwargs
  simp only [step, happly]
  simp [receive, Sys.view, Sys.store]

lemma step_invoke (u : U) (f : Fn Ctx) (args : Args Ctx) (kwargs : Kwargs Ctx) :
    step s (.invoke u f args kwargs) =
      { current := Function.update s.current u (f.inside (s.current u))
        host := { s.host with
          begun := s.host.begun ++ f.calls args kwargs none (s.current u) }
        frames := Function.update s.frames u
          (⟨.call f, s.current u, f.tokens (s.current u)⟩ :: s.frames u) } := by
  simp [step, enterCall_apply, Sys.view, Sys.store, Sys.push]

omit [DecidableEq U] [ContextApi Ctx] in
lemma enterRun_apply (t : U) (w : SpawnWorld U Ctx) :
    enterRun t w =
      (.ok ((w.host.contextAttr t).map fun _ => (⟨w.current⟩ : Token Ctx)).toList,
        { w with current := (w.host.contextAttr t).getD w.current }) := by
  rcases h : w.host.contextAttr t with _ | c <;> simp [enterRun, bind_apply, h]

lemma step_runThread (t : U) :
    step s (.runThread t) =
      { s with
        current := Function.update s.current t ((s.host.contextAttr t).getD (s.current t))
        frames := Function.update s.frames t
          (⟨.thread t, s.current t,
              ((s.host.contextAttr t).map fun _ => (⟨s.current t⟩ : Token Ctx)).toList⟩ ::
            s.frames t) } := by
  simp [step, enterRun_apply, Sys.view, Sys.store, Sys.push]

lemma step_start (u t : U) :
    step s (.start u t) =
      { s with
        host := { s.host with
          contextAttr := Function.update s.host.contextAttr t (some (s.current u)) } } := by
  simp [step, wrapThreadStart, setContextAttr, bind_apply, Sys.view, Sys.store]

lemma step_leave {u : U} {frame : Frame U Ctx} {frames : List (Frame U Ctx)}
    (h : s.frames u = frame :: frames) (hs : frame.Sound) :
    step s (.leave u) =
      { s with
        current := Function.update s.current u
          (if frame.tokens = [] then s.current u else frame.before)
        frames := Function.update s.frames u frames } := by
  obtain ⟨work, before, tokens⟩ := frame
  cases work with
  | call f =>
    obtain rfl : tokens = f.tokens before := hs
    cases f with
    | own id => simp [step, h, Fn.tokens, exitCall, Sys.view, Sys.store]
    | traced ref captured func =>
      simp [step, h, Fn.tokens, exitCall_append, Sys.view, Sys.store]
  | thread t =>
    have hs : tokens = [] ∨ tokens = [⟨before⟩] := hs
    rcases hs with rfl | rfl
    · simp [step, h, exitCall, Sys.view, Sys.store]
    · simp [step, h, exitCall, bind_apply, Sys.view, Sys.store]

/-- One event keeps closures genuine and calls faithful. -/
lemma inv_step (s : Sys U Ctx) (e : Event U Ctx) (h : Inv s) (hok : Legal s e) :
    Inv (step s e) := by
  cases e with
  | submit u funcIndex args kwargs =>
    obtain ⟨hon, func, hfunc, hknown⟩ := hok
    have hgen : Genuine s.host.made func := h.of_known hknown
    rw [step_submit hon hfunc]
    refine ⟨?_, fun b hb => (h.faithful b hb).append _, h.frames⟩
    intro f hf
    rcases List.mem_append.mp hf with hf | hf
    · exact (h.genuine f hf).append _
    · obtain rfl : f = _ := List.mem_singleton.mp hf
      exact ⟨List.getElem?_concat_length, hgen.append _⟩
  | invoke u f args kwargs =>
    have hgen : Genuine s.host.made f := h.of_known hok
    rw [step_invoke]
    refine ⟨h.genuine, ?_, ?_⟩
    · intro b hb
      rcases List.mem_append.mp hb with hb | hb
      · exact h.faithful b hb
      · exact (hgen.faithful args kwargs (by simp) b hb).1
    · exact Runs.forall_mem_update h.frames (List.forall_mem_cons.mpr ⟨rfl, h.frames u⟩)
  | leave u =>
    obtain ⟨frame, frames, hu⟩ := List.exists_cons_of_ne_nil hok
    rw [step_leave hu (h.frames u frame (hu ▸ List.mem_cons_self ..))]
    have hbelow : ∀ other ∈ frames, other.Sound := fun other hother =>
      h.frames u other (hu ▸ List.mem_cons_of_mem _ hother)
    exact ⟨h.genuine, h.faithful, Runs.forall_mem_update h.frames hbelow⟩
  | ambient u c => exact ⟨h.genuine, h.faithful, h.frames⟩
  | start u t =>
    rw [step_start]
    exact ⟨h.genuine, h.faithful, h.frames⟩
  | runThread t =>
    rw [step_runThread]
    refine ⟨h.genuine, h.faithful, Runs.forall_mem_update h.frames ?_⟩
    refine List.forall_mem_cons.mpr ⟨?_, h.frames t⟩
    rcases s.host.contextAttr t with _ | c
    · exact Or.inl rfl
    · exact Or.inr rfl

lemma inv_run {current : U → Ctx} {es : List (Event U Ctx)}
    (hl : Runs.Legal Legal step (Sys.init current) es) :
    Inv (Runs.run step (Sys.init current) es) :=
  Runs.inv_of_legal inv_step (inv_init current) hl

/-- Closures stay what they are. -/
lemma made_run {es : List (Event U Ctx)} (h : Inv s) (hl : Runs.Legal Legal step s es) :
    ∃ more, (Runs.run step s es).host.made = s.host.made ++ more := by
  induction es generalizing s with
  | nil => exact ⟨[], by simp⟩
  | cons e es ih =>
    obtain ⟨more, hmore⟩ := ih (inv_step s e h hl.1) hl.2
    have hstep : ∃ new, (step s e).host.made = s.host.made ++ new := by
      have hok := hl.1
      cases e with
      | submit u funcIndex args kwargs =>
        obtain ⟨hon, func, hfunc, -⟩ := hok
        exact ⟨_, by rw [step_submit hon hfunc]⟩
      | invoke u f args kwargs => exact ⟨[], by rw [step_invoke]; simp⟩
      | leave u =>
        obtain ⟨frame, frames, hu⟩ := List.exists_cons_of_ne_nil hok
        refine ⟨[], ?_⟩
        rw [step_leave hu (h.frames u frame (hu ▸ List.mem_cons_self ..))]
        simp
      | ambient u c => exact ⟨[], by simp [step]⟩
      | start u t => exact ⟨[], by rw [step_start]; simp⟩
      | runThread t => exact ⟨[], by rw [step_runThread]; simp⟩
    obtain ⟨new, hnew⟩ := hstep
    exact ⟨new ++ more, by rw [Runs.run_cons, hmore, hnew, List.append_assoc]⟩

/-- The closure of a submission, at the end of the run. -/
lemma made_submit {current : U → Ctx} {pre post : List (Event U Ctx)} {u : U} {funcIndex : ℕ}
    {args : Args Ctx} {kwargs : Kwargs Ctx} {func : Fn Ctx}
    (hl : Runs.Legal Legal step (Sys.init current)
      (pre ++ .submit u funcIndex args kwargs :: post))
    (hfunc : args[funcIndex]? = some (.fn func)) :
    let s := Runs.run step (Sys.init current) pre
    (Runs.run step (Sys.init current)
        (pre ++ .submit u funcIndex args kwargs :: post)).host.made[s.host.made.length]? =
      some (.traced s.host.made.length (s.current u) func) := by
  intro s
  have hpre : Inv s := inv_run hl.before
  have hrest := ((Runs.legal_append Legal step _ pre _).mp hl).2
  obtain ⟨hok, hpost⟩ := hrest
  have hnext := inv_step s _ hpre hok
  obtain ⟨more, hmore⟩ := made_run hnext hpost
  rw [Runs.run_append, Runs.run_cons, hmore, step_submit hok.1 hfunc]
  simp [s]

/-- **Spawned work runs under its submitter's context.** The original entry point gets the
arguments of the submission with a closure in the callable's place; whenever and wherever the
closure is called, the callable submitted begins with the context of the submission and the
arguments of the call; on the way out the unit has the context back that it had. -/
theorem spawned_under_submitter (current : U → Ctx) (es : List (Event U Ctx))
    (hl : Runs.Legal Legal step (Sys.init current) es) :
    (∀ pre u funcIndex args kwargs func post, es = pre ++ .submit u funcIndex args kwargs :: post →
      args[funcIndex]? = some (.fn func) →
      let s := Runs.run step (Sys.init current) pre
      let closure := Fn.traced s.host.made.length (s.current u) func
      (step s (.submit u funcIndex args kwargs)).host.received =
          s.host.received ++ [(args.set funcIndex (.fn closure), kwargs)] ∧
        ∀ b ∈ (Runs.run step (Sys.init current) es).host.begun,
          b.via = some s.host.made.length → b.func = func ∧ b.current = s.current u) ∧
    (∀ pre u f args kwargs post, es = pre ++ .invoke u f args kwargs :: post →
      let s := Runs.run step (Sys.init current) pre
      ∃ new, (step s (.invoke u f args kwargs)).host.begun = s.host.begun ++ new ∧
        (∀ b ∈ new, b.args = args ∧ b.kwargs = kwargs) ∧
        ∀ i c func, f = .traced i c func → ∃ b ∈ new, b.via = some i ∧ b.func = func) ∧
    ∀ pre u post, es = pre ++ .leave u :: post →
      let s := Runs.run step (Sys.init current) pre
      ∃ frame frames, s.frames u = frame :: frames ∧
        ∀ i c func, frame.work = .call (.traced i c func) →
          (step s (.leave u)).current u = frame.before := by
  refine ⟨?_, ?_, ?_⟩
  · rintro pre u funcIndex args kwargs func post rfl hfunc s closure
    have hok := hl.ok_at
    refine ⟨by rw [step_submit hok.1 hfunc], ?_⟩
    intro b hb hvia
    have hmade := (inv_run hl).faithful b hb _ hvia
    rw [made_submit hl hfunc] at hmade
    obtain ⟨-, hcurrent, hfn⟩ := Fn.traced.inj (Option.some.inj hmade)
    exact ⟨hfn.symm, hcurrent.symm⟩
  · rintro pre u f args kwargs post rfl s
    have hgen : Genuine s.host.made f := (inv_run hl.before).of_known hl.ok_at
    refine ⟨f.calls args kwargs none (s.current u), by rw [step_invoke], ?_, ?_⟩
    · intro b hb
      exact (hgen.faithful args kwargs (by simp) b hb).2
    · rintro i c func rfl
      cases func with
      | own id => exact ⟨_, List.mem_cons_of_mem _ (List.mem_cons_self ..), rfl, rfl⟩
      | traced j d g => exact ⟨_, List.mem_cons_of_mem _ (List.mem_cons_self ..), rfl, rfl⟩
  · rintro pre u post rfl s
    have hinv := inv_run hl.before
    obtain ⟨frame, frames, hu⟩ := List.exists_cons_of_ne_nil hl.ok_at
    have hsound := hinv.frames u frame (hu ▸ List.mem_cons_self ..)
    refine ⟨frame, frames, hu, ?_⟩
    intro i c func hwork
    rw [step_leave hu hsound]
    have htokens : frame.tokens ≠ [] := by
      unfold Frame.Sound at hsound
      rw [hwork] at hsound
      rw [hsound]
      simp [Fn.tokens]
    simp [htokens]

/-- A spawn after a delay, run on another unit once the submitter has moved on. -/
theorem spawned_under_submitter_after :
    let request : BareContext := ⟨⟨7, 8⟩, false⟩
    let es : List (Event Bool BareContext) :=
      [.ambient false request, .submit false 1 [.val (.int 5), .fn (.own 3), .val (.str "a")] [],
        .ambient false ⟨⟨9, 9⟩, false⟩,
        .invoke true (.traced 0 request (.own 3)) [.val (.str "a")] [],
        .ambient true ⟨⟨1, 2⟩, true⟩, .leave true]
    let start : Sys Bool BareContext := Sys.init fun _ => empty
    (∀ pre u funcIndex args kwargs func post, es = pre ++ .submit u funcIndex args kwargs :: post →
      args[funcIndex]? = some (.fn func) →
      let s := Runs.run step start pre
      let closure := Fn.traced s.host.made.length (s.current u) func
      (step s (.submit u funcIndex args kwargs)).host.received =
          s.host.received ++ [(args.set funcIndex (.fn closure), kwargs)] ∧
        ∀ b ∈ (Runs.run step start es).host.begun,
          b.via = some s.host.made.length → b.func = func ∧ b.current = s.current u) ∧
    (∀ pre u f args kwargs post, es = pre ++ .invoke u f args kwargs :: post →
      let s := Runs.run step start pre
      ∃ new, (step s (.invoke u f args kwargs)).host.begun = s.host.begun ++ new ∧
        (∀ b ∈ new, b.args = args ∧ b.kwargs = kwargs) ∧
        ∀ i c func, f = .traced i c func → ∃ b ∈ new, b.via = some i ∧ b.func = func) ∧
    ∀ pre u post, es = pre ++ .leave u :: post →
      let s := Runs.run step start pre
      ∃ frame frames, s.frames u = frame :: frames ∧
        ∀ i c func, frame.work = .call (.traced i c func) →
          (step s (.leave u)).current u = frame.before :=
  spawned_under_submitter _ _
    ⟨trivial, ⟨rfl, _, rfl, trivial⟩, trivial, List.mem_singleton.mpr rfl, trivial,
      List.cons_ne_nil _ _, trivial⟩

end

end OtelOpenstack.Spawns
