import OtelOpenstack.Spawns

/-!
Threads that work through tasks handed to them while they run.

A task may reach a thread through a wrapped spawn, as a closure, or through a hand-off that is
not wrapped, as it is. The body of a thread is a loop that leaves its own context alone; the
tasks it performs may change the context, and put it back.
-/

set_option autoImplicit false

namespace OtelOpenstack.Threads

open Python Otel ContextApi Propagation Spawns

/-- An event, the submission of a task through a hand-off that is not wrapped, or the
performance of the `i`-th task so submitted by the loop of a thread. -/
inductive Act (U Ctx : Type)
  | event (e : Event U Ctx)
  | handOver (u : U) (task : ℕ)
  | perform (t : U) (i task : ℕ) (args : Args Ctx) (kwargs : Kwargs Ctx)

/-- The event behind an act. -/
def Act.event? {U Ctx : Type} : Act U Ctx → Option (Event U Ctx)
  | .event e => some e
  | .handOver _ _ => none
  | .perform t _ task args kwargs => some (.invoke t (.own task) args kwargs)

/-- A system and the tasks handed over, each with the context of its submitter. -/
structure Pool (U Ctx : Type) where
  sys : Sys U Ctx
  handed : List (ℕ × Ctx)

section

variable {U Ctx : Type}

def Pool.init (current : U → Ctx) : Pool U Ctx := ⟨Sys.init current, []⟩

/-- Not a thread, or a thread that has begun and is not over. -/
def Alive (s : Sys U Ctx) (u : U) : Prop := s.host.contextAttr u = none ∨ s.frames u ≠ []

/-- A thread in its loop, inside of no task. -/
def Looping (s : Sys U Ctx) (t : U) : Prop := ∃ frame, s.frames t = [frame] ∧ frame.work = .thread t

/-- Whose context may change on its own: no thread's outside of a task. -/
def MayChange (s : Sys U Ctx) (u : U) : Prop :=
  match s.frames u with
  | [] => s.host.contextAttr u = none
  | frame :: _ => ∃ f, frame.work = .call f

variable [DecidableEq U] [ContextApi Ctx]

def advance (s : Pool U Ctx) (act : Act U Ctx) : Pool U Ctx where
  sys := match act.event? with
    | none => s.sys
    | some e => step s.sys e
  handed := match act with
    | .handOver u task => s.handed ++ [(task, s.sys.current u)]
    | _ => s.handed

omit [DecidableEq U] in
/-- Threads are started once, on a unit of their own with an empty context; a loop leaves its
context alone, and what is not wrapped puts back the context it found. -/
def Orderly (s : Pool U Ctx) : Act U Ctx → Prop
  | .event (.submit u funcIndex args kwargs) =>
    Legal s.sys (.submit u funcIndex args kwargs) ∧ Alive s.sys u
  | .event (.invoke u f args kwargs) => Legal s.sys (.invoke u f args kwargs) ∧ Alive s.sys u
  | .event (.leave u) => ∃ frame frames, s.sys.frames u = frame :: frames ∧
      (frame.tokens = [] → s.sys.current u = frame.before)
  | .event (.ambient u _) => MayChange s.sys u
  | .event (.start u t) => Alive s.sys u ∧ s.sys.host.contextAttr t = none ∧
      s.sys.frames t = [] ∧ s.sys.current t = empty
  | .event (.runThread t) => s.sys.host.contextAttr t ≠ none ∧ s.sys.frames t = []
  | .handOver u _ => Alive s.sys u
  | .perform t i task _ _ => Looping s.sys t ∧ ∃ c, s.handed[i]? = some (task, c)

/-! ### The events behind a run -/

omit [DecidableEq U] in
lemma legal_of_orderly {s : Pool U Ctx} {act : Act U Ctx} (h : Orderly s act) :
    ∀ e, act.event? = some e → Legal s.sys e := by
  intro e he
  cases act with
  | event e' =>
    obtain rfl : e' = e := Option.some.inj he
    cases e' with
    | submit u funcIndex args kwargs => exact h.1
    | invoke u f args kwargs => exact h.1
    | leave u =>
      obtain ⟨frame, frames, hu, -⟩ := h
      change s.sys.frames u ≠ []
      rw [hu]
      exact List.cons_ne_nil _ _
    | ambient u c => trivial
    | start u t => trivial
    | runThread t => trivial
  | handOver u task => simp [Act.event?] at he
  | perform t i task args kwargs =>
    obtain rfl := Option.some.inj he
    trivial

lemma run_events (s : Pool U Ctx) (acts : List (Act U Ctx)) :
    (Runs.run advance s acts).sys = Runs.run step s.sys (acts.filterMap Act.event?) := by
  induction acts generalizing s with
  | nil => rfl
  | cons act acts ih =>
    rw [Runs.run_cons, ih]
    rcases he : act.event? with _ | e
    · rw [List.filterMap_cons_none he]
      simp [advance, he]
    · rw [List.filterMap_cons_some he, Runs.run_cons]
      simp [advance, he]

lemma legal_events {s : Pool U Ctx} {acts : List (Act U Ctx)}
    (hl : Runs.Legal Orderly advance s acts) :
    Runs.Legal Legal step s.sys (acts.filterMap Act.event?) := by
  induction acts generalizing s with
  | nil => trivial
  | cons act acts ih =>
    have hrest := ih hl.2
    rcases he : act.event? with _ | e
    · rw [List.filterMap_cons_none he]
      simpa [advance, he] using hrest
    · rw [List.filterMap_cons_some he]
      exact ⟨legal_of_orderly hl.1 e he, by simpa [advance, he] using hrest⟩

/-! ### The context of a loop -/

omit [DecidableEq U] in
/-- A started thread, with the context of its start: outside of its run the unit's context is
empty, in the loop it is the context of the start. -/
def Level (c : Ctx) : List (Frame U Ctx) → Ctx → Prop
  | [], current => current = empty
  | frame :: frames, current => match frame.work with
    | .thread _ => current = c ∧ Level c frames frame.before
    | .call _ => Level c frames frame.before

structure Steady (s : Sys U Ctx) : Prop where
  inv : Inv s
  level : ∀ t c, s.host.contextAttr t = some c → Level c (s.frames t) (s.current t)

omit [DecidableEq U] in
lemma steady_init (current : U → Ctx) : Steady (Sys.init current) :=
  ⟨inv_init current, by simp [Sys.init]⟩

omit [DecidableEq U] in
/-- Where a frame ends, the unit is at the level of the frame below. -/
lemma Level.below {c current : Ctx} {frame : Frame U Ctx} {frames : List (Frame U Ctx)}
    (h : Level c (frame :: frames) current) : Level c frames frame.before := by
  unfold Level at h
  rcases hw : frame.work with f | t <;> rw [hw] at h
  · exact h
  · exact h.2

lemma steady_invoke {s : Sys U Ctx} (h : Steady s) {u : U} {f : Fn Ctx} {args : Args Ctx}
    {kwargs : Kwargs Ctx} (hok : Legal s (.invoke u f args kwargs)) :
    Steady (step s (.invoke u f args kwargs)) := by
  refine ⟨inv_step s _ h.inv hok, ?_⟩
  rw [step_invoke]
  intro t c hc
  have hlevel := h.level t c hc
  by_cases ht : t = u
  · subst ht
    simp only [Function.update_self]
    exact hlevel
  · simp only [Function.update_of_ne ht]
    exact hlevel

lemma steady_leave {s : Sys U Ctx} (h : Steady s) {u : U} {frame : Frame U Ctx}
    {frames : List (Frame U Ctx)} (hu : s.frames u = frame :: frames)
    (hback : frame.tokens = [] → s.current u = frame.before) :
    Steady (step s (.leave u)) := by
  have hsound := h.inv.frames u frame (hu ▸ List.mem_cons_self ..)
  have hok : s.frames u ≠ [] := by
    rw [hu]
    exact List.cons_ne_nil _ _
  refine ⟨inv_step s _ h.inv hok, ?_⟩
  rw [step_leave hu hsound]
  intro t c hc
  have hlevel := h.level t c hc
  by_cases ht : t = u
  · subst ht
    rw [hu] at hlevel
    have hcurrent : (if frame.tokens = [] then s.current t else frame.before) = frame.before := by
      split
      · exact hback ‹_›
      · rfl
    simp only [Function.update_self, hcurrent]
    exact hlevel.below
  · simp only [Function.update_of_ne ht]
    exact hlevel

/-- A started thread outside of a task has no say in its context. -/
lemma steady_ambient {s : Sys U Ctx} (h : Steady s) {u : U} (d : Ctx) (hmay : MayChange s u) :
    Steady (step s (.ambient u d)) := by
  refine ⟨inv_step s _ h.inv trivial, ?_⟩
  intro t c hc
  have hlevel := h.level t c hc
  by_cases ht : t = u
  · subst ht
    unfold MayChange at hmay
    rcases hu : s.frames t with _ | ⟨frame, frames⟩ <;> rw [hu] at hmay hlevel
    · exact absurd (hmay.symm.trans hc) (by simp)
    · obtain ⟨f, hf⟩ := hmay
      change Level c (s.frames t) _
      rw [hu]
      unfold Level at hlevel ⊢
      rw [hf] at hlevel ⊢
      exact hlevel
  · simp only [step, Function.update_of_ne ht]
    exact hlevel

lemma steady_start {s : Sys U Ctx} (h : Steady s) (u : U) {t : U} (hframes : s.frames t = [])
    (hempty : s.current t = empty) : Steady (step s (.start u t)) := by
  refine ⟨inv_step s _ h.inv trivial, ?_⟩
  rw [step_start]
  intro t' c hc
  by_cases ht : t' = t
  · subst ht
    change Level c (s.frames t') (s.current t')
    rw [hframes]
    exact hempty
  · change Function.update s.host.contextAttr t _ t' = some c at hc
    rw [Function.update_of_ne ht] at hc
    exact h.level t' c hc

lemma steady_runThread {s : Sys U Ctx} (h : Steady s) {t : U} (hframes : s.frames t = []) :
    Steady (step s (.runThread t)) := by
  refine ⟨inv_step s _ h.inv trivial, ?_⟩
  rw [step_runThread]
  intro t' c hc
  have hlevel := h.level t' c hc
  by_cases ht : t' = t
  · subst ht
    have hc : s.host.contextAttr t' = some c := hc
    rw [hframes] at hlevel
    simp only [Function.update_self, hc, Option.getD_some, hframes]
    exact ⟨rfl, hlevel⟩
  · simp only [Function.update_of_ne ht]
    exact hlevel

lemma steady_event {s : Pool U Ctx} (h : Steady s.sys) {e : Event U Ctx}
    (hok : Orderly s (.event e)) : Steady (step s.sys e) := by
  cases e with
  | submit u funcIndex args kwargs =>
    obtain ⟨hlegal, -⟩ := hok
    refine ⟨inv_step _ _ h.inv hlegal, ?_⟩
    obtain ⟨hon, func, hfunc, -⟩ := hlegal
    rw [step_submit hon hfunc]
    exact h.level
  | invoke u f args kwargs => exact steady_invoke h hok.1
  | leave u =>
    obtain ⟨frame, frames, hu, hback⟩ := hok
    exact steady_leave h hu hback
  | ambient u d => exact steady_ambient h d hok
  | start u t =>
    obtain ⟨-, -, hframes, hempty⟩ := hok
    exact steady_start h u hframes hempty
  | runThread t => exact steady_runThread h hok.2

lemma steady_step (s : Pool U Ctx) (act : Act U Ctx) (h : Steady s.sys) (hok : Orderly s act) :
    Steady (advance s act).sys := by
  cases act with
  | event e => exact steady_event h hok
  | handOver u task => exact h
  | perform t i task args kwargs =>
    have hown : Legal s.sys (.invoke t (.own task) args kwargs) := trivial
    exact steady_invoke h hown

lemma steady_run {current : U → Ctx} {acts : List (Act U Ctx)}
    (hl : Runs.Legal Orderly advance (Pool.init current) acts) :
    Steady (Runs.run advance (Pool.init current) acts).sys :=
  Runs.inv_of_legal steady_step (steady_init current) hl

/-! ### What tasks see -/

lemma event_attr {s : Pool U Ctx} {e : Event U Ctx} (h : Steady s.sys)
    (hok : Orderly s (.event e)) {t : U} {c : Ctx} (hc : s.sys.host.contextAttr t = some c) :
    (step s.sys e).host.contextAttr t = some c := by
  cases e with
  | submit u funcIndex args kwargs =>
    obtain ⟨⟨hon, func, hfunc, -⟩, -⟩ := hok
    rw [step_submit hon hfunc]
    exact hc
  | invoke u f args kwargs =>
    rw [step_invoke]
    exact hc
  | leave u =>
    obtain ⟨frame, frames, hu, -⟩ := hok
    rw [step_leave hu (h.inv.frames u frame (hu ▸ List.mem_cons_self ..))]
    exact hc
  | ambient u d => exact hc
  | start u t' =>
    obtain ⟨-, hnew, -⟩ := hok
    have hne : t ≠ t' := by
      rintro rfl
      exact absurd (hnew.symm.trans hc) (by simp)
    rw [step_start]
    exact (Function.update_of_ne hne ..).trans hc
  | runThread t' =>
    rw [step_runThread]
    exact hc

/-- A thread keeps the context it was started under. -/
lemma attr_run {s : Pool U Ctx} {acts : List (Act U Ctx)} (h : Steady s.sys)
    (hl : Runs.Legal Orderly advance s acts) {t : U} {c : Ctx}
    (hc : s.sys.host.contextAttr t = some c) :
    (Runs.run advance s acts).sys.host.contextAttr t = some c := by
  induction acts generalizing s with
  | nil => exact hc
  | cons act acts ih =>
    have hnext := steady_step s act h hl.1
    refine ih hnext hl.2 ?_
    cases act with
    | event e => exact event_attr h hl.1 hc
    | handOver u task => exact hc
    | perform t' i task args kwargs =>
      change (step s.sys _).host.contextAttr t = some c
      rw [step_invoke]
      exact hc

/-- After its start, up to the end of any run. -/
lemma attr_start {current : U → Ctx} {pre mid : List (Act U Ctx)} {u t : U}
    (hl : Runs.Legal Orderly advance (Pool.init current) (pre ++ .event (.start u t) :: mid)) :
    let s := Runs.run advance (Pool.init current) (pre ++ .event (.start u t) :: mid)
    s.sys.host.contextAttr t =
      some ((Runs.run advance (Pool.init current) pre).sys.current u) := by
  intro s
  obtain ⟨hpre, hstart, hmid⟩ := (Runs.legal_append Orderly advance _ pre _).mp hl
  have hsteady := steady_step _ _ (steady_run hpre) hstart
  have hs : s = Runs.run advance (advance (Runs.run advance (Pool.init current) pre)
      (.event (.start u t))) mid := by
    simp only [s, Runs.run_append, Runs.run_cons]
  rw [hs]
  refine attr_run hsteady hmid ?_
  change (step _ (.start u t)).host.contextAttr t = _
  rw [step_start]
  exact Function.update_self ..

end

/-- A thread started during one request is handed a task of another. -/
def lateTask : List (Act ℕ BareContext) :=
  [.event (.ambient 0 ⟨⟨1, 1⟩, false⟩), .event (.start 0 1), .event (.runThread 1),
    .event (.ambient 2 ⟨⟨2, 2⟩, false⟩), .handOver 2 7, .perform 1 0 7 [] []]

lemma orderly_lateTask : Runs.Legal Orderly advance (Pool.init fun _ => empty) lateTask :=
  ⟨rfl, ⟨Or.inl rfl, rfl, rfl, rfl⟩, ⟨nofun, rfl⟩, rfl, Or.inl rfl,
    ⟨⟨_, rfl, rfl⟩, _, rfl⟩, trivial⟩

end OtelOpenstack.Threads
