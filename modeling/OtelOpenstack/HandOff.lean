import OtelOpenstack.Engines

/-!
How the span of an atom reaches the body of the atom.

Every engine takes each of its atoms through start notification, body and finish
notification, over and over. A context stashed on an atom is waiting for one body: that of
the engine that started the atom last.
-/

set_option autoImplicit false

namespace OtelOpenstack.HandOff

open Python Otel ContextApi Listener ListenerSteps Engines

/-! ### Flows -/

/-- An object is an atom of an execution graph. -/
def IsAtom (graph : List Node) (a : ℕ) : Prop := ∃ n ∈ graph, n.hasExecute = true ∧ n.ref = a

/-- What an engine has compiled: its graph, and its atoms with names and uuids of their own. -/
structure Flow where
  graph : List Node
  kind : ℕ → Kind
  name : ℕ → Val
  uuid : ℕ → Val
  named : ∀ n ∈ graph, n.hasExecute = true → n.name = some (name n.ref)
  name_inj : ∀ a b, IsAtom graph a → IsAtom graph b → name a = name b → a = b
  uuid_inj : ∀ a b, IsAtom graph a → IsAtom graph b → uuid a = uuid b → a = b

/-- An atom is found by its name. -/
lemma Flow.atomsOf_name (f : Flow) {a : ℕ} (ha : IsAtom f.graph a) :
    atomsOf f.graph (f.name a) = some a := by
  obtain ⟨n, hn, hexec, rfl⟩ := ha
  let nodes := f.graph.filter fun k => k.hasExecute && k.name == some (f.name n.ref)
  have hne : nodes ≠ [] := by
    refine List.ne_nil_of_mem (a := n) (List.mem_filter.mpr ⟨hn, ?_⟩)
    simp [hexec, f.named n hn hexec]
  have hlast := List.mem_filter.mp (List.getLast_mem hne)
  obtain ⟨hmem, hsame⟩ := hlast
  simp only [Bool.and_eq_true, beq_iff_eq] at hsame
  obtain ⟨hexec', hname⟩ := hsame
  rw [f.named _ hmem hexec', Option.some.injEq] at hname
  have hlast := List.getLast?_eq_some_getLast hne
  change Option.map Node.ref nodes.getLast? = some n.ref
  rw [hlast, Option.map_some, Option.some.injEq]
  exact f.name_inj _ _ ⟨_, hmem, hexec', rfl⟩ ⟨n, hn, hexec, rfl⟩ hname

/-! ### Atoms in progress -/

/-- Where an engine is with an atom, and the span of the phase. -/
inductive Progress
  | idle
  | started (method : Method) (span : SpanContext)
  | running (method : Method) (span : SpanContext)
  | ran (method : Method) (span : SpanContext)
  deriving DecidableEq

/-- The span that is open for a method. -/
def Progress.span : Progress → Method → Option SpanContext
  | .idle, _ => none
  | .started m span, method => if method = m then some span else none
  | .running m span, method => if method = m then some span else none
  | .ran m span, method => if method = m then some span else none

def Progress.enter : Progress → Progress
  | .started m span => .running m span
  | p => p

def Progress.leave : Progress → Progress
  | .running m span => .ran m span
  | p => p

/-- The start notification has come, the body has not been run. -/
def Progress.Waiting (p : Progress) : Prop := ∃ m span, p = .started m span

@[simp] lemma Progress.span_enter (p : Progress) : p.enter.span = p.span := by
  cases p <;> rfl

@[simp] lemma Progress.span_leave (p : Progress) : p.leave.span = p.span := by
  cases p <;> rfl

@[simp] lemma Progress.leave_eq_started {p : Progress} {m : Method} {span : SpanContext} :
    p.leave = .started m span ↔ p = .started m span := by
  cases p <;> simp [Progress.leave]

lemma Progress.enter_ne_started (p : Progress) (m : Method) (span : SpanContext) :
    p.enter ≠ .started m span := by
  cases p <;> simp [Progress.enter]

/-- What happens, with the atom it happens to. -/
inductive Act (E W Ctx : Type)
  | start (engine : E) (worker : W) (atom : ℕ) (method : Method) (n : Notification)
  | body (engine : E) (worker : W) (atom : ℕ)
  | leave (worker : W)
  | finish (engine : E) (worker : W) (atom : ℕ) (method : Method) (n : Notification)
  | other (engine : E) (worker : W) (n : Notification)
  | ambient (worker : W) (c : Ctx)

def Act.event {E W Ctx : Type} : Act E W Ctx → Event E W Ctx
  | .start e w _ _ n => .notify e w n
  | .body e w a => .enter e w a
  | .leave w => .exit w
  | .finish e w _ _ n => .notify e w n
  | .other e w n => .notify e w n
  | .ambient w c => .ambient w c

/-- A system and where each engine is with each atom. -/
structure Traced (E W Ctx : Type) where
  sys : Sys E W Ctx
  progress : E × ℕ → Progress

/-- The span started between two moments. -/
def startedBetween (calls later : List Call) : SpanContext :=
  (startedSpans (later.drop calls.length)).headD invalidSpan

section

variable {E W Ctx : Type}

def Traced.init (current : W → Ctx) : Traced E W Ctx := ⟨Sys.init current, fun _ => .idle⟩

variable [DecidableEq E]

def progressAfter (s : Traced E W Ctx) (later : List Call) : Act E W Ctx → E × ℕ → Progress
  | .start e _ a m _ =>
    Function.update s.progress (e, a) (.started m (startedBetween s.sys.calls later))
  | .body e _ a => Function.update s.progress (e, a) (s.progress (e, a)).enter
  | .leave w => match s.sys.frames w with
    | [] => s.progress
    | f :: _ =>
      Function.update s.progress (f.engine, f.atom) (s.progress (f.engine, f.atom)).leave
  | .finish e _ a _ _ => Function.update s.progress (e, a) .idle
  | .other _ _ _ => s.progress
  | .ambient _ _ => s.progress

variable [DecidableEq W] [ContextApi Ctx] (flow : E → Flow)

def advance (s : Traced E W Ctx) (act : Act E W Ctx) : Traced E W Ctx :=
  let t := step (fun e => (flow e).graph) s.sys act.event
  ⟨t, progressAfter s t.calls act⟩

omit [DecidableEq E] [DecidableEq W] [ContextApi Ctx] in
/-- Every engine follows start, body, finish for each of its atoms. -/
def Follows (s : Traced E W Ctx) : Act E W Ctx → Prop
  | .start e _ a m n => IsAtom (flow e).graph a ∧ s.progress (e, a) = .idle ∧
      meaning n = .atomStart ((flow e).kind a) ((flow e).name a) ((flow e).uuid a) m
  | .body e _ a => (s.progress (e, a)).Waiting
  | .leave w => s.sys.frames w ≠ []
  | .finish e _ a m n => (∃ span, s.progress (e, a) = .ran m span) ∧
      ∃ kind isFailure details, meaning n = .atomFinish kind ((flow e).uuid a) m isFailure details
  | .other _ _ n => (∃ details, meaning n = .flowStart details) ∨
      (∃ state, meaning n = .flowFinish state) ∨ meaning n = .other
  | .ambient _ _ => True

omit [DecidableEq E] [DecidableEq W] [ContextApi Ctx] in
/-- No engine starts an atom that waits for its body in another engine. -/
def Apart (s : Traced E W Ctx) : Act E W Ctx → Prop
  | .start e _ a _ _ => ∀ e', e' ≠ e → ¬ (s.progress (e', a)).Waiting
  | _ => True

omit [DecidableEq E] in
/-- The span was started for a phase of an atom and has not ended. -/
def OpenFor (calls : List Call) (f : Flow) (a : ℕ) (m : Method) (span : SpanContext) : Prop :=
  (∃ parent, .start span parent s!"taskflow.{(f.kind a).text}.{m.text}" .internal
    (atomAttributes (f.kind a) (f.name a) (f.uuid a) m) ∈ calls) ∧ .finish span ∉ calls

/-- Progress, spans and stashed contexts agree. -/
structure Linked (s : Traced E W Ctx) : Prop where
  held : Held s.sys
  table : ∀ e atoms, (s.sys.listeners e).atomsByName = some atoms → atoms = atomsOf (flow e).graph
  atoms : ∀ e a, s.progress (e, a) ≠ .idle → IsAtom (flow e).graph a
  spans : ∀ e a m, IsAtom (flow e).graph a →
    (s.sys.listeners e).atomSpans ((flow e).uuid a, m) = (s.progress (e, a)).span m
  opens : ∀ e a m span, (s.progress (e, a)).span m = some span →
    ∃ parent, .start span parent s!"taskflow.{((flow e).kind a).text}.{m.text}" .internal
      (atomAttributes ((flow e).kind a) ((flow e).name a) ((flow e).uuid a) m) ∈ s.sys.calls
  stashed : ∀ e a m span, s.progress (e, a) = .started m span →
    ∃ c, s.sys.contextAttr a = some c ∧ spanIn c = span
  stash : ∀ a, s.sys.contextAttr a ≠ none → ∃ e, (s.progress (e, a)).Waiting
  single : ∀ e e' a, (s.progress (e, a)).Waiting → (s.progress (e', a)).Waiting → e = e'
  frames : ∀ w, ∀ f ∈ s.sys.frames w, f.token = some ⟨f.before⟩

/-! ### What an act does to the system -/

variable {flow} {s : Traced E W Ctx}

omit [DecidableEq E] [DecidableEq W] in
lemma view_atomTable (h : Linked flow s) (e : E) (w : W) :
    atomTable (s.sys.view (fun e => (flow e).graph) e w) = atomsOf (flow e).graph := by
  rcases hl : (s.sys.listeners e).atomsByName with _ | atoms
  · simp [atomTable, Sys.view, hl]
  · simp [atomTable, Sys.view, hl, h.table e atoms hl]

/-- A start opens a span for the phase and stashes its context on the atom. -/
lemma Linked.start_sys (h : Linked flow s) {e : E} {w : W} {a : ℕ} {m : Method}
    {n : Notification} (ha : IsAtom (flow e).graph a) (hidle : s.progress (e, a) = .idle)
    (hn : meaning n = .atomStart ((flow e).kind a) ((flow e).name a) ((flow e).uuid a) m) :
    let t := step (fun e => (flow e).graph) s.sys (.notify e w n)
    ∃ span parent c,
      t.calls = s.sys.calls ++ [.start span parent
        s!"taskflow.{((flow e).kind a).text}.{m.text}" .internal
        (atomAttributes ((flow e).kind a) ((flow e).name a) ((flow e).uuid a) m)] ∧
      (∀ e', e' ≠ e → t.listeners e' = s.sys.listeners e') ∧
      (t.listeners e).atomSpans =
        Function.update (s.sys.listeners e).atomSpans ((flow e).uuid a, m) (some span) ∧
      (t.listeners e).atomsByName = some (atomsOf (flow e).graph) ∧
      t.contextAttr = Function.update s.sys.contextAttr a (some c) ∧ spanIn c = span ∧
      t.frames = s.sys.frames := by
  intro t
  let v := s.sys.view (fun e => (flow e).graph) e w
  have hfree : v.host.listener.atomSpans ((flow e).uuid a, m) = none := by
    change (s.sys.listeners e).atomSpans _ = none
    rw [h.spans e a m ha, hidle]
    rfl
  have hv : t = s.sys.store e w (handedOff ((flow e).name a) (nextAtomSpan v)
      (openedAtom ((flow e).kind a) ((flow e).name a) ((flow e).uuid a) m v)) := by
    simp only [t, step_notify, hn, react, startedAtom]
    simp only [v] at hfree ⊢
    rw [hfree]
  have htable : atomTable (openedAtom ((flow e).kind a) ((flow e).name a) ((flow e).uuid a) m v) =
      atomsOf (flow e).graph := view_atomTable h e w
  refine ⟨nextAtomSpan v, atomParent v, setSpan (nextAtomSpan v) v.current, ?_, ?_, ?_, ?_, ?_,
    by simp, ?_⟩
  · rw [hv]
    rfl
  · intro e' he
    rw [hv]
    exact Function.update_of_ne he ..
  · rw [hv]
    simp [Sys.store, handedOff, openedAtom, withListener, World.called, v, Sys.view]
  · rw [hv]
    simp [Sys.store, handedOff, htable]
  · rw [hv]
    simp only [Sys.store, handedOff, htable, (flow e).atomsOf_name ha]
    rfl
  · rw [hv]
    rfl

/-- A finish takes the span of the phase out of the table. -/
lemma finish_sys (s : Traced E W Ctx) {e : E} {w : W} {a : ℕ} {m : Method}
    {n : Notification} {kind : Kind} {isFailure : Bool} {details : Details}
    (hn : meaning n = .atomFinish kind ((flow e).uuid a) m isFailure details) :
    let t := step (fun e => (flow e).graph) s.sys (.notify e w n)
    (∃ cs, t.calls = s.sys.calls ++ cs) ∧
      (∀ e', e' ≠ e → t.listeners e' = s.sys.listeners e') ∧
      (t.listeners e).atomSpans =
        Function.update (s.sys.listeners e).atomSpans ((flow e).uuid a, m) none ∧
      (t.listeners e).atomsByName = (s.sys.listeners e).atomsByName ∧
      t.contextAttr = s.sys.contextAttr ∧ t.frames = s.sys.frames := by
  intro t
  let v := s.sys.view (fun e => (flow e).graph) e w
  have hv : t = s.sys.store e w (finishedAtom ((flow e).uuid a) m isFailure details.result v) := by
    simp only [t, step_notify, hn, react, v]
  rcases hs : v.host.listener.atomSpans ((flow e).uuid a, m) with _ | span
  · have hsame : t = s.sys.store e w v := by rw [hv, finishedAtom, hs]
    have hnone : Function.update (s.sys.listeners e).atomSpans ((flow e).uuid a, m) none =
        (s.sys.listeners e).atomSpans := Function.update_eq_self_iff.mpr hs.symm
    rw [hnone]
    refine ⟨⟨[], by simp [hsame, Sys.store, v, Sys.view]⟩, fun e' he => ?_, ?_, ?_, ?_, ?_⟩ <;>
      simp [hsame, Sys.store, v, Sys.view]
  · have hopen : t = s.sys.store e w ((poppedAtom ((flow e).uuid a, m) v).called
        (atomClosing span isFailure details.result)) := by
      rw [hv, finishedAtom, hs]
    refine ⟨⟨atomClosing span isFailure details.result, ?_⟩, fun e' he => ?_, ?_, ?_, ?_, ?_⟩
    · rw [hopen]
      rfl
    · rw [hopen]
      exact Function.update_of_ne he ..
    · simp [hopen, Sys.store, poppedAtom, withListener, World.called, v, Sys.view]
    · simp [hopen, Sys.store, poppedAtom, withListener, World.called, v, Sys.view]
    · rw [hopen]
      rfl
    · rw [hopen]
      rfl

/-- A flow notification, or one of no interest, leaves atoms alone. -/
lemma other_sys (s : Traced E W Ctx) {e : E} {w : W} {n : Notification}
    (hok : Follows flow s (.other e w n)) :
    let t := step (fun e => (flow e).graph) s.sys (.notify e w n)
    (∃ cs, t.calls = s.sys.calls ++ cs) ∧
      (∀ e', (t.listeners e').atomSpans = (s.sys.listeners e').atomSpans ∧
        (t.listeners e').atomsByName = (s.sys.listeners e').atomsByName) ∧
      t.contextAttr = s.sys.contextAttr ∧ t.frames = s.sys.frames := by
  intro t
  let v := s.sys.view (fun e => (flow e).graph) e w
  have ht : t = s.sys.store e w (react (meaning n) v) := step_notify ..
  have hv : (react (meaning n) v).host.listener.atomSpans = v.host.listener.atomSpans ∧
      (react (meaning n) v).host.listener.atomsByName = v.host.listener.atomsByName ∧
      (react (meaning n) v).host.contextAttr = v.host.contextAttr := by
    rcases hok with ⟨details, hn⟩ | ⟨state, hn⟩ | hn <;> rw [hn]
    · rcases hf : v.host.listener.flowSpan with _ | span <;>
        simp [react, hf, startedFlow, withListener, World.called]
    · rcases hf : v.host.listener.flowSpan with _ | span <;>
        simp [react, finishedFlow, hf, tookFlow, withListener, World.called]
    · exact ⟨rfl, rfl, rfl⟩
  obtain ⟨hspans, htable, hattr⟩ := hv
  refine ⟨?_, fun e' => ?_, ?_, by rw [ht]; rfl⟩
  · obtain ⟨cs, hcs⟩ := (react_moved (meaning n) v).calls_append
    exact ⟨cs, by rw [ht]; exact hcs⟩
  · rw [ht]
    by_cases he : e' = e
    · subst he
      simp only [Sys.store, Function.update_self]
      exact ⟨hspans, htable⟩
    · simp [Sys.store, he]
  · rw [ht]
    exact hattr

/-! ### Every act keeps the link -/

omit [DecidableEq E] [DecidableEq W] in
lemma linked_init (current : W → Ctx) : Linked flow (Traced.init current) := by
  refine ⟨held_init current, ?_, ?_, ?_, ?_, ?_, ?_, ?_, ?_⟩ <;>
    simp [Traced.init, Sys.init, TraceListener.init, Progress.span, Progress.Waiting]

omit [DecidableEq W] in
/-- After a start the tables agree with the progress. -/
lemma Linked.spans_started (h : Linked flow s) {t : Sys E W Ctx} {e : E} {a : ℕ} {m : Method}
    {span : SpanContext} (ha : IsAtom (flow e).graph a) (hidle : s.progress (e, a) = .idle)
    (hother : ∀ e', e' ≠ e → t.listeners e' = s.sys.listeners e')
    (hspans : (t.listeners e).atomSpans =
      Function.update (s.sys.listeners e).atomSpans ((flow e).uuid a, m) (some span))
    (e' : E) (b : ℕ) (m' : Method) (hb : IsAtom (flow e').graph b) :
    (t.listeners e').atomSpans ((flow e').uuid b, m') =
      (Function.update s.progress (e, a) (.started m span) (e', b)).span m' := by
  by_cases he : e' = e
  · subst he
    rw [hspans]
    by_cases hab : b = a
    · subst hab
      rw [Function.update_self]
      by_cases hm : m' = m
      · simp [hm, Progress.span]
      · have := h.spans e' b m' hb
        simp [hm, Progress.span, this, hidle]
    · have hu : (flow e').uuid b ≠ (flow e').uuid a :=
        fun hu => hab ((flow e').uuid_inj b a hb ha hu)
      simp [hu, hab, h.spans e' b m' hb]
  · rw [hother e' he]
    simp [he, h.spans e' b m' hb]

omit [DecidableEq W] in
/-- After a start every open span is still one that was started for its phase. -/
lemma Linked.opens_started (h : Linked flow s) {calls : List Call} {e : E} {a : ℕ} {m : Method}
    {span parent : SpanContext}
    (hcalls : calls = s.sys.calls ++ [.start span parent
      s!"taskflow.{((flow e).kind a).text}.{m.text}" .internal
      (atomAttributes ((flow e).kind a) ((flow e).name a) ((flow e).uuid a) m)])
    (d : E) (b : ℕ) (k : Method) (other : SpanContext)
    (ht : (Function.update s.progress (e, a) (.started m span) (d, b)).span k = some other) :
    ∃ parent, .start other parent s!"taskflow.{((flow d).kind b).text}.{k.text}" .internal
      (atomAttributes ((flow d).kind b) ((flow d).name b) ((flow d).uuid b) k) ∈ calls := by
  rw [hcalls]
  by_cases hp : (d, b) = (e, a)
  · obtain ⟨rfl, rfl⟩ := Prod.mk.inj hp
    rw [Function.update_self] at ht
    obtain ⟨rfl, rfl⟩ : k = m ∧ span = other := by
      by_cases hm : k = m <;> simp_all [Progress.span]
    exact ⟨parent, by simp⟩
  · rw [Function.update_of_ne hp] at ht
    obtain ⟨q, hq⟩ := h.opens d b k other ht
    exact ⟨q, List.mem_append_left _ hq⟩

omit [DecidableEq W] [ContextApi Ctx] in
/-- An atom that waits after a start is the one started, or waited before. -/
lemma waiting_started {e e' : E} {a b : ℕ} {m : Method} {span : SpanContext}
    (hapart : ∀ e', e' ≠ e → ¬ (s.progress (e', a)).Waiting)
    (hb : (Function.update s.progress (e, a) (.started m span) (e', b)).Waiting) :
    e' = e ∧ b = a ∨ b ≠ a ∧ (s.progress (e', b)).Waiting := by
  by_cases hba : b = a
  · subst hba
    by_cases he : e' = e
    · exact Or.inl ⟨he, rfl⟩
    · rw [Function.update_of_ne (by simp [he])] at hb
      exact absurd hb (hapart e' he)
  · rw [Function.update_of_ne (by simp [hba])] at hb
    exact Or.inr ⟨hba, hb⟩

lemma linked_start (h : Linked flow s) {e : E} {w : W} {a : ℕ} {m : Method} {n : Notification}
    (hok : Follows flow s (.start e w a m n)) (hapart : Apart s (.start e w a m n)) :
    Linked flow (advance flow s (.start e w a m n)) := by
  obtain ⟨ha, hidle, hn⟩ := hok
  obtain ⟨span, parent, c, hcalls, hother, hspans, htable, hattr, hc, hframes⟩ :=
    h.start_sys (w := w) ha hidle hn
  have hbetween : startedBetween s.sys.calls
      (step (fun e => (flow e).graph) s.sys (.notify e w n)).calls = span := by
    rw [startedBetween, hcalls, List.drop_left]
    rfl
  have hheld := held_step (fun e => (flow e).graph) s.sys (.notify e w n) h.held
  have hadv : advance flow s (.start e w a m n) =
      ⟨step (fun e => (flow e).graph) s.sys (.notify e w n),
        Function.update s.progress (e, a) (.started m span)⟩ := by
    rw [← hbetween]
    rfl
  rw [hadv]
  generalize step (fun e => (flow e).graph) s.sys (.notify e w n) = t at *
  refine ⟨hheld, ?_, ?_, h.spans_started ha hidle hother hspans, h.opens_started hcalls,
    ?_, ?_, ?_, ?_⟩
  · intro e' atoms hatoms
    by_cases he : e' = e
    · subst he
      exact (Option.some.inj (htable.symm.trans hatoms)).symm
    · exact h.table e' atoms (hother e' he ▸ hatoms)
  · intro e' b hb
    change Function.update s.progress (e, a) _ (e', b) ≠ _ at hb
    by_cases hp : (e', b) = (e, a)
    · obtain ⟨rfl, rfl⟩ := Prod.mk.inj hp
      exact ha
    · rw [Function.update_of_ne hp] at hb
      exact h.atoms e' b hb
  · intro e' b m' span' ht
    change Function.update s.progress (e, a) _ (e', b) = _ at ht
    change ∃ c, t.contextAttr b = some c ∧ _
    rw [hattr]
    rcases waiting_started hapart ⟨m', span', ht⟩ with ⟨rfl, rfl⟩ | ⟨hb, -⟩
    · rw [Function.update_self] at ht
      obtain ⟨-, rfl⟩ := Progress.started.inj ht
      exact ⟨c, Function.update_self .., hc⟩
    · rw [Function.update_of_ne (by simp [hb])] at ht
      rw [Function.update_of_ne hb]
      exact h.stashed e' b m' span' ht
  · intro b hb
    change ∃ e', (Function.update s.progress (e, a) _ (e', b)).Waiting
    by_cases hba : b = a
    · subst hba
      exact ⟨e, m, span, Function.update_self ..⟩
    · change t.contextAttr b ≠ none at hb
      rw [hattr, Function.update_of_ne hba] at hb
      obtain ⟨e', he'⟩ := h.stash b hb
      refine ⟨e', ?_⟩
      rwa [Function.update_of_ne (by simp [hba])]
  · intro e₁ e₂ b h₁ h₂
    rcases waiting_started hapart h₁ with ⟨rfl, rfl⟩ | ⟨hb, hw₁⟩
    · rcases waiting_started hapart h₂ with ⟨rfl, -⟩ | ⟨hb, -⟩
      · rfl
      · exact absurd rfl hb
    · rcases waiting_started hapart h₂ with ⟨-, rfl⟩ | ⟨-, hw₂⟩
      · exact absurd rfl hb
      · exact h.single e₁ e₂ b hw₁ hw₂
  · intro w' f hf
    change f ∈ t.frames w' at hf
    rw [hframes] at hf
    exact h.frames w' f hf

omit [DecidableEq E] [DecidableEq W] in
/-- What keeps the link when nothing new is opened: tables and progress still agree, and the
context of an atom goes when the engine that waited goes on. -/
lemma Linked.keep (h : Linked flow s) {t : Sys E W Ctx} {p : E × ℕ → Progress}
    (hheld : Held t) (hcalls : ∃ cs, t.calls = s.sys.calls ++ cs)
    (htable : ∀ e, (t.listeners e).atomsByName = (s.sys.listeners e).atomsByName)
    (hspans : ∀ e a m, IsAtom (flow e).graph a →
      (t.listeners e).atomSpans ((flow e).uuid a, m) = (p (e, a)).span m)
    (hopen : ∀ q m span, (p q).span m = some span → (s.progress q).span m = some span)
    (hidle : ∀ q, p q ≠ .idle → s.progress q ≠ .idle)
    (hstarted : ∀ q m span, p q = .started m span → s.progress q = .started m span)
    (hattr : ∀ a, t.contextAttr a = s.sys.contextAttr a ∨
      t.contextAttr a = none ∧ ∀ e, ¬ (p (e, a)).Waiting)
    (hgone : ∀ e a, (s.progress (e, a)).Waiting → ¬ (p (e, a)).Waiting → t.contextAttr a = none)
    (hframes : ∀ w, ∀ f ∈ t.frames w, f.token = some ⟨f.before⟩) : Linked flow ⟨t, p⟩ := by
  have hwaiting : ∀ q, (p q).Waiting → (s.progress q).Waiting :=
    fun q ⟨m, span, hq⟩ => ⟨m, span, hstarted q m span hq⟩
  refine ⟨hheld, ?_, fun e a ha => h.atoms e a (hidle _ ha), hspans, ?_, ?_, ?_, ?_, hframes⟩
  · intro e atoms hatoms
    exact h.table e atoms (htable e ▸ hatoms)
  · intro e a m span hspan
    obtain ⟨parent, hparent⟩ := h.opens e a m span (hopen _ m span hspan)
    obtain ⟨cs, hcs⟩ := hcalls
    exact ⟨parent, by rw [hcs]; exact List.mem_append_left _ hparent⟩
  · intro e a m span hspan
    rcases hattr a with hsame | ⟨-, hnone⟩
    · obtain ⟨c, hc, hcs⟩ := h.stashed e a m span (hstarted _ m span hspan)
      exact ⟨c, hsame.trans hc, hcs⟩
    · exact absurd ⟨m, span, hspan⟩ (hnone e)
  · intro a ha
    rcases hattr a with hsame | ⟨hnone, -⟩
    · obtain ⟨e, he⟩ := h.stash a (hsame ▸ ha)
      refine ⟨e, ?_⟩
      by_contra hgo
      exact ha (hgone e a he hgo)
    · exact absurd hnone ha
  · intro e e' a h₁ h₂
    exact h.single e e' a (hwaiting _ h₁) (hwaiting _ h₂)

lemma linked_body (h : Linked flow s) {e : E} {w : W} {a : ℕ}
    (hok : Follows flow s (.body e w a)) : Linked flow (advance flow s (.body e w a)) := by
  obtain ⟨m, span, hstart⟩ := hok
  obtain ⟨c, hc, -⟩ := h.stashed e a m span hstart
  have hheld := held_step (fun e => (flow e).graph) s.sys (.enter e w a) h.held
  refine h.keep hheld ?_ ?_ ?_ ?_ ?_ ?_ ?_ ?_ ?_ <;>
    simp only [Act.event, step_enter, progressAfter]
  · exact ⟨[], by simp⟩
  · simp
  · intro e' b m' hb
    rw [h.spans e' b m' hb]
    by_cases hq : (e', b) = (e, a)
    · rw [hq, Function.update_self, Progress.span_enter]
    · rw [Function.update_of_ne hq]
  · intro q m' t ht
    by_cases hq : q = (e, a)
    · subst hq
      simpa using ht
    · rwa [Function.update_of_ne hq] at ht
  · intro q hq
    by_cases hqa : q = (e, a)
    · rw [hqa, hstart]
      simp
    · rwa [Function.update_of_ne hqa] at hq
  · intro q m' t ht
    by_cases hq : q = (e, a)
    · subst hq
      rw [Function.update_self] at ht
      exact (Progress.enter_ne_started _ _ _ ht).elim
    · rwa [Function.update_of_ne hq] at ht
  · intro b
    by_cases hb : b = a
    · subst hb
      refine Or.inr ⟨Function.update_self .., ?_⟩
      rintro e' ⟨m', t, ht⟩
      by_cases he : e' = e
      · subst he
        rw [Function.update_self] at ht
        exact Progress.enter_ne_started _ _ _ ht
      · rw [Function.update_of_ne (by simp [he])] at ht
        exact he (h.single e' e b ⟨m', t, ht⟩ ⟨m, span, hstart⟩)
    · exact Or.inl (Function.update_of_ne hb ..)
  · intro e' b hwait hgo
    by_cases hq : (e', b) = (e, a)
    · obtain ⟨rfl, rfl⟩ := Prod.mk.inj hq
      exact Function.update_self ..
    · rw [Function.update_of_ne hq] at hgo
      exact absurd hwait hgo
  · refine Runs.forall_mem_update h.frames (List.forall_mem_cons.mpr ⟨?_, h.frames w⟩)
    simp [hc]

lemma linked_leave (h : Linked flow s) {w : W} (hok : Follows flow s (.leave w)) :
    Linked flow (advance flow s (.leave w)) := by
  obtain ⟨f, fs, hf⟩ := List.exists_cons_of_ne_nil hok
  have hheld := held_step (fun e => (flow e).graph) s.sys (.exit w) h.held
  refine h.keep hheld ?_ ?_ ?_ ?_ ?_ ?_ ?_ ?_ ?_ <;>
    simp only [Act.event, step_exit s.sys hf, progressAfter, hf]
  · exact ⟨[], by simp⟩
  · simp
  · intro e b m hb
    rw [h.spans e b m hb]
    by_cases hq : (e, b) = (f.engine, f.atom)
    · rw [hq, Function.update_self, Progress.span_leave]
    · rw [Function.update_of_ne hq]
  · intro q m t ht
    by_cases hq : q = (f.engine, f.atom)
    · subst hq
      simpa using ht
    · rwa [Function.update_of_ne hq] at ht
  · intro q hq
    by_cases hqf : q = (f.engine, f.atom)
    · subst hqf
      rw [Function.update_self] at hq
      intro hidle
      exact hq (by rw [hidle]; rfl)
    · rwa [Function.update_of_ne hqf] at hq
  · intro q m t ht
    by_cases hq : q = (f.engine, f.atom)
    · subst hq
      simpa using ht
    · rwa [Function.update_of_ne hq] at ht
  · intro b
    exact Or.inl trivial
  · rintro e b ⟨m, t, hwait⟩ hgo
    refine absurd ⟨m, t, ?_⟩ hgo
    by_cases hq : (e, b) = (f.engine, f.atom)
    · rw [hq, Function.update_self, Progress.leave_eq_started, ← hq]
      exact hwait
    · rwa [Function.update_of_ne hq]
  · refine Runs.forall_mem_update h.frames fun g hg => ?_
    exact h.frames w g (hf ▸ List.mem_cons_of_mem _ hg)

lemma linked_finish (h : Linked flow s) {e : E} {w : W} {a : ℕ} {m : Method} {n : Notification}
    (hok : Follows flow s (.finish e w a m n)) :
    Linked flow (advance flow s (.finish e w a m n)) := by
  obtain ⟨⟨span, hran⟩, kind, isFailure, details, hn⟩ := hok
  obtain ⟨hcalls, hother, hspans, htable, hattr, hframes⟩ := finish_sys s (w := w) hn
  have hheld := held_step (fun e => (flow e).graph) s.sys (.notify e w n) h.held
  have ha := h.atoms e a (by simp [hran])
  have hne : ∀ q : E × ℕ, (s.progress q).Waiting → q ≠ (e, a) := by
    rintro q ⟨m', t, hq⟩ rfl
    simp [hran] at hq
  refine h.keep hheld hcalls ?_ ?_ ?_ ?_ ?_ ?_ ?_ ?_ <;> simp only [Act.event, progressAfter]
  · intro e'
    by_cases he : e' = e
    · rw [he, htable]
    · rw [hother e' he]
  · intro e' b m' hb
    by_cases he : e' = e
    · subst he
      rw [hspans]
      by_cases hba : b = a
      · subst hba
        rw [Function.update_self]
        by_cases hm : m' = m
        · simp [hm, Progress.span]
        · have := h.spans e' b m' hb
          simp [hm, this, hran, Progress.span]
      · have hu : (flow e').uuid b ≠ (flow e').uuid a :=
          fun hu => hba ((flow e').uuid_inj b a hb ha hu)
        simp [hu, hba, h.spans e' b m' hb]
    · rw [hother e' he, Function.update_of_ne (by simp [he])]
      exact h.spans e' b m' hb
  · intro q m' t ht
    by_cases hq : q = (e, a)
    · subst hq
      simp [Progress.span] at ht
    · rwa [Function.update_of_ne hq] at ht
  · intro q hq
    by_cases hqa : q = (e, a)
    · subst hqa
      simp at hq
    · rwa [Function.update_of_ne hqa] at hq
  · intro q m' t ht
    by_cases hq : q = (e, a)
    · subst hq
      simp at ht
    · rwa [Function.update_of_ne hq] at ht
  · exact fun b => Or.inl (congrFun hattr b)
  · intro e' b hwait hgo
    rw [Function.update_of_ne (hne _ hwait)] at hgo
    exact absurd hwait hgo
  · rw [hframes]
    exact h.frames

lemma linked_other (h : Linked flow s) {e : E} {w : W} {n : Notification}
    (hok : Follows flow s (.other e w n)) : Linked flow (advance flow s (.other e w n)) := by
  obtain ⟨hcalls, hsame, hattr, hframes⟩ := other_sys s (w := w) hok
  have hheld := held_step (fun e => (flow e).graph) s.sys (.notify e w n) h.held
  refine h.keep hheld hcalls (fun e' => (hsame e').2) ?_ (fun _ _ _ h => h) (fun _ h => h)
    (fun _ _ _ h => h) (fun b => Or.inl (congrFun hattr b)) (fun _ _ h h' => absurd h h') ?_
  · intro e' b m hb
    exact (congrFun (hsame e').1 _).trans (h.spans e' b m hb)
  · simp only [Act.event, hframes]
    exact h.frames

lemma linked_ambient (h : Linked flow s) (w : W) (c : Ctx) :
    Linked flow (advance flow s (.ambient w c)) := by
  have hheld := held_step (fun e => (flow e).graph) s.sys (.ambient w c) h.held
  exact h.keep hheld ⟨[], by simp [Act.event, step]⟩ (fun _ => rfl) h.spans (fun _ _ _ h => h)
    (fun _ h => h) (fun _ _ _ h => h) (fun _ => Or.inl rfl) (fun _ _ h h' => absurd h h') h.frames

/-- One act keeps the link. -/
lemma linked_step (s : Traced E W Ctx) (act : Act E W Ctx) (h : Linked flow s)
    (hok : Follows flow s act ∧ Apart s act) : Linked flow (advance flow s act) := by
  cases act with
  | start => exact linked_start h hok.1 hok.2
  | body => exact linked_body h hok.1
  | leave => exact linked_leave h hok.1
  | finish => exact linked_finish h hok.1
  | other => exact linked_other h hok.1
  | ambient w c => exact linked_ambient h w c

/-- So does every run. -/
lemma linked_run {current : W → Ctx} {acts : List (Act E W Ctx)}
    (hl : Runs.Legal (fun s act => Follows flow s act ∧ Apart s act) (advance flow)
      (Traced.init current) acts) :
    Linked flow (Runs.run (advance flow) (Traced.init current) acts) :=
  Runs.inv_of_legal linked_step (linked_init current) hl

/-! ### Bodies -/

/-- A body that waits runs with the span of its phase, and takes the context with it. -/
lemma Linked.body_span (h : Linked flow s) {e : E} {w : W} {a : ℕ}
    (hok : Follows flow s (.body e w a)) :
    ∃ m span, s.progress (e, a) = .started m span ∧
      spanIn ((advance flow s (.body e w a)).sys.current w) = span ∧
      (s.sys.listeners e).atomSpans ((flow e).uuid a, m) = some span ∧
      OpenFor (advance flow s (.body e w a)).sys.calls (flow e) a m span ∧
      (advance flow s (.body e w a)).sys.contextAttr a = none := by
  obtain ⟨m, span, hstart⟩ := hok
  obtain ⟨c, hc, hcs⟩ := h.stashed e a m span hstart
  have hslot : (s.sys.listeners e).atomSpans ((flow e).uuid a, m) = some span := by
    rw [h.spans e a m (h.atoms e a (by simp [hstart])), hstart]
    simp [Progress.span]
  have hspan : (s.progress (e, a)).span m = some span := by simp [hstart, Progress.span]
  have hunended := h.held.unended (e, .atom ((flow e).uuid a, m)) span hslot
  refine ⟨m, span, hstart, ?_, hslot, ?_, ?_⟩ <;> simp only [advance, Act.event, step_enter]
  · simp [hc, hcs]
  · exact ⟨h.opens e a m span hspan, hunended⟩
  · simp

/-- Leaving a body puts back the context its wrapper was called under. -/
lemma Linked.leave_current (h : Linked flow s) {w : W} (hok : Follows flow s (.leave w)) :
    ∃ f fs, s.sys.frames w = f :: fs ∧
      (advance flow s (.leave w)).sys.current w = f.before := by
  obtain ⟨f, fs, hf⟩ := List.exists_cons_of_ne_nil hok
  have htoken := h.frames w f (hf ▸ List.mem_cons_self ..)
  refine ⟨f, fs, hf, ?_⟩
  simp [advance, Act.event, step_exit s.sys hf, htoken]

omit [DecidableEq E] [DecidableEq W] in
/-- An atom no engine has left waiting carries no context. -/
lemma Linked.contextAttr_eq_none (h : Linked flow s) {a : ℕ}
    (ha : ∀ e, ¬ (s.progress (e, a)).Waiting) : s.sys.contextAttr a = none := by
  by_contra hne
  obtain ⟨e, he⟩ := h.stash a hne
  exact ha e he

end

/-- A flow of one task. -/
def oneTask : Flow where
  graph := [⟨some (.str "flow"), false, 7⟩, ⟨some (.str "task"), true, 0⟩]
  kind _ := .task
  name _ := .str "task"
  uuid _ := .str "uuid"
  named n hn hexec := by
    rcases List.mem_pair.mp hn with rfl | rfl
    · simp at hexec
    · rfl
  name_inj := by
    rintro a b ⟨n, hn, hexec, rfl⟩ ⟨k, hk, hexec', rfl⟩ -
    rcases List.mem_pair.mp hn with rfl | rfl <;> rcases List.mem_pair.mp hk with rfl | rfl <;>
      simp_all
  uuid_inj := by
    rintro a b ⟨n, hn, hexec, rfl⟩ ⟨k, hk, hexec', rfl⟩ -
    rcases List.mem_pair.mp hn with rfl | rfl <;> rcases List.mem_pair.mp hk with rfl | rfl <;>
      simp_all

lemma isAtom_oneTask : IsAtom oneTask.graph 0 := ⟨_, List.mem_pair.mpr (.inr rfl), rfl, rfl⟩

def taskNotification (state : State) : Notification :=
  .atom .task state ⟨fun key => .str (if key = "task_name" then "task" else "uuid"), .other⟩

section

variable {E W Ctx : Type} [DecidableEq E] [DecidableEq W] [ContextApi Ctx]

omit [DecidableEq W] [ContextApi Ctx] in
lemma apart_unit (s : Traced Unit W Ctx) (act : Act Unit W Ctx) : Apart s act := by
  cases act with
  | start e => exact fun e' he => absurd rfl he
  | _ => trivial

/-- **Hand-off in one engine.** A body runs with the open span of its own phase current and
leaves no context on the atom; an atom carries one only while it waits for its body; on its
way out a body puts back the context its worker had. -/
theorem body_in_own_span (flow : Flow) (current : W → Ctx) (acts : List (Act Unit W Ctx))
    (hl : Runs.Legal (Follows fun _ => flow) (advance fun _ => flow) (Traced.init current) acts) :
    (∀ pre w a post, acts = pre ++ .body () w a :: post →
      let s := Runs.run (advance fun _ => flow) (Traced.init current) pre
      let t := advance (fun _ => flow) s (.body () w a)
      ∃ m span, s.progress ((), a) = .started m span ∧ spanIn (t.sys.current w) = span ∧
        OpenFor t.sys.calls flow a m span ∧ t.sys.contextAttr a = none) ∧
    (let s := Runs.run (advance fun _ => flow) (Traced.init current) acts
      ∀ a, ¬ (s.progress ((), a)).Waiting → s.sys.contextAttr a = none) ∧
    ∀ pre w post, acts = pre ++ .leave w :: post →
      let s := Runs.run (advance fun _ => flow) (Traced.init current) pre
      ∃ f fs, s.sys.frames w = f :: fs ∧
        (advance (fun _ => flow) s (.leave w)).sys.current w = f.before := by
  have hboth : Runs.Legal (fun s act => Follows (fun _ => flow) s act ∧ Apart s act)
      (advance fun _ => flow) (Traced.init current) acts :=
    hl.imp fun s act h => ⟨h, apart_unit s act⟩
  refine ⟨?_, ?_, ?_⟩
  · rintro pre w a post rfl
    obtain ⟨m, span, hstart, hcurrent, -, hopen, hattr⟩ :=
      (linked_run hboth.before).body_span hl.ok_at
    exact ⟨m, span, hstart, hcurrent, hopen, hattr⟩
  · intro s a ha
    exact (linked_run hboth).contextAttr_eq_none fun _ => ha
  · rintro pre w post rfl
    exact (linked_run hboth.before).leave_current hl.ok_at

/-- A task run on another worker than the engine's. -/
theorem body_in_own_span_oneTask :
    let acts : List (Act Unit Bool BareContext) :=
      [.start () false 0 .execute (taskNotification .running), .body () true 0,
        .ambient true ⟨⟨5, 6⟩, true⟩, .leave true,
        .finish () false 0 .execute (taskNotification .success)]
    let step := advance fun _ => oneTask
    let start := Traced.init fun _ => empty
    (∀ pre w a post, acts = pre ++ .body () w a :: post →
      let s := Runs.run step start pre
      let t := step s (.body () w a)
      ∃ m span, s.progress ((), a) = .started m span ∧ spanIn (t.sys.current w) = span ∧
        OpenFor t.sys.calls oneTask a m span ∧ t.sys.contextAttr a = none) ∧
    (let s := Runs.run step start acts
      ∀ a, ¬ (s.progress ((), a)).Waiting → s.sys.contextAttr a = none) ∧
    ∀ pre w post, acts = pre ++ .leave w :: post →
      let s := Runs.run step start pre
      ∃ f fs, s.sys.frames w = f :: fs ∧ (step s (.leave w)).sys.current w = f.before :=
  body_in_own_span oneTask _ _
    ⟨⟨isAtom_oneTask, rfl, rfl⟩, ⟨_, _, rfl⟩, trivial, List.cons_ne_nil _ _,
      ⟨⟨_, rfl⟩, _, _, _, rfl⟩, trivial⟩

/-- **Engines apart.** As long as no engine starts an atom that waits in another one, every
body runs with the span its own engine's listener holds for the phase. -/
theorem body_in_own_engines_span (flow : E → Flow) (current : W → Ctx)
    (acts : List (Act E W Ctx))
    (hl : Runs.Legal (fun s act => Follows flow s act ∧ Apart s act) (advance flow)
      (Traced.init current) acts) :
    ∀ pre e w a post, acts = pre ++ .body e w a :: post →
      let s := Runs.run (advance flow) (Traced.init current) pre
      ∃ m span, s.progress (e, a) = .started m span ∧
        (s.sys.listeners e).atomSpans ((flow e).uuid a, m) = some span ∧
        spanIn ((advance flow s (.body e w a)).sys.current w) = span := by
  rintro pre e w a post rfl
  obtain ⟨m, span, hstart, hcurrent, hslot, -, -⟩ :=
    (linked_run hl.before).body_span hl.ok_at.1
  exact ⟨m, span, hstart, hslot, hcurrent⟩

end

/-- One engine after the other. -/
theorem body_in_own_engines_span_oneTask :
    let acts : List (Act Bool Unit BareContext) :=
      [.start false () 0 .execute (taskNotification .running), .body false () 0,
        .start true () 0 .execute (taskNotification .running), .body true () 0]
    let step := advance fun _ => oneTask
    ∀ pre e w a post, acts = pre ++ .body e w a :: post →
      let s := Runs.run step (Traced.init fun _ => empty) pre
      ∃ m span, s.progress (e, a) = .started m span ∧
        (s.sys.listeners e).atomSpans (oneTask.uuid a, m) = some span ∧
        spanIn ((step s (.body e w a)).sys.current w) = span :=
  body_in_own_engines_span (fun _ => oneTask) _ _
    ⟨⟨⟨isAtom_oneTask, rfl, rfl⟩, fun e' he ⟨m, span, h⟩ => by cases e' <;> simp_all [Traced.init]⟩,
      ⟨⟨_, _, rfl⟩, trivial⟩,
      ⟨⟨isAtom_oneTask, rfl, rfl⟩, fun e' he ⟨m, span, h⟩ => by
        cases e' with
        | false => exact nomatch (show Progress.running _ _ = .started m span from h)
        | true => exact he rfl⟩,
      ⟨⟨_, _, rfl⟩, trivial⟩, trivial⟩

/-- Two engines start a shared task before either runs it: the first to run it does so in the
span of the other. -/
theorem body_in_other_engines_span :
    ¬ ∀ acts : List (Act Bool Unit BareContext),
      Runs.Legal (Follows fun _ => oneTask) (advance fun _ => oneTask)
        (Traced.init fun _ => empty) acts →
      ∀ pre e w a post, acts = pre ++ .body e w a :: post →
        let s := Runs.run (advance fun _ => oneTask) (Traced.init fun _ => empty) pre
        ∃ m span, s.progress (e, a) = .started m span ∧
          (s.sys.listeners e).atomSpans (oneTask.uuid a, m) = some span ∧
          spanIn ((advance (fun _ => oneTask) s (.body e w a)).sys.current w) = span := by
  intro h
  obtain ⟨m, span, -, hslot, hcurrent⟩ := h
    [.start false () 0 .execute (taskNotification .running),
      .start true () 0 .execute (taskNotification .running), .body false () 0]
    ⟨⟨isAtom_oneTask, rfl, rfl⟩, ⟨isAtom_oneTask, rfl, rfl⟩, ⟨_, _, rfl⟩, trivial⟩
    [.start false () 0 .execute (taskNotification .running),
      .start true () 0 .execute (taskNotification .running)] false () 0 [] rfl
  subst hcurrent
  cases m <;> exact absurd hslot (by decide)

end OtelOpenstack.HandOff
