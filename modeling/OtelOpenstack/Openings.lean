import OtelOpenstack.Otel

/-!
Wrappers taken apart at the call of the wrapped callable.

While the callable runs other workers take steps, so a wrapper is its way in, which ends with
what the callable is given, and its way out, which begins with what came of it. The rules below
take a wrapper apart statement by statement.
-/

set_option autoImplicit false

namespace OtelOpenstack.Openings

open Effects Python Otel ContextApi

/-- A wrapper at the call of the wrapped callable. -/
structure Opening (Ctx H ι α : Type) where
  input : ι
  exit : Except Exn α → Code Ctx H α

section

variable {Ctx H ι α β : Type}

/-- Nothing is left to do but the call. -/
def Opening.call (input : ι) : Opening Ctx H ι α := ⟨input, fun r => liftExcept r⟩

/-- The code `m`, which calls a callable, is `enter`, the call, and the way out. -/
def Opens (m : (ι → Code Ctx H α) → Code Ctx H α) (enter : Code Ctx H (Opening Ctx H ι α)) :
    Prop :=
  ∀ wrapped, m wrapped = enter >>= fun o => finishWith (wrapped o.input) o.exit

/-- A wrapper with its way in. -/
structure Wrapping (Ctx H ι α : Type) where
  code : (ι → Code Ctx H α) → Code Ctx H α
  enter : Code Ctx H (Opening Ctx H ι α)
  opens : Opens code enter

lemma opens_call (input : ι) :
    Opens (fun wrapped : ι → Code Ctx H α => wrapped input) (pure (Opening.call input)) :=
  fun _ => rfl

lemma opens_bind {m : β → (ι → Code Ctx H α) → Code Ctx H α}
    {enter : β → Code Ctx H (Opening Ctx H ι α)} (p : Code Ctx H β)
    (h : ∀ b, Opens (m b) (enter b)) :
    Opens (fun wrapped => p >>= fun b => m b wrapped) (p >>= enter) := by
  intro wrapped
  funext w
  rcases hp : p w with ⟨e | b, v⟩
  · simp only [bind_apply, hp]
  · have hb := congrFun (h b wrapped) v
    simp only [bind_apply, hp]
    exact hb

lemma opens_ite {c : Prop} [Decidable c] {m n : (ι → Code Ctx H α) → Code Ctx H α}
    {enter enter' : Code Ctx H (Opening Ctx H ι α)} (hm : Opens m enter) (hn : Opens n enter') :
    Opens (fun wrapped => if c then m wrapped else n wrapped) (if c then enter else enter') := by
  intro wrapped
  by_cases h : c
  · simpa only [if_pos h] using hm wrapped
  · simpa only [if_neg h] using hn wrapped

/-- A step after the call, when the call returned. -/
def andThen (enter : Code Ctx H (Opening Ctx H ι α)) (after : α → Code Ctx H α) :
    Code Ctx H (Opening Ctx H ι α) := do
  let o ← enter
  pure ⟨o.input, fun r => o.exit r >>= after⟩

lemma opens_andThen {m : (ι → Code Ctx H α) → Code Ctx H α}
    {enter : Code Ctx H (Opening Ctx H ι α)} (h : Opens m enter) (after : α → Code Ctx H α) :
    Opens (fun wrapped => m wrapped >>= after) (andThen enter after) := by
  intro wrapped
  funext w
  rcases he : enter w with ⟨e | o, v⟩
  · simp only [h wrapped, andThen, bind_apply, he]
  · simp only [h wrapped, andThen, bind_apply, he, pure_apply, finishWith]

/-- `except` around the call. -/
def handling (enter : Code Ctx H (Opening Ctx H ι α)) (handler : Exn → Code Ctx H Unit) :
    Code Ctx H (Opening Ctx H ι α) := do
  let o ← tryExcept enter fun e => do
    handler e
    raise e
  pure ⟨o.input, fun r => tryExcept (o.exit r) fun e => do
    handler e
    raise e⟩

lemma opens_handling {m : (ι → Code Ctx H α) → Code Ctx H α}
    {enter : Code Ctx H (Opening Ctx H ι α)} (h : Opens m enter)
    (handler : Exn → Code Ctx H Unit) :
    Opens
      (fun wrapped => tryExcept (m wrapped) fun e => do
        handler e
        raise e)
      (handling enter handler) := by
  intro wrapped
  funext w
  rcases he : enter w with ⟨e | o, v⟩
  · rcases hh : handler e v with ⟨e' | u, t⟩
    · simp only [h wrapped, handling, tryExcept, bind_apply, he, hh]
    · simp only [h wrapped, handling, tryExcept, bind_apply, he, hh, raise_apply]
  · simp only [h wrapped, handling, tryExcept, bind_apply, he, pure_apply, finishWith]

/-! ### `finally` -/

/-- How a computation came out, its value aside. -/
def outcome (r : Except Exn α) : Except Exn Unit := r.map fun _ => ()

/-- `m`, and `fin` on every way out, which knows how `m` came out. -/
def finalized (m : Code Ctx H α) (fin : Except Exn Unit → Code Ctx H Unit) : Code Ctx H α :=
  finishWith m fun r => do
    fin (outcome r)
    liftExcept r

def finalizing (enter : Code Ctx H (Opening Ctx H ι α))
    (fin : Except Exn Unit → Code Ctx H Unit) : Code Ctx H (Opening Ctx H ι α) := do
  let o ← tryExcept enter fun e => do
    fin (.error e)
    raise e
  pure ⟨o.input, fun r => finalized (o.exit r) fin⟩

lemma opens_finalizing {m : (ι → Code Ctx H α) → Code Ctx H α}
    {enter : Code Ctx H (Opening Ctx H ι α)} (h : Opens m enter)
    (fin : Except Exn Unit → Code Ctx H Unit) :
    Opens (fun wrapped => finalized (m wrapped) fin) (finalizing enter fin) := by
  intro wrapped
  funext w
  rcases he : enter w with ⟨e | o, v⟩
  · rcases hf : fin (.error e) v with ⟨e' | u, t⟩
    · simp only [h wrapped, finalizing, finalized, finishWith, tryExcept, bind_apply, he,
        outcome, Except.map, hf]
    · simp only [h wrapped, finalizing, finalized, finishWith, tryExcept, bind_apply, he,
        outcome, Except.map, hf, raise_apply, liftExcept_apply]
  · simp only [h wrapped, finalizing, finalized, finishWith, tryExcept, bind_apply, he,
      pure_apply]

lemma finalized_state (m : Code Ctx H α) (fin : Except Exn Unit → Code Ctx H Unit)
    (w : World Ctx H) : (finalized m fin w).2 = (fin (outcome (m w).1) (m w).2).2 := by
  unfold finalized finishWith
  rcases m w with ⟨r, v⟩
  dsimp only
  rcases hf : fin (outcome r) v with ⟨e | u, t⟩
  · rw [bind_of_error hf]
  · rw [bind_of_ok hf]
    rfl

lemma opens_tryFinally {m : (ι → Code Ctx H α) → Code Ctx H α}
    {enter : Code Ctx H (Opening Ctx H ι α)} (h : Opens m enter) (t : Token Ctx) :
    Opens (fun wrapped => tryFinally (m wrapped) (detach t))
      (finalizing enter fun _ => detach t) :=
  opens_finalizing h fun _ => detach t

variable [ContextApi Ctx]

/-- The end of `use_span`. -/
def closeSpan (span : SpanContext) (t : Token Ctx) (r : Except Exn Unit) : Code Ctx H Unit := do
  detach t
  modifies fun w => w.called (closing Ctx span r)

/-- The code of a `use_span` block, up to the call. -/
def enterSpan (span : SpanContext) (enter : Code Ctx H (Opening Ctx H ι α)) :
    Code Ctx H (Opening Ctx H ι α) := do
  let c ← getCurrent
  let token ← attach (setSpan span c)
  finalizing enter (closeSpan span token)

lemma opens_useSpan {m : (ι → Code Ctx H α) → Code Ctx H α}
    {enter : Code Ctx H (Opening Ctx H ι α)} (h : Opens m enter) (span : SpanContext) :
    Opens (fun wrapped => useSpan noFaults span (m wrapped)) (enterSpan span enter) := by
  have hspan : ∀ body : Code Ctx H α, useSpan noFaults span body = (do
      let c ← getCurrent
      let token ← attach (setSpan span c)
      finalized body (closeSpan span token)) := by
    intro body
    funext w
    rw [useSpan_noFaults]
    simp only [bind_apply, getCurrent_apply, attach_apply, finalized, finishWith]
    rcases body { w with current := setSpan span w.current } with ⟨e | a, v⟩
    · rfl
    · rfl
  intro wrapped
  dsimp only
  rw [hspan]
  exact opens_bind getCurrent (fun c => opens_bind (attach (setSpan span c))
    (fun token => opens_finalizing h (closeSpan span token))) wrapped

end

/-! ### What the two ways do -/

section

variable {Ctx H ι α β : Type}

/-- Since `w` calls were made on spans started before. -/
def NoStart (w v : World Ctx H) : Prop :=
  ∃ cs, startedSpans cs = [] ∧ v.calls = w.calls ++ cs

/-- Since `w` one span was started, a child of `parent`. -/
def Started (kind : SpanKind) (parent : SpanContext) (w v : World Ctx H) : Prop :=
  ∃ name attributes cs, startedSpans cs = [] ∧
    v.calls = w.calls ++ .start (newSpan w.calls parent) parent name kind attributes :: cs

/-- Nothing happened to the current context or to spans. -/
def Kept (w v : World Ctx H) : Prop := v.current = w.current ∧ NoStart w v

lemma noStart_refl (w : World Ctx H) : NoStart w w := ⟨[], rfl, (List.append_nil _).symm⟩

lemma noStart_trans (u v w : World Ctx H) (h : NoStart u v) (h' : NoStart v w) :
    NoStart u w := by
  obtain ⟨cs, hcs, hv⟩ := h
  obtain ⟨ds, hds, hw⟩ := h'
  refine ⟨cs ++ ds, ?_, ?_⟩
  · rw [startedSpans_append, hcs, hds, List.append_nil]
  · rw [hw, hv, List.append_assoc]

lemma kept_refl (w : World Ctx H) : Kept w w := ⟨rfl, noStart_refl w⟩

lemma kept_trans (u v w : World Ctx H) (h : Kept u v) (h' : Kept v w) : Kept u w :=
  ⟨h'.1.trans h.1, noStart_trans u v w h.2 h'.2⟩

lemma Started.noStart {kind : SpanKind} {parent : SpanContext} {u v w : World Ctx H}
    (h : Started kind parent u v) (h' : NoStart v w) : Started kind parent u w := by
  obtain ⟨name, attributes, cs, hcs, hv⟩ := h
  obtain ⟨ds, hds, hw⟩ := h'
  refine ⟨name, attributes, cs ++ ds, ?_, ?_⟩
  · rw [startedSpans_append, hcs, hds, List.append_nil]
  · rw [hw, hv, List.append_assoc]
    rfl

/-- On its way out a wrapper starts no span, and leaves `c` current. -/
def Restores (c : Ctx) (exit : Except Exn α → Code Ctx H α) : Prop :=
  ∀ r u, (exit r u).2.current = c ∧ NoStart u (exit r u).2

/-- What is done before an exception goes on. -/
lemma reraise_apply (m : Code Ctx H Unit) (e : Exn) (w : World Ctx H) :
    ∃ e', (do
      m
      raise e : Code Ctx H α) w = (.error e', (m w).2) := by
  rcases hm : m w with ⟨e' | u, v⟩
  · exact ⟨e', bind_of_error hm⟩
  · exact ⟨e, bind_of_ok hm⟩

/-- A block inside a span: both ways keep `R`, and the callable is called where `Q`. -/
def Block (R : World Ctx H → World Ctx H → Prop) (Q : ι → World Ctx H → Prop) (w : World Ctx H) :
    Except Exn (Opening Ctx H ι α) × World Ctx H → Prop
  | (.error _, v) => R w v
  | (.ok o, v) => R w v ∧ (∀ r, Keeps R (o.exit r)) ∧ Q o.input v

section

variable {R : World Ctx H → World Ctx H → Prop} (hr : ∀ w, R w w)
  (ht : ∀ u v w, R u v → R v w → R u w) {Q : ι → World Ctx H → Prop} {w : World Ctx H}

include hr in
lemma block_call {input : ι} (h : Q input w) :
    Block R Q w ((pure (Opening.call input) : Code Ctx H (Opening Ctx H ι α)) w) :=
  ⟨hr w, fun r => Keeps.liftExcept hr r, h⟩

include ht in
lemma block_of_keeps {v : World Ctx H} {out : Except Exn (Opening Ctx H ι α) × World Ctx H}
    (hkeeps : R w v) (h : Block R Q v out) : Block R Q w out := by
  rcases out with ⟨e | o, t⟩
  · exact ht _ _ _ hkeeps h
  · exact ⟨ht _ _ _ hkeeps h.1, h.2⟩

include ht in
lemma block_ok {v : World Ctx H} {p : Code Ctx H β} {b : β}
    {f : β → Code Ctx H (Opening Ctx H ι α)} (hp : p w = (.ok b, v)) (hkeeps : R w v)
    (h : Block R Q v (f b v)) : Block R Q w ((p >>= f) w) := by
  rw [bind_of_ok hp]
  exact block_of_keeps ht hkeeps h

include hr in
lemma block_silent {p : Code Ctx H β} {f : β → Code Ctx H (Opening Ctx H ι α)} (hp : Silent p)
    (hf : ∀ b, p w = (.ok b, w) → Block R Q w (f b w)) : Block R Q w ((p >>= f) w) :=
  hp.post_bind_outcome (fun _ => hr w) hf

include ht in
lemma block_andThen {enter : Code Ctx H (Opening Ctx H ι α)} {after : α → Code Ctx H α}
    (h : Block R Q w (enter w)) (hafter : ∀ a, Keeps R (after a)) :
    Block R Q w (andThen enter after w) := by
  rcases he : enter w with ⟨e | o, v⟩ <;> rw [he] at h
  · rw [andThen, bind_of_error he]
    exact h
  · rw [andThen, bind_of_ok he]
    exact ⟨h.1, fun r => Keeps.bind ht (h.2.1 r) hafter, h.2.2⟩

include hr ht in
lemma block_handling {enter : Code Ctx H (Opening Ctx H ι α)} {handler : Exn → Code Ctx H Unit}
    (h : Block R Q w (enter w)) (hhandler : ∀ e, Keeps R (handler e)) :
    Block R Q w (handling enter handler w) := by
  rcases he : enter w with ⟨e | o, v⟩ <;> rw [he] at h
  · obtain ⟨e', he'⟩ := reraise_apply (α := Opening Ctx H ι α) (handler e) e v
    have hv : R w (handler e v).2 := ht _ _ _ h (hhandler e v)
    rw [handling, bind_of_error ((tryExcept_of_error he).trans he')]
    exact hv
  · rw [handling, bind_of_ok (tryExcept_of_ok he)]
    have hraise : ∀ e, Keeps R (do
        handler e
        raise e : Code Ctx H α) :=
      fun e => Keeps.bind ht (hhandler e) fun _ => Keeps.raise hr e
    exact ⟨h.1, fun r => Keeps.tryExcept ht (h.2.1 r) hraise, h.2.2⟩

end

/-- A block inside a span: neither way does anything to contexts or spans, and the callable is
called where `Q`. -/
def Inside (Q : ι → World Ctx H → Prop) (w : World Ctx H) :
    Except Exn (Opening Ctx H ι α) × World Ctx H → Prop
  | (.error _, v) => Kept w v
  | (.ok o, v) => Kept w v ∧ (∀ r, Keeps Kept (o.exit r)) ∧ Q o.input v

lemma inside_iff {Q : ι → World Ctx H → Prop} {w : World Ctx H}
    {out : Except Exn (Opening Ctx H ι α) × World Ctx H} :
    Inside Q w out ↔ Block Kept Q w out := by
  rcases out with ⟨e | o, v⟩
  · exact Iff.rfl
  · exact Iff.rfl

lemma inside_call {Q : ι → World Ctx H → Prop} {w : World Ctx H} {input : ι}
    (h : Q input w) :
    Inside Q w ((pure (Opening.call input) : Code Ctx H (Opening Ctx H ι α)) w) :=
  inside_iff.mpr (block_call kept_refl h)

lemma inside_ok {Q : ι → World Ctx H → Prop} {w v : World Ctx H} {p : Code Ctx H β} {b : β}
    {f : β → Code Ctx H (Opening Ctx H ι α)} (hp : p w = (.ok b, v)) (hkept : Kept w v)
    (h : Inside Q v (f b v)) : Inside Q w ((p >>= f) w) :=
  inside_iff.mpr (block_ok kept_trans hp hkept (inside_iff.mp h))

/-- The way in once the span `span` is started: if it raises, it leaves the context `c`, and
otherwise the span is current when the callable is called. -/
def Runs [ContextApi Ctx] (span : SpanContext) (c : Ctx) (Q : ι → World Ctx H → Prop)
    (w : World Ctx H) : Except Exn (Opening Ctx H ι α) × World Ctx H → Prop
  | (.error _, v) => v.current = c ∧ NoStart w v
  | (.ok o, v) => NoStart w v ∧ spanIn v.current = span ∧ enabled v.current = true ∧
    Restores c o.exit ∧ Q o.input v

/-- The way in to a wrapper: the one span it starts is a child of `parent`, and what holds at
the call is what `Runs` says. -/
def Enters [ContextApi Ctx] (kind : SpanKind) (parent : SpanContext) (c : Ctx)
    (Q : SpanContext → ι → World Ctx H → Prop) (w : World Ctx H) :
    Except Exn (Opening Ctx H ι α) × World Ctx H → Prop
  | (.error _, v) => v.current = c ∧ (NoStart w v ∨ Started kind parent w v)
  | (.ok o, v) => Started kind parent w v ∧ spanIn v.current = newSpan w.calls parent ∧
    enabled v.current = true ∧ Restores c o.exit ∧ Q (newSpan w.calls parent) o.input v

section

variable [ContextApi Ctx] {Q : SpanContext → ι → World Ctx H → Prop} {kind : SpanKind}
  {parent span : SpanContext} {c : Ctx} {w : World Ctx H}

lemma enters_silent {p : Code Ctx H β} {f : β → Code Ctx H (Opening Ctx H ι α)}
    (hc : w.current = c) (hp : Silent p)
    (hf : ∀ b, p w = (.ok b, w) → Enters kind parent c Q w (f b w)) :
    Enters kind parent c Q w ((p >>= f) w) :=
  hp.post_bind_outcome (fun _ => ⟨hc, Or.inl (noStart_refl w)⟩) hf

/-- The step that starts the span. -/
lemma enters_start {name : String} {context : Option Ctx} {attributes : Dict}
    {f : SpanContext → Code Ctx H (Opening Ctx H ι α)}
    (hparent : spanIn (context.getD w.current) = parent)
    (hf : ∀ v : World Ctx H, v.current = w.current → v.dicts = w.dicts →
      Runs (newSpan w.calls parent) c (Q (newSpan w.calls parent)) v
        (f (newSpan w.calls parent) v)) :
    Enters kind parent c Q w ((startSpan noFaults name kind context attributes >>= f) w) := by
  subst hparent
  let parent := spanIn (context.getD w.current)
  let start : Call := .start (newSpan w.calls parent) parent name kind attributes
  have hstarted : Started kind parent w (w.called [start]) :=
    ⟨name, attributes, [], rfl, rfl⟩
  have hruns := hf (w.called [start]) rfl rfl
  rw [bind_of_ok (startSpan_noFaults ..)]
  rcases hres : f (newSpan w.calls parent) (w.called [start]) with ⟨e | o, v⟩ <;>
    rw [hres] at hruns
  · exact ⟨hruns.1, Or.inr (hstarted.noStart hruns.2)⟩
  · exact ⟨hstarted.noStart hruns.1, hruns.2⟩

lemma runs_noted {Q : ι → World Ctx H → Prop} {p : Code Ctx H β}
    {f : β → Code Ctx H (Opening Ctx H ι α)} (hc : w.current = c) (hp : Keeps Noted p)
    (hf : ∀ b cs, startedSpans cs = [] → Runs span c Q (w.called cs) (f b (w.called cs))) :
    Runs span c Q w ((p >>= f) w) := by
  obtain ⟨r, cs, hcs, hres⟩ := noted_outcome hp w
  have hstart : NoStart w (w.called cs) := ⟨cs, hcs, rfl⟩
  cases r with
  | error e =>
    rw [bind_of_error hres]
    exact ⟨hc, hstart⟩
  | ok b =>
    rw [bind_of_ok hres]
    have hruns := hf b cs hcs
    rcases hf' : f b (w.called cs) with ⟨e | o, t⟩ <;> rw [hf'] at hruns
    · exact ⟨hruns.1, noStart_trans _ _ _ hstart hruns.2⟩
    · exact ⟨noStart_trans _ _ _ hstart hruns.1, hruns.2⟩

/-- The span's own block. -/
lemma runs_enterSpan {Q : ι → World Ctx H → Prop} {enter : Code Ctx H (Opening Ctx H ι α)}
    (hc : w.current = c) (hon : enabled c = true)
    (h : Inside Q { w with current := setSpan span c }
      (enter { w with current := setSpan span c })) :
    Runs span c Q w (enterSpan span enter w) := by
  subst hc
  have hclose : ∀ r (v : World Ctx H), NoStart v (closeSpan span ⟨w.current⟩ r v).2 := fun r v =>
    ⟨closing Ctx span r, startedSpans_closing span r, rfl⟩
  change Runs span w.current Q w (finalizing enter (closeSpan span ⟨w.current⟩)
    { w with current := setSpan span w.current })
  rcases he : enter { w with current := setSpan span w.current } with ⟨e | o, v⟩ <;>
    rw [he] at h
  · rw [finalizing, bind_of_error (tryExcept_of_error he)]
    exact ⟨rfl, noStart_trans _ _ _ h.2 (hclose _ v)⟩
  · rw [finalizing, bind_of_ok (tryExcept_of_ok he)]
    obtain ⟨hkept, hexit, hQ⟩ := h
    refine ⟨hkept.2, ?_, ?_, ?_, hQ⟩
    · rw [hkept.1]
      exact spanIn_setSpan _ _
    · rw [hkept.1]
      exact (enabled_setSpan _ _).trans hon
    · intro r u
      rw [finalized_state]
      exact ⟨rfl, noStart_trans _ _ _ (hexit r u).2 (hclose _ _)⟩

/-- Attaching a context around it all. -/
lemma enters_attached {p : Ctx} {enter : Code Ctx H (Opening Ctx H ι α)}
    (h : Enters kind parent p Q { w with current := p } (enter { w with current := p })) :
    Enters kind parent w.current Q w
      ((do
        let token ← attach p
        finalizing enter fun _ => detach token) w) := by
  change Enters kind parent w.current Q w
    (finalizing enter (fun _ => detach ⟨w.current⟩) { w with current := p })
  rcases he : enter { w with current := p } with ⟨e | o, v⟩ <;> rw [he] at h
  · rw [finalizing, bind_of_error (tryExcept_of_error he)]
    exact ⟨rfl, h.2⟩
  · rw [finalizing, bind_of_ok (tryExcept_of_ok he)]
    obtain ⟨hstarted, hcurrent, hon, hexit, hQ⟩ := h
    refine ⟨hstarted, hcurrent, hon, ?_, hQ⟩
    intro r u
    rw [finalized_state]
    exact ⟨rfl, (hexit r u).2⟩

end

end

/-! ### Ways in that did not raise -/

section

variable {Ctx H ι α β : Type} {w v : World Ctx H}

/-- A handler that raises again was not needed by code that returned. -/
lemma tryExcept_reraise_ok {m : Code Ctx H α} (handler : Exn → Code Ctx H Unit) {a : α}
    (h : tryExcept m (fun e => do
      handler e
      raise e) w = (.ok a, v)) : m w = (.ok a, v) := by
  rcases hm : m w with ⟨e | b, t⟩
  · obtain ⟨e', hraise⟩ := reraise_apply (α := α) (handler e) e t
    exact absurd (((tryExcept_of_error hm).trans hraise).symm.trans h) nofun
  · exact (tryExcept_of_ok hm).symm.trans h

variable {enter : Code Ctx H (Opening Ctx H ι α)} {o : Opening Ctx H ι α}

lemma andThen_ok {after : α → Code Ctx H α} (h : andThen enter after w = (.ok o, v)) :
    ∃ o', enter w = (.ok o', v) ∧ o = ⟨o'.input, fun r => o'.exit r >>= after⟩ := by
  obtain ⟨o', t, henter, ⟨⟩⟩ := bind_ok_cases h
  exact ⟨o', henter, rfl⟩

lemma handling_ok {handler : Exn → Code Ctx H Unit} (h : handling enter handler w = (.ok o, v)) :
    ∃ o', enter w = (.ok o', v) ∧
      o = ⟨o'.input, fun r => tryExcept (o'.exit r) fun e => do
        handler e
        raise e⟩ := by
  obtain ⟨o', t, htry, ⟨⟩⟩ := bind_ok_cases h
  exact ⟨o', tryExcept_reraise_ok handler htry, rfl⟩

lemma finalizing_ok {fin : Except Exn Unit → Code Ctx H Unit}
    (h : finalizing enter fin w = (.ok o, v)) :
    ∃ o', enter w = (.ok o', v) ∧ o = ⟨o'.input, fun r => finalized (o'.exit r) fin⟩ := by
  obtain ⟨o', t, htry, ⟨⟩⟩ := bind_ok_cases h
  exact ⟨o', tryExcept_reraise_ok (fun e => fin (.error e)) htry, rfl⟩

end

/-! ### What comes out -/

section

variable {Ctx H ι α β : Type}

/-- Both returned the same, or both raised. -/
def SameWay : Except Exn α → Except Exn α → Prop
  | .ok a, .ok b => a = b
  | .error _, .error _ => True
  | _, _ => False

lemma sameWay_refl (r : Except Exn α) : SameWay r r := by
  cases r with
  | error e => trivial
  | ok a => rfl

/-- The way out returns what the call returned, and raises where the call raised. -/
def Passes (enter : Code Ctx H (Opening Ctx H ι α)) : Prop :=
  ∀ w o v, enter w = (.ok o, v) → ∀ r u, SameWay r (o.exit r u).1

lemma passes_call (input : ι) : Passes (pure (.call input) : Code Ctx H (Opening Ctx H ι α)) := by
  rintro w o v ⟨⟩ r u
  exact sameWay_refl r

lemma passes_bind (p : Code Ctx H β) {f : β → Code Ctx H (Opening Ctx H ι α)}
    (h : ∀ b, Passes (f b)) : Passes (p >>= f) := by
  intro w o v ho
  obtain ⟨b, t, -, hb⟩ := bind_ok_cases ho
  exact h b t o v hb

lemma passes_ite {c : Prop} [Decidable c] {m n : Code Ctx H (Opening Ctx H ι α)}
    (hm : Passes m) (hn : Passes n) : Passes (if c then m else n) := by
  split
  · exact hm
  · exact hn

lemma passes_andThen {enter : Code Ctx H (Opening Ctx H ι α)} {after : α → Code Ctx H α}
    (h : Passes enter) (hafter : ∀ a u, (after a u).1 = .ok a) : Passes (andThen enter after) := by
  intro w o v ho r u
  obtain ⟨o', he, rfl⟩ := andThen_ok ho
  have hr := h w o' v he r u
  change SameWay r ((o'.exit r >>= after) u).1
  rcases hx : o'.exit r u with ⟨e | a, t'⟩ <;> rw [hx] at hr
  · rw [bind_of_error hx]
    exact hr
  · rw [bind_of_ok hx, hafter a t']
    exact hr

lemma passes_handling {enter : Code Ctx H (Opening Ctx H ι α)} {handler : Exn → Code Ctx H Unit}
    (h : Passes enter) : Passes (handling enter handler) := by
  -- the handler may raise an exception of its own
  have hraise : ∀ e u, ∃ e', ((do
      handler e
      raise e : Code Ctx H α) u).1 = .error e' := by
    intro e u
    rcases hx : handler e u with ⟨e' | a, t⟩
    · exact ⟨e', by rw [bind_of_error hx]⟩
    · exact ⟨e, by rw [bind_of_ok hx]; rfl⟩
  intro w o v ho r u
  obtain ⟨o', he, rfl⟩ := handling_ok ho
  have hr := h w o' v he r u
  change SameWay r (tryExcept (o'.exit r) _ u).1
  rcases hx : o'.exit r u with ⟨e | a, t'⟩ <;> rw [hx] at hr
  · obtain ⟨e', he'⟩ := hraise e t'
    rw [tryExcept_of_error hx, he']
    cases r with
    | ok a => exact hr
    | error _ => trivial
  · rw [tryExcept_of_ok hx]
    exact hr

lemma passes_finalizing {enter : Code Ctx H (Opening Ctx H ι α)}
    {fin : Except Exn Unit → Code Ctx H Unit} (h : Passes enter)
    (hfin : ∀ r u, (fin r u).1 = .ok ()) : Passes (finalizing enter fin) := by
  intro w o v ho r u
  obtain ⟨o', he, rfl⟩ := finalizing_ok ho
  have hr := h w o' v he r u
  change SameWay r (finalized (o'.exit r) fin u).1
  unfold finalized finishWith
  rcases hx : o'.exit r u with ⟨r', t'⟩
  rw [hx] at hr
  dsimp only
  rcases hf : fin (outcome r') t' with ⟨e | a, t''⟩
  · exact absurd ((hfin _ t').symm.trans (congrArg Prod.fst hf)) nofun
  · rw [bind_of_ok hf]
    exact hr

lemma passes_enterSpan [ContextApi Ctx] (span : SpanContext)
    {enter : Code Ctx H (Opening Ctx H ι α)} (h : Passes enter) :
    Passes (enterSpan span enter) :=
  passes_bind getCurrent fun c => passes_bind (attach (setSpan span c)) fun _ =>
    passes_finalizing h fun _ _ => rfl

end

end OtelOpenstack.Openings
