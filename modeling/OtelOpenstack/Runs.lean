import Mathlib.Data.List.Induction

/-!
Systems that react to events: runs, legal runs, and invariants.

Which events may happen is a predicate on the state, `ok`; a list of events is legal when
each may happen where it does.
-/

namespace OtelOpenstack.Runs

variable {S E : Type*} (ok : S → E → Prop) (step : S → E → S)

def run (s : S) (es : List E) : S := es.foldl step s

def Legal : S → List E → Prop
  | _, [] => True
  | s, e :: es => ok s e ∧ Legal (step s e) es

@[simp] lemma run_nil (s : S) : run step s [] = s := rfl

@[simp] lemma run_cons (s : S) (e : E) (es : List E) :
    run step s (e :: es) = run step (step s e) es := rfl

lemma run_append (s : S) (es fs : List E) :
    run step s (es ++ fs) = run step (run step s es) fs := by
  simp [run, List.foldl_append]

lemma run_snoc (s : S) (es : List E) (e : E) :
    run step s (es ++ [e]) = step (run step s es) e := by
  rw [run_append, run_cons, run_nil]

/-- Two systems that see the same events, side by side. -/
lemma run_prod {T : Type*} (step' : T → E → T) (s : S) (t : T) (es : List E) :
    run (fun (p : S × T) e => (step p.1 e, step' p.2 e)) (s, t) es =
      (run step s es, run step' t es) := by
  induction es generalizing s t with
  | nil => rfl
  | cons e es ih => exact ih (step s e) (step' t e)

/-- What the second system does has no part in what the first may do. -/
lemma legal_prod {T : Type*} (step' : T → E → T) (s : S) (t : T) (es : List E) :
    Legal (fun (p : S × T) e => ok p.1 e) (fun p e => (step p.1 e, step' p.2 e)) (s, t) es ↔
      Legal ok step s es := by
  induction es generalizing s t with
  | nil => exact Iff.rfl
  | cons e es ih => exact and_congr_right fun _ => ih (step s e) (step' t e)

lemma legal_append (s : S) (es fs : List E) :
    Legal ok step s (es ++ fs) ↔ Legal ok step s es ∧ Legal ok step (run step s es) fs := by
  induction es generalizing s with
  | nil => simp [Legal]
  | cons e es ih => simp [Legal, ih, and_assoc]

variable {ok step}

/-- **Invariants.** What legal steps keep holds after every legal run. -/
theorem inv_of_legal {I : S → Prop} (hstep : ∀ s e, I s → ok s e → I (step s e))
    {s : S} {es : List E} (hs : I s) (hl : Legal ok step s es) : I (run step s es) := by
  induction es generalizing s with
  | nil => exact hs
  | cons e es ih => exact ih (hstep s e hs hl.1) hl.2

/-- An event of a legal run may happen in the state it finds. -/
lemma Legal.ok_at {s : S} {pre post : List E} {e : E}
    (hl : Legal ok step s (pre ++ e :: post)) : ok (run step s pre) e :=
  ((legal_append ok step s pre (e :: post)).mp hl).2.1

lemma Legal.before {s : S} {pre post : List E} (hl : Legal ok step s (pre ++ post)) :
    Legal ok step s pre :=
  ((legal_append ok step s pre post).mp hl).1

/-- **Invariants with a record.** An invariant about what was noted so far, where each event may
note something, is one about what was noted at the events of the run. -/
theorem inv_with_record {R : Type*} {I : (R → Prop) → S → Prop} {notes : S → E → R → Prop}
    (hstep : ∀ noted s e, I noted s → ok s e → I (fun x => noted x ∨ notes s e x) (step s e))
    {s : S} {es : List E} (hs : I (fun _ => False) s) (hl : Legal ok step s es) :
    I (fun x => ∃ pre e post, es = pre ++ e :: post ∧ notes (run step s pre) e x)
      (run step s es) := by
  induction es using List.reverseRecOn with
  | nil =>
    have hnone : (fun x => ∃ pre e post, ([] : List E) = pre ++ e :: post ∧
        notes (run step s pre) e x) = fun _ => False := by
      funext x
      simp
    rw [hnone]
    exact hs
  | append_singleton es e ih =>
    have hlast := hstep _ _ e (ih hl.before) hl.ok_at
    have hsame : (fun x => (∃ pre d post, es = pre ++ d :: post ∧ notes (run step s pre) d x) ∨
        notes (run step s es) e x) =
        fun x => ∃ pre d post, es ++ [e] = pre ++ d :: post ∧ notes (run step s pre) d x := by
      funext x
      refine propext ⟨?_, ?_⟩
      · rintro (⟨pre, d, post, rfl, hx⟩ | hx)
        · exact ⟨pre, d, post ++ [e], by simp, hx⟩
        · exact ⟨es, e, [], rfl, hx⟩
      · rintro ⟨pre, d, post, heq, hx⟩
        rcases List.eq_nil_or_concat post with rfl | ⟨post, f, rfl⟩
        · obtain ⟨rfl, hd⟩ := List.append_inj' heq rfl
          obtain rfl := (List.cons.inj hd).1
          exact Or.inr hx
        · rw [List.concat_eq_append, ← List.cons_append, ← List.append_assoc] at heq
          obtain ⟨rfl, -⟩ := List.append_inj' heq rfl
          exact Or.inl ⟨pre, d, post, rfl, hx⟩
    rw [hsame] at hlast
    rw [run_snoc]
    exact hlast

lemma Legal.imp {ok' : S → E → Prop} (h : ∀ s e, ok s e → ok' s e) {s : S} {es : List E}
    (hl : Legal ok step s es) : Legal ok' step s es := by
  induction es generalizing s with
  | nil => trivial
  | cons e es ih => exact ⟨h s e hl.1, ih hl.2⟩

/-- With nothing forbidden every list of events is legal. -/
lemma legal_of_ok (h : ∀ s e, ok s e) (s : S) (es : List E) : Legal ok step s es := by
  induction es generalizing s with
  | nil => trivial
  | cons e es ih => exact ⟨h s e, ih _⟩

/-- An invariant no event can break holds after every run. -/
theorem inv_of_run {I : S → Prop} (hstep : ∀ s e, I s → I (step s e)) {s : S} (hs : I s)
    (es : List E) : I (run step s es) := by
  have hl : Legal (fun _ _ => True) step s es := legal_of_ok (fun _ _ => trivial) s es
  exact inv_of_legal (fun s e h _ => hstep s e h) hs hl

/-- **Two readings of a run.** Where an invariant holds, two conditions on an event agree, and
an event that meets them keeps it: then a run meets the one throughout when it meets the other
throughout. -/
theorem legal_iff {I : S → Prop} {ok' : S → E → Prop} (hiff : ∀ s e, I s → (ok s e ↔ ok' s e))
    (hstep : ∀ s e, I s → ok s e → I (step s e)) {s : S} (hs : I s) (es : List E) :
    Legal ok step s es ↔ Legal ok' step s es := by
  induction es generalizing s with
  | nil => exact Iff.rfl
  | cons e es ih =>
    constructor
    · rintro ⟨hok, hl⟩
      exact ⟨(hiff s e hs).mp hok, (ih (hstep s e hs hok)).mp hl⟩
    · rintro ⟨hok', hl⟩
      have hok := (hiff s e hs).mpr hok'
      exact ⟨hok, (ih (hstep s e hs hok)).mpr hl⟩

/-- What holds in every state of a run is what every event of it leads to. -/
lemma always_iff {P : S → Prop} {s : S} {es : List E} :
    (∀ pre post, es = pre ++ post → P (run step s pre)) ↔
      P s ∧ Legal (fun s e => P (step s e)) step s es := by
  induction es generalizing s with
  | nil =>
    constructor
    · intro h
      exact ⟨h [] [] rfl, trivial⟩
    · rintro ⟨hs, -⟩ pre post heq
      obtain ⟨rfl, -⟩ := List.append_eq_nil_iff.mp heq.symm
      exact hs
  | cons e es ih =>
    constructor
    · intro h
      obtain ⟨he, hl⟩ := ih.mp fun pre post heq => h (e :: pre) post (congrArg (e :: ·) heq)
      exact ⟨h [] (e :: es) rfl, he, hl⟩
    · rintro ⟨hs, he, hl⟩ pre post heq
      cases pre with
      | nil => exact hs
      | cons d pre =>
        obtain ⟨rfl, hrest⟩ := List.cons.inj heq
        exact ih.mpr ⟨he, hl⟩ pre post hrest

/-! ### Cells that are written once -/

section

variable {V : Type*} {cell : S → Option V}

/-- A cell that is written keeps its value, whatever legal event comes. -/
def WrittenOnce (ok : S → E → Prop) (step : S → E → S) (cell : S → Option V) : Prop :=
  ∀ s e v, ok s e → cell s = some v → cell (step s e) = some v

lemma WrittenOnce.run (h : WrittenOnce ok step cell) {s : S} {es : List E} {v : V}
    (hs : cell s = some v) (hl : Legal ok step s es) : cell (run step s es) = some v :=
  inv_of_legal (fun s e hv hok => h s e v hok hv) hs hl

/-- **The first to write.** What a cell that was empty has in the end was written by the first
event that wrote it. -/
theorem WrittenOnce.iff_first (h : WrittenOnce ok step cell) {s : S} {es : List E} {v : V}
    (hs : cell s = none) (hl : Legal ok step s es) :
    cell (Runs.run step s es) = some v ↔ ∃ pre e post, es = pre ++ e :: post ∧
      cell (Runs.run step s pre) = none ∧ cell (step (Runs.run step s pre) e) = some v := by
  constructor
  · intro hv
    induction es generalizing s with
    | nil => exact absurd (hs.symm.trans hv) nofun
    | cons e es ih =>
      cases he : cell (step s e) with
      | none =>
        obtain ⟨pre, d, post, rfl, hpre, hd⟩ := ih he hl.2 hv
        exact ⟨e :: pre, d, post, rfl, hpre, hd⟩
      | some u =>
        have hu : cell (Runs.run step (step s e) es) = some u := h.run he hl.2
        obtain rfl := Option.some.inj (hu.symm.trans hv)
        exact ⟨[], e, es, rfl, hs, he⟩
  · rintro ⟨pre, e, post, rfl, -, he⟩
    rw [run_append, run_cons]
    exact h.run he ((legal_append ok step s pre (e :: post)).mp hl).2.2

end

/-! ### Lists that grow -/

lemma getElem?_append_of_some {β : Type*} {xs : List β} {i : ℕ} {x : β} (h : xs[i]? = some x)
    (ys : List β) : (xs ++ ys)[i]? = some x := by
  have hlt : i < xs.length := (List.getElem?_eq_some_iff.mp h).1
  rw [List.getElem?_append_left hlt, h]

lemma of_getElem?_append {β : Type*} {xs : List β} {i : ℕ} {x y : β}
    (h : (xs ++ [x])[i]? = some y) : xs[i]? = some y ∨ i = xs.length ∧ y = x := by
  by_cases hlt : i < xs.length
  · rw [List.getElem?_append_left hlt] at h
    exact Or.inl h
  · have hi : i = xs.length := by
      have := (List.getElem?_eq_some_iff.mp h).1
      simp only [List.length_append, List.length_singleton] at this
      omega
    subst hi
    rw [List.getElem?_concat_length] at h
    exact Or.inr ⟨rfl, (Option.some.inj h).symm⟩

/-! ### Stacks -/

/-- One stack of a family is replaced. -/
lemma forall_mem_update {U F : Type*} [DecidableEq U] {P : F → Prop} {family : U → List F}
    (h : ∀ v, ∀ f ∈ family v, P f) {u : U} {fs : List F} (hfs : ∀ f ∈ fs, P f) (v : U) :
    ∀ f ∈ Function.update family u fs v, P f := by
  by_cases hv : v = u
  · subst hv
    rw [Function.update_self]
    exact hfs
  · rw [Function.update_of_ne hv]
    exact h v

end OtelOpenstack.Runs
