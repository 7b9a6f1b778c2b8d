import OtelOpenstack.Effects

/-!
Two runs side by side.

Two computations are alike under a relation between their states if, started in related states,
they come out the same and leave related states. The rules below go through both of them
statement by statement.
-/

namespace OtelOpenstack.TwoRuns

open Effects

universe u v w

variable {ε : Type u} {σ τ : Type v} {α β γ : Type w}

/-- From related states both come out the same, and leave related states. -/
def Alike (R : σ → τ → Prop) (m : Eff ε σ α) (n : Eff ε τ α) : Prop :=
  ∀ s t, R s t → (m s).1 = (n t).1 ∧ R (m s).2 (n t).2

variable {R : σ → τ → Prop}

lemma Alike.pure (a : α) : Alike R (Pure.pure a : Eff ε σ α) (Pure.pure a) :=
  fun _ _ h => ⟨rfl, h⟩

lemma Alike.raise (e : ε) : Alike R (raise e : Eff ε σ α) (raise e) := fun _ _ h => ⟨rfl, h⟩

lemma Alike.liftExcept (x : Except ε α) : Alike R (liftExcept x : Eff ε σ α) (liftExcept x) :=
  fun _ _ h => ⟨rfl, h⟩

lemma Alike.liftExcept_of_eq {x y : Except ε α} (h : x = y) :
    Alike R (Effects.liftExcept x : Eff ε σ α) (Effects.liftExcept y) :=
  h ▸ Alike.liftExcept x

lemma Alike.modifies {f : σ → σ} {g : τ → τ} (h : ∀ s t, R s t → R (f s) (g t)) :
    Alike R (modifies f : Eff ε σ PUnit) (modifies g) :=
  fun s t hst => ⟨rfl, h s t hst⟩

lemma Alike.outcome {m : Eff ε σ α} {n : Eff ε τ α} (h : Alike R m n) {s : σ} {t : τ}
    (hst : R s t) : ∃ r s' t', m s = (r, s') ∧ n t = (r, t') ∧ R s' t' :=
  ⟨(m s).1, (m s).2, (n t).2, rfl, Prod.ext (h s t hst).1.symm rfl, (h s t hst).2⟩

/-- What follows a computation, whether it returned or raised. -/
lemma Alike.finishWith {m : Eff ε σ α} {n : Eff ε τ α} {k : Except ε α → Eff ε σ β}
    {l : Except ε α → Eff ε τ β} (hm : Alike R m n) (hk : ∀ r, Alike R (k r) (l r)) :
    Alike R (finishWith m k) (finishWith n l) := by
  intro s t hst
  obtain ⟨r, s', t', hs, ht, hleft⟩ := hm.outcome hst
  unfold Effects.finishWith
  rw [hs, ht]
  exact hk r s' t' hleft

/-- A sequence; of what its first part returned may be used where that was returned. -/
lemma Alike.bind_returned {m : Eff ε σ α} {n : Eff ε τ α} {f : α → Eff ε σ β}
    {g : α → Eff ε τ β} (hm : Alike R m n)
    (hf : ∀ s a, (m s).1 = .ok a → Alike R (f a) (g a)) : Alike R (m >>= f) (n >>= g) := by
  intro s t hst
  obtain ⟨r, s', t', hs, ht, hleft⟩ := hm.outcome hst
  rw [bind_apply, bind_apply, hs, ht]
  cases r with
  | error e => exact ⟨rfl, hleft⟩
  | ok a => exact hf s a (congrArg Prod.fst hs) s' t' hleft

lemma Alike.bind {m : Eff ε σ α} {n : Eff ε τ α} {f : α → Eff ε σ β} {g : α → Eff ε τ β}
    (hm : Alike R m n) (hf : ∀ a, Alike R (f a) (g a)) : Alike R (m >>= f) (n >>= g) :=
  hm.bind_returned fun _ a _ => hf a

lemma Alike.tryExcept {m : Eff ε σ α} {n : Eff ε τ α} {k : ε → Eff ε σ α} {l : ε → Eff ε τ α}
    (hm : Alike R m n) (hk : ∀ e, Alike R (k e) (l e)) :
    Alike R (tryExcept m k) (tryExcept n l) := by
  intro s t hst
  obtain ⟨r, s', t', hs, ht, hleft⟩ := hm.outcome hst
  unfold Effects.tryExcept
  rw [hs, ht]
  cases r with
  | error e => exact hk e s' t' hleft
  | ok a => exact ⟨rfl, hleft⟩

lemma Alike.tryFinally {m : Eff ε σ α} {n : Eff ε τ α} {f : Eff ε σ PUnit} {g : Eff ε τ PUnit}
    (hm : Alike R m n) (hf : Alike R f g) : Alike R (tryFinally m f) (tryFinally n g) := by
  intro s t hst
  obtain ⟨r, s', t', hs, ht, hleft⟩ := hm.outcome hst
  obtain ⟨out, s'', t'', hs', ht', hleft'⟩ := hf.outcome hleft
  unfold Effects.tryFinally
  rw [hs, ht]
  dsimp only
  rw [hs', ht']
  cases out with
  | error e => exact ⟨rfl, hleft'⟩
  | ok u => exact ⟨rfl, hleft'⟩

lemma Alike.ite {c : Prop} [Decidable c] {m m' : Eff ε σ α} {n n' : Eff ε τ α}
    (hm : Alike R m n) (hm' : Alike R m' n') :
    Alike R (if c then m else m') (if c then n else n') := by
  split
  · exact hm
  · exact hm'

/-- Both read, and what they do with it is alike where their states are related. -/
lemma Alike.reads_bind {f : σ → γ} {g : τ → γ} {k : γ → Eff ε σ β} {l : γ → Eff ε τ β}
    (h : ∀ s t, R s t → Alike R (k (f s)) (l (g t))) :
    Alike R (reads f >>= k) (reads g >>= l) :=
  fun s t hst => h s t hst s t hst

lemma Alike.onlyIf {c : Bool} {m : Eff ε σ PUnit} {n : Eff ε τ PUnit}
    (h : c = true → Alike R m n) : Alike R (onlyIf c m) (onlyIf c n) := by
  cases c with
  | false => exact Alike.pure _
  | true => exact h rfl

lemma Alike.onlySome (x : Option γ) {f : γ → Eff ε σ PUnit} {g : γ → Eff ε τ PUnit}
    (h : ∀ c, Alike R (f c) (g c)) : Alike R (onlySome x f) (onlySome x g) := by
  cases x with
  | none => exact Alike.pure _
  | some c => exact h c

end OtelOpenstack.TwoRuns
