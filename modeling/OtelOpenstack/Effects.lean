import Mathlib.Data.List.Basic
import Mathlib.Tactic.Common

/-!
Computations that read and write a state and may raise, the state surviving the exception:
the reading of `try`/`except`/`finally` every wrapper is written in.

A computation is judged by what it does to the state on every way out, `Keeps`; the rules
below follow the statements.
-/

namespace OtelOpenstack.Effects

universe u v w

/-- A stateful computation that may raise. -/
def Eff (ε : Type u) (σ : Type v) (α : Type w) : Type (max u v w) := σ → Except ε α × σ

variable {ε : Type u} {σ : Type v} {α β : Type w}

instance : Monad (Eff ε σ) where
  pure a := fun s => (.ok a, s)
  bind m f := fun s => match m s with
    | (.ok a, t) => f a t
    | (.error e, t) => (.error e, t)

def raise (e : ε) : Eff ε σ α := fun s => (.error e, s)

def reads (f : σ → α) : Eff ε σ α := fun s => (.ok (f s), s)

def modifies (f : σ → σ) : Eff ε σ PUnit := fun s => (.ok ⟨⟩, f s)

/-- A value that may be an exception. -/
def liftExcept (x : Except ε α) : Eff ε σ α := fun s => (x, s)

/-- `try: body finally: fin`; an exception of `fin` replaces the one of `body`. -/
def tryFinally (body : Eff ε σ α) (fin : Eff ε σ PUnit) : Eff ε σ α := fun s =>
  match body s with
  | (r, t) => match fin t with
    | (.ok _, u) => (r, u)
    | (.error e, u) => (.error e, u)

/-- `try: body except: handler`. -/
def tryExcept (body : Eff ε σ α) (handler : ε → Eff ε σ α) : Eff ε σ α := fun s =>
  match body s with
  | (.ok a, t) => (.ok a, t)
  | (.error e, t) => handler e t

/-- What follows a computation, whether it returned or raised. -/
def finishWith (m : Eff ε σ α) (k : Except ε α → Eff ε σ β) : Eff ε σ β := fun s =>
  match m s with
  | (r, t) => k r t

/-- `if c: m`. -/
def onlyIf (c : Bool) (m : Eff ε σ PUnit) : Eff ε σ PUnit := if c then m else pure ⟨⟩

/-- `if x is not None: f(x)`. -/
def onlySome {γ : Type*} (x : Option γ) (f : γ → Eff ε σ PUnit) : Eff ε σ PUnit :=
  match x with
  | none => pure ⟨⟩
  | some c => f c

@[simp] lemma pure_apply (a : α) (s : σ) : (pure a : Eff ε σ α) s = (.ok a, s) := rfl
@[simp] lemma raise_apply (e : ε) (s : σ) : (raise e : Eff ε σ α) s = (.error e, s) := rfl
@[simp] lemma reads_apply (f : σ → α) (s : σ) : (reads f : Eff ε σ α) s = (.ok (f s), s) := rfl
@[simp] lemma modifies_apply (f : σ → σ) (s : σ) :
    (modifies f : Eff ε σ PUnit) s = (.ok ⟨⟩, f s) := rfl
@[simp] lemma liftExcept_apply (x : Except ε α) (s : σ) :
    (liftExcept x : Eff ε σ α) s = (x, s) := rfl

lemma bind_apply (m : Eff ε σ α) (f : α → Eff ε σ β) (s : σ) :
    (m >>= f) s = match m s with
      | (.ok a, t) => f a t
      | (.error e, t) => (.error e, t) := rfl

lemma bind_of_ok {m : Eff ε σ α} {f : α → Eff ε σ β} {s t : σ} {a : α} (h : m s = (.ok a, t)) :
    (m >>= f) s = f a t := by
  rw [bind_apply, h]

lemma bind_of_error {m : Eff ε σ α} {f : α → Eff ε σ β} {s t : σ} {e : ε}
    (h : m s = (.error e, t)) : (m >>= f) s = (.error e, t) := by
  rw [bind_apply, h]

/-- A sequence that returned: so did its first part, and the rest from there. -/
lemma bind_ok_cases {m : Eff ε σ α} {f : α → Eff ε σ β} {s u : σ} {b : β}
    (h : (m >>= f) s = (.ok b, u)) : ∃ a t, m s = (.ok a, t) ∧ f a t = (.ok b, u) := by
  rcases hm : m s with ⟨e | a, t⟩
  · exact absurd ((bind_of_error hm).symm.trans h) nofun
  · exact ⟨a, t, rfl, (bind_of_ok hm).symm.trans h⟩

lemma tryExcept_of_ok {m : Eff ε σ α} {k : ε → Eff ε σ α} {s t : σ} {a : α}
    (h : m s = (.ok a, t)) : tryExcept m k s = (.ok a, t) := by
  rw [tryExcept, h]

lemma tryExcept_of_error {m : Eff ε σ α} {k : ε → Eff ε σ α} {s t : σ} {e : ε}
    (h : m s = (.error e, t)) : tryExcept m k s = k e t := by
  rw [tryExcept, h]

/-- What a value bound to the rest was, where the rest returned. -/
lemma of_bind_ok {x : Except ε α} {f : α → Except ε β} {b : β} (h : (x >>= f) = .ok b) :
    ∃ a, x = .ok a ∧ f a = .ok b := by
  cases x with
  | error e => exact absurd h nofun
  | ok a => exact ⟨a, rfl, h⟩

@[simp] lemma tryFinally_pure (m : Eff ε σ α) (u : PUnit) : tryFinally m (pure u) = m := rfl

/-! ### What every way out keeps -/

/-- Started anywhere, the computation leaves a state related to the one it started in,
whether it returns or raises. -/
def Keeps (R : σ → σ → Prop) (m : Eff ε σ α) : Prop := ∀ s, R s (m s).2

section Keeps

variable {R : σ → σ → Prop}

lemma Keeps.pure (hr : ∀ s, R s s) (a : α) : Keeps R (Pure.pure a : Eff ε σ α) := hr

lemma Keeps.raise (hr : ∀ s, R s s) (e : ε) : Keeps R (raise e : Eff ε σ α) := hr

lemma Keeps.reads (hr : ∀ s, R s s) (f : σ → α) : Keeps R (reads f : Eff ε σ α) := hr

lemma Keeps.liftExcept (hr : ∀ s, R s s) (x : Except ε α) :
    Keeps R (liftExcept x : Eff ε σ α) := hr

lemma Keeps.bind (ht : ∀ s t u, R s t → R t u → R s u) {m : Eff ε σ α} {f : α → Eff ε σ β}
    (hm : Keeps R m) (hf : ∀ a, Keeps R (f a)) : Keeps R (m >>= f) := by
  intro s
  rw [bind_apply]
  have h := hm s
  rcases he : m s with ⟨e | a, t⟩ <;> rw [he] at h
  · exact h
  · exact ht _ _ _ h (hf a t)

lemma Keeps.tryFinally (ht : ∀ s t u, R s t → R t u → R s u) {m : Eff ε σ α}
    {f : Eff ε σ PUnit} (hm : Keeps R m) (hf : Keeps R f) : Keeps R (tryFinally m f) := by
  intro s
  have h := ht _ _ _ (hm s) (hf (m s).2)
  unfold Effects.tryFinally
  rcases hu : f (m s).2 with ⟨e | a, u⟩ <;> simp only [hu] at h ⊢ <;> exact h

lemma Keeps.tryExcept (ht : ∀ s t u, R s t → R t u → R s u) {m : Eff ε σ α}
    {k : ε → Eff ε σ α} (hm : Keeps R m) (hk : ∀ e, Keeps R (k e)) :
    Keeps R (tryExcept m k) := by
  intro s
  unfold Effects.tryExcept
  have h := hm s
  rcases he : m s with ⟨e | a, t⟩ <;> simp only [he] at h ⊢
  · exact ht _ _ _ h (hk e t)
  · exact h

lemma Keeps.imp {R' : σ → σ → Prop} (h : ∀ s t, R s t → R' s t) {m : Eff ε σ α}
    (hm : Keeps R m) : Keeps R' m :=
  fun s => h _ _ (hm s)

lemma Keeps.ite {c : Prop} [Decidable c] {m n : Eff ε σ α} (hm : Keeps R m) (hn : Keeps R n) :
    Keeps R (if c then m else n) := by
  split
  · exact hm
  · exact hn

lemma Keeps.onlyIf (hr : ∀ s, R s s) {c : Bool} {m : Eff ε σ PUnit} (hm : Keeps R m) :
    Keeps R (onlyIf c m) :=
  Keeps.ite hm (Keeps.pure hr _)

lemma Keeps.onlySome {γ : Type*} (hr : ∀ s, R s s) (x : Option γ) {f : γ → Eff ε σ PUnit}
    (hf : ∀ c, Keeps R (f c)) : Keeps R (onlySome x f) := by
  cases x with
  | none => exact Keeps.pure hr _
  | some c => exact hf c

end Keeps

/-! ### What leaves the state alone -/

/-- The computation reads the state, and may raise. -/
def Silent (m : Eff ε σ α) : Prop := ∀ s, (m s).2 = s

lemma Silent.reads (f : σ → α) : Silent (reads f : Eff ε σ α) := fun _ => rfl

lemma Silent.liftExcept (x : Except ε α) : Silent (liftExcept x : Eff ε σ α) := fun _ => rfl

lemma Silent.pure (a : α) : Silent (Pure.pure a : Eff ε σ α) := fun _ => rfl

/-- After a step that leaves the state alone: where it raises nothing has happened, and where
it returns the rest starts from the same state. -/
lemma Silent.post_bind_outcome {m : Eff ε σ α} (h : Silent m) {f : α → Eff ε σ β} {s : σ}
    {P : Except ε β × σ → Prop} (herr : ∀ e, P (.error e, s))
    (hok : ∀ a, m s = (.ok a, s) → P (f a s)) : P ((m >>= f) s) := by
  have hs := h s
  rw [bind_apply]
  rcases hm : m s with ⟨e | a, t⟩ <;> rw [hm] at hs <;> subst hs
  · exact herr e
  · exact hok a hm

lemma Silent.post_bind {m : Eff ε σ α} (h : Silent m) {f : α → Eff ε σ β} {s : σ}
    {P : σ → Prop} (herr : P s) (hok : ∀ a, m s = (.ok a, s) → P (f a s).2) :
    P ((m >>= f) s).2 :=
  h.post_bind_outcome (P := fun out => P out.2) (fun _ => herr) hok

/-- After a step that leaves the state alone, in a sequence that returned. -/
lemma Silent.ok_cases {m : Eff ε σ α} (h : Silent m) {f : α → Eff ε σ β} {s t : σ} {b : β}
    (hb : (m >>= f) s = (.ok b, t)) : ∃ a, (m s).1 = .ok a ∧ f a s = (.ok b, t) := by
  obtain ⟨a, u, hm, hf⟩ := bind_ok_cases hb
  have hs := h s
  rw [hm] at hs
  obtain rfl : u = s := hs
  exact ⟨a, congrArg Prod.fst hm, hf⟩

lemma Silent.bind {m : Eff ε σ α} {f : α → Eff ε σ β} (hm : Silent m)
    (hf : ∀ a, Silent (f a)) : Silent (m >>= f) := by
  intro s
  exact hm.post_bind (P := fun t => t = s) rfl fun a _ => hf a s

end OtelOpenstack.Effects
