import Mathlib.Data.List.Basic
import Mathlib.Logic.Relation

/-!
Forests given by causes: a list in which every item but the roots names an earlier one.
-/

namespace OtelOpenstack.Causes

variable {α β : Type*} (cause : α → Option ℕ)

/-- Item `j` is the cause of item `i`. -/
def CausedBy (items : List α) (i j : ℕ) : Prop := ∃ a, items[i]? = some a ∧ cause a = some j

/-- The items' causes, if they have any, come before them. -/
def Founded (items : List α) : Prop := ∀ i j, CausedBy cause items i j → j < i

/-- Item `r` is the root of the tree that item `i` is in. -/
def RootOf (items : List α) (r i : ℕ) : Prop :=
  (∃ a, items[r]? = some a ∧ cause a = none) ∧
    Relation.ReflTransGen (CausedBy cause items) i r

variable {cause} {items : List α}

lemma exists_rootOf (h : Founded cause items) {i : ℕ} (hi : i < items.length) :
    ∃ r, RootOf cause items r i := by
  induction i using Nat.strongRecOn with
  | ind i ih =>
    have hget : items[i]? = some items[i] := List.getElem?_eq_getElem hi
    cases hc : cause items[i] with
    | none => exact ⟨i, ⟨_, hget, hc⟩, .refl⟩
    | some j =>
      have hedge : CausedBy cause items i j := ⟨_, hget, hc⟩
      have hlt := h i j hedge
      obtain ⟨r, hroot, hpath⟩ := ih j hlt (Nat.lt_trans hlt hi)
      exact ⟨r, hroot, hpath.head hedge⟩

/-- **Inheritance.** What every item has from its cause, it has from its root. -/
theorem RootOf.inherits {f : ℕ → β} (hf : ∀ i j, CausedBy cause items i j → f i = f j) {i r : ℕ}
    (h : RootOf cause items r i) : f i = f r := by
  obtain ⟨-, hpath⟩ := h
  induction hpath with
  | refl => rfl
  | tail _ hedge ih => exact ih.trans (hf _ _ hedge)

end OtelOpenstack.Causes
