import Mathlib.Data.List.Basic
import Mathlib.Data.List.Count
import Mathlib.Data.List.Nodup
import Mathlib.Logic.Function.Basic

/-!
Tokens that are issued into slots, taken out of them by one holder each, and retired.

A slot holds at most one token. The ledger is balanced when every token ever issued is in
exactly one place: still in the slot it was issued into, taken and not yet retired, or
retired once.
-/

namespace OtelOpenstack.Ledger

structure Book (K T : Type*) where
  issued : List (K × T)
  slots : K → Option T
  taken : List T
  retired : List T

variable {K T : Type*} [DecidableEq K] [DecidableEq T]

def tokens (s : Book K T) : List T := s.issued.map Prod.snd

def issue (k : K) (t : T) (s : Book K T) : Book K T :=
  { s with issued := s.issued ++ [(k, t)], slots := Function.update s.slots k (some t) }

/-- Empty a slot; what it held is taken. -/
def take (k : K) (s : Book K T) : Book K T :=
  { s with slots := Function.update s.slots k none, taken := (s.slots k).toList ++ s.taken }

def retire (t : T) (s : Book K T) : Book K T :=
  { s with taken := s.taken.erase t, retired := s.retired ++ [t] }

/-- How often the token of an entry is around: in its slot, taken, and retired. -/
def places (s : Book K T) (k : K) (t : T) : ℕ :=
  (if s.slots k = some t then 1 else 0) + s.taken.count t + s.retired.count t

structure Balanced (s : Book K T) : Prop where
  distinct : (tokens s).Nodup
  home : ∀ k t, s.slots k = some t → (k, t) ∈ s.issued
  taken_issued : ∀ t ∈ s.taken, t ∈ tokens s
  retired_issued : ∀ t ∈ s.retired, t ∈ tokens s
  once : ∀ k t, (k, t) ∈ s.issued → places s k t = 1

variable {s : Book K T} {k : K} {t : T}

omit [DecidableEq K] [DecidableEq T] in
lemma mem_tokens (h : (k, t) ∈ s.issued) : t ∈ tokens s := List.mem_map_of_mem h

omit [DecidableEq K] in
/-- A token has one home. -/
lemma home_unique (h : Balanced s) {j : K} (hk : (k, t) ∈ s.issued) (hj : (j, t) ∈ s.issued) :
    j = k := by
  have := List.inj_on_of_nodup_map h.distinct hk hj rfl
  exact (congrArg Prod.fst this).symm

omit [DecidableEq K] in
lemma balanced_empty : Balanced (⟨[], fun _ => none, [], []⟩ : Book K T) := by
  constructor <;> simp [tokens]

theorem balanced_issue (h : Balanced s) (hk : s.slots k = none) (ht : t ∉ tokens s) :
    Balanced (issue k t s) := by
  have htok : tokens (issue k t s) = tokens s ++ [t] := by simp [tokens, issue]
  refine ⟨?_, ?_, ?_, ?_, ?_⟩
  · rw [htok]
    exact List.nodup_append.mpr ⟨h.distinct, by simp, by
      intro a ha b hb
      rw [List.mem_singleton] at hb
      rintro rfl
      exact ht (hb ▸ ha)⟩
  · intro j u hu
    by_cases hj : j = k
    · subst hj
      have : t = u := by simpa [issue] using hu
      simp [issue, this]
    · have hu' : s.slots j = some u := by simpa [issue, hj] using hu
      simp [issue, h.home j u hu']
  · intro u hu
    rw [htok]
    exact List.mem_append_left _ (h.taken_issued u hu)
  · intro u hu
    rw [htok]
    exact List.mem_append_left _ (h.retired_issued u hu)
  · intro j u hu
    have hmem : (j, u) ∈ s.issued ∨ (j = k ∧ u = t) := by simpa [issue] using hu
    rcases hmem with hold | ⟨rfl, rfl⟩
    · have hne : u ≠ t := by rintro rfl; exact ht (mem_tokens hold)
      have hone := h.once j u hold
      -- an issued token keeps its places: the slot that changes was empty
      by_cases hj : j = k
      · subst hj
        simpa [places, issue, hk, hne.symm] using hone
      · simpa [places, issue, hj] using hone
    · have h1 : s.taken.count u = 0 :=
        List.count_eq_zero.mpr fun hm => ht (h.taken_issued u hm)
      have h2 : s.retired.count u = 0 :=
        List.count_eq_zero.mpr fun hm => ht (h.retired_issued u hm)
      simp [places, issue, h1, h2]

theorem balanced_take (h : Balanced s) (k : K) : Balanced (take k s) := by
  rcases hk : s.slots k with _ | t
  · have : take k s = s := by
      have hu : Function.update s.slots k none = s.slots := by
        rw [← hk, Function.update_eq_self]
      simp [take, hk, hu]
    rwa [this]
  · have htok : t ∈ tokens s := mem_tokens (h.home k t hk)
    refine ⟨h.distinct, ?_, ?_, h.retired_issued, ?_⟩
    · intro j u hu
      by_cases hj : j = k
      · subst hj; simp [take] at hu
      · exact h.home j u (by simpa [take, hj] using hu)
    · intro u hu
      have : u = t ∨ u ∈ s.taken := by simpa [take, hk] using hu
      rcases this with rfl | hu
      · exact htok
      · exact h.taken_issued u hu
    · intro j u hu
      have hone := h.once j u hu
      by_cases hj : j = k
      · subst hj
        by_cases hut : u = t
        · subst hut
          simp only [places, hk, if_true] at hone
          simp only [places, take, hk, Function.update_self, Option.toList, List.singleton_append,
            List.count_cons_self]
          simp only [reduceCtorEq, if_false]
          omega
        · simpa [places, take, hk, hut, Ne.symm hut, List.count_cons] using hone
      · have hne : u ≠ t := by
          rintro rfl
          exact hj (home_unique h (h.home k u hk) hu)
        simpa [places, take, hk, hj, Ne.symm hne, List.count_cons] using hone

omit [DecidableEq K] in
theorem balanced_retire (h : Balanced s) (ht : t ∈ s.taken) : Balanced (retire t s) := by
  refine ⟨h.distinct, h.home, ?_, ?_, ?_⟩
  · intro u hu
    exact h.taken_issued u (List.mem_of_mem_erase hu)
  · intro u hu
    have : u ∈ s.retired ∨ u = t := by simpa [retire] using hu
    rcases this with hu | rfl
    · exact h.retired_issued u hu
    · exact h.taken_issued u ht
  · intro j u hu
    have hone := h.once j u hu
    change (if s.slots j = some u then 1 else 0) + (s.taken.erase t).count u +
      (s.retired ++ [t]).count u = 1
    unfold places at hone
    by_cases hut : u = t
    · subst hut
      have hpos : 0 < s.taken.count u := List.count_pos_iff.mpr ht
      rw [List.count_erase_self, List.count_append, List.count_singleton_self]
      omega
    · have h0 : [t].count u = 0 := List.count_eq_zero.mpr (by simpa using hut)
      rw [List.count_erase_of_ne hut, List.count_append, h0]
      exact hone

omit [DecidableEq K] in
/-- The order in which tokens were taken does not matter. -/
lemma balanced_of_perm {r : Book K T} (h : Balanced s) (hi : r.issued = s.issued)
    (hs : r.slots = s.slots) (ht : r.taken.Perm s.taken) (hr : r.retired = s.retired) :
    Balanced r := by
  obtain ⟨issued, slots, taken, retired⟩ := r
  simp only at hi hs ht hr
  subst hi hs hr
  refine ⟨h.distinct, h.home, ?_, h.retired_issued, ?_⟩
  · intro t hm
    exact h.taken_issued t (ht.subset hm)
  · intro k t hm
    have hone := h.once k t hm
    simp only [places, ht.count_eq] at hone ⊢
    exact hone

/-- A token is taken out of its slot and retired. -/
lemma balanced_close (h : Balanced s) (hk : s.slots k = some t) :
    Balanced ⟨s.issued, Function.update s.slots k none, s.taken, s.retired ++ [t]⟩ := by
  have htaken : (take k s).taken = t :: s.taken := by
    rw [take, hk]
    rfl
  have hclosed := balanced_retire (balanced_take h k) (htaken ▸ List.mem_cons_self ..)
  rw [retire, htaken, List.erase_cons_head] at hclosed
  exact hclosed

/-- A token is issued and taken at once. -/
lemma balanced_lose (h : Balanced s) (hk : s.slots k = none) (ht : t ∉ tokens s) :
    Balanced ⟨s.issued ++ [(k, t)], s.slots, t :: s.taken, s.retired⟩ := by
  have hslots : (take k (issue k t s)).slots = s.slots := by
    rw [take, issue, Function.update_idem, ← hk, Function.update_eq_self]
  have htaken : (take k (issue k t s)).taken = t :: s.taken := by
    change (Function.update s.slots k (some t) k).toList ++ s.taken = t :: s.taken
    rw [Function.update_self]
    rfl
  exact balanced_of_perm (balanced_take (balanced_issue h hk ht) k) rfl hslots.symm
    (htaken ▸ List.Perm.refl _) rfl

/-- A token is issued, taken and retired at once. -/
lemma balanced_pass (h : Balanced s) (hk : s.slots k = none) (ht : t ∉ tokens s) :
    Balanced ⟨s.issued ++ [(k, t)], s.slots, s.taken, s.retired ++ [t]⟩ := by
  have hpassed := balanced_retire (balanced_lose h hk ht) (List.mem_cons_self ..)
  rw [retire, List.erase_cons_head] at hpassed
  exact hpassed

omit [DecidableEq K] in
/-- No token is retired twice. -/
lemma retired_nodup (h : Balanced s) : s.retired.Nodup := by
  refine List.nodup_iff_count_le_one.mpr fun t => ?_
  by_cases ht : t ∈ s.retired
  · obtain ⟨⟨k, u⟩, hk, hu⟩ := List.mem_map.mp (h.retired_issued t ht)
    obtain rfl : u = t := hu
    have hone := h.once k u hk
    unfold places at hone
    omega
  · rw [List.count_eq_zero.mpr ht]
    omega

omit [DecidableEq K] in
/-- **The three situations.** In a balanced ledger an issued token is in its slot and in no
other, or taken once, or retired once. -/
theorem situations (h : Balanced s) (hk : (k, t) ∈ s.issued) :
    (s.slots k = some t ∧ t ∉ s.taken ∧ t ∉ s.retired) ∨
    ((∀ j, s.slots j ≠ some t) ∧ s.taken.count t = 1 ∧ t ∉ s.retired) ∨
    ((∀ j, s.slots j ≠ some t) ∧ t ∉ s.taken ∧ s.retired.count t = 1) := by
  have hone := h.once k t hk
  unfold places at hone
  by_cases hs : s.slots k = some t
  · rw [if_pos hs] at hone
    exact Or.inl ⟨hs, List.count_eq_zero.mp (by omega), List.count_eq_zero.mp (by omega)⟩
  · rw [if_neg hs] at hone
    have hno : ∀ j, s.slots j ≠ some t := by
      intro j hj
      have := home_unique h hk (h.home j t hj)
      exact hs (this ▸ hj)
    rcases Nat.eq_zero_or_pos (s.taken.count t) with h0 | hpos
    · exact Or.inr (Or.inr ⟨hno, List.count_eq_zero.mp h0, by omega⟩)
    · exact Or.inr (Or.inl ⟨hno, by omega, List.count_eq_zero.mp (by omega)⟩)

end OtelOpenstack.Ledger
