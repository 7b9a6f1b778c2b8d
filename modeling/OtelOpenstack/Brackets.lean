import Mathlib.Data.List.Nodup
import Mathlib.Data.List.Perm.Basic

/-!
Logs in which what is opened is closed again, the last opened first.

Entries open a key, close one, or do neither. Some may open a key that nobody closes; which
ones is a parameter, and no other entry does.
-/

namespace OtelOpenstack.Brackets

inductive Mark (K : Type*)
  | opens (k : K)
  | closes (k : K)
  | neither

def Mark.opened {K : Type*} : Mark K → Option K
  | .opens k => some k
  | _ => none

def Mark.closed {K : Type*} : Mark K → Option K
  | .closes k => some k
  | _ => none

variable {E K : Type*} (mark : E → Mark K) (loose : E → Prop)

/-- What an entry opens a later one closes, and between the two the log is bracketed; a loose
entry may stay open. -/
inductive Bracketed : List E → Prop
  | nil : Bracketed []
  | plain {e : E} {es : List E} (he : mark e = .neither) (hes : Bracketed es) :
    Bracketed (e :: es)
  | stays {e : E} {k : K} {es : List E} (he : mark e = .opens k) (hloose : loose e)
    (hes : Bracketed es) : Bracketed (e :: es)
  | pair {o c : E} {k : K} {inner es : List E} (ho : mark o = .opens k)
    (hc : mark c = .closes k) (hinner : Bracketed inner) (hes : Bracketed es) :
    Bracketed (o :: (inner ++ c :: es))

/-- The keys that are opened, in order. -/
def opened (es : List E) : List K := es.filterMap fun e => (mark e).opened

/-- The keys that are closed, in order. -/
def closed (es : List E) : List K := es.filterMap fun e => (mark e).closed

variable {mark loose}

lemma opened_append (es fs : List E) : opened mark (es ++ fs) = opened mark es ++ opened mark fs :=
  List.filterMap_append ..

lemma closed_append (es fs : List E) : closed mark (es ++ fs) = closed mark es ++ closed mark fs :=
  List.filterMap_append ..

lemma opened_cons (e : E) (es : List E) :
    opened mark (e :: es) = (mark e).opened.toList ++ opened mark es := by
  cases h : (mark e).opened <;> simp [opened, h]

lemma closed_cons (e : E) (es : List E) :
    closed mark (e :: es) = (mark e).closed.toList ++ closed mark es := by
  cases h : (mark e).closed <;> simp [closed, h]

lemma Bracketed.append {es fs : List E} (h : Bracketed mark loose es)
    (h' : Bracketed mark loose fs) : Bracketed mark loose (es ++ fs) := by
  induction h with
  | nil => exact h'
  | plain he _ ih => exact .plain he ih
  | stays he hloose _ ih => exact .stays he hloose ih
  | pair ho hc hinner _ _ ih =>
    rw [List.cons_append, List.append_assoc, List.cons_append]
    exact .pair ho hc hinner ih

lemma bracketed_of_neither {es : List E} (h : ∀ e ∈ es, mark e = .neither) :
    Bracketed mark loose es := by
  induction es with
  | nil => exact .nil
  | cons e es ih =>
    have he := h e (List.mem_cons_self ..)
    exact .plain he (ih fun f hf => h f (List.mem_cons_of_mem _ hf))

/-- One key, opened before a bracketed log and closed after it. -/
lemma Bracketed.around {o c : E} {k : K} {es : List E} (h : Bracketed mark loose es)
    (ho : mark o = .opens k) (hc : mark c = .closes k) :
    Bracketed mark loose (o :: (es ++ [c])) :=
  .pair ho hc h .nil

/-! ### Every key that is opened -/

/-- Where an entry stands in a log around another. -/
lemma split_around {es inner pre post : List E} {c e : E} (hne : e ≠ c)
    (h : inner ++ c :: es = pre ++ e :: post) :
    (∃ mid, inner = pre ++ e :: mid ∧ post = mid ++ c :: es) ∨
      ∃ mid, pre = inner ++ c :: mid ∧ es = mid ++ e :: post := by
  rcases List.append_eq_append_iff.mp h with ⟨mid, hpre, hrest⟩ | ⟨mid, hinner, hrest⟩
  · cases mid with
    | nil =>
      obtain ⟨rfl, -⟩ := List.cons.inj hrest
      exact absurd rfl hne
    | cons d mid =>
      obtain ⟨rfl, hes⟩ := List.cons.inj hrest
      exact Or.inr ⟨mid, hpre, hes⟩
  · cases mid with
    | nil =>
      obtain ⟨rfl, -⟩ := List.cons.inj hrest
      exact absurd rfl hne
    | cons d mid =>
      obtain ⟨rfl, hpost⟩ := List.cons.inj hrest
      exact Or.inl ⟨mid, hinner, hpost⟩

/-- **What is opened is closed.** After an entry that opens a key and is not loose comes one that
closes the key, and between the two the log is bracketed. -/
theorem Bracketed.matched {es pre post : List E} {o : E} {k : K} (h : Bracketed mark loose es)
    (hes : es = pre ++ o :: post) (ho : mark o = .opens k) (hloose : ¬ loose o) :
    ∃ inner c rest, post = inner ++ c :: rest ∧ mark c = .closes k ∧
      Bracketed mark loose inner := by
  induction h generalizing pre post with
  | nil => exact absurd hes.symm (List.append_ne_nil_of_right_ne_nil _ (List.cons_ne_nil _ _))
  | plain he _ ih =>
    cases pre with
    | nil =>
      obtain ⟨rfl, -⟩ := List.cons.inj hes
      exact absurd (he.symm.trans ho) nofun
    | cons d pre => exact ih (List.cons.inj hes).2
  | stays he hstays _ ih =>
    cases pre with
    | nil =>
      obtain ⟨rfl, -⟩ := List.cons.inj hes
      exact absurd hstays hloose
    | cons d pre => exact ih (List.cons.inj hes).2
  | @pair _ c _ _ es ho' hc hinner _ ihinner ihes =>
    cases pre with
    | nil =>
      obtain ⟨rfl, rfl⟩ := List.cons.inj hes
      obtain rfl := Mark.opens.inj (ho.symm.trans ho')
      exact ⟨_, _, _, rfl, hc, hinner⟩
    | cons d pre =>
      have hne : o ≠ c := by
        rintro rfl
        exact absurd (ho.symm.trans hc) nofun
      rcases split_around hne (List.cons.inj hes).2 with ⟨mid, hin, rfl⟩ | ⟨mid, -, hout⟩
      · obtain ⟨inner', c', rest, rfl, hc', hbr⟩ := ihinner hin
        refine ⟨inner', c', rest ++ c :: es, ?_, hc', hbr⟩
        rw [List.append_assoc, List.cons_append]
      · exact ihes hout

/-- **Nothing is closed twice, or unopened.** The keys that are opened are the ones that are
closed, and some that loose entries opened. -/
theorem Bracketed.opened_perm {es : List E} (h : Bracketed mark loose es) :
    ∃ left, (opened mark es).Perm (closed mark es ++ left) ∧
      ∀ k ∈ left, ∃ e ∈ es, mark e = .opens k ∧ loose e := by
  induction h with
  | nil => exact ⟨[], List.Perm.refl _, nofun⟩
  | plain he _ ih =>
    obtain ⟨left, hperm, hleft⟩ := ih
    refine ⟨left, by simpa [opened_cons, closed_cons, he, Mark.opened, Mark.closed], ?_⟩
    intro k hk
    obtain ⟨f, hf, hmark⟩ := hleft k hk
    exact ⟨f, List.mem_cons_of_mem _ hf, hmark⟩
  | @stays e k es he hloose _ ih =>
    obtain ⟨left, hperm, hleft⟩ := ih
    refine ⟨k :: left, ?_, ?_⟩
    · simp only [opened_cons, closed_cons, he, Mark.opened, Mark.closed, Option.toList]
      exact (hperm.cons k).trans List.perm_middle.symm
    · intro j hj
      rcases List.mem_cons.mp hj with rfl | hj
      · exact ⟨e, List.mem_cons_self .., he, hloose⟩
      · obtain ⟨f, hf, hmark⟩ := hleft j hj
        exact ⟨f, List.mem_cons_of_mem _ hf, hmark⟩
  | @pair o c k inner es ho hc _ _ ihinner ihes =>
    obtain ⟨leftin, hpermin, hleftin⟩ := ihinner
    obtain ⟨left, hperm, hleft⟩ := ihes
    refine ⟨leftin ++ left, ?_, ?_⟩
    · simp only [opened_cons, closed_cons, opened_append, closed_append, ho, hc, Mark.opened,
        Mark.closed, Option.toList, List.nil_append, List.singleton_append]
      have hboth := (hpermin.append hperm).cons k
      have hswap : (leftin ++ (closed mark es ++ left)).Perm
          (closed mark es ++ (leftin ++ left)) := List.perm_append_comm_assoc ..
      rw [List.append_assoc] at hboth
      refine (hboth.trans ((hswap.append_left _).cons k)).trans ?_
      rw [List.append_assoc, List.cons_append]
      exact List.perm_middle.symm
    · intro j hj
      rcases List.mem_append.mp hj with hj | hj
      · obtain ⟨f, hf, hmark⟩ := hleftin j hj
        exact ⟨f, List.mem_cons_of_mem _ (List.mem_append_left _ hf), hmark⟩
      · obtain ⟨f, hf, hmark⟩ := hleft j hj
        exact ⟨f, List.mem_cons_of_mem _ (List.mem_append_right _ (List.mem_cons_of_mem _ hf)),
          hmark⟩

/-- Of keys that are all different each is closed at most once, and once if no loose entry
opened it. -/
theorem Bracketed.closed_count [DecidableEq K] {es : List E} (h : Bracketed mark loose es)
    (hnodup : (opened mark es).Nodup) {k : K} (hk : k ∈ opened mark es) :
    (closed mark es).count k ≤ 1 ∧
      ((∀ e ∈ es, mark e = .opens k → ¬ loose e) → (closed mark es).count k = 1) := by
  obtain ⟨left, hperm, hleft⟩ := h.opened_perm
  have hone : (opened mark es).count k = 1 := List.count_eq_one_of_mem hnodup hk
  have hcount : (opened mark es).count k = (closed mark es).count k + left.count k := by
    rw [hperm.count_eq, List.count_append]
  refine ⟨by omega, fun hno => ?_⟩
  have hnone : left.count k = 0 := by
    refine List.count_eq_zero_of_not_mem fun hmem => ?_
    obtain ⟨e, he, hmark, hstays⟩ := hleft k hmem
    exact hno e he hmark hstays
  omega

end OtelOpenstack.Brackets
