import Mathlib.Data.List.Count
import Mathlib.Data.List.Nodup
import Mathlib.Logic.Function.Iterate
import OtelOpenstack.Effects

/-!
Hooks: places of a process on which several parties put layers, each of which calls what it
found there.

A hook is the list of its layers, the outermost first. A layer comes off by being peeled, which
takes the outermost one whoever put it on, or by putting back what was found.
-/

namespace OtelOpenstack.Hooks

open Effects

universe u

variable {T L ε : Type u}

/-! ### Layers of one party -/

/-- The outermost layer comes off, if it is of a kind that can be peeled. -/
def peel (canPeel : L → Bool) : List L → List L
  | [] => []
  | l :: ls => if canPeel l then ls else l :: ls

/-- What is left of a hook without the layers of one party. -/
def others (own : L → Bool) (ls : List L) : List L := ls.filter fun l => !own l

/-- A party's layer is the outermost and its only one, or it has none and none can be peeled. -/
def Outermost (canPeel own : L → Bool) : List L → Prop
  | [] => True
  | l :: ls => canPeel l = own l ∧ ∀ k ∈ ls, own k = false

lemma others_eq_self {own : L → Bool} {ls : List L} :
    others own ls = ls ↔ ∀ l ∈ ls, own l = false := by
  simp [others, List.filter_eq_self]

lemma others_cons (own : L → Bool) (l : L) (ls : List L) :
    others own (l :: ls) = if own l then others own ls else l :: others own ls := by
  cases h : own l <;> simp [others, h]

/-- The others' layers and one more are never the whole hook below it. -/
lemma ne_cons_others {own : L → Bool} {l : L} (hl : own l = false) (ls : List L) :
    ls ≠ l :: others own ls := by
  intro heq
  have hnone : ∀ k ∈ ls, own k = false := by
    intro k hk
    rw [heq] at hk
    rcases List.mem_cons.mp hk with rfl | hmem
    · exact hl
    · simpa using (List.mem_filter.mp hmem).2
  rw [others_eq_self.mpr hnone] at heq
  have hlen := congrArg List.length heq
  simp at hlen

/-- **Peeling.** It undoes a party's own layers and no others exactly when the party's layer is
outermost. -/
theorem peel_eq_others_iff {canPeel own : L → Bool} (hown : ∀ l, own l = true → canPeel l = true)
    (ls : List L) : peel canPeel ls = others own ls ↔ Outermost canPeel own ls := by
  cases ls with
  | nil => simp [peel, others, Outermost]
  | cons l ls =>
    rw [others_cons]
    have hrest : ls = others own ls ↔ ∀ k ∈ ls, own k = false := eq_comm.trans others_eq_self
    rcases ho : own l with _ | _ <;> rcases hp : canPeel l with _ | _
    · simp [peel, Outermost, hp, ho, hrest]
    · simp [peel, Outermost, hp, ho, ne_cons_others ho]
    · simp [hown l ho] at hp
    · simp [peel, Outermost, hp, ho, hrest]

/-- **Putting back.** What a party found when it put its layer on is what the others left of the
hook exactly when nothing was put on after it. -/
theorem found_eq_others_iff {own : L → Bool} {above found : List L} {l : L} (hl : own l = true)
    (habove : ∀ k ∈ above, own k = false) (hfound : ∀ k ∈ found, own k = false) :
    found = others own (above ++ l :: found) ↔ above = [] := by
  have hleft : others own (above ++ l :: found) = above ++ found := by
    have happend : others own (above ++ l :: found) =
        others own above ++ others own (l :: found) := List.filter_append ..
    rw [happend, others_cons, if_pos hl, others_eq_self.mpr habove, others_eq_self.mpr hfound]
  rw [hleft, eq_comm]
  simp

/-! ### The hooks of a process -/

/-- The layers on every hook. -/
abbrev Table (T L : Type u) := T → List L

section

variable [DecidableEq T] (canPeel : L → Bool)

def put (h : Table T L) (t : T) (l : L) : Table T L := Function.update h t (l :: h t)

def putAll (h : Table T L) (ps : List (T × L)) : Table T L :=
  ps.foldl (fun h p => put h p.1 p.2) h

def takeOff (h : Table T L) (t : T) : Table T L := Function.update h t (peel canPeel (h t))

def takeOffAll (h : Table T L) (ts : List T) : Table T L := ts.foldl (takeOff canPeel) h

/-- What was found on hooks is put back, one after the other. -/
def putBack (h : Table T L) (found : List (T × List L)) : Table T L :=
  found.foldl (fun h p => Function.update h p.1 p.2) h

/-- The layers of a list that go on one hook, in order. -/
def layersOn (ps : List (T × L)) (t : T) : List L :=
  ps.filterMap fun p => if p.1 = t then some p.2 else none

lemma layersOn_cons (p : T × L) (ps : List (T × L)) (t : T) :
    layersOn (p :: ps) t = if p.1 = t then p.2 :: layersOn ps t else layersOn ps t := by
  by_cases h : p.1 = t <;> simp [layersOn, h]

/-- Every layer is on its own hook, the last one put there outermost. -/
lemma putAll_apply (h : Table T L) (ps : List (T × L)) (t : T) :
    putAll h ps t = (layersOn ps t).reverse ++ h t := by
  induction ps generalizing h with
  | nil => rfl
  | cons p ps ih =>
    have hput : putAll h (p :: ps) = putAll (put h p.1 p.2) ps := rfl
    rw [hput, ih, layersOn_cons]
    by_cases hp : p.1 = t
    · subst hp
      simp [put]
    · simp [put, hp, Ne.symm hp]

/-- Putting layers on changes nothing only when there are none. -/
lemma putAll_eq_self_iff (h : Table T L) (ps : List (T × L)) : putAll h ps = h ↔ ps = [] := by
  constructor
  · intro heq
    cases ps with
    | nil => rfl
    | cons p ps =>
      have hp := congrFun heq p.1
      rw [putAll_apply, layersOn_cons, if_pos rfl] at hp
      have hlen := congrArg List.length hp
      simp only [List.length_append, List.length_reverse, List.length_cons] at hlen
      omega
  · rintro rfl
    rfl

lemma length_layersOn (ps : List (T × L)) (t : T) :
    (layersOn ps t).length = (ps.map Prod.fst).count t := by
  induction ps with
  | nil => rfl
  | cons p ps ih =>
    rw [layersOn_cons, List.map_cons, List.count_cons]
    by_cases hp : p.1 = t <;> simp [hp, ih]

lemma takeOffAll_apply (h : Table T L) (ts : List T) (t : T) :
    takeOffAll canPeel h ts t = (peel canPeel)^[ts.count t] (h t) := by
  induction ts generalizing h with
  | nil => rfl
  | cons u ts ih =>
    have htake : takeOffAll canPeel h (u :: ts) = takeOffAll canPeel (takeOff canPeel h u) ts := rfl
    rw [htake, ih, List.count_cons]
    by_cases hu : u = t
    · subst hu
      simp [takeOff]
    · simp [takeOff, hu, Ne.symm hu]

/-- Of hooks that are all different each is peeled once. -/
lemma takeOffAll_of_mem {ts : List T} (hnodup : ts.Nodup) (h : Table T L) {t : T} (ht : t ∈ ts) :
    takeOffAll canPeel h ts t = peel canPeel (h t) := by
  rw [takeOffAll_apply, List.count_eq_one_of_mem hnodup ht]
  rfl

lemma takeOffAll_of_not_mem {ts : List T} (h : Table T L) {t : T} (ht : t ∉ ts) :
    takeOffAll canPeel h ts t = h t := by
  rw [takeOffAll_apply, List.count_eq_zero_of_not_mem ht]
  rfl

lemma layersOn_of_not_mem {ps : List (T × L)} {t : T} (ht : t ∉ ps.map Prod.fst) :
    layersOn ps t = [] := by
  rw [← List.length_eq_zero_iff, length_layersOn]
  exact List.count_eq_zero_of_not_mem ht

variable {canPeel}

lemma peel_iterate_append {ls : List L} (hls : ∀ l ∈ ls, canPeel l = true) (ks : List L) :
    (peel canPeel)^[ls.length] (ls ++ ks) = ks := by
  induction ls with
  | nil => rfl
  | cons l ls ih =>
    have hl := hls l (List.mem_cons_self ..)
    have hpeel : peel canPeel (l :: (ls ++ ks)) = ls ++ ks := by simp [peel, hl]
    rw [List.length_cons, Function.iterate_succ_apply, List.cons_append, hpeel]
    exact ih fun k hk => hls k (List.mem_cons_of_mem _ hk)

/-- **Peeling undoes putting on**, if nobody comes between. -/
theorem takeOffAll_putAll {ps : List (T × L)} (hps : ∀ p ∈ ps, canPeel p.2 = true)
    (h : Table T L) : takeOffAll canPeel (putAll h ps) (ps.map Prod.fst) = h := by
  funext t
  have hpeel : ∀ l ∈ (layersOn ps t).reverse, canPeel l = true := by
    intro l hl
    rw [List.mem_reverse, layersOn, List.mem_filterMap] at hl
    obtain ⟨p, hp, hpt⟩ := hl
    by_cases ht : p.1 = t
    · rw [if_pos ht, Option.some.injEq] at hpt
      exact hpt ▸ hps p hp
    · simp [ht] at hpt
  rw [takeOffAll_apply, putAll_apply, ← length_layersOn, ← List.length_reverse]
  exact peel_iterate_append hpeel _

lemma putBack_of_not_mem {found : List (T × List L)} {t : T} (ht : t ∉ found.map Prod.fst)
    (h : Table T L) : putBack h found t = h t := by
  induction found generalizing h with
  | nil => rfl
  | cons p found ih =>
    simp only [List.map_cons, List.mem_cons, not_or] at ht
    have hback : putBack h (p :: found) = putBack (Function.update h p.1 p.2) found := rfl
    rw [hback, ih ht.2, Function.update_of_ne ht.1]

lemma putBack_of_mem {found : List (T × List L)} (hnodup : (found.map Prod.fst).Nodup)
    {p : T × List L} (hp : p ∈ found) (h : Table T L) : putBack h found p.1 = p.2 := by
  induction found generalizing h with
  | nil => simp at hp
  | cons q found ih =>
    have hback : putBack h (q :: found) = putBack (Function.update h q.1 q.2) found := rfl
    obtain ⟨hq, hrest⟩ := List.nodup_cons.mp hnodup
    rw [hback]
    rcases List.mem_cons.mp hp with rfl | hmem
    · rw [putBack_of_not_mem hq, Function.update_self]
    · exact ih hrest hmem _

/-- **Putting back undoes putting on**, of at most one layer on each hook. -/
theorem putBack_putAll {ps : List (T × L)} (hnodup : (ps.map Prod.fst).Nodup) (h : Table T L) :
    putBack (putAll h ps) (ps.map fun p => (p.1, h p.1)) = h := by
  have hfst : (ps.map fun p => (p.1, h p.1)).map Prod.fst = ps.map Prod.fst := by
    rw [List.map_map]
    rfl
  funext t
  by_cases ht : t ∈ ps.map Prod.fst
  · obtain ⟨p, hp, rfl⟩ := List.mem_map.mp ht
    have hmem : (p.1, h p.1) ∈ ps.map fun p => (p.1, h p.1) := List.mem_map_of_mem hp
    exact putBack_of_mem (by rwa [hfst]) hmem _
  · rw [putBack_of_not_mem (by rwa [hfst]), putAll_apply, layersOn_of_not_mem ht]
    rfl

/-! ### Putting layers on while hooks may be missing -/

/-- `for t in …: put a layer on t`: what was found, hook by hook, up to one that raises. -/
def putEach (fails : T → Option ε) : List (T × L) → Eff ε (Table T L) (List (T × List L))
  | [] => pure []
  | p :: ps => fun h => match fails p.1 with
    | some e => (.error e, h)
    | none => match putEach fails ps (put h p.1 p.2) with
      | (.ok found, h') => (.ok ((p.1, h p.1) :: found), h')
      | (.error e, h') => (.error e, h')

/-- What one after the other finds. -/
def foundEach (h : Table T L) : List (T × L) → List (T × List L)
  | [] => []
  | p :: ps => (p.1, h p.1) :: foundEach (put h p.1 p.2) ps

lemma foundEach_of_nodup {ps : List (T × L)} (hnodup : (ps.map Prod.fst).Nodup) (h : Table T L) :
    foundEach h ps = ps.map fun p => (p.1, h p.1) := by
  induction ps generalizing h with
  | nil => rfl
  | cons p ps ih =>
    obtain ⟨hp, hrest⟩ := List.nodup_cons.mp hnodup
    rw [foundEach, ih hrest, List.map_cons]
    congr 1
    apply List.map_congr_left
    intro q hq
    have hne : q.1 ≠ p.1 := by
      intro heq
      exact hp (heq ▸ List.mem_map_of_mem hq)
    simp [put, hne]

lemma map_fst_foundEach (h : Table T L) (ps : List (T × L)) :
    (foundEach h ps).map Prod.fst = ps.map Prod.fst := by
  induction ps generalizing h with
  | nil => rfl
  | cons p ps ih => simp [foundEach, ih]

variable {fails : T → Option ε}

lemma putEach_of_ok {ps : List (T × L)} (hps : ∀ p ∈ ps, fails p.1 = none) (h : Table T L) :
    putEach fails ps h = (.ok (foundEach h ps), putAll h ps) := by
  induction ps generalizing h with
  | nil => rfl
  | cons p ps ih =>
    have hp := hps p (List.mem_cons_self ..)
    have hrest := ih fun q hq => hps q (List.mem_cons_of_mem _ hq)
    simp only [putEach, hp, hrest]
    rfl

/-- Where a hook raises, the ones before it have their layers. -/
lemma putEach_of_error {done rest : List (T × L)} {p : T × L} {e : ε}
    (hdone : ∀ q ∈ done, fails q.1 = none) (hp : fails p.1 = some e) (h : Table T L) :
    putEach fails (done ++ p :: rest) h = (.error e, putAll h done) := by
  induction done generalizing h with
  | nil => simp [putEach, hp, putAll]
  | cons q done ih =>
    have hq := hdone q (List.mem_cons_self ..)
    have hrest := ih fun q hq => hdone q (List.mem_cons_of_mem _ hq)
    simp only [List.cons_append, putEach, hq, hrest]
    rfl

omit [DecidableEq T] in
/-- Either no hook raises, or there is a first one that does. -/
lemma first_failure (fails : T → Option ε) (ps : List (T × L)) :
    (∀ p ∈ ps, fails p.1 = none) ∨ ∃ done p rest e, ps = done ++ p :: rest ∧
      (∀ q ∈ done, fails q.1 = none) ∧ fails p.1 = some e := by
  induction ps with
  | nil => exact Or.inl nofun
  | cons p ps ih =>
    rcases hp : fails p.1 with _ | e
    · rcases ih with hall | ⟨done, q, rest, e, rfl, hdone, hq⟩
      · exact Or.inl (List.forall_mem_cons.mpr ⟨hp, hall⟩)
      · exact Or.inr ⟨p :: done, q, rest, e, rfl, List.forall_mem_cons.mpr ⟨hp, hdone⟩, hq⟩
    · exact Or.inr ⟨[], p, ps, e, rfl, nofun, hp⟩

end

/-! ### Changes made one after the other -/

section

variable {S σ : Type u} {fails : S → Option ε}

/-- One step: it raises, or it changes the state. -/
def attempt (fails : S → Option ε) (t : S) (change : σ → σ) : Eff ε σ PUnit :=
  match fails t with
  | some e => raise e
  | none => modifies change

/-- Steps that may raise, each with what it changes, up to one that raises. -/
def inOrder (fails : S → Option ε) : List (S × (σ → σ)) → Eff ε σ PUnit
  | [] => pure ⟨⟩
  | [p] => attempt fails p.1 p.2
  | p :: q :: ps => do
    attempt fails p.1 p.2
    inOrder fails (q :: ps)

/-- What steps change. -/
def changes (ps : List (S × (σ → σ))) (s : σ) : σ := ps.foldl (fun s p => p.2 s) s

lemma changes_append (ps qs : List (S × (σ → σ))) (s : σ) :
    changes (ps ++ qs) s = changes qs (changes ps s) := by
  simp [changes, List.foldl_append]

/-- What every step keeps, all of them keep. -/
lemma changes_keeps {P : σ → Prop} {ps : List (S × (σ → σ))}
    (h : ∀ p ∈ ps, ∀ s, P s → P (p.2 s)) {s : σ} (hs : P s) : P (changes ps s) := by
  induction ps generalizing s with
  | nil => exact hs
  | cons p ps ih =>
    have hp := h p (List.mem_cons_self ..) s hs
    exact ih (fun q hq => h q (List.mem_cons_of_mem _ hq)) hp

lemma inOrder_cons_of_ok {p : S × (σ → σ)} (hp : fails p.1 = none) (ps : List (S × (σ → σ)))
    (s : σ) : inOrder fails (p :: ps) s = inOrder fails ps (p.2 s) := by
  cases ps with
  | nil => simp [inOrder, attempt, hp]
  | cons q ps => simp [inOrder, attempt, hp, bind_apply]

lemma inOrder_cons_of_error {p : S × (σ → σ)} {e : ε} (hp : fails p.1 = some e)
    (ps : List (S × (σ → σ))) (s : σ) : inOrder fails (p :: ps) s = (.error e, s) := by
  cases ps with
  | nil => simp [inOrder, attempt, hp]
  | cons q ps => simp [inOrder, attempt, hp, bind_apply]

lemma inOrder_of_ok {ps : List (S × (σ → σ))} (hps : ∀ p ∈ ps, fails p.1 = none) (s : σ) :
    inOrder fails ps s = (.ok ⟨⟩, changes ps s) := by
  induction ps generalizing s with
  | nil => rfl
  | cons p ps ih =>
    have hp := hps p (List.mem_cons_self ..)
    have hrest := ih (fun q hq => hps q (List.mem_cons_of_mem _ hq)) (p.2 s)
    rw [inOrder_cons_of_ok hp, hrest]
    rfl

/-- Where a step raises, the ones before it have been made. -/
lemma inOrder_of_error {done rest : List (S × (σ → σ))} {p : S × (σ → σ)} {e : ε}
    (hdone : ∀ q ∈ done, fails q.1 = none) (hp : fails p.1 = some e) (s : σ) :
    inOrder fails (done ++ p :: rest) s = (.error e, changes done s) := by
  induction done generalizing s with
  | nil => exact inOrder_cons_of_error hp rest s
  | cons q done ih =>
    have hq := hdone q (List.mem_cons_self ..)
    have hrest := ih (fun q hq => hdone q (List.mem_cons_of_mem _ hq)) (q.2 s)
    rw [List.cons_append, inOrder_cons_of_ok hq, hrest]
    rfl

/-- The step that raises, if one does. -/
def raisesAt (fails : S → Option ε) (ps : List (S × (σ → σ))) : Option S :=
  (ps.map Prod.fst).find? fun s => (fails s).isSome

lemma raisesAt_of_ok {ps : List (S × (σ → σ))} (hps : ∀ p ∈ ps, fails p.1 = none) :
    raisesAt fails ps = none := by
  simp only [raisesAt, List.find?_eq_none, List.mem_map]
  rintro s ⟨p, hp, rfl⟩
  simp [hps p hp]

lemma raisesAt_of_error {done rest : List (S × (σ → σ))} {p : S × (σ → σ)} {e : ε}
    (hdone : ∀ q ∈ done, fails q.1 = none) (hp : fails p.1 = some e) :
    raisesAt fails (done ++ p :: rest) = some p.1 := by
  have hnone := raisesAt_of_ok hdone
  unfold raisesAt at hnone ⊢
  rw [List.map_append, List.find?_append, hnone]
  simp [hp]

end

/-! ### Instrumentors -/

/-- An instrumentor and the process it changes. -/
structure Instrumented (σ : Type u) where
  on : Bool
  process : σ

variable {σ : Type u}

/-- `instrument()`: nothing happens while it is on, and it is on once its own part returned. -/
def switchOn (m : Eff ε σ PUnit) : Eff ε (Instrumented σ) PUnit := fun s =>
  if s.on then (.ok ⟨⟩, s)
  else match m s.process with
    | (.ok _, p) => (.ok ⟨⟩, ⟨true, p⟩)
    | (.error e, p) => (.error e, ⟨false, p⟩)

/-- `uninstrument()`. -/
def switchOff (m : Eff ε σ PUnit) : Eff ε (Instrumented σ) PUnit := fun s =>
  if s.on then match m s.process with
    | (.ok _, p) => (.ok ⟨⟩, ⟨false, p⟩)
    | (.error e, p) => (.error e, ⟨true, p⟩)
  else (.ok ⟨⟩, s)

lemma switchOn_of_ok {m : Eff ε σ PUnit} {p q : σ} (h : m p = (.ok ⟨⟩, q)) :
    switchOn m ⟨false, p⟩ = (.ok ⟨⟩, ⟨true, q⟩) := by
  simp [switchOn, h]

lemma switchOn_of_error {m : Eff ε σ PUnit} {p q : σ} {e : ε} (h : m p = (.error e, q)) :
    switchOn m ⟨false, p⟩ = (.error e, ⟨false, q⟩) := by
  simp [switchOn, h]

/-- Only switching an instrumentor on that is off can raise, and it stays off. -/
lemma off_of_switchOn_error {m : Eff ε σ PUnit} {s t : Instrumented σ} {e : ε}
    (h : switchOn m s = (.error e, t)) :
    s.on = false ∧ t.on = false ∧ m s.process = (.error e, t.process) := by
  obtain ⟨on, p⟩ := s
  cases on with
  | true => simp [switchOn] at h
  | false =>
    rcases hm : m p with ⟨e' | ⟨⟩, q⟩
    · rw [switchOn_of_error hm, Prod.mk.injEq, Except.error.injEq] at h
      obtain ⟨rfl, rfl⟩ := h
      exact ⟨rfl, rfl, rfl⟩
    · simp [switchOn_of_ok hm] at h

lemma switchOff_of_ok {m : Eff ε σ PUnit} {p q : σ} (h : m p = (.ok ⟨⟩, q)) :
    switchOff m ⟨true, p⟩ = (.ok ⟨⟩, ⟨false, q⟩) := by
  simp [switchOff, h]

/-- Switched on, once that succeeds, and off again, the instrumentor leaves the hooks as they
are. -/
def UndoneLater {H : Type u} (on off : Eff ε (Instrumented σ) PUnit) (hooks : σ → H)
    (s : Instrumented σ) : Prop :=
  ∀ t u, on s = (.ok ⟨⟩, t) → off t = (.ok ⟨⟩, u) → hooks u.process = hooks s.process

lemma undoneLater_of {H : Type u} {m n : Eff ε σ PUnit} {hooks : σ → H} {s : Instrumented σ}
    (hoff : s.on = false)
    (h : ∀ q r, m s.process = (.ok ⟨⟩, q) → n q = (.ok ⟨⟩, r) → hooks r = hooks s.process) :
    UndoneLater (switchOn m) (switchOff n) hooks s := by
  obtain ⟨on, p⟩ := s
  obtain rfl : on = false := hoff
  intro t u ht hu
  rcases hm : m p with ⟨e | ⟨⟩, q⟩
  · simp [switchOn_of_error hm] at ht
  · rw [switchOn_of_ok hm, Prod.mk.injEq] at ht
    obtain ⟨-, rfl⟩ := ht
    rcases hn : n q with ⟨e | ⟨⟩, r⟩
    · simp [switchOff, hn] at hu
    · rw [switchOff_of_ok hn, Prod.mk.injEq] at hu
      obtain ⟨-, rfl⟩ := hu
      exact h q r hm hn

end OtelOpenstack.Hooks
