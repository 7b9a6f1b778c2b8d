import Mathlib.Data.List.Nodup
import Mathlib.Logic.Function.Iterate
import OtelOpenstack.Eventlet
import OtelOpenstack.Runs

/-!
Processes that fork while threads of theirs wait to start.

Under eventlet `Thread.start()` only puts a timer on the hub of the thread that calls it. A child
has a copy of the hub of the thread that forked, and runs the handlers that were registered for
children before it runs anything else. Eventlet's hubs are a parameter, `HubApi` and `UseHub`,
with what is documented of them as laws.
-/

set_option autoImplicit false

namespace OtelOpenstack.Forks

open Effects Eventlet Python Runs

/-! ### Hubs -/

/-- `eventlet.hubs`: a hub is known by the timers that wait on it. -/
class HubApi (Hub : Type) where
  waiting : Hub → ℕ → Bool
  /-- The hub a thread gets when it needs one and has none -/
  new : Hub
  /-- What starting a green thread does: a timer is to start it -/
  schedule : Hub → ℕ → Hub
  /-- A timer that has fired is done, and perhaps others with it -/
  fire : Hub → ℕ → Hub
  waiting_new : ∀ x, waiting new x = false
  waiting_schedule : ∀ h x y, waiting (schedule h x) y = true ↔ waiting h y = true ∨ y = x
  waiting_fire : ∀ h x y, waiting (fire h x) y = true → waiting h y = true ∧ y ≠ x

open HubApi

/-- A call of `use_hub()` in a thread with a hub: what it comes out with, and the hub it leaves the
thread, if any. It may raise before it has done away with the old hub, or after; once it has
returned that is gone. -/
structure UseHub (Hub : Type) [HubApi Hub] where
  call : Hub → Except Exn Unit × Option Hub
  old : ∀ h h' x, (call h).2 = some h' → waiting h' x = true → waiting h x = true
  gone : ∀ h h' x, (call h).1 = .ok () → (call h).2 = some h' → waiting h' x = false

/-- Whether `eventlet.hubs` is in `sys.modules`, and the hub of each thread that has one. -/
structure Hubs (Hub : Type) where
  imported : Bool
  hub : ℕ → Option Hub

abbrev Proc (Hub : Type) := Process (Hubs Hub)

section

variable {Hub : Type}

def setHub (t : ℕ) (h : Option Hub) (p : Proc Hub) : Proc Hub :=
  { p with host := { p.host with hub := Function.update p.host.hub t h } }

/-- Eventlet is imported, and the thread has a hub. -/
def Hubs.live (h : Hubs Hub) (t : ℕ) : Bool := h.imported && (h.hub t).isSome

variable [HubApi Hub]

/-- `hubs.use_hub()`. -/
def useHub (use : UseHub Hub) (t : ℕ) : Eff Exn (Proc Hub) Unit := fun p =>
  match p.host.hub t with
  | none => (.ok (), p)
  | some h => ((use.call h).1, setHub t (use.call h).2 p)

/-- `_fresh_hub`. -/
def freshHub (use : UseHub Hub) (t : ℕ) : Eff Exn (Proc Hub) Unit :=
  tryExcept
    (do
      let live ← reads fun p => p.host.live t
      onlyIf live (useHub use t))
    fun e => if e.isException then pure ⟨⟩ else raise e

/-- What a child starts with: the thread that forked is the only one. -/
def inherited (t : ℕ) (p : Proc Hub) : Proc Hub :=
  { p with host := { p.host with hub := fun u => if u = t then p.host.hub t else none } }

/-- A child that has run its handlers; the interpreter ignores what they raise. -/
def child (use : UseHub Hub) (t : ℕ) (p : Proc Hub) : Proc Hub :=
  (fun q => (freshHub use t q).2)^[p.forkhooks] (inherited t p)

/-! ### The processes -/

/-- The processes there have been, the timers that have fired in any of them, and how many timers
there were. -/
structure Sys (Hub : Type) where
  procs : List (Proc Hub)
  fired : List ℕ
  made : ℕ

/-- Process `i` imports eventlet, registers its handler, starts a thread in its thread `t`, fires
a timer of the hub of its thread `t`, or forks in its thread `t`, with what `use_hub` does in the
child. -/
inductive Event (Hub : Type) [HubApi Hub]
  | importHubs (i : ℕ)
  | register (i : ℕ)
  | start (i t : ℕ)
  | fire (i t x : ℕ)
  | fork (i t : ℕ) (use : UseHub Hub)

omit [HubApi Hub] in
/-- A process goes on as another. -/
def Sys.put (s : Sys Hub) (i : ℕ) (p : Proc Hub) : Sys Hub := { s with procs := s.procs.set i p }

omit [HubApi Hub] in
def importHubs (p : Proc Hub) : Proc Hub := { p with host := { p.host with imported := true } }

variable (rt : Runtime (Hubs Hub))

def stepIn (s : Sys Hub) (p : Proc Hub) : Event Hub → Sys Hub
  | .importHubs i => s.put i (importHubs p)
  | .register i => s.put i (registerForkhook rt p).2
  | .start i t =>
    -- without eventlet the thread starts at once
    if p.host.imported then
      { s.put i (setHub t (some (schedule ((p.host.hub t).getD new) s.made)) p) with
        made := s.made + 1 }
    else s
  | .fire i t x =>
    match p.host.hub t with
    | none => s
    | some h =>
      if waiting h x then
        { s.put i (setHub t (some (fire h x)) p) with fired := s.fired ++ [x] }
      else s
  | .fork _ t use => { s with procs := s.procs ++ [child use t p] }

def Event.process : Event Hub → ℕ
  | .importHubs i => i
  | .register i => i
  | .start i _ => i
  | .fire i _ _ => i
  | .fork i _ _ => i

def step (s : Sys Hub) (e : Event Hub) : Sys Hub :=
  match s.procs[e.process]? with
  | none => s
  | some p => stepIn rt s p e

omit [HubApi Hub] in
/-- One process, without eventlet. -/
def first (environ : String → Option String) : Sys Hub :=
  ⟨[⟨environ, false, 0, fun _ _ => none, ⟨false, fun _ => none⟩⟩], [], 0⟩

/-- A timer waits on the hub of a thread. -/
def Waits (p : Proc Hub) (t x : ℕ) : Prop := ∃ h, p.host.hub t = some h ∧ waiting h x = true

/-- No timer waits in two processes. -/
def Apart (s : Sys Hub) : Prop :=
  ∀ (i j : ℕ) (p q : Proc Hub) (t u x : ℕ), s.procs[i]? = some p → s.procs[j]? = some q →
    Waits p t x → Waits q u x → i = j

/-- A timer of the old hub still waits after `use_hub()`. -/
def UseHub.Leaves (use : UseHub Hub) (h : Hub) (x : ℕ) : Prop :=
  ∃ h', (use.call h).2 = some h' ∧ waiting h' x = true

/-- A process forks in a thread whose hub has timers only with its handler registered, and in the
child `use_hub()` does away with them. -/
def Guarded (s : Sys Hub) : Event Hub → Prop
  | .fork i t use => ∀ p h x, s.procs[i]? = some p → p.host.hub t = some h → waiting h x = true →
    p.forkhookInstalled = true ∧ ¬ use.Leaves h x
  | _ => True

/-- The same, where `use_hub()` returns. -/
def Returned (s : Sys Hub) : Event Hub → Prop
  | .fork i t use => ∀ p h x, s.procs[i]? = some p → p.host.hub t = some h → waiting h x = true →
    p.forkhookInstalled = true ∧ (use.call h).1 = .ok ()
  | _ => True

lemma guarded_of_returned (s : Sys Hub) (e : Event Hub) (h : Returned s e) : Guarded s e := by
  cases e with
  | fork i t use =>
    intro p hub x hp hhub hx
    obtain ⟨hinstalled, hreturned⟩ := h p hub x hp hhub hx
    refine ⟨hinstalled, ?_⟩
    rintro ⟨hub', hleft, hx'⟩
    exact absurd ((use.gone hub hub' x hreturned hleft).symm.trans hx') Bool.false_ne_true
  | _ => trivial

/-! ### One process -/

/-- Its handler is registered once if at all, hubs are only where eventlet is, and a timer waits
in one thread. -/
structure Proper (p : Proc Hub) : Prop where
  hooks : p.forkhooks = if p.forkhookInstalled then 1 else 0
  imported : ∀ t h, p.host.hub t = some h → p.host.imported = true
  thread : ∀ t u x, Waits p t x → Waits p u x → t = u

lemma waits_setHub {p : Proc Hub} {t u x : ℕ} {h : Option Hub} :
    Waits (setHub t h p) u x ↔
      if u = t then ∃ h', h = some h' ∧ waiting h' x = true else Waits p u x := by
  unfold Waits setHub
  by_cases hu : u = t
  · subst hu
    simp
  · simp [hu]

lemma freshHub_state (use : UseHub Hub) (t : ℕ) (p : Proc Hub) :
    (freshHub use t p).2 = if p.host.live t then (useHub use t p).2 else p := by
  unfold freshHub
  cases hlive : p.host.live t with
  | false => simp [tryExcept, bind_apply, hlive, onlyIf]
  | true =>
    simp only [tryExcept, bind_apply, reads_apply, hlive, onlyIf, if_true]
    rcases useHub use t p with ⟨e | _, q⟩
    · dsimp only
      cases e.isException <;> rfl
    · rfl

lemma child_eq {p : Proc Hub} (hp : Proper p) (use : UseHub Hub) (t : ℕ) :
    child use t p = match p.host.hub t with
      | none => inherited t p
      | some h =>
        if p.forkhookInstalled then setHub t (use.call h).2 (inherited t p) else inherited t p := by
  have hhub : (inherited t p).host.hub t = p.host.hub t := by simp [inherited]
  have himported : (inherited t p).host.imported = p.host.imported := rfl
  unfold child
  rw [hp.hooks]
  cases p.forkhookInstalled with
  | false => cases p.host.hub t <;> rfl
  | true =>
    simp only [if_true, Function.iterate_one]
    rw [freshHub_state, Hubs.live, hhub, himported]
    cases h : p.host.hub t with
    | none => simp
    | some hub =>
      rw [hp.imported t hub h]
      simp [useHub, hhub, h]

lemma waits_inherited {p : Proc Hub} {t u x : ℕ} :
    Waits (inherited t p) u x ↔ u = t ∧ Waits p t x := by
  unfold Waits inherited
  by_cases h : u = t <;> simp [h]

/-- **A child** has the timers of the thread that forked that no handler did away with. -/
lemma waits_child {p : Proc Hub} (hp : Proper p) {use : UseHub Hub} {t u x : ℕ} :
    Waits (child use t p) u x ↔
      u = t ∧ ∃ h, p.host.hub t = some h ∧ waiting h x = true ∧
        ¬ (p.forkhookInstalled = true ∧ ¬ use.Leaves h x) := by
  rw [child_eq hp]
  cases hhub : p.host.hub t with
  | none =>
    rw [waits_inherited, Waits, hhub]
    simp
  | some h =>
    dsimp only
    cases p.forkhookInstalled with
    | false =>
      rw [if_neg Bool.false_ne_true, waits_inherited, Waits, hhub]
      simp
    | true =>
      rw [if_pos rfl, waits_setHub]
      by_cases hu : u = t
      · rw [if_pos hu]
        refine ⟨fun ⟨h', hleft, hx⟩ => ⟨hu, h, rfl, use.old h h' x hleft hx, fun hnot => ?_⟩, ?_⟩
        · exact hnot.2 ⟨h', hleft, hx⟩
        · rintro ⟨-, h', ⟨⟩, -, hnot⟩
          by_contra hgone
          exact hnot ⟨rfl, hgone⟩
      · rw [if_neg hu, waits_inherited]
        exact ⟨fun h => absurd h.1 hu, fun h => absurd h.1 hu⟩

lemma proper_inherited {p : Proc Hub} (hp : Proper p) (t : ℕ) : Proper (inherited t p) where
  hooks := hp.hooks
  imported u h hhub := by
    by_cases hu : u = t
    · exact hp.imported t h (by simpa [inherited, hu] using hhub)
    · simp [inherited, hu] at hhub
  thread u v x hu hv := by
    rw [waits_inherited] at hu hv
    exact hu.1.trans hv.1.symm

lemma proper_setHub {p : Proc Hub} (hp : Proper p) (himported : p.host.imported = true) {t : ℕ}
    {h : Option Hub}
    (hthread : ∀ h' u x, h = some h' → waiting h' x = true → Waits p u x → u = t) :
    Proper (setHub t h p) where
  hooks := hp.hooks
  imported _ _ _ := himported
  thread u v x hu hv := by
    rw [waits_setHub] at hu hv
    split at hu <;> split at hv
    case isTrue.isTrue h h' => exact h.trans h'.symm
    case isTrue.isFalse hut hvt =>
      obtain ⟨h', hh, hx⟩ := hu
      exact absurd (hthread h' v x hh hx hv) hvt
    case isFalse.isTrue hut hvt =>
      obtain ⟨h', hh, hx⟩ := hv
      exact absurd (hthread h' u x hh hx hu) hut
    case isFalse.isFalse => exact hp.thread u v x hu hv

lemma proper_child {p : Proc Hub} (hp : Proper p) (use : UseHub Hub) (t : ℕ) :
    Proper (child use t p) := by
  have hinherited := proper_inherited hp t
  rw [child_eq hp]
  cases hhub : p.host.hub t with
  | none => exact hinherited
  | some h =>
    dsimp only
    split
    case isTrue =>
      refine proper_setHub hinherited (hp.imported t h hhub) fun h' u x hleft hx hu => ?_
      exact (waits_inherited.mp hu).1
    case isFalse => exact hinherited

lemma waits_importHubs {p : Proc Hub} {t x : ℕ} : Waits (importHubs p) t x ↔ Waits p t x :=
  Iff.rfl

lemma proper_importHubs {p : Proc Hub} (hp : Proper p) : Proper (importHubs p) where
  hooks := hp.hooks
  imported _ _ _ := rfl
  thread := hp.thread

section

variable (rt : Runtime (Hubs Hub)) (p : Proc Hub)

omit [HubApi Hub] in
/-- Registering the handler is nothing to the hubs, and is done once. -/
lemma registered : (registerForkhook rt p).2.host = p.host ∧
    (p.forkhooks = (if p.forkhookInstalled then 1 else 0) →
      (registerForkhook rt p).2.forkhooks =
        if (registerForkhook rt p).2.forkhookInstalled then 1 else 0) := by
  unfold registerForkhook
  rw [bind_of_ok (reads_apply _ p)]
  cases hinstalled : p.forkhookInstalled with
  | true => exact ⟨rfl, fun h => by simpa [hinstalled] using h⟩
  | false =>
    cases rt.hasRegisterAtFork with
    | false => exact ⟨rfl, fun h => by simpa [hinstalled] using h⟩
    | true => exact ⟨rfl, fun h => by simpa [bind_apply] using h⟩

lemma waits_registered {t x : ℕ} : Waits (registerForkhook rt p).2 t x ↔ Waits p t x := by
  unfold Waits
  rw [(registered rt p).1]

lemma proper_registered (hp : Proper p) : Proper (registerForkhook rt p).2 where
  hooks := (registered rt p).2 hp.hooks
  imported := by
    rw [(registered rt p).1]
    exact hp.imported
  thread t u x := by
    rw [waits_registered, waits_registered]
    exact hp.thread t u x

end

/-! ### All processes -/

/-- The `i`-th process satisfies `P`, for every `i`. -/
def Sys.All (s : Sys Hub) (P : Proc Hub → Prop) : Prop :=
  ∀ (i : ℕ) (p : Proc Hub), s.procs[i]? = some p → P p

structure Inv (s : Sys Hub) : Prop where
  proper : s.All Proper
  apart : Apart s
  made : s.All fun p => ∀ t x, Waits p t x → x < s.made
  fired : ∀ x ∈ s.fired, x < s.made
  unfired : s.All fun p => ∀ t x, Waits p t x → x ∉ s.fired
  once : s.fired.Nodup

lemma inv_first (environ : String → Option String) : Inv (first environ : Sys Hub) := by
  have hfirst {i : ℕ} {p : Proc Hub} (hp : (first environ : Sys Hub).procs[i]? = some p) :
      i = 0 ∧ ∀ t, p.host.hub t = none := by
    cases i with
    | zero =>
      obtain rfl := Option.some.inj hp
      exact ⟨rfl, fun _ => rfl⟩
    | succ i => exact absurd hp nofun
  have hnone {i : ℕ} {p : Proc Hub} (hp : (first environ : Sys Hub).procs[i]? = some p) (t x : ℕ) :
      ¬ Waits p t x := by
    rintro ⟨timers, htimers, -⟩
    rw [(hfirst hp).2 t] at htimers
    exact absurd htimers nofun
  refine ⟨fun i p hp => ⟨?_, ?_, ?_⟩, ?_, ?_, nofun, ?_, List.nodup_nil⟩
  · obtain ⟨rfl, -⟩ := hfirst hp
    obtain rfl := Option.some.inj hp
    rfl
  · intro t h hhub
    exact absurd (((hfirst hp).2 t).symm.trans hhub) nofun
  · intro t u x h
    exact absurd h (hnone hp t x)
  · intro i j p q t u x hp _ h
    exact absurd h (hnone hp t x)
  · intro i p hp t x h
    exact absurd h (hnone hp t x)
  · intro i p hp t x h
    exact absurd h (hnone hp t x)

section

variable {s : Sys Hub} {i : ℕ} {p p' : Proc Hub}

/-- A process that goes on: every timer of its waited before, or is new. -/
lemma Inv.put (hs : Inv s) (hp : s.procs[i]? = some p) (hp' : Proper p') {fired : List ℕ}
    {made : ℕ} (hmade : s.made ≤ made)
    (hwaits : ∀ t x, Waits p' t x → ((∃ u, Waits p u x) ∨ x = s.made) ∧ x < made ∧ x ∉ fired)
    (hfired : ∀ x ∈ fired, x < made) (honce : fired.Nodup)
    (hothers : ∀ x ∈ fired, x ∈ s.fired ∨ ∃ u, Waits p u x) :
    Inv ⟨s.procs.set i p', fired, made⟩ := by
  have hi := (List.getElem?_eq_some_iff.mp hp).1
  have hcases {j : ℕ} {q : Proc Hub} (hq : (s.procs.set i p')[j]? = some q) :
      j = i ∧ q = p' ∨ j ≠ i ∧ s.procs[j]? = some q := by
    by_cases hj : j = i
    · subst hj
      rw [List.getElem?_set_self hi] at hq
      exact Or.inl ⟨rfl, (Option.some.inj hq).symm⟩
    · rw [List.getElem?_set_ne (Ne.symm hj)] at hq
      exact Or.inr ⟨hj, hq⟩
  -- what waits in another process neither waits in this one nor is new
  have hother {j : ℕ} {q : Proc Hub} {t u x : ℕ} (hj : j ≠ i) (hq : s.procs[j]? = some q)
      (hx : Waits q t x) : ¬ Waits p u x ∧ x ≠ s.made := by
    refine ⟨fun hpx => hj (hs.apart j i q p t u x hq hp hx hpx), ?_⟩
    rintro rfl
    exact absurd (hs.made j q hq t _ hx) (Nat.lt_irrefl _)
  have hnot {j : ℕ} {q : Proc Hub} {t u x : ℕ} (hj : j ≠ i) (hq : s.procs[j]? = some q)
      (hx : Waits q t x) : ¬ Waits p' u x := by
    intro hpx
    rcases (hwaits u x hpx).1 with ⟨v, hv⟩ | hnew
    · exact (hother hj hq hx).1 hv
    · exact (hother (u := u) hj hq hx).2 hnew
  refine ⟨fun j q hq => ?_, ?_, fun j q hq t x hx => ?_, hfired, fun j q hq t x hx => ?_, honce⟩
  · rcases hcases hq with ⟨-, rfl⟩ | ⟨-, hq⟩
    · exact hp'
    · exact hs.proper j q hq
  · intro j k q q' t u x hq hq' hx hx'
    rcases hcases hq with ⟨rfl, rfl⟩ | ⟨hj, hj'⟩ <;>
      rcases hcases hq' with ⟨rfl, rfl⟩ | ⟨hk, hk'⟩
    · rfl
    · exact absurd hx (hnot hk hk' hx')
    · exact absurd hx' (hnot hj hj' hx)
    · exact hs.apart j k q q' t u x hj' hk' hx hx'
  · rcases hcases hq with ⟨-, rfl⟩ | ⟨-, hq⟩
    · exact (hwaits t x hx).2.1
    · exact Nat.lt_of_lt_of_le (hs.made j q hq t x hx) hmade
  · rcases hcases hq with ⟨-, rfl⟩ | ⟨hj, hq⟩
    · exact (hwaits t x hx).2.2
    · intro hmem
      rcases hothers x hmem with hold | ⟨u, hu⟩
      · exact hs.unfired j q hq t x hx hold
      · exact (hother hj hq hx).1 hu

/-- A process whose timers stay as they are. -/
lemma Inv.same (hs : Inv s) (hp : s.procs[i]? = some p) (hp' : Proper p')
    (hwaits : ∀ t x, Waits p' t x ↔ Waits p t x) : Inv (s.put i p') :=
  hs.put hp hp' (Nat.le_refl _)
    (fun t x hx => ⟨Or.inl ⟨t, (hwaits t x).mp hx⟩, hs.made i p hp t x ((hwaits t x).mp hx),
      hs.unfired i p hp t x ((hwaits t x).mp hx)⟩)
    hs.fired hs.once fun _ => Or.inl

/-- A child. -/
lemma Inv.born (hs : Inv s) (hp : s.procs[i]? = some p) {use : UseHub Hub} {t : ℕ}
    (hguarded : ∀ h x, p.host.hub t = some h → waiting h x = true →
      p.forkhookInstalled = true ∧ ¬ use.Leaves h x) :
    Inv { s with procs := s.procs ++ [child use t p] } := by
  have hproper := hs.proper i p hp
  have hnone (u x : ℕ) : ¬ Waits (child use t p) u x := by
    rw [waits_child hproper]
    rintro ⟨-, h, hhub, hx, hnot⟩
    exact hnot (hguarded h x hhub hx)
  have hcases {j : ℕ} {q : Proc Hub} (hq : (s.procs ++ [child use t p])[j]? = some q) :
      s.procs[j]? = some q ∨ q = child use t p :=
    (of_getElem?_append hq).imp_right And.right
  refine ⟨fun j q hq => ?_, ?_, fun j q hq u x hx => ?_, hs.fired, fun j q hq u x hx => ?_, hs.once⟩
  · rcases hcases hq with hq | rfl
    · exact hs.proper j q hq
    · exact proper_child hproper use t
  · intro j k q q' u v x hq hq' hx hx'
    rcases hcases hq with hq | rfl <;> rcases hcases hq' with hq' | rfl
    · exact hs.apart j k q q' u v x hq hq' hx hx'
    · exact absurd hx' (hnone v x)
    · exact absurd hx (hnone u x)
    · exact absurd hx (hnone u x)
  · rcases hcases hq with hq | rfl
    · exact hs.made j q hq u x hx
    · exact absurd hx (hnone u x)
  · rcases hcases hq with hq | rfl
    · exact hs.unfired j q hq u x hx
    · exact absurd hx (hnone u x)

/-- The hub a thread starts others from. -/
lemma waiting_hub {t x : ℕ} : waiting ((p.host.hub t).getD new) x = true ↔ Waits p t x := by
  unfold Waits
  cases p.host.hub t with
  | none => simp [waiting_new]
  | some h => simp

/-- A thread to start. -/
lemma Inv.started (hs : Inv s) (hp : s.procs[i]? = some p) (himported : p.host.imported = true)
    (t : ℕ) :
    Inv { s.put i (setHub t (some (schedule ((p.host.hub t).getD new) s.made)) p) with
      made := s.made + 1 } := by
  have hproper := hs.proper i p hp
  have hold (u x : ℕ) (h : Waits p u x) : x ≠ s.made := Nat.ne_of_lt (hs.made i p hp u x h)
  have hmem (x : ℕ) (hx : waiting (schedule ((p.host.hub t).getD new) s.made) x = true) :
      Waits p t x ∨ x = s.made :=
    ((waiting_schedule _ _ _).mp hx).imp_left waiting_hub.mp
  have hproper' : Proper (setHub t (some (schedule ((p.host.hub t).getD new) s.made)) p) := by
    refine proper_setHub hproper himported ?_
    rintro h u x ⟨⟩ hx hu
    rcases hmem x hx with ht | rfl
    · exact hproper.thread u t x hu ht
    · exact absurd rfl (hold u _ hu)
  refine hs.put hp hproper' (Nat.le_succ _) ?_ (fun x hx => Nat.lt_succ_of_lt (hs.fired x hx))
    hs.once fun _ => Or.inl
  intro u x hx
  have hcases : (∃ v, Waits p v x) ∨ x = s.made := by
    rw [waits_setHub] at hx
    split at hx
    · obtain ⟨h, ⟨⟩, hx⟩ := hx
      exact (hmem x hx).imp_left fun h => ⟨t, h⟩
    · exact Or.inl ⟨u, hx⟩
  refine ⟨hcases, ?_, ?_⟩
  · rcases hcases with ⟨v, hv⟩ | rfl
    · exact Nat.lt_succ_of_lt (hs.made i p hp v x hv)
    · exact Nat.lt_succ_self _
  · rcases hcases with ⟨v, hv⟩ | rfl
    · exact hs.unfired i p hp v x hv
    · exact fun hmem => Nat.lt_irrefl _ (hs.fired _ hmem)

/-- A timer that fires. -/
lemma Inv.fires (hs : Inv s) (hp : s.procs[i]? = some p) {t x : ℕ} {h : Hub}
    (hhub : p.host.hub t = some h) (hx : waiting h x = true) :
    Inv { s.put i (setHub t (some (fire h x)) p) with fired := s.fired ++ [x] } := by
  have hproper := hs.proper i p hp
  have hwaits : Waits p t x := ⟨h, hhub, hx⟩
  have hleft (y : ℕ) (hy : waiting (fire h x) y = true) : Waits p t y ∧ y ≠ x :=
    ⟨⟨h, hhub, (waiting_fire h x y hy).1⟩, (waiting_fire h x y hy).2⟩
  have hproper' : Proper (setHub t (some (fire h x)) p) := by
    refine proper_setHub hproper (hproper.imported t h hhub) ?_
    rintro h' u y ⟨⟩ hy hu
    exact hproper.thread u t y hu (hleft y hy).1
  refine hs.put hp hproper' (Nat.le_refl _) ?_ ?_ ?_ ?_
  · intro u y hy
    have hold : Waits p u y ∧ y ≠ x := by
      rw [waits_setHub] at hy
      split at hy
      case isTrue hu =>
        obtain ⟨h', ⟨⟩, hy⟩ := hy
        exact hu ▸ hleft y hy
      case isFalse hu =>
        refine ⟨hy, ?_⟩
        rintro rfl
        exact hu (hproper.thread u t y hy hwaits)
    refine ⟨Or.inl ⟨u, hold.1⟩, hs.made i p hp u y hold.1, fun hmem => ?_⟩
    rcases List.mem_append.mp hmem with hmem | hmem
    · exact hs.unfired i p hp u y hold.1 hmem
    · exact hold.2 (List.mem_singleton.mp hmem)
  · intro y hy
    rcases List.mem_append.mp hy with hy | hy
    · exact hs.fired y hy
    · rw [List.mem_singleton.mp hy]
      exact hs.made i p hp t x hwaits
  · refine List.nodup_append.mpr ⟨hs.once, List.nodup_singleton _, ?_⟩
    intro y hy z hz
    rw [List.mem_singleton.mp hz]
    rintro rfl
    exact hs.unfired i p hp t _ hwaits hy
  · intro y hy
    rcases List.mem_append.mp hy with hy | hy
    · exact Or.inl hy
    · rw [List.mem_singleton.mp hy]
      exact Or.inr ⟨t, hwaits⟩

end

/-! ### Runs -/

variable (rt : Runtime (Hubs Hub))

lemma inv_step (s : Sys Hub) (e : Event Hub) (hs : Inv s) (hok : Guarded s e) :
    Inv (step rt s e) := by
  unfold step
  cases hp : s.procs[e.process]? with
  | none => exact hs
  | some p =>
    have hproper := hs.proper _ p hp
    cases e with
    | importHubs i => exact hs.same hp (proper_importHubs hproper) fun _ _ => waits_importHubs
    | register i =>
      exact hs.same hp (proper_registered rt p hproper) fun _ _ => waits_registered rt p
    | start i t =>
      simp only [stepIn]
      split
      case isTrue himported => exact hs.started hp himported t
      case isFalse => exact hs
    | fire i t x =>
      simp only [stepIn]
      cases hhub : p.host.hub t with
      | none => exact hs
      | some h =>
        dsimp only
        split
        case isTrue hx => exact hs.fires hp hhub hx
        case isFalse => exact hs
    | fork i t use => exact hs.born hp fun h x => hok p h x hp

/-- Only a fork puts a timer into two processes, and only where it is not guarded. -/
lemma guarded_iff (s : Sys Hub) (e : Event Hub) (hs : Inv s) :
    Guarded s e ↔ Apart (step rt s e) := by
  refine ⟨fun hok => (inv_step rt s e hs hok).apart, fun hapart => ?_⟩
  cases e with
  | fork i t use =>
    intro p h x hp hhub hx
    by_contra hnot
    have hi := (List.getElem?_eq_some_iff.mp hp).1
    have hchild : Waits (child use t p) t x :=
      (waits_child (hs.proper i p hp)).mpr ⟨rfl, h, hhub, hx, hnot⟩
    have hstep : step rt s (.fork i t use) =
        { s with procs := s.procs ++ [child use t p] } := by
      unfold step
      simp only [Event.process, hp, stepIn]
    rw [hstep] at hapart
    have hsame := hapart i s.procs.length p _ t t x (getElem?_append_of_some hp _)
      List.getElem?_concat_length ⟨h, hhub, hx⟩ hchild
    omega
  | _ => trivial

/-- **Forks.** Over a run in which processes import eventlet, register the handler, start threads,
fire timers and fork, in any order: no timer is ever waiting in two processes exactly when every
fork with timers waiting is guarded, as it is if `use_hub` returns; then no timer fires twice, in
one process or in two. -/
theorem apart_iff_guarded (environ : String → Option String) (es : List (Event Hub)) :
    ((∀ pre post, es = pre ++ post → Apart (run (step rt) (first environ) pre)) ↔
      Legal Guarded (step rt) (first environ) es) ∧
    (Legal Returned (step rt) (first environ) es → Legal Guarded (step rt) (first environ) es) ∧
    (Legal Guarded (step rt) (first environ) es →
      (run (step rt) (first environ) es).fired.Nodup ∧
        (run (step rt) (first environ) es).All fun p => p.forkhooks ≤ 1) := by
  refine ⟨?_, Legal.imp guarded_of_returned, fun hl => ?_⟩
  · rw [always_iff]
    have hlegal := legal_iff (guarded_iff rt) (inv_step rt) (inv_first environ) es
    rw [hlegal]
    exact ⟨And.right, fun h => ⟨(inv_first environ).apart, h⟩⟩
  · have hinv := inv_of_legal (inv_step rt) (inv_first environ) hl
    refine ⟨hinv.once, fun i p hp => ?_⟩
    have hhooks := (hinv.proper i p hp).hooks
    split at hhooks <;> omega

end

/-- A hub as the list of its timers. -/
instance : HubApi (List ℕ) where
  waiting h x := h.contains x
  new := []
  schedule h x := h ++ [x]
  fire h x := h.filter (· ≠ x)
  waiting_new _ := rfl
  waiting_schedule h x y := by simp
  waiting_fire h x y hy := by simpa using hy

/-- The old hub goes, and a new one comes when it is needed. -/
def dropped : UseHub (List ℕ) where
  call _ := (.ok (), none)
  old _ _ _ h := absurd h nofun
  gone _ _ _ _ h := absurd h nofun

/-- Nothing outside does anything. -/
def quiet : Runtime (Hubs (List ℕ)) where
  importModule _ := pure ⟨⟩
  isImportError _ := false
  monkeyPatch := pure ⟨⟩
  warn := pure ⟨⟩
  hasRegisterAtFork := true
  original := pure none
  getattr _ _ := .ok 0

/-- A server that forks a worker while a thread of its own waits to start. -/
def prefork (registers : Bool) : List (Event (List ℕ)) :=
  [.importHubs 0] ++ (if registers then [.register 0] else []) ++
    [.start 0 0, .fork 0 0 dropped, .fire 0 0 0, .start 1 0, .fire 1 0 1]

theorem apart_iff_guarded_prefork :
    (run (step quiet) (first fun _ => none) (prefork true)).fired.Nodup ∧
      ¬ Legal Guarded (step quiet) (first fun _ => none) (prefork false) := by
  obtain ⟨-, hguarded, honce⟩ := apart_iff_guarded quiet (fun _ => none) (prefork true)
  have hreturned : Legal Returned (step quiet) (first fun _ => none) (prefork true) := by
    refine ⟨trivial, trivial, trivial, ?_, trivial, trivial, trivial, trivial⟩
    rintro p h x hp - -
    obtain rfl := Option.some.inj hp
    exact ⟨rfl, rfl⟩
  refine ⟨(honce (hguarded hreturned)).1, ?_⟩
  rintro ⟨-, -, hfork, -⟩
  exact absurd (hfork _ [0] 0 rfl rfl rfl).1 Bool.false_ne_true

end OtelOpenstack.Forks
