import OtelOpenstack.LogHooks
import OtelOpenstack.ServiceHooks

/-!
What uninstrumenting undoes, among other packages that change the same hooks.

An entry point loses its outermost proxy, and the record factory becomes the one that was found;
either takes away the package's own layer only if nobody has put one on since.
-/

set_option autoImplicit false

namespace OtelOpenstack.Undoing

open Effects Hooks Python Runs LogHooks

/-! ### The record factory -/

/-- While oslo.log is instrumented, what it found is what is below the last layer it put on. -/
def Layered (s : Instrumented Process) : Prop :=
  s.on = true → ∃ above n found, s.process.factory = above ++ .own n :: found ∧
    s.process.oldFactory = some found ∧ ∀ l ∈ above, l.isOwn = false

/-- Uninstrumenting takes the package's own layers off the record factory, and no others. -/
def UndoesOwn (s : Instrumented Process) : Prop :=
  (step s .uninstrument).process.factory = others Layer.isOwn s.process.factory

/-- A layer of the package is the outermost, and its only one. -/
def OwnOutermost (s : Instrumented Process) : Prop :=
  ∃ n found, s.process.factory = .own n :: found ∧ ∀ l ∈ found, l.isOwn = false

lemma undoesOwn_iff {s : Instrumented Process} (h : Layered s) (hon : s.on = true) :
    UndoesOwn s ↔ OwnOutermost s := by
  obtain ⟨above, n, found, hfactory, hold, habove⟩ := h hon
  have hafter : (step s .uninstrument).process.factory = found := by
    rw [step_uninstrument s hon]
    unfold detachHandler
    split <;> simp [unwrapSetup, putFactoryBack, hold]
  unfold UndoesOwn OwnOutermost
  rw [hafter, hfactory]
  constructor
  · intro hfound
    have hnone : ∀ l ∈ found, l.isOwn = false := by
      intro l hl
      rw [hfound] at hl
      simpa [others] using (List.mem_filter.mp hl).2
    have hempty := (found_eq_others_iff (l := .own n) rfl habove hnone).mp hfound
    subst hempty
    exact ⟨n, found, rfl, hnone⟩
  · rintro ⟨m, rest, hrest, hnone⟩
    cases above with
    | nil =>
      simp only [List.nil_append, List.cons.injEq] at hrest
      obtain ⟨-, rfl⟩ := hrest
      exact (found_eq_others_iff (l := .own n) rfl habove hnone).mpr rfl
    | cons l above =>
      simp only [List.cons_append, List.cons.injEq] at hrest
      obtain ⟨rfl, -⟩ := hrest
      have howned : true = false := habove _ (List.mem_cons_self ..)
      exact absurd howned (by decide)

lemma factory_steps (setLoggingFormat : Bool) (p : Process) :
    ∃ n, (changes (steps setLoggingFormat) p).factory = .own n :: p.factory ∧
      (changes (steps setLoggingFormat) p).oldFactory = some p.factory := by
  have hattach : ∀ p : Process, (attachHandler p).oldFactory = p.oldFactory := by
    intro p
    unfold attachHandler
    split
    · rfl
    · split <;> rfl
  rw [changes_steps]
  cases setLoggingFormat with
  | false => exact ⟨p.made, factory_attachHandler _, hattach _⟩
  | true =>
    have hfound := factory_basicConfig p
    refine ⟨(basicConfig p).made, (factory_attachHandler _).trans ?_, (hattach _).trans ?_⟩
    · exact congrArg₂ List.cons rfl hfound
    · exact congrArg some hfound

lemma factory_guardedSetup (n : ℕ) (added : List ℕ) (outcome : Except Exn Val) (p : Process) :
    (guardedSetup n (setup added outcome) p).2.factory = p.factory ∧
      (guardedSetup n (setup added outcome) p).2.oldFactory = p.oldFactory := by
  cases outcome with
  | error e =>
    rw [guardedSetup_of_error]
    exact ⟨rfl, rfl⟩
  | ok v =>
    cases n with
    | zero => exact ⟨rfl, rfl⟩
    | succ n =>
      rw [guardedSetup_of_ok, attachHandler_rebuild]
      exact ⟨rfl, rfl⟩

lemma layered_step (s : Instrumented Process) (e : Event) (h : Layered s) :
    Layered (step s e) := by
  cases e with
  | instrument fails setLoggingFormat =>
    rcases hon : s.on with _ | _
    · rcases step_instrument s hon fails setLoggingFormat with
        ⟨-, hstep⟩ | ⟨done, q, rest, -, -, hstep⟩
      · obtain ⟨n, hfactory, hold⟩ := factory_steps setLoggingFormat s.process
        rw [hstep]
        exact fun _ => ⟨[], n, s.process.factory, hfactory, hold, nofun⟩
      · rw [hstep]
        nofun
    · rw [step_instrument_of_on s hon]
      exact h
  | uninstrument =>
    rcases hon : s.on with _ | _
    · rw [step_uninstrument_of_off s hon]
      exact h
    · rw [step_uninstrument s hon]
      nofun
  | setup via added outcome =>
    intro hon
    obtain ⟨above, n, found, hfactory, hold, habove⟩ := h hon
    obtain ⟨hsame, hsameOld⟩ :=
      factory_guardedSetup (guardsOn s.process via) added outcome s.process
    exact ⟨above, n, found, hsame.trans hfactory, hsameOld.trans hold, habove⟩
  | factoryOn id =>
    intro hon
    obtain ⟨above, n, found, hfactory, hold, habove⟩ := h hon
    refine ⟨.other id :: above, n, found, ?_, hold, List.forall_mem_cons.mpr ⟨rfl, habove⟩⟩
    simp [step, hfactory]
  | factoryOff id =>
    intro hon
    obtain ⟨above, n, found, hfactory, hold, habove⟩ := h hon
    refine ⟨without id above, n, without id found, ?_, ?_, fun l hl => ?_⟩
    · simp [step, hfactory, without]
    · simp [step, hold]
    · exact habove l (List.mem_of_mem_filter hl)

lemma layered_run (hosts layers : List ℕ) (es : List Event) :
    Layered (run step (start hosts layers) es) := by
  have hstart : Layered (start hosts layers) := nofun
  exact inv_of_run layered_step hstart es

/-! ### The theorem -/

end OtelOpenstack.Undoing
