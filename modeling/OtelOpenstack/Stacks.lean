import OtelOpenstack.Runs
import OtelOpenstack.Scopes

/-!
One execution unit inside of scopes, one called from inside the next.

Of every span its start is written down, with the span that was current. Whatever the unit
enters and leaves, every span is either that of a scope it is inside of or has ended once, and
leaving the scopes one after the other leads back through the contexts they were entered in.
-/

set_option autoImplicit false

namespace OtelOpenstack.Stacks

open Effects Python Otel ContextApi Carriers Openings Scopes

/-! ### Starts -/

structure Start where
  span : SpanContext
  parent : SpanContext
  kind : SpanKind
  deriving DecidableEq

def startOf : Call → Option Start
  | .start span parent _ kind _ => some ⟨span, parent, kind⟩
  | _ => none

def starts (calls : List Call) : List Start := calls.filterMap startOf

lemma starts_append (cs ds : List Call) : starts (cs ++ ds) = starts cs ++ starts ds :=
  List.filterMap_append

lemma starts_span (calls : List Call) : (starts calls).map Start.span = startedSpans calls := by
  have hspan : ∀ c : Call, (startOf c).map Start.span = c.started := by
    intro c
    cases c <;> rfl
  unfold starts startedSpans
  rw [List.map_filterMap]
  congr 1
  funext c
  exact hspan c

lemma starts_eq_nil {calls : List Call} (h : startedSpans calls = []) : starts calls = [] := by
  rw [← starts_span] at h
  exact List.map_eq_nil_iff.mp h

/-! ### The unit -/

/-- A span that was started, for `tag`, where the span `current` was. -/
structure Op (δ : Type) where
  tag : δ
  current : SpanContext
  start : Start

/-- A scope the unit is inside of: its span, the context it was entered in, and what the
callable was given. -/
structure Frame (Ctx H α ε : Type) where
  start : Start
  before : Ctx
  exit : Except Exn α → Code Ctx H α
  given : ε

/-- The innermost scope is the first of the frames. -/
structure Stack (Ctx H α δ ε : Type) where
  world : World Ctx H
  ops : List (Op δ)
  frames : List (Frame Ctx H α ε)

section

variable {Ctx H α δ ε ι : Type}

def Stack.init (home : Ctx) (host : H) : Stack Ctx H α δ ε := ⟨⟨home, [], [], host⟩, [], []⟩

/-- The spans started on the way from `w` to `v`. -/
def newStarts (w v : World Ctx H) : List Start := starts (v.calls.drop w.calls.length)

variable [ContextApi Ctx]

def Stack.current (s : Stack Ctx H α δ ε) : SpanContext := spanIn s.world.current

/-- The operations logged on the way to `v`. -/
def Stack.logged (s : Stack Ctx H α δ ε) (tag : δ) (v : World Ctx H) : List (Op δ) :=
  s.ops ++ (newStarts s.world v).map fun start => ⟨tag, s.current, start⟩

/-- Into a wrapper, up to the call of the callable; a wrapper that starts no span has the
invalid one. -/
def Stack.enter (s : Stack Ctx H α δ ε) (tag : δ) (given : ι → ε) (m : Wrapping Ctx H ι α) :
    Stack Ctx H α δ ε :=
  match m.enter s.world with
  | (.error _, v) => ⟨v, s.logged tag v, s.frames⟩
  | (.ok o, v) =>
    let start := (newStarts s.world v).headD ⟨invalidSpan, invalidSpan, .internal⟩
    ⟨v, s.logged tag v, ⟨start, s.world.current, o.exit, given o.input⟩ :: s.frames⟩

/-- Out of the innermost scope, its callable having come out with `r`. -/
def Stack.leave (s : Stack Ctx H α δ ε) (r : Except Exn α) : Stack Ctx H α δ ε :=
  match s.frames with
  | [] => s
  | f :: fs => ⟨(f.exit r s.world).2, s.ops, fs⟩

def Stack.store (s : Stack Ctx H α δ ε) (dicts : List Dict) (host : H) : Stack Ctx H α δ ε :=
  { s with world := { s.world with dicts, host } }

/-! ### Entering -/

/-- A scope was entered, or it raised, and whatever it began it has ended. -/
inductive Entered (s : Stack Ctx H α δ ε) (tag : δ) (given : ι → ε) (kind : SpanKind)
    (parent : SpanContext) (Q : SpanContext → ι → World Ctx H → Prop) (s' : Stack Ctx H α δ ε) :
    Prop
  | into (exit : Except Exn α → Code Ctx H α) (input : ι)
      (opened : Opened kind parent s.world s'.world)
      (ends : Ends (newSpan s.world.calls parent) s.world.current exit)
      (current : s'.world.current = setSpan (newSpan s.world.calls parent) s.world.current)
      (dicts : s.world.dicts <+: s'.world.dicts)
      (ops : s'.ops = s.ops ++
        [⟨tag, s.current, ⟨newSpan s.world.calls parent, parent, kind⟩⟩])
      (frames : s'.frames = ⟨⟨newSpan s.world.calls parent, parent, kind⟩, s.world.current, exit,
        given input⟩ :: s.frames)
      (handed : Q (newSpan s.world.calls parent) input s'.world)
  | raised (current : s'.world.current = s.world.current)
      (dicts : s.world.dicts <+: s'.world.dicts) (frames : s'.frames = s.frames)
      (nothing : s'.world.calls = s.world.calls) (ops : s'.ops = s.ops)
  | undone (current : s'.world.current = s.world.current)
      (dicts : s.world.dicts <+: s'.world.dicts) (frames : s'.frames = s.frames)
      (attempted : Attempted kind parent s.world s'.world)
      (ops : s'.ops = s.ops ++
        [⟨tag, s.current, ⟨newSpan s.world.calls parent, parent, kind⟩⟩])

omit [ContextApi Ctx] in
/-- The one span that was started. -/
lemma newStarts_of_start {w v : World Ctx H} {parent : SpanContext} {name : String}
    {kind : SpanKind} {attributes : Dict} {cs : List Call} (hcs : startedSpans cs = [])
    (h : v.calls = w.calls ++ .start (newSpan w.calls parent) parent name kind attributes :: cs) :
    newStarts w v = [⟨newSpan w.calls parent, parent, kind⟩] := by
  unfold newStarts
  rw [h, List.drop_left]
  have hrest := starts_eq_nil hcs
  unfold starts at hrest ⊢
  rw [List.filterMap_cons, hrest]
  rfl

lemma entered_of_scoped {s : Stack Ctx H α δ ε} (tag : δ) (given : ι → ε) {kind : SpanKind}
    {parent : SpanContext} {Q : SpanContext → ι → World Ctx H → Prop} {m : Wrapping Ctx H ι α}
    (h : Scoped kind parent Q s.world (m.enter s.world)) :
    Entered s tag given kind parent Q (s.enter tag given m) := by
  unfold Stack.enter
  rcases hrun : m.enter s.world with ⟨e | o, v⟩ <;> rw [hrun] at h
  · obtain ⟨hcurrent, hdicts, hcalls | hattempted⟩ := h
    · have hnone : newStarts s.world v = [] := by
        unfold newStarts
        rw [hcalls, List.drop_length]
        rfl
      refine .raised hcurrent hdicts rfl hcalls ?_
      simp [Stack.logged, hnone]
    · obtain ⟨name, attributes, cs, hcs, -, hcalls⟩ := id hattempted
      refine .undone hcurrent hdicts rfl hattempted ?_
      simp [Stack.logged, newStarts_of_start hcs hcalls]
  · obtain ⟨hopened, hdicts, hcurrent, hends, hhanded⟩ := h
    obtain ⟨name, attributes, cs, hcs, hcalls⟩ := id hopened
    have hnew := newStarts_of_start hcs.1 hcalls
    refine .into o.exit o.input hopened hends hcurrent hdicts ?_ ?_ hhanded
    · simp [Stack.logged, hnew]
    · simp [hnew]

omit [ContextApi Ctx] in
/-- A way in that returns is a scope more. -/
lemma frames_of_ok [ContextApi Ctx] {s : Stack Ctx H α δ ε} (tag : δ) (given : ι → ε)
    {m : Wrapping Ctx H ι α} (h : ∃ o v, m.enter s.world = (.ok o, v)) :
    ∃ f, (s.enter tag given m).frames = f :: s.frames := by
  obtain ⟨o, v, hrun⟩ := h
  unfold Stack.enter
  rw [hrun]
  exact ⟨_, rfl⟩

/-! ### Balance -/

/-- Leaving the frames one after the other leads through the contexts they were entered in to
the context `home`. -/
def Nested (home : Ctx) : Ctx → List (Frame Ctx H α ε) → Prop
  | c, [] => c = home
  | c, f :: fs => c = setSpan f.start.span f.before ∧ Ends f.start.span f.before f.exit ∧
    f.start.span.isValid = true ∧ Nested home f.before fs

/-- Every span that was started is either that of a frame or has ended once. -/
structure Balanced (home : Ctx) (s : Stack Ctx H α δ ε) : Prop where
  numbered : Numbered s.world.calls
  distinct : (startedSpans s.world.calls).Nodup
  balance : (finishedSpans s.world.calls ++ s.frames.map fun f => f.start.span).Perm
    (startedSpans s.world.calls)
  logged : s.ops.map Op.start = starts s.world.calls
  nested : Nested home s.world.current s.frames

lemma balanced_init (home : Ctx) (host : H) :
    Balanced home (Stack.init home host : Stack Ctx H α δ ε) :=
  ⟨numbered_nil, List.nodup_nil, List.Perm.refl _, rfl, rfl⟩

variable {home : Ctx} {s : Stack Ctx H α δ ε}

/-- One more span, that has not ended. -/
lemma Balanced.numbered_start (h : Balanced home s) {v : World Ctx H} {parent : SpanContext}
    {name : String} {kind : SpanKind} {attributes : Dict} {cs : List Call}
    (hcs : startedSpans cs = [])
    (hcalls : v.calls = s.world.calls ++
      .start (newSpan s.world.calls parent) parent name kind attributes :: cs) :
    Numbered v.calls ∧ (startedSpans v.calls).Nodup ∧
      startedSpans v.calls = startedSpans s.world.calls ++ [newSpan s.world.calls parent] ∧
      starts v.calls = starts s.world.calls ++ [⟨newSpan s.world.calls parent, parent, kind⟩] := by
  have hsplit : v.calls = (s.world.calls ++
      [.start (newSpan s.world.calls parent) parent name kind attributes]) ++ cs := by
    rw [hcalls, List.append_assoc, List.singleton_append]
  have hstarted : startedSpans v.calls =
      startedSpans s.world.calls ++ [newSpan s.world.calls parent] := by
    rw [hsplit, startedSpans_append, startedSpans_append, hcs, List.append_nil]
    rfl
  have hstarts : starts v.calls =
      starts s.world.calls ++ [⟨newSpan s.world.calls parent, parent, kind⟩] := by
    rw [hsplit, starts_append, starts_append, starts_eq_nil hcs, List.append_nil]
    rfl
  refine ⟨?_, ?_, hstarted, hstarts⟩
  · rw [hsplit]
    exact (h.numbered.start parent parent name kind attributes).append hcs
  · rw [hstarted]
    refine List.Nodup.append h.distinct (List.nodup_singleton _) ?_
    intro span hspan hnew
    obtain rfl := List.mem_singleton.mp hnew
    exact newSpan_fresh h.numbered parent hspan

/-- **Entering.** -/
lemma Balanced.enter {tag : δ} {given : ι → ε} {kind : SpanKind} {parent : SpanContext}
    {Q : SpanContext → ι → World Ctx H → Prop} {s' : Stack Ctx H α δ ε} (h : Balanced home s)
    (he : Entered s tag given kind parent Q s') : Balanced home s' := by
  cases he with
  | into exit input opened ends current dicts ops frames handed =>
    obtain ⟨name, attributes, cs, hcs, hcalls⟩ := opened
    obtain ⟨hnumbered, hdistinct, hstarted, hstarts⟩ := h.numbered_start hcs.1 hcalls
    have hfinished : finishedSpans s'.world.calls = finishedSpans s.world.calls := by
      have hquiet : finishedSpans (.start (newSpan s.world.calls parent) parent name kind
          attributes :: cs) = [] := hcs.2
      rw [hcalls, finishedSpans_append, hquiet, List.append_nil]
    refine ⟨hnumbered, hdistinct, ?_, ?_, ?_⟩
    · rw [hfinished, hstarted, frames, List.map_cons]
      have hbalance := h.balance.append_right [newSpan s.world.calls parent]
      refine List.Perm.trans ?_ hbalance
      rw [List.append_assoc]
      exact List.Perm.append_left _ (List.perm_append_singleton _ _).symm
    · rw [ops, List.map_append, h.logged, hstarts]
      rfl
    · rw [frames, current]
      exact ⟨rfl, ends, newSpan_valid _ _, h.nested⟩
  | raised current dicts frames nothing ops =>
    refine ⟨?_, ?_, ?_, ?_, ?_⟩
    · rw [nothing]
      exact h.numbered
    · rw [nothing]
      exact h.distinct
    · rw [nothing, frames]
      exact h.balance
    · rw [nothing, ops]
      exact h.logged
    · rw [current, frames]
      exact h.nested
  | undone current dicts frames attempted ops =>
    obtain ⟨name, attributes, cs, hcs, hended, hcalls⟩ := attempted
    obtain ⟨hnumbered, hdistinct, hstarted, hstarts⟩ := h.numbered_start hcs hcalls
    have hfinished : finishedSpans s'.world.calls =
        finishedSpans s.world.calls ++ [newSpan s.world.calls parent] := by
      have hcs' : finishedSpans (.start (newSpan s.world.calls parent) parent name kind
          attributes :: cs) = [newSpan s.world.calls parent] := hended
      rw [hcalls, finishedSpans_append, hcs']
    refine ⟨hnumbered, hdistinct, ?_, ?_, ?_⟩
    · rw [hfinished, hstarted, frames, List.append_assoc]
      have hbalance := h.balance.append_right [newSpan s.world.calls parent]
      rw [List.append_assoc] at hbalance
      exact (List.Perm.append_left _ List.perm_append_comm).trans hbalance
    · rw [ops, List.map_append, h.logged, hstarts]
      rfl
    · rw [current, frames]
      exact h.nested

/-- **Leaving.** -/
lemma Balanced.leave (h : Balanced home s) (r : Except Exn α) : Balanced home (s.leave r) := by
  unfold Stack.leave
  cases hframes : s.frames with
  | nil => exact h
  | cons f fs =>
    have hnested := h.nested
    rw [hframes] at hnested
    obtain ⟨-, hends, -, hrest⟩ := hnested
    obtain ⟨hcurrent, -, cs, hcs, hended, hcalls⟩ := hends r s.world
    have hstarted : startedSpans (f.exit r s.world).2.calls = startedSpans s.world.calls := by
      rw [hcalls, startedSpans_append, hcs, List.append_nil]
    refine ⟨?_, ?_, ?_, ?_, ?_⟩
    · change Numbered (f.exit r s.world).2.calls
      rw [hcalls]
      exact h.numbered.append hcs
    · change (startedSpans (f.exit r s.world).2.calls).Nodup
      rw [hstarted]
      exact h.distinct
    · have hbalance := h.balance
      rw [hframes, List.map_cons] at hbalance
      change (finishedSpans (f.exit r s.world).2.calls ++ _).Perm
        (startedSpans (f.exit r s.world).2.calls)
      rw [hstarted, hcalls, finishedSpans_append, hended, List.append_assoc]
      exact hbalance
    · change s.ops.map Op.start = starts (f.exit r s.world).2.calls
      rw [hcalls, starts_append, starts_eq_nil hcs, List.append_nil]
      exact h.logged
    · change Nested home (f.exit r s.world).2.current fs
      rw [hcurrent]
      exact hrest

lemma Balanced.store (h : Balanced home s) (dicts : List Dict) (host : H) :
    Balanced home (s.store dicts host) :=
  ⟨h.numbered, h.distinct, h.balance, h.logged, h.nested⟩

/-! ### What balance says -/

/-- A span has ended once, unless a frame has it. -/
lemma Balanced.count_finished (h : Balanced home s) {span : SpanContext}
    (hspan : span ∈ startedSpans s.world.calls) :
    (finishedSpans s.world.calls).count span =
      if span ∈ s.frames.map fun f => f.start.span then 0 else 1 := by
  have hcount := h.balance.count_eq span
  have hone := List.count_eq_one_of_mem h.distinct hspan
  have hdistinct : (s.frames.map fun f => f.start.span).Nodup :=
    ((h.balance.nodup_iff.mpr h.distinct).of_append_right)
  rw [List.count_append, hone] at hcount
  by_cases hmem : span ∈ s.frames.map fun f => f.start.span
  · have hopen := List.count_eq_one_of_mem hdistinct hmem
    rw [if_pos hmem]
    omega
  · have hopen := List.count_eq_zero_of_not_mem hmem
    rw [if_neg hmem]
    omega

/-- The span of the innermost scope has ended once when it is left. -/
lemma Balanced.leave_ended (h : Balanced home s) {f : Frame Ctx H α ε}
    {fs : List (Frame Ctx H α ε)} (hframes : s.frames = f :: fs) (r : Except Exn α) :
    (finishedSpans (s.leave r).world.calls).count f.start.span = 1 := by
  have hmem : f.start.span ∈ s.frames.map fun f => f.start.span := by
    rw [hframes]
    exact List.mem_cons_self ..
  have hstarted : f.start.span ∈ startedSpans s.world.calls :=
    h.balance.subset (List.mem_append_right _ hmem)
  have hopen := h.count_finished hstarted
  rw [if_pos hmem] at hopen
  have hnested := h.nested
  rw [hframes] at hnested
  obtain ⟨-, -, cs, -, hended, hcalls⟩ := hnested.2.1 r s.world
  unfold Stack.leave
  rw [hframes]
  change (finishedSpans (f.exit r s.world).2.calls).count f.start.span = 1
  rw [hcalls, finishedSpans_append, List.count_append, hopen, hended]
  simp

/-- Inside of a scope a valid span is current. -/
lemma Balanced.current_valid (h : Balanced home s) (hframes : s.frames ≠ []) :
    s.current.isValid = true := by
  cases hs : s.frames with
  | nil => exact absurd hs hframes
  | cons f fs =>
    have hnested := h.nested
    rw [hs] at hnested
    rw [Stack.current, hnested.1, spanIn_setSpan]
    exact hnested.2.2.1

/-- Scopes do not suppress instrumentation. -/
lemma Nested.enabled {c : Ctx} {fs : List (Frame Ctx H α ε)} (h : Nested home c fs)
    (hhome : ContextApi.enabled home = true) : ContextApi.enabled c = true := by
  induction fs generalizing c with
  | nil =>
    obtain rfl : c = home := h
    exact hhome
  | cons f fs ih =>
    obtain ⟨rfl, -, -, hrest⟩ := h
    rw [enabled_setSpan]
    exact ih hrest

/-- The innermost scope is left into the context it was entered in. -/
lemma Balanced.leave_current (h : Balanced home s) {f : Frame Ctx H α ε}
    {fs : List (Frame Ctx H α ε)} (hframes : s.frames = f :: fs) (r : Except Exn α) :
    (s.leave r).world.current = f.before ∧ (s.leave r).frames = fs ∧
      s.world.dicts <+: (s.leave r).world.dicts := by
  have hnested := h.nested
  rw [hframes] at hnested
  obtain ⟨hcurrent, hdicts, -⟩ := hnested.2.1 r s.world
  unfold Stack.leave
  rw [hframes]
  exact ⟨hcurrent, rfl, hdicts⟩

end

end OtelOpenstack.Stacks
