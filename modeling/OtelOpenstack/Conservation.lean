import Mathlib.Data.List.Perm.Basic
import OtelOpenstack.Ledger
import OtelOpenstack.ListenerSteps
import OtelOpenstack.Runs

/-!
Span conservation in the listener, under any interleaving of receiver calls.

A receiver call is its lock section and what it still does after it. The listener's spans
are the tokens of a ledger: the flow field and the table of atom spans are its slots, a call
that has removed a span and not yet ended it has taken it.
-/

set_option autoImplicit false

namespace OtelOpenstack.Conservation

open Effects Python Otel ContextApi Listener ListenerSteps Ledger

/-! ### Receiver calls in two steps -/

/-- What a receiver call has still to do after its lock section. -/
inductive Pending
  | closeFlow (state : State) (span : SpanContext)
  | handOff (name : Val) (span : SpanContext)
  | closeAtom (span : SpanContext) (isFailure : Bool) (details : Details)

section

variable {Ctx : Type} [ContextApi Ctx] (F : Faults)

/-- A receiver up to the end of its lock section. -/
def lockSection : Notification → ListenerCode Ctx (Option Pending)
  | .flow state details =>
    if state = .running then do
      startFlow F details
      pure none
    else if (flowFinishStates state).isSome then do
      pure ((← takeFlow).map (.closeFlow state))
    else pure none
  | .atom kind state details =>
    let name := details.get s!"{kind.text}_name"
    let uuid := details.get s!"{kind.text}_uuid"
    match atomStartMethods state with
    | some method => do
      pure ((← openAtom F kind name uuid method).map (.handOff name))
    | none => match atomFinishMethods state with
      | some (method, isFailure) => do
        pure ((← popAtom uuid method).map fun span => .closeAtom span isFailure details)
      | none => pure none

def afterLock : Pending → ListenerCode Ctx Unit
  | .closeFlow state span => closeFlow F state span
  | .handOff name span => handOff F name span
  | .closeAtom span isFailure details => closeAtom F span isFailure details

/-- The two steps one after the other. -/
def inSections (n : Notification) : ListenerCode Ctx Unit := do
  match ← lockSection F n with
  | none => pure ()
  | some p => afterLock F p

end

section

variable {Ctx : Type} [ContextApi Ctx]

/-- What a lock section leaves to be done, and the world it leaves. -/
def locked : Meaning → TfWorld Ctx → Option Pending × TfWorld Ctx
  | .flowStart details, w =>
    (none, if w.host.listener.flowSpan.isSome then w else startedFlow details w)
  | .flowFinish state, w => (w.host.listener.flowSpan.map (.closeFlow state), tookFlow w)
  | .atomStart kind name uuid method, w =>
    match w.host.listener.atomSpans (uuid, method) with
    | some _ => (none, w)
    | none => (some (.handOff name (nextAtomSpan w)), openedAtom kind name uuid method w)
  | .atomFinish _ uuid method isFailure details, w =>
    ((w.host.listener.atomSpans (uuid, method)).map (.closeAtom · isFailure details),
      poppedAtom (uuid, method) w)
  | .other, w => (none, w)

lemma lockSection_apply (n : Notification) (w : TfWorld Ctx) :
    lockSection noFaults n w = (.ok (locked (meaning n) w).1, (locked (meaning n) w).2) := by
  rcases n with ⟨state, details⟩ | ⟨kind, state, details⟩
  · by_cases hr : state = .running
    · rcases h : w.host.listener.flowSpan with _ | span
      · simp [lockSection, hr, bind_of_ok (startFlow_idle details h), meaning, locked, h]
      · simp [lockSection, hr, bind_of_ok (startFlow_tracing details (w := w) (by simp [h])),
          meaning, locked, h]
    · by_cases hf : (flowFinishStates state).isSome
      · simp [lockSection, hr, hf, bind_of_ok (takeFlow_apply w), meaning, locked]
      · simp [lockSection, hr, hf, meaning, locked]
  · rcases hs : atomStartMethods state with _ | method
    · rcases hf : atomFinishMethods state with _ | ⟨method, isFailure⟩
      · simp [lockSection, hs, hf, meaning, locked]
      · simp [lockSection, hs, hf, bind_of_ok (popAtom_apply _ method w), meaning, locked]
    · simp only [lockSection, hs, meaning, locked]
      rcases h : w.host.listener.atomSpans (details.get s!"{kind.text}_uuid", method) with _ | _
      · rw [bind_of_ok (openAtom_free kind _ h)]
        rfl
      · rw [bind_of_ok (openAtom_open kind _ (by simp [h]))]
        rfl

lemma afterLock_ok (p : Pending) (w : TfWorld Ctx) :
    afterLock noFaults p w = (.ok (), (afterLock noFaults p w).2) := by
  cases p <;> simp [afterLock, closeFlow_apply, closeAtom_apply, handOff_apply]

/-- A notification's effect, in two parts. -/
lemma react_eq_locked (m : Meaning) (w : TfWorld Ctx) :
    react m w = match (locked m w).1 with
      | none => (locked m w).2
      | some p => (afterLock noFaults p (locked m w).2).2 := by
  rcases m with details | state | ⟨kind, name, uuid, method⟩ |
      ⟨kind, uuid, method, isFailure, details⟩ | _
  · rfl
  · simp only [react, finishedFlow, locked]
    rcases w.host.listener.flowSpan with _ | span
    · rfl
    · exact (congrArg Prod.snd (closeFlow_apply state span _)).symm
  · simp only [react, startedAtom, locked]
    rcases w.host.listener.atomSpans (uuid, method) with _ | span
    · exact (congrArg Prod.snd (handOff_apply name _ _)).symm
    · rfl
  · simp only [react, finishedAtom, locked]
    rcases h : w.host.listener.atomSpans (uuid, method) with _ | span
    · rw [poppedAtom_of_none h]
      rfl
    · exact (congrArg Prod.snd (closeAtom_apply span isFailure details _)).symm
  · rfl

/-- **The sections are the receiver**: run one right after the other they do what the whole
receiver does. -/
theorem receive_eq_inSections (n : Notification) (w : TfWorld Ctx) :
    receive noFaults n w = inSections noFaults n w := by
  rw [receive_apply, inSections, bind_of_ok (lockSection_apply n w), react_eq_locked]
  rcases (locked (meaning n) w).1 with _ | p
  · rfl
  · exact (afterLock_ok p _).symm

omit [ContextApi Ctx] in
/-- The calls a pending receiver call still makes. -/
def Pending.calls : Pending → List Call
  | .closeFlow state span => flowClosing state span
  | .handOff _ _ => []
  | .closeAtom span isFailure details => atomClosing span isFailure details.result

lemma afterLock_calls (p : Pending) (w : TfWorld Ctx) :
    (afterLock noFaults p w).2.calls = w.calls ++ p.calls := by
  cases p <;> simp [afterLock, closeFlow_apply, closeAtom_apply, handOff_apply, World.called,
    Pending.calls, handedOff]

/-! ### Concurrent receiver calls -/

structure Config (Ctx : Type) where
  world : TfWorld Ctx
  pending : List Pending

/-- A thread, in its own current context, takes a receiver through its lock section, or a
receiver call that is past it runs to its end. -/
inductive Event (Ctx : Type)
  | enter (current : Ctx) (n : Notification)
  | resume (current : Ctx) (i : ℕ)

omit [ContextApi Ctx] in
def Config.under (s : Config Ctx) (current : Ctx) : TfWorld Ctx :=
  { s.world with current := current }

def step (s : Config Ctx) : Event Ctx → Config Ctx
  | .enter current n =>
    match lockSection noFaults n (s.under current) with
    | (.ok p, v) => ⟨v, p.toList ++ s.pending⟩
    | (.error _, v) => ⟨v, s.pending⟩
  | .resume current i =>
    match s.pending[i]? with
    | none => s
    | some p => ⟨(afterLock noFaults p (s.under current)).2, s.pending.eraseIdx i⟩

omit [ContextApi Ctx] in
/-- A new listener; the engine's graph and the atoms' attributes are what they are. -/
def init (current : Ctx) (graph : List Node) (contextAttr : ℕ → Option Ctx) : Config Ctx :=
  ⟨⟨current, [], [], ⟨TraceListener.init, graph, contextAttr⟩⟩, []⟩

lemma step_enter (s : Config Ctx) (current : Ctx) (n : Notification) :
    step s (.enter current n) =
      ⟨(locked (meaning n) (s.under current)).2,
        (locked (meaning n) (s.under current)).1.toList ++ s.pending⟩ := by
  simp only [step, lockSection_apply]

/-! ### Where a span is -/

omit [ContextApi Ctx] in
/-- The span a pending call has removed from its slot and not yet ended. -/
def Pending.removed : Pending → Option SpanContext
  | .closeFlow _ span => some span
  | .handOff _ _ => none
  | .closeAtom span _ _ => some span

/-- The method an attribute value names. -/
def methodOf : Val → Method
  | .str "revert" => .revert
  | _ => .execute

/-- The slot a span was started for, as its attributes tell. -/
def slotOf : Dict → Slot
  | [_, (_, uuid), (_, method)] => .atom (uuid, methodOf method)
  | _ => .flow

omit [ContextApi Ctx] in
def openedFor : Call → Option (Slot × SpanContext)
  | .start span _ _ _ attributes => some (slotOf attributes, span)
  | _ => none

omit [ContextApi Ctx] in
def opened (calls : List Call) : List (Slot × SpanContext) := calls.filterMap openedFor

omit [ContextApi Ctx] in
/-- The listener's spans as a ledger. -/
def book (s : Config Ctx) : Book Slot SpanContext where
  issued := opened s.world.calls
  slots := slots s.world.host.listener
  taken := s.pending.filterMap Pending.removed
  retired := finishedSpans s.world.calls

omit [ContextApi Ctx] in
lemma opened_append (cs ds : List Call) : opened (cs ++ ds) = opened cs ++ opened ds := by
  simp [opened]

omit [ContextApi Ctx] in
lemma tokens_book (s : Config Ctx) : tokens (book s) = startedSpans s.world.calls := by
  have hstep : ∀ c : Call, (openedFor c).map Prod.snd = c.started := by
    rintro (_ | _ | _ | _ | _) <;> rfl
  simp only [tokens, book, opened, List.map_filterMap, startedSpans]
  congr 1
  funext c
  exact hstep c

/-! ### What a step does to the ledger -/

lemma book_startedFlow (w : TfWorld Ctx) (details : Details) (ps : List Pending) :
    book ⟨startedFlow details w, ps⟩ = issue .flow (nextFlowSpan w) (book ⟨w, ps⟩) := by
  simp [book, issue, startedFlow, withListener, World.called, opened, openedFor, slotOf,
    finishedSpans, Call.finished, flowAttributes, slots_update_flow]

lemma book_openedAtom (w : TfWorld Ctx) (kind : Kind) (name uuid : Val) (method : Method)
    (ps : List Pending) :
    book ⟨openedAtom kind name uuid method w, ps⟩ =
      issue (.atom (uuid, method)) (nextAtomSpan w) (book ⟨w, ps⟩) := by
  have hm : methodOf (.str method.text) = method := by cases method <;> rfl
  simp [book, issue, openedAtom, withListener, World.called, opened, openedFor, slotOf,
    finishedSpans, Call.finished, atomAttributes, slots_update_atom, hm]

omit [ContextApi Ctx] in
lemma book_tookFlow (w : TfWorld Ctx) (state : State) (ps : List Pending) :
    book ⟨tookFlow w, (w.host.listener.flowSpan.map (.closeFlow state)).toList ++ ps⟩ =
      take .flow (book ⟨w, ps⟩) := by
  have hs : slots w.host.listener .flow = w.host.listener.flowSpan := rfl
  rcases h : w.host.listener.flowSpan with _ | span <;>
    simp [book, take, tookFlow, withListener, slots_update_flow, hs, h, Pending.removed]

omit [ContextApi Ctx] in
lemma book_poppedAtom (w : TfWorld Ctx) (key : Key) (isFailure : Bool) (details : Details)
    (ps : List Pending) :
    book ⟨poppedAtom key w,
        ((w.host.listener.atomSpans key).map (.closeAtom · isFailure details)).toList ++ ps⟩ =
      take (.atom key) (book ⟨w, ps⟩) := by
  have hs : slots w.host.listener (.atom key) = w.host.listener.atomSpans key := rfl
  rcases h : w.host.listener.atomSpans key with _ | span <;>
    simp [book, take, poppedAtom, withListener, slots_update_atom, hs, h, Pending.removed]

lemma startedSpans_closing (p : Pending) : startedSpans p.calls = [] := by
  rcases p with ⟨state, span⟩ | ⟨name, span⟩ | ⟨span, isFailure, details⟩
  · exact (flowClosing_ends state span).1
  · rfl
  · exact (atomClosing_ends span isFailure details.result).1

lemma opened_eq_nil {cs : List Call} (h : startedSpans cs = []) : opened cs = [] := by
  rw [opened, List.filterMap_eq_nil_iff]
  rw [startedSpans, List.filterMap_eq_nil_iff] at h
  intro c hc
  have := h c hc
  cases c <;> simp_all [openedFor, Call.started]

lemma finishedSpans_closing (p : Pending) : finishedSpans p.calls = p.removed.toList := by
  rcases p with ⟨state, span⟩ | ⟨name, span⟩ | ⟨span, isFailure, details⟩
  · exact (flowClosing_ends state span).2
  · rfl
  · exact (atomClosing_ends span isFailure details.result).2

/-- What runs after the lock touches neither the flow nor the table of spans. -/
lemma afterLock_listener (p : Pending) (w : TfWorld Ctx) :
    (afterLock noFaults p w).2.host.listener.flowSpan = w.host.listener.flowSpan ∧
      (afterLock noFaults p w).2.host.listener.flowContext = w.host.listener.flowContext ∧
      (afterLock noFaults p w).2.host.listener.atomSpans = w.host.listener.atomSpans := by
  cases p <;> simp [afterLock, closeFlow_apply, closeAtom_apply, handOff_apply, World.called,
    handedOff]

/-- A pending call that runs to its end ends the span it has removed. -/
lemma balanced_resume {w : TfWorld Ctx} {p : Pending} {ps : List Pending} {i : ℕ}
    (hp : ps[i]? = some p) (h : Balanced (book ⟨w, ps⟩)) :
    Balanced (book ⟨(afterLock noFaults p w).2, ps.eraseIdx i⟩) := by
  obtain ⟨hflow, -, hatoms⟩ := afterLock_listener p w
  have hslots : slots (afterLock noFaults p w).2.host.listener = slots w.host.listener := by
    funext j
    cases j
    · exact hflow
    · exact congrFun hatoms _
  have hopened : opened (afterLock noFaults p w).2.calls = opened w.calls := by
    rw [afterLock_calls, opened_append, opened_eq_nil (startedSpans_closing p), List.append_nil]
  have hfinished : finishedSpans (afterLock noFaults p w).2.calls =
      finishedSpans w.calls ++ p.removed.toList := by
    rw [afterLock_calls, finishedSpans_append, finishedSpans_closing]
  obtain ⟨hi, rfl⟩ := List.getElem?_eq_some_iff.mp hp
  have hperm : (ps.filterMap Pending.removed).Perm
      ((ps[i] :: ps.eraseIdx i).filterMap Pending.removed) :=
    ((List.getElem_cons_eraseIdx_perm hi).symm.filterMap _)
  rcases hr : ps[i].removed with _ | span
  · rw [List.filterMap_cons_none hr] at hperm
    refine balanced_of_perm h hopened hslots hperm.symm ?_
    simp [book, hfinished, hr]
  · rw [List.filterMap_cons_some hr] at hperm
    have hmem : span ∈ (book ⟨w, ps⟩).taken := hperm.symm.subset (List.mem_cons_self ..)
    refine balanced_of_perm (balanced_retire h hmem) hopened hslots ?_ ?_
    · have := hperm.symm.erase span
      rwa [List.erase_cons_head] at this
    · simp [book, retire, hfinished, hr]

/-! ### The invariant -/

structure Inv (s : Config Ctx) : Prop where
  balanced : Balanced (book s)
  numbered : Numbered s.world.calls
  flowContext : FlowContext s.world.host.listener

/-- A span that is held was started. -/
lemma Inv.held_started {s : Config Ctx} (h : Inv s) {k : Slot} {span : SpanContext}
    (hk : slots s.world.host.listener k = some span) : span ∈ startedSpans s.world.calls := by
  rw [← tokens_book]
  exact mem_tokens (h.balanced.home k span hk)

/-- A span is held in one slot. -/
lemma Inv.held_once {s : Config Ctx} (h : Inv s) {j k : Slot} {span : SpanContext}
    (hj : slots s.world.host.listener j = some span)
    (hk : slots s.world.host.listener k = some span) : j = k :=
  home_unique h.balanced (h.balanced.home k span hk) (h.balanced.home j span hj)

lemma inv_init (current : Ctx) (graph : List Node) (contextAttr : ℕ → Option Ctx) :
    Inv (init current graph contextAttr) := by
  refine ⟨?_, numbered_nil, rfl⟩
  have : book (init current graph contextAttr) = ⟨[], fun _ => none, [], []⟩ := by
    simp only [book, init, opened, finishedSpans, List.filterMap_nil, Book.mk.injEq, true_and,
      and_true]
    funext j
    cases j <;> rfl
  rw [this]
  exact balanced_empty

lemma Inv.started_nodup {s : Config Ctx} (h : Inv s) : (startedSpans s.world.calls).Nodup :=
  tokens_book s ▸ h.balanced.distinct

omit [ContextApi Ctx] in
lemma started_opened {s : Config Ctx} {span : SpanContext}
    (hspan : span ∈ startedSpans s.world.calls) : ∃ k, (k, span) ∈ opened s.world.calls := by
  rw [← tokens_book, tokens, List.mem_map] at hspan
  obtain ⟨⟨k, span⟩, hk, rfl⟩ := hspan
  exact ⟨k, hk⟩

lemma inv_locked {w : TfWorld Ctx} {ps : List Pending} (m : Meaning) (h : Inv ⟨w, ps⟩) :
    Inv ⟨(locked m w).2, (locked m w).1.toList ++ ps⟩ := by
  obtain ⟨hb, hn, hf⟩ := h
  have hfresh : ∀ parent, newSpan w.calls parent ∉ tokens (book ⟨w, ps⟩) := by
    intro parent
    rw [tokens_book]
    exact newSpan_fresh hn parent
  rcases m with details | state | ⟨kind, name, uuid, method⟩ |
      ⟨kind, uuid, method, isFailure, details⟩ | _
  · rcases hs : w.host.listener.flowSpan with _ | span
    · simp only [locked, hs, Option.isSome_none, Bool.false_eq_true, if_false]
      refine ⟨?_, hn.start _ _ _ _ _, ⟨w.current, rfl⟩⟩
      rw [Option.toList_none, List.nil_append, book_startedFlow]
      exact balanced_issue hb hs (hfresh _)
    · simpa [locked, hs] using Inv.mk hb hn hf
  · refine ⟨?_, hn, rfl⟩
    simp only [locked, book_tookFlow]
    exact balanced_take hb _
  · rcases hs : w.host.listener.atomSpans (uuid, method) with _ | span
    · simp only [locked, hs]
      refine ⟨?_, hn.start _ _ _ _ _, hf⟩
      have hpend : book ⟨openedAtom kind name uuid method w,
            (some (Pending.handOff name (nextAtomSpan w))).toList ++ ps⟩ =
          book ⟨openedAtom kind name uuid method w, ps⟩ := rfl
      rw [hpend, book_openedAtom]
      exact balanced_issue hb hs (hfresh _)
    · simpa [locked, hs] using Inv.mk hb hn hf
  · refine ⟨?_, hn, hf⟩
    simp only [locked, book_poppedAtom]
    exact balanced_take hb _
  · exact ⟨hb, hn, hf⟩

lemma inv_resume {w : TfWorld Ctx} {p : Pending} {ps : List Pending} {i : ℕ}
    (hp : ps[i]? = some p) (h : Inv ⟨w, ps⟩) :
    Inv ⟨(afterLock noFaults p w).2, ps.eraseIdx i⟩ := by
  obtain ⟨hflow, hctx, -⟩ := afterLock_listener p w
  refine ⟨balanced_resume hp h.balanced, ?_, ?_⟩
  · rw [afterLock_calls]
    exact h.numbered.append (startedSpans_closing p)
  · have := h.flowContext
    unfold FlowContext at this ⊢
    rw [hflow, hctx]
    exact this

/-- One step, of whichever thread, keeps the invariant. -/
lemma inv_step (s : Config Ctx) (e : Event Ctx) (h : Inv s) : Inv (step s e) := by
  have hu : ∀ current, Inv ⟨s.under current, s.pending⟩ := fun _ =>
    ⟨h.balanced, h.numbered, h.flowContext⟩
  rcases e with ⟨current, n⟩ | ⟨current, i⟩
  · rw [step_enter]
    exact inv_locked (meaning n) (hu current)
  · simp only [step]
    rcases hp : s.pending[i]? with _ | p
    · exact h
    · exact inv_resume hp (hu current)

/-- So does a whole notification, alone. -/
lemma inv_react {w : TfWorld Ctx} (m : Meaning) (h : Inv ⟨w, []⟩) : Inv ⟨react m w, []⟩ := by
  have hl := inv_locked m h
  rw [react_eq_locked]
  rcases hm : (locked m w).1 with _ | p <;> rw [hm] at hl
  · exact hl
  · have hp : [p][0]? = some p := rfl
    exact inv_resume hp hl

lemma inv_run (current : Ctx) (graph : List Node) (contextAttr : ℕ → Option Ctx)
    (es : List (Event Ctx)) : Inv (Runs.run step (init current graph contextAttr) es) :=
  Runs.inv_of_run inv_step (inv_init current graph contextAttr) es

omit [ContextApi Ctx] in
/-- The spans receiver calls have removed from their slots and not yet ended. -/
def removed (s : Config Ctx) : List SpanContext := s.pending.filterMap Pending.removed

omit [ContextApi Ctx] in
/-- A span opened for slot `k` is in one of three situations: held in `k` and nowhere else,
removed by one pending call, ended once. -/
def OnePlace (s : Config Ctx) (k : Slot) (span : SpanContext) : Prop :=
  (∀ j, slots s.world.host.listener j = some span ↔ j = k) ∧
      span ∉ removed s ∧ span ∉ finishedSpans s.world.calls ∨
  (∀ j, slots s.world.host.listener j ≠ some span) ∧
      (removed s).count span = 1 ∧ span ∉ finishedSpans s.world.calls ∨
  (∀ j, slots s.world.host.listener j ≠ some span) ∧
      span ∉ removed s ∧ (finishedSpans s.world.calls).count span = 1

lemma Inv.onePlace {s : Config Ctx} (h : Inv s) {k : Slot} {span : SpanContext}
    (hk : (k, span) ∈ opened s.world.calls) : OnePlace s k span := by
  rcases situations h.balanced hk with ⟨hs, ht, hr⟩ | hsit
  · refine Or.inl ⟨fun j => ⟨fun hj => ?_, ?_⟩, ht, hr⟩
    · exact home_unique h.balanced hk (h.balanced.home j span hj)
    · rintro rfl
      exact hs
  · exact Or.inr hsit

/-- **Conservation.** In every interleaving of lock sections the spans started are distinct,
each is in one of the three situations, only they are held, removed or ended, and the flow
context is that of the flow span. -/
theorem spans_conserved (current : Ctx) (graph : List Node) (contextAttr : ℕ → Option Ctx)
    (es : List (Event Ctx)) :
    let s := Runs.run step (init current graph contextAttr) es
    (startedSpans s.world.calls).Nodup ∧
    (∀ span ∈ startedSpans s.world.calls,
      ∃ k, (k, span) ∈ opened s.world.calls ∧ OnePlace s k span) ∧
    (∀ k span, slots s.world.host.listener k = some span →
      (k, span) ∈ opened s.world.calls) ∧
    (∀ span ∈ removed s ++ finishedSpans s.world.calls, span ∈ startedSpans s.world.calls) ∧
    match s.world.host.listener.flowSpan with
    | none => s.world.host.listener.flowContext = none
    | some span => ∃ c, s.world.host.listener.flowContext = some (setSpan span c) := by
  intro s
  have h : Inv s := inv_run current graph contextAttr es
  refine ⟨h.started_nodup, ?_, h.balanced.home, ?_, h.flowContext⟩
  · intro span hspan
    obtain ⟨k, hk⟩ := started_opened hspan
    exact ⟨k, hk, h.onePlace hk⟩
  · intro span hspan
    rw [← tokens_book]
    rcases List.mem_append.mp hspan with ht | hr
    · exact h.balanced.taken_issued span ht
    · exact h.balanced.retired_issued span hr

end

end OtelOpenstack.Conservation
