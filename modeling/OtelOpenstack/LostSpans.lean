import OtelOpenstack.ListenerSteps
import OtelOpenstack.Runs

/-!
The receivers when outside calls raise.

Whatever raises is caught two calls above. A span is lost where it has already been taken out
of its slot: between the removal and the end of a span there are its annotations.
-/

set_option autoImplicit false

namespace OtelOpenstack.LostSpans

open Effects Python Otel ContextApi Listener ListenerSteps

/-- Outside calls that may raise: an `Exception`, and never at the end of a span. -/
structure Failing where
  faults : Faults
  exceptions : ∀ s e, faults s = some e → e.isException = true
  ends : faults .endSpan = none

/-! ### What is raised is caught -/

section

variable {Ctx : Type} {α β : Type}

/-- Nothing is raised but `Exception`s. -/
def OnlyExceptions (m : ListenerCode Ctx α) : Prop :=
  ∀ w e v, m w = (.error e, v) → e.isException = true

lemma onlyExceptions_of_ok {m : ListenerCode Ctx α} (h : ∀ w, ∃ a v, m w = (.ok a, v)) :
    OnlyExceptions m := by
  intro w e v hm
  obtain ⟨a, u, hok⟩ := h w
  rw [hok] at hm
  exact absurd (Prod.mk.inj hm).1 nofun

lemma OnlyExceptions.pure (a : α) : OnlyExceptions (Pure.pure a : ListenerCode Ctx α) :=
  onlyExceptions_of_ok fun w => ⟨a, w, rfl⟩

lemma OnlyExceptions.modifies (f : TfWorld Ctx → TfWorld Ctx) :
    OnlyExceptions (modifies f : ListenerCode Ctx Unit) :=
  onlyExceptions_of_ok fun w => ⟨(), f w, rfl⟩

lemma OnlyExceptions.reads (f : TfWorld Ctx → α) :
    OnlyExceptions (reads f : ListenerCode Ctx α) :=
  onlyExceptions_of_ok fun w => ⟨f w, w, rfl⟩

lemma OnlyExceptions.bind {m : ListenerCode Ctx α} {f : α → ListenerCode Ctx β}
    (hm : OnlyExceptions m) (hf : ∀ a, OnlyExceptions (f a)) : OnlyExceptions (m >>= f) := by
  intro w e v h
  rcases hw : m w with ⟨e' | a, u⟩
  · rw [bind_of_error hw, Prod.mk.injEq, Except.error.injEq] at h
    exact h.1 ▸ hm w e' u hw
  · rw [bind_of_ok hw] at h
    exact hf a u e v h

lemma OnlyExceptions.ite {c : Prop} [Decidable c] {m n : ListenerCode Ctx α}
    (hm : OnlyExceptions m) (hn : OnlyExceptions n) : OnlyExceptions (if c then m else n) := by
  split
  · exact hm
  · exact hn

lemma OnlyExceptions.exceptException {body handler : ListenerCode Ctx α}
    (hbody : OnlyExceptions body) (hhandler : OnlyExceptions handler) :
    OnlyExceptions (exceptException body handler) := by
  intro w e v h
  rcases hw : body w with ⟨e' | a, u⟩
  · rw [Listener.exceptException, tryExcept_of_error hw, if_pos (hbody w e' u hw)] at h
    exact hhandler u e v h
  · rw [Listener.exceptException, tryExcept_of_ok hw] at h
    cases h

variable (F : Failing)

lemma OnlyExceptions.mayRaise (s : Step) :
    OnlyExceptions (mayRaise F.faults s : ListenerCode Ctx Unit) := by
  intro w e v h
  unfold Otel.mayRaise at h
  rcases hs : F.faults s with _ | e'
  · simp [hs] at h
  · simp only [hs, raise_apply, Prod.mk.injEq, Except.error.injEq] at h
    exact F.exceptions s e (h.1 ▸ hs)

lemma OnlyExceptions.setStatus (span : SpanContext) (code : StatusCode) (d : Option String) :
    OnlyExceptions (setStatus F.faults span code d : ListenerCode Ctx Unit) :=
  .bind (.mayRaise F _) fun _ => .modifies _

lemma OnlyExceptions.recordException (span : SpanContext) (e : Exn) :
    OnlyExceptions (recordException F.faults span e : ListenerCode Ctx Unit) :=
  .bind (.mayRaise F _) fun _ => .modifies _

lemma OnlyExceptions.endSpan (span : SpanContext) :
    OnlyExceptions (endSpan F.faults span : ListenerCode Ctx Unit) :=
  .bind (.mayRaise F _) fun _ => .modifies _

lemma OnlyExceptions.closeFlow (state : State) (span : SpanContext) :
    OnlyExceptions (closeFlow F.faults state span : ListenerCode Ctx Unit) :=
  .ite (.bind (.setStatus F _ _ _) fun _ => .endSpan F span) (.endSpan F span)

lemma OnlyExceptions.setFailure (span : SpanContext) (result : Result) :
    OnlyExceptions (setFailure F.faults span result : ListenerCode Ctx Unit) := by
  cases result with
  | other => exact .setStatus F _ _ _
  | failure exception exceptionStr =>
    refine .bind (.mayRaise F _) fun _ => ?_
    cases exception with
    | none => exact .bind (.mayRaise F _) fun _ => .setStatus F _ _ _
    | some e =>
      exact .bind (.recordException F _ _) fun _ => .bind (.mayRaise F _) fun _ =>
        .setStatus F _ _ _

lemma OnlyExceptions.closeAtom (span : SpanContext) (isFailure : Bool) (details : Details) :
    OnlyExceptions (closeAtom F.faults span isFailure details : ListenerCode Ctx Unit) :=
  .ite (.bind (.setFailure F _ _) fun _ => .endSpan F span) (.endSpan F span)

lemma OnlyExceptions.finishFlow (state : State) :
    OnlyExceptions (finishFlow F.faults state : ListenerCode Ctx Unit) := by
  refine .bind (onlyExceptions_of_ok fun w => ⟨_, _, takeFlow_apply w⟩) fun span => ?_
  cases span with
  | none => exact .pure ()
  | some span => exact .closeFlow F state span

lemma OnlyExceptions.finishAtom (uuid : Val) (state : State) (details : Details) :
    OnlyExceptions (finishAtom F.faults uuid state details : ListenerCode Ctx Unit) := by
  unfold Listener.finishAtom
  cases atomFinishMethods state with
  | none => exact fun w e v h => by cases h; rfl
  | some phase =>
    refine .bind (onlyExceptions_of_ok fun w => ⟨_, _, popAtom_apply uuid phase.1 w⟩) fun span => ?_
    cases span with
    | none => exact .pure ()
    | some span => exact .closeAtom F span _ details

lemma OnlyExceptions.atomByName (name : Val) :
    OnlyExceptions (atomByName F.faults name : ListenerCode Ctx (Option ℕ)) := by
  refine .bind (.reads _) fun self => ?_
  cases self.atomsByName with
  | some atoms => exact .pure _
  | none =>
    refine .bind (.exceptException ?_ (.pure _)) fun _ => .bind (.modifies _) fun _ => .pure _
    exact .bind (.mayRaise F _) fun _ => .bind (.reads _) fun _ => .pure _

variable [ContextApi Ctx]

lemma OnlyExceptions.startSpan (name : String) (kind : SpanKind) (context : Option Ctx)
    (attributes : Dict) :
    OnlyExceptions (startSpan F.faults name kind context attributes :
      ListenerCode Ctx SpanContext) :=
  .bind (.mayRaise F _) fun _ => onlyExceptions_of_ok fun _ => ⟨_, _, rfl⟩

lemma OnlyExceptions.startFlow (details : Details) :
    OnlyExceptions (startFlow F.faults details : ListenerCode Ctx Unit) :=
  .bind (.reads _) fun _ => .ite (.pure ()) <|
    .bind (.startSpan F _ _ _ _) fun _ => .bind (.reads _) fun _ => .modifies _

lemma OnlyExceptions.startAtom (kind : Kind) (name uuid : Val) (state : State) :
    OnlyExceptions (startAtom F.faults kind name uuid state : ListenerCode Ctx Unit) := by
  unfold Listener.startAtom
  cases atomStartMethods state with
  | none => exact fun w e v h => by cases h; rfl
  | some method =>
    have hopen : OnlyExceptions
        (openAtom F.faults kind name uuid method : ListenerCode Ctx (Option SpanContext)) :=
      .bind (.reads _) fun _ => .ite (.pure _) <|
        .bind (.startSpan F _ _ _ _) fun _ => .bind (.modifies _) fun _ => .pure _
    refine .bind hopen fun span => ?_
    cases span with
    | none => exact .pure ()
    | some span =>
      refine .bind (.atomByName F name) fun atom => ?_
      cases atom with
      | none => exact .pure ()
      | some atom =>
        exact .bind (.reads _) fun _ => .bind (.mayRaise F _) fun _ => .modifies _

/-- The receiver's own part of a notification, before anything is caught. -/
def body (n : Notification) : ListenerCode Ctx Unit :=
  match n with
  | .flow state details =>
    if state = .running then startFlow F.faults details
    else if (flowFinishStates state).isSome then finishFlow F.faults state
    else pure ()
  | .atom kind state details =>
    let name := details.get s!"{kind.text}_name"
    let uuid := details.get s!"{kind.text}_uuid"
    if (atomStartMethods state).isSome then startAtom F.faults kind name uuid state
    else if (atomFinishMethods state).isSome then finishAtom F.faults uuid state details
    else pure ()

lemma receive_eq_body (n : Notification) :
    receive F.faults n = (exceptException (body F n) (pure ()) : ListenerCode Ctx Unit) := by
  rcases n with ⟨state, details⟩ | ⟨_ | _, state, details⟩ <;> rfl

lemma OnlyExceptions.body (n : Notification) :
    OnlyExceptions (body F n : ListenerCode Ctx Unit) := by
  cases n with
  | flow state details =>
    exact .ite (.startFlow F details) (.ite (.finishFlow F state) (.pure ()))
  | atom kind state details =>
    exact .ite (.startAtom F kind _ _ state) (.ite (.finishAtom F _ state details) (.pure ()))

/-- **A receiver returns**, and leaves what its part left. -/
lemma receive_eq (n : Notification) (w : TfWorld Ctx) :
    receive F.faults n w = (.ok (), (body F n w).2) := by
  rw [receive_eq_body]
  rcases hw : body F n w with ⟨e | ⟨⟩, v⟩
  · rw [exceptException, tryExcept_of_error hw, if_pos (OnlyExceptions.body F n w e v hw)]
    rfl
  · rw [exceptException, tryExcept_of_ok hw]

end

/-! ### What is left -/

/-- The outside calls between the removal and the end of a span that has failed. -/
def annotationSteps : Result → List Step
  | .failure (some _) _ =>
    [.other "result.exception", .recordException, .other "result.exception_str", .setStatus]
  | .failure none _ => [.other "result.exception", .other "result.exception_str", .setStatus]
  | .other => [.setStatus]

section

variable {Ctx : Type}

/-- The notification finishes a failed flow or atom whose span is held, and an annotation of the
span raises. -/
def Loses (F : Failing) (n : Notification) (w : TfWorld Ctx) : Prop :=
  match meaning n with
  | .flowFinish state =>
    flowFinishStates state = some true ∧ w.host.listener.flowSpan.isSome ∧
      (F.faults .setStatus).isSome
  | .atomFinish _ uuid method isFailure details =>
    isFailure = true ∧ (w.host.listener.atomSpans (uuid, method)).isSome ∧
      ∃ s ∈ annotationSteps details.result, (F.faults s).isSome
  | _ => False

/-- The same spans and the same flow context are held, and no call was made. -/
structure Same (w v : TfWorld Ctx) : Prop where
  slots : slots v.host.listener = slots w.host.listener
  context : v.host.listener.flowContext = w.host.listener.flowContext
  calls : v.calls = w.calls

lemma same_refl (w : TfWorld Ctx) : Same w w := ⟨rfl, rfl, rfl⟩

lemma same_trans (u v w : TfWorld Ctx) (h : Same u v) (h' : Same v w) : Same u w :=
  ⟨h'.slots.trans h.slots, h'.context.trans h.context, h'.calls.trans h.calls⟩

/-- A span is taken out of its slot and not ended. -/
def Drops (w v : TfWorld Ctx) : Prop :=
  ∃ k span cs, slots w.host.listener k = some span ∧
    slots v.host.listener = Function.update (slots w.host.listener) k none ∧
    v.calls = w.calls ++ cs ∧ startedSpans cs = [] ∧ finishedSpans cs = []

variable (F : Failing)

lemma mayRaise_of_none {s : Step} (h : F.faults s = none) (w : TfWorld Ctx) :
    mayRaise F.faults s w = (.ok (), w) := by
  simp [mayRaise, h]

lemma mayRaise_of_some {s : Step} {e : Exn} (h : F.faults s = some e) (w : TfWorld Ctx) :
    mayRaise F.faults s w = (.error e, w) := by
  simp [mayRaise, h]

lemma setStatus_of_none (h : F.faults .setStatus = none) (span : SpanContext) (code : StatusCode)
    (d : Option String) (w : TfWorld Ctx) :
    setStatus F.faults span code d w = (.ok (), w.called [.setStatus span code d]) := by
  rw [setStatus, bind_of_ok (mayRaise_of_none F h w)]
  rfl

lemma setStatus_of_some {e : Exn} (h : F.faults .setStatus = some e) (span : SpanContext)
    (code : StatusCode) (d : Option String) (w : TfWorld Ctx) :
    setStatus F.faults span code d w = (.error e, w) := by
  rw [setStatus, bind_of_error (mayRaise_of_some F h w)]

lemma recordException_of_none (h : F.faults .recordException = none) (span : SpanContext)
    (e : Exn) (w : TfWorld Ctx) :
    recordException F.faults span e w = (.ok (), w.called [.recordException span e]) := by
  rw [recordException, bind_of_ok (mayRaise_of_none F h w)]
  rfl

lemma endSpan_apply (span : SpanContext) (w : TfWorld Ctx) :
    endSpan F.faults span w = (.ok (), w.called [.finish span]) := by
  rw [endSpan, bind_of_ok (mayRaise_of_none F F.ends w)]
  rfl

/-- Where no annotation raises, all are made. -/
lemma setFailure_of_ok {result : Result} (h : ∀ s ∈ annotationSteps result, F.faults s = none)
    (span : SpanContext) (w : TfWorld Ctx) :
    setFailure F.faults span result w = (.ok (), w.called (failureCalls span result)) := by
  have hstatus : F.faults .setStatus = none := by
    refine h _ ?_
    rcases result with ⟨_ | e, str⟩ | _ <;> simp [annotationSteps]
  rcases result with ⟨_ | e, str⟩ | _
  · have hread := h (.other "result.exception") (by simp [annotationSteps])
    have htext := h (.other "result.exception_str") (by simp [annotationSteps])
    simp only [setFailure]
    rw [bind_of_ok (mayRaise_of_none F hread w), bind_of_ok (mayRaise_of_none F htext w),
      setStatus_of_none F hstatus]
    rfl
  · have hread := h (.other "result.exception") (by simp [annotationSteps])
    have hrecord := h .recordException (by simp [annotationSteps])
    have htext := h (.other "result.exception_str") (by simp [annotationSteps])
    simp only [setFailure]
    rw [bind_of_ok (mayRaise_of_none F hread w), bind_of_ok (recordException_of_none F hrecord ..),
      bind_of_ok (mayRaise_of_none F htext _), setStatus_of_none F hstatus, World.called_called]
    rfl
  · exact setStatus_of_none F hstatus span .error none w

/-- The last annotations of a `Failure`: its text is read, and the status set. -/
lemma text_of_error {str : String} (h : (F.faults (.other "result.exception_str")).isSome ∨
      (F.faults .setStatus).isSome) (span : SpanContext) (w : TfWorld Ctx) :
    ∃ e, (do
      mayRaise F.faults (.other "result.exception_str")
      setStatus F.faults span .error (some str)) w = (.error e, w) := by
  rcases ht : F.faults (.other "result.exception_str") with _ | e
  · obtain ⟨e, he⟩ := Option.isSome_iff_exists.mp (h.resolve_left (by simp [ht]))
    rw [bind_of_ok (mayRaise_of_none F ht w)]
    exact ⟨e, setStatus_of_some F he ..⟩
  · exact ⟨e, bind_of_error (mayRaise_of_some F ht w)⟩

/-- Where an annotation raises, the ones before it have been made. -/
lemma setFailure_of_error {result : Result}
    (h : ∃ s ∈ annotationSteps result, (F.faults s).isSome) (span : SpanContext)
    (w : TfWorld Ctx) :
    ∃ e cs, setFailure F.faults span result w = (.error e, w.called cs) ∧
      startedSpans cs = [] ∧ finishedSpans cs = [] := by
  have hcalled : w.called [] = w := by simp [World.called]
  rcases result with ⟨_ | e, str⟩ | _ <;>
    simp only [annotationSteps, List.mem_cons, List.not_mem_nil, or_false, exists_eq_or_imp,
      exists_eq_left] at h <;>
    simp only [setFailure]
  · rcases hread : F.faults (.other "result.exception") with _ | e
    · obtain ⟨e, he⟩ := text_of_error F (h.resolve_left (by simp [hread])) span w
      exact ⟨e, [], by rw [bind_of_ok (mayRaise_of_none F hread w), hcalled]; exact he, rfl, rfl⟩
    · exact ⟨e, [], by rw [bind_of_error (mayRaise_of_some F hread w), hcalled], rfl, rfl⟩
  · rcases hread : F.faults (.other "result.exception") with _ | e'
    · have hlater := h.resolve_left (by simp [hread])
      rw [bind_of_ok (mayRaise_of_none F hread w)]
      rcases hrecord : F.faults .recordException with _ | e'
      · obtain ⟨e', he⟩ := text_of_error F (hlater.resolve_left (by simp [hrecord])) span
          (w.called [.recordException span e])
        rw [bind_of_ok (recordException_of_none F hrecord ..)]
        exact ⟨e', _, he, rfl, rfl⟩
      · have hraise : recordException F.faults span e w = (.error e', w) := by
          rw [recordException, bind_of_error (mayRaise_of_some F hrecord w)]
        exact ⟨e', [], by rw [bind_of_error hraise, hcalled], rfl, rfl⟩
    · exact ⟨e', [], by rw [bind_of_error (mayRaise_of_some F hread w), hcalled], rfl, rfl⟩
  · obtain ⟨e, he⟩ := Option.isSome_iff_exists.mp h
    exact ⟨e, [], by rw [setStatus_of_some F he, hcalled], rfl, rfl⟩

/-! ### Each notification -/

lemma closeFlow_of_ok {state : State}
    (h : flowFinishStates state = some true → F.faults .setStatus = none) (span : SpanContext)
    (w : TfWorld Ctx) :
    closeFlow F.faults state span w = (.ok (), w.called (flowClosing state span)) := by
  by_cases hfail : flowFinishStates state = some true
  · simp only [closeFlow, hfail, if_true, flowClosing]
    rw [bind_of_ok (setStatus_of_none F (h hfail) ..), endSpan_apply, World.called_called]
  · simp only [closeFlow, hfail, if_false, flowClosing, List.nil_append]
    exact endSpan_apply F span w

lemma closeFlow_of_error {state : State} (hfail : flowFinishStates state = some true) {e : Exn}
    (he : F.faults .setStatus = some e) (span : SpanContext) (w : TfWorld Ctx) :
    closeFlow F.faults state span w = (.error e, w) := by
  simp only [closeFlow, hfail, if_true]
  exact bind_of_error (setStatus_of_some F he ..)

lemma closeAtom_of_ok {isFailure : Bool} {details : Details}
    (h : isFailure = true → ∀ s ∈ annotationSteps details.result, F.faults s = none)
    (span : SpanContext) (w : TfWorld Ctx) :
    closeAtom F.faults span isFailure details w =
      (.ok (), w.called (atomClosing span isFailure details.result)) := by
  cases isFailure with
  | false => exact endSpan_apply F span w
  | true =>
    simp only [closeAtom, if_true, atomClosing]
    rw [bind_of_ok (setFailure_of_ok F (h rfl) span w), endSpan_apply, World.called_called]

lemma closeAtom_of_error {details : Details}
    (h : ∃ s ∈ annotationSteps details.result, (F.faults s).isSome) (span : SpanContext)
    (w : TfWorld Ctx) :
    ∃ e cs, closeAtom F.faults span true details w = (.error e, w.called cs) ∧
      startedSpans cs = [] ∧ finishedSpans cs = [] := by
  obtain ⟨e, cs, hrun, hstarts, hends⟩ := setFailure_of_error F h span w
  refine ⟨e, cs, ?_, hstarts, hends⟩
  simp only [closeAtom, if_true]
  exact bind_of_error hrun

lemma atomByName_same (name : Val) :
    Keeps Same (atomByName F.faults name : ListenerCode Ctx (Option ℕ)) := by
  refine Keeps.bind same_trans (Keeps.reads same_refl _) fun self => ?_
  cases self.atomsByName with
  | some atoms => exact Keeps.pure same_refl _
  | none =>
    have hset : ∀ atoms, Keeps Same (setListener fun l : TraceListener Ctx =>
        { l with atomsByName := some atoms } : ListenerCode Ctx Unit) := by
      intro atoms w
      refine ⟨?_, rfl, rfl⟩
      funext k
      cases k <;> rfl
    have hgraph : Keeps Same (do
        mayRaise F.faults (.other "compilation.execution_graph")
        let graph ← reads fun w => w.host.executionGraph
        pure (atomsOf graph) : ListenerCode Ctx (Val → Option ℕ)) := by
      have hsilent : Silent (mayRaise F.faults (.other "compilation.execution_graph") :
          ListenerCode Ctx Unit) := mayRaise_silent F.faults _
      refine Keeps.bind same_trans (fun w => ?_) fun _ =>
        Keeps.bind same_trans (Keeps.reads same_refl _) fun _ => Keeps.pure same_refl _
      rw [hsilent w]
      exact same_refl w
    refine Keeps.bind same_trans (Keeps.tryExcept same_trans hgraph fun e => ?_) fun atoms =>
      Keeps.bind same_trans (hset atoms) fun _ => Keeps.pure same_refl _
    exact Keeps.ite (Keeps.pure same_refl _) (Keeps.raise same_refl _)

variable [ContextApi Ctx]

lemma handOff_same (name : Val) (span : SpanContext) :
    Keeps Same (handOff F.faults name span : ListenerCode Ctx Unit) := by
  refine Keeps.bind same_trans (atomByName_same F name) fun atom => ?_
  cases atom with
  | none => exact Keeps.pure same_refl _
  | some atom =>
    refine Keeps.bind same_trans (Keeps.reads same_refl _) fun c =>
      Keeps.bind same_trans (fun w => ?_) fun _ w => ⟨rfl, rfl, rfl⟩
    rw [mayRaise_silent F.faults (.other "setattr") w]
    exact same_refl w

lemma startSpan_of_none (h : F.faults .startSpan = none) (name : String) (kind : SpanKind)
    (context : Option Ctx) (attributes : Dict) :
    (startSpan F.faults name kind context attributes : ListenerCode Ctx SpanContext) =
      startSpan noFaults name kind context attributes :=
  funext fun w => bind_of_ok (mayRaise_of_none F h w)

lemma startSpan_of_some {e : Exn} (h : F.faults .startSpan = some e) (name : String)
    (kind : SpanKind) (context : Option Ctx) (attributes : Dict) (w : TfWorld Ctx) :
    startSpan F.faults name kind context attributes w = (.error e, w) :=
  bind_of_error (mayRaise_of_some F h w)

/-- The start of a flow opens its span, or does nothing. -/
lemma startFlow_spec (details : Details) (w : TfWorld Ctx) :
    Same w (startFlow F.faults details w).2 ∨
      Same (react (.flowStart details) w) (startFlow F.faults details w).2 := by
  rcases h : w.host.listener.flowSpan with _ | flow
  · rcases hs : F.faults .startSpan with _ | e
    · have hrun : startFlow F.faults details w = startFlow noFaults details w := by
        simp only [startFlow, startSpan_of_none F hs]
      rw [hrun, startFlow_idle details h]
      right
      simp [react, h, same_refl]
    · left
      simp [startFlow, getListener, bind_apply, h, startSpan_of_some F hs, same_refl]
  · left
    simp [startFlow, getListener, bind_apply, h, same_refl]

/-- The start of an atom opens its span, or does nothing. -/
lemma startAtom_spec {state : State} {method : Method} (hm : atomStartMethods state = some method)
    (kind : Kind) (name uuid : Val) (w : TfWorld Ctx) :
    let v := (startAtom F.faults kind name uuid state w).2
    Same w v ∨ Same (react (.atomStart kind name uuid method) w) v := by
  simp only [startAtom, hm]
  rcases h : w.host.listener.atomSpans (uuid, method) with _ | span
  · rcases hs : F.faults .startSpan with _ | e
    · have hopen : openAtom F.faults kind name uuid method w =
          (.ok (some (nextAtomSpan w)), openedAtom kind name uuid method w) := by
        rw [← openAtom_free kind name h]
        simp only [openAtom, startSpan_of_none F hs]
      right
      rw [bind_of_ok hopen]
      have hstarted : Same (react (.atomStart kind name uuid method) w)
          (openedAtom kind name uuid method w) := by
        simp only [react, startedAtom, h]
        exact ⟨(slots_handedOff ..).symm, rfl, rfl⟩
      exact same_trans _ _ _ hstarted (handOff_same F name _ _)
    · left
      have hopen : openAtom F.faults kind name uuid method w = (.error e, w) := by
        simp [openAtom, getListener, bind_apply, h, startSpan_of_some F hs]
      rw [bind_of_error hopen]
      exact same_refl w
  · left
    have hopen : openAtom F.faults kind name uuid method w = (.ok none, w) := by
      simp [openAtom, getListener, bind_apply, h]
    rw [bind_of_ok hopen]
    exact same_refl w

/-- The finish of a flow ends its span, or loses it. -/
lemma finishFlow_spec (state : State) (w : TfWorld Ctx) :
    let v := (finishFlow F.faults state w).2
    let lost := flowFinishStates state = some true ∧ w.host.listener.flowSpan.isSome ∧
      (F.faults .setStatus).isSome
    (¬ lost → Same (react (.flowFinish state) w) v) ∧ (lost → Drops w v) := by
  rw [finishFlow, bind_of_ok (takeFlow_apply w)]
  rcases h : w.host.listener.flowSpan with _ | span
  · refine ⟨fun _ => ?_, fun hlost => absurd hlost.2.1 (by simp)⟩
    simp [react, finishedFlow, h, same_refl]
  · dsimp only
    refine ⟨fun hkept => ?_, fun hlost => ?_⟩
    · have hok : flowFinishStates state = some true → F.faults .setStatus = none := by
        intro hfail
        simpa [hfail] using hkept
      rw [closeFlow_of_ok F hok]
      simp [react, finishedFlow, h, same_refl]
    · obtain ⟨hfail, -, hset⟩ := hlost
      obtain ⟨e, he⟩ := Option.isSome_iff_exists.mp hset
      rw [closeFlow_of_error F hfail he]
      refine ⟨.flow, span, [], h, slots_update_flow .., ?_, rfl, rfl⟩
      simp [tookFlow, withListener]

/-- The finish of an atom ends its span, or loses it. -/
lemma finishAtom_spec {state : State} {method : Method} {isFailure : Bool}
    (hm : atomFinishMethods state = some (method, isFailure)) (kind : Kind) (uuid : Val)
    (details : Details) (w : TfWorld Ctx) :
    let v := (finishAtom F.faults uuid state details w).2
    let lost := isFailure = true ∧ (w.host.listener.atomSpans (uuid, method)).isSome ∧
      ∃ s ∈ annotationSteps details.result, (F.faults s).isSome
    (¬ lost → Same (react (.atomFinish kind uuid method isFailure details) w) v) ∧
      (lost → Drops w v) := by
  simp only [finishAtom, hm]
  rw [bind_of_ok (popAtom_apply uuid method w)]
  rcases h : w.host.listener.atomSpans (uuid, method) with _ | span
  · refine ⟨fun _ => ?_, fun hlost => absurd hlost.2.1 (by simp)⟩
    rw [poppedAtom_of_none h]
    simp [react, finishedAtom, h, same_refl]
  · dsimp only
    refine ⟨fun hkept => ?_, fun hlost => ?_⟩
    · have hok : isFailure = true → ∀ s ∈ annotationSteps details.result, F.faults s = none := by
        intro hfail s hs
        rw [← Option.not_isSome_iff_eq_none]
        exact fun hraise => hkept ⟨hfail, rfl, s, hs, hraise⟩
      rw [closeAtom_of_ok F hok]
      simp [react, finishedAtom, h, same_refl]
    · obtain ⟨hfail, -, hraise⟩ := hlost
      subst hfail
      obtain ⟨e, cs, hrun, hstarts, hends⟩ :=
        closeAtom_of_error F hraise span (poppedAtom (uuid, method) w)
      rw [hrun]
      exact ⟨.atom (uuid, method), span, cs, h, slots_update_atom .., rfl, hstarts, hends⟩

/-- **One notification**: it returns; and either it has its effect or none at all, or it loses
the span it was to end. -/
lemma receive_spec (n : Notification) (w : TfWorld Ctx) :
    (receive F.faults n w).1 = .ok () ∧
      let v := (receive F.faults n w).2
      (¬ Loses F n w → Same w v ∨ Same (react (meaning n) w) v) ∧ (Loses F n w → Drops w v) := by
  rw [receive_eq]
  refine ⟨rfl, ?_⟩
  rcases n with ⟨state, details⟩ | ⟨kind, state, details⟩
  · by_cases hr : state = .running
    · simp only [body, Loses, meaning, hr, if_true]
      exact ⟨fun _ => startFlow_spec F details w, False.elim⟩
    · by_cases hf : (flowFinishStates state).isSome
      · obtain ⟨hkept, hlost⟩ := finishFlow_spec F state w
        simp only [body, Loses, meaning, hr, hf, if_true, if_false]
        exact ⟨fun h => Or.inr (hkept h), hlost⟩
      · simp only [body, Loses, meaning, hr, hf, if_false]
        exact ⟨fun _ => Or.inl (same_refl w), False.elim⟩
  · rcases hs : atomStartMethods state with _ | method
    · rcases hf : atomFinishMethods state with _ | ⟨method, isFailure⟩
      · simp only [body, Loses, meaning, hs, hf]
        exact ⟨fun _ => Or.inl (same_refl w), False.elim⟩
      · obtain ⟨hkept, hlost⟩ :=
          finishAtom_spec F hf kind (details.get s!"{kind.text}_uuid") details w
        simp only [body, Loses, meaning, hs, hf]
        exact ⟨fun h => Or.inr (hkept h), hlost⟩
    · simp only [body, Loses, meaning, hs]
      exact ⟨fun _ => startAtom_spec F hs kind _ _ w, False.elim⟩

end

/-! ### Whole runs -/

/-- A notification under a current context, and what raises while it is handled. -/
structure Event (Ctx : Type) where
  failing : Failing
  current : Ctx
  notification : Notification

section

variable {Ctx : Type}

/-- Every span that was started is still held, or has ended. -/
def Accounted (w : TfWorld Ctx) : Prop :=
  ∀ span ∈ startedSpans w.calls, .finish span ∈ w.calls ∨
    ∃ k, slots w.host.listener k = some span

/-- The same spans and the same flow context are held. -/
def SameFields (w v : TfWorld Ctx) : Prop :=
  slots v.host.listener = slots w.host.listener ∧
    v.host.listener.flowContext = w.host.listener.flowContext

/-- A new listener. -/
def init (current : Ctx) (graph : List Node) (contextAttr : ℕ → Option Ctx) : TfWorld Ctx :=
  ⟨current, [], [], ⟨TraceListener.init, graph, contextAttr⟩⟩

abbrev Held (w : TfWorld Ctx) : Prop := Holding (slots w.host.listener) w.calls

lemma Held.accounted {w : TfWorld Ctx} (h : Held w) : Accounted w := Holding.accounted h

lemma Held.same {w v : TfWorld Ctx} (h : Held w) (hsame : Same w v) : Held v := by
  unfold Held
  rw [hsame.slots, hsame.calls]
  exact h

/-- A span that was dropped is nowhere. -/
lemma Drops.not_accounted {w v : TfWorld Ctx} (h : Held w) (hdrops : Drops w v) :
    ¬ Accounted v := by
  obtain ⟨k, span, cs, hheld, hslots, hcalls, hstarts, hends⟩ := hdrops
  have hstarted : span ∈ startedSpans v.calls := by
    rw [hcalls, startedSpans_append, hstarts, List.append_nil]
    exact h.started k span hheld
  intro haccounted
  rcases haccounted span hstarted with hend | ⟨j, hj⟩
  · rw [← mem_finishedSpans, hcalls, finishedSpans_append, hends, List.append_nil,
      mem_finishedSpans] at hend
    exact h.unended k span hheld hend
  · rw [hslots] at hj
    by_cases hjk : j = k
    · simp [hjk] at hj
    · rw [Function.update_of_ne hjk] at hj
      exact hjk (h.once j k span hj hheld)

lemma held_init (current : Ctx) (graph : List Node) (contextAttr : ℕ → Option Ctx) :
    Held (init current graph contextAttr) := by
  refine holding_nil fun k => ?_
  cases k <;> rfl

variable [ContextApi Ctx]

def step (w : TfWorld Ctx) (ev : Event Ctx) : TfWorld Ctx :=
  (receive ev.failing.faults ev.notification { w with current := ev.current }).2

/-- The receiver returns, no span is lost, and the listener changes as if nothing had raised or
not at all. -/
def Unharmed (w : TfWorld Ctx) (ev : Event Ctx) : Prop :=
  let v := { w with current := ev.current }
  (receive ev.failing.faults ev.notification v).1 = .ok () ∧ Accounted (step w ev) ∧
    (SameFields w (step w ev) ∨ SameFields (receive noFaults ev.notification v).2 (step w ev))

/-- No annotation raises of a span that is to be ended. -/
def Spared (w : TfWorld Ctx) (ev : Event Ctx) : Prop :=
  ¬ Loses ev.failing ev.notification { w with current := ev.current }

lemma Held.react {w : TfWorld Ctx} (h : Held w) (m : Meaning) : Held (react m w) := by
  unfold Held
  rcases react_moved m w with ⟨hslots, hcalls⟩ |
      ⟨k, parent, name, attributes, hfree, hslots, hcalls⟩ |
      ⟨k, span, cs, hheld, hslots, hcalls, habout, hstarts, hends⟩ <;> rw [hslots, hcalls]
  · exact h
  · exact h.opens hfree
  · exact h.closes hheld habout hstarts hends

/-- **One notification**, in a state where every span is accounted for. -/
lemma unharmed_iff {w : TfWorld Ctx} (h : Held w) (ev : Event Ctx) :
    (Unharmed w ev ↔ Spared w ev) ∧ (Spared w ev → Held (step w ev)) := by
  have hv : Held { w with current := ev.current } := h
  obtain ⟨hok, hkept, hlost⟩ :=
    receive_spec ev.failing ev.notification { w with current := ev.current }
  have hheld : Spared w ev → Held (step w ev) := by
    intro hspared
    rcases hkept hspared with hsame | hsame
    · exact hv.same hsame
    · exact (hv.react _).same hsame
  refine ⟨⟨fun hunharmed hloses => ?_, fun hspared => ⟨hok, (hheld hspared).accounted, ?_⟩⟩, hheld⟩
  · exact (hlost hloses).not_accounted hv hunharmed.2.1
  · rcases hkept hspared with hsame | hsame
    · exact Or.inl ⟨hsame.slots, hsame.context⟩
    · right
      rw [receive_apply]
      exact ⟨hsame.slots, hsame.context⟩

/-- **Spans are lost by annotations and by nothing else.** Whatever else raises while
notifications are handled, in a run of any length: every notification is handled unharmed exactly
when no annotation raises of a span that is to be ended. -/
theorem unharmed_iff_spared (current : Ctx) (graph : List Node) (contextAttr : ℕ → Option Ctx)
    (evs : List (Event Ctx)) :
    Runs.Legal Unharmed step (init current graph contextAttr) evs ↔
      Runs.Legal Spared step (init current graph contextAttr) evs := by
  refine Runs.legal_iff (I := Held) (fun w ev h => (unharmed_iff h ev).1) ?_
    (held_init current graph contextAttr) evs
  intro w ev h hunharmed
  obtain ⟨hiff, hheld⟩ := unharmed_iff h ev
  exact hheld (hiff.mp hunharmed)

end

/-- `set_status` raises. -/
def statusRaises : Failing where
  faults s := if s = .setStatus then some (exn "ValueError" "") else none
  exceptions s e h := by
    by_cases hs : s = .setStatus
    · rw [if_pos hs, Option.some.injEq] at h
      exact h ▸ rfl
    · simp [hs] at h
  ends := rfl

def quiet : Failing := ⟨noFaults, nofun, rfl⟩

/-- The flow has failed, its span cannot be marked so, and is not ended. -/
theorem failed_flow_loses_span :
    let details : Details := ⟨.str, .other⟩
    ¬ Runs.Legal Unharmed step (init (empty : BareContext) [] fun _ => none)
      [⟨quiet, empty, .flow .running details⟩, ⟨statusRaises, empty, .flow .failure details⟩] := by
  rintro details ⟨-, hunharmed, -⟩
  have hstarted := unharmed_iff (held_init (empty : BareContext) [] fun _ => none)
    ⟨quiet, empty, .flow .running details⟩
  have hfinished := unharmed_iff (hstarted.2 id)
    ⟨statusRaises, empty, .flow .failure details⟩
  exact hfinished.1.mp hunharmed ⟨rfl, rfl, rfl⟩

end OtelOpenstack.LostSpans
