import OtelOpenstack.Brackets
import OtelOpenstack.Scopes

/-!
Programs with wrappers on their calls, nested in any way.

A program is its own code, sequences of it, exception handling, spans of its own, and calls of
wrapped callables, each of which is a program again. Each wrapper may meet faults of its own.
-/

set_option autoImplicit false

namespace OtelOpenstack.Programs

open Effects Python Otel ContextApi Carriers Http Brackets HopSpecs Scopes

/-- Asking whether instrumentation is enabled does not raise, and ending a span does not. -/
structure Tame (F : Faults) : Prop where
  guard : F (.other "is_instrumentation_enabled") = none
  endSpan : F .endSpan = none

lemma tame_noFaults : Tame noFaults := ⟨rfl, rfl⟩

/-- A condition on a program's own code. -/
abbrev Condition (Ctx H : Type) := (α : Type) → Code Ctx H α → Prop

section

variable {Ctx H : Type} [Propagator Ctx]

/-- The first program is the second one with wrappers on its calls. -/
inductive Instruments (Own : Condition Ctx H) :
    (α : Type) → Code Ctx H α → Code Ctx H α → Prop
  | own {α : Type} {m : Code Ctx H α} (h : Own α m) : Instruments Own α m m
  | seq {α β : Type} {m m' : Code Ctx H α} {f f' : α → Code Ctx H β}
    (hm : Instruments Own α m m') (hf : ∀ a, Instruments Own β (f a) (f' a)) :
    Instruments Own β (m >>= f) (m' >>= f')
  | handled {α : Type} {m m' : Code Ctx H α} {k k' : Exn → Code Ctx H α}
    (hm : Instruments Own α m m') (hk : ∀ e, Instruments Own α (k e) (k' e)) :
    Instruments Own α (tryExcept m k) (tryExcept m' k')
  | cleanup {α : Type} {m m' : Code Ctx H α} {f f' : Code Ctx H Unit}
    (hm : Instruments Own α m m') (hf : Instruments Own Unit f f') :
    Instruments Own α (tryFinally m f) (tryFinally m' f')
  | span {α : Type} {F : Faults} (hF : Tame F) (name : String) (kind : SpanKind)
    (context : Option Ctx) (attributes : Dict) {body body' : SpanContext → Code Ctx H α}
    (h : ∀ s, Instruments Own α (body s) (body' s)) :
    Instruments Own α (startAsCurrentSpan F name kind context attributes body)
      (startAsCurrentSpan F name kind context attributes body')
  | session {α : Type} {F : Faults} (hF : Tame F) (r : Reading α) {wrapped plain : Wrapped Ctx H α}
    (h : ∀ args kwargs, Instruments Own α (wrapped args kwargs) (plain args kwargs))
    (args : Args) (kwargs : Kwargs) :
    Instruments Own α (KeystoneAuth.requestWrapper F r wrapped args kwargs) (plain args kwargs)
  | proxy {α : Type} {F : Faults} (hF : Tame F) (r : Reading α) (proxy : OpenStackSdk.Proxy)
    {wrapped plain : Wrapped Ctx H α}
    (h : ∀ args kwargs, Instruments Own α (wrapped args kwargs) (plain args kwargs))
    (args : Args) (kwargs : Kwargs) :
    Instruments Own α (OpenStackSdk.requestWrapper F r proxy wrapped args kwargs)
      (plain args kwargs)
  | send {α : Type} {F : Faults} (hF : Tame F) (isNotification : Bool) (transport : Option String)
    {wrapped plain : Wrapped Ctx H α}
    (h : ∀ args kwargs, Instruments Own α (wrapped args kwargs) (plain args kwargs))
    (args : Args) (kwargs : Kwargs) :
    Instruments Own α (Messaging.injectWrapper F isNotification transport wrapped args kwargs)
      (plain args kwargs)
  | rpcDispatch {α : Type} {F : Faults} (hF : Tame F) {wrapped plain : Wrapped Ctx H α}
    (h : ∀ args kwargs, Instruments Own α (wrapped args kwargs) (plain args kwargs))
    (args : Args) (kwargs : Kwargs) :
    Instruments Own α (Messaging.rpcServerWrapper F wrapped args kwargs) (plain args kwargs)
  | notificationDispatch {α : Type} {F : Faults} (hF : Tame F) {wrapped plain : Wrapped Ctx H α}
    (h : ∀ args kwargs, Instruments Own α (wrapped args kwargs) (plain args kwargs))
    (args : Args) (kwargs : Kwargs) :
    Instruments Own α (Messaging.notificationServerWrapper F wrapped args kwargs)
      (plain args kwargs)
  | request {α : Type} {F : Faults} (hF : Tame F) (r : Reading α)
    {wrapped plain : KeystoneMiddleware.Invocation Ctx H → Code Ctx H α}
    (hwsgi : ∀ environ start, (∀ status rest, Own Arg (start status rest)) →
      Instruments Own α (wrapped (.wsgi environ start)) (plain (.wsgi environ start)))
    (hother : ∀ args kwargs,
      Instruments Own α (wrapped (.other args kwargs)) (plain (.other args kwargs)))
    (i : KeystoneMiddleware.Invocation Ctx H)
    (hi : ∀ environ start, i = .wsgi environ start → ∀ status rest, Own Arg (start status rest)) :
    Instruments Own α (KeystoneMiddleware.callWrapper F r wrapped i) (plain i)
  | process {α : Type} {F : Faults} (hF : Tame F) (tuple : List String → Val)
    {wrapped plain : List (Authentication.Request H) →
      List (String × Authentication.Request H) → Code Ctx H α}
    (h : ∀ args kwargs, Instruments Own α (wrapped args kwargs) (plain args kwargs))
    (args : List (Authentication.Request H)) (kwargs : List (String × Authentication.Request H)) :
    Instruments Own α (Authentication.processRequestWrapper F tuple wrapped args kwargs)
      (plain args kwargs)

end

/-! ### Spans that nest -/

def markOf : Call → Mark SpanContext
  | .start span _ _ _ _ => .opens span
  | .finish span => .closes span
  | _ => .neither

/-- Only spans of messages may stay open: their attributes are recorded before `use_span`. -/
def MayStay : Call → Prop
  | .start _ _ _ kind _ => kind = .producer ∨ kind = .consumer
  | _ => False

section

variable {Ctx H α β : Type}

/-- The ids of the spans started by these calls, where `n` were started before. -/
def Counted (n : ℕ) (cs : List Call) : Prop :=
  (startedSpans cs).map SpanContext.spanId = List.range' (n + 1) (startedSpans cs).length

/-- Since `w` spans were started and ended in order. -/
def Nests (w v : World Ctx H) : Prop :=
  ∃ cs, v.calls = w.calls ++ cs ∧ Bracketed markOf MayStay cs ∧
    Counted (startedSpans w.calls).length cs

lemma opened_eq (cs : List Call) : opened markOf cs = startedSpans cs := by
  unfold opened startedSpans
  congr 1
  funext c
  cases c <;> rfl

lemma closed_eq (cs : List Call) : closed markOf cs = finishedSpans cs := by
  unfold closed finishedSpans
  congr 1
  funext c
  cases c <;> rfl

lemma Counted.append {n : ℕ} {cs ds : List Call} (h : Counted n cs)
    (h' : Counted (n + (startedSpans cs).length) ds) : Counted n (cs ++ ds) := by
  unfold Counted at h h' ⊢
  rw [startedSpans_append, List.map_append, h, h', List.length_append, List.range'_append_1.symm]
  congr 2
  omega

lemma counted_of_quiet {n : ℕ} {cs : List Call} (h : startedSpans cs = []) : Counted n cs := by
  simp [Counted, h]

lemma nests_refl (w : World Ctx H) : Nests w w :=
  ⟨[], (List.append_nil _).symm, .nil, counted_of_quiet rfl⟩

lemma nests_trans (u v w : World Ctx H) (h : Nests u v) (h' : Nests v w) : Nests u w := by
  obtain ⟨cs, hv, hcs, hcount⟩ := h
  obtain ⟨ds, hw, hds, hcount'⟩ := h'
  refine ⟨cs ++ ds, by rw [hw, hv, List.append_assoc], hcs.append hds, hcount.append ?_⟩
  rwa [hv, startedSpans_append, List.length_append] at hcount'

/-- Since `w` no span was started or ended. -/
def Spanless (w v : World Ctx H) : Prop := ∃ cs, Quiet cs ∧ v.calls = w.calls ++ cs

lemma quiet_neither {cs : List Call} (h : Quiet cs) : ∀ c ∈ cs, markOf c = .neither := by
  intro c hc
  cases c with
  | start span parent name kind attributes =>
    have hmem := mem_startedSpans hc
    rw [h.1] at hmem
    exact absurd hmem (List.not_mem_nil)
  | finish span =>
    have hmem := mem_finishedSpans.mpr hc
    rw [h.2] at hmem
    exact absurd hmem (List.not_mem_nil)
  | _ => rfl

lemma nests_of_spanless {w v : World Ctx H} (h : Spanless w v) : Nests w v := by
  obtain ⟨cs, hquiet, hv⟩ := h
  exact ⟨cs, hv, bracketed_of_neither (quiet_neither hquiet), counted_of_quiet hquiet.1⟩

lemma nests_of_calls {w v : World Ctx H} (h : v.calls = w.calls) : Nests w v :=
  nests_of_spanless ⟨[], quiet_nil, by rw [h, List.append_nil]⟩

lemma record_nests {c : Call} (h : Quiet [c]) (F : Faults) (s : Step) :
    Keeps Nests (do mayRaise F s; record c : Code Ctx H Unit) := by
  apply Keeps.bind nests_trans
  · intro w
    rw [mayRaise_silent F s w]
    exact nests_refl w
  · intro _ w
    exact nests_of_spanless ⟨[c], h, rfl⟩

lemma annotates_nests : Annotates (Nests : World Ctx H → World Ctx H → Prop) where
  refl := nests_refl
  trans := nests_trans
  setAttribute F _ _ _ := record_nests ⟨rfl, rfl⟩ F _
  setStatus F _ _ _ := record_nests ⟨rfl, rfl⟩ F _

/-- Since `w` spans nest, and after that `span` was ended, unless the kind of span may stay
open. -/
def Finishes (kind : SpanKind) (span : SpanContext) (m : Code Ctx H α) : Prop :=
  ∀ w, ∃ v, Nests w v ∧ ((m w).2.calls = v.calls ++ [.finish span] ∨
    (kind = .producer ∨ kind = .consumer) ∧ (m w).2.calls = v.calls)

lemma finishes_bind {kind : SpanKind} {span : SpanContext} {m : Code Ctx H α}
    {f : α → Code Ctx H β} (hkind : kind = .producer ∨ kind = .consumer) (hm : Keeps Nests m)
    (hf : ∀ a, Finishes kind span (f a)) : Finishes kind span (m >>= f) := by
  intro w
  have hw := hm w
  rcases hres : m w with ⟨e | a, v⟩ <;> rw [hres] at hw
  · exact ⟨v, hw, Or.inr ⟨hkind, by rw [bind_of_error hres]⟩⟩
  · obtain ⟨u, hu, hlast⟩ := hf a v
    exact ⟨u, nests_trans _ _ _ hw hu, by rwa [bind_of_ok hres]⟩

variable [ContextApi Ctx]

lemma finishes_useSpan {F : Faults} (hF : F .endSpan = none) (kind : SpanKind)
    (span : SpanContext) {body : Code Ctx H α} (h : Keeps Nests body) :
    Finishes kind span (useSpan F span body) := by
  have hinner : Keeps Nests (tryExcept
      (do
        let c ← getCurrent
        let token ← attach (setSpan span c)
        tryFinally body (detach token))
      fun e => do
        if e.isException && isRecording Ctx span then
          recordException F span e
          setStatus F span .error (some (described e))
        raise e : Code Ctx H α) := by
    apply Keeps.tryExcept nests_trans
    · apply Keeps.bind nests_trans (Keeps.reads nests_refl _)
      intro c
      apply Keeps.bind nests_trans (fun w => nests_of_calls rfl)
      intro token
      exact Keeps.tryFinally nests_trans h fun w => nests_of_calls rfl
    · intro e
      dsimp only
      apply Keeps.ite _ (Keeps.raise nests_refl e)
      apply Keeps.bind nests_trans (record_nests ⟨rfl, rfl⟩ F _)
      intro _
      apply Keeps.bind nests_trans (annotates_nests.setStatus F span _ _)
      intro _
      exact Keeps.raise nests_refl e
  intro w
  refine ⟨_, hinner w, Or.inl ?_⟩
  unfold useSpan Effects.tryFinally endSpan mayRaise
  rw [hF]
  rfl

/-- A span that is started, and ended last. -/
lemma nests_start {F : Faults} {name : String} {kind : SpanKind} {context : Option Ctx}
    {attributes : Dict} {f : SpanContext → Code Ctx H α}
    (h : ∀ span, Finishes kind span (f span)) :
    Keeps Nests (startSpan F name kind context attributes >>= f) := by
  intro w
  cases hF : F .startSpan with
  | some e =>
    have herr : startSpan F name kind context attributes w = (.error e, w) := by
      unfold startSpan mayRaise
      rw [hF]
      rfl
    rw [bind_of_error herr]
    exact nests_refl w
  | none =>
    let parent := spanIn (context.getD w.current)
    let span := newSpan w.calls parent
    let start : Call := .start span parent name kind attributes
    have hok : startSpan F name kind context attributes w = (.ok span, w.called [start]) := by
      unfold startSpan mayRaise
      rw [hF]
      rfl
    rw [bind_of_ok hok]
    obtain ⟨v, ⟨cs, hv, hcs, hcount⟩, hlast⟩ := h span (w.called [start])
    have hfirst : Counted (startedSpans w.calls).length [start] := by
      simp [Counted, start, startedSpans, Call.started, span, newSpan]
    have hrest : Counted ((startedSpans w.calls).length + (startedSpans [start]).length) cs := by
      simpa [World.called] using hcount
    rcases hlast with hend | ⟨hkind, hopen⟩
    · refine ⟨start :: (cs ++ [.finish span]), ?_, hcs.around rfl rfl, ?_⟩
      · rw [hend, hv]
        simp [World.called]
      · have hquiet : startedSpans [Call.finish span] = [] := rfl
        exact hfirst.append (hrest.append (counted_of_quiet hquiet))
    · refine ⟨start :: cs, ?_, .stays rfl hkind hcs, hfirst.append hrest⟩
      rw [hopen, hv]
      simp [World.called]

lemma nests_span {F : Faults} (hF : Tame F) {name : String} {kind : SpanKind}
    {context : Option Ctx} {attributes : Dict} {body : SpanContext → Code Ctx H α}
    (h : ∀ span, Keeps Nests (body span)) :
    Keeps Nests (do
      let span ← startSpan F name kind context attributes
      useSpan F span (body span)) :=
  nests_start fun span => finishes_useSpan hF.endSpan kind span (h span)

end

/-! ### Recording messages -/

section

open Messaging

variable {Ctx H : Type} (F : Faults) (span : SpanContext)
  {R : World Ctx H → World Ctx H → Prop} (hR : Annotates R)

include hR

lemma setText_keeps (key : String) (value : Val) :
    Keeps R (setText F span key value : Code Ctx H Unit) := by
  apply Keeps.bind hR.trans (Keeps.liftExcept hR.refl _)
  intro text
  exact hR.setAttribute F span _ _

lemma setRequestId_keeps (ctxt : Arg) : Keeps R (setRequestId F span ctxt : Code Ctx H Unit) := by
  apply Keeps.ite (Keeps.pure hR.refl ())
  apply Keeps.bind hR.trans (Keeps.reads hR.refl _)
  intro dicts
  apply Keeps.bind hR.trans (Keeps.liftExcept hR.refl _)
  intro requestId
  apply Keeps.bind hR.trans (Keeps.liftExcept hR.refl _)
  intro given
  apply Keeps.ite (Keeps.pure hR.refl ())
  apply Keeps.bind hR.trans (setText_keeps F span hR _ _)
  intro _
  exact setText_keeps F span hR _ _

lemma setSystem_keeps (system operation : String) {rest : Code Ctx H Unit} (h : Keeps R rest) :
    Keeps R (do
      setAttribute F span "messaging.system" (.str system)
      setAttribute F span "messaging.operation" (.str operation)
      setAttribute F span "messaging.operation.name" (.str operation)
      rest) := by
  apply Keeps.bind hR.trans (hR.setAttribute F span _ _)
  intro _
  apply Keeps.bind hR.trans (hR.setAttribute F span _ _)
  intro _
  apply Keeps.bind hR.trans (hR.setAttribute F span _ _)
  intro _
  exact h

lemma setRpcAttributes_keeps (ctxt : Arg) (method namespaceOf : Val)
    (system operation : String) :
    Keeps R (setRpcAttributes F span ctxt method namespaceOf system operation :
      Code Ctx H Unit) := by
  apply setSystem_keeps F span hR
  apply Keeps.bind hR.trans (hR.setAttribute F span _ _)
  intro _
  apply Keeps.bind hR.trans (Keeps.onlyIf hR.refl (setText_keeps F span hR _ _))
  intro _
  apply Keeps.bind hR.trans (Keeps.liftExcept hR.refl _)
  intro given
  apply Keeps.bind hR.trans (Keeps.onlyIf hR.refl (setText_keeps F span hR _ _))
  intro _
  exact setRequestId_keeps F span hR ctxt

lemma setNotificationAttributes_keeps (system operation : String) (ctxt : Arg)
    (eventType priority publisherId : Val) :
    Keeps R (setNotificationAttributes F span system operation ctxt eventType priority
      publisherId : Code Ctx H Unit) := by
  have hunless (key : String) (value : Val) :
      Keeps R (setUnlessNone F span key value : Code Ctx H Unit) :=
    Keeps.onlyIf hR.refl (hR.setAttribute F span key value)
  apply setSystem_keeps F span hR
  apply Keeps.bind hR.trans (setRequestId_keeps F span hR ctxt)
  intro _
  apply Keeps.bind hR.trans (hunless _ _)
  intro _
  apply Keeps.bind hR.trans (hunless _ _)
  intro _
  exact hunless _ _

lemma setIfTrue_keeps (key : String) (value : Except Exn Val) :
    Keeps R (setIfTrue F span key value : Code Ctx H Unit) := by
  apply Keeps.bind hR.trans (Keeps.liftExcept hR.refl _)
  intro v
  apply Keeps.bind hR.trans (Keeps.liftExcept hR.refl _)
  intro given
  exact Keeps.onlyIf hR.refl (hR.setAttribute F span _ _)

lemma setSendAttributes_keeps (isNotification : Bool) (transport : Option String)
    (ctxt target message waitForReply : Arg) :
    Keeps R (setSendAttributes F isNotification span transport ctxt target message
      waitForReply : Code Ctx H Unit) := by
  apply Keeps.bind hR.trans (setIfTrue_keeps F span hR _ _)
  intro _
  apply Keeps.bind hR.trans (setIfTrue_keeps F span hR _ _)
  intro _
  apply Keeps.bind hR.trans (Keeps.reads hR.refl _)
  intro dicts
  apply Keeps.ite
  · apply Keeps.bind hR.trans (Keeps.liftExcept hR.refl _)
    intro eventType
    apply Keeps.bind hR.trans (Keeps.liftExcept hR.refl _)
    intro priority
    apply Keeps.bind hR.trans (Keeps.liftExcept hR.refl _)
    intro publisherId
    exact setNotificationAttributes_keeps F span hR _ _ _ _ _ _
  · apply Keeps.bind hR.trans (Keeps.liftExcept hR.refl _)
    intro method
    apply Keeps.bind hR.trans (Keeps.liftExcept hR.refl _)
    intro namespaceOf
    apply Keeps.bind hR.trans (Keeps.liftExcept hR.refl _)
    intro waits
    exact setRpcAttributes_keeps F span hR _ _ _ _ _

end

/-! ### The wrappers -/

section

variable {Ctx H α : Type} [Propagator Ctx] {F : Faults}

omit [Propagator Ctx] in
lemma mayRaise_nests (F : Faults) (s : Step) : Keeps Nests (mayRaise F s : Code Ctx H Unit) :=
  mayRaise_keeps annotates_nests F s

omit [Propagator Ctx] in
lemma newDict_nests (d : Dict) : Keeps Nests (newDict d : Code Ctx H ℕ) :=
  fun _ => nests_of_calls rfl

omit [Propagator Ctx] in
lemma setItem_nests (carrier : Arg) (key : String) (value : Val) :
    Keeps Nests (setItem carrier key value : Code Ctx H Unit) := by
  intro w
  cases carrier <;> exact nests_of_calls rfl

lemma inject_nests (carrier : Arg) : Keeps Nests (inject F carrier : Code Ctx H Unit) := by
  apply Keeps.bind nests_trans (mayRaise_nests F _)
  intro _
  apply Keeps.bind nests_trans (Keeps.reads nests_refl _)
  intro c
  induction Propagator.headers c with
  | nil => exact Keeps.pure nests_refl ()
  | cons item items ih =>
    apply Keeps.bind nests_trans (setItem_nests carrier _ _)
    intro _
    exact ih

lemma extract_nests (carrier : Arg) : Keeps Nests (extract F carrier : Code Ctx H Ctx) := by
  apply Keeps.bind nests_trans (mayRaise_nests F _)
  intro _
  apply Keeps.bind nests_trans (Keeps.reads nests_refl _)
  intro dicts
  exact Keeps.liftExcept nests_refl _

lemma onException_nests (span : SpanContext) {handler : Exn → Code Ctx H Unit}
    {body : Code Ctx H α} (hhandler : ∀ e, Keeps Nests (handler e)) (hbody : Keeps Nests body) :
    Keeps Nests (onException F span handler body) := by
  apply Keeps.tryExcept nests_trans hbody
  intro e
  apply Keeps.bind nests_trans
  · apply Keeps.onlyIf nests_refl
    apply Keeps.bind nests_trans (mayRaise_nests F _)
    intro _
    exact Keeps.onlyIf nests_refl (hhandler e)
  · intro _
    exact Keeps.raise nests_refl e

/-- What comes of a wrapper that first asks whether instrumentation is enabled. -/
lemma guarded_nests {what : String} {off on : Code Ctx H α} (hoff : Keeps Nests off)
    (hon : Keeps Nests on) :
    Keeps Nests (do
      mayRaise F (.other what)
      let c ← getCurrent
      if !enabled c then off else on) := by
  apply Keeps.bind nests_trans (mayRaise_nests F _)
  intro _
  apply Keeps.bind nests_trans (Keeps.reads nests_refl _)
  intro c
  exact Keeps.ite hoff hon

/-- What an HTTP client wrapper does inside its span. -/
lemma client_nests (span : SpanContext) (r : Reading α) (copied : Except Exn Dict)
    {call : ℕ → Code Ctx H α} (hcall : ∀ ref, Keeps Nests (call ref)) :
    Keeps Nests (do
      let copy ← liftExcept copied
      let headers ← newDict copy
      inject F (.dict headers)
      let response ← call headers
      mayRaise F .isRecording
      onlyIf (isRecording Ctx span) (recordResponse F r span (r.response response))
      pure response) := by
  apply Keeps.bind nests_trans (Keeps.liftExcept nests_refl _)
  intro copy
  apply Keeps.bind nests_trans (newDict_nests copy)
  intro ref
  apply Keeps.bind nests_trans (inject_nests _)
  intro _
  apply Keeps.bind nests_trans (hcall ref)
  intro response
  apply Keeps.bind nests_trans (mayRaise_nests F _)
  intro _
  apply Keeps.bind nests_trans
  · exact Keeps.onlyIf nests_refl (recordResponse_keeps annotates_nests F r span _)
  · intro _
    exact Keeps.pure nests_refl response

lemma session_nests (hF : Tame F) (r : Reading α) {wrapped : Wrapped Ctx H α}
    (h : ∀ args kwargs, Keeps Nests (wrapped args kwargs)) (args : Args) (kwargs : Kwargs) :
    Keeps Nests (KeystoneAuth.requestWrapper F r wrapped args kwargs) := by
  apply guarded_nests (h args kwargs)
  apply Keeps.bind nests_trans (Keeps.reads nests_refl _)
  intro dicts
  apply Keeps.bind nests_trans (Keeps.liftExcept nests_refl _)
  intro method
  apply Keeps.bind nests_trans (Keeps.liftExcept nests_refl _)
  intro url
  apply Keeps.bind nests_trans (Keeps.liftExcept nests_refl _)
  intro service
  apply Keeps.bind nests_trans (Keeps.liftExcept nests_refl _)
  intro parsed
  apply Keeps.bind nests_trans (Keeps.liftExcept nests_refl _)
  intro attributes
  apply nests_span hF
  intro span
  apply client_nests
  intro ref
  exact onException_nests span (recordError_keeps annotates_nests F r span) (h _ _)

lemma proxy_nests (hF : Tame F) (r : Reading α) (proxy : OpenStackSdk.Proxy)
    {wrapped : Wrapped Ctx H α} (h : ∀ args kwargs, Keeps Nests (wrapped args kwargs))
    (args : Args) (kwargs : Kwargs) :
    Keeps Nests (OpenStackSdk.requestWrapper F r proxy wrapped args kwargs) := by
  apply guarded_nests (h args kwargs)
  apply Keeps.bind nests_trans (Keeps.reads nests_refl _)
  intro dicts
  apply Keeps.bind nests_trans (Keeps.liftExcept nests_refl _)
  intro method
  apply Keeps.bind nests_trans (Keeps.liftExcept nests_refl _)
  intro url
  apply Keeps.bind nests_trans (Keeps.liftExcept nests_refl _)
  intro requestId
  apply Keeps.bind nests_trans (Keeps.liftExcept nests_refl _)
  intro service
  apply Keeps.bind nests_trans (Keeps.liftExcept nests_refl _)
  intro region
  apply Keeps.bind nests_trans (Keeps.liftExcept nests_refl _)
  intro names
  apply Keeps.bind nests_trans (Keeps.liftExcept nests_refl _)
  intro attributes
  apply nests_span hF
  intro span
  exact client_nests span r _ fun ref => h _ _

lemma request_nests (hF : Tame F) (r : Reading α)
    {wrapped : KeystoneMiddleware.Invocation Ctx H → Code Ctx H α}
    (hwsgi : ∀ environ start, (∀ status rest, Keeps Spanless (start status rest)) →
      Keeps Nests (wrapped (.wsgi environ start)))
    (hother : ∀ args kwargs, Keeps Nests (wrapped (.other args kwargs)))
    {i : KeystoneMiddleware.Invocation Ctx H}
    (hi : ∀ environ start, i = .wsgi environ start →
      ∀ status rest, Keeps Spanless (start status rest)) :
    Keeps Nests (KeystoneMiddleware.callWrapper F r wrapped i) := by
  cases i with
  | other args kwargs =>
    apply Keeps.bind nests_trans (mayRaise_nests F _)
    intro _
    exact hother args kwargs
  | wsgi environ start =>
    have hstart := hi environ start rfl
    apply guarded_nests (hwsgi environ start hstart)
    apply Keeps.bind nests_trans
    · apply Keeps.bind nests_trans (Keeps.reads nests_refl _)
      intro c
      apply Keeps.ite (Keeps.pure nests_refl _)
      cases environ with
      | dict ref =>
        apply Keeps.bind nests_trans (mayRaise_nests F _)
        intro _
        apply Keeps.bind nests_trans (Keeps.reads nests_refl _)
        intro dicts
        apply Keeps.bind nests_trans (Keeps.liftExcept nests_refl _)
        intro parent
        exact Keeps.pure nests_refl _
      | _ => exact Keeps.pure nests_refl _
    rintro ⟨parent, kind⟩
    apply Keeps.bind nests_trans (Keeps.reads nests_refl _)
    intro dicts
    apply Keeps.bind nests_trans (Keeps.liftExcept nests_refl _)
    intro attributes
    apply Keeps.bind nests_trans (Keeps.liftExcept nests_refl _)
    intro name
    apply nests_span hF
    intro span
    apply Keeps.bind nests_trans (newDict_nests _)
    intro captured
    apply Keeps.bind nests_trans
    · apply onException_nests span (setErrorStatus_keeps annotates_nests F span)
      -- the start_response passed on notes the status and calls the one it was given
      apply hwsgi
      intro status rest w
      exact hstart status rest _
    intro result
    apply Keeps.bind nests_trans (mayRaise_nests F _)
    intro _
    apply Keeps.bind nests_trans
    · apply Keeps.onlyIf nests_refl
      apply Keeps.bind nests_trans (Keeps.reads nests_refl _)
      intro dicts
      exact recordStatus_keeps annotates_nests F r span _
    intro _
    exact Keeps.pure nests_refl result

lemma process_nests (hF : Tame F) (tuple : List String → Val)
    {wrapped : List (Authentication.Request H) → List (String × Authentication.Request H) →
      Code Ctx H α}
    (h : ∀ args kwargs, Keeps Nests (wrapped args kwargs))
    (args : List (Authentication.Request H)) (kwargs : List (String × Authentication.Request H)) :
    Keeps Nests (Authentication.processRequestWrapper F tuple wrapped args kwargs) := by
  have hrecord (span : SpanContext) : Keeps Nests
      (Authentication.recordRequest F tuple span (Authentication.requestArg args kwargs) :
        Code Ctx H Unit) :=
    recordRequest_keeps F tuple span annotates_nests _
  apply guarded_nests (h args kwargs)
  apply Keeps.bind nests_trans
  · apply Keeps.bind nests_trans (Keeps.reads nests_refl _)
    intro c
    apply Keeps.ite (Keeps.pure nests_refl _)
    apply Keeps.bind nests_trans (Keeps.reads nests_refl _)
    intro read
    apply Keeps.bind nests_trans (Keeps.liftExcept nests_refl _)
    intro headers
    split
    · exact Keeps.pure nests_refl _
    · apply Keeps.bind nests_trans (extract_nests _)
      intro parent
      exact Keeps.pure nests_refl _
  rintro ⟨parent, kind⟩
  apply nests_span hF
  intro span
  apply Keeps.bind nests_trans
  · refine onException_nests span (fun e => ?_) (h args kwargs)
    apply Keeps.bind nests_trans (setErrorStatus_keeps annotates_nests F span e)
    intro _
    exact hrecord span
  intro result
  apply Keeps.bind nests_trans (mayRaise_nests F _)
  intro _
  apply Keeps.bind nests_trans (Keeps.onlyIf nests_refl (hrecord span))
  intro _
  exact Keeps.pure nests_refl result

lemma send_nests (hF : Tame F) (isNotification : Bool) (transport : Option String)
    {wrapped : Wrapped Ctx H α} (h : ∀ args kwargs, Keeps Nests (wrapped args kwargs))
    (args : Args) (kwargs : Kwargs) :
    Keeps Nests (Messaging.injectWrapper F isNotification transport wrapped args kwargs) := by
  apply guarded_nests (h args kwargs)
  apply Keeps.bind nests_trans (Keeps.reads nests_refl _)
  intro dicts
  apply Keeps.bind nests_trans (Keeps.liftExcept nests_refl _)
  intro dest
  apply nests_start
  intro span
  apply finishes_bind (Or.inl rfl) (mayRaise_nests F _)
  intro _
  apply finishes_bind (Or.inl rfl)
  · exact Keeps.onlyIf nests_refl (setSendAttributes_keeps F span annotates_nests _ _ _ _ _ _)
  intro _
  apply finishes_useSpan hF.endSpan
  apply Keeps.bind nests_trans (Keeps.onlyIf nests_refl (inject_nests _))
  intro _
  exact h args kwargs

/-- What both dispatches do before they attach the message's context. -/
lemma received_nests (incoming : Arg) {off : Code Ctx H α}
    {rest : List Dict → Arg → Arg → Ctx → Code Ctx H α} (hoff : Keeps Nests off)
    (hrest : ∀ dicts ctxt message spanCtx, Keeps Nests (rest dicts ctxt message spanCtx)) :
    Keeps Nests (do
      mayRaise F (.other "is_instrumentation_enabled")
      let c ← getCurrent
      if !enabled c then off
      else do
        let dicts ← Messaging.getDicts
        mayRaise F (.other "getattr ctxt")
        let ctxt ← liftExcept (incoming.ctxt.orEmpty dicts)
        mayRaise F (.other "getattr message")
        let message ← liftExcept (incoming.message.orEmpty dicts)
        let spanCtx ← Messaging.spanContextOf F ctxt
        rest dicts ctxt message spanCtx) := by
  apply guarded_nests hoff
  apply Keeps.bind nests_trans (Keeps.reads nests_refl _)
  intro dicts
  apply Keeps.bind nests_trans (mayRaise_nests F _)
  intro _
  apply Keeps.bind nests_trans (Keeps.liftExcept nests_refl _)
  intro ctxt
  apply Keeps.bind nests_trans (mayRaise_nests F _)
  intro _
  apply Keeps.bind nests_trans (Keeps.liftExcept nests_refl _)
  intro message
  apply Keeps.bind nests_trans
  · apply Keeps.bind nests_trans (extract_nests ctxt)
    intro c
    apply Keeps.ite _ (Keeps.pure nests_refl c)
    apply Keeps.bind nests_trans (mayRaise_nests F _)
    intro _
    exact Keeps.reads nests_refl _
  intro spanCtx
  exact hrest dicts ctxt message spanCtx

omit [Propagator Ctx] in
/-- The message's context is attached around a consumer span. -/
lemma attached_nests (spanCtx : Ctx) {m : Code Ctx H α} (h : Keeps Nests m) :
    Keeps Nests (do
      let token ← attach spanCtx
      tryFinally m (detach token)) := by
  apply Keeps.bind nests_trans (fun w => nests_of_calls rfl)
  intro token
  exact Keeps.tryFinally nests_trans h fun w => nests_of_calls rfl

lemma rpcDispatch_nests (hF : Tame F) {wrapped : Wrapped Ctx H α}
    (h : ∀ args kwargs, Keeps Nests (wrapped args kwargs)) (args : Args) (kwargs : Kwargs) :
    Keeps Nests (Messaging.rpcServerWrapper F wrapped args kwargs) := by
  apply received_nests _ (h args kwargs)
  intro dicts ctxt message spanCtx
  apply Keeps.bind nests_trans (Keeps.liftExcept nests_refl _)
  intro method
  apply Keeps.bind nests_trans (Keeps.liftExcept nests_refl _)
  intro namespaceOf
  apply Keeps.bind nests_trans (Keeps.liftExcept nests_refl _)
  intro dest
  apply attached_nests
  apply nests_start
  intro span
  apply finishes_bind (Or.inr rfl) (mayRaise_nests F _)
  intro _
  apply finishes_bind (Or.inr rfl) (setRpcAttributes_keeps F span annotates_nests _ _ _ _ _)
  intro _
  apply finishes_bind (Or.inr rfl) (setIfTrue_keeps F span annotates_nests _ _)
  intro _
  exact finishes_useSpan hF.endSpan _ span (h args kwargs)

lemma notificationDispatch_nests (hF : Tame F) {wrapped : Wrapped Ctx H α}
    (h : ∀ args kwargs, Keeps Nests (wrapped args kwargs)) (args : Args) (kwargs : Kwargs) :
    Keeps Nests (Messaging.notificationServerWrapper F wrapped args kwargs) := by
  apply received_nests _ (h args kwargs)
  intro dicts ctxt message spanCtx
  apply Keeps.bind nests_trans (Keeps.liftExcept nests_refl _)
  intro eventType
  apply Keeps.bind nests_trans (Keeps.liftExcept nests_refl _)
  intro dest
  apply attached_nests
  apply nests_start
  intro span
  apply finishes_bind (Or.inr rfl) (mayRaise_nests F _)
  intro _
  apply finishes_bind (Or.inr rfl) (Keeps.liftExcept nests_refl _)
  intro eventType'
  apply finishes_bind (Or.inr rfl) (Keeps.liftExcept nests_refl _)
  intro priority
  apply finishes_bind (Or.inr rfl) (Keeps.liftExcept nests_refl _)
  intro publisherId
  apply finishes_bind (Or.inr rfl)
  · exact setNotificationAttributes_keeps F span annotates_nests _ _ _ _ _ _
  intro _
  apply finishes_bind (Or.inr rfl) (setIfTrue_keeps F span annotates_nests _ _)
  intro _
  exact finishes_useSpan hF.endSpan _ span (h args kwargs)

end

/-! ### Programs -/

section

variable {Ctx H α : Type} [Propagator Ctx]

/-- The program's own code starts and ends no span. -/
def OwnSpanless : Condition Ctx H := fun _ m => Keeps Spanless m

lemma nests_of_instruments {m n : Code Ctx H α} (h : Instruments OwnSpanless α m n) :
    Keeps Nests m := by
  induction h with
  | own h => exact fun w => nests_of_spanless (h w)
  | seq _ _ ihm ihf => exact Keeps.bind nests_trans ihm ihf
  | handled _ _ ihm ihk => exact Keeps.tryExcept nests_trans ihm ihk
  | cleanup _ _ ihm ihf => exact Keeps.tryFinally nests_trans ihm ihf
  | span hF name kind context attributes _ ih => exact nests_span hF ih
  | session hF r _ args kwargs ih => exact session_nests hF r ih args kwargs
  | proxy hF r proxy _ args kwargs ih => exact proxy_nests hF r proxy ih args kwargs
  | send hF isNotification transport _ args kwargs ih =>
    exact send_nests hF isNotification transport ih args kwargs
  | rpcDispatch hF _ args kwargs ih => exact rpcDispatch_nests hF ih args kwargs
  | notificationDispatch hF _ args kwargs ih => exact notificationDispatch_nests hF ih args kwargs
  | request hF r _ _ i hi ihwsgi ihother => exact request_nests hF r ihwsgi ihother hi
  | process hF tuple _ args kwargs ih => exact process_nests hF tuple ih args kwargs

lemma nodup_of_counted {n : ℕ} {cs : List Call} (h : Counted n cs) : (startedSpans cs).Nodup := by
  refine List.Nodup.of_map SpanContext.spanId ?_
  rw [h]
  exact List.nodup_range'

/-- **Spans nest.** In a run of a program with wrappers on its calls, whatever steps of theirs
raise, every span is another, none is ended twice or without being started, and a span that is
not one of a message is ended once, with every such span started in between ended in between. -/
theorem spans_nest {m n : Code Ctx H α} (h : Instruments OwnSpanless α m n) (w : World Ctx H) :
    ∃ cs, (m w).2.calls = w.calls ++ cs ∧ (startedSpans cs).Nodup ∧
      (∀ span ∈ finishedSpans cs,
        span ∈ startedSpans cs ∧ (finishedSpans cs).count span = 1) ∧
      ∀ pre span parent name kind attributes post,
        cs = pre ++ .start span parent name kind attributes :: post →
        kind ≠ .producer → kind ≠ .consumer →
        (finishedSpans cs).count span = 1 ∧
          ∃ inner rest, post = inner ++ .finish span :: rest ∧
            Bracketed markOf MayStay inner := by
  obtain ⟨cs, hcalls, hcs, hcount⟩ := nests_of_instruments h w
  have hnodup := nodup_of_counted hcount
  have hopened : (opened markOf cs).Nodup := by rwa [opened_eq]
  obtain ⟨left, hperm, -⟩ := hcs.opened_perm
  rw [opened_eq, closed_eq] at hperm
  have hone : ∀ span ∈ startedSpans cs, (finishedSpans cs).count span ≤ 1 ∧
      ((∀ c ∈ cs, markOf c = .opens span → ¬ MayStay c) →
        (finishedSpans cs).count span = 1) := by
    intro span hspan
    have hmem : span ∈ opened markOf cs := by rwa [opened_eq]
    have hclosed := hcs.closed_count hopened hmem
    rwa [closed_eq] at hclosed
  refine ⟨cs, hcalls, hnodup, fun span hspan => ?_, ?_⟩
  · have hstarted : span ∈ startedSpans cs := hperm.mem_iff.mpr (List.mem_append_left _ hspan)
    have hpos := List.count_pos_iff.mpr hspan
    have hle := (hone span hstarted).1
    exact ⟨hstarted, by omega⟩
  · rintro pre span parent name kind attributes post rfl hproducer hconsumer
    have hstays : ¬ MayStay (.start span parent name kind attributes) := by
      rintro (rfl | rfl)
      · exact hproducer rfl
      · exact hconsumer rfl
    obtain ⟨inner, c, rest, rfl, hc, hinner⟩ := hcs.matched rfl rfl hstays
    have hfinish : c = .finish span := by
      cases c with
      | finish s => exact congrArg Call.finish (Mark.closes.inj hc)
      | _ => exact absurd hc nofun
    subst hfinish
    have hmem : Call.finish span ∈
        pre ++ .start span parent name kind attributes :: (inner ++ .finish span :: rest) := by
      simp
    have hpos := List.count_pos_iff.mpr (mem_finishedSpans.mpr hmem)
    have hstart : Call.start span parent name kind attributes ∈
        pre ++ .start span parent name kind attributes :: (inner ++ .finish span :: rest) := by
      simp
    have hle := (hone span (mem_startedSpans hstart)).1
    exact ⟨by omega, inner, rest, rfl, hinner⟩

/-- A server that cannot be reached. -/
def unreachable : Exn := exn "ConnectFailure" "connection refused"

/-- A request that fails, inside a span of the program's own. -/
def failingRequest (request : Code BareContext Unit Unit) : Code BareContext Unit Unit :=
  startAsCurrentSpan noFaults "deploy" .internal none [] fun _ => request

def serversArgs : Args := [.val (.str "/servers"), .val (.str "GET")]

/-- `GET /servers`, by a session whose spans do not take a status. -/
def getServers (wrapped : Wrapped BareContext Unit Unit) : Code BareContext Unit Unit :=
  KeystoneAuth.requestWrapper (fun s => if s = .setStatus then some unreachable else none)
    .nothing wrapped serversArgs []

def idleWorld : World BareContext Unit := ⟨empty, [], [], ()⟩

lemma instruments_failingRequest {Own : Condition BareContext Unit}
    (hraise : Own Unit (raise unreachable)) :
    Instruments Own Unit (failingRequest (getServers fun _ _ => raise unreachable))
      (failingRequest (raise unreachable)) := by
  have hrequest : Instruments Own Unit (getServers fun _ _ => raise unreachable)
      ((fun _ _ => raise unreachable : Wrapped BareContext Unit Unit) serversArgs []) :=
    .session ⟨rfl, rfl⟩ _ (fun _ _ => .own hraise) _ _
  exact .span tame_noFaults _ _ _ _ fun _ => hrequest

theorem spans_nest_failing :
    ∃ cs, (failingRequest (getServers fun _ _ => raise unreachable) idleWorld).2.calls = cs ∧
      (startedSpans cs).Nodup := by
  have hown : OwnSpanless Unit (raise unreachable : Code BareContext Unit Unit) := fun w =>
    ⟨[], quiet_nil, (List.append_nil w.calls).symm⟩
  have h := instruments_failingRequest hown
  obtain ⟨cs, hcalls, hnodup, -⟩ := spans_nest h idleWorld
  exact ⟨cs, hcalls, hnodup⟩

/-! ### Programs while instrumentation is suppressed -/

/-- The program's own code leaves instrumentation suppressed where it is. -/
def OwnSuppressed : Condition Ctx H := fun _ m =>
  ∀ w, enabled w.current = false → enabled (m w).2.current = false

omit [Propagator Ctx] in
lemma useSpan_congr [ContextApi Ctx] (F : Faults) (span : SpanContext) {body body' : Code Ctx H α}
    {w : World Ctx H}
    (h : body { w with current := setSpan span w.current } =
      body' { w with current := setSpan span w.current }) :
    useSpan F span body w = useSpan F span body' w := by
  simp only [useSpan, Effects.tryFinally, tryExcept, bind_apply, getCurrent_apply, attach_apply, h]

omit [Propagator Ctx] in
lemma useSpan_current [ContextApi Ctx] (F : Faults) (span : SpanContext) (body : Code Ctx H α)
    (w : World Ctx H) : (useSpan F span body w).2.current = w.current := by
  let Same (u v : World Ctx H) : Prop := v.current = u.current
  have hrefl (u : World Ctx H) : Same u u := rfl
  have htrans (t u v : World Ctx H) (h : Same t u) (h' : Same u v) : Same t v := h'.trans h
  have hrecord (s : Step) (c : Call) :
      Keeps Same (do mayRaise F s; record c : Code Ctx H Unit) := by
    apply Keeps.bind htrans
    · intro u
      rw [mayRaise_silent F s u]
    · exact fun _ _ => rfl
  have hhandler (e : Exn) : Keeps Same (do
      if e.isException && isRecording Ctx span then
        recordException F span e
        setStatus F span .error (some (described e))
      raise e : Code Ctx H α) := by
    apply Keeps.ite _ (Keeps.raise hrefl e)
    apply Keeps.bind htrans (hrecord _ _)
    intro _
    apply Keeps.bind htrans (hrecord _ _)
    intro _
    exact Keeps.raise hrefl e
  have hblock : Keeps Same (do
      let c ← getCurrent
      let token ← attach (setSpan span c)
      tryFinally body (detach token) : Code Ctx H α) := by
    intro u
    simp only [Same, bind_apply, getCurrent_apply, attach_apply,
      Deliveries.tryFinally_detach_state]
  exact Keeps.tryFinally htrans (Keeps.tryExcept htrans hblock hhandler) (hrecord _ _) w

omit [Propagator Ctx] in
lemma asked_tame {F : Faults} (hF : Tame F) (w : World Ctx H) :
    mayRaise F (.other "is_instrumentation_enabled") w = (.ok (), w) := by
  unfold mayRaise
  rw [hF.guard]
  rfl

lemma guard_tame {F : Faults} (hF : Tame F) {off on : Code Ctx H α} {w : World Ctx H}
    (hoff : enabled w.current = false) :
    (do
      mayRaise F (.other "is_instrumentation_enabled")
      let c ← getCurrent
      if !enabled c then off else on) w = off w := by
  rw [bind_of_ok (asked_tame hF w), bind_of_ok (getCurrent_apply w), hoff]
  rfl

/-- **Suppression.** While instrumentation is suppressed a program with wrappers on its calls is
the program without them. -/
theorem suppressed_is_plain {m n : Code Ctx H α} (h : Instruments OwnSuppressed α m n)
    (w : World Ctx H) (hoff : enabled w.current = false) :
    m w = n w ∧ enabled (m w).2.current = false := by
  induction h generalizing w with
  | own h => exact ⟨rfl, h w hoff⟩
  | @seq α β m m' f f' _ _ ihm ihf =>
    obtain ⟨heq, hleft⟩ := ihm w hoff
    rw [bind_apply, bind_apply, ← heq]
    rcases hm : m w with ⟨e | a, v⟩ <;> rw [hm] at hleft
    · exact ⟨rfl, hleft⟩
    · exact ihf a v hleft
  | @handled α m m' k k' _ _ ihm ihk =>
    obtain ⟨heq, hleft⟩ := ihm w hoff
    unfold tryExcept
    rw [← heq]
    rcases hm : m w with ⟨e | a, v⟩ <;> rw [hm] at hleft
    · exact ihk e v hleft
    · exact ⟨rfl, hleft⟩
  | @cleanup α m m' f f' _ _ ihm ihf =>
    obtain ⟨heq, hleft⟩ := ihm w hoff
    unfold Effects.tryFinally
    rw [← heq]
    rcases hm : m w with ⟨r, v⟩
    rw [hm] at hleft
    obtain ⟨heq', hleft'⟩ := ihf v hleft
    dsimp only
    rw [← heq']
    rcases hf : f v with ⟨e | u, t⟩ <;> rw [hf] at hleft'
    · exact ⟨rfl, hleft'⟩
    · exact ⟨rfl, hleft'⟩
  | @span α F hF name kind context attributes body body' _ ih =>
    have hcurrent : (startSpan F name kind context attributes w).2.current = w.current := by
      unfold startSpan mayRaise
      cases F .startSpan <;> rfl
    unfold startAsCurrentSpan
    rw [bind_apply, bind_apply]
    rcases hstart : startSpan F name kind context attributes w with ⟨e | s, v⟩ <;>
      rw [hstart] at hcurrent
    · exact ⟨rfl, (congrArg enabled hcurrent).trans hoff⟩
    · have hv : enabled v.current = false := (congrArg enabled hcurrent).trans hoff
      have hinside := ih s { v with current := setSpan s v.current } (by rwa [enabled_setSpan])
      refine ⟨useSpan_congr F s hinside.1, ?_⟩
      dsimp only
      rw [useSpan_current]
      exact hv
  | session hF r _ args kwargs ih =>
    unfold KeystoneAuth.requestWrapper
    rw [guard_tame hF hoff]
    exact ih args kwargs w hoff
  | proxy hF r proxy _ args kwargs ih =>
    unfold OpenStackSdk.requestWrapper
    rw [guard_tame hF hoff]
    exact ih args kwargs w hoff
  | send hF isNotification transport _ args kwargs ih =>
    unfold Messaging.injectWrapper
    rw [guard_tame hF hoff]
    exact ih args kwargs w hoff
  | rpcDispatch hF _ args kwargs ih =>
    unfold Messaging.rpcServerWrapper
    rw [guard_tame hF hoff]
    exact ih args kwargs w hoff
  | notificationDispatch hF _ args kwargs ih =>
    unfold Messaging.notificationServerWrapper
    rw [guard_tame hF hoff]
    exact ih args kwargs w hoff
  | @request α F hF r wrapped plain _ _ i hi ihwsgi ihother =>
    cases i with
    | wsgi environ start =>
      have hpass : KeystoneMiddleware.callWrapper F r wrapped (.wsgi environ start) w =
          wrapped (.wsgi environ start) w := guard_tame hF hoff
      rw [hpass]
      exact ihwsgi environ start (hi environ start rfl) w hoff
    | other args kwargs =>
      have hpass : KeystoneMiddleware.callWrapper F r wrapped (.other args kwargs) w =
          wrapped (.other args kwargs) w := bind_of_ok (asked_tame hF w)
      rw [hpass]
      exact ihother args kwargs w hoff
  | process hF tuple _ args kwargs ih =>
    unfold Authentication.processRequestWrapper
    rw [guard_tame hF hoff]
    exact ih args kwargs w hoff

end

theorem suppressed_is_plain_failing :
    let w : World BareContext Unit := { idleWorld with current := ⟨invalidSpan, true⟩ }
    failingRequest (getServers fun _ _ => raise unreachable) w =
      failingRequest (raise unreachable) w := by
  intro w
  have hown : OwnSuppressed Unit (raise unreachable : Code BareContext Unit Unit) := fun _ hw => hw
  have h := instruments_failingRequest hown
  exact (suppressed_is_plain h w rfl).1

end OtelOpenstack.Programs
