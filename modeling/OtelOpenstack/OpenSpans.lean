import OtelOpenstack.FlowTraces
import OtelOpenstack.Ledger
import OtelOpenstack.Settlement

/-!
Which spans are open.

A span that has not ended is held: by a worker that is inside its wrapper, wherever on the
worker's stacks, or by an engine's listener. It is a token of a ledger, issued to the place that
holds it and retired when it ends; only the span of a message whose attributes raise when its
wrapper reads them is taken and never retired.
-/

set_option autoImplicit false

namespace OtelOpenstack.OpenSpans

open Effects Python Otel ContextApi Carriers Openings TraceContext Listener ListenerSteps
open Http (Reading)
open Traces (Op)
open SpawnedTraces (Joint Waiting worker ops_of_noStart ops_of_started)
open FlowTraces (Whole Body Event Ok listened)
open HopSpecs (environContext)
open Scopes (Opened Attempted Quiet)
open Settlement
open Runs (run Legal inv_with_record getElem?_append_of_some)

/-! ### Workers -/

section

variable {U Ctx H α : Type}

/-- The frame's span, which its way out ends. -/
def Sound (ops : List Op) (f : Traces.Frame Ctx H α) : Prop :=
  ∃ op, ops[f.op]? = some op ∧ Settles op.span f.exit

lemma Sound.append {ops : List Op} {f : Traces.Frame Ctx H α} (h : Sound ops f)
    (more : List Op) : Sound (ops ++ more) f := by
  obtain ⟨op, hop, hexit⟩ := h
  exact ⟨op, getElem?_append_of_some hop more, hexit⟩

/-- A way in raises, having started `span`. -/
def Raises {ι : Type} (enter : Code Ctx H (Opening Ctx H ι α)) (w : World Ctx H)
    (span : SpanContext) : Prop :=
  ∃ e v, enter w = (.error e, v) ∧ span ∈ startedSpans (v.calls.drop w.calls.length)

/-- What a step of worker `u` does to the spans and to the frames; a span may be started that is
not ended and in no frame, if it is one of `lost`. -/
inductive Stepped (lost : SpanContext → Prop) (sys : Traces.Sys U Ctx H α) (u : U)
    (sys' : Traces.Sys U Ctx H α) : Prop
  | quiet (hcalls : sys'.calls = sys.calls) (hops : sys'.ops = sys.ops)
      (hframes : ∀ u', (sys'.workers u').frames = (sys.workers u').frames)
  | opened (op : Op) (parent : SpanContext) (name : String) (attributes : Dict) (cs : List Call)
      (f : Traces.Frame Ctx H α) (hspan : op.span = newSpan sys.calls parent) (hquiet : Quiet cs)
      (hcalls : sys'.calls =
        sys.calls ++ .start op.span parent name op.kind attributes :: cs)
      (hops : sys'.ops = sys.ops ++ [op]) (hf : f.op = sys.ops.length)
      (hexit : Settles op.span f.exit)
      (htop : (sys'.workers u).frames = f :: (sys.workers u).frames)
      (hframes : ∀ u', u' ≠ u → (sys'.workers u').frames = (sys.workers u').frames)
  | attempted (op : Op) (parent : SpanContext) (name : String) (attributes : Dict)
      (cs : List Call) (hspan : op.span = newSpan sys.calls parent)
      (hstarted : startedSpans cs = [])
      (hended : finishedSpans cs = [op.span] ∨
        finishedSpans cs = [] ∧ lost op.span ∧ IsMessage op.kind)
      (hcalls : sys'.calls =
        sys.calls ++ .start op.span parent name op.kind attributes :: cs)
      (hops : sys'.ops = sys.ops ++ [op])
      (hframes : ∀ u', (sys'.workers u').frames = (sys.workers u').frames)
  | settled (f : Traces.Frame Ctx H α) (op : Op) (cs : List Call)
      (hop : sys.ops[f.op]? = some op) (hstarted : startedSpans cs = [])
      (hended : finishedSpans cs = [op.span]) (hcalls : sys'.calls = sys.calls ++ cs)
      (hops : sys'.ops = sys.ops) (htop : (sys.workers u).frames = f :: (sys'.workers u).frames)
      (hframes : ∀ u', u' ≠ u → (sys'.workers u').frames = (sys.workers u').frames)

variable [DecidableEq U] [Propagator Ctx] {sys : Traces.Sys U Ctx H α} {u : U}
  {lost : SpanContext → Prop}

/-- The wrapper of a send or of a dispatch raises on its way in, having started `span`, and
reading the attributes of the message for it raises. -/
def Drops (sys : Traces.Sys U Ctx H α) (e : Traces.Event U Ctx H α) (span : SpanContext) : Prop :=
  match e with
  | .send u isNotification transport args kwargs =>
    Raises (Hops.send (α := α) isNotification transport args kwargs).enter (sys.world u) span ∧
      Unread .producer (describeSend isNotification transport args kwargs)
        (sys.workers u).current (sys.world u) span
  | .dispatch u .rpc _ args kwargs =>
    Raises (Hops.rpcDispatch (α := α) args kwargs).enter (sys.world u) span ∧
      ∃ c, Unread .consumer (describeRpc args kwargs) c (sys.world u) span
  | .dispatch u .notification _ args kwargs =>
    Raises (Hops.notificationDispatch (α := α) args kwargs).enter (sys.world u) span ∧
      ∃ c, Unread .consumer (describeNotification args kwargs) c (sys.world u) span
  | _ => False

lemma frames_ran (cause : Option ℕ) (fs : List (Traces.Frame Ctx H α)) (w : World Ctx H) (u' : U) :
    ((sys.ran u cause fs w).workers u').frames =
      if u' = u then fs else (sys.workers u').frames := by
  by_cases hu : u' = u
  · subst hu
    simp only [Traces.Sys.ran, Function.update_self, if_true]
  · simp only [Traces.Sys.ran, Function.update_of_ne hu, if_neg hu]

lemma stepped_enter {ι : Type} {m : Wrapping Ctx H ι α} {cause : Option ℕ}
    {sends : List Dict → ι → Option (Wires.Hop × Dict)} {kind : SpanKind} {parent : SpanContext}
    {unread : SpanContext → Prop}
    (h : Concluded kind parent unread (sys.world u) (m.enter (sys.world u)))
    (hlost : ∀ span, Raises m.enter (sys.world u) span ∧ unread span → lost span) :
    Stepped lost sys u (sys.enter u cause sends m) := by
  let op : Op := ⟨cause, spanIn (sys.workers u).current, newSpan sys.calls parent, parent, kind⟩
  unfold Traces.Sys.enter
  rcases hm : m.enter (sys.world u) with ⟨e | o, w⟩ <;> rw [hm] at h <;> dsimp only
  · have hframes : ∀ u', ((sys.ran u cause (sys.workers u).frames w).workers u').frames =
        (sys.workers u').frames := by
      intro u'
      rw [frames_ran]
      split
      · next hu => rw [hu]
      · rfl
    rcases h with hsame | ⟨name, attributes, cs, hstarted, hended, hcalls⟩ |
      ⟨hkind, hunread, name, attributes, cs, hquiet, hcalls⟩
    · have hnone : NoStart (sys.world u) w := ⟨[], rfl, by rw [hsame, List.append_nil]⟩
      exact .quiet hsame (ops_of_noStart hnone _ _) hframes
    · have hops := ops_of_started ⟨name, attributes, cs, hstarted, hcalls⟩ cause
        (sys.workers u).frames
      exact .attempted op parent name attributes cs rfl hstarted (Or.inl hended) hcalls hops
        hframes
    · have hops := ops_of_started ⟨name, attributes, cs, hquiet.1, hcalls⟩ cause
        (sys.workers u).frames
      have hraises : Raises m.enter (sys.world u) op.span := by
        refine ⟨e, w, hm, ?_⟩
        rw [hcalls, List.drop_left]
        exact mem_startedSpans (List.mem_cons_self ..)
      exact .attempted op parent name attributes cs rfl hquiet.1
        (Or.inr ⟨hquiet.2, hlost _ ⟨hraises, hunread⟩, hkind⟩) hcalls hops hframes
  · obtain ⟨⟨name, attributes, cs, hquiet, hcalls⟩, hexit⟩ := h
    have hops := ops_of_started ⟨name, attributes, cs, hquiet.1, hcalls⟩ cause
    let packet : Option Traces.Packet :=
      (sends w.dicts o.input).map fun p => ⟨sys.ops.length, p.1, p.2⟩
    let f : Traces.Frame Ctx H α := ⟨sys.ops.length, packet, o.exit⟩
    refine .opened op parent name attributes cs f rfl hquiet hcalls (hops _) rfl hexit ?_ ?_
    · rw [frames_ran, if_pos rfl]
    · intro u' hu
      rw [frames_ran, if_neg hu]

/-- A way in that leaves no span open. -/
lemma stepped_enter_other {ι : Type} {m : Wrapping Ctx H ι α} {cause : Option ℕ}
    {sends : List Dict → ι → Option (Wires.Hop × Dict)} {kind : SpanKind} {parent : SpanContext}
    (h : Concluded kind parent (fun _ => False) (sys.world u) (m.enter (sys.world u))) :
    Stepped lost sys u (sys.enter u cause sends m) :=
  stepped_enter h fun _ hnone => absurd hnone.2 id

/-- The parent that is found for a request. -/
lemma exists_servedUnder (c : Ctx) (dicts : List Dict) (environ : Arg) :
    ∃ parent, ∀ p : Option Ctx, environContext dicts environ = .ok p →
      spanIn (p.getD c) = parent := by
  cases (environContext dicts environ : Except Exn (Option Ctx)) with
  | error e => exact ⟨invalidSpan, fun p hp => absurd hp nofun⟩
  | ok p =>
    refine ⟨spanIn (p.getD c), fun q hq => ?_⟩
    obtain rfl := Except.ok.inj hq
    rfl

/-- **One step of a worker.** -/
lemma stepped_step {r : Reading α} {e : Traces.Event U Ctx H α}
    (hon : enabled (sys.workers (worker e)).current = true) (hok : Traces.Ok sys e)
    (hsound : ∀ f ∈ (sys.workers (worker e)).frames, Sound sys.ops f)
    (hlost : ∀ span, Drops sys e span → lost span) :
    Stepped lost sys (worker e) (Traces.step r sys e) := by
  cases e with
  | work u name attributes =>
    simp only [Traces.step, worker] at hon ⊢
    exact stepped_enter_other (concluded_ownSpan (α := α) name attributes (sys.world u))
  | proxy u proxy args kwargs =>
    simp only [Traces.step, worker] at hon ⊢
    exact stepped_enter_other (concluded_of_scoped
      (Scopes.scoped_proxy r proxy args kwargs (w := sys.world u) hon))
  | session u args kwargs =>
    simp only [Traces.step, worker] at hon ⊢
    exact stepped_enter_other (concluded_of_scoped (Scopes.scoped_session r args kwargs hon))
  | send u isNotification transport args kwargs =>
    simp only [Traces.step, worker] at hon ⊢
    exact stepped_enter (concluded_send isNotification transport args kwargs hon) hlost
  | transmit u => exact .quiet rfl rfl fun _ => rfl
  | serve u source environ startResponse =>
    simp only [Traces.step, worker] at hon ⊢
    obtain ⟨parent, hparent⟩ :=
      exists_servedUnder (sys.world u).current (sys.world u).dicts environ
    exact stepped_enter_other (concluded_call r environ startResponse hon hok.1 hparent)
  | dispatch u style source args kwargs =>
    obtain ⟨parent, hparent⟩ :=
      Traces.exists_dispatchedUnder sys u (arg args 0 kwargs "incoming")
    cases style with
    | rpc =>
      simp only [Traces.step]
      exact stepped_enter (concluded_rpcDispatch args kwargs hon hparent) hlost
    | notification =>
      simp only [Traces.step]
      exact stepped_enter (concluded_notificationDispatch args kwargs hon hparent) hlost
  | store u dicts host =>
    refine .quiet rfl rfl fun u' => ?_
    by_cases hu : u' = u
    · subst hu
      simp only [Traces.step, Function.update_self]
    · simp only [Traces.step, Function.update_of_ne hu]
  | leave u result =>
    cases hfs : (sys.workers u).frames with
    | nil =>
      simp only [Traces.step, hfs]
      exact .quiet rfl rfl fun _ => rfl
    | cons f fs =>
      obtain ⟨op, hop, hexit⟩ := hsound f (hfs ▸ List.mem_cons_self ..)
      obtain ⟨cs, hstarted, hended, hcalls⟩ := hexit result (sys.world u)
      simp only [Traces.step, worker, hfs]
      refine .settled f op cs hop hstarted hended hcalls
        (ops_of_noStart ⟨cs, hstarted, hcalls⟩ none fs) ?_ ?_
      · rw [frames_ran, if_pos rfl, hfs]
      · intro u' hu
        rw [frames_ran, if_neg hu]

end

/-! ### Spans that are held -/

/-- Where a span can be held: in a worker's wrapper, by its height on the worker's stacks, or by
an engine's listener. -/
inductive Place (E U : Type)
  | frame (u : U) (height : ℕ)
  | slot (e : E) (slot : Slot)
  deriving DecidableEq

lemma slot_ne_frame {E U : Type} (e : E) (slot : Slot) (u : U) (height : ℕ) :
    Place.slot e slot ≠ .frame u height := by simp

section

variable {E U Ctx H α : Type}

/-- The span of the frame at a height, counted from the bottom. -/
def spanAt (ops : List Op) (fs : List (Traces.Frame Ctx H α)) (height : ℕ) :
    Option SpanContext :=
  fs.reverse[height]?.bind fun f => ops[f.op]?.map Op.span

lemma spanAt_cons {ops : List Op} {f : Traces.Frame Ctx H α} {op : Op}
    (hop : ops[f.op]? = some op) (fs : List (Traces.Frame Ctx H α)) :
    spanAt ops (f :: fs) = Function.update (spanAt ops fs) fs.length (some op.span) := by
  funext n
  unfold spanAt
  rw [List.reverse_cons]
  by_cases hn : n = fs.length
  · subst hn
    rw [Function.update_self, ← List.length_reverse, List.getElem?_concat_length,
      Option.bind_some, hop, Option.map_some]
  · rw [Function.update_of_ne hn]
    congr 1
    rcases Nat.lt_or_gt_of_ne hn with hlt | hgt
    · exact List.getElem?_append_left (by rwa [List.length_reverse])
    · rw [List.getElem?_eq_none, List.getElem?_eq_none] <;> simp <;> omega

lemma spanAt_top (ops : List Op) (fs : List (Traces.Frame Ctx H α)) :
    spanAt ops fs fs.length = none := by
  unfold spanAt
  rw [List.getElem?_eq_none (by rw [List.length_reverse])]
  rfl

lemma spanAt_append {ops : List Op} {fs : List (Traces.Frame Ctx H α)}
    (h : ∀ f ∈ fs, Sound ops f) (more : List Op) : spanAt (ops ++ more) fs = spanAt ops fs := by
  funext n
  unfold spanAt
  cases hf : fs.reverse[n]? with
  | none => rfl
  | some f =>
    obtain ⟨op, hop, -⟩ := h f (List.mem_reverse.mp (List.mem_of_getElem? hf))
    rw [Option.bind_some, Option.bind_some, hop, getElem?_append_of_some hop more]

/-- The wrappers that a worker is inside of and that wait for a body of an atom. -/
def wrappersOf (b : Body E U Ctx H α) : List (Traces.Frame Ctx H α) :=
  b.interrupted.frames ++ b.waiting.flatMap Waiting.frames

/-- All the wrappers a worker is inside of, the innermost first. -/
def wrappers (s : Whole E U Ctx H α) (u : U) : List (Traces.Frame Ctx H α) :=
  (s.joint.sys.workers u).frames ++
    ((s.joint.waiting u).flatMap Waiting.frames ++ (s.bodies u).flatMap wrappersOf)

def held (s : Whole E U Ctx H α) : Place E U → Option SpanContext
  | .frame u height => spanAt s.joint.sys.ops (wrappers s u) height
  | .slot e slot => slots (s.listeners e) slot

variable [DecidableEq E] [DecidableEq U]

/-- Every span that was started is held in one place, or was ended once, or is a message's and
`lost`. -/
def Accounted (lost : SpanContext → Prop) (ops : List Op) (calls : List Call)
    (held : Place E U → Option SpanContext) : Prop :=
  ∃ issued dropped, issued.map Prod.snd = startedSpans calls ∧
    (∀ span ∈ dropped, lost span ∧ ∃ op ∈ ops, op.span = span ∧ IsMessage op.kind) ∧
    Ledger.Balanced
      (⟨issued, held, dropped, finishedSpans calls⟩ : Ledger.Book (Place E U) SpanContext)

structure Inv (lost : SpanContext → Prop) (s : Whole E U Ctx H α) : Prop where
  numbered : Numbered s.joint.sys.calls
  sound : ∀ u, ∀ f ∈ wrappers s u, Sound s.joint.sys.ops f
  accounted : Accounted lost s.joint.sys.ops s.joint.sys.calls (held s)

omit [DecidableEq E] [DecidableEq U] in
lemma Inv.mono {lost lost' : SpanContext → Prop} {s : Whole E U Ctx H α} (h : Inv lost s)
    (hlost : ∀ span, lost span → lost' span) : Inv lost' s := by
  obtain ⟨issued, dropped, hissued, hdropped, hbalanced⟩ := h.accounted
  refine ⟨h.numbered, h.sound, issued, dropped, hissued, fun span hspan => ?_, hbalanced⟩
  exact (hdropped span hspan).imp_left (hlost span)

section

variable {lost : SpanContext → Prop} {ops : List Op} {calls : List Call}
  {held : Place E U → Option SpanContext}

omit [DecidableEq E] [DecidableEq U] in
lemma accounted_init (hnone : ∀ p, held p = none) : Accounted lost [] [] held := by
  obtain rfl : held = fun _ => none := funext hnone
  exact ⟨[], [], rfl, fun span hspan => absurd hspan List.not_mem_nil, Ledger.balanced_empty⟩

variable {k : Place E U} {span parent : SpanContext} {cs : List Call} {op : Op}

lemma startedSpans_begun (name : String) (kind : SpanKind) (attributes : Dict)
    (hstarted : startedSpans cs = []) :
    startedSpans (calls ++ .start span parent name kind attributes :: cs) =
      startedSpans calls ++ [span] := by
  rw [startedSpans_append, startedSpans, startedSpans, List.filterMap_cons]
  exact congrArg (fun rest => startedSpans calls ++ span :: rest) hstarted

lemma finishedSpans_begun (name : String) (kind : SpanKind) (attributes : Dict) :
    finishedSpans (calls ++ .start span parent name kind attributes :: cs) =
      finishedSpans calls ++ finishedSpans cs := by
  rw [finishedSpans_append]
  rfl

omit [DecidableEq E] [DecidableEq U] in
lemma Accounted.append (h : Accounted lost ops calls held) (more : List Op) :
    Accounted lost (ops ++ more) calls held := by
  obtain ⟨issued, dropped, hissued, hdropped, hbalanced⟩ := h
  refine ⟨issued, dropped, hissued, fun span hspan => ?_, hbalanced⟩
  obtain ⟨hlost, op, hop, hrest⟩ := hdropped span hspan
  exact ⟨hlost, op, List.mem_append_left _ hop, hrest⟩

lemma Accounted.opens (h : Accounted lost ops calls held) (hnumbered : Numbered calls)
    (hk : held k = none) {name : String} {kind : SpanKind} {attributes : Dict}
    (hquiet : Quiet cs) :
    Accounted lost ops (calls ++ .start (newSpan calls parent) parent name kind attributes :: cs)
      (Function.update held k (some (newSpan calls parent))) := by
  obtain ⟨issued, dropped, hissued, hdropped, hbalanced⟩ := h
  refine ⟨issued ++ [(k, newSpan calls parent)], dropped, ?_, hdropped, ?_⟩
  · rw [startedSpans_begun name kind attributes hquiet.1, List.map_append, hissued]
    rfl
  · have hfresh : newSpan calls parent ∉ issued.map Prod.snd :=
      hissued ▸ newSpan_fresh hnumbered parent
    rw [finishedSpans_begun, hquiet.2, List.append_nil]
    exact Ledger.balanced_issue hbalanced hk hfresh

/-- A way in that raises. -/
lemma Accounted.attempts (h : Accounted lost ops calls held) (hnumbered : Numbered calls)
    (hk : held k = none) (hop : op ∈ ops) {name : String} {attributes : Dict}
    (hspan : op.span = newSpan calls parent) (hstarted : startedSpans cs = [])
    (hended : finishedSpans cs = [op.span] ∨
      finishedSpans cs = [] ∧ lost op.span ∧ IsMessage op.kind) :
    Accounted lost ops (calls ++ .start op.span parent name op.kind attributes :: cs) held := by
  obtain ⟨issued, dropped, hissued, hdropped, hbalanced⟩ := h
  have hfresh : op.span ∉ issued.map Prod.snd := by
    rw [hissued, hspan]
    exact newSpan_fresh hnumbered parent
  have htokens : (issued ++ [(k, op.span)]).map Prod.snd =
      startedSpans (calls ++ .start op.span parent name op.kind attributes :: cs) := by
    rw [startedSpans_begun name op.kind attributes hstarted, List.map_append, hissued]
    rfl
  rcases hended with hended | ⟨hended, hlost, hkind⟩
  · refine ⟨_, dropped, htokens, hdropped, ?_⟩
    rw [finishedSpans_begun, hended]
    exact Ledger.balanced_pass hbalanced hk hfresh
  · have hmore := List.forall_mem_cons.mpr ⟨⟨hlost, op, hop, rfl, hkind⟩, hdropped⟩
    refine ⟨_, op.span :: dropped, htokens, hmore, ?_⟩
    rw [finishedSpans_begun, hended, List.append_nil]
    exact Ledger.balanced_lose hbalanced hk hfresh

lemma Accounted.closes (h : Accounted lost ops calls held) (hk : held k = some span)
    (hstarted : startedSpans cs = []) (hended : finishedSpans cs = [span]) :
    Accounted lost ops (calls ++ cs) (Function.update held k none) := by
  obtain ⟨issued, dropped, hissued, hdropped, hbalanced⟩ := h
  refine ⟨issued, dropped, ?_, hdropped, ?_⟩
  · rw [startedSpans_append, hstarted, List.append_nil, hissued]
  · rw [finishedSpans_append, hended]
    exact Ledger.balanced_close hbalanced hk

end

end

/-! ### Steps -/

section

variable {E U Ctx H α : Type} [DecidableEq E] [DecidableEq U] [Propagator Ctx] {start : U → Ctx}
  {graph : E → List Node} {r : Reading α} {s s' : Whole E U Ctx H α} {lost : SpanContext → Prop}

omit [DecidableEq E] [DecidableEq U] [Propagator Ctx] in
lemma held_frame (u : U) : held s (.frame u (wrappers s u).length) = none := spanAt_top _ _

omit [DecidableEq E] [DecidableEq U] [Propagator Ctx] in
/-- Wrappers are moved from one of a worker's stacks to another. -/
lemma Inv.rearrange (h : Inv lost s) (hcalls : s'.joint.sys.calls = s.joint.sys.calls)
    (hops : s'.joint.sys.ops = s.joint.sys.ops) (hlisteners : s'.listeners = s.listeners)
    (hwrappers : ∀ u, wrappers s' u = wrappers s u) : Inv lost s' := by
  have hheld : held s' = held s := by
    funext p
    cases p with
    | frame u height => rw [held, held, hops, hwrappers]
    | slot e slot => rw [held, held, hlisteners]
  refine ⟨hcalls ▸ h.numbered, ?_, ?_⟩
  · intro u f hf
    rw [hops]
    exact h.sound u f (hwrappers u ▸ hf)
  · rw [hops, hcalls, hheld]
    exact h.accounted

omit [Propagator Ctx] in
lemma held_push {u : U} {f : Traces.Frame Ctx H α} {op : Op} (h : Inv lost s)
    (hops : s'.joint.sys.ops = s.joint.sys.ops ++ [op]) (hop : f.op = s.joint.sys.ops.length)
    (hlisteners : s'.listeners = s.listeners) (htop : wrappers s' u = f :: wrappers s u)
    (hrest : ∀ u', u' ≠ u → wrappers s' u' = wrappers s u') :
    held s' = Function.update (held s) (.frame u (wrappers s u).length) (some op.span) := by
  have hop : (s.joint.sys.ops ++ [op])[f.op]? = some op := by
    rw [hop]
    exact List.getElem?_concat_length
  funext p
  cases p with
  | frame u' height =>
    by_cases hu : u' = u
    · subst hu
      rw [held, hops, htop, spanAt_cons hop, spanAt_append (h.sound u')]
      by_cases hheight : height = (wrappers s u').length
      · subst hheight
        rw [Function.update_self, Function.update_self]
      · rw [Function.update_of_ne hheight,
          Function.update_of_ne fun heq => hheight (Place.frame.inj heq).2, held]
    · rw [Function.update_of_ne fun heq => hu (Place.frame.inj heq).1, held, held, hrest u' hu,
        hops, spanAt_append (h.sound u')]
  | slot e slot =>
    rw [Function.update_of_ne (slot_ne_frame e slot u _), held, held, hlisteners]

omit [Propagator Ctx] in
lemma held_pop {u : U} {f : Traces.Frame Ctx H α} {op : Op}
    (hops : s'.joint.sys.ops = s.joint.sys.ops) (hop : s.joint.sys.ops[f.op]? = some op)
    (hlisteners : s'.listeners = s.listeners) (htop : wrappers s u = f :: wrappers s' u)
    (hrest : ∀ u', u' ≠ u → wrappers s' u' = wrappers s u') :
    held s (.frame u (wrappers s' u).length) = some op.span ∧
      held s' = Function.update (held s) (.frame u (wrappers s' u).length) none := by
  have hbefore : ∀ height, held s (.frame u height) =
      Function.update (spanAt s.joint.sys.ops (wrappers s' u)) (wrappers s' u).length
        (some op.span) height := by
    intro height
    rw [held, htop, spanAt_cons hop]
  refine ⟨by rw [hbefore, Function.update_self], ?_⟩
  funext p
  cases p with
  | frame u' height =>
    by_cases hu : u' = u
    · subst hu
      rw [held, hops]
      by_cases hheight : height = (wrappers s' u').length
      · subst hheight
        rw [Function.update_self, spanAt_top]
      · rw [Function.update_of_ne fun heq => hheight (Place.frame.inj heq).2, hbefore,
          Function.update_of_ne hheight]
    · rw [Function.update_of_ne fun heq => hu (Place.frame.inj heq).1, held, held, hrest u' hu,
        hops]
  | slot e slot =>
    rw [Function.update_of_ne (slot_ne_frame e slot u _), held, held, hlisteners]

lemma numbered_begun {calls : List Call} (h : Numbered calls) {cs : List Call}
    (hcs : startedSpans cs = []) (parent : SpanContext) (name : String) (kind : SpanKind)
    (attributes : Dict) :
    Numbered (calls ++ .start (newSpan calls parent) parent name kind attributes :: cs) := by
  rw [← List.singleton_append, ← List.append_assoc]
  have hstart := h.start parent parent name kind attributes
  exact Numbered.append hstart hcs

omit [Propagator Ctx] in
/-- A worker goes into a wrapper, or comes out of one. -/
lemma Inv.stepped (h : Inv lost s) {u : U} (hs : Stepped lost s.joint.sys u s'.joint.sys)
    (hwaiting : s'.joint.waiting = s.joint.waiting) (hbodies : s'.bodies = s.bodies)
    (hlisteners : s'.listeners = s.listeners) : Inv lost s' := by
  have hsame : ∀ u', (s'.joint.sys.workers u').frames = (s.joint.sys.workers u').frames →
      wrappers s' u' = wrappers s u' := by
    intro u' hframes
    rw [wrappers, wrappers, hframes, hwaiting, hbodies]
  cases hs with
  | quiet hcalls hops hframes =>
    exact h.rearrange hcalls hops hlisteners fun u' => hsame u' (hframes u')
  | opened op parent name attributes cs f hspan hquiet hcalls hops hf hexit htop hframes =>
    have hwrappers : wrappers s' u = f :: wrappers s u := by
      rw [wrappers, wrappers, htop, hwaiting, hbodies]
      rfl
    have hrest := fun u' hu => hsame u' (hframes u' hu)
    refine ⟨?_, ?_, ?_⟩
    · rw [hcalls, hspan]
      exact numbered_begun h.numbered hquiet.1 parent name op.kind attributes
    · intro u' f' hf'
      rw [hops]
      by_cases hu : u' = u
      · subst hu
        rw [hwrappers] at hf'
        rcases List.mem_cons.mp hf' with rfl | hf'
        · exact ⟨op, hf ▸ List.getElem?_concat_length, hexit⟩
        · exact (h.sound u' f' hf').append [op]
      · exact (h.sound u' f' (hrest u' hu ▸ hf')).append [op]
    · rw [hops, hcalls, held_push h hops hf hlisteners hwrappers hrest, hspan]
      exact (h.accounted.append [op]).opens h.numbered (held_frame u) hquiet
  | attempted op parent name attributes cs hspan hstarted hended hcalls hops hframes =>
    have hheld : held s' = held s := by
      funext p
      cases p with
      | frame u' height =>
        rw [held, held, hsame u' (hframes u'), hops, spanAt_append (h.sound u')]
      | slot e slot => rw [held, held, hlisteners]
    refine ⟨?_, ?_, ?_⟩
    · rw [hcalls, hspan]
      exact numbered_begun h.numbered hstarted parent name op.kind attributes
    · intro u' f hf
      rw [hops]
      exact (h.sound u' f (hsame u' (hframes u') ▸ hf)).append [op]
    · rw [hops, hcalls, hheld]
      have hop : op ∈ s.joint.sys.ops ++ [op] :=
        List.mem_append_right _ (List.mem_singleton_self op)
      exact (h.accounted.append [op]).attempts h.numbered (held_frame u) hop hspan hstarted hended
  | settled f op cs hop hstarted hended hcalls hops htop hframes =>
    have hwrappers : wrappers s u = f :: wrappers s' u := by
      rw [wrappers, wrappers, htop, hwaiting, hbodies]
      rfl
    have hrest := fun u' hu => hsame u' (hframes u' hu)
    obtain ⟨hbefore, hheld⟩ := held_pop hops hop hlisteners hwrappers hrest
    refine ⟨hcalls ▸ h.numbered.append hstarted, ?_, ?_⟩
    · intro u' f' hf'
      rw [hops]
      by_cases hu : u' = u
      · subst hu
        exact h.sound u' f' (hwrappers ▸ List.mem_cons_of_mem _ hf')
      · exact h.sound u' f' (hrest u' hu ▸ hf')
    · rw [hops, hcalls, hheld]
      exact h.accounted.closes hbefore hstarted hended

omit [Propagator Ctx] in
/-- A listener's span is in a slot of its own. -/
lemma held_listened {e : E} {l : TraceListener Ctx} (h : Inv lost s) {more : List Op}
    (hops : s'.joint.sys.ops = s.joint.sys.ops ++ more)
    (hlisteners : s'.listeners = Function.update s.listeners e l)
    (hwrappers : ∀ u, wrappers s' u = wrappers s u) :
    (slots l = slots (s.listeners e) → held s' = held s) ∧
      ∀ k x, slots l = Function.update (slots (s.listeners e)) k x →
        held s' = Function.update (held s) (.slot e k) x := by
  have hframe : ∀ u height, held s' (.frame u height) = held s (.frame u height) := by
    intro u height
    rw [held, held, hwrappers, hops, spanAt_append (h.sound u)]
  have hother : ∀ e', e' ≠ e → ∀ slot, held s' (.slot e' slot) = held s (.slot e' slot) := by
    intro e' he slot
    rw [held, held, hlisteners, Function.update_of_ne he]
  have hown : ∀ slot, held s' (.slot e slot) = slots l slot := by
    intro slot
    rw [held, hlisteners, Function.update_self]
  refine ⟨fun hsame => ?_, fun k x hslots => ?_⟩ <;> funext p <;>
    rcases p with ⟨u, height⟩ | ⟨e', slot⟩
  · exact hframe u height
  · by_cases he : e' = e
    · subst he
      rw [hown, hsame, held]
    · exact hother e' he slot
  · rw [Function.update_of_ne (slot_ne_frame e k u height).symm, hframe]
  · by_cases he : e' = e
    · subst he
      rw [hown, hslots]
      by_cases hslot : slot = k
      · subst hslot
        rw [Function.update_self, Function.update_self]
      · rw [Function.update_of_ne hslot,
          Function.update_of_ne fun heq => hslot (Place.slot.inj heq).2, held]
    · rw [Function.update_of_ne fun heq => he (Place.slot.inj heq).1, hother e' he]

omit [Propagator Ctx] in
lemma Inv.listened [ContextApi Ctx] {e : E} {w v : TfWorld Ctx} (h : Inv lost s)
    (hmoved : Moved w v)
    (hw : w.calls = s.joint.sys.calls) (hlistener : w.host.listener = s.listeners e)
    {more : List Op} (hcalls : s'.joint.sys.calls = v.calls)
    (hops : s'.joint.sys.ops = s.joint.sys.ops ++ more)
    (hlisteners : s'.listeners = Function.update s.listeners e v.host.listener)
    (hwrappers : ∀ u, wrappers s' u = wrappers s u) : Inv lost s' := by
  have hsound : ∀ u, ∀ f ∈ wrappers s' u, Sound s'.joint.sys.ops f := by
    intro u f hf
    rw [hops]
    exact (h.sound u f (hwrappers u ▸ hf)).append more
  have haccounted := h.accounted.append more
  obtain ⟨hsame, hother⟩ := held_listened h hops hlisteners hwrappers
  cases hmoved with
  | same hslots hquiet =>
    refine ⟨hcalls.trans (hquiet.trans hw) ▸ h.numbered, hsound, ?_⟩
    rw [hsame (hlistener ▸ hslots), hops, hcalls, hquiet, hw]
    exact haccounted
  | opens k parent name attributes hfree hslots hstart =>
    rw [hw] at hslots hstart
    rw [hlistener] at hfree hslots
    refine ⟨?_, hsound, ?_⟩
    · rw [hcalls, hstart]
      exact h.numbered.start _ _ _ _ _
    · rw [hother k _ hslots, hops, hcalls, hstart]
      have hfree : held s (.slot e k) = none := hfree
      exact haccounted.opens h.numbered hfree ⟨rfl, rfl⟩
  | closes k span cs hheld hslots hclosing habout hstarted hended =>
    rw [hw] at hclosing
    rw [hlistener] at hheld hslots
    refine ⟨?_, hsound, ?_⟩
    · rw [hcalls, hclosing]
      exact h.numbered.append hstarted
    · rw [hother k _ hslots, hops, hcalls, hclosing]
      exact haccounted.closes hheld hstarted hended

/-- An engine's listener is told something. -/
lemma Inv.notify (h : Inv lost s) (e : E) (u : U) (n : Notification) :
    Inv lost (FlowTraces.step graph r s (.notify e u n)) := by
  have hmoved := react_moved (meaning n) (s.view graph e u)
  obtain ⟨cs, hcs⟩ := hmoved.calls_append
  rw [FlowTraces.step_notify rfl hcs]
  exact h.listened hmoved rfl rfl hcs.symm rfl rfl fun _ => rfl

/-- Spawned work begins and ends inside the wrappers of what waits for it. -/
lemma Inv.spawn (h : Inv lost s) {e : Spawns.Event U Ctx}
    (hok : SpawnedTraces.Ok s.joint (.spawn e)) :
    Inv lost (FlowTraces.step graph r s (.joint (.spawn e))) := by
  have hbegun : ∀ u op v, Inv lost { s with joint := s.joint.begin u op v } := by
    intro u op v
    refine h.rearrange rfl rfl rfl fun u' => ?_
    by_cases hu : u' = u
    · subst hu
      simp [wrappers, Joint.begin, Joint.put, SpawnedTraces.moved]
    · simp [wrappers, Joint.begin, Joint.put, SpawnedTraces.moved, hu]
  cases e with
  | submit u funcIndex args kwargs => exact h.rearrange rfl rfl rfl fun _ => rfl
  | invoke u f args kwargs => exact hbegun u _ _
  | leave u =>
    simp only [FlowTraces.step, SpawnedTraces.step, Joint.resume]
    cases hws : s.joint.waiting u with
    | nil => exact h
    | cons w ws =>
      refine h.rearrange rfl rfl rfl fun u' => ?_
      by_cases hu : u' = u
      · subst hu
        simp [wrappers, Joint.put, SpawnedTraces.moved, hws, hok.2]
      · simp [wrappers, Joint.put, SpawnedTraces.moved, hu]
  | ambient u c => exact hok.elim
  | start u t => exact h.rearrange rfl rfl rfl fun _ => rfl
  | runThread t => exact hbegun t _ _

/-- The body of an atom begins. -/
lemma Inv.enter (h : Inv lost s) (e : E) (u : U) (atom : ℕ) :
    Inv lost (FlowTraces.step graph r s (.enter e u atom)) := by
  simp only [FlowTraces.step]
  split
  · refine h.rearrange rfl rfl rfl fun u' => ?_
    by_cases hu : u' = u
    · subst hu
      simp [wrappers, wrappersOf, Joint.put, SpawnedTraces.moved]
    · simp [wrappers, Joint.put, SpawnedTraces.moved, hu]
  · exact h

/-- The body of an atom ends. -/
lemma Inv.exit (hflow : FlowTraces.Inv start s) (h : Inv lost s) {u : U}
    (hok : Ok (E := E) s (.exit u)) : Inv lost (FlowTraces.step graph r s (.exit u)) := by
  obtain ⟨hbodies, hframes, hnone⟩ := hok
  obtain ⟨b, bs, hu⟩ := List.exists_cons_of_ne_nil hbodies
  have hwaiting : s.joint.waiting u = [] := by
    have hstacked := hflow.joint.stacked u
    rw [hframes] at hstacked
    cases hws : s.joint.waiting u with
    | nil => rfl
    | cons w ws =>
      rw [hws] at hstacked
      exact hstacked.elim
  simp only [FlowTraces.step, hu]
  refine h.rearrange rfl rfl rfl fun u' => ?_
  by_cases hu' : u' = u
  · subst hu'
    simp [wrappers, wrappersOf, Joint.put, SpawnedTraces.moved, hu, hwaiting, hnone]
  · simp [wrappers, Joint.put, SpawnedTraces.moved, hu']

/-- The step of a worker that loses `span`. -/
def Loses (s : Whole E U Ctx H α) : Event E U Ctx H α → SpanContext → Prop
  | .joint (.trace e) => Drops s.joint.sys e
  | _ => fun _ => False

theorem Inv.step (hflow : FlowTraces.Inv start s) (h : Inv lost s) {ev : Event E U Ctx H α}
    (hok : Ok s ev) :
    Inv (fun span => lost span ∨ Loses s ev span) (FlowTraces.step graph r s ev) := by
  replace h : Inv (fun span => lost span ∨ Loses s ev span) s := h.mono fun _ => Or.inl
  cases ev with
  | joint ev =>
    cases ev with
    | trace e =>
      have hon := (hflow.joint.held (worker e)).on
      have hsound : ∀ f ∈ (s.joint.sys.workers (worker e)).frames, Sound s.joint.sys.ops f :=
        fun f hf => h.sound _ f (List.mem_append_left _ hf)
      exact h.stepped (stepped_step hon hok hsound fun _ => Or.inr) rfl rfl rfl
    | spawn e => exact h.spawn hok
  | notify e u n => exact h.notify e u n
  | enter e u atom => exact h.enter e u atom
  | exit u => exact h.exit hflow hok

end

/-! ### Whole runs -/

section

variable {E U Ctx H α : Type} [DecidableEq E] [DecidableEq U] [Propagator Ctx] [Faithful Ctx]
  {start : U → Ctx}

lemma inv_run (graph : E → List Node) (r : Reading α) (hstart : ∀ u, enabled (start u) = true)
    (host : U → H) {evs : List (Event E U Ctx H α)}
    (hl : Legal Ok (FlowTraces.step graph r) (Whole.init start host) evs) :
    FlowTraces.Inv start (run (FlowTraces.step graph r) (Whole.init start host) evs) ∧
      Inv (fun span => ∃ pre ev post, evs = pre ++ ev :: post ∧
          Loses (run (FlowTraces.step graph r) (Whole.init start host) pre) ev span)
        (run (FlowTraces.step graph r) (Whole.init start host) evs) := by
  refine inv_with_record (I := fun lost s => FlowTraces.Inv start s ∧ Inv lost s)
    (fun _ _ _ h hok => ⟨h.1.step hok, h.2.step h.1 hok⟩) ⟨FlowTraces.Inv.init hstart host, ?_⟩ hl
  refine ⟨numbered_nil, fun u f hf => absurd hf List.not_mem_nil, accounted_init fun p => ?_⟩
  cases p with
  | frame u height => rfl
  | slot e slot => cases slot <;> rfl

/-- **No span is left open.** In every run no span is ended twice, and none that was not started.
A span that was started has been ended, and nothing holds it; or one worker's wrapper or one
engine's listener holds it, and it is not ended; or it is the span of a message whose attributes
raised when its wrapper read them, and nothing holds it and nothing will end it. -/
theorem no_span_left_open (graph : E → List Node) (r : Reading α)
    (hstart : ∀ u, enabled (start u) = true) (host : U → H) {evs : List (Event E U Ctx H α)}
    (hl : Legal Ok (FlowTraces.step graph r) (Whole.init start host) evs) :
    let s := run (FlowTraces.step graph r) (Whole.init start host) evs
    let ended := finishedSpans s.joint.sys.calls
    startedSpans s.joint.sys.calls = s.joint.sys.ops.map Op.span ∧ ended.Nodup ∧
      (∀ span ∈ ended, span ∈ startedSpans s.joint.sys.calls) ∧
      ∀ op ∈ s.joint.sys.ops,
        op.span ∈ ended ∧ (∀ p, held s p ≠ some op.span) ∨
        op.span ∉ ended ∧ (∃ p, held s p = some op.span ∧
          ∀ q, held s q = some op.span → q = p) ∨
        op.span ∉ ended ∧ (∀ p, held s p ≠ some op.span) ∧ IsMessage op.kind ∧
          ∃ pre ev post, evs = pre ++ ev :: post ∧
            Loses (run (FlowTraces.step graph r) (Whole.init start host) pre) ev op.span := by
  intro s ended
  obtain ⟨hflow, hinv⟩ := inv_run graph r hstart host hl
  have hspans := hflow.joint.traces.spans
  obtain ⟨issued, dropped, hissued, hdropped, hbalanced⟩ := hinv.accounted
  refine ⟨hspans.symm, Ledger.retired_nodup hbalanced, ?_, ?_⟩
  · intro span hspan
    exact hissued ▸ hbalanced.retired_issued span hspan
  · intro op hop
    have hstarted : op.span ∈ issued.map Prod.snd := by
      rw [hissued, ← hspans]
      exact List.mem_map_of_mem hop
    obtain ⟨⟨k, span⟩, hk, hspan⟩ := List.mem_map.mp hstarted
    obtain rfl : span = op.span := hspan
    rcases Ledger.situations hbalanced hk with ⟨hheld, -, hunended⟩ | ⟨hfree, hlostOnce, hunended⟩ |
      ⟨hfree, -, honce⟩
    · refine Or.inr (Or.inl ⟨hunended, k, hheld, fun q hq => ?_⟩)
      exact Ledger.home_unique hbalanced hk (hbalanced.home q op.span hq)
    · have hmem : op.span ∈ dropped :=
        List.count_pos_iff.mp (Nat.lt_of_lt_of_eq Nat.one_pos hlostOnce.symm)
      obtain ⟨hlost, op', hop', hsame, hkind⟩ := hdropped op.span hmem
      have hdistinct : (s.joint.sys.ops.map Op.span).Nodup := by
        rw [hspans, ← hissued]
        exact hbalanced.distinct
      obtain rfl := List.inj_on_of_nodup_map hdistinct hop' hop hsame
      exact Or.inr (Or.inr ⟨hunended, hfree, hkind, hlost⟩)
    · exact Or.inl ⟨List.count_pos_iff.mp (Nat.lt_of_lt_of_eq Nat.one_pos honce.symm), hfree⟩

end

/-- A worker begins a job, and in it a flow that does not end, and a send whose target raises;
then it comes out of the job. -/
def flowLeftOpen : List (Event Unit ℕ BareContext Unit Unit) :=
  [.joint (.trace (.work 0 "job" [])),
    .notify () 0 (.flow .running ⟨fun _ => .str "flow", .other⟩),
    .joint (.trace (.store 0 [[]] ())),
    .joint (.trace (.send 0 false none
      [.target (.ok .none) (.error (noAttribute "exchange")), .dict 0, .val .none] [])),
    .joint (.trace (.leave 0 (.ok ())))]

lemma legal_flowLeftOpen :
    Legal Ok (FlowTraces.step FlowTraces.oneTask Traces.blind)
      (Whole.init (fun _ => empty) fun _ => ()) flowLeftOpen :=
  ⟨trivial, trivial, trivial, ⟨0, rfl, by decide⟩, trivial, trivial⟩

theorem no_span_left_open_flow :
    let s := run (FlowTraces.step FlowTraces.oneTask Traces.blind)
      (Whole.init (fun _ => empty) fun _ => ()) flowLeftOpen
    s.joint.sys.ops.map (fun op => (op.span, op.kind)) =
        [(⟨1, 1⟩, .internal), (⟨1, 2⟩, .internal), (⟨1, 3⟩, .producer)] ∧
      finishedSpans s.joint.sys.calls = [⟨1, 1⟩] ∧ held s (.slot () .flow) = some ⟨1, 2⟩ ∧
      (finishedSpans s.joint.sys.calls).Nodup := by
  intro s
  obtain ⟨-, hnodup, -⟩ := no_span_left_open FlowTraces.oneTask Traces.blind (fun _ => rfl)
    (fun _ => ()) legal_flowLeftOpen
  exact ⟨by decide, by decide, by decide, hnodup⟩

end OtelOpenstack.OpenSpans
