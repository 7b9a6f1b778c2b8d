import OtelOpenstack.Authentication
import OtelOpenstack.TraceContext

/-!
When recording a request leaves authentication as it is.

Of a request are read its headers, for the parent of the span, and its tokens and identity, for
the attributes. What recording reads is a list, in order, of what each reading gives or raises:
recording stops at the first that raises, and what it had to record are all that do not.
-/

set_option autoImplicit false

namespace OtelOpenstack.AuthRecording

open Effects Python Otel ContextApi Carriers Http Authentication

/-! ### What is read -/

/-- An attribute for the text of a field, if the field is there and true. -/
def strRead (key : String) (read : Except Exn Val) : Except Exn Dict := do
  let value ← getattr read .none
  let truth ← value.truth
  if truth then do
    let text ← value.text
    pure [(key, .str text)]
  else pure []

def rolesRead (tuple : List String → Val) (read : Except Exn (Option RoleNames)) :
    Except Exn Dict := do
  match ← getattr read none with
  | none => pure []
  | some roleNames => do
    let truth ← roleNames.truth
    if truth then do
      let texts ← roleTexts roleNames.items
      pure [("user.roles", tuple texts)]
    else pure []

/-- Each field of the user for itself. -/
def userReads (tuple : List String → Val) (authRef : AuthRef) : List (Except Exn Dict) :=
  [strRead "user.id" authRef.userId, strRead "user.name" authRef.username,
    strRead "openstack.project_id" authRef.projectId,
    strRead "openstack.project_name" authRef.projectName,
    strRead "openstack.domain_id" authRef.domainId, rolesRead tuple authRef.roleNames]

def identityReads (tuple : List String → Val) (fields : Fields) : List (Except Exn Dict) :=
  match getattr fields.tokenAuth none >>= userOf with
  | .error e => [.error e]
  | .ok none => []
  | .ok (some authRef) => userReads tuple authRef

def validAttribute (validKey : String) : Option Bool → Dict
  | none => []
  | some b => [(validKey, .bool b)]

/-- A token, and its validity if it is there and that is known. -/
def tokenReads (presentKey validKey : String) (token valid : Except Exn Val) :
    List (Except Exn Dict) :=
  match tokenPresent token with
  | .error e => [.error e]
  | .ok false => [.ok [(presentKey, .bool false)]]
  | .ok true => [.ok [(presentKey, .bool true)], (tokenValid valid).map (validAttribute validKey)]

/-- The validity of a token that is there. -/
def knownValid (token valid : Except Exn Val) : Option Bool :=
  match tokenPresent token with
  | .ok true => (tokenValid valid).toOption.join
  | _ => none

/-- The tokens, and the identity of a user with a valid one. -/
def fieldReads (tuple : List String → Val) (fields : Fields) : List (Except Exn Dict) :=
  tokenReads "keystonemiddleware.user_token.present" "keystonemiddleware.user_token.valid"
      fields.userToken fields.userTokenValid ++
    (tokenReads "keystonemiddleware.service_token.present"
        "keystonemiddleware.service_token.valid" fields.serviceToken fields.serviceTokenValid ++
      if knownValid fields.userToken fields.userTokenValid = some true
      then identityReads tuple fields else [])

/-- What recording reads of a request; of `None` it reads nothing. -/
def requestReads {H : Type} (tuple : List String → Val) (request : Request H) (host : H) :
    List (Except Exn Dict) :=
  if request.isNone then [] else fieldReads tuple (request.fields host)

/-! ### What is recorded -/

/-- What there is to record: all that can be read, whatever the rest. -/
def readable : List (Except Exn Dict) → Dict
  | [] => []
  | .ok d :: reads => d ++ readable reads
  | .error _ :: reads => readable reads

/-- What comes before the first that cannot be read. -/
def recorded : List (Except Exn Dict) → Dict
  | .ok d :: reads => d ++ recorded reads
  | _ => []

/-- How reading them one after the other ends. -/
def ends : List (Except Exn Dict) → Except Exn Unit
  | [] => .ok ()
  | .ok _ :: reads => ends reads
  | .error e :: _ => .error e

lemma ends_append (reads more : List (Except Exn Dict)) :
    ends (reads ++ more) = (do
      ends reads
      ends more) := by
  induction reads with
  | nil => rfl
  | cons read reads ih =>
    cases read with
    | error e => rfl
    | ok d => exact ih

lemma recorded_append_of_ok {reads : List (Except Exn Dict)} (h : ends reads = .ok ())
    (more : List (Except Exn Dict)) :
    recorded (reads ++ more) = recorded reads ++ recorded more := by
  induction reads with
  | nil => rfl
  | cons read reads ih =>
    cases read with
    | error e => exact absurd h nofun
    | ok d =>
      change d ++ recorded (reads ++ more) = d ++ recorded reads ++ recorded more
      rw [ih h, List.append_assoc]

lemma recorded_append_of_error {reads : List (Except Exn Dict)} {e : Exn}
    (h : ends reads = .error e) (more : List (Except Exn Dict)) :
    recorded (reads ++ more) = recorded reads := by
  induction reads with
  | nil => exact absurd h nofun
  | cons read reads ih =>
    cases read with
    | error e => rfl
    | ok d => exact congrArg (d ++ ·) (ih h)

/-- Where reading ends well nothing is left out. -/
lemma recorded_of_ok {reads : List (Except Exn Dict)} (h : ends reads = .ok ()) :
    recorded reads = readable reads := by
  induction reads with
  | nil => rfl
  | cons read reads ih =>
    cases read with
    | error e => exact absurd h nofun
    | ok d => exact congrArg (d ++ ·) (ih h)

/-! ### Code that records -/

section

variable {Ctx H α β : Type}

def setAttributes (span : SpanContext) (d : Dict) : List Call :=
  d.map fun item => .setAttribute span item.1 item.2

lemma called_nil (v : World Ctx H) : v.called [] = v := by simp [World.called]

lemma setAttributes_append (span : SpanContext) (d d' : Dict) :
    setAttributes span (d ++ d') = setAttributes span d ++ setAttributes span d' :=
  List.map_append

lemma setAttributes_inj (span : SpanContext) {d d' : Dict}
    (h : setAttributes span d = setAttributes span d') : d = d' := by
  refine List.map_injective_iff.mpr ?_ h
  rintro ⟨key, value⟩ ⟨key', value'⟩ hset
  obtain ⟨-, rfl, rfl⟩ := Call.setAttribute.inj hset
  rfl

/-- The code records what is read, one reading after the other, and returns `a`. -/
def Records (span : SpanContext) (m : Code Ctx H α) (reads : List (Except Exn Dict)) (a : α) :
    Prop :=
  ∀ v, m v = ((ends reads).map fun _ => a, v.called (setAttributes span (recorded reads)))

variable {span : SpanContext}

lemma Records.pure (a : α) : Records span (Pure.pure a : Code Ctx H α) [] a := by
  intro v
  exact Prod.ext rfl (called_nil v).symm

/-- One statement after the other. -/
lemma Records.bind {m : Code Ctx H α} {f : α → Code Ctx H β} {reads more : List (Except Exn Dict)}
    {a : α} {b : β} (hm : Records span m reads a) (hf : Records span (f a) more b) :
    Records span (m >>= f) (reads ++ more) b := by
  intro v
  rw [bind_apply, hm v, ends_append]
  cases hends : ends reads with
  | error e =>
    rw [recorded_append_of_error hends]
    rfl
  | ok u =>
    rw [recorded_append_of_ok hends, setAttributes_append, ← World.called_called]
    exact hf _

lemma Records.seq {m : Code Ctx H Unit} {n : Code Ctx H β} {reads more : List (Except Exn Dict)}
    {b : β} (hm : Records span m reads ()) (hn : Records span n more b) :
    Records span (do
      m
      n) (reads ++ more) b :=
  hm.bind hn

/-- A value on the way to what is read. -/
lemma Records.read {x : Except Exn α} {f : α → Code Ctx H β} {g : α → Except Exn Dict} {b : β}
    (h : ∀ a, Records span (f a) [g a] b) : Records span (liftExcept x >>= f) [x >>= g] b := by
  cases x with
  | error e =>
    intro v
    exact Prod.ext rfl (called_nil v).symm
  | ok a => exact h a

/-- A value on the way to several things that are read. -/
lemma Records.lift_bind {x : Except Exn α} {f : α → Code Ctx H β}
    {reads : List (Except Exn Dict)} {b : β} (herr : ∀ e, x = .error e → reads = [.error e])
    (hok : ∀ a, x = .ok a → Records span (f a) reads b) :
    Records span (liftExcept x >>= f) reads b := by
  cases x with
  | error e =>
    intro v
    rw [herr e rfl]
    exact Prod.ext rfl (called_nil v).symm
  | ok a => exact hok a rfl

lemma Records.setAttribute (key : String) (value : Val) :
    Records span (setAttribute noFaults span key value : Code Ctx H Unit) [.ok [(key, value)]]
      () :=
  fun _ => rfl

/-- Nothing is recorded of a reading that gives nothing. -/
lemma Records.none (a : α) : Records span (Pure.pure a : Code Ctx H α) [.ok []] a := by
  intro v
  exact Prod.ext rfl (called_nil v).symm

/-! ### Recording a request -/

variable (tuple : List String → Val) (span)

lemma records_setField (key : String) (read : Except Exn Val) :
    Records span (setField noFaults span key read : Code Ctx H Unit) [strRead key read] () := by
  apply Records.read
  intro value
  apply Records.read
  intro truth
  cases truth with
  | false => exact Records.none ()
  | true =>
    apply Records.read
    intro text
    exact Records.setAttribute key (.str text)

lemma records_setRoles (read : Except Exn (Option RoleNames)) :
    Records span (setRoles noFaults tuple span read : Code Ctx H Unit) [rolesRead tuple read]
      () := by
  apply Records.read
  intro roleNames
  cases roleNames with
  | none => exact Records.none ()
  | some names =>
    apply Records.read
    intro truth
    cases truth with
    | false => exact Records.none ()
    | true =>
      apply Records.read
      intro texts
      exact Records.setAttribute "user.roles" (tuple texts)

/-- The six fields of a user, one after the other. -/
lemma records_user (authRef : AuthRef) :
    Records span (do
      setField noFaults span "user.id" authRef.userId
      setField noFaults span "user.name" authRef.username
      setField noFaults span "openstack.project_id" authRef.projectId
      setField noFaults span "openstack.project_name" authRef.projectName
      setField noFaults span "openstack.domain_id" authRef.domainId
      setRoles noFaults tuple span authRef.roleNames : Code Ctx H Unit)
      (userReads tuple authRef) () := by
  have hfield (key : String) (read : Except Exn Val) :
      Records span (setField noFaults span key read : Code Ctx H Unit) [strRead key read] () :=
    records_setField span key read
  exact (hfield "user.id" authRef.userId).seq <|
    (hfield "user.name" authRef.username).seq <|
    (hfield "openstack.project_id" authRef.projectId).seq <|
    (hfield "openstack.project_name" authRef.projectName).seq <|
    (hfield "openstack.domain_id" authRef.domainId).seq <|
    records_setRoles span tuple authRef.roleNames

lemma records_identity (fields : Fields) :
    Records span (recordIdentity noFaults tuple span fields : Code Ctx H Unit)
      (identityReads tuple fields) () := by
  apply Records.lift_bind
  · intro e he
    rw [identityReads, he]
    rfl
  intro tokenAuth htoken
  have huser : getattr fields.tokenAuth none >>= userOf = userOf tokenAuth := by
    rw [htoken]
    rfl
  apply Records.lift_bind
  · intro e he
    rw [identityReads, huser, he]
  intro user he
  rw [identityReads, huser, he]
  cases user with
  | none => exact Records.pure ()
  | some authRef => exact records_user span tuple authRef

/-- The validity of a token that is there. -/
lemma records_validity (validKey : String) (valid : Except Exn (Option Bool)) :
    Records span (do
      let known ← liftExcept valid
      onlySome known fun known => setAttribute noFaults span validKey (.bool known)
      pure known : Code Ctx H (Option Bool))
      [valid.map (validAttribute validKey)] valid.toOption.join := by
  apply Records.lift_bind
  · rintro e rfl
    rfl
  rintro known rfl
  cases known with
  | none => exact Records.none none
  | some b =>
    have hset : Records span (setAttribute noFaults span validKey (.bool b) : Code Ctx H Unit)
        [.ok [(validKey, .bool b)]] () := Records.setAttribute validKey (.bool b)
    exact hset.seq (Records.pure (some b))

lemma records_token (presentKey validKey : String) (token valid : Except Exn Val) :
    Records span (recordToken noFaults span presentKey validKey token valid :
        Code Ctx H (Option Bool))
      (tokenReads presentKey validKey token valid) (knownValid token valid) := by
  have hpresence (b : Bool) : Records span
      (setAttribute noFaults span presentKey (.bool b) : Code Ctx H Unit)
      [.ok [(presentKey, .bool b)]] () := Records.setAttribute presentKey (.bool b)
  apply Records.lift_bind
  · intro e he
    rw [tokenReads, he]
  intro present hpresent
  unfold tokenReads knownValid
  rw [hpresent]
  cases present with
  | false => exact (hpresence false).seq (Records.pure none)
  | true => exact (hpresence true).seq (records_validity span validKey (tokenValid valid))

lemma records_fields (fields : Fields) :
    Records span (do
      let userValid ← recordToken noFaults span "keystonemiddleware.user_token.present"
        "keystonemiddleware.user_token.valid" fields.userToken fields.userTokenValid
      let _ ← recordToken noFaults span "keystonemiddleware.service_token.present"
        "keystonemiddleware.service_token.valid" fields.serviceToken fields.serviceTokenValid
      onlyIf (userValid == some true) (recordIdentity noFaults tuple span fields) :
        Code Ctx H Unit) (fieldReads tuple fields) () := by
  apply (records_token span _ _ fields.userToken fields.userTokenValid).bind
  apply (records_token span _ _ fields.serviceToken fields.serviceTokenValid).bind
  by_cases h : knownValid fields.userToken fields.userTokenValid = some true
  · rw [if_pos h, h]
    exact records_identity span tuple fields
  · rw [if_neg h, beq_false_of_ne h]
    exact Records.pure ()

lemma recordRequest_eq (request : Request H) (v : World Ctx H) :
    recordRequest noFaults tuple span request v =
      (ends (requestReads tuple request v.host),
        v.called (setAttributes span (recorded (requestReads tuple request v.host)))) := by
  unfold recordRequest requestReads
  cases request.isNone with
  | true => exact Prod.ext rfl (called_nil v).symm
  | false =>
    refine (records_fields span tuple (request.fields v.host) v).trans ?_
    simp only [Bool.false_eq_true, if_false]
    cases ends (fieldReads tuple (request.fields v.host)) with
    | error e => rfl
    | ok u => rfl

end

/-! ### The wrapper -/

section

variable {Ctx H α : Type} [Propagator Ctx] (tuple : List String → Val) (request : Request H)
  (effect : World Ctx H → World Ctx H)

/-- The span the wrapper starts under a parent context. -/
def authSpan (parent : Option Ctx) (w : World Ctx H) : SpanContext :=
  newSpan w.calls (spanIn (parent.getD w.current))

/-- The world in which `process_request` is called. -/
def entered (parent : Option Ctx) (kind : SpanKind) (w : World Ctx H) : World Ctx H :=
  { w.called [.start (authSpan parent w) (spanIn (parent.getD w.current))
      "keystonemiddleware.authenticate" kind []] with
    current := setSpan (authSpan parent w) w.current }

/-- What is to be noted on the span of a `process_request` that came out with `r`. -/
def annotations (Ctx : Type) [ContextApi Ctx] (span : SpanContext) (r : Except Exn α)
    (reads : List (Except Exn Dict)) : List Call :=
  if isRecording Ctx span then
    match r with
    | .ok _ => setAttributes span (readable reads)
    | .error e =>
      if e.isException then
        .setStatus span .error e.str.toOption :: setAttributes span (readable reads)
      else []
  else []

/-- The wrapper around a `process_request` with this effect and this outcome. -/
def processed (effect : List (Request H) → List (String × Request H) → World Ctx H → World Ctx H)
    (args : List (Request H)) (kwargs : List (String × Request H)) (r : Except Exn α) :
    Code Ctx H α :=
  processRequestWrapper noFaults tuple (fun args kwargs u => (r, effect args kwargs u)) args kwargs

/-- What is to be left in the end: the effect, a span around it, and its annotations. -/
def left (r : Except Exn α) (w : World Ctx H) : World Ctx H :=
  if enabled w.current then
    match (parentContext noFaults request w).1 with
    | .error _ => effect w
    | .ok (parent, kind) =>
      let span := authSpan parent w
      let v := effect (entered parent kind w)
      { v.called (annotations Ctx span r (requestReads tuple request v.host)) with
        current := w.current }.called (closing Ctx span r)
  else effect w

/-- Recording leaves an outcome as it is: what was returned, if all can be read; an `Exception`,
if it has a text and all can be read, or if the first that cannot raises it once more and there
is nothing to record after it. -/
def Recordable (reads : List (Except Exn Dict)) : Except Exn α → Prop
  | .ok _ => ends reads = .ok ()
  | .error e => e.isException = true → (∃ text, e.str = .ok text) ∧
      (ends reads = .ok () ∨ ends reads = .error e ∧ recorded reads = readable reads)

/-- Instrumentation is suppressed; or the parent context can be read and, if the span is
recording, what is read of the request, as `process_request` leaves it. Where no parent can be
read, `process_request` would have done no more than raise the same. -/
def Readable (r : Except Exn α) (w : World Ctx H) : Prop :=
  enabled w.current = false ∨
    match (parentContext noFaults request w).1 with
    | .error e => r = .error e ∧ effect w = w
    | .ok (parent, kind) => isRecording Ctx (authSpan parent w) = true →
        Recordable (requestReads tuple request (effect (entered parent kind w)).host) r

lemma parentContext_silent : Silent (parentContext noFaults request : Code Ctx H _) := by
  refine Silent.bind (Silent.reads _) fun c w => ?_
  by_cases h : (spanIn c).isValid
  · rw [if_pos h]
    rfl
  · rw [if_neg h]
    refine Silent.bind (Silent.reads _) (fun read => Silent.bind (Silent.liftExcept _) ?_) w
    intro headers
    have hextract : ∀ a : Arg, Silent (do
        let parent ← extract noFaults a
        pure (some parent, .server) : Code Ctx H (Option Ctx × SpanKind)) := by
      intro a
      refine Silent.bind (fun w => ?_) fun _ => Silent.pure _
      rw [extract_noFaults]
    cases headers with
    | val v =>
      cases v with
      | none => exact Silent.pure _
      | bool b => exact hextract _
      | int n => exact hextract _
      | str s => exact hextract _
      | obj o => exact hextract _
    | dict ref => exact hextract _
    | object mapping truth get items setItem => exact hextract _
    | target topic exchange => exact hextract _
    | incoming ctxt message modules => exact hextract _

/-- The block of the span around the call. -/
def block (span : SpanContext) (r : Except Exn α) : Code Ctx H α := do
  let result ← onException noFaults span
    (fun e => do
      setErrorStatus noFaults span e
      recordRequest noFaults tuple span request)
    (fun u => (r, effect u))
  mayRaise noFaults .isRecording
  onlyIf (isRecording Ctx span) (recordRequest noFaults tuple span request)
  pure result

/-- What the block comes out with, and what it notes on the span. -/
def noted (Ctx : Type) [ContextApi Ctx] (span : SpanContext) (reads : List (Except Exn Dict))
    (r : Except Exn α) : Except Exn α × List Call :=
  if isRecording Ctx span then
    match r with
    | .ok a => ((ends reads).map fun _ => a, setAttributes span (recorded reads))
    | .error e =>
      if e.isException then
        match e.str with
        | .error raised => (.error raised, [])
        | .ok text => ((ends reads).bind fun _ => .error e,
            .setStatus span .error (some text) :: setAttributes span (recorded reads))
      else (.error e, [])
  else (r, [])

lemma noted_error (span : SpanContext) (reads : List (Except Exn Dict)) (e : Exn) :
    ∃ e', (noted Ctx span reads (.error e : Except Exn α)).1 = .error e' := by
  unfold noted
  cases isRecording Ctx span with
  | false => exact ⟨e, rfl⟩
  | true =>
    cases hexc : e.isException with
    | false => exact ⟨e, by simp [hexc]⟩
    | true =>
      cases hstr : e.str with
      | error raised => exact ⟨raised, by simp [hexc, hstr]⟩
      | ok text =>
        cases hends : ends reads with
        | error e' => exact ⟨e', by simp [hexc, hstr, Except.bind]⟩
        | ok _ => exact ⟨e, by simp [hexc, hstr, Except.bind]⟩

/-- The handler, and the exception once more. -/
lemma handled_eq (span : SpanContext) (e : Exn) (u : World Ctx H) :
    let reads := requestReads tuple request (effect u).host
    onException noFaults span
        (fun e => do
          setErrorStatus noFaults span e
          recordRequest noFaults tuple span request)
        (fun u => ((.error e : Except Exn α), effect u)) u =
      ((noted Ctx span reads (.error e : Except Exn α)).1,
        (effect u).called (noted Ctx span reads (.error e : Except Exn α)).2) := by
  intro reads
  refine (tryExcept_of_error (m := fun u => (.error e, effect u)) (s := u) (t := effect u)
    rfl).trans ?_
  cases hexc : e.isException with
  | false => simp [onlyIf, bind_apply, noted, hexc, called_nil]
  | true =>
    cases hrec : isRecording Ctx span with
    | false => simp [onlyIf, bind_apply, noted, hrec, called_nil]
    | true =>
      cases hstr : e.str with
      | error raised =>
        simp [onlyIf, bind_apply, noted, hrec, hexc, setErrorStatus, hstr, called_nil]
      | ok text =>
        have hrun := recordRequest_eq span tuple request
          ((effect u).called [.setStatus span .error (some text)])
        change _ = (ends reads, World.called _ (setAttributes span (recorded reads))) at hrun
        rw [World.called_called] at hrun
        cases hends : ends reads with
        | error e' =>
          rw [hends] at hrun
          simp [onlyIf, bind_apply, noted, hrec, hexc, setErrorStatus, hstr, hrun, hends,
            Except.bind]
        | ok _ =>
          rw [hends] at hrun
          simp [onlyIf, bind_apply, noted, hrec, hexc, setErrorStatus, hstr, hrun, hends,
            Except.bind]

lemma block_eq (span : SpanContext) (r : Except Exn α) (u : World Ctx H) :
    let reads := requestReads tuple request (effect u).host
    block tuple request effect span r u =
      ((noted Ctx span reads r).1, (effect u).called (noted Ctx span reads r).2) := by
  intro reads
  unfold block
  cases r with
  | ok a =>
    have hbody : onException noFaults span
        (fun e => do
          setErrorStatus noFaults span e
          recordRequest noFaults tuple span request)
        (fun u => (.ok a, effect u)) u = (.ok a, effect u) := tryExcept_of_ok rfl
    rw [bind_of_ok hbody, bind_of_ok (mayRaise_noFaults _ _)]
    cases hrec : isRecording Ctx span with
    | false => simp [onlyIf, bind_apply, noted, hrec, called_nil]
    | true =>
      have hrun : recordRequest noFaults tuple span request (effect u) =
          (ends reads, (effect u).called (setAttributes span (recorded reads))) :=
        recordRequest_eq span tuple request (effect u)
      cases hends : ends reads with
      | error e => simp [onlyIf, bind_apply, noted, hrec, hrun, hends, Except.map]
      | ok _ => simp [onlyIf, bind_apply, noted, hrec, hrun, hends, Except.map]
  | error e =>
    obtain ⟨e', he'⟩ : ∃ e', (noted Ctx span reads (.error e : Except Exn α)).1 = .error e' :=
      noted_error span reads e
    have hbody := handled_eq (α := α) tuple request effect span e u
    change _ = ((noted Ctx span reads (.error e : Except Exn α)).1, _) at hbody
    rw [he'] at hbody ⊢
    exact bind_of_error hbody

/-- What is noted is what is to be noted, and the outcome is kept, exactly when it can be. -/
lemma noted_iff {span : SpanContext} (hrec : isRecording Ctx span = true)
    (reads : List (Except Exn Dict)) (r : Except Exn α) :
    noted Ctx span reads r = (r, annotations Ctx span r reads) ↔ Recordable reads r := by
  unfold noted annotations
  rw [if_pos hrec, if_pos hrec]
  cases r with
  | ok a =>
    cases hends : ends reads with
    | error e => exact iff_of_false nofun (fun h => absurd (hends.symm.trans h) nofun)
    | ok u =>
      refine iff_of_true ?_ hends
      dsimp only
      rw [recorded_of_ok hends]
      rfl
  | error e =>
    cases hexc : e.isException with
    | false => exact iff_of_true (by simp [hexc]) (fun h => absurd (hexc.symm.trans h) nofun)
    | true =>
      simp only [hexc, if_true, Recordable, forall_const]
      cases hstr : e.str with
      | error raised =>
        refine iff_of_false (fun h => ?_) (fun ⟨⟨text, h⟩, _⟩ => absurd h nofun)
        exact Exn.str_ne hstr (Except.error.inj (congrArg Prod.fst h))
      | ok text =>
        cases hends : ends reads with
        | ok u =>
          refine iff_of_true ?_ ⟨⟨text, rfl⟩, Or.inl rfl⟩
          rw [recorded_of_ok hends]
          rfl
        | error e' =>
          constructor
          · intro h
            obtain ⟨hout, hnoted⟩ := Prod.mk.inj h
            obtain rfl : e' = e := Except.error.inj hout
            refine ⟨⟨text, rfl⟩, Or.inr ⟨rfl, ?_⟩⟩
            exact setAttributes_inj span (List.cons.inj hnoted).2
          · rintro ⟨-, h | ⟨hsame, hall⟩⟩
            · exact absurd h nofun
            · rw [hall, hsame]
              rfl

/-- The whole wrapper, once the parent context has been read. -/
lemma processed_eq (effect : List (Request H) → List (String × Request H) → World Ctx H →
      World Ctx H) {args : List (Request H)} {kwargs : List (String × Request H)}
    {w : World Ctx H} {parent : Option Ctx} {kind : SpanKind} (hon : enabled w.current = true)
    (hparent : (parentContext noFaults (requestArg args kwargs) w).1 = .ok (parent, kind))
    (r : Except Exn α) :
    processed tuple effect args kwargs r w =
      useSpan noFaults (authSpan parent w)
        (block tuple (requestArg args kwargs) (effect args kwargs) (authSpan parent w) r)
        (w.called [.start (authSpan parent w) (spanIn (parent.getD w.current))
          "keystonemiddleware.authenticate" kind []]) := by
  have hread : parentContext noFaults (requestArg args kwargs) w = (.ok (parent, kind), w) :=
    Prod.ext hparent (parentContext_silent _ w)
  refine (guard_on hon).trans ?_
  refine (bind_of_ok hread).trans ?_
  exact bind_of_ok (startSpan_noFaults _ kind parent [] w)

/-- A run of the wrapper around its block, in which the outcome and what is noted can be told. -/
lemma around_iff {span : SpanContext} {v : World Ctx H} {c : Ctx} {out r : Except Exn α}
    {cs ds : List Call} :
    ((out, { v.called cs with current := c }.called (closing Ctx span out)) :
        Except Exn α × World Ctx H) =
      (r, { v.called ds with current := c }.called (closing Ctx span r)) ↔
    (out, cs) = (r, ds) := by
  constructor
  · intro h
    obtain ⟨rfl, hworld⟩ := Prod.mk.inj h
    have hcalls : v.calls ++ cs ++ closing Ctx span out = v.calls ++ ds ++ closing Ctx span out :=
      congrArg World.calls hworld
    rw [List.append_cancel_left (List.append_cancel_right hcalls)]
  · intro h
    obtain ⟨rfl, rfl⟩ := Prod.mk.inj h
    rfl

/-- **Authentication is left as it is.** Whatever `process_request` returns or raises, the
wrapper returns or raises it, having recorded everything that can be read, exactly when nothing
that is read raises in its way. -/
theorem outcome_kept_iff
    (effect : List (Request H) → List (String × Request H) → World Ctx H → World Ctx H)
    (args : List (Request H)) (kwargs : List (String × Request H)) (r : Except Exn α)
    (w : World Ctx H) :
    processed tuple effect args kwargs r w =
        (r, left tuple (requestArg args kwargs) (effect args kwargs) r w) ↔
      Readable tuple (requestArg args kwargs) (effect args kwargs) r w := by
  unfold left Readable
  cases hon : enabled w.current with
  | false =>
    refine iff_of_true ?_ (.inl rfl)
    exact guard_off hon
  | true =>
    simp only [if_true, Bool.true_eq_false, false_or]
    cases hparent : (parentContext noFaults (requestArg args kwargs) w).1 with
    | error e =>
      have hread : parentContext noFaults (requestArg args kwargs) w = (.error e, w) :=
        Prod.ext hparent (parentContext_silent _ w)
      have hraised : processed tuple effect args kwargs r w = (.error e, w) :=
        (guard_on hon).trans (bind_of_error hread)
      rw [hraised, Prod.mk.injEq]
      exact ⟨fun h => ⟨h.1.symm, h.2.symm⟩, fun h => ⟨h.1.symm, h.2.symm⟩⟩
    | ok read =>
      obtain ⟨parent, kind⟩ := read
      let span := authSpan parent w
      let v := effect args kwargs (entered parent kind w)
      let reads := requestReads tuple (requestArg args kwargs) v.host
      have hrun : processed tuple effect args kwargs r w =
          ((noted Ctx span reads r).1,
            { v.called (noted Ctx span reads r).2 with current := w.current }.called
              (closing Ctx span (noted Ctx span reads r).1)) := by
        rw [processed_eq tuple effect hon hparent r, useSpan_noFaults]
        have hblock := block_eq tuple (requestArg args kwargs) (effect args kwargs) span r
          (entered parent kind w)
        change ((block tuple _ _ span r (entered parent kind w)).1,
          World.called { (block tuple _ _ span r (entered parent kind w)).2 with
            current := w.current }
            (closing Ctx span (block tuple _ _ span r (entered parent kind w)).1)) = _
        rw [hblock]
      rw [hrun]
      refine around_iff.trans ?_
      change noted Ctx span reads r = (r, annotations Ctx span r reads) ↔
        (isRecording Ctx span = true → Recordable reads r)
      cases hrec : isRecording Ctx span with
      | false =>
        refine iff_of_true ?_ nofun
        simp [noted, annotations, hrec]
      | true => exact (noted_iff hrec reads r).trans ⟨fun h _ => h, fun h => h rfl⟩

end

/-! ### A request that cannot be read -/

/-- A user with an id that cannot be read. -/
def unreadableUser : AuthRef where
  userId := .error (exn "ValueError" "bad token")
  username := .ok .none
  projectId := .ok .none
  projectName := .ok .none
  domainId := .ok .none
  roleNames := .ok none

/-- A request with a valid token of that user. -/
def acceptedRequest : Request Unit where
  isNone := false
  headers _ := .ok (.val .none)
  fields _ := {
    userToken := .ok (.str "token"), userTokenValid := .ok (.bool true)
    serviceToken := .ok .none, serviceTokenValid := .ok .none
    tokenAuth := .ok (some (.ok (some unreadableUser))) }

/-- An accepted request is turned into an error, by the span around it. -/
theorem accepted_request_raises :
    ¬ ∀ r : Except Exn Unit,
      (processed (fun _ => .none) (fun _ _ w => w) [acceptedRequest] [] r
        (⟨empty, [], [], ()⟩ : World BareContext Unit)).1 = r := by
  intro h
  have hraised : (processed (fun _ => .none) (fun _ _ w => w) [acceptedRequest] [] (.ok ())
      (⟨empty, [], [], ()⟩ : World BareContext Unit)).1 =
        .error (exn "ValueError" "bad token") := by
    rfl
  exact absurd (hraised.symm.trans (h (.ok ()))) nofun

end OtelOpenstack.AuthRecording
