import OtelOpenstack.AuthRecording
import OtelOpenstack.HopSpecs

/-!
How the span of a send and the span of the dispatch describe a message.

A message is sent under one name and received under another, which two pieces of code compute
from the same mapping. Each side is its way in, up to the wrapped call: what it has recorded by
then is a name and attributes, and of these some describe the message.
-/

set_option autoImplicit false

namespace OtelOpenstack.Descriptions

open Effects Python Otel ContextApi Carriers Openings Hops Messaging Wires AuthRecording

/-! ### What a span records -/

/-- The attributes of a span after more calls; a span that has ended keeps its own. -/
def attributesFrom (span : SpanContext) : Dict → List Call → Dict
  | d, [] => d
  | d, .setAttribute s key value :: cs =>
    attributesFrom span (if s = span then d.set key value else d) cs
  | d, .finish s :: cs => if s = span then d else attributesFrom span d cs
  | d, _ :: cs => attributesFrom span d cs

structure Recorded where
  name : String
  attributes : Dict

/-- The span that the calls begin with. -/
def recorded : List Call → Option Recorded
  | .start span _ name _ attributes :: cs => some ⟨name, attributesFrom span attributes cs⟩
  | _ => none

/-- The attributes that describe a message. -/
def describingKeys : List String :=
  ["rpc.method", "rpc.service", "openstack.request_id", "messaging.message.conversation_id",
    "oslo_messaging.notification.priority", "oslo_messaging.notification.event_type",
    "oslo_messaging.notification.publisher_id"]

/-- The name of a span, with its operation if there is one. -/
def spanName (op : Option String) (what : String) : String :=
  match op with
  | none => what
  | some op => op ++ " " ++ what

/-- The names are of one operation, or both of none. -/
def SameOperation (sent received : String) : Prop :=
  ∃ op, sent = spanName op "send" ∧ received = spanName op "receive"

structure SameDescription (sent received : Recorded) : Prop where
  operation : SameOperation sent.name received.name
  attributes : ∀ key ∈ describingKeys, sent.attributes.get key = received.attributes.get key

/-- A dictionary after several items are set. -/
def setEach (d items : Dict) : Dict := items.foldl (fun d item => d.set item.1 item.2) d

lemma attributesFrom_setAttributes (span : SpanContext) (d items : Dict) :
    attributesFrom span d (setAttributes span items) = setEach d items := by
  induction items generalizing d with
  | nil => rfl
  | cons item items ih =>
    change attributesFrom span (if span = span then d.set item.1 item.2 else d) _ = _
    rw [if_pos rfl]
    exact ih _

lemma get_setEach_of_not_mem {items : Dict} {key : String} (h : ∀ item ∈ items, item.1 ≠ key)
    (d : Dict) : (setEach d items).get key = d.get key := by
  induction items generalizing d with
  | nil => rfl
  | cons item items ih =>
    have hset : (d.set item.1 item.2).get key = d.get key :=
      Dict.get_set_of_ne d item.2 (h item (List.mem_cons_self ..)).symm
    exact (ih (fun i hi => h i (List.mem_cons_of_mem _ hi)) _).trans hset

lemma get_setEach_congr {d d' : Dict} {key : String} (h : d.get key = d'.get key)
    (items : Dict) : (setEach d items).get key = (setEach d' items).get key := by
  induction items generalizing d d' with
  | nil => exact h
  | cons item items ih =>
    apply ih
    by_cases hkey : key = item.1
    · subst hkey
      rw [Dict.get_set_self, Dict.get_set_self]
    · rw [Dict.get_set_of_ne d _ hkey, Dict.get_set_of_ne d' _ hkey, h]

/-- No attribute that describes the message is among them. -/
def Aside (items : Dict) : Prop := ∀ item ∈ items, item.1 ∉ describingKeys

/-- The calls record a span with this name; of its attributes `shared` describe the message. -/
def Records (calls : List Call) (name : String) (shared : Dict) : Prop :=
  ∃ span parent kind before after,
    calls = .start span parent name kind [] :: setAttributes span (before ++ shared ++ after) ∧
      Aside before ∧ Aside after

lemma get_of_aside {before shared after : Dict} (hbefore : Aside before) (hafter : Aside after)
    {key : String} (hkey : key ∈ describingKeys) :
    (setEach [] (before ++ shared ++ after)).get key = (setEach [] shared).get key := by
  have hne {items : Dict} (h : Aside items) : ∀ item ∈ items, item.1 ≠ key := by
    rintro item hitem rfl
    exact h item hitem hkey
  have hsplit : setEach [] (before ++ shared ++ after) =
      setEach (setEach (setEach [] before) shared) after := by
    simp only [setEach, List.foldl_append]
  rw [hsplit, get_setEach_of_not_mem (hne hafter)]
  exact get_setEach_congr (get_setEach_of_not_mem (hne hbefore) []) shared

lemma Records.recorded {calls : List Call} {name : String} {shared : Dict}
    (h : Records calls name shared) :
    ∃ r, recorded calls = some r ∧ r.name = name ∧
      ∀ key ∈ describingKeys, r.attributes.get key = (setEach [] shared).get key := by
  obtain ⟨span, parent, kind, before, after, rfl, hbefore, hafter⟩ := h
  refine ⟨_, rfl, rfl, fun key hkey => ?_⟩
  rw [attributesFrom_setAttributes]
  exact get_of_aside hbefore hafter hkey

/-! ### Names -/

lemma sameOperation_of_eq (op : String) : SameOperation (op ++ " send") (op ++ " receive") := by
  refine ⟨some op, ?_, ?_⟩
  · rw [spanName, String.append_assoc]
    rfl
  · rw [spanName, String.append_assoc]
    rfl

/-- A dispatch always puts something before `receive`. -/
lemma received_ne (op : String) : op ++ " receive" ≠ "receive" := by
  intro h
  have hlength := congrArg String.length h
  rw [String.length_append] at hlength
  have : " receive".length = 8 := rfl
  have : "receive".length = 7 := rfl
  omega

lemma sent_ne (op : String) : op ++ " send" ≠ "send" := by
  intro h
  have hlength := congrArg String.length h
  rw [String.length_append] at hlength
  have : " send".length = 5 := rfl
  have : "send".length = 4 := rfl
  omega

lemma not_sameOperation_send (op : String) : ¬ SameOperation "send" (op ++ " receive") := by
  rintro ⟨op' | op', hsent, hreceived⟩
  · exact received_ne op hreceived
  · rw [spanName, String.append_assoc] at hsent
    exact sent_ne op' hsent.symm

lemma sameOperation_iff (op op' : String) :
    SameOperation (op ++ " send") (op' ++ " receive") ↔ op = op' := by
  refine ⟨?_, fun h => h ▸ sameOperation_of_eq op⟩
  rintro ⟨both | both, hsent, hreceived⟩
  · exact absurd hsent (sent_ne op)
  · rw [spanName, String.append_assoc] at hsent hreceived
    have hop : op = both := (String.append_left_inj " send").mp hsent
    have hop' : op' = both := (String.append_left_inj " receive").mp hreceived
    exact hop.trans hop'.symm

/-! ### Mappings -/

/-- The argument is a mapping with these items. -/
structure Holds (dicts : List Dict) (a : Arg) (d : Dict) : Prop where
  isMapping : a.isMapping = true
  truth : a.truth dicts = .ok !d.isEmpty
  get : ∀ key default, a.get dicts key default = .ok ((d.get key).getD default)

lemma holds_dict (dicts : List Dict) (ref : ℕ) : Holds dicts (.dict ref) (deref dicts ref) :=
  ⟨rfl, rfl, fun _ _ => rfl⟩

/-- An empty mapping may be replaced by another. -/
lemma Holds.orEmpty {dicts : List Dict} {a b : Arg} {d : Dict} (h : Holds dicts a d)
    (hb : a.orEmpty dicts = .ok b) : Holds dicts b d := by
  obtain ⟨given, hgiven, hb⟩ := of_bind_ok hb
  obtain rfl := Except.ok.inj (h.truth.symm.trans hgiven)
  cases d with
  | nil =>
    obtain rfl := Except.ok.inj hb
    exact ⟨rfl, rfl, fun _ _ => rfl⟩
  | cons item d =>
    obtain rfl := Except.ok.inj hb
    exact h

/-- What a mapping has under a key; `None` is there as an item, and it is what is missing. -/
def item (d : Dict) (key : String) : Val := (d.get key).getD .none

/-- The value is true. -/
def Given (v : Val) : Prop := v.truth = .ok true

instance (v : Val) : Decidable (Given v) := inferInstanceAs (Decidable (_ = _))

lemma not_given {v : Val} (h : v.truth = .ok false) : ¬ Given v :=
  fun hgiven => absurd (h.symm.trans hgiven) nofun

/-- A value that is given is there, whatever the default. -/
lemma getD_of_given {v : Option Val} (h : Given (v.getD .none)) (default : Val) :
    v.getD default = v.getD .none := by
  cases v with
  | none => exact absurd h nofun
  | some v => rfl

/-- The empty text is a default that is not given. -/
lemma given_getD_empty (v : Option Val) : Given (v.getD (.str "")) ↔ Given (v.getD .none) := by
  cases v with
  | none => exact iff_of_false nofun nofun
  | some v => exact Iff.rfl

/-! ### The names of the two sides -/

/-- A notification is named by its event type, and an RPC by its method, whose text and format
have to be the same where there is no namespace. -/
def Named (isNotification : Bool) (message : Dict) : Prop :=
  if isNotification then Given (item message "event_type")
  else
    Given (item message "method") ∧
      (Given (item message "namespace") ∨
        ∃ text, text ≠ "" ∧ (item message "method").text = .ok text ∧
          (item message "method").format = .ok text)

section

variable {dicts : List Dict} {a : Arg} {message : Dict} {name : String}

lemma sendName_event (h : Holds dicts a message) (hname : sendName true dicts a = .ok name) :
    (¬ Given (item message "event_type") ∧ name = "send") ∨
      (Given (item message "event_type") ∧ ∃ text,
        (item message "event_type").format = .ok text ∧ name = text ++ " send") := by
  obtain ⟨eventType, hget, hname⟩ := of_bind_ok hname
  obtain rfl := Except.ok.inj ((h.get _ _).symm.trans hget)
  obtain ⟨given, hgiven, hname⟩ := of_bind_ok hname
  cases given with
  | false =>
    obtain rfl := Except.ok.inj hname
    exact .inl ⟨not_given hgiven, rfl⟩
  | true =>
    obtain ⟨text, htext, hname⟩ := of_bind_ok hname
    exact .inr ⟨hgiven, text, htext, (Except.ok.inj hname).symm⟩

lemma dotted_ne {namespaceOf method : Val} {text : String}
    (h : dotted namespaceOf method = .ok text) : text ≠ "" := by
  obtain ⟨n, -, h⟩ := of_bind_ok h
  obtain ⟨m, -, h⟩ := of_bind_ok h
  obtain rfl := Except.ok.inj h
  intro hempty
  have hlength := congrArg String.length hempty
  rw [String.length_append, String.length_append] at hlength
  have : ".".length = 1 := rfl
  have : "".length = 0 := rfl
  omega

lemma sendName_method (h : Holds dicts a message) (hname : sendName false dicts a = .ok name) :
    (¬ Given (item message "method") ∧ name = "send") ∨
      (Given (item message "method") ∧ Given (item message "namespace") ∧ ∃ text,
        dotted (item message "namespace") (item message "method") = .ok text ∧
          name = text ++ " send") ∨
      (Given (item message "method") ∧ ¬ Given (item message "namespace") ∧ ∃ text,
        (item message "method").text = .ok text ∧
          name = if text = "" then "send" else text ++ " send") := by
  obtain ⟨rpc, hrpc, hname⟩ := of_bind_ok hname
  unfold rpcMethod at hrpc
  rw [h.isMapping, if_neg (by decide)] at hrpc
  obtain ⟨method, hget, hrpc⟩ := of_bind_ok hrpc
  obtain rfl := Except.ok.inj ((h.get _ _).symm.trans hget)
  obtain ⟨given, hgiven, hrpc⟩ := of_bind_ok hrpc
  cases given with
  | false =>
    obtain rfl := Except.ok.inj hrpc
    obtain rfl := Except.ok.inj hname
    exact .inl ⟨not_given hgiven, rfl⟩
  | true =>
    obtain ⟨namespaceOf, hget', hrpc⟩ := of_bind_ok hrpc
    obtain rfl := Except.ok.inj ((h.get _ _).symm.trans hget')
    obtain ⟨given', hgiven', hrpc⟩ := of_bind_ok hrpc
    cases given' with
    | true =>
      obtain ⟨text, htext, hrpc⟩ := of_bind_ok hrpc
      obtain rfl := Except.ok.inj hrpc
      change (if text = "" then _ else _) = _ at hname
      rw [if_neg (dotted_ne htext)] at hname
      exact .inr (.inl ⟨hgiven, hgiven', text, htext, (Except.ok.inj hname).symm⟩)
    | false =>
      obtain ⟨text, htext, hrpc⟩ := of_bind_ok hrpc
      obtain rfl := Except.ok.inj hrpc
      refine .inr (.inr ⟨hgiven, not_given hgiven', text, htext, ?_⟩)
      change (if text = "" then _ else _) = _ at hname
      by_cases hempty : text = ""
      · rw [if_pos hempty] at hname ⊢
        exact (Except.ok.inj hname).symm
      · rw [if_neg hempty] at hname ⊢
        exact (Except.ok.inj hname).symm

lemma receiveName_cases {namespaceOf method : Val}
    (h : receiveName namespaceOf method = .ok name) :
    (Given namespaceOf ∧ ∃ text, dotted namespaceOf method = .ok text ∧
        name = text ++ " receive") ∨
      (¬ Given namespaceOf ∧ ∃ text, method.format = .ok text ∧ name = text ++ " receive") := by
  obtain ⟨given, hgiven, h⟩ := of_bind_ok h
  cases given with
  | true =>
    obtain ⟨text, htext, h⟩ := of_bind_ok h
    exact .inl ⟨hgiven, text, htext, (Except.ok.inj h).symm⟩
  | false =>
    obtain ⟨text, htext, h⟩ := of_bind_ok h
    refine .inr ⟨not_given hgiven, text, htext, ?_⟩
    exact (Except.ok.inj h).symm

lemma sameOperation_event {received : String} (h : Holds dicts a message)
    (hname : sendName true dicts a = .ok name)
    (hreceived : ((message.get "event_type").getD (.str "")).format = .ok received) :
    SameOperation name (received ++ " receive") ↔ Named true message := by
  rcases sendName_event h hname with ⟨hnot, rfl⟩ | ⟨hgiven, text, htext, rfl⟩
  · exact iff_of_false (not_sameOperation_send _) hnot
  · rw [getD_of_given hgiven] at hreceived
    obtain rfl := Except.ok.inj (htext.symm.trans hreceived)
    exact iff_of_true (sameOperation_of_eq text) hgiven

lemma sameOperation_method {received : String} (h : Holds dicts a message)
    (hname : sendName false dicts a = .ok name)
    (hreceived : receiveName ((message.get "namespace").getD (.str ""))
      ((message.get "method").getD (.str "")) = .ok received) :
    SameOperation name received ↔ Named false message := by
  rcases sendName_method h hname with ⟨hnot, rfl⟩ | ⟨hgiven, hspace, text, htext, rfl⟩ |
    ⟨hgiven, hspace, text, htext, rfl⟩
  · -- whatever the dispatch puts before it, the send has nothing
    refine iff_of_false ?_ fun hnamed => hnot hnamed.1
    rcases receiveName_cases hreceived with ⟨-, op, -, rfl⟩ | ⟨-, op, -, rfl⟩
    · exact not_sameOperation_send op
    · exact not_sameOperation_send op
  · rw [getD_of_given hgiven, getD_of_given hspace] at hreceived
    rcases receiveName_cases hreceived with ⟨-, op, hop, rfl⟩ | ⟨hnot, -⟩
    · obtain rfl := Except.ok.inj (htext.symm.trans hop)
      exact iff_of_true (sameOperation_of_eq text) ⟨hgiven, .inl hspace⟩
    · exact absurd hspace hnot
  · rw [getD_of_given hgiven] at hreceived
    rcases receiveName_cases hreceived with ⟨hspace', -⟩ | ⟨-, op, hop, rfl⟩
    · exact absurd ((given_getD_empty _).mp hspace') hspace
    have hnamed : Named false message ↔ text ≠ "" ∧ text = op := by
      constructor
      · rintro ⟨-, hspace' | ⟨both, hne, hboth, hboth'⟩⟩
        · exact absurd hspace' hspace
        · obtain rfl := Except.ok.inj (htext.symm.trans hboth)
          exact ⟨hne, Except.ok.inj (hboth'.symm.trans hop)⟩
      · rintro ⟨hne, rfl⟩
        exact ⟨hgiven, .inr ⟨text, hne, htext, hop⟩⟩
    rw [hnamed]
    by_cases hempty : text = ""
    · rw [if_pos hempty]
      exact iff_of_false (not_sameOperation_send op) fun hboth => hboth.1 hempty
    · rw [if_neg hempty, sameOperation_iff]
      exact (and_iff_right hempty).symm

end

/-! ### The attributes of the two sides -/

/-- `str(value)` under a key. -/
def textAttribute (key : String) (value : Val) : Dict :=
  match value.text with
  | .ok text => [(key, .str text)]
  | .error _ => []

def requestAttributes (requestId : Val) : Dict :=
  if Given requestId then
    textAttribute "openstack.request_id" requestId ++
      textAttribute "messaging.message.conversation_id" requestId
  else []

/-- What an RPC is described by. -/
def rpcAttributes (method namespaceOf requestId : Val) : Dict :=
  (if method ≠ .none then textAttribute "rpc.method" method else []) ++
    (if Given namespaceOf then textAttribute "rpc.service" namespaceOf else []) ++
    requestAttributes requestId

def unlessNone (key : String) (value : Val) : Dict := if value ≠ .none then [(key, value)] else []

/-- What a notification is described by. -/
def notificationAttributes (message : Dict) (requestId : Val) : Dict :=
  requestAttributes requestId ++
    unlessNone "oslo_messaging.notification.priority" (item message "priority") ++
    unlessNone "oslo_messaging.notification.event_type" (item message "event_type") ++
    unlessNone "oslo_messaging.notification.publisher_id" (item message "publisher_id")

/-- An attribute that is recorded if it can be read and is true. -/
def ifTrueAttribute (key : String) : Except Exn Val → Dict
  | .ok v => if Given v then [(key, v)] else []
  | .error _ => []

/-- What says that there was an operation, and over which broker. -/
def operationAttributes (system operation : String) : Dict :=
  [("messaging.system", .str system), ("messaging.operation", .str operation),
    ("messaging.operation.name", .str operation)]

section

variable {Ctx H β : Type} {dicts : List Dict} {span : SpanContext}

/-- Where these dictionaries are, the code sets the attributes `d` if it returns. -/
def Adds (dicts : List Dict) (span : SpanContext) (m : Code Ctx H Unit) (d : Dict) : Prop :=
  ∀ w v, w.dicts = dicts → m w = (.ok (), v) → v = w.called (setAttributes span d)

lemma adds_pure : Adds dicts span (pure () : Code Ctx H Unit) [] := by
  rintro w v - ⟨⟩
  exact (called_nil w).symm

lemma adds_setAttribute (key : String) (value : Val) :
    Adds dicts span (setAttribute noFaults span key value : Code Ctx H Unit) [(key, value)] := by
  rintro w v - ⟨⟩
  rfl

lemma Adds.seq {m n : Code Ctx H Unit} {d e : Dict} (hm : Adds dicts span m d)
    (hn : Adds dicts span n e) :
    Adds dicts span (do
      m
      n) (d ++ e) := by
  intro w v hdicts h
  obtain ⟨⟨⟩, u, hu, h⟩ := bind_ok_cases h
  obtain rfl := hm w u hdicts hu
  rw [setAttributes_append, ← World.called_called]
  exact hn _ v hdicts h

lemma adds_lift {x : Except Exn β} {f : β → Code Ctx H Unit} {d : Dict}
    (h : ∀ b, x = .ok b → Adds dicts span (f b) d) : Adds dicts span (liftExcept x >>= f) d := by
  intro w v hdicts hv
  obtain ⟨b, u, hb, hv⟩ := bind_ok_cases hv
  obtain ⟨rfl, rfl⟩ := Prod.mk.inj hb
  exact h b rfl w v hdicts hv

lemma adds_getDicts {f : List Dict → Code Ctx H Unit} {d : Dict}
    (h : Adds dicts span (f dicts) d) : Adds dicts span (getDicts >>= f) d := by
  rintro w v rfl hv
  exact h w v rfl hv

lemma adds_onlyIf {c : Bool} {p : Prop} [Decidable p] {m : Code Ctx H Unit} {d : Dict}
    (hc : c = true ↔ p) (h : Adds dicts span m d) :
    Adds dicts span (onlyIf c m) (if p then d else []) := by
  by_cases hp : p
  · rw [if_pos hp, hc.mpr hp]
    exact h
  · rw [if_neg hp, Bool.eq_false_iff.mpr fun htrue => hp (hc.mp htrue)]
    exact adds_pure

lemma given_iff {v : Val} {b : Bool} (h : v.truth = .ok b) : b = true ↔ Given v := by
  unfold Given
  rw [h, Except.ok.injEq]

lemma adds_setText (key : String) (value : Val) :
    Adds dicts span (setText noFaults span key value : Code Ctx H Unit)
      (textAttribute key value) := by
  apply adds_lift
  intro text htext
  rw [textAttribute, htext]
  exact adds_setAttribute key (.str text)

lemma adds_setRequestId {ctxt : Arg} {requestId : Val} (hmapping : ctxt.isMapping = true)
    (hget : ctxt.get dicts "request_id" .none = .ok requestId) :
    Adds dicts span (setRequestId noFaults span ctxt : Code Ctx H Unit)
      (requestAttributes requestId) := by
  unfold setRequestId
  rw [hmapping, if_neg (by decide)]
  apply adds_getDicts
  rw [hget]
  apply adds_lift
  rintro _ ⟨⟩
  apply adds_lift
  intro given hgiven
  have htext (key : String) : Adds dicts span
      (setText noFaults span key requestId : Code Ctx H Unit) (textAttribute key requestId) :=
    adds_setText key requestId
  have h := adds_onlyIf (given_iff hgiven)
    ((htext "openstack.request_id").seq (htext "messaging.message.conversation_id"))
  cases given with
  | false => exact h
  | true => exact h

lemma adds_setRpcAttributes {ctxt : Arg} {requestId : Val} (hmapping : ctxt.isMapping = true)
    (hget : ctxt.get dicts "request_id" .none = .ok requestId) (method namespaceOf : Val)
    (system operation : String) :
    Adds dicts span (setRpcAttributes noFaults span ctxt method namespaceOf system operation :
        Code Ctx H Unit)
      (operationAttributes system operation ++ [("rpc.system", .str "oslo.messaging")] ++
        rpcAttributes method namespaceOf requestId) := by
  have hset (key : String) (value : Val) : Adds dicts span
      (setAttribute noFaults span key value : Code Ctx H Unit) [(key, value)] :=
    adds_setAttribute key value
  have hmethod : Adds dicts span
      (onlyIf (method ≠ .none) (setText noFaults span "rpc.method" method) : Code Ctx H Unit)
      (if method ≠ .none then textAttribute "rpc.method" method else []) :=
    adds_onlyIf decide_eq_true_iff (adds_setText "rpc.method" method)
  have hrest : Adds dicts span (do
      let given ← liftExcept namespaceOf.truth
      onlyIf given (setText noFaults span "rpc.service" namespaceOf)
      setRequestId noFaults span ctxt : Code Ctx H Unit)
      ((if Given namespaceOf then textAttribute "rpc.service" namespaceOf else []) ++
        requestAttributes requestId) := by
    apply adds_lift
    intro given hgiven
    exact (adds_onlyIf (given_iff hgiven) (adds_setText "rpc.service" namespaceOf)).seq
      (adds_setRequestId hmapping hget)
  have hall := (hset "messaging.system" (.str system)).seq <|
    (hset "messaging.operation" (.str operation)).seq <|
    (hset "messaging.operation.name" (.str operation)).seq <|
    (hset "rpc.system" (.str "oslo.messaging")).seq <| hmethod.seq hrest
  unfold setRpcAttributes
  simpa only [operationAttributes, rpcAttributes, List.append_assoc, List.cons_append,
    List.nil_append] using hall

lemma adds_setUnlessNone (key : String) (value : Val) :
    Adds dicts span (setUnlessNone noFaults span key value : Code Ctx H Unit)
      (unlessNone key value) :=
  adds_onlyIf decide_eq_true_iff (adds_setAttribute key value)

lemma adds_setNotificationAttributes {ctxt : Arg} {requestId : Val}
    (hmapping : ctxt.isMapping = true)
    (hget : ctxt.get dicts "request_id" .none = .ok requestId) (message : Dict)
    (system operation : String) :
    Adds dicts span (setNotificationAttributes noFaults span system operation ctxt
        (item message "event_type") (item message "priority") (item message "publisher_id") :
        Code Ctx H Unit)
      (operationAttributes system operation ++ notificationAttributes message requestId) := by
  have hset (key : String) (value : Val) : Adds dicts span
      (setAttribute noFaults span key value : Code Ctx H Unit) [(key, value)] :=
    adds_setAttribute key value
  have hunless (key : String) (value : Val) : Adds dicts span
      (setUnlessNone noFaults span key value : Code Ctx H Unit) (unlessNone key value) :=
    adds_setUnlessNone key value
  have hall := (hset "messaging.system" (.str system)).seq <|
    (hset "messaging.operation" (.str operation)).seq <|
    (hset "messaging.operation.name" (.str operation)).seq <|
    (adds_setRequestId hmapping hget).seq <|
    (hunless "oslo_messaging.notification.priority" (item message "priority")).seq <|
    (hunless "oslo_messaging.notification.event_type" (item message "event_type")).seq <|
    hunless "oslo_messaging.notification.publisher_id" (item message "publisher_id")
  unfold setNotificationAttributes
  simpa only [operationAttributes, notificationAttributes, List.append_assoc,
    List.cons_append, List.nil_append] using hall

lemma adds_setIfTrue (key : String) (value : Except Exn Val) :
    Adds dicts span (setIfTrue noFaults span key value : Code Ctx H Unit)
      (ifTrueAttribute key value) := by
  apply adds_lift
  rintro v rfl
  apply adds_lift
  intro given hgiven
  exact adds_onlyIf (given_iff hgiven) (adds_setAttribute key v)

end

/-! ### What does not describe the message -/

lemma aside_nil : Aside [] := by
  intro item hitem
  exact absurd hitem List.not_mem_nil

lemma aside_append {d e : Dict} (hd : Aside d) (he : Aside e) : Aside (d ++ e) := by
  intro item hitem
  rcases List.mem_append.mp hitem with hmem | hmem
  · exact hd item hmem
  · exact he item hmem

lemma aside_ifTrueAttribute {key : String} (hkey : key ∉ describingKeys)
    (value : Except Exn Val) : Aside (ifTrueAttribute key value) := by
  intro item hitem
  unfold ifTrueAttribute at hitem
  split at hitem
  · split at hitem
    · rw [List.mem_singleton.mp hitem]
      exact hkey
    · exact absurd hitem List.not_mem_nil
  · exact absurd hitem List.not_mem_nil

lemma aside_operationAttributes (system operation : String) :
    Aside (operationAttributes system operation) := by
  have hkeys : (operationAttributes system operation).map Prod.fst =
      ["messaging.system", "messaging.operation", "messaging.operation.name"] := rfl
  have haside : ∀ key ∈ ["messaging.system", "messaging.operation", "messaging.operation.name"],
      key ∉ describingKeys := by decide
  intro item hitem
  exact haside item.1 (hkeys ▸ List.mem_map_of_mem hitem)

lemma aside_rpcSystem : Aside [("rpc.system", .str "oslo.messaging")] := by
  intro item hitem
  rw [List.mem_singleton.mp hitem]
  decide

/-- What a message is described by, if `default` is what is recorded of an RPC without a method
or a namespace. -/
def sharedAttributes (isNotification : Bool) (message : Dict) (default requestId : Val) : Dict :=
  if isNotification then notificationAttributes message requestId
  else rpcAttributes ((message.get "method").getD default) ((message.get "namespace").getD default)
    requestId

section

variable {Ctx H : Type} {dicts : List Dict} {span : SpanContext}

/-- What a send says of an RPC. -/
lemma adds_sentCall (transport : Option String) {ctxt : Arg} {requestId : Val} {d : Dict}
    (hmapping : ctxt.isMapping = true) (hget : ctxt.get dicts "request_id" .none = .ok requestId)
    (waitForReply : Arg) :
    ∃ before, Aside before ∧
      Adds dicts span (do
        let waits ← liftExcept (waitForReply.truth dicts)
        setRpcAttributes noFaults span ctxt (item d "method") (item d "namespace")
          (producerMessagingSystem transport) (if waits then "call" else "cast") :
          Code Ctx H Unit)
        (before ++ sharedAttributes false d .none requestId) := by
  let operation := if waitForReply.truth dicts = .ok true then "call" else "cast"
  refine ⟨operationAttributes (producerMessagingSystem transport) operation ++
      [("rpc.system", .str "oslo.messaging")],
    aside_append (aside_operationAttributes _ _) aside_rpcSystem, ?_⟩
  apply adds_lift
  intro waits hwaits
  have hoperation : operation = if waits then "call" else "cast" := by
    simp only [operation, hwaits, Except.ok.injEq]
  rw [hoperation]
  exact adds_setRpcAttributes hmapping hget _ _ _ _

variable (span) in
/-- A send describes the message, and where it goes. -/
lemma adds_setSendAttributes (isNotification : Bool) (transport : Option String)
    {ctxt message : Arg} {requestId : Val} {d : Dict} (hmapping : ctxt.isMapping = true)
    (hget : ctxt.get dicts "request_id" .none = .ok requestId) (hmessage : Holds dicts message d)
    (target waitForReply : Arg) :
    ∃ before, Aside before ∧
      Adds dicts span (setSendAttributes noFaults isNotification span transport ctxt target
          message waitForReply : Code Ctx H Unit)
        (before ++ sharedAttributes isNotification d .none requestId) := by
  let destination := ifTrueAttribute "messaging.destination.name" target.topic
  let exchange := ifTrueAttribute "oslo_messaging.target.exchange" target.exchange
  have hwhere : Aside (destination ++ exchange) :=
    aside_append (aside_ifTrueAttribute (by decide) _) (aside_ifTrueAttribute (by decide) _)
  -- what follows the destination, from the dictionaries on
  have hfirst {m : Code Ctx H Unit} {before shared : Dict} (hbefore : Aside before)
      (hm : Adds dicts span m (before ++ shared)) :
      ∃ before, Aside before ∧ Adds dicts span (do
        setIfTrue noFaults span "messaging.destination.name" target.topic
        setIfTrue noFaults span "oslo_messaging.target.exchange" target.exchange
        m) (before ++ shared) := by
    refine ⟨destination ++ exchange ++ before, aside_append hwhere hbefore, ?_⟩
    rw [List.append_assoc, List.append_assoc]
    exact (adds_setIfTrue _ _).seq ((adds_setIfTrue _ _).seq hm)
  unfold setSendAttributes
  cases isNotification with
  | true =>
    refine hfirst (aside_operationAttributes (producerMessagingSystem transport) "send")
      (adds_getDicts ?_)
    rw [if_pos rfl, hmessage.get, hmessage.get, hmessage.get]
    exact adds_setNotificationAttributes hmapping hget d _ "send"
  | false =>
    obtain ⟨before, hbefore, hadds⟩ :=
      @adds_sentCall Ctx H dicts span transport ctxt requestId d hmapping hget waitForReply
    refine hfirst hbefore (adds_getDicts ?_)
    rw [if_neg Bool.false_ne_true, hmessage.get, hmessage.get]
    exact hadds

end

/-! ### The way in to a span -/

section

variable {Ctx H ι α : Type}

lemma enterSpan_ok [ContextApi Ctx] {span : SpanContext} {enter : Code Ctx H (Opening Ctx H ι α)}
    {w v : World Ctx H} {o : Opening Ctx H ι α} (h : enterSpan span enter w = (.ok o, v)) :
    ∃ o', enter { w with current := setSpan span w.current } = (.ok o', v) := by
  obtain ⟨o', henter, -⟩ := finalizing_ok (w := { w with current := setSpan span w.current }) h
  exact ⟨o', henter⟩

/-- No call was made, and no mapping has another request id. -/
def SameRequest (w v : World Ctx H) : Prop :=
  v.calls = w.calls ∧
    ∀ ref, (deref v.dicts ref).get "request_id" = (deref w.dicts ref).get "request_id"

lemma sameRequest_refl (w : World Ctx H) : SameRequest w w := ⟨rfl, fun _ => rfl⟩

lemma sameRequest_trans (u v w : World Ctx H) (h : SameRequest u v) (h' : SameRequest v w) :
    SameRequest u w :=
  ⟨h'.1.trans h.1, fun ref => (h'.2 ref).trans (h.2 ref)⟩

lemma setItem_sameRequest (carrier : Arg) {key : String} (hkey : key ≠ "request_id")
    (value : Val) : Keeps SameRequest (setItem carrier key value : Code Ctx H Unit) := by
  unfold setItem
  cases carrier with
  | dict ref =>
    refine fun w => ⟨rfl, fun other => ?_⟩
    change (deref (w.dicts.modify ref (·.set key value)) other).get _ = _
    by_cases hother : ref = other
    · subst hother
      by_cases href : ref < w.dicts.length
      · rw [deref_modify href, Dict.get_set_of_ne _ _ hkey.symm]
      · rw [List.modify_eq_self (by omega)]
    · rw [deref_modify_ne hother]
  | object mapping truth get items set => exact Keeps.liftExcept sameRequest_refl _
  | _ => exact Keeps.raise sameRequest_refl _

lemma setItems_sameRequest (carrier : Arg) {items : List (String × String)}
    (h : ∀ item ∈ items, item.1 ≠ "request_id") :
    Keeps SameRequest (setItems carrier items : Code Ctx H Unit) := by
  induction items with
  | nil => exact Keeps.pure sameRequest_refl ()
  | cons item items ih =>
    have hitem := h item (List.mem_cons_self ..)
    apply Keeps.bind sameRequest_trans (setItem_sameRequest carrier hitem _)
    intro _
    exact ih fun other hother => h other (List.mem_cons_of_mem _ hother)

lemma inject_sameRequest [Propagator Ctx]
    (hheaders : ∀ c : Ctx, ∀ header ∈ Propagator.headers c, header.1 ≠ "request_id")
    (carrier : Arg) : Keeps SameRequest (inject noFaults carrier : Code Ctx H Unit) := by
  unfold inject
  apply Keeps.bind sameRequest_trans (Keeps.pure sameRequest_refl ())
  intro _
  apply Keeps.bind sameRequest_trans (Keeps.reads sameRequest_refl _)
  intro c
  exact setItems_sameRequest carrier (hheaders c)

/-- What a mapping holds as its request id, before the headers are put into it. -/
lemma Holds.before {w v : World Ctx H} (h : SameRequest w v) {a : Arg} {d : Dict}
    (hholds : Holds v.dicts a d) :
    a.get w.dicts "request_id" .none = .ok (item d "request_id") := by
  have hget := hholds.get "request_id" .none
  cases a with
  | dict ref =>
    rw [Arg.get, h.2 ref] at hget
    exact hget
  | object mapping truth get items set =>
    cases get with
    | none => exact hget
    | some get => exact hget
  | val v => exact absurd hholds.isMapping Bool.false_ne_true
  | target topic exchange => exact absurd hholds.isMapping Bool.false_ne_true
  | incoming ctxt message modules => exact absurd hholds.isMapping Bool.false_ne_true

end

/-! ### A message on its way -/

/-- One side: what the wrapper is given, and the worlds around its way in. -/
structure Side (Ctx H : Type) where
  args : Args
  kwargs : Kwargs
  before : World Ctx H
  after : World Ctx H

section

variable {Ctx H α : Type}

/-- What the wrapper records on its way in. -/
def Side.calls (s : Side Ctx H) : List Call := s.after.calls.drop s.before.calls.length

lemma Side.calls_eq {s : Side Ctx H} {cs : List Call} (h : s.after.calls = s.before.calls ++ cs) :
    s.calls = cs := by
  rw [Side.calls, h, List.drop_left]

/-- The span a side starts, and the attributes it sets. -/
lemma Side.records {s : Side Ctx H} {span parent : SpanContext} {name : String} {kind : SpanKind}
    {before shared after : Dict} (hbefore : Aside before) (hafter : Aside after)
    (h : s.after.calls = s.before.calls ++ [.start span parent name kind []] ++
      setAttributes span (before ++ shared ++ after)) : Records s.calls name shared := by
  refine ⟨span, parent, kind, before, after, ?_, hbefore, hafter⟩
  rw [List.append_assoc] at h
  exact Side.calls_eq h

variable [Propagator Ctx]

def enterDispatch (isNotification : Bool) (args : Args) (kwargs : Kwargs) :
    Code Ctx H (Opening Ctx H Input α) :=
  if isNotification then enterNotificationDispatch args kwargs else enterRpcDispatch args kwargs

/-- A message is sent and dispatched, and both get as far as what they wrap. It arrives as it was
sent, and `ctxt`, whose items are `wire` once it is injected into, as it was put on the wire. -/
structure Delivered (α : Type) (isNotification : Bool) (transport : Option String)
    (send dispatch : Side Ctx H) (message wire : Dict) : Prop where
  send_enabled : enabled send.before.current = true
  dispatch_enabled : enabled dispatch.before.current = true
  recording : isRecording Ctx (newSpan send.before.calls (spanIn send.before.current)) = true
  sends : ∃ o : Opening Ctx H Input α,
    enterSend isNotification transport send.args send.kwargs send.before = (.ok o, send.after)
  dispatches : ∃ o : Opening Ctx H Input α,
    enterDispatch isNotification dispatch.args dispatch.kwargs dispatch.before =
      (.ok o, dispatch.after)
  sent_message : Holds send.before.dicts (arg send.args 2 send.kwargs "message") message
  sent_ctxt : Holds send.after.dicts (arg send.args 1 send.kwargs "ctxt") wire
  received_message : Holds dispatch.before.dicts
    (arg dispatch.args 0 dispatch.kwargs "incoming").message message
  received_ctxt : Holds dispatch.before.dicts
    (arg dispatch.args 0 dispatch.kwargs "incoming").ctxt wire

variable {isNotification : Bool} {transport : Option String} {send dispatch : Side Ctx H}
  {message wire : Dict}

/-- A send that is recording describes the message before it calls what it wraps. -/
lemma calls_send {span : SpanContext} {ctxt target sent waitForReply : Arg} {input : Input}
    {w v : World Ctx H} {o : Opening Ctx H Input α}
    (hheaders : ∀ c : Ctx, ∀ header ∈ Propagator.headers c, header.1 ≠ "request_id")
    (hrecording : isRecording Ctx span = true) (hmessage : Holds w.dicts sent message)
    (hctxt : Holds v.dicts ctxt wire)
    (hrun : (do
      onlyIf (isRecording Ctx span)
        (setSendAttributes noFaults isNotification span transport ctxt target sent waitForReply)
      enterSpan span do
        onlyIf ctxt.isMapping (inject noFaults ctxt)
        pure (.call input)) w = (.ok o, v)) :
    ∃ before, Aside before ∧ v.calls = w.calls ++ setAttributes span
      (before ++ sharedAttributes isNotification message .none (item wire "request_id")) := by
  obtain ⟨⟨⟩, u, hset, hrun⟩ := bind_ok_cases hrun
  rw [hrecording, onlyIf, if_pos rfl] at hset
  obtain ⟨r, cs, -, hnoted⟩ := noted_outcome (setSendAttributes_noted noFaults span isNotification
    transport ctxt target sent waitForReply) w
  obtain ⟨rfl, rfl⟩ := Prod.mk.inj (hset.symm.trans hnoted)
  obtain ⟨o', hinside⟩ := enterSpan_ok hrun
  obtain ⟨⟨⟩, t, hinject, hcall⟩ := bind_ok_cases hinside
  obtain ⟨-, rfl⟩ := Prod.mk.inj hcall
  have hsame : SameRequest { w.called cs with current := setSpan span w.current } t := by
    have h := Keeps.onlyIf sameRequest_refl (c := ctxt.isMapping)
      (inject_sameRequest hheaders ctxt) { w.called cs with current := setSpan span w.current }
    have hinject' : onlyIf ctxt.isMapping (inject noFaults ctxt)
      { w.called cs with current := setSpan span w.current } = (.ok (), t) := hinject
    rw [hinject'] at h
    exact h
  obtain ⟨before, hbefore, hadds⟩ := adds_setSendAttributes span isNotification transport
    hctxt.isMapping (hctxt.before hsame) hmessage target waitForReply
  refine ⟨before, hbefore, hsame.1.trans ?_⟩
  exact congrArg World.calls (hadds w _ rfl hset)

/-- What a send records. -/
lemma Delivered.sent (h : Delivered α isNotification transport send dispatch message wire)
    (hheaders : ∀ c : Ctx, ∀ header ∈ Propagator.headers c, header.1 ≠ "request_id") :
    ∃ name, sendName isNotification send.before.dicts (arg send.args 2 send.kwargs "message") =
        .ok name ∧
      Records send.calls name
        (sharedAttributes isNotification message .none (item wire "request_id")) := by
  obtain ⟨o, hrun⟩ := h.sends
  unfold enterSend at hrun
  rw [guard_on h.send_enabled, h.sent_message.isMapping, if_pos rfl] at hrun
  obtain ⟨dicts, w, hdicts, hrun⟩ := bind_ok_cases hrun
  obtain ⟨⟨⟩, rfl⟩ := Prod.mk.inj hdicts
  obtain ⟨name, w, hlift, hrun⟩ := bind_ok_cases hrun
  obtain ⟨hname, rfl⟩ := Prod.mk.inj hlift
  rw [bind_of_ok (startSpan_noFaults ..), bind_of_ok (mayRaise_noFaults _ _)] at hrun
  obtain ⟨before, hbefore, hcalls⟩ := calls_send hheaders (by exact h.recording)
    (by exact h.sent_message) h.sent_ctxt hrun
  rw [← List.append_nil (_ ++ sharedAttributes ..)] at hcalls
  exact ⟨name, hname, Side.records hbefore aside_nil hcalls⟩

/-- What both dispatches read first. -/
lemma received_ok {incoming : Arg} {rest : List Dict → Arg → Arg → Ctx →
      Code Ctx H (Opening Ctx H Input α)} {w v : World Ctx H} {o : Opening Ctx H Input α}
    (hmessage : Holds w.dicts incoming.message message) (hctxt : Holds w.dicts incoming.ctxt wire)
    (hrun : (do
      let dicts ← getDicts
      mayRaise noFaults (.other "getattr ctxt")
      let ctxt ← liftExcept (incoming.ctxt.orEmpty dicts)
      mayRaise noFaults (.other "getattr message")
      let message ← liftExcept (incoming.message.orEmpty dicts)
      let spanCtx ← spanContextOf noFaults ctxt
      rest dicts ctxt message spanCtx) w = (.ok o, v)) :
    ∃ ctxt message' c, Holds w.dicts ctxt wire ∧ Holds w.dicts message' message ∧
      rest w.dicts ctxt message' c w = (.ok o, v) := by
  obtain ⟨_, ⟨⟩, hrun⟩ := (Silent.reads _).ok_cases hrun
  rw [bind_of_ok (mayRaise_noFaults _ _)] at hrun
  obtain ⟨ctxt, hctxt', hrun⟩ := (Silent.liftExcept _).ok_cases hrun
  rw [bind_of_ok (mayRaise_noFaults _ _)] at hrun
  obtain ⟨message', hmessage', hrun⟩ := (Silent.liftExcept _).ok_cases hrun
  obtain ⟨c, -, hrun⟩ := (Deliveries.spanContextOf_silent noFaults ctxt).ok_cases hrun
  exact ⟨ctxt, message', c, hctxt.orEmpty hctxt', hmessage.orEmpty hmessage', hrun⟩

omit [Propagator Ctx] in
/-- After code that sets attributes. -/
lemma Adds.bind_ok {dicts : List Dict} {span : SpanContext} {m : Code Ctx H Unit} {d : Dict}
    (hm : Adds dicts span m d) {f : Unit → Code Ctx H α} {w v : World Ctx H} {a : α}
    (hrun : (m >>= f) w = (.ok a, v)) (hdicts : w.dicts = dicts) :
    f () (w.called (setAttributes span d)) = (.ok a, v) := by
  obtain ⟨⟨⟩, u, hu, hrun⟩ := bind_ok_cases hrun
  obtain rfl := hm w u hdicts hu
  exact hrun

/-- A dispatch describes the message, and says which one it is. -/
lemma calls_dispatch {span : SpanContext} {record : Code Ctx H Unit} {messageId : Except Exn Val}
    {input : Input} {w v : World Ctx H} {o : Opening Ctx H Input α} {before shared : Dict}
    (hrecord : Adds w.dicts span record (before ++ shared))
    (hrun : (do
      record
      setIfTrue noFaults span "messaging.message.id" messageId
      enterSpan span (pure (.call input))) w = (.ok o, v)) :
    v.calls = w.calls ++ setAttributes span
      (before ++ shared ++ ifTrueAttribute "messaging.message.id" messageId) := by
  have hadds : Adds w.dicts span
      (setIfTrue noFaults span "messaging.message.id" messageId : Code Ctx H Unit)
      (ifTrueAttribute "messaging.message.id" messageId) := adds_setIfTrue _ _
  obtain ⟨o', hcall⟩ := enterSpan_ok (hadds.bind_ok (hrecord.bind_ok hrun rfl) rfl)
  obtain ⟨-, rfl⟩ := Prod.mk.inj hcall
  simp only [World.called, setAttributes_append, List.append_assoc]

lemma aside_messageId (messageId : Except Exn Val) :
    Aside (ifTrueAttribute "messaging.message.id" messageId) :=
  aside_ifTrueAttribute (by decide) messageId

/-- The name of the span of a dispatch. -/
def receivedName (isNotification : Bool) (message : Dict) : Except Exn String :=
  if isNotification then do
    let dest ← ((message.get "event_type").getD (.str "")).format
    pure (dest ++ " receive")
  else
    receiveName ((message.get "namespace").getD (.str "")) ((message.get "method").getD (.str ""))

/-- What a dispatch records. -/
lemma Delivered.received
    (h : Delivered α isNotification transport send dispatch message wire) :
    ∃ name, receivedName isNotification message = .ok name ∧
      Records dispatch.calls name
        (sharedAttributes isNotification message (.str "") (item wire "request_id")) := by
  obtain ⟨o, hrun⟩ := h.dispatches
  cases isNotification with
  | false =>
    change enterRpcDispatch _ _ _ = _ at hrun
    unfold enterRpcDispatch at hrun
    rw [guard_on h.dispatch_enabled] at hrun
    obtain ⟨ctxt, message', c, hctxt, hmessage, hrun⟩ :=
      received_ok h.received_message h.received_ctxt hrun
    rw [hmessage.get, hmessage.get] at hrun
    obtain ⟨_, ⟨⟩, hrun⟩ := (Silent.liftExcept _).ok_cases hrun
    obtain ⟨_, ⟨⟩, hrun⟩ := (Silent.liftExcept _).ok_cases hrun
    obtain ⟨name, hname, hrun⟩ := (Silent.liftExcept _).ok_cases hrun
    obtain ⟨o', hrun, -⟩ := finalizing_ok (w := { dispatch.before with current := c }) hrun
    rw [bind_of_ok (startSpan_noFaults ..), bind_of_ok (mayRaise_noFaults _ _)] at hrun
    have hcalls := calls_dispatch
      (by exact adds_setRpcAttributes hctxt.isMapping (hctxt.get _ _) _ _ _ _) hrun
    refine ⟨name, hname, Side.records ?_ (aside_messageId _) hcalls⟩
    exact aside_append (aside_operationAttributes _ _) aside_rpcSystem
  | true =>
    change enterNotificationDispatch _ _ _ = _ at hrun
    unfold enterNotificationDispatch at hrun
    rw [guard_on h.dispatch_enabled] at hrun
    obtain ⟨ctxt, message', c, hctxt, hmessage, hrun⟩ :=
      received_ok h.received_message h.received_ctxt hrun
    rw [hmessage.isMapping, if_pos rfl, hmessage.get] at hrun
    obtain ⟨_, ⟨⟩, hrun⟩ := (Silent.liftExcept _).ok_cases hrun
    obtain ⟨dest, hdest, hrun⟩ := (Silent.liftExcept _).ok_cases hrun
    obtain ⟨o', hrun, -⟩ := finalizing_ok (w := { dispatch.before with current := c }) hrun
    rw [bind_of_ok (startSpan_noFaults ..), bind_of_ok (mayRaise_noFaults _ _), hmessage.get,
      hmessage.get, hmessage.get] at hrun
    obtain ⟨_, ⟨⟩, hrun⟩ := (Silent.liftExcept _).ok_cases hrun
    obtain ⟨_, ⟨⟩, hrun⟩ := (Silent.liftExcept _).ok_cases hrun
    obtain ⟨_, ⟨⟩, hrun⟩ := (Silent.liftExcept _).ok_cases hrun
    have hcalls := calls_dispatch
      (by exact adds_setNotificationAttributes hctxt.isMapping (hctxt.get _ _) message _ _) hrun
    have hformat : ((message.get "event_type").getD (.str "")).format = .ok dest := hdest
    have hname : receivedName true message = .ok (dest ++ " receive") := by
      rw [receivedName, if_pos rfl, hformat]
      rfl
    exact ⟨_, hname, Side.records (aside_operationAttributes _ _) (aside_messageId _) hcalls⟩

omit [Propagator Ctx] in
lemma sameOperation_iff_named {dicts : List Dict} {a : Arg} {sent received : String}
    (h : Holds dicts a message) (hsent : sendName isNotification dicts a = .ok sent)
    (hreceived : receivedName isNotification message = .ok received) :
    SameOperation sent received ↔ Named isNotification message := by
  cases isNotification with
  | false => exact sameOperation_method h hsent hreceived
  | true =>
    obtain ⟨dest, hdest, hreceived⟩ := of_bind_ok hreceived
    obtain rfl := Except.ok.inj hreceived
    exact sameOperation_event h hsent hdest

/-- A message that names an operation is described by the same attributes, whatever the default
of the dispatch. -/
lemma sharedAttributes_of_named (h : Named isNotification message) (requestId : Val) :
    sharedAttributes isNotification message (.str "") requestId =
      sharedAttributes isNotification message .none requestId := by
  cases isNotification with
  | true => rfl
  | false =>
    have hmethod : (message.get "method").getD (.str "") = (message.get "method").getD .none :=
      getD_of_given h.1 _
    unfold sharedAttributes
    rw [hmethod]
    cases message.get "namespace" with
    | none => rfl
    | some namespaceOf => rfl

/-- **Producer and consumer describe a message the same way** exactly when it names an
operation. -/
theorem same_description_iff
    (hheaders : ∀ c : Ctx, ∀ header ∈ Propagator.headers c, header.1 ≠ "request_id")
    (h : Delivered α isNotification transport send dispatch message wire) :
    ∃ sent received, recorded send.calls = some sent ∧ recorded dispatch.calls = some received ∧
      (SameDescription sent received ↔ Named isNotification message) := by
  obtain ⟨name, hname, hsends⟩ := h.sent hheaders
  obtain ⟨name', hname', hreceives⟩ := h.received
  obtain ⟨sent, hsent, rfl, hsentAttributes⟩ := hsends.recorded
  obtain ⟨received, hreceived, rfl, hreceivedAttributes⟩ := hreceives.recorded
  have hoperation := sameOperation_iff_named h.sent_message hname hname'
  refine ⟨sent, received, hsent, hreceived, fun hsame => hoperation.mp hsame.operation,
    fun hnamed => ⟨hoperation.mpr hnamed, fun key hkey => ?_⟩⟩
  calc
    sent.attributes.get key
      = (setEach [] (sharedAttributes isNotification message .none
          (item wire "request_id"))).get key := hsentAttributes key hkey
    _ = (setEach [] (sharedAttributes isNotification message (.str "")
          (item wire "request_id"))).get key := by rw [sharedAttributes_of_named hnamed]
    _ = received.attributes.get key := (hreceivedAttributes key hkey).symm

end

/-! ### Two messages -/

/-- A send of a message whose `ctxt` has a request id. -/
def sendSide (isNotification : Bool) (message : Dict) : Side BareContext Unit :=
  let args := [.target (.ok (.str "compute")) (.ok .none), .dict 0, .dict 1]
  let before := ⟨empty, [], [[("request_id", .str "req-1")], message], ()⟩
  { args, kwargs := [], before
    after := (enterSend (α := Unit) isNotification none args [] before).2 }

/-- The dispatch of that message by an idle worker. -/
def dispatchSide (isNotification : Bool) (message : Dict) : Side BareContext Unit :=
  let args := [.incoming (.dict 0) (.dict 1) []]
  let before := ⟨empty, [], (sendSide isNotification message).after.dicts, ()⟩
  { args, kwargs := [], before
    after := (enterDispatch (α := Unit) isNotification args [] before).2 }

/-- What is on the wire. -/
def wireOf (isNotification : Bool) (message : Dict) : Dict :=
  deref (sendSide isNotification message).after.dicts 0

def namedCall : Dict := [("method", .str "reboot"), ("namespace", .none)]

def namelessEvent : Dict := [("event_type", .none)]

/-- The message arrives, if neither side raises. -/
lemma delivered_sides {isNotification : Bool} {message : Dict}
    (hsends : ∃ o : Opening BareContext Unit Input Unit,
      enterSend isNotification none (sendSide isNotification message).args []
        (sendSide isNotification message).before =
          (.ok o, (sendSide isNotification message).after))
    (hdispatches : ∃ o : Opening BareContext Unit Input Unit,
      enterDispatch isNotification (dispatchSide isNotification message).args []
        (dispatchSide isNotification message).before =
          (.ok o, (dispatchSide isNotification message).after))
    (harrives : deref (dispatchSide isNotification message).before.dicts 1 = message) :
    Delivered Unit isNotification none (sendSide isNotification message)
      (dispatchSide isNotification message) message (wireOf isNotification message) where
  send_enabled := rfl
  dispatch_enabled := rfl
  recording := newSpan_valid _ _
  sends := hsends
  dispatches := hdispatches
  sent_message := holds_dict _ 1
  sent_ctxt := holds_dict _ 0
  received_message := by
    have hreceived := holds_dict (dispatchSide isNotification message).before.dicts 1
    rw [harrives] at hreceived
    exact hreceived
  received_ctxt := holds_dict _ 0

lemma delivered_namedCall :
    Delivered Unit false none (sendSide false namedCall) (dispatchSide false namedCall) namedCall
      (wireOf false namedCall) :=
  delivered_sides ⟨_, rfl⟩ ⟨_, rfl⟩ rfl

lemma delivered_namelessEvent :
    Delivered Unit true none (sendSide true namelessEvent) (dispatchSide true namelessEvent)
      namelessEvent (wireOf true namelessEvent) :=
  delivered_sides ⟨_, rfl⟩ ⟨_, rfl⟩ rfl

theorem same_description_namedCall :
    ∃ sent received, recorded (sendSide false namedCall).calls = some sent ∧
      recorded (dispatchSide false namedCall).calls = some received ∧
      SameDescription sent received := by
  have hheaders : ∀ c : BareContext, ∀ header ∈ Propagator.headers c,
      header.1 ≠ "request_id" := by
    intro c header hheader
    simp only [Propagator.headers] at hheader
    split at hheader
    · rw [List.mem_singleton.mp hheader]
      exact (by decide : "traceparent" ≠ "request_id")
    · exact absurd hheader List.not_mem_nil
  obtain ⟨sent, received, hsent, hreceived, hiff⟩ :=
    same_description_iff hheaders delivered_namedCall
  have hnamed : Named false namedCall := ⟨rfl, .inr ⟨"reboot", by decide, rfl, rfl⟩⟩
  exact ⟨sent, received, hsent, hreceived, hiff.mpr hnamed⟩

/-- The dispatch of a notification without an event type is called `None receive`. -/
theorem nameless_event_described_apart :
    ¬ ∀ (isNotification : Bool) (transport : Option String) (send dispatch : Side BareContext Unit)
      (message wire : Dict),
      Delivered Unit isNotification transport send dispatch message wire →
        ∃ sent received, recorded send.calls = some sent ∧
          recorded dispatch.calls = some received ∧ SameDescription sent received := by
  intro h
  obtain ⟨sent, received, hsent, hreceived, hsame⟩ := h _ _ _ _ _ _ delivered_namelessEvent
  have hname : (recorded (sendSide true namelessEvent).calls).map Recorded.name =
      some "send" := rfl
  have hname' : (recorded (dispatchSide true namelessEvent).calls).map Recorded.name =
      some ("None" ++ " receive") := rfl
  rw [hsent] at hname
  rw [hreceived] at hname'
  have hoperation := hsame.operation
  rw [Option.some.inj hname, Option.some.inj hname'] at hoperation
  exact not_sameOperation_send "None" hoperation

end OtelOpenstack.Descriptions
