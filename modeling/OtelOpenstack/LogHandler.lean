import OtelOpenstack.Effects
import OtelOpenstack.Python

/-!
The handler that exports oslo.log records: a record's own fields, and what is mapped of its
request context.

A context is a dictionary, or an object with logging values, which may raise. Exporting is judged
by two runs: what may differ between two records is what must not come out.
-/

set_option autoImplicit false

namespace OtelOpenstack.LogHandler

open Effects Python

/-! ### Values -/

/-- A float is known by its bits. -/
inductive Scalar
  | bool (b : Bool)
  | str (s : String)
  | int (n : ℤ)
  | float (bits : UInt64)

/-- A value in a record or in a context. Of an object, `unset` is `o in (None, "", [])`, and
`loggingValues` what `get_logging_values()` gives. -/
inductive Value
  | none
  | scalar (s : Scalar)
  | list (items : List Value)
  | tuple (items : List Value)
  | dict (items : List (String × Value))
  | obj (ref : ℕ) (unset : Except Exn Bool)
      (loggingValues : Except Exn (List (String × Value)))

abbrev Attributes := List (String × Value)

/-- `d.get(key)`. -/
def Attributes.get (d : Attributes) (key : String) : Value := (d.lookup key).getD .none

/-- `d[key] = value`. -/
def Attributes.set : Attributes → String → Value → Attributes
  | [], key, value => [(key, value)]
  | (k, v) :: d, key, value =>
    if key = k then (k, value) :: d else (k, v) :: Attributes.set d key value

/-- `d.update(items)`. -/
def Attributes.update : Attributes → Attributes → Attributes
  | d, [] => d
  | d, (key, value) :: items => Attributes.update (Attributes.set d key value) items

/-- `d.pop(key, None)`. -/
def Attributes.pop (d : Attributes) (key : String) : Attributes := d.filter (·.1 ≠ key)

def Value.isNone : Value → Bool
  | .none => true
  | _ => false

/-- `isinstance(value, _SCALAR_TYPES)`. -/
def Value.isScalar : Value → Bool
  | .scalar _ => true
  | _ => false

/-- `value in (None, "", [])`. -/
def Value.isUnset : Value → Except Exn Bool
  | .none => .ok true
  | .scalar (.str s) => .ok (s = "")
  | .list items => .ok items.isEmpty
  | .obj _ unset _ => unset
  | _ => .ok false

/-! ### The handler -/

/-- `str` of a value. -/
abbrev Str := Value → Except Exn String

/-- The logging values of oslo.context that are exported, and the keys they get. -/
def osloContextAttributeMap : List (String × String) :=
  [("request_id", "openstack.request_id"),
    ("global_request_id", "openstack.global_request_id"),
    ("user", "openstack.user_id"),
    ("user_name", "openstack.user_name"),
    ("project", "openstack.project_id"),
    ("project_name", "openstack.project_name"),
    ("domain", "openstack.domain_id"),
    ("user_domain", "openstack.user_domain_id"),
    ("project_domain", "openstack.project_domain_id"),
    ("roles", "openstack.roles"),
    ("resource_uuid", "openstack.resource_uuid")]

def asText (str : Str) (value : Value) : Except Exn Value := do
  let text ← str value
  pure (.scalar (.str text))

def coerce (str : Str) : Value → Except Exn Value
  | .scalar s => .ok (.scalar s)
  | .list items =>
    if items.all Value.isScalar then .ok (.list items) else asText str (.list items)
  | .tuple items =>
    if items.all Value.isScalar then .ok (.list items) else asText str (.tuple items)
  | value => asText str value

/-- An object without `get_logging_values` raises `AttributeError`, which is caught. -/
def loggingValues : Value → Except Exn Attributes
  | .dict items => .ok items
  | .obj _ _ (.ok values) => .ok values
  | .obj _ _ (.error e) => if e.isException then .ok [] else .error e
  | _ => .ok []

/-- The attributes that are mapped, in the map's order. -/
def mapped (str : Str) (values : Attributes) :
    List (String × String) → Except Exn Attributes
  | [] => .ok []
  | (source, key) :: rest => do
    let value := values.get source
    if ← value.isUnset then mapped str values rest
    else do
      let value ← coerce str value
      let attributes ← mapped str values rest
      pure ((key, value) :: attributes)

/-- The `__dict__` of a log record. -/
abbrev Record := Attributes

/-- The context of a record, or else the ambient one; `none` where there is no oslo.context. -/
def contextOf (ambient : Option Value) (record : Record) : Value :=
  if (Attributes.get record "context").isNone then ambient.getD .none
  else Attributes.get record "context"

/-- `_oslo_context_attributes`. -/
def osloContextAttributes (str : Str) (ambient : Option Value) (record : Record) :
    Except Exn Attributes :=
  if (contextOf ambient record).isNone then .ok []
  else do
    let values ← loggingValues (contextOf ambient record)
    mapped str values osloContextAttributeMap

/-- An `OsloLogHandler`; `reserved` are the names the base handler leaves out. -/
structure Handler where
  reserved : String → Bool
  mapOsloContext : Bool

/-- `LoggingHandler._get_attributes`. -/
def baseAttributes (h : Handler) (record : Record) : Attributes :=
  record.filter fun item => !h.reserved item.1

/-- `OsloLogHandler._get_attributes`. -/
def getAttributes (h : Handler) (str : Str) (ambient : Option Value) (record : Record) :
    Except Exn Attributes := do
  let attributes := ((baseAttributes h record).pop "context").pop "extra_keys"
  if h.mapOsloContext then do
    let mapped ← osloContextAttributes str ambient record
    pure (attributes.update mapped)
  else pure attributes

/-! ### Two records -/

/-- Two contexts' logging values agree on the mapped keys, or cannot be read. -/
inductive SameMapped : Except Exn Attributes → Except Exn Attributes → Prop
  | values {u v : Attributes}
      (h : ∀ source key, (source, key) ∈ osloContextAttributeMap → u.get source = v.get source) :
      SameMapped (.ok u) (.ok v)
  | raised (e : Exn) : SameMapped (.error e) (.error e)

/-- Two contexts differ in nothing that is mapped. -/
def SameContext (a b : Value) : Prop :=
  a.isNone = b.isNone ∧ (a.isNone = false → SameMapped (loggingValues a) (loggingValues b))

/-- The fields of a record that are its own. -/
def ownFields (record : Record) : Attributes := (record.pop "context").pop "extra_keys"

/-- Two records, each with what is ambient where it is emitted, that differ in `extra_keys` and in
what is not mapped of their contexts. -/
structure AlikeButUnmapped (ambient ambient' : Option Value) (record record' : Record) : Prop where
  own : ownFields record = ownFields record'
  context : SameContext (contextOf ambient record) (contextOf ambient' record')

/-- What an exported value of a context can be. -/
def Exportable : Value → Prop
  | .scalar _ => True
  | .list items => ∀ item ∈ items, item.isScalar = true
  | _ => False

/-! ### What comes out -/

lemma mapped_congr (str : Str) {u v : Attributes} {sources : List (String × String)}
    (h : ∀ source key, (source, key) ∈ sources → u.get source = v.get source) :
    mapped str u sources = mapped str v sources := by
  induction sources with
  | nil => rfl
  | cons entry sources ih =>
    obtain ⟨source, key⟩ := entry
    have hhead := h source key (List.mem_cons_self ..)
    have htail := ih fun source key hmem => h source key (List.mem_cons_of_mem _ hmem)
    simp only [mapped, hhead, htail]

lemma osloContextAttributes_congr (str : Str) {ambient ambient' : Option Value}
    {record record' : Record}
    (h : SameContext (contextOf ambient record) (contextOf ambient' record')) :
    osloContextAttributes str ambient record = osloContextAttributes str ambient' record' := by
  obtain ⟨hnone, hmapped⟩ := h
  unfold osloContextAttributes
  rw [← hnone]
  by_cases hctx : (contextOf ambient record).isNone = true
  · rw [if_pos hctx, if_pos hctx]
  · rw [if_neg hctx, if_neg hctx]
    have hsame := hmapped (by simpa using hctx)
    generalize loggingValues (contextOf ambient record) = values at hsame ⊢
    generalize loggingValues (contextOf ambient' record') = values' at hsame ⊢
    cases hsame with
    | values h => exact mapped_congr str h
    | raised e => rfl

lemma baseAttributes_own (h : Handler) (record : Record) :
    ((baseAttributes h record).pop "context").pop "extra_keys" =
      (ownFields record).filter fun item => !h.reserved item.1 := by
  simp only [baseAttributes, ownFields, Attributes.pop, List.filter_filter]
  refine List.filter_congr fun item _ => ?_
  cases h.reserved item.1 <;> simp

lemma exportable_asText {str : Str} {value exported : Value}
    (h : asText str value = .ok exported) : Exportable exported := by
  obtain ⟨text, -, htext⟩ := of_bind_ok h
  obtain rfl := Except.ok.inj htext
  trivial

lemma exportable_coerce {str : Str} {value exported : Value}
    (h : coerce str value = .ok exported) : Exportable exported := by
  unfold coerce at h
  split at h
  · obtain rfl := Except.ok.inj h
    trivial
  · split at h
    case isTrue hall =>
      obtain rfl := Except.ok.inj h
      exact List.all_eq_true.mp hall
    case isFalse => exact exportable_asText h
  · split at h
    case isTrue hall =>
      obtain rfl := Except.ok.inj h
      exact List.all_eq_true.mp hall
    case isFalse => exact exportable_asText h
  · exact exportable_asText h

/-- What is mapped goes under keys of the map. -/
lemma mapped_exportable {str : Str} {values attributes : Attributes}
    {sources : List (String × String)} (h : mapped str values sources = .ok attributes) :
    ∀ key value, (key, value) ∈ attributes →
      key ∈ sources.map Prod.snd ∧ Exportable value := by
  induction sources generalizing attributes with
  | nil =>
    obtain rfl := Except.ok.inj h
    simp
  | cons entry sources ih =>
    obtain ⟨source, target⟩ := entry
    intro key value hmem
    obtain ⟨unset, -, h⟩ := of_bind_ok h
    cases unset with
    | true =>
      obtain ⟨hkey, hvalue⟩ := ih h key value hmem
      exact ⟨List.mem_cons_of_mem _ hkey, hvalue⟩
    | false =>
      obtain ⟨coerced, hcoerced, h⟩ := of_bind_ok h
      obtain ⟨rest, hrest, h⟩ := of_bind_ok h
      obtain rfl := Except.ok.inj h
      rcases List.mem_cons.mp hmem with heq | hmem
      · obtain ⟨rfl, rfl⟩ := Prod.mk.inj heq
        exact ⟨List.mem_cons_self .., exportable_coerce hcoerced⟩
      · obtain ⟨hkey, hvalue⟩ := ih hrest key value hmem
        exact ⟨List.mem_cons_of_mem _ hkey, hvalue⟩

/-- **Only the mapped part of a context is exported.** Records that differ in nothing else export
the same, and what they export of a context is a scalar or a list of scalars. -/
theorem only_mapped_exported (h : Handler) (str : Str) {ambient ambient' : Option Value}
    {record record' : Record} (halike : AlikeButUnmapped ambient ambient' record record') :
    getAttributes h str ambient record = getAttributes h str ambient' record' ∧
      ∀ attributes, osloContextAttributes str ambient record = .ok attributes →
        ∀ key value, (key, value) ∈ attributes →
          key ∈ osloContextAttributeMap.map Prod.snd ∧ Exportable value := by
  refine ⟨?_, fun attributes hattributes key value hmem => ?_⟩
  · unfold getAttributes
    rw [baseAttributes_own, baseAttributes_own, halike.own,
      osloContextAttributes_congr str halike.context]
  · unfold osloContextAttributes at hattributes
    split at hattributes
    · obtain rfl := Except.ok.inj hattributes
      simp at hmem
    · obtain ⟨values, -, hmapped⟩ := of_bind_ok hattributes
      exact mapped_exportable hmapped key value hmem

/-! ### A dictionary and a request context -/

/-- A record whose context is a dictionary with a token in it. -/
def dictRecord : Record :=
  [("name", .scalar (.str "nova")),
    ("context", .dict [("auth_token", .scalar (.str "secret")),
      ("request_id", .scalar (.str "req-1"))]),
    ("extra_keys", .list [.scalar (.str "auth_token")])]

/-- A record with a `RequestContext` that has no token among its logging values. -/
def objectRecord : Record :=
  [("name", .scalar (.str "nova")),
    ("context", .obj 0 (.ok false) (.ok [("request_id", .scalar (.str "req-1"))])),
    ("extra_keys", .list [])]

lemma alike_dict_object : AlikeButUnmapped none none dictRecord objectRecord where
  own := rfl
  context := by
    refine ⟨rfl, fun _ => SameMapped.values fun source key hmem => ?_⟩
    have hsource : source ≠ "auth_token" := by
      rintro rfl
      have hunmapped : "auth_token" ∉ osloContextAttributeMap.map Prod.fst := by decide
      exact hunmapped (List.mem_map.mpr ⟨_, hmem, rfl⟩)
    simp [Attributes.get, List.lookup_cons, beq_false_of_ne hsource]

theorem only_mapped_exported_dict :
    getAttributes ⟨fun _ => false, true⟩ (fun _ => .ok "") none dictRecord =
        getAttributes ⟨fun _ => false, true⟩ (fun _ => .ok "") none objectRecord ∧
      getAttributes ⟨fun _ => false, true⟩ (fun _ => .ok "") none objectRecord =
        .ok [("name", .scalar (.str "nova")),
          ("openstack.request_id", .scalar (.str "req-1"))] :=
  ⟨(only_mapped_exported _ _ alike_dict_object).1, rfl⟩

end OtelOpenstack.LogHandler
