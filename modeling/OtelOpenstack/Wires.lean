import OtelOpenstack.HeaderNames
import OtelOpenstack.TraceContext

/-!
Trace context on the wire: what injection leaves in a mapping, and what the reader at the other
end makes of it.

HTTP header names have no case: of two spellings of one header in a mapping the later one goes
out. The server puts headers into the WSGI environment under keys of their own.
-/

set_option autoImplicit false

namespace OtelOpenstack.Wires

open Effects Python Otel ContextApi Carriers KeystoneMiddleware HeaderNames TraceContext

/-! ### Injection -/

/-- The mapping has a text under `traceparent` that `extract` reads the span back from. -/
def Carries (Ctx : Type) [Propagator Ctx] (d : Dict) (span : SpanContext) : Prop :=
  ∃ text, d.get "traceparent" = some (.str text) ∧ ReadsBack Ctx text span

/-- A mapping carries one span. -/
lemma Carries.unique {Ctx : Type} [Propagator Ctx] {d : Dict} {s t : SpanContext}
    (hs : Carries Ctx d s) (ht : Carries Ctx d t) : s = t := by
  obtain ⟨text, hget, hread⟩ := hs
  obtain ⟨text', hget', hread'⟩ := ht
  obtain rfl : text = text' := by
    rw [hget] at hget'
    injection Option.some.inj hget'
  exact hread.unique hread'

/-- A mapping after several items are set. -/
def setAll : List (String × String) → Dict → Dict
  | [], d => d
  | (key, value) :: items, d => setAll items (d.set key (.str value))

/-- What is under a key after several items are set: what was there, or one of the items. -/
lemma get_setAll_cases (items : List (String × String)) (key : String) (d : Dict) :
    (setAll items d).get key = d.get key ∨
      ∃ value, (key, value) ∈ items ∧ (setAll items d).get key = some (.str value) := by
  induction items generalizing d with
  | nil => exact Or.inl rfl
  | cons item items ih =>
    obtain ⟨k, v⟩ := item
    rcases ih (d.set k (.str v)) with hold | ⟨value, hmem, hget⟩
    · by_cases hkey : key = k
      · subst hkey
        rw [Dict.get_set_self] at hold
        exact Or.inr ⟨v, List.mem_cons_self .., hold⟩
      · rw [Dict.get_set_of_ne d _ hkey] at hold
        exact Or.inl hold
    · exact Or.inr ⟨value, List.mem_cons_of_mem _ hmem, hget⟩

/-- One of the items, where there are any under the key. -/
lemma get_setAll {items : List (String × String)} {key value : String} (d : Dict)
    (h : (key, value) ∈ items) :
    ∃ last, (key, last) ∈ items ∧ (setAll items d).get key = some (.str last) := by
  induction items generalizing d with
  | nil => simp at h
  | cons item items ih =>
    obtain ⟨k, v⟩ := item
    rcases List.mem_cons.mp h with heq | hmem
    · obtain ⟨rfl, rfl⟩ := Prod.mk.inj heq
      rcases get_setAll_cases items key (d.set key (.str value)) with hset | ⟨last, hlast, hget⟩
      · rw [Dict.get_set_self] at hset
        exact ⟨value, List.mem_cons_self .., hset⟩
      · exact ⟨last, List.mem_cons_of_mem _ hlast, hget⟩
    · obtain ⟨last, hlast, hget⟩ := ih (d.set k (.str v)) hmem
      exact ⟨last, List.mem_cons_of_mem _ hlast, hget⟩

lemma deref_modify {dicts : List Dict} {ref : ℕ} (h : ref < dicts.length) (f : Dict → Dict) :
    deref (dicts.modify ref f) ref = f (deref dicts ref) := by
  simp [deref, List.getD_eq_getElem?_getD, h]

lemma deref_modify_ne {dicts : List Dict} {ref other : ℕ} (h : ref ≠ other) (f : Dict → Dict) :
    deref (dicts.modify ref f) other = deref dicts other := by
  simp [deref, List.getD_eq_getElem?_getD, h]

section

variable {Ctx H : Type}

lemma setItems_dict (ref : ℕ) (items : List (String × String)) (w : World Ctx H) :
    setItems (.dict ref) items w =
      (.ok (), { w with dicts := w.dicts.modify ref (setAll items) }) := by
  induction items generalizing w with
  | nil =>
    have hsame : w.dicts.modify ref (setAll []) = w.dicts := List.modify_id ref w.dicts
    simp only [setItems, pure_apply, hsame]
  | cons item items ih =>
    simp only [setItems, setItem, bind_apply, modifies_apply, ih, List.modify_modify_eq]
    rfl

variable [Propagator Ctx]

lemma inject_dict (ref : ℕ) (w : World Ctx H) :
    inject noFaults (.dict ref) w =
      (.ok (), { w with
        dicts := w.dicts.modify ref (setAll (Propagator.headers w.current)) }) :=
  setItems_dict ref _ w

lemma carries_setAll [Faithful Ctx] {c : Ctx} (h : (spanIn c).isValid = true) (d : Dict) :
    Carries Ctx (setAll (Propagator.headers c) d) (spanIn c) := by
  obtain ⟨text, htext⟩ := Faithful.writes c h
  obtain ⟨last, hlast, hget⟩ := get_setAll d htext
  exact ⟨last, hget, Faithful.reads_back c h last hlast⟩

end

/-! ### Headers and environments -/

/-- A spelling of `traceparent`. -/
def Spells (key : String) : Prop := wsgiKey key = wsgiKey "traceparent"

/-- `traceparent` itself, if it is there, comes after its other spellings. -/
def LastSpelling : Dict → Prop
  | [] => True
  | (k, _) :: d => (k = "traceparent" → ∀ item ∈ d, ¬ Spells item.1) ∧ LastSpelling d

/-- The environment of a request with these headers; `cgi` are the other variables. -/
def environOf (cgi : Dict) : Dict → Dict
  | [] => cgi
  | (key, value) :: headers => environOf (cgi.set (wsgiKey key) value) headers

lemma mem_set {d : Dict} {key : String} {value : Val} {item : String × Val}
    (h : item ∈ d.set key value) : item ∈ d ∨ item = (key, value) := by
  induction d with
  | nil => exact Or.inr (List.mem_singleton.mp h)
  | cons kv d ih =>
    obtain ⟨k, v⟩ := kv
    rw [Dict.set_cons] at h
    by_cases hkey : key = k
    · rw [if_pos hkey] at h
      rcases List.mem_cons.mp h with rfl | hmem
      · exact Or.inr (by rw [hkey])
      · exact Or.inl (List.mem_cons_of_mem _ hmem)
    · rw [if_neg hkey] at h
      rcases List.mem_cons.mp h with rfl | hmem
      · exact Or.inl (List.mem_cons_self ..)
      · rcases ih hmem with hd | hnew
        · exact Or.inl (List.mem_cons_of_mem _ hd)
        · exact Or.inr hnew

lemma lastSpelling_set {d : Dict} {key : String} {value : Val} (h : LastSpelling d)
    (hkey : Spells key → key = "traceparent") : LastSpelling (d.set key value) := by
  induction d with
  | nil => exact ⟨fun _ => nofun, trivial⟩
  | cons kv d ih =>
    obtain ⟨k, v⟩ := kv
    obtain ⟨hlast, hd⟩ := h
    rw [Dict.set_cons]
    by_cases heq : key = k
    · rw [if_pos heq]
      exact ⟨hlast, hd⟩
    · rw [if_neg heq]
      refine ⟨fun hk item hitem => ?_, ih hd⟩
      rcases mem_set hitem with hmem | rfl
      · exact hlast hk item hmem
      · intro hspells
        exact heq ((hkey hspells).trans hk.symm)

lemma lastSpelling_setAll {items : List (String × String)} {d : Dict} (h : LastSpelling d)
    (hitems : ∀ item ∈ items, Spells item.1 → item.1 = "traceparent") :
    LastSpelling (setAll items d) := by
  induction items generalizing d with
  | nil => exact h
  | cons item items ih =>
    apply ih
    · exact lastSpelling_set h (hitems item (List.mem_cons_self ..))
    · exact fun other hother => hitems other (List.mem_cons_of_mem _ hother)

lemma environOf_append (cgi headers extra : Dict) :
    environOf cgi (headers ++ extra) = environOf (environOf cgi headers) extra := by
  induction headers generalizing cgi with
  | nil => rfl
  | cons header headers ih => exact ih _

lemma environOf_get_of_other {headers : Dict} (h : ∀ item ∈ headers, ¬ Spells item.1)
    (cgi : Dict) :
    (environOf cgi headers).get (wsgiKey "traceparent") = cgi.get (wsgiKey "traceparent") := by
  induction headers generalizing cgi with
  | nil => rfl
  | cons header headers ih =>
    have hne : wsgiKey "traceparent" ≠ wsgiKey header.1 :=
      fun heq => h header (List.mem_cons_self ..) heq.symm
    rw [environOf, ih fun item hitem => h item (List.mem_cons_of_mem _ hitem),
      Dict.get_set_of_ne _ _ hne]

/-- What goes out under `traceparent` is what the server finds. -/
lemma environOf_get {headers : Dict} {value : Val} (h : LastSpelling headers)
    (hget : headers.get "traceparent" = some value) (cgi : Dict) :
    (environOf cgi headers).get (wsgiKey "traceparent") = some value := by
  induction headers generalizing cgi with
  | nil => simp [Dict.get] at hget
  | cons header headers ih =>
    obtain ⟨k, v⟩ := header
    rw [Dict.get_cons] at hget
    by_cases hk : "traceparent" = k
    · rw [if_pos hk] at hget
      obtain rfl := Option.some.inj hget
      rw [environOf, environOf_get_of_other (h.1 hk.symm), ← hk, Dict.get_set_self]
    · rw [if_neg hk] at hget
      exact ih h.2 hget _

/-! ### What arrives -/

/-- The two ways between workers. -/
inductive Hop | http | messaging

/-- Where the receiver looks for what was sent under `traceparent`. -/
def Hop.key : Hop → String
  | .http => wsgiKey "traceparent"
  | .messaging => "traceparent"

/-- The receiver's mapping has what was sent under `traceparent`. -/
def Delivers (hop : Hop) (sent received : Dict) : Prop :=
  ∀ value, sent.get "traceparent" = some value → received.get hop.key = some value

/-- **Delivery of headers.** Injected headers reach the server, `extra` ones added on the way,
unless there is another spelling of `traceparent` among them, or after it in the mapping they
were put into. -/
theorem delivers_injected {Ctx : Type} [Propagator Ctx] (c : Ctx) {headers extra : Dict}
    (hheaders : ∀ header ∈ Propagator.headers c, Spells header.1 → header.1 = "traceparent")
    (h : LastSpelling headers) (hextra : ∀ item ∈ extra, ¬ Spells item.1) (cgi : Dict) :
    Delivers .http (setAll (Propagator.headers c) headers)
      (environOf cgi (setAll (Propagator.headers c) headers ++ extra)) := by
  intro value hvalue
  have hlast := lastSpelling_setAll h hheaders
  rw [environOf_append, Hop.key, environOf_get_of_other hextra]
  exact environOf_get hlast hvalue cgi

/-! ### Extraction -/

section

variable {Ctx : Type} [Propagator Ctx] {span : SpanContext} {c : Ctx}

/-- A dispatcher reads what a send wrote. -/
lemma carried_traceparent [Faithful Ctx] {dicts : List Dict} {ref : ℕ}
    (h : Carries Ctx (deref dicts ref) span) (hc : carried dicts (.dict ref) = .ok c) :
    spanIn c = span ∧ Propagator.isEmpty c = false := by
  obtain ⟨text, htext, hread⟩ := h
  apply hread.found _ c _ hc
  have hget : (Arg.dict ref).get dicts "traceparent" .none = .ok (.str text) := by
    rw [Arg.get, htext, Option.getD_some]
  unfold defaultGetter
  rw [hget]
  change (Propagator.asList Ctx (.str text) >>= fun vs => pure (some vs)) = _
  rw [Faithful.asList_str]
  rfl

/-- `auth_token` reads what a session wrote. -/
lemma environ_traceparent {environ : Dict} {text : String} (hread : ReadsBack Ctx text span)
    (h : environ.get (wsgiKey "traceparent") = some (.str text))
    (hc : Propagator.extract (environGetter environ) = .ok c) :
    spanIn c = span ∧ Propagator.isEmpty c = false := by
  apply hread.found _ c _ hc
  rw [← environKey_eq_wsgiKey] at h
  exact (environGetter_eq environ "traceparent" text).mpr h

end

end OtelOpenstack.Wires
