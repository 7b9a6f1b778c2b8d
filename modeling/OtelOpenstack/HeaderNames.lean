import Mathlib.Data.List.Forall2
import Mathlib.Data.List.Nodup
import OtelOpenstack.Http

/-!
Header names in WSGI environments.

A server writes the header `name` under a key of its own, with underscores and in upper case. The
getter looks headers up by name and lists their names; here the two are shown to undo what the
server did, a character at a time.
-/

set_option autoImplicit false

namespace OtelOpenstack.HeaderNames

open Python Carriers KeystoneMiddleware

/-! ### Characters -/

/-- The same character, up to case and to hyphen and underscore. -/
def SameChar (c d : Char) : Prop :=
  c.toLower = d.toLower ∨ c ∈ ['-', '_'] ∧ d ∈ ['-', '_']

/-- A character in a key of the environment. -/
def inKey (c : Char) : Char := if c.toUpper = '-' then '_' else c.toUpper

/-- A character in a listed name. -/
def inName (c : Char) : Char := if c = '_' then '-' else c.toLower

def IsAscii (c : Char) : Prop := c.toNat < 128

lemma inName_inKey {c : Char} (hc : IsAscii c) : inName (inKey c) = inName c := by
  have h : ∀ n < 128, inName (inKey (Char.ofNat n)) = inName (Char.ofNat n) := by decide
  simpa using h c.toNat hc

lemma inKey_inName {c : Char} (hc : IsAscii c) : inKey (inName c) = inKey c := by
  have h : ∀ n < 128, inKey (inName (Char.ofNat n)) = inKey (Char.ofNat n) := by decide
  simpa using h c.toNat hc

lemma toLower_eq_underscore {c : Char} (hc : IsAscii c) : c.toLower = '_' → c = '_' := by
  have h : ∀ n < 128, (Char.ofNat n).toLower = '_' → Char.ofNat n = '_' := by decide
  simpa using h c.toNat hc

lemma toLower_eq_hyphen {c : Char} (hc : IsAscii c) : c.toLower = '-' → c = '-' := by
  have h : ∀ n < 128, (Char.ofNat n).toLower = '-' → Char.ofNat n = '-' := by decide
  simpa using h c.toNat hc

lemma SameChar.symm {c d : Char} (h : SameChar c d) : SameChar d c :=
  h.elim (fun h => Or.inl h.symm) fun h => Or.inr h.symm

/-- Of the other characters a hyphen is the same as an underscore. -/
lemma sameChar_underscore {c : Char} (hc : IsAscii c) (hcu : c ≠ '_') :
    SameChar c '_' ↔ c.toLower = '-' := by
  constructor
  · rintro (h | ⟨h, -⟩)
    · exact absurd (toLower_eq_underscore hc h) hcu
    · have hhyphen : c = '-' := by simpa [hcu] using h
      rw [hhyphen]
      rfl
  · intro h
    exact Or.inr ⟨by simp [toLower_eq_hyphen hc h], by simp⟩

/-- Two characters go into the same character of a key exactly when they are the same. -/
lemma inKey_eq_iff {c d : Char} (hc : IsAscii c) (hd : IsAscii d) :
    inKey c = inKey d ↔ SameChar c d := by
  have hname : inKey c = inKey d ↔ inName c = inName d := by
    constructor
    · intro h
      rw [← inName_inKey hc, h, inName_inKey hd]
    · intro h
      rw [← inKey_inName hc, h, inKey_inName hd]
  rw [hname]
  unfold inName
  by_cases hcu : c = '_'
  · by_cases hdu : d = '_'
    · simp [hcu, hdu, SameChar]
    · rw [if_pos hcu, if_neg hdu, hcu, eq_comm, ← sameChar_underscore hd hdu]
      exact ⟨SameChar.symm, SameChar.symm⟩
  · by_cases hdu : d = '_'
    · rw [if_neg hcu, if_pos hdu, hdu, sameChar_underscore hc hcu]
    · rw [if_neg hcu, if_neg hdu]
      constructor
      · exact Or.inl
      · rintro (h | ⟨h, h'⟩)
        · exact h
        · have hc' : c = '-' := by simpa [hcu] using h
          have hd' : d = '-' := by simpa [hdu] using h'
          rw [hc', hd']

/-! ### Keys -/

/-- The key a WSGI server puts a header under: `HTTP_` and the name, underscores in the place of
hyphens, in upper case. -/
def wsgiKey (name : String) : String :=
  String.ofList ("HTTP_".toList ++
    (name.toList.map fun c => if c = '-' then '_' else c).map Char.toUpper)

lemma toUpper_eq_hyphen {c : Char} : c.toUpper = '-' ↔ c = '-' := by
  constructor
  · intro h
    unfold Char.toUpper at h
    split at h
    · rename_i hlower
      have hval := congrArg (fun d : Char => d.val.toNat) h
      have hfrom := UInt32.le_iff_toNat_le.mp hlower.1
      have hto := UInt32.le_iff_toNat_le.mp hlower.2
      simp at hval hfrom hto
      omega
    · exact h
  · rintro rfl
    rfl

/-- The getter asks for the key the server has put the header under. -/
lemma environKey_eq_wsgiKey (name : String) : environKey name = wsgiKey name := by
  have hchar : ∀ c : Char, (if c.toUpper = '-' then '_' else c.toUpper) =
      (if c = '-' then '_' else c).toUpper := by
    intro c
    by_cases hc : c = '-'
    · subst hc
      rfl
    · rw [if_neg hc, if_neg fun h => hc (toUpper_eq_hyphen.mp h)]
  unfold environKey wsgiKey
  rw [List.map_map]
  simp only [hchar, Function.comp_def]

/-! ### Names -/

/-- The same header. -/
def SameName (a b : String) : Prop := List.Forall₂ SameChar a.toList b.toList

/-- Of letters, digits and hyphens. -/
def IsHeaderName (name : String) : Prop := ∀ c ∈ name.toList, c.isAlphanum = true ∨ c = '-'

lemma environKey_toList (name : String) :
    (environKey name).toList = "HTTP_".toList ++ name.toList.map inKey :=
  String.toList_ofList

lemma isAscii_of_le {c d : Char} (h : c.val ≤ d.val) (hd : IsAscii d) : IsAscii c :=
  Nat.lt_of_le_of_lt (UInt32.le_iff_toNat_le.mp h) hd

lemma isAscii_of_headerChar {c : Char} (h : c.isAlphanum = true ∨ c = '-') : IsAscii c := by
  have hascii : IsAscii 'Z' ∧ IsAscii 'z' ∧ IsAscii '9' ∧ IsAscii '-' := by
    unfold IsAscii
    decide
  rcases h with h | rfl
  · rcases Bool.or_eq_true_iff.mp h with halpha | hdigit
    · rcases Bool.or_eq_true_iff.mp halpha with hupper | hlower
      · exact isAscii_of_le (of_decide_eq_true hupper).2 hascii.1
      · exact isAscii_of_le (of_decide_eq_true (Bool.and_eq_true_iff.mp hlower).2) hascii.2.1
    · exact isAscii_of_le (of_decide_eq_true (Bool.and_eq_true_iff.mp hdigit).2) hascii.2.2.1
  · exact hascii.2.2.2

lemma map_inKey_eq_iff {cs ds : List Char} (hcs : ∀ c ∈ cs, IsAscii c) (hds : ∀ d ∈ ds, IsAscii d) :
    cs.map inKey = ds.map inKey ↔ List.Forall₂ SameChar cs ds := by
  induction cs generalizing ds with
  | nil =>
    cases ds with
    | nil => simp
    | cons d ds =>
      refine iff_of_false (by simp) fun h => ?_
      cases h
  | cons c cs ih =>
    cases ds with
    | nil =>
      refine iff_of_false (by simp) fun h => ?_
      cases h
    | cons d ds =>
      have hhead := inKey_eq_iff (hcs c (List.mem_cons_self ..)) (hds d (List.mem_cons_self ..))
      have htail := ih (fun e he => hcs e (List.mem_cons_of_mem _ he))
        fun e he => hds e (List.mem_cons_of_mem _ he)
      simp [hhead, htail]

/-- **Keys tell headers apart, and nothing else.** -/
theorem environKey_eq_iff {a b : String} (ha : ∀ c ∈ a.toList, IsAscii c)
    (hb : ∀ c ∈ b.toList, IsAscii c) : environKey a = environKey b ↔ SameName a b := by
  rw [← String.toList_inj, environKey_toList, environKey_toList, List.append_cancel_left_eq]
  exact map_inKey_eq_iff ha hb

/-! ### Environments -/

/-- The environment of a request with these headers, in any order, among keys of other kinds. -/
structure Encodes (headers : List (String × String)) (environ : Dict) : Prop where
  names : ∀ name text, (name, text) ∈ headers → IsHeaderName name
  keys_nodup : (environ.map Prod.fst).Nodup
  header_keys : ∀ key value, isHeaderKey key = true →
    ((key, value) ∈ environ ↔
      ∃ name text, (name, text) ∈ headers ∧ key = wsgiKey name ∧ value = .str text)

lemma get_eq_some_iff {d : Dict} (h : (d.map Prod.fst).Nodup) (key : String) (value : Val) :
    d.get key = some value ↔ (key, value) ∈ d := by
  induction d with
  | nil => simp [Dict.get]
  | cons item d ih =>
    obtain ⟨k, v⟩ := item
    rw [List.map_cons, List.nodup_cons] at h
    rw [Dict.get_cons]
    by_cases hk : key = k
    · subst hk
      have hother : (key, value) ∉ d := fun hmem => h.1 (List.mem_map.mpr ⟨_, hmem, rfl⟩)
      simp [hother, eq_comm]
    · simp [hk, ih h.2]

lemma isHeaderKey_environKey (name : String) : isHeaderKey (environKey name) = true := by
  rw [isHeaderKey, environKey_toList, List.isPrefixOf_iff_prefix]
  exact List.prefix_append _ _

/-- A listed name goes back into the key it was made of. -/
lemma environKey_listed {name : String} (h : IsHeaderName name) :
    environKey (String.ofList (((environKey name).toList.drop 5).map inName)) =
      environKey name := by
  have hdrop : (environKey name).toList.drop 5 = name.toList.map inKey := by
    rw [environKey_toList]
    rfl
  have hchars : ((name.toList.map inKey).map inName).map inKey = name.toList.map inKey := by
    rw [List.map_map, List.map_map]
    refine List.map_congr_left fun c hc => ?_
    have hascii := isAscii_of_headerChar (h c hc)
    rw [Function.comp_apply, Function.comp_apply, inName_inKey hascii, inKey_inName hascii]
  have hlisted : (String.ofList ((name.toList.map inKey).map inName)).toList =
      (name.toList.map inKey).map inName := String.toList_ofList
  rw [hdrop, ← String.toList_inj, environKey_toList, environKey_toList, hlisted, hchars]

lemma environGetter_eq (environ : Dict) (name text : String) :
    environGetter environ name = .ok (some [.str text]) ↔
      environ.get (environKey name) = some (.str text) := by
  unfold environGetter
  rcases environ.get (environKey name) with _ | v
  · simp
  · cases v <;> simp

section

variable {headers : List (String × String)} {environ : Dict}

lemma Encodes.get (h : Encodes headers environ) {name : String}
    (hname : ∀ c ∈ name.toList, IsAscii c) (value : Val) :
    environ.get (environKey name) = some value ↔
      ∃ sent text, (sent, text) ∈ headers ∧ SameName sent name ∧ value = .str text := by
  rw [get_eq_some_iff h.keys_nodup, h.header_keys _ _ (isHeaderKey_environKey name)]
  have hsame : ∀ sent text, (sent, text) ∈ headers →
      (environKey name = wsgiKey sent ↔ SameName sent name) := by
    intro sent text hmem
    rw [eq_comm, ← environKey_eq_wsgiKey]
    exact environKey_eq_iff (fun c hc => isAscii_of_headerChar (h.names _ _ hmem c hc)) hname
  constructor
  · rintro ⟨sent, text, hmem, hkey, hvalue⟩
    exact ⟨sent, text, hmem, (hsame sent text hmem).mp hkey, hvalue⟩
  · rintro ⟨sent, text, hmem, hname, hvalue⟩
    exact ⟨sent, text, hmem, (hsame sent text hmem).mpr hname, hvalue⟩

/-- A key of a header is one a listed name goes into, and what is found for it is its value. -/
lemma Encodes.listed (h : Encodes headers environ) {item : String × Val}
    (hitem : item ∈ environ.filter fun item => isHeaderKey item.1) :
    let name := String.ofList ((item.1.toList.drop 5).map inName)
    wsgiKey name = item.1 ∧ environGetter environ name = .ok (some [item.2]) := by
  obtain ⟨hmem, hkey⟩ := List.mem_filter.mp hitem
  obtain ⟨name, text, hname, hitemKey, hvalue⟩ := (h.header_keys item.1 item.2 hkey).mp hmem
  have hback := environKey_listed (h.names name text hname)
  rw [environKey_eq_wsgiKey name, ← hitemKey] at hback
  refine ⟨(environKey_eq_wsgiKey _).symm.trans hback, ?_⟩
  rw [hvalue, environGetter_eq, hback, get_eq_some_iff h.keys_nodup, ← hvalue]
  exact hmem

/-- **The getter undoes the server's encoding.** A header is found under every spelling of its
name, and nothing under other names; the listed names are one for each header of the environment,
and find it. -/
theorem getter_inverts (h : Encodes headers environ) :
    (∀ name : String, (∀ c ∈ name.toList, IsAscii c) →
      (∀ sent text, (sent, text) ∈ headers → SameName sent name →
        environGetter environ name = .ok (some [.str text])) ∧
      (environGetter environ name = .ok none ↔
        ∀ sent text, (sent, text) ∈ headers → ¬ SameName sent name)) ∧
    (environKeys environ).Nodup ∧
    List.Forall₂
      (fun name item => wsgiKey name = item.1 ∧
        environGetter environ name = .ok (some [item.2]))
      (environKeys environ) (environ.filter fun item => isHeaderKey item.1) := by
  refine ⟨fun name hname => ⟨?_, ?_⟩, ?_, ?_⟩
  · intro sent text hmem hsame
    rw [environGetter_eq]
    exact (h.get hname _).mpr ⟨sent, text, hmem, hsame, rfl⟩
  · constructor
    · intro hnone sent text hmem hsame
      have hfound := (environGetter_eq environ name text).mpr
        ((h.get hname _).mpr ⟨sent, text, hmem, hsame, rfl⟩)
      rw [hnone] at hfound
      exact absurd hfound (by simp)
    · intro hother
      have hget : environ.get (environKey name) = none := by
        rcases hget : environ.get (environKey name) with _ | v
        · rfl
        · obtain ⟨sent, text, hmem, hsame, -⟩ := (h.get hname v).mp hget
          exact absurd hsame (hother sent text hmem)
      unfold environGetter
      rw [hget]
      rfl
  · refine List.Nodup.map_on (fun item hitem other hother heq => ?_) ?_
    · have hkeys : item.1 = other.1 := by
        rw [← (h.listed hitem).1, ← (h.listed hother).1]
        exact congrArg wsgiKey heq
      have hnodup := h.keys_nodup
      exact List.inj_on_of_nodup_map hnodup (List.mem_filter.mp hitem).1
        (List.mem_filter.mp hother).1 hkeys
    · exact (List.Nodup.of_map _ h.keys_nodup).filter _
  · rw [environKeys, List.forall₂_map_left_iff, List.forall₂_same]
    intro item hitem
    exact h.listed hitem

end

/-! ### One header -/

/-- The environment of a request that sends `TraceParent`. -/
def tracedEnviron : Dict :=
  [("REQUEST_METHOD", .str "GET"), ("HTTP_TRACEPARENT", .str "00-7-7-01")]

lemma encodes_tracedEnviron : Encodes [("TraceParent", "00-7-7-01")] tracedEnviron where
  names name text h := by
    obtain ⟨rfl, -⟩ := Prod.mk.inj (List.mem_singleton.mp h)
    simp [IsHeaderName]
  keys_nodup := by decide
  header_keys key value h := by
    have hsent : wsgiKey "TraceParent" = "HTTP_TRACEPARENT" := by decide
    have hcgi : isHeaderKey "REQUEST_METHOD" = false := by decide
    have hmethod : key ≠ "REQUEST_METHOD" := by
      rintro rfl
      rw [hcgi] at h
      exact absurd h (by decide)
    simp [tracedEnviron, hmethod, hsent]

theorem getter_inverts_traced :
    environGetter tracedEnviron "traceparent" = .ok (some [.str "00-7-7-01"]) ∧
      environGetter tracedEnviron "tracestate" = .ok none ∧ (environKeys tracedEnviron).Nodup := by
  obtain ⟨hget, hnodup, -⟩ := getter_inverts encodes_tracedEnviron
  have hascii : (∀ c ∈ "traceparent".toList, IsAscii c) ∧
      ∀ c ∈ "tracestate".toList, IsAscii c := by
    simp [IsAscii]
  refine ⟨(hget _ hascii.1).1 "TraceParent" _ (List.mem_singleton.mpr rfl) ?_, ?_, hnodup⟩
  · have hsame : environKey "TraceParent" = environKey "traceparent" := by decide
    refine (environKey_eq_iff (fun c hc => isAscii_of_headerChar ?_) hascii.1).mp hsame
    exact encodes_tracedEnviron.names _ _ (List.mem_singleton.mpr rfl) c hc
  · refine (hget _ hascii.2).2.mpr fun sent text hmem hsame => ?_
    obtain ⟨rfl, -⟩ := Prod.mk.inj (List.mem_singleton.mp hmem)
    exact absurd hsame.length_eq (by decide)

end OtelOpenstack.HeaderNames
