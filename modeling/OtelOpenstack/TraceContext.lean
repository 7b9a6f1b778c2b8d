import Mathlib.Data.Nat.Digits.Lemmas
import OtelOpenstack.Http

/-!
Trace context in headers: what is relied on of a propagator, and a propagator for contexts that
hold a span and nothing else, in the manner of W3C's.

Ids are written in hexadecimal, in 32 digits and 16. They are numbers without a bound here, so
a number that does not fit takes more digits, and the reader takes as many. Its spans are all
sampled; the reader takes any flags, but no blanks around a header, and drops `tracestate`.
-/

set_option autoImplicit false

namespace OtelOpenstack.TraceContext

open Python Otel ContextApi Carriers

/-! ### Hexadecimal numbers -/

def hexDigits : List Char :=
  ['0', '1', '2', '3', '4', '5', '6', '7', '8', '9', 'a', 'b', 'c', 'd', 'e', 'f']

def hexDigit (n : ℕ) : Char := hexDigits.getD n '0'

def hexValue (c : Char) : Option ℕ := hexDigits.idxOf? c

/-- A number in at least `width` digits. -/
def toHex (width n : ℕ) : List Char := ((Nat.digitsAppend 16 width n).map hexDigit).reverse

def ofHex (cs : List Char) : Option ℕ := (cs.reverse.mapM hexValue).map (Nat.ofDigits 16)

lemma hexValue_hexDigit : ∀ n < 16, hexValue (hexDigit n) = some n := by decide

lemma hexDigit_ne_dash : ∀ n < 16, hexDigit n ≠ '-' := by decide

lemma mapM_hexValue {ds : List ℕ} (h : ∀ d ∈ ds, d < 16) :
    (ds.map hexDigit).mapM hexValue = some ds := by
  induction ds with
  | nil => rfl
  | cons d ds ih =>
    have hd := hexValue_hexDigit d (h d (List.mem_cons_self ..))
    have hds := ih fun e he => h e (List.mem_cons_of_mem _ he)
    rw [List.map_cons, List.mapM_cons, hd, hds]
    rfl

lemma digit_lt {width n d : ℕ} (h : d ∈ Nat.digitsAppend 16 width n) : d < 16 :=
  Nat.lt_of_mem_digitsAppend (by decide) width d h

lemma ofHex_toHex (width n : ℕ) : ofHex (toHex width n) = some n := by
  have hdigits : Nat.ofDigits 16 (Nat.digitsAppend 16 width n) = n := by
    rw [Nat.digitsAppend, Nat.ofDigits_append_replicate_zero, Nat.ofDigits_digits]
  unfold ofHex toHex
  rw [List.reverse_reverse, mapM_hexValue fun d => digit_lt, Option.map_some, hdigits]

lemma dash_not_mem_toHex (width n : ℕ) : '-' ∉ toHex width n := by
  intro h
  rw [toHex, List.mem_reverse, List.mem_map] at h
  obtain ⟨d, hd, hdash⟩ := h
  exact hexDigit_ne_dash d (digit_lt hd) hdash

lemma le_length_toHex (width n : ℕ) : width ≤ (toHex width n).length := by
  simp only [toHex, List.length_reverse, List.length_map, Nat.digitsAppend, List.length_append,
    List.length_replicate]
  omega

/-! ### The header -/

/-- Two hexadecimal digits. -/
def isByte (cs : List Char) : Bool := cs.length == 2 && cs.all (hexDigits.contains ·)

lemma dash_not_mem_of_isByte {cs : List Char} (h : isByte cs = true) : '-' ∉ cs := by
  intro hmem
  simp only [isByte, Bool.and_eq_true, List.all_eq_true] at h
  exact absurd (h.2 _ hmem) (by decide)

def fields (flags : List Char) (s : SpanContext) : List (List Char) :=
  [['0', '0'], toHex 32 s.traceId, toHex 16 s.spanId, flags]

/-- `00-<trace id>-<span id>-<flags>`. -/
def traceparentWith (flags : List Char) (s : SpanContext) : String :=
  String.ofList (['-'].intercalate (fields flags s))

/-- The header of a span that is sampled. -/
def traceparent : SpanContext → String := traceparentWith ['0', '1']

/-- The span a `traceparent` names, if it is well formed and the ids are valid. A version after
`00` may have more fields, and `ff` is none. -/
def parseTraceparent (header : String) : Option SpanContext :=
  match header.toList.splitOn '-' with
  | version :: trace :: span :: flags :: more =>
    if isByte version && version != ['f', 'f'] && (version != ['0', '0'] || more.isEmpty) &&
        decide (32 ≤ trace.length) && decide (16 ≤ span.length) && isByte flags then
      match ofHex trace, ofHex span with
      | some traceId, some spanId =>
        if (SpanContext.mk traceId spanId).isValid then some ⟨traceId, spanId⟩ else none
      | _, _ => none
    else none
  | _ => none

/-- **Round trip.** What is written of a valid span is read back, whatever its flags. -/
theorem parse_traceparentWith {flags : List Char} (hflags : isByte flags = true) {s : SpanContext}
    (h : s.isValid = true) : parseTraceparent (traceparentWith flags s) = some s := by
  have hdash : ∀ field ∈ fields flags s, '-' ∉ field := by
    intro field hfield
    simp only [fields, List.mem_cons, List.not_mem_nil, or_false] at hfield
    rcases hfield with rfl | rfl | rfl | rfl
    · decide
    · exact dash_not_mem_toHex _ _
    · exact dash_not_mem_toHex _ _
    · exact dash_not_mem_of_isByte hflags
  have hsplit : (traceparentWith flags s).toList.splitOn '-' = fields flags s := by
    rw [traceparentWith, String.toList_ofList]
    exact List.splitOn_intercalate '-' hdash (List.cons_ne_nil _ _)
  have hversion : isByte ['0', '0'] = true := rfl
  unfold parseTraceparent
  rw [hsplit]
  simp [fields, ofHex_toHex, h, hversion, le_length_toHex, hflags]

lemma parse_traceparent {s : SpanContext} (h : s.isValid = true) :
    parseTraceparent (traceparent s) = some s :=
  parse_traceparentWith rfl h

/-! ### The propagator -/

/-- The context of what a getter found under `traceparent`. -/
def readTraceparent : Option (List Val) → Except Exn BareContext
  | none => pure empty
  | some [] => pure empty
  | some (.str header :: _) => pure (((parseTraceparent header).map (setSpan · empty)).getD empty)
  | some _ => throw (exn "TypeError" "expected string or bytes-like object")

/-- `extract`, from an empty context. -/
def extractBare (getter : String → Except Exn (Option (List Val))) : Except Exn BareContext := do
  readTraceparent (← getter "traceparent")

instance : Propagator BareContext where
  headers c := if c.span.isValid then [("traceparent", traceparent c.span)] else []
  asList v := .ok [v]
  extract := extractBare
  isEmpty c := decide (c = ⟨invalidSpan, false⟩)

lemma readTraceparent_of_extract {getter : String → Except Exn (Option (List Val))}
    {c : BareContext} (h : extractBare getter = .ok c) : ∃ vs, readTraceparent vs = .ok c := by
  unfold extractBare at h
  cases hget : getter "traceparent" with
  | error e =>
    rw [hget] at h
    exact absurd h nofun
  | ok vs =>
    rw [hget] at h
    exact ⟨vs, h⟩

lemma readTraceparent_enabled {vs : Option (List Val)} {c : BareContext}
    (h : readTraceparent vs = .ok c) : enabled c = true := by
  unfold readTraceparent at h
  split at h
  · obtain rfl := Except.ok.inj h
    rfl
  · obtain rfl := Except.ok.inj h
    rfl
  · obtain rfl := Except.ok.inj h
    cases parseTraceparent _ <;> rfl
  · exact absurd h nofun

/-- A getter that finds nothing but this text, under `traceparent`. -/
def only (text : String) (key : String) : Except Exn (Option (List Val)) :=
  .ok (if key = "traceparent" then some [.str text] else none)

/-- `extract` finds the span in this text: through any getter that answers it, whatever else
there is, into a context that is not empty. -/
structure ReadsBack (Ctx : Type) [Propagator Ctx] (text : String) (span : SpanContext) : Prop where
  returns : ∃ c : Ctx, Propagator.extract (only text) = .ok c
  found : ∀ (getter : String → Except Exn (Option (List Val))) (c : Ctx),
    getter "traceparent" = .ok (some [.str text]) → Propagator.extract getter = .ok c →
      spanIn c = span ∧ Propagator.isEmpty c = false

/-- A text names one span. -/
lemma ReadsBack.unique {Ctx : Type} [Propagator Ctx] {text : String} {s t : SpanContext}
    (hs : ReadsBack Ctx text s) (ht : ReadsBack Ctx text t) : s = t := by
  obtain ⟨c, hc⟩ := hs.returns
  have hget : only text "traceparent" = .ok (some [.str text]) := rfl
  exact (hs.found _ c hget hc).1.symm.trans (ht.found _ c hget hc).1

/-- What is relied on of a propagator of trace context: `inject` writes the current span, when
it is valid, into a text under `traceparent`, `extract` reads it back, and what is extracted is
otherwise a new context. -/
class Faithful (Ctx : Type) [Propagator Ctx] : Prop where
  writes : ∀ c : Ctx, (spanIn c).isValid = true →
    ∃ text, ("traceparent", text) ∈ Propagator.headers c
  reads_back : ∀ c : Ctx, (spanIn c).isValid = true → ∀ text,
    ("traceparent", text) ∈ Propagator.headers c → ReadsBack Ctx text (spanIn c)
  asList_str : ∀ s, Propagator.asList Ctx (.str s) = .ok [.str s]
  extract_enabled : ∀ (getter : String → Except Exn (Option (List Val))) (c : Ctx),
    Propagator.extract getter = .ok c → enabled c = true

lemma readsBack_traceparent {s : SpanContext} (hs : s.isValid = true) :
    ReadsBack BareContext (traceparent s) s := by
  have hread : ∀ getter : String → Except Exn (Option (List Val)),
      getter "traceparent" = .ok (some [.str (traceparent s)]) →
        extractBare getter = .ok (setSpan s empty) := by
    intro getter hget
    unfold extractBare
    rw [hget]
    change readTraceparent (some [.str (traceparent s)]) = _
    rw [readTraceparent, parse_traceparent hs]
    rfl
  refine ⟨⟨_, hread _ rfl⟩, ?_⟩
  intro getter c hget hc
  obtain rfl : setSpan s empty = c := Except.ok.inj ((hread getter hget).symm.trans hc)
  have hne : s ≠ invalidSpan := by
    rintro rfl
    exact absurd hs (by decide)
  exact ⟨rfl, decide_eq_false fun h => hne (congrArg BareContext.span h)⟩

instance : Faithful BareContext where
  writes c h := by
    have hvalid : c.span.isValid = true := h
    exact ⟨traceparent c.span, by simp [Propagator.headers, hvalid]⟩
  reads_back c h text htext := by
    have hvalid : c.span.isValid = true := h
    obtain rfl : text = traceparent c.span := by simpa [Propagator.headers, hvalid] using htext
    exact readsBack_traceparent hvalid
  asList_str _ := rfl
  extract_enabled getter c hc := by
    obtain ⟨vs, hvs⟩ := readTraceparent_of_extract hc
    exact readTraceparent_enabled hvs

end OtelOpenstack.TraceContext
