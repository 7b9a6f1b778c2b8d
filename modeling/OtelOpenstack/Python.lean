import Mathlib.Control.Monad.Basic
import Mathlib.Data.Int.Notation
import Mathlib.Data.List.Basic
import Mathlib.Tactic.Common

/-!
Python values as the wrappers meet them: what `bool`, `str` and `format` make of a value,
and dictionaries with text keys in insertion order.

Of an object that is none of the built-in ones nothing is known but what its own methods do,
raising included.
-/

namespace OtelOpenstack.Python

/-- The class of an exception: its name, and whether it derives from `Exception` and from
`AttributeError`. -/
structure ExnClass where
  name : String
  isException : Bool
  isAttributeError : Bool
  deriving DecidableEq

/-- An exception; `__str__` of its class gives a text or raises another. -/
inductive Exn
  | printable (cls : ExnClass) (text : String)
  | unprintable (cls : ExnClass) (raised : Exn)
  deriving DecidableEq

def Exn.cls : Exn → ExnClass
  | .printable cls _ => cls
  | .unprintable cls _ => cls

def Exn.isException (e : Exn) : Bool := e.cls.isException

def Exn.isAttributeError (e : Exn) : Bool := e.cls.isAttributeError

/-- `str(e)`. -/
def Exn.str : Exn → Except Exn String
  | .printable _ text => .ok text
  | .unprintable _ raised => .error raised

lemma Exn.str_ne {e e' : Exn} (h : e.str = .error e') : e' ≠ e := by
  cases e with
  | printable cls text => exact absurd h nofun
  | unprintable cls raised =>
    obtain rfl : raised = e' := Except.error.inj h
    intro heq
    have hsize := congrArg sizeOf heq
    simp at hsize

/-- An `Exception` with a text. -/
def exn (name text : String) : Exn :=
  .printable ⟨name, true, name == "AttributeError"⟩ text

structure Obj where
  ref : ℕ
  truth : Except Exn Bool
  text : Except Exn String
  format : Except Exn String
  deriving DecidableEq

inductive Val
  | none
  | bool (b : Bool)
  | int (n : ℤ)
  | str (s : String)
  | obj (o : Obj)
  deriving DecidableEq

/-- `bool(v)`. -/
def Val.truth : Val → Except Exn Bool
  | .none => .ok false
  | .bool b => .ok b
  | .int n => .ok (n != 0)
  | .str s => .ok (s != "")
  | .obj o => o.truth

/-- `str(v)`. -/
def Val.text : Val → Except Exn String
  | .none => .ok "None"
  | .bool b => .ok (if b then "True" else "False")
  | .int n => .ok (toString n)
  | .str s => .ok s
  | .obj o => o.text

/-- `f"{v}"`. -/
def Val.format : Val → Except Exn String
  | .obj o => o.format
  | v => v.text

/-- `c.isspace()`. -/
def isSpace (c : Char) : Bool :=
  let code := c.toNat
  (9 ≤ code && code ≤ 13) || (28 ≤ code && code ≤ 32) || (8192 ≤ code && code ≤ 8202) ||
    [133, 160, 5760, 8232, 8233, 8239, 8287, 12288].contains code

/-- `s.strip()`. -/
def strip (s : String) : String :=
  let front := s.toList.dropWhile isSpace
  String.ofList (front.reverse.dropWhile isSpace).reverse

/-- A dictionary with text keys, in insertion order. -/
abbrev Dict := List (String × Val)

/-- `d.get(key)`. -/
def Dict.get (d : Dict) (key : String) : Option Val := d.lookup key

/-- `d[key] = value`. -/
def Dict.set : Dict → String → Val → Dict
  | [], key, value => [(key, value)]
  | (k, v) :: d, key, value =>
    if key == k then (k, value) :: d else (k, v) :: Dict.set d key value

lemma Dict.get_cons (k : String) (v : Val) (d : Dict) (key : String) :
    Dict.get ((k, v) :: d) key = if key = k then some v else Dict.get d key := by
  unfold Dict.get
  rw [List.lookup_cons]
  by_cases h : key = k
  · simp [h]
  · simp [h, beq_false_of_ne h]

lemma Dict.set_cons (k : String) (v : Val) (d : Dict) (key : String) (value : Val) :
    Dict.set ((k, v) :: d) key value =
      if key = k then (k, value) :: d else (k, v) :: Dict.set d key value := by
  simp [Dict.set]

@[simp] lemma Dict.get_set_self (d : Dict) (key : String) (value : Val) :
    Dict.get (Dict.set d key value) key = some value := by
  induction d with
  | nil => simp [Dict.set, Dict.get_cons]
  | cons kv d ih =>
    obtain ⟨k, v⟩ := kv
    rw [Dict.set_cons]
    by_cases h : key = k
    · simp [h, Dict.get_cons]
    · simp [h, Dict.get_cons, ih]

lemma Dict.get_set_of_ne (d : Dict) {key other : String} (value : Val) (h : other ≠ key) :
    Dict.get (Dict.set d key value) other = Dict.get d other := by
  induction d with
  | nil => simp [Dict.set, Dict.get_cons, h]
  | cons kv d ih =>
    obtain ⟨k, v⟩ := kv
    rw [Dict.set_cons]
    by_cases hk : key = k
    · subst hk
      simp [Dict.get_cons, h]
    · simp [hk, Dict.get_cons, ih]

end OtelOpenstack.Python
