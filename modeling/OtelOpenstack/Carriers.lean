import OtelOpenstack.Otel

/-!
What wrapped callables are given, and trace context carried by it: the propagator injects the
current context into a carrier and extracts a context from one.

A dictionary that is passed around is passed by reference. An object of any other class is
known by what its own methods do, raising included; one without an attribute that a wrapper
reads as optional has `None` there.
-/

set_option autoImplicit false

namespace OtelOpenstack.Carriers

open Effects Python Otel ContextApi

/-- An argument of a wrapped callable, or an attribute of one. -/
inductive Arg
  | val (v : Val)
  | dict (ref : ℕ)
  | object (mapping : Bool) (truth : Except Exn Bool)
      (get : Option (String → Val → Except Exn Val)) (items : Except Exn Dict)
      (setItem : String → Val → Except Exn Unit)
  | target (topic exchange : Except Exn Val)
  | incoming (ctxt message : Arg) (modules : List String)

abbrev Args := List Arg

abbrev Kwargs := List (String × Arg)

def noAttribute (name : String) : Exn := exn "AttributeError" s!"no attribute '{name}'"

def notIterable : Exn := exn "TypeError" "object is not iterable"

def notPairs : Exn :=
  exn "ValueError" "dictionary update sequence element #0 has length 1; 2 is required"

def noItemAssignment : Exn :=
  exn "TypeError" "object does not support item assignment"

def deref (dicts : List Dict) (ref : ℕ) : Dict := dicts.getD ref []

def emptyDict : Arg :=
  .object true (.ok false) (some fun _ default => .ok default) (.ok []) fun _ _ => .ok ()

/-- A mapping that cannot be written to, such as a `MappingProxyType`. -/
def readOnly (d : Dict) : Arg :=
  .object true (.ok !d.isEmpty) (some fun key default => .ok ((d.get key).getD default))
    (.ok d) fun _ _ => .error noItemAssignment

def Arg.isMapping : Arg → Bool
  | .dict _ => true
  | .object mapping _ _ _ _ => mapping
  | _ => false

def Arg.truth (dicts : List Dict) : Arg → Except Exn Bool
  | .val v => v.truth
  | .dict ref => .ok !(deref dicts ref).isEmpty
  | .object _ truth _ _ _ => truth
  | _ => .ok true

def Arg.get (dicts : List Dict) : Arg → String → Val → Except Exn Val
  | .dict ref, key, default => .ok (((deref dicts ref).get key).getD default)
  | .object _ _ (some get) _ _, key, default => get key default
  | _, _, _ => .error (noAttribute "get")

def Arg.toDict (dicts : List Dict) : Arg → Except Exn Dict
  | .dict ref => .ok (deref dicts ref)
  | .object _ _ _ items _ => items
  | .val (.str s) => if s = "" then .ok [] else .error notPairs
  | _ => .error notIterable

/-! Attributes that are read with `getattr(a, name, None)`. -/

def Arg.topic : Arg → Except Exn Val
  | .target topic _ => topic
  | _ => .ok .none

def Arg.exchange : Arg → Except Exn Val
  | .target _ exchange => exchange
  | _ => .ok .none

def Arg.ctxt : Arg → Arg
  | .incoming ctxt _ _ => ctxt
  | _ => .val .none

def Arg.message : Arg → Arg
  | .incoming _ message _ => message
  | _ => .val .none

/-- `klass.__module__` for every class a message's class derives from. -/
def Arg.modules : Arg → List String
  | .incoming _ _ modules => modules
  | _ => []

def Arg.orEmpty (dicts : List Dict) (a : Arg) : Except Exn Arg := do
  if ← a.truth dicts then pure a else pure emptyDict

/-- The global propagator. -/
class Propagator (Ctx : Type) extends ContextApi Ctx where
  /-- What `inject` writes when the context is current, in order -/
  headers : Ctx → List (String × String)
  /-- What the default getter makes of a value it finds -/
  asList : Val → Except Exn (List Val)
  /-- `extract`, from what the getter answers for a key -/
  extract : (String → Except Exn (Option (List Val))) → Except Exn Ctx
  /-- `not context` -/
  isEmpty : Ctx → Bool

section

variable {Ctx H : Type}

abbrev Wrapped (Ctx H α : Type) := Args → Kwargs → Code Ctx H α

def setItem (carrier : Arg) (key : String) (value : Val) : Code Ctx H Unit :=
  match carrier with
  | .dict ref => modifies fun w => { w with dicts := w.dicts.modify ref (·.set key value) }
  | .object _ _ _ _ set => liftExcept (set key value)
  | _ => raise noItemAssignment

def setItems (carrier : Arg) : List (String × String) → Code Ctx H Unit
  | [] => pure ()
  | (key, value) :: items => do
    setItem carrier key (.str value)
    setItems carrier items

def newDict (d : Dict) : Code Ctx H ℕ := fun w =>
  (.ok w.dicts.length, { w with dicts := w.dicts ++ [d] })

variable [Propagator Ctx]

def inject (F : Faults) (carrier : Arg) : Code Ctx H Unit := do
  mayRaise F .inject
  let c ← getCurrent
  setItems carrier (Propagator.headers c)

/-- The getter `propagate.extract` uses when it is given none. -/
def defaultGetter (Ctx : Type) [Propagator Ctx] (dicts : List Dict) (carrier : Arg)
    (key : String) : Except Exn (Option (List Val)) := do
  match ← carrier.get dicts key .none with
  | .none => pure none
  | v => do
    let vs ← Propagator.asList Ctx v
    pure (some vs)

def extract (F : Faults) (carrier : Arg) : Code Ctx H Ctx := do
  mayRaise F .extract
  let dicts ← reads World.dicts
  liftExcept (Propagator.extract (defaultGetter Ctx dicts carrier))

/-- The context the carrier holds. -/
def carried (dicts : List Dict) (carrier : Arg) : Except Exn Ctx :=
  Propagator.extract (defaultGetter Ctx dicts carrier)

lemma extract_noFaults (carrier : Arg) (w : World Ctx H) :
    extract noFaults carrier w = (carried w.dicts carrier, w) := rfl

end

/-- `args[index]` if there is one, or else `kwargs.get(name)`. -/
def arg (args : Args) (index : ℕ) (kwargs : Kwargs) (name : String) : Arg :=
  match args[index]? with
  | some a => a
  | none => (kwargs.lookup name).getD (.val .none)

end OtelOpenstack.Carriers
