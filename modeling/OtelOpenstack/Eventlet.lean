import Mathlib.Logic.Function.Basic
import OtelOpenstack.Effects
import OtelOpenstack.Python
import OtelOpenstack.Separated

/-!
Patching eventlet before anything else runs, with the directory of auto-instrumentation hidden
from `PYTHONPATH` meanwhile.

What eventlet, the import system and `os` do is a parameter, `Runtime`; any of it may change the
environment, and raise.
-/

set_option autoImplicit false

namespace OtelOpenstack.Eventlet

open Effects Python Separated

/-! ### The process -/

structure Process (H : Type) where
  environ : String → Option String
  /-- `_forkhook_installed` -/
  forkhookInstalled : Bool
  /-- The handlers given to `os.register_at_fork`. -/
  forkhooks : ℕ
  /-- Names in modules, as far as they have been bound anew. -/
  bound : String → String → Option ℕ
  host : H

/-- What is outside; `original` is `patcher.original("threading")`, if that is a module, and
objects are known by reference. -/
structure Runtime (H : Type) where
  importModule : String → Eff Exn (Process H) Unit
  isImportError : Exn → Bool
  monkeyPatch : Eff Exn (Process H) Unit
  warn : Eff Exn (Process H) Unit
  hasRegisterAtFork : Bool
  original : Eff Exn (Process H) (Option ℕ)
  getattr : ℕ → String → Except Exn ℕ

section

variable {H α : Type}

def Process.setenv (p : Process H) (name value : String) : Process H :=
  { p with environ := Function.update p.environ name (some value) }

def setenv (name value : String) : Eff Exn (Process H) Unit := modifies fun p => p.setenv name value

/-- `setattr(module, name, value)`, for each. -/
def Process.bind (p : Process H) (module : String) : List (String × ℕ) → Process H
  | [] => p
  | (name, value) :: attributes =>
    Process.bind { p with
      bound := Function.update p.bound module
        (Function.update (p.bound module) name (some value)) } module attributes

@[simp] lemma Process.environ_setenv_self (p : Process H) (name value : String) :
    (p.setenv name value).environ name = some value := by
  simp [Process.setenv]

lemma Process.environ_setenv_of_ne (p : Process H) {name other : String} (value : String)
    (h : other ≠ name) : (p.setenv name value).environ other = p.environ other := by
  simp [Process.setenv, h]

/-! ### Patching -/

variable (rt : Runtime H)

def registerForkhook : Eff Exn (Process H) Bool := do
  let installed ← reads Process.forkhookInstalled
  if installed then pure true
  else if !rt.hasRegisterAtFork then pure false
  else do
    modifies fun p => { p with forkhooks := p.forkhooks + 1, forkhookInstalled := true }
    pure true

def unpatchedThreading : Eff Exn (Process H) (Option ℕ) :=
  tryExcept rt.original fun e => if e.isException then pure none else raise e

def sdkThreadNames : List String := ["Event", "Lock", "RLock", "Thread"]

def rebindings (real : ℕ) : Except Exn (List (String × List (String × ℕ))) := do
  let names ← sdkThreadNames.mapM fun name => do
    let value ← rt.getattr real name
    pure (name, value)
  pure [("opentelemetry.sdk._shared_internal", [("threading", real)]),
    ("opentelemetry.sdk.metrics._internal.export", names)]

/-- `try: m except ImportError: handler`, and whether `m` came through. -/
def unlessMissing (m handler : Eff Exn (Process H) Unit) : Eff Exn (Process H) Bool :=
  tryExcept
    (do
      m
      pure true)
    fun e =>
      if rt.isImportError e then do
        handler
        pure false
      else raise e

def rebind : List (String × List (String × ℕ)) → Eff Exn (Process H) Bool
  | [] => pure false
  | (module, attributes) :: rest => do
    let imported ← unlessMissing rt (rt.importModule module) (pure ⟨⟩)
    onlyIf imported (modifies fun p => p.bind module attributes)
    let rebound ← rebind rest
    pure (imported || rebound)

def unpatchSdk : Eff Exn (Process H) Bool := do
  match ← unpatchedThreading rt with
  | none => pure false
  | some real => do
    let rebindings ← liftExcept (rebindings rt real)
    rebind rt rebindings

/-- `with _strip_path(): body`; `sep` is `os.pathsep`, and `thisDir` the module's directory. -/
def stripPath (sep : Char) (thisDir : String) (body : Eff Exn (Process H) α) :
    Eff Exn (Process H) α := do
  let original ← reads fun p => (p.environ "PYTHONPATH").getD ""
  let entries := if original = "" then [] else split sep original
  if thisDir ∉ entries then body
  else do
    setenv "PYTHONPATH" (join sep (entries.filter (· ≠ thisDir)))
    tryFinally body (setenv "PYTHONPATH" original)

/-- `s.lower()`; no other letters than those of ASCII have one of `true` as their lower case. -/
def lower (s : String) : String := String.ofList (s.toList.map Char.toLower)

/-- `os.environ.get(name) or default`. -/
def getenvOr (name default : String) (p : Process H) : String :=
  match p.environ name with
  | none => default
  | some value => if value = "" then default else value

def tryPatch (sep : Char) (thisDir : String) : Eff Exn (Process H) Unit := do
  let flag ← reads (getenvOr "OTEL_PYTHON_EVENTLET_MONKEY_PATCH" "false")
  if lower (strip flag) ≠ "true" then pure ⟨⟩
  else stripPath sep thisDir do
    let patched ← unlessMissing rt
      (do
        rt.importModule "eventlet"
        rt.monkeyPatch)
      rt.warn
    onlyIf patched do
      setenv "OTEL_PYTHON_OSLO_SERVICE_BACKEND" "eventlet"
      let _ ← registerForkhook rt
      let _ ← unpatchSdk rt
      pure ⟨⟩

/-! ### The search path -/

def Process.entries (p : Process H) (sep : Char) : List String :=
  match p.environ "PYTHONPATH" with
  | none => []
  | some path => split sep path

def hidden (sep : Char) (thisDir : String) (p : Process H) : Process H :=
  if thisDir ∈ p.entries sep then
    p.setenv "PYTHONPATH" (join sep ((p.entries sep).filter (· ≠ thisDir)))
  else p

/-- What `_strip_path` does to what its body leaves; `p` is the process it was entered in. -/
def restored (sep : Char) (thisDir : String) (p left : Process H) : Process H :=
  if thisDir ∈ p.entries sep then left.setenv "PYTHONPATH" ((p.environ "PYTHONPATH").getD "")
  else left

variable {sep : Char} {thisDir : String}

lemma exists_path {p : Process H} {entry : String} (h : entry ∈ p.entries sep) :
    ∃ path, p.environ "PYTHONPATH" = some path := by
  rcases hpath : p.environ "PYTHONPATH" with _ | path
  · simp [Process.entries, hpath] at h
  · exact ⟨path, rfl⟩

variable (sep) in
lemma entries_of_path (hdir : thisDir ≠ "") (p : Process H) :
    let path := (p.environ "PYTHONPATH").getD ""
    let entries := if path = "" then [] else split sep path
    (thisDir ∈ entries ↔ thisDir ∈ p.entries sep) ∧
      (thisDir ∈ p.entries sep → entries = p.entries sep) := by
  unfold Process.entries
  rcases p.environ "PYTHONPATH" with _ | path
  · simp
  · by_cases hpath : path = ""
    · simp [hpath, hdir]
    · simp [hpath]

/-- The body runs in the hidden process, and what it leaves is restored however it ends. -/
lemma stripPath_apply (hdir : thisDir ≠ "") (body : Eff Exn (Process H) α) (p : Process H) :
    stripPath sep thisDir body p =
      ((body (hidden sep thisDir p)).1,
        restored sep thisDir p (body (hidden sep thisDir p)).2) := by
  obtain ⟨hiff, hsame⟩ := entries_of_path sep hdir p
  unfold stripPath
  rw [bind_of_ok (reads_apply _ p)]
  by_cases h : thisDir ∈ p.entries sep
  · rw [if_neg (not_not.mpr (hiff.mpr h)), hsame h]
    simp only [hidden, restored, if_pos h]
    rfl
  · rw [if_pos fun hmem => h (hiff.mp hmem)]
    simp only [hidden, restored, if_neg h]

lemma entries_hidden (p : Process H) :
    (hidden sep thisDir p).entries sep =
      if thisDir ∈ p.entries sep ∧ (p.entries sep).filter (· ≠ thisDir) = [] then [""]
      else (p.entries sep).filter (· ≠ thisDir) := by
  by_cases h : thisDir ∈ p.entries sep
  · obtain ⟨path, hpath⟩ := exists_path h
    have hentries : p.entries sep = split sep path := by simp [Process.entries, hpath]
    rw [hidden, if_pos h]
    simp only [h, true_and]
    rw [hentries]
    exact split_join_filter sep path _
  · have hothers : (p.entries sep).filter (· ≠ thisDir) = p.entries sep := by
      refine List.filter_eq_self.mpr fun entry hentry => ?_
      have hne : entry ≠ thisDir := fun heq => h (heq ▸ hentry)
      simpa using hne
    rw [hothers, if_neg fun hboth => h hboth.1, hidden, if_neg h]

/-- **Hiding this directory is exact and reversible.** The code inside of `_strip_path` finds no
entry that is this directory, and the other entries as they were; when it is left, by whatever
the code did, `PYTHONPATH` is what it was if this directory was an entry, and otherwise what the
code made of it. -/
theorem hidden_and_restored (hdir : thisDir ≠ "") (p : Process H) :
    ∃ inside : Process H,
      (thisDir ∉ inside.entries sep ∧
        (inside.entries sep).filter (· ≠ "") =
          ((p.entries sep).filter (· ≠ thisDir)).filter (· ≠ "") ∧
        (∀ name ≠ "PYTHONPATH", inside.environ name = p.environ name) ∧
        (thisDir ∉ p.entries sep → inside = p)) ∧
      ∀ {α : Type} (body : Eff Exn (Process H) α),
        let left := (body inside).2
        let final := (stripPath sep thisDir body p).2
        (stripPath sep thisDir body p).1 = (body inside).1 ∧
          (thisDir ∈ p.entries sep → final.environ "PYTHONPATH" = p.environ "PYTHONPATH" ∧
            ∀ name ≠ "PYTHONPATH", final.environ name = left.environ name) ∧
          (thisDir ∉ p.entries sep → final = left) := by
  refine ⟨hidden sep thisDir p, ⟨?_, ?_, fun name hname => ?_, fun h => if_neg h⟩, fun body => ?_⟩
  · rw [entries_hidden p]
    split
    · simpa using hdir
    · simp
  · rw [entries_hidden p]
    split
    case isTrue h => rw [h.2]; rfl
    case isFalse h => rfl
  · unfold hidden
    split
    · exact Process.environ_setenv_of_ne _ _ hname
    · rfl
  · rw [stripPath_apply hdir body p]
    refine ⟨rfl, fun h => ?_, fun h => if_neg h⟩
    obtain ⟨path, hpath⟩ := exists_path h
    simp only [restored, if_pos h, hpath]
    exact ⟨Process.environ_setenv_self _ _ _,
      fun name hname => Process.environ_setenv_of_ne _ _ hname⟩

end

/-! ### An entry first and last -/

/-- A process with a directory twice in its search path. -/
def doubled : Process Unit where
  environ name := if name = "PYTHONPATH" then some "/otel:/lib:/otel" else none
  forkhookInstalled := false
  forkhooks := 0
  bound _ _ := none
  host := ()

def unsetting : Eff Exn (Process Unit) Unit := do
  modifies fun p => { p with environ := fun _ => none }
  raise (exn "ValueError" "")

theorem hidden_and_restored_doubled :
    ∃ inside : Process Unit, "/otel" ∉ inside.entries ':' ∧
      (inside.entries ':').filter (· ≠ "") = ["/lib"] ∧
      (stripPath ':' "/otel" unsetting doubled).1 = .error (exn "ValueError" "") ∧
      (stripPath ':' "/otel" unsetting doubled).2.environ "PYTHONPATH" =
        some "/otel:/lib:/otel" := by
  have hdir : "/otel" ≠ "" := by decide
  have hentry : "/otel" ∈ doubled.entries ':' := by decide
  obtain ⟨inside, ⟨hgone, hothers, -, -⟩, hrun⟩ :=
    @hidden_and_restored Unit ':' "/otel" hdir doubled
  obtain ⟨hout, hback, -⟩ := hrun unsetting
  exact ⟨inside, hgone, hothers.trans (by decide), hout, (hback hentry).1⟩

end OtelOpenstack.Eventlet
