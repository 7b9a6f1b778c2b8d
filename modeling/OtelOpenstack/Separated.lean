import Mathlib.Data.List.Basic
import Mathlib.Tactic.Common

/-!
Texts that are lists of entries with a separator between them.

Splitting and joining undo each other, but for one case: the text of no entries is the text of
one empty entry.
-/

namespace OtelOpenstack.Separated

/-- No piece has the separator in it. -/
lemma not_mem_of_mem_splitOn {α : Type*} [DecidableEq α] {sep : α} {xs piece : List α}
    (h : piece ∈ xs.splitOn sep) : sep ∉ piece := by
  induction xs generalizing piece with
  | nil =>
    have hnil : piece = [] := by simpa using h
    simp [hnil]
  | cons x xs ih =>
    rw [List.splitOn_cons_eq_if_modifyHead] at h
    by_cases hx : x = sep
    · rw [if_pos (by simpa using hx)] at h
      rcases List.mem_cons.mp h with rfl | hmem
      · exact List.not_mem_nil
      · exact ih hmem
    · rw [if_neg (by simpa using hx)] at h
      obtain ⟨first, rest, hsplit⟩ := List.exists_cons_of_ne_nil (List.splitOn_ne_nil sep xs)
      rw [hsplit, List.modifyHead_cons] at h
      rw [hsplit] at ih
      rcases List.mem_cons.mp h with rfl | hmem
      · have hfirst := ih (List.mem_cons_self ..)
        simp [Ne.symm hx, hfirst]
      · exact ih (List.mem_cons_of_mem _ hmem)

/-- `s.split(sep)`. -/
def split (sep : Char) (s : String) : List String := (s.toList.splitOn sep).map String.ofList

/-- `sep.join(entries)`. -/
def join (sep : Char) (entries : List String) : String :=
  String.ofList ([sep].intercalate (entries.map String.toList))

@[simp] lemma split_empty (sep : Char) : split sep "" = [""] := rfl

@[simp] lemma join_nil (sep : Char) : join sep [] = "" := rfl

lemma not_mem_of_mem_split {sep : Char} {s entry : String} (h : entry ∈ split sep s) :
    sep ∉ entry.toList := by
  obtain ⟨piece, hpiece, rfl⟩ := List.mem_map.mp h
  rw [String.toList_ofList]
  exact not_mem_of_mem_splitOn hpiece

/-- Entries without the separator are read back, if there are any. -/
lemma split_join {sep : Char} {entries : List String} (hsep : ∀ entry ∈ entries, sep ∉ entry.toList)
    (hne : entries ≠ []) : split sep (join sep entries) = entries := by
  have hpieces : ∀ piece ∈ entries.map String.toList, sep ∉ piece := by
    intro piece hpiece
    obtain ⟨entry, hentry, rfl⟩ := List.mem_map.mp hpiece
    exact hsep entry hentry
  have hsome : entries.map String.toList ≠ [] := by simpa using hne
  rw [split, join, String.toList_ofList, List.splitOn_intercalate sep hpieces hsome, List.map_map]
  simp [Function.comp_def]

/-- **Leaving entries out.** What is read back of a text some entries were taken out of is the
others, or one empty entry where there are no others. -/
theorem split_join_filter (sep : Char) (s : String) (keep : String → Bool) :
    split sep (join sep ((split sep s).filter keep)) =
      if (split sep s).filter keep = [] then [""] else (split sep s).filter keep := by
  by_cases h : (split sep s).filter keep = []
  · rw [if_pos h, h, join_nil, split_empty]
  · rw [if_neg h]
    exact split_join (fun entry hentry => not_mem_of_mem_split (List.mem_filter.mp hentry).1) h

end OtelOpenstack.Separated
