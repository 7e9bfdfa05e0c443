import Mathlib.Data.List.Induction
import Crosswalk.Diagnostics

/-! What a collection of diagnostics holds: all that was put into it, and nothing else. -/

namespace Crosswalk.Diagnostics

theorem mem_extend (ds : Diagnostics) (items : List Diagnostic) (d : Diagnostic) :
    d ∈ (ds.extend items).toList ↔ d ∈ ds.toList ∨ d ∈ items := by
  induction items generalizing ds with
  | nil => simp [extend]
  | cons first rest ih =>
    rw [show ds.extend (first :: rest) = (ds.add first).extend rest from rfl, ih, mem_add,
      List.mem_cons, or_assoc]

theorem mem_ofList (items : List Diagnostic) (d : Diagnostic) :
    d ∈ (ofList items).toList ↔ d ∈ items := by
  rw [ofList, mem_extend]
  exact or_iff_right List.not_mem_nil

/-- Extending by what is there changes nothing. -/
theorem extend_of_subset (ds : Diagnostics) (items : List Diagnostic)
    (h : ∀ d ∈ items, d ∈ ds.toList) : ds.extend items = ds := by
  induction items with
  | nil => rfl
  | cons first rest ih =>
    have hfirst : ds.add first = ds := add_of_mem ds first (h first List.mem_cons_self)
    have hrest := ih fun d hd => h d (List.mem_cons_of_mem first hd)
    rw [show ds.extend (first :: rest) = (ds.add first).extend rest from rfl, hfirst, hrest]

theorem hasErrors_iff (ds : Diagnostics) : ds.hasErrors = true ↔ ∃ d, d ∈ ds.toList := by
  unfold hasErrors
  cases ds.toList <;> simp

theorem ofList_append_singleton (items : List Diagnostic) (d : Diagnostic) :
    (ofList (items ++ [d])).toList =
      if d ∈ items then (ofList items).toList else (ofList items).toList ++ [d] := by
  have hadd : ofList (items ++ [d]) = (ofList items).add d := extend_append empty items [d]
  simp only [hadd, toList_add, mem_ofList]

/-- Lists that repeat themselves at the same places are cut down at the same places. -/
theorem map_ofList_eq {α : Type} (f : Diagnostic → α) (pairs : List (Diagnostic × Diagnostic))
    (hf : ∀ z ∈ pairs, f z.1 = f z.2)
    (hsame : ∀ z ∈ pairs, ∀ z' ∈ pairs, z.1 = z'.1 ↔ z.2 = z'.2) :
    (ofList (pairs.map (·.1))).toList.map f = (ofList (pairs.map (·.2))).toList.map f := by
  induction pairs using List.reverseRecOn with
  | nil => rfl
  | append_singleton pairs last ih =>
    have hlast : last ∈ pairs ++ [last] := List.mem_append_right _ (List.mem_singleton_self last)
    have ih := ih (fun z hz => hf z (List.mem_append_left _ hz))
      fun z hz z' hz' => hsame z (List.mem_append_left _ hz) z' (List.mem_append_left _ hz')
    have hseen : last.1 ∈ pairs.map (·.1) ↔ last.2 ∈ pairs.map (·.2) := by
      rw [List.mem_map, List.mem_map]
      refine exists_congr fun z => and_congr_right fun hz => ?_
      exact hsame z (List.mem_append_left _ hz) last hlast
    rw [List.map_append, List.map_append, List.map_singleton, List.map_singleton,
      ofList_append_singleton, ofList_append_singleton]
    by_cases hfirst : last.1 ∈ pairs.map (·.1)
    · rw [if_pos hfirst, if_pos (hseen.mp hfirst), ih]
    · rw [if_neg hfirst, if_neg fun h => hfirst (hseen.mpr h), List.map_append, List.map_append, ih,
        List.map_singleton, List.map_singleton, hf last hlast]

end Crosswalk.Diagnostics
