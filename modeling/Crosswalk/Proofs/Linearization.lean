import Mathlib.Data.List.Nodup
import Crosswalk.Linearization

/-! What one order is made of. An order merged from others holds what they hold, nothing twice, and keeps
each of them in sequence. -/

namespace Crosswalk.Linearization

variable {α : Type} [DecidableEq α]

/-- One order that keeps several. -/
structure Merged (lists : List (List α)) (r : List α) : Prop where
  nodup : r.Nodup
  origin : ∀ a ∈ r, ∃ l ∈ lists, a ∈ l
  keeps : ∀ l ∈ lists, l.Sublist r

omit [DecidableEq α] in
theorem mem_heads (lists : List (List α)) (a : α) (h : a ∈ heads lists) :
    ∃ rest, a :: rest ∈ lists := by
  obtain ⟨l, hl, hhead⟩ := List.mem_filterMap.mp h
  cases l with
  | nil => cases hhead
  | cons b rest =>
    cases hhead
    exact ⟨rest, hl⟩

theorem mem_of_mem_dropHead (a b : α) (l : List α) (h : b ∈ dropHead a l) : b ∈ l := by
  unfold dropHead at h
  split at h
  · exact List.mem_of_mem_drop h
  · exact h

/-- What comes next is nowhere left once it has been taken. -/
theorem not_mem_dropHead (lists : List (List α)) (a : α) (hfree : isFree lists a = true) (l : List α)
    (hl : l ∈ lists) : a ∉ dropHead a l := by
  have htail : a ∉ l.drop 1 := by simpa using List.all_eq_true.mp hfree l hl
  unfold dropHead
  cases l with
  | nil => simp
  | cons b rest =>
    by_cases hb : b = a
    · simpa [hb] using htail
    · simpa [hb, Ne.symm hb] using htail

theorem sublist_of_dropHead (a : α) (l r : List α) (h : (dropHead a l).Sublist r) :
    l.Sublist (a :: r) := by
  unfold dropHead at h
  cases l with
  | nil => exact List.nil_sublist _
  | cons b rest =>
    by_cases hb : b = a
    · subst hb
      exact (by simpa using h : rest.Sublist r).cons_cons b
    · exact (by simpa [hb] using h : (b :: rest).Sublist r).cons a

theorem length_dropHead_le (a : α) (l : List α) : (dropHead a l).length ≤ l.length := by
  unfold dropHead
  split
  · simp
  · exact Nat.le_refl _

theorem length_flatten_dropHead_le (a : α) (lists : List (List α)) :
    (lists.map (dropHead a)).flatten.length ≤ lists.flatten.length := by
  induction lists with
  | nil => exact Nat.le_refl _
  | cons l rest ih =>
    have := length_dropHead_le a l
    rw [List.map_cons, List.flatten_cons, List.flatten_cons, List.length_append, List.length_append]
    omega

/-- Taking a head makes the orders shorter. -/
theorem length_flatten_dropHead_lt (a : α) (rest : List α) (lists : List (List α))
    (h : a :: rest ∈ lists) :
    (lists.map (dropHead a)).flatten.length < lists.flatten.length := by
  induction lists with
  | nil => cases h
  | cons l others ih =>
    rw [List.map_cons, List.flatten_cons, List.flatten_cons, List.length_append, List.length_append]
    rcases List.mem_cons.mp h with rfl | h
    · have := length_flatten_dropHead_le a others
      have : (dropHead a (a :: rest)).length = rest.length := by simp [dropHead]
      rw [List.length_cons]
      omega
    · have := ih h
      have := length_dropHead_le a l
      omega

/-- By induction on the fuel, of which each step takes one, as it takes a head. -/
theorem merged_of_merge (fuel : Nat) (lists : List (List α)) (r : List α)
    (h : merge fuel lists = .ok r) (hfuel : lists.flatten.length < fuel) : Merged lists r := by
  induction fuel generalizing lists r with
  | zero => omega
  | succ fuel ih =>
    unfold merge at h
    split at h
    · rename_i a hfound
      have hfree : isFree lists a = true := List.find?_some hfound
      obtain ⟨rest, hrest⟩ := mem_heads lists a (List.mem_of_find?_eq_some hfound)
      have hlength := length_flatten_dropHead_lt a rest lists hrest
      cases hmerge : merge fuel (lists.map (dropHead a)) with
      | error conflict =>
        rw [hmerge] at h
        cases h
      | ok tail =>
        rw [hmerge] at h
        cases h
        obtain ⟨hnodup, horigin, hkeeps⟩ := ih _ tail hmerge (by omega)
        refine ⟨List.nodup_cons.mpr ⟨?_, hnodup⟩, ?_, ?_⟩
        · intro hmem
          obtain ⟨_, hdropped, ha⟩ := horigin a hmem
          obtain ⟨l, hl, rfl⟩ := List.mem_map.mp hdropped
          exact not_mem_dropHead lists a hfree l hl ha
        · intro b hb
          rcases List.mem_cons.mp hb with rfl | hb
          · exact ⟨_, hrest, List.mem_cons_self⟩
          · obtain ⟨_, hdropped, hmem⟩ := horigin b hb
            obtain ⟨l, hl, rfl⟩ := List.mem_map.mp hdropped
            exact ⟨l, hl, mem_of_mem_dropHead a b l hmem⟩
        · intro l hl
          exact sublist_of_dropHead a l tail (hkeeps _ (List.mem_map_of_mem hl))
    · split at h
      · rename_i hempty
        cases h
        have hnil : ∀ l ∈ lists, l = [] := by
          simpa [heads] using hempty
        exact ⟨List.nodup_nil, nofun, fun l hl => by simp [hnil l hl]⟩
      · cases h

theorem merged_ofBases (bases : List (α × List α)) (r : List α) (h : ofBases bases = .ok r) :
    Merged (bases.map (·.2) ++ [bases.map (·.1)]) r :=
  merged_of_merge _ _ r h (Nat.lt_succ_self _)

end Crosswalk.Linearization
