import Crosswalk.Text.Compatibility
import Crosswalk.Text.Lowercase

/-! The tables of compatible forms and of lower case, and the dot. Whatever they send a character to comes
after the dot among the code points; the texts of the tables are gone through entry by entry. -/

namespace Crosswalk.Text

/-- A text of code points after the dot: neither blanks nor line ends nor quotes are among them. -/
def BeyondDot (t : List CodePoint) : Prop := ∀ c ∈ t, 0x2e < c

/-- An entry that sends characters beyond the dot. -/
def sendsBeyondDot (e : List Char) : Bool := Nat.ble 0x2f (Range.ofEntry e).target

def partsBeyondDot (e : List Char) : Bool := (partsOf e).2.all (Nat.ble 0x2f)

def composesBeyondDot (e : List Char) : Bool := Nat.ble 0x2f (compositionOf e).2

/-- What holds of the words of a list of characters holds of the entries of its text. -/
theorem entries_cons (text : String) (rest : List String) (l : List Char) (p : List Char → Bool)
    (h : text = String.ofList l) (hwords : (words l).all p = true)
    (hrest : ∀ t ∈ rest, ∀ e ∈ entries t, p e = true) :
    ∀ t ∈ text :: rest, ∀ e ∈ entries t, p e = true := by
  intro t ht e he
  rcases List.mem_cons.mp ht with rfl | htail
  · rw [h, entries, String.toList_ofList] at he
    exact List.all_eq_true.mp hwords e he
  · exact hrest t htail e he

set_option maxRecDepth 100000 in
theorem narrowTexts_beyond_dot :
    ∀ t ∈ narrowTexts, ∀ e ∈ entries t, sendsBeyondDot e = true := by
  unfold narrowTexts
  repeat' refine entries_cons _ _ _ sendsBeyondDot rfl (by decide +kernel) ?_
  exact List.forall_mem_nil _

set_option maxRecDepth 100000 in
theorem partsTexts_beyond_dot : ∀ t ∈ partsTexts, ∀ e ∈ entries t, partsBeyondDot e = true := by
  unfold partsTexts
  repeat' refine entries_cons _ _ _ partsBeyondDot rfl (by decide +kernel) ?_
  exact List.forall_mem_nil _

set_option maxRecDepth 100000 in
theorem composedTexts_beyond_dot :
    ∀ t ∈ composedTexts, ∀ e ∈ entries t, composesBeyondDot e = true := by
  unfold composedTexts
  repeat' refine entries_cons _ _ _ composesBeyondDot rfl (by decide +kernel) ?_
  exact List.forall_mem_nil _

theorem lt_send (text : String) (hentries : ∀ e ∈ entries text, sendsBeyondDot e = true) (r : Range)
    (hr : r ∈ Ranges.ofText text) (c : CodePoint) : 0x2e < r.send c := by
  obtain ⟨e, he, rfl⟩ := List.mem_map.mp hr
  exact Nat.lt_of_lt_of_le (Nat.ble_eq.mp (hentries e he)) (Nat.le_add_right _ _)

theorem beyond_dot_of_narrow (c d : CodePoint) (h : narrowRanges.find? c = some d) : 0x2e < d := by
  obtain ⟨r, hr, rfl⟩ := Option.map_eq_some_iff.mp h
  obtain ⟨t, ht, hrt⟩ := List.mem_flatMap.mp (List.mem_of_find?_eq_some hr)
  exact lt_send t (narrowTexts_beyond_dot t ht) r hrt c

theorem beyond_dot_of_parts (c : CodePoint) (parts : List CodePoint)
    (h : partsTable.lookup c = some parts) : BeyondDot parts := by
  obtain ⟨before, after, htable, -⟩ := List.lookup_eq_some_iff.mp h
  have hmem : (c, parts) ∈ partsTable := by simp [htable]
  obtain ⟨e, he, heq⟩ := List.mem_map.mp hmem
  obtain ⟨t, ht, het⟩ := List.mem_flatMap.mp he
  have hparts := partsTexts_beyond_dot t ht e het
  unfold partsBeyondDot at hparts
  rw [heq] at hparts
  exact fun d hd => Nat.ble_eq.mp (List.all_eq_true.mp hparts d hd)

theorem exists_entry_of_composed (a b d : CodePoint) (h : composedTable.lookup (a, b) = some d) :
    ∃ t ∈ composedTexts, ∃ e ∈ entries t, compositionOf e = ((a, b), d) := by
  obtain ⟨before, after, htable, -⟩ := List.lookup_eq_some_iff.mp h
  have hmem : ((a, b), d) ∈ composedTable := by simp [htable]
  obtain ⟨e, he, heq⟩ := List.mem_map.mp hmem
  obtain ⟨t, ht, het⟩ := List.mem_flatMap.mp he
  exact ⟨t, ht, e, het, heq⟩

theorem beyond_dot_of_composed (a b d : CodePoint) (h : composedTable.lookup (a, b) = some d) :
    0x2e < d := by
  obtain ⟨t, ht, e, he, heq⟩ := exists_entry_of_composed a b d h
  have hcomposed := composedTexts_beyond_dot t ht e he
  unfold composesBeyondDot at hcomposed
  rw [heq] at hcomposed
  exact Nat.ble_eq.mp hcomposed

set_option maxRecDepth 100000 in
theorem beyond_dot_of_lower (c d : CodePoint) (h : lowerRanges.find? c = some d) : 0x2e < d := by
  obtain ⟨r, hr, rfl⟩ := Option.map_eq_some_iff.mp h
  have hmem := List.mem_of_find?_eq_some hr
  unfold lowerRanges at hmem
  refine lt_send _ ?_ r hmem c
  refine entries_cons _ [] _ sendsBeyondDot rfl (by decide +kernel) ?_ _ List.mem_cons_self
  exact List.forall_mem_nil _

end Crosswalk.Text
