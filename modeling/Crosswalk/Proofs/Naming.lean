import Crosswalk.Naming
import Crosswalk.Proofs.Text.Lines

/-! Words apart, in lower case. Neither step makes a character up to the dot that was not there before, so that
a text on one line stays on one line. -/

namespace Crosswalk

namespace Text

theorem toLower_of_isLow (c : Char) (hc : c.toNat < 0x80) (h : IsLow c.toLower) : c.toLower = c := by
  have hall : ∀ n : Fin 0x80,
      IsLow (Char.ofNat n).toLower → (Char.ofNat n).toLower = Char.ofNat n := by decide
  have hc' := hall ⟨c.toNat, hc⟩
  rw [show Char.ofNat (⟨c.toNat, hc⟩ : Fin 0x80) = c from Char.ofNat_toNat c] at hc'
  exact hc' h

theorem lowerChar_of_isLow (c : Char) (h : IsLow (lowerChar c)) : lowerChar c = c := by
  unfold lowerChar at h ⊢
  split at h
  · rename_i hc
    rw [if_pos hc]
    exact toLower_of_isLow c hc h
  · rename_i hc
    rw [if_neg hc]
    cases hfind : lowerRanges.find? c.toNat with
    | none => rfl
    | some d =>
      rw [hfind] at h
      exact absurd rfl (ofNat_ne_of_isLow d _ (beyond_dot_of_lower _ d hfind) h)

theorem mem_of_mem_lowerFrom (before l : List Char) (d : Char) (hd : IsLow d)
    (h : d ∈ lowerFrom before l) : d ∈ l := by
  induction l generalizing before with
  | nil => exact h
  | cons c rest ih =>
    unfold lowerFrom at h
    dsimp only at h
    rcases List.mem_append.mp h with h | h
    · split at h
      · refine absurd (List.mem_singleton.mp h).symm (ofNat_ne_of_isLow _ d ?_ hd)
        split <;> decide
      split at h
      · rcases List.mem_cons.mp h with rfl | h
        · exact absurd hd (by decide)
        · exact absurd (List.mem_singleton.mp h).symm (ofNat_ne_of_isLow _ d (by decide) hd)
      · rw [List.mem_singleton] at h
        rw [h, lowerChar_of_isLow c (h ▸ hd)]
        exact List.mem_cons_self
    · exact List.mem_cons_of_mem c (ih _ h)

end Text

namespace Naming

open Text

theorem mem_of_mem_separated (before : Option Char) (l : List Char) (d : Char) (hd : IsLow d)
    (h : d ∈ separated before l) : d ∈ l := by
  induction l generalizing before with
  | nil => exact h
  | cons c rest ih =>
    have hword : ∀ boundary : Bool, d ∈ (if boundary then ['_', c] else [c]) → d = c := by
      rintro (_ | _) h
      · exact List.mem_singleton.mp h
      · rcases List.mem_cons.mp h with rfl | h
        · exact absurd hd (by decide)
        · exact List.mem_singleton.mp h
    unfold separated at h
    rcases List.mem_append.mp h with h | h
    · rw [hword _ h]
      exact List.mem_cons_self
    · exact List.mem_cons_of_mem c (ih _ h)

theorem oneLine_snakeCase (identifier : String) (h : OneLine identifier) :
    OneLine (snakeCase identifier) := by
  have hlow : ∀ d, IsLow d → d ∈ (snakeCase identifier).toList → d ∈ identifier.toList := by
    intro d hd hmem
    unfold snakeCase lowercase at hmem
    rw [String.toList_ofList, String.toList_ofList] at hmem
    exact mem_of_mem_separated none _ d hd (mem_of_mem_lowerFrom [] _ d hd hmem)
  intro c hc
  constructor
  · rintro rfl
    exact (h _ (hlow _ (by decide) hc)).1 rfl
  · rintro rfl
    exact (h _ (hlow _ (by decide) hc)).2 rfl

end Naming
end Crosswalk
