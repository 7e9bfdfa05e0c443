import Crosswalk.Code.Token
import Crosswalk.Proofs.Text.Tables

/-! The characters of names come after the dot. None is written with another, and neither taking characters
apart nor composing them makes one; so a name holds no dot, no blank and no line end. -/

namespace Crosswalk.Text

theorem beyondDot_cons (c : CodePoint) (t : List CodePoint) (hc : 0x2e < c) (ht : BeyondDot t) :
    BeyondDot (c :: t) := List.forall_mem_cons.mpr ⟨hc, ht⟩

theorem beyondDot_syllableParts (c : CodePoint) : BeyondDot (syllableParts c) := by
  unfold BeyondDot syllableParts CodePoint
  intro d h
  dsimp only at h
  split at h
  · rcases List.mem_cons.mp h with rfl | h
    · omega
    · rw [List.mem_singleton.mp h]
      omega
  · rcases List.mem_cons.mp h with rfl | h
    · omega
    rcases List.mem_cons.mp h with rfl | h
    · omega
    · rw [List.mem_singleton.mp h]
      omega

theorem beyondDot_decompose (c : CodePoint) (hc : 0x2e < c) : BeyondDot (decompose c) := by
  have hself : BeyondDot [c] := List.forall_mem_singleton.mpr hc
  unfold decompose
  split
  · exact hself
  split
  · exact beyondDot_syllableParts c
  split
  · rename_i d hd
    exact beyondDot_cons d [] (beyond_dot_of_narrow c d hd) (List.forall_mem_nil _)
  · cases hparts : partsTable.lookup c with
    | none => exact hself
    | some parts => exact beyond_dot_of_parts c parts hparts

theorem mem_insertMark (c x : CodePoint) (t : List CodePoint) (h : x ∈ insertMark c t) :
    x = c ∨ x ∈ t := by
  induction t with
  | nil => exact .inl (List.mem_singleton.mp h)
  | cons d rest ih =>
    unfold insertMark at h
    split at h
    · rcases List.mem_cons.mp h with rfl | htail
      · exact .inr List.mem_cons_self
      · exact (ih htail).imp id (List.mem_cons_of_mem d)
    · exact List.mem_cons.mp h

theorem beyondDot_orderMarks (t : List CodePoint) (h : BeyondDot t) : BeyondDot (orderMarks t) := by
  have hfold : ∀ (t acc : List CodePoint), BeyondDot t → BeyondDot acc →
      BeyondDot (t.foldl (fun acc c => insertMark c acc) acc) := by
    intro t
    induction t with
    | nil => exact fun acc _ hacc => hacc
    | cons c rest ih =>
      intro acc ht hacc
      refine ih _ (fun x hx => ht x (List.mem_cons_of_mem c hx)) ?_
      intro x hx
      rcases mem_insertMark c x acc hx with rfl | hx
      · exact ht x List.mem_cons_self
      · exact hacc x hx
  intro x hx
  exact hfold t [] h (fun _ hx => nomatch hx) x (List.mem_reverse.mp hx)

theorem beyond_dot_of_compose (a b d : Nat) (h : compose? a b = some d) : 0x2e < d := by
  unfold compose? at h
  split at h
  · rw [← Option.some.inj h]
    omega
  split at h
  · rename_i hsyllable
    have ha : 0xac00 ≤ a := hsyllable.1
    rw [← Option.some.inj h]
    omega
  · exact beyond_dot_of_composed a b d h

/-- The starter may change, the marks passed over are kept, and the rest is taken in. -/
theorem beyondDot_composeFrom (starter : CodePoint) (skipped t : List CodePoint)
    (hstarter : 0x2e < starter) (hskipped : BeyondDot skipped) (ht : BeyondDot t) :
    BeyondDot (composeFrom starter skipped t) := by
  induction t generalizing starter skipped with
  | nil =>
    intro x hx
    rcases List.mem_cons.mp hx with rfl | hx
    · exact hstarter
    · exact hskipped x (List.mem_reverse.mp hx)
  | cons c rest ih =>
    have hc := ht c List.mem_cons_self
    have hrest : BeyondDot rest := fun x hx => ht x (List.mem_cons_of_mem c hx)
    unfold composeFrom
    dsimp only
    split
    · rename_i d hd
      have hcompose := (Option.ite_none_right_eq_some.mp hd).2
      exact ih d skipped (beyond_dot_of_compose starter c d hcompose) hskipped hrest
    · split
      · intro x hx
        rw [List.cons_append, List.mem_cons, List.mem_append, List.mem_reverse] at hx
        rcases hx with rfl | hx | hx
        · exact hstarter
        · exact hskipped x hx
        · exact ih c [] hc (fun _ hx => nomatch hx) hrest x hx
      · refine ih starter (c :: skipped) hstarter ?_ hrest
        intro x hx
        rcases List.mem_cons.mp hx with rfl | hx
        · exact hc
        · exact hskipped x hx

theorem beyondDot_composeAll (t : List CodePoint) (h : BeyondDot t) : BeyondDot (composeAll t) := by
  induction t with
  | nil => exact h
  | cons c rest ih =>
    have hc := h c List.mem_cons_self
    have hrest : BeyondDot rest := fun x hx => h x (List.mem_cons_of_mem c hx)
    unfold composeAll
    split
    · exact beyondDot_composeFrom c [] rest hc (fun _ hx => nomatch hx) hrest
    · intro x hx
      rcases List.mem_cons.mp hx with rfl | hx
      · exact hc
      · exact ih hrest x hx

theorem beyondDot_compatible (t : List CodePoint) (h : BeyondDot t) : BeyondDot (compatible t) := by
  unfold compatible
  split
  · exact h
  · refine beyondDot_composeAll _ (beyondDot_orderMarks _ ?_)
    intro x hx
    obtain ⟨c, hc, hxc⟩ := List.mem_flatMap.mp hx
    exact beyondDot_decompose c (h c hc) x hxc

theorem beyond_dot_of_isIdentifierPart (c : Nat) (h : isIdentifierPart c = true) : 0x2e < c := by
  unfold isIdentifierPart at h
  by_cases hc : c < 0x80
  · rw [if_pos hc] at h
    simp only [isAsciiLetter, isAsciiDigit, CodePoint, Bool.or_eq_true, Bool.and_eq_true,
      decide_eq_true_eq, beq_iff_eq] at h
    omega
  · omega

theorem beyond_dot_of_isIdentifierStart (c : Nat) (h : isIdentifierStart c = true) : 0x2e < c := by
  by_cases hc : c < 0x80
  · exact beyond_dot_of_isIdentifierPart c (isIdentifierPart_of_start c hc h)
  · omega

/-! Characters -/

/-- The characters up to the dot; the null character also stands for what is no character. -/
def IsLow (c : Char) : Prop := 0 < c.toNat ∧ c.toNat ≤ 0x2e

instance (c : Char) : Decidable (IsLow c) := inferInstanceAs (Decidable (_ ∧ _))

theorem ofNat_ne_of_isLow (n : Nat) (d : Char) (hn : 0x2e < n) (hd : IsLow d) :
    Char.ofNat n ≠ d := by
  intro h
  have heq := eq_toNat_of_ofNat n d hd.1 h
  have hlow := hd.2
  omega

theorem not_mem_ofCodePoints (t : List CodePoint) (d : Char) (ht : BeyondDot t) (hd : IsLow d) :
    d ∉ (ofCodePoints t).toList := by
  unfold ofCodePoints
  rw [String.toList_ofList]
  intro hmem
  obtain ⟨c, hc, heq⟩ := List.mem_map.mp hmem
  exact ofNat_ne_of_isLow c d (ht c hc) hd heq

end Crosswalk.Text

namespace Crosswalk.Code

open Text

theorem beyondDot_of_isSpelling (spelling : String) (h : isSpelling spelling = true) :
    BeyondDot (codePoints spelling) := by
  unfold isSpelling at h
  split at h
  · cases h
  · rename_i c rest hpoints
    rw [Bool.and_eq_true] at h
    rw [hpoints]
    exact beyondDot_cons c rest (beyond_dot_of_isIdentifierStart c h.1) fun x hx =>
      beyond_dot_of_isIdentifierPart x (List.all_eq_true.mp h.2 x hx)

/-- No name holds a character up to the dot. -/
theorem not_mem_of_isName (name : String) (d : Char) (h : IsName name) (hd : IsLow d) :
    d ∉ name.toList := by
  obtain ⟨spelling, hspelling, rfl⟩ := h
  exact not_mem_ofCodePoints _ d (beyondDot_compatible _ (beyondDot_of_isSpelling spelling hspelling))
    hd

end Crosswalk.Code
