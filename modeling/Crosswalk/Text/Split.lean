/-! Cutting a list at separators, gluing the pieces back, and trimming both ends. The main facts:
the pieces hold no separator, and glued together again they are the list; pieces that hold no separator
are found again where they were glued. -/

namespace Crosswalk.Text

def pieces {α : Type} (sep : α → Bool) : List α → List (List α)
  | [] => [[]]
  | x :: xs =>
    if sep x then [] :: pieces sep xs
    else match pieces sep xs with
      | [] => [[x]]
      | h :: t => (x :: h) :: t

def glue {α : Type} (sep : α) : List (List α) → List α
  | [] => []
  | [p] => p
  | p :: q :: rest => p ++ sep :: glue sep (q :: rest)

def trimLeft {α : Type} (p : α → Bool) (l : List α) : List α := l.dropWhile p

def trim {α : Type} (p : α → Bool) (l : List α) : List α :=
  (trimLeft p (trimLeft p l).reverse).reverse

/-- Whether a list stands somewhere inside another. -/
def occurs {α : Type} [BEq α] (p : List α) : List α → Bool
  | [] => p.isEmpty
  | x :: xs => p.isPrefixOf (x :: xs) || occurs p xs

theorem pieces_ne_nil {α : Type} (sep : α → Bool) (l : List α) : pieces sep l ≠ [] := by
  cases l with
  | nil => simp [pieces]
  | cons x xs =>
    by_cases h : sep x
    · simp [pieces, h]
    · simp only [pieces, h]
      cases pieces sep xs <;> simp

theorem pieces_free {α : Type} (sep : α → Bool) (l : List α) :
    ∀ p ∈ pieces sep l, ∀ x ∈ p, sep x = false := by
  induction l with
  | nil => simp [pieces]
  | cons x xs ih =>
    by_cases h : sep x
    · simpa [pieces, h] using ih
    · have h' : sep x = false := by simpa using h
      cases hp : pieces sep xs with
      | nil => exact absurd hp (pieces_ne_nil sep xs)
      | cons q rest =>
        rw [hp] at ih
        intro p hm y hy
        simp only [pieces, h, hp] at hm
        rcases List.mem_cons.1 hm with rfl | hm
        · rcases List.mem_cons.1 hy with rfl | hy
          · exact h'
          · exact ih q (by simp) y hy
        · exact ih p (by simp [hm]) y hy

theorem glue_pieces {α : Type} [DecidableEq α] (s : α) (l : List α) :
    glue s (pieces (· == s) l) = l := by
  induction l with
  | nil => rfl
  | cons x xs ih =>
    cases hp : pieces (· == s) xs with
    | nil => exact absurd hp (pieces_ne_nil _ xs)
    | cons q rest =>
      rw [hp] at ih
      by_cases h : x = s
      · subst h
        simp [pieces, hp, glue, ih]
      · have h' : (x == s) = false := by simpa using h
        cases rest with
        | nil => simpa [pieces, hp, h', glue] using ih
        | cons r rest => simpa [pieces, hp, h', glue] using ih

theorem pieces_of_not_mem {α : Type} [DecidableEq α] (s : α) (p : List α) (hp : s ∉ p) :
    pieces (· == s) p = [p] := by
  induction p with
  | nil => rfl
  | cons x p ih =>
    rw [List.mem_cons, not_or] at hp
    have hx : (x == s) = false := beq_eq_false_iff_ne.mpr (Ne.symm hp.1)
    simp [pieces, hx, ih hp.2]

theorem pieces_append {α : Type} [DecidableEq α] (s : α) (p rest : List α) (hp : s ∉ p) :
    pieces (· == s) (p ++ s :: rest) = p :: pieces (· == s) rest := by
  induction p with
  | nil => simp [pieces]
  | cons x p ih =>
    rw [List.mem_cons, not_or] at hp
    have hx : (x == s) = false := beq_eq_false_iff_ne.mpr (Ne.symm hp.1)
    simp [pieces, hx, ih hp.2]

/-- Pieces without the separator are found again where they were glued. -/
theorem pieces_glue {α : Type} [DecidableEq α] (s : α) (ps : List (List α)) (hne : ps ≠ [])
    (hfree : ∀ p ∈ ps, s ∉ p) : pieces (· == s) (glue s ps) = ps := by
  induction ps with
  | nil => exact absurd rfl hne
  | cons p rest ih =>
    have hp := hfree p List.mem_cons_self
    cases rest with
    | nil => exact pieces_of_not_mem s p hp
    | cons q rest =>
      rw [glue, pieces_append s p _ hp,
        ih (List.cons_ne_nil _ _) fun r hr => hfree r (List.mem_cons_of_mem p hr)]

theorem toList_intercalate (mark : String) (c : Char) (hmark : mark.toList = [c])
    (names : List String) : (mark.intercalate names).toList = glue c (names.map String.toList) := by
  induction names with
  | nil => rfl
  | cons a rest ih =>
    cases rest with
    | nil => simp [glue]
    | cons b rest =>
      rw [String.intercalate_cons_cons, String.toList_append, String.toList_append, ih, hmark]
      simp [glue]

/-- Names without a mark can be told from the text they make with it. -/
theorem intercalate_injective (mark : String) (c : Char) (hmark : mark.toList = [c])
    (names names' : List String) (hne : names ≠ []) (hne' : names' ≠ [])
    (hfree : ∀ s ∈ names, c ∉ s.toList) (hfree' : ∀ s ∈ names', c ∉ s.toList)
    (h : mark.intercalate names = mark.intercalate names') : names = names' := by
  have hglue := congrArg (fun s => pieces (· == c) s.toList) h
  simp only [toList_intercalate mark c hmark] at hglue
  rw [pieces_glue, pieces_glue] at hglue
  · exact (List.map_inj_right fun _ _ => String.toList_inj.mp).mp hglue
  · simpa using hne'
  · simpa using hfree'
  · simpa using hne
  · simpa using hfree

/-- What stands before the first separator, and what after it, is told by the whole. -/
theorem first_cut_unique {α : Type} (s : α) (p q rest rest' : List α) (hp : s ∉ p) (hq : s ∉ q)
    (h : p ++ s :: rest = q ++ s :: rest') : p = q ∧ rest = rest' := by
  induction p generalizing q with
  | nil =>
    cases q with
    | nil => exact ⟨rfl, (List.cons.inj h).2⟩
    | cons y q => exact absurd ((List.cons.inj h).1 ▸ List.mem_cons_self) hq
  | cons x p ih =>
    cases q with
    | nil => exact absurd ((List.cons.inj h).1 ▸ List.mem_cons_self) hp
    | cons y q =>
      obtain ⟨hxy, htail⟩ := List.cons.inj h
      obtain ⟨hpq, hrest⟩ := ih q (fun hs => hp (List.mem_cons_of_mem x hs))
        (fun hs => hq (List.mem_cons_of_mem y hs)) htail
      exact ⟨by rw [hxy, hpq], hrest⟩

theorem last_cut_unique {α : Type} (s : α) (p q rest rest' : List α) (hrest : s ∉ rest)
    (hrest' : s ∉ rest') (h : p ++ s :: rest = q ++ s :: rest') : p = q ∧ rest = rest' := by
  have hreverse := congrArg List.reverse h
  simp only [List.reverse_append, List.reverse_cons, List.append_assoc, List.singleton_append]
    at hreverse
  obtain ⟨hrests, hfronts⟩ := first_cut_unique s rest.reverse rest'.reverse p.reverse q.reverse
    (by simpa using hrest) (by simpa using hrest') hreverse
  exact ⟨List.reverse_inj.mp hfronts, List.reverse_inj.mp hrests⟩

end Crosswalk.Text
