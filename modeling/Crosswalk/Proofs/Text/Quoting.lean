import Crosswalk.Text.Quoted

/-! Quoted texts of plain characters: of what is shown as it is, quotes and backslashes apart, and of line
feeds. A plain end of a text does not change its quotes, holds none of them when it is escaped, and is told
by what it is escaped to. -/

namespace Crosswalk.Text

def IsPlain (c : Nat) : Prop :=
  c = 0xa ∨ 0x20 ≤ c ∧ c < 0x7f ∧ c ≠ 0x22 ∧ c ≠ 0x27 ∧ c ≠ 0x5c

instance (c : Nat) : Decidable (IsPlain c) := inferInstanceAs (Decidable (_ ∨ _))

def Plain (s : String) : Prop := ∀ c ∈ codePoints s, IsPlain c

instance (s : String) : Decidable (Plain s) := inferInstanceAs (Decidable (∀ c ∈ _, _))

theorem plain_append (s t : String) (hs : Plain s) (ht : Plain t) : Plain (s ++ t) := by
  intro c hc
  rw [codePoints, String.toList_append, List.map_append, List.mem_append] at hc
  exact hc.elim (hs c) (ht c)

/-- Glued with a plain text, plain texts are plain. -/
theorem plain_intercalate (glue : String) (names : List String) (hglue : Plain glue)
    (hnames : ∀ s ∈ names, Plain s) : Plain (glue.intercalate names) := by
  induction names with
  | nil => exact fun c hc => nomatch hc
  | cons first rest ih =>
    have hrest := ih fun s hs => hnames s (List.mem_cons_of_mem first hs)
    have hfirst := hnames first List.mem_cons_self
    cases rest with
    | nil => exact hfirst
    | cons second rest =>
      rw [String.intercalate_cons_cons]
      exact plain_append _ _ (plain_append _ _ hfirst hglue) hrest

namespace Quoted

/-! Marks -/

theorem quoteFor_cases (t : List CodePoint) : quoteFor t = 0x22 ∨ quoteFor t = 0x27 := by
  unfold quoteFor
  split
  · exact .inl rfl
  · exact .inr rfl

theorem quoteFor_append (t u : List CodePoint) (hu : ∀ c ∈ u, IsPlain c) :
    quoteFor (t ++ u) = quoteFor t := by
  have hsingle : u.contains 0x27 = false := by
    rw [← Bool.not_eq_true, List.contains_iff_mem]
    exact fun h => absurd (hu _ h) (by decide)
  have hdouble : u.contains 0x22 = false := by
    rw [← Bool.not_eq_true, List.contains_iff_mem]
    exact fun h => absurd (hu _ h) (by decide)
  unfold quoteFor
  rw [List.contains_append, List.contains_append, hsingle, hdouble, Bool.or_false, Bool.or_false]

/-! Plain characters -/

theorem toList_toString (c : Char) : c.toString.toList = [c] := by
  rw [Char.toString, String.toList_singleton]

theorem escape_of_isPlain (q c : Nat) (hq : q = 0x22 ∨ q = 0x27) (hc : IsPlain c) :
    (escape q c).toList = if c = 0xa then "\\n".toList else [Char.ofNat c] := by
  unfold escape
  rcases hc with rfl | ⟨hlow, hhigh, hdouble, hsingle, hslash⟩
  · rcases hq with rfl | rfl <;> rfl
  · have hprintable : isPrintable c = true := by
      unfold isPrintable
      rw [if_pos (show c < 0x80 by omega)]
      simp [hlow, hhigh]
    have hquote : ¬ (c = q ∨ c = 0x5c) := by omega
    rw [if_neg hquote, if_neg (show c ≠ 0x9 by omega), if_neg (show c ≠ 0xa by omega),
      if_neg (show c ≠ 0xd by omega), if_pos hprintable, if_neg (show c ≠ 0xa by omega)]
    exact toList_toString _

theorem toList_body (q : CodePoint) (t : List CodePoint) :
    (body q t).toList = t.flatMap fun c => (escape q c).toList := by
  unfold body
  rw [String.toList_join, List.flatMap_map]

theorem toNat_ofNat (n : Nat) (h : n < 0x80) : (Char.ofNat n).toNat = n := by
  have hvalid : n.isValidChar := .inl (by omega)
  unfold Char.ofNat
  rw [dif_pos hvalid]
  rfl

theorem ofNat_inj (a b : Nat) (ha : a < 0x80) (hb : b < 0x80) (h : Char.ofNat a = Char.ofNat b) :
    a = b := by
  rw [← toNat_ofNat a ha, ← toNat_ofNat b hb, h]

section

variable (q : Nat) (hq : q = 0x22 ∨ q = 0x27)

include hq

/-- The mark does not stand in what is plain. -/
theorem mark_not_mem_body (t : List Nat) (ht : ∀ c ∈ t, IsPlain c) :
    Char.ofNat q ∉ (body q t).toList := by
  rw [toList_body, List.mem_flatMap]
  rintro ⟨c, hc, hmark⟩
  have hplain := ht c hc
  rw [escape_of_isPlain q c hq hplain] at hmark
  split at hmark
  · rcases hq with rfl | rfl <;> exact absurd hmark (by decide)
  · rename_i hfeed
    have hsmall := hplain.resolve_left hfeed
    have heq := ofNat_inj q c (by omega) (by omega) (List.mem_singleton.mp hmark)
    omega

theorem body_injective (t u : List Nat) (ht : ∀ c ∈ t, IsPlain c) (hu : ∀ c ∈ u, IsPlain c)
    (h : (body q t).toList = (body q u).toList) : t = u := by
  have hone : ∀ c, IsPlain c → ∃ d rest, (escape q c).toList = d :: rest ∧
      (c = 0xa ∧ d = Char.ofNat 0x5c ∧ rest = ['n'] ∨
        c ≠ 0xa ∧ d = Char.ofNat c ∧ rest = [] ∧ c < 0x7f ∧ c ≠ 0x5c) := by
    intro c hc
    rw [escape_of_isPlain q c hq hc]
    by_cases hfeed : c = 0xa
    · rw [if_pos hfeed]
      exact ⟨_, _, rfl, .inl ⟨hfeed, rfl, rfl⟩⟩
    · rw [if_neg hfeed]
      have hsmall := hc.resolve_left hfeed
      exact ⟨_, _, rfl, .inr ⟨hfeed, rfl, rfl, by omega, by omega⟩⟩
  rw [toList_body, toList_body] at h
  induction t generalizing u with
  | nil =>
    cases u with
    | nil => rfl
    | cons b u =>
      obtain ⟨d, rest, hescape, -⟩ := hone b (hu b List.mem_cons_self)
      rw [List.flatMap_cons, hescape] at h
      cases h
  | cons a t ih =>
    obtain ⟨d, rest, hescape, hfirst⟩ := hone a (ht a List.mem_cons_self)
    cases u with
    | nil =>
      rw [List.flatMap_cons, hescape] at h
      cases h
    | cons b u =>
      obtain ⟨d', rest', hescape', hfirst'⟩ := hone b (hu b List.mem_cons_self)
      rw [List.flatMap_cons, List.flatMap_cons, hescape, hescape', List.cons_append, List.cons_append,
        List.cons.injEq] at h
      obtain ⟨hchar, htail⟩ := h
      have hboth : a = b ∧ rest = rest' := by
        rcases hfirst with ⟨rfl, rfl, rfl⟩ | ⟨-, rfl, rfl, hsmall, hslash⟩ <;>
          rcases hfirst' with ⟨rfl, rfl, rfl⟩ | ⟨-, rfl, rfl, hsmall', hslash'⟩
        · exact ⟨rfl, rfl⟩
        · exact absurd (ofNat_inj _ _ (by omega) (by omega) hchar) (by omega)
        · exact absurd (ofNat_inj _ _ (by omega) (by omega) hchar) (by omega)
        · exact ⟨ofNat_inj _ _ (by omega) (by omega) hchar, rfl⟩
      obtain ⟨rfl, rfl⟩ := hboth
      rw [ih u (fun c hc => ht c (List.mem_cons_of_mem _ hc))
        (fun c hc => hu c (List.mem_cons_of_mem _ hc)) (List.append_cancel_left htail)]

end

theorem toList_encode_append (t u : List CodePoint) (hu : ∀ c ∈ u, IsPlain c) :
    (encode (t ++ u)).toList =
      Char.ofNat (quoteFor t) :: (body (quoteFor t) t).toList ++
        ((body (quoteFor t) u).toList ++ [Char.ofNat (quoteFor t)]) := by
  unfold encode
  dsimp only
  rw [quoteFor_append t u hu]
  simp only [String.toList_append, toList_body, List.flatMap_append, toList_toString,
    List.append_assoc, List.cons_append, List.nil_append]

/-- A plain text has single quotes. -/
theorem toList_encode (u : List CodePoint) (hu : ∀ c ∈ u, IsPlain c) :
    (encode u).toList = Char.ofNat 0x27 :: ((body 0x27 u).toList ++ [Char.ofNat 0x27]) := by
  have h := toList_encode_append [] u hu
  have hquote : quoteFor [] = 0x27 := rfl
  rw [List.nil_append, hquote, toList_body 0x27 [], List.flatMap_nil, List.cons_append,
    List.nil_append] at h
  exact h

end Quoted

/-! Plain texts -/

theorem codePoints_injective (s t : String) (h : codePoints s = codePoints t) : s = t := by
  unfold codePoints at h
  rw [← String.toList_inj]
  exact (List.map_inj_right fun a b hab => Char.toNat_inj.mp hab).mp h

/-- A plain end of a quoted text is told by the whole, whatever follows it. -/
theorem quoted_append_inj (lead s t rest rest' : String) (hs : Plain s) (ht : Plain t)
    (h : quoted (lead ++ s) ++ rest = quoted (lead ++ t) ++ rest') : s = t := by
  have hquote := Quoted.quoteFor_cases (codePoints lead)
  have hlist := congrArg String.toList h
  have hcodes : ∀ u : String, codePoints (lead ++ u) = codePoints lead ++ codePoints u := by
    intro u
    rw [codePoints, String.toList_append, List.map_append]
    rfl
  unfold quoted at hlist
  rw [String.toList_append, String.toList_append, hcodes, hcodes,
    Quoted.toList_encode_append _ _ hs, Quoted.toList_encode_append _ _ ht] at hlist
  simp only [List.append_assoc, List.cons_append, List.cons.injEq, true_and] at hlist
  have hbodies := first_cut_unique _ _ _ _ _ (Quoted.mark_not_mem_body _ hquote _ hs)
    (Quoted.mark_not_mem_body _ hquote _ ht) (List.append_cancel_left hlist)
  exact codePoints_injective s t (Quoted.body_injective _ hquote _ _ hs ht hbodies.1)

/-- A plain text that is quoted at the end is told by the whole, whatever stands before it. -/
theorem append_quoted_inj (front front' s t : String) (hs : Plain s) (ht : Plain t)
    (h : front ++ quoted s = front' ++ quoted t) : s = t := by
  have hlist := congrArg String.toList h
  unfold quoted at hlist
  rw [String.toList_append, String.toList_append, Quoted.toList_encode _ hs,
    Quoted.toList_encode _ ht, ← List.cons_append, ← List.cons_append, ← List.append_assoc,
    ← List.append_assoc] at hlist
  have hbodies := last_cut_unique _ _ _ _ _ (Quoted.mark_not_mem_body 0x27 (.inr rfl) _ hs)
    (Quoted.mark_not_mem_body 0x27 (.inr rfl) _ ht) (List.append_cancel_right hlist)
  exact codePoints_injective s t (Quoted.body_injective 0x27 (.inr rfl) _ _ hs ht hbodies.2)

/-- A quoted text ends in a mark. -/
theorem append_quoted_ne (front front' s : String) (hs : Plain s) :
    front ++ quoted s ≠ front' ++ ")" := by
  intro h
  have hlist := congrArg (fun u => u.toList.getLast?) h
  unfold quoted at hlist
  rw [String.toList_append, String.toList_append, Quoted.toList_encode _ hs, ← List.cons_append,
    ← List.append_assoc, List.getLast?_concat, show ")".toList = [')'] from rfl,
    List.getLast?_concat] at hlist
  exact absurd hlist (by decide)

end Crosswalk.Text
