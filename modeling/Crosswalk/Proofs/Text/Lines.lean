import Crosswalk.Proofs.Text.Names
import Crosswalk.Text.Quoted
import Crosswalk.Text.Utf8

/-! Texts on one line, and the lines of a text. A line feed ends a line, and so does a carriage return. Names,
numbers and quoted texts are on one line; texts on one line that are glued with line feeds are the lines of
the whole. -/

namespace Crosswalk.Text

def LineFree (l : List Char) : Prop := ∀ c ∈ l, c ≠ '\n' ∧ c ≠ '\r'

/-- A text without line ends. -/
def OneLine (s : String) : Prop := LineFree s.toList

instance (l : List Char) : Decidable (LineFree l) := List.decidableBAll _ l

instance (s : String) : Decidable (OneLine s) := inferInstanceAs (Decidable (LineFree _))

/-- The lines of a text. What follows the last line end is a line too. -/
def lines (s : String) : List String :=
  (pieces (· == '\n') (Utf8.unifyLineEnds s.toList)).map String.ofList

/-! Lists of characters -/

@[simp] theorem lineFree_nil : LineFree [] := List.forall_mem_nil _

@[simp] theorem lineFree_cons (c : Char) (l : List Char) :
    LineFree (c :: l) ↔ (c ≠ '\n' ∧ c ≠ '\r') ∧ LineFree l := List.forall_mem_cons

@[simp] theorem lineFree_append (l r : List Char) :
    LineFree (l ++ r) ↔ LineFree l ∧ LineFree r := List.forall_mem_append

@[simp] theorem lineFree_replicate (n : Nat) (c : Char) (hc : c ≠ '\n' ∧ c ≠ '\r') :
    LineFree (List.replicate n c) := fun _ hx => List.eq_of_mem_replicate hx ▸ hc

theorem lineFree_subset (l r : List Char) (h : r ⊆ l) (hl : LineFree l) : LineFree r :=
  fun c hc => hl c (h hc)

theorem lineFree_flatMap {α : Type} (l : List α) (f : α → List Char) (h : ∀ a ∈ l, LineFree (f a)) :
    LineFree (l.flatMap f) := by
  intro c hc
  obtain ⟨a, ha, hca⟩ := List.mem_flatMap.mp hc
  exact h a ha c hca

/-! Texts -/

@[simp] theorem oneLine_append (s t : String) : OneLine (s ++ t) ↔ OneLine s ∧ OneLine t := by
  unfold OneLine
  rw [String.toList_append]
  exact lineFree_append _ _

@[simp] theorem oneLine_ofList (l : List Char) : OneLine (String.ofList l) ↔ LineFree l := by
  unfold OneLine
  rw [String.toList_ofList]

theorem oneLine_toString (c : Char) : OneLine c.toString ↔ c ≠ '\n' ∧ c ≠ '\r' := by
  unfold OneLine
  rw [Char.toString, String.toList_singleton, lineFree_cons]
  exact and_iff_left lineFree_nil

theorem oneLine_join (texts : List String) (h : ∀ s ∈ texts, OneLine s) :
    OneLine (String.join texts) := by
  unfold OneLine
  rw [String.toList_join]
  exact lineFree_flatMap texts String.toList h

theorem oneLine_intercalate (glue : String) (texts : List String) (hglue : OneLine glue)
    (h : ∀ s ∈ texts, OneLine s) : OneLine (glue.intercalate texts) := by
  induction texts with
  | nil => exact lineFree_nil
  | cons first rest ih =>
    obtain ⟨hfirst, hrest⟩ := List.forall_mem_cons.mp h
    cases rest with
    | nil => exact hfirst
    | cons second rest =>
      rw [String.intercalate_cons_cons, oneLine_append, oneLine_append]
      exact ⟨⟨hfirst, hglue⟩, ih hrest⟩

/-! Names and numbers -/

theorem oneLine_of_isName (name : String) (h : Code.IsName name) : OneLine name := fun c hc =>
  ⟨fun heq => Code.not_mem_of_isName name '\n' h (by decide) (heq ▸ hc),
    fun heq => Code.not_mem_of_isName name '\r' h (by decide) (heq ▸ hc)⟩

theorem digitChar_free (d : Nat) : d.digitChar ≠ '\n' ∧ d.digitChar ≠ '\r' := by
  have hall : ∀ d : Fin 17, Nat.digitChar d ≠ '\n' ∧ Nat.digitChar d ≠ '\r' := by decide
  by_cases hd : d < 17
  · exact hall ⟨d, hd⟩
  · have hstar : d.digitChar = '*' := by
      unfold Nat.digitChar
      repeat rw [if_neg (by omega)]
    rw [hstar]
    decide

theorem lineFree_toDigitsCore (base fuel n : Nat) (digits : List Char) (h : LineFree digits) :
    LineFree (Nat.toDigitsCore base fuel n digits) := by
  induction fuel generalizing n digits with
  | zero => exact h
  | succ fuel ih =>
    have hnext := (lineFree_cons (n % base).digitChar digits).mpr ⟨digitChar_free _, h⟩
    unfold Nat.toDigitsCore
    dsimp only
    split
    · exact hnext
    · exact ih _ _ hnext

@[simp] theorem lineFree_toDigits (base n : Nat) : LineFree (Nat.toDigits base n) :=
  lineFree_toDigitsCore base _ n [] lineFree_nil

theorem oneLine_natRepr (n : Nat) : OneLine n.repr := (oneLine_ofList _).mpr (lineFree_toDigits 10 n)

theorem oneLine_intRepr (n : Int) : OneLine n.repr := by
  cases n with
  | ofNat m => exact oneLine_natRepr m
  | negSucc m => exact (oneLine_append "-" _).mpr ⟨by decide, oneLine_natRepr _⟩

/-! Quoted texts -/

/-- Only the two line ends are shown as line ends. -/
theorem ofNat_free (c : Nat) (hfeed : c ≠ 0xa) (hreturn : c ≠ 0xd) :
    Char.ofNat c ≠ '\n' ∧ Char.ofNat c ≠ '\r' :=
  ⟨fun h => hfeed (eq_toNat_of_ofNat c '\n' (by decide) h),
    fun h => hreturn (eq_toNat_of_ofNat c '\r' (by decide) h)⟩

namespace Quoted

theorem oneLine_hexDigits (width n : Nat) : OneLine (hexDigits width n) := by
  unfold hexDigits
  simp

theorem oneLine_numericEscape (c : CodePoint) : OneLine (numericEscape c) := by
  unfold numericEscape
  repeat' split
  all_goals exact (oneLine_append _ _).mpr ⟨by decide, oneLine_hexDigits _ _⟩

theorem oneLine_escape (quote c : CodePoint) (hfeed : quote ≠ 0xa) (hreturn : quote ≠ 0xd) :
    OneLine (escape quote c) := by
  unfold escape
  split
  · rename_i hmark
    have hc : c ≠ 0xa ∧ c ≠ 0xd := by
      rcases hmark with rfl | rfl
      · exact ⟨hfeed, hreturn⟩
      · decide
    rw [oneLine_ofList, lineFree_cons, lineFree_cons]
    exact ⟨by decide, ofNat_free c hc.1 hc.2, lineFree_nil⟩
  split
  · decide
  split
  · decide
  · rename_i hc
    split
    · decide
    · rename_i hc'
      split
      · exact (oneLine_toString _).mpr (ofNat_free c hc hc')
      · exact oneLine_numericEscape c

theorem oneLine_body (quote : CodePoint) (t : List CodePoint) (hfeed : quote ≠ 0xa)
    (hreturn : quote ≠ 0xd) : OneLine (body quote t) := by
  refine oneLine_join _ fun s hs => ?_
  obtain ⟨c, -, rfl⟩ := List.mem_map.mp hs
  exact oneLine_escape quote c hfeed hreturn

theorem quoteFor_free (t : List CodePoint) : quoteFor t ≠ 0xa ∧ quoteFor t ≠ 0xd := by
  unfold quoteFor
  split <;> decide

theorem oneLine_mark (t : List CodePoint) : OneLine (Char.ofNat (quoteFor t)).toString :=
  (oneLine_toString _).mpr (ofNat_free _ (quoteFor_free t).1 (quoteFor_free t).2)

/-- A quoted text is on one line, whatever the text is. -/
theorem oneLine_encode (t : List CodePoint) : OneLine (encode t) := by
  have hquote := quoteFor_free t
  unfold encode
  rw [oneLine_append, oneLine_append]
  exact ⟨⟨oneLine_mark t, oneLine_body _ t hquote.1 hquote.2⟩, oneLine_mark t⟩

theorem oneLine_encodeBytes (bytes : List Nat) : OneLine (encodeBytes bytes) := by
  have hquote := quoteFor_free bytes
  have hbody : OneLine (String.join (bytes.map (escapeByte (quoteFor bytes)))) := by
    refine oneLine_join _ fun s hs => ?_
    obtain ⟨b, -, rfl⟩ := List.mem_map.mp hs
    unfold escapeByte
    split
    · exact oneLine_escape _ b hquote.1 hquote.2
    · exact oneLine_numericEscape b
  unfold encodeBytes
  rw [oneLine_append, oneLine_append, oneLine_append]
  exact ⟨⟨⟨by decide, oneLine_mark bytes⟩, hbody⟩, oneLine_mark bytes⟩

end Quoted

/-! Lines -/

theorem unifyLineEnds_append (l rest : List Char) (hl : LineFree l) :
    Utf8.unifyLineEnds (l ++ rest) = l ++ Utf8.unifyLineEnds rest := by
  induction l with
  | nil => rfl
  | cons c l ih =>
    rw [lineFree_cons] at hl
    have hc := hl.1.2
    rw [List.cons_append, Utf8.unifyLineEnds, ih hl.2, List.cons_append]
    · exact fun _ h _ => hc h
    · exact hc

theorem lines_of_oneLine (s : String) (h : OneLine s) : lines s = [s] := by
  have hfree : '\n' ∉ s.toList := fun hmem => (h _ hmem).1 rfl
  have hunify := unifyLineEnds_append s.toList [] h
  unfold lines
  rw [List.append_nil] at hunify
  rw [hunify, show Utf8.unifyLineEnds [] = [] from rfl, List.append_nil,
    pieces_of_not_mem '\n' _ hfree, List.map_singleton, String.ofList_toList]

theorem lines_append (s t : String) (h : OneLine s) : lines (s ++ "\n" ++ t) = s :: lines t := by
  have hfree : '\n' ∉ s.toList := fun hmem => (h _ hmem).1 rfl
  unfold lines
  rw [String.toList_append, String.toList_append, List.append_assoc,
    unifyLineEnds_append s.toList _ h, show "\n".toList = ['\n'] from rfl, List.singleton_append,
    Utf8.unifyLineEnds, pieces_append '\n' _ _ hfree, List.map_cons, String.ofList_toList]
  all_goals simp

/-- Texts on one line, each ended by a line feed, are the first lines of the whole. -/
theorem lines_intercalate (texts : List String) (t : String) (hne : texts ≠ [])
    (h : ∀ s ∈ texts, OneLine s) :
    lines ("\n".intercalate texts ++ "\n" ++ t) = texts ++ lines t := by
  induction texts with
  | nil => exact absurd rfl hne
  | cons first rest ih =>
    obtain ⟨hfirst, hrest⟩ := List.forall_mem_cons.mp h
    cases rest with
    | nil => exact lines_append first t hfirst
    | cons second rest =>
      have hassoc : "\n".intercalate (first :: second :: rest) ++ "\n" ++ t =
          first ++ "\n" ++ ("\n".intercalate (second :: rest) ++ "\n" ++ t) := by
        rw [String.intercalate_cons_cons]
        simp only [String.append_assoc]
      rw [hassoc, lines_append first _ hfirst, ih (List.cons_ne_nil _ _) hrest]
      rfl

end Crosswalk.Text
