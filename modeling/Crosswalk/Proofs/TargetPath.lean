import Crosswalk.TargetPath

/-! Segments and dotted names. A segment holds neither a dot nor a null character, and names without dots
can be told from the dotted text they make. -/

namespace Crosswalk

/-! Segments -/

theorem mem_of_isAsciiIdentifier (t : List Text.CodePoint) (h : isAsciiIdentifier t = true)
    (c : Text.CodePoint) (hc : c ∈ t) :
    Text.isAsciiLetter c = true ∨ Text.isAsciiDigit c = true ∨ c = 0x5f := by
  cases t with
  | nil => cases hc
  | cons d rest =>
    simp only [isAsciiIdentifier, Bool.and_eq_true, Bool.or_eq_true, List.all_eq_true,
      beq_iff_eq] at h
    rcases List.mem_cons.mp hc with rfl | hc
    · exact h.1.imp id .inr
    · rcases h.2 c hc with (hletter | hdigit) | hunderscore
      · exact .inl hletter
      · exact .inr (.inl hdigit)
      · exact .inr (.inr hunderscore)

theorem mem_of_isSegment (t : List Text.CodePoint) (h : isSegment t = true)
    (c : Text.CodePoint) (hc : c ∈ t) :
    Text.isAsciiLetter c = true ∨ Text.isAsciiDigit c = true ∨ c = 0x5f ∨ c = 0xa := by
  unfold isSegment at h
  rw [Bool.or_eq_true, Bool.and_eq_true, beq_iff_eq] at h
  rcases h with hident | ⟨hlast, hident⟩
  · rcases mem_of_isAsciiIdentifier t hident c hc with h | h | h
    · exact .inl h
    · exact .inr (.inl h)
    · exact .inr (.inr (.inl h))
  · obtain ⟨front, rfl⟩ := List.getLast?_eq_some_iff.mp hlast
    rw [List.dropLast_concat] at hident
    rcases List.mem_append.mp hc with hc | hc
    · rcases mem_of_isAsciiIdentifier front hident c hc with h | h | h
      · exact .inl h
      · exact .inr (.inl h)
      · exact .inr (.inr (.inl h))
    · exact .inr (.inr (.inr (List.mem_singleton.mp hc)))

/-- A segment holds only letters, digits, underscores and a line feed. -/
theorem not_mem_of_isSegment (s : String) (h : isSegment (Text.codePoints s) = true) (c : Char)
    (hletter : Text.isAsciiLetter c.toNat = false) (hdigit : Text.isAsciiDigit c.toNat = false)
    (hunderscore : c.toNat ≠ 0x5f) (hfeed : c.toNat ≠ 0xa) : c ∉ s.toList := by
  intro hc
  rcases mem_of_isSegment _ h c.toNat (List.mem_map_of_mem hc) with h | h | h | h
  · simp [hletter] at h
  · simp [hdigit] at h
  · exact hunderscore h
  · exact hfeed h

def Dotless (s : String) : Prop := '.' ∉ s.toList

instance (s : String) : Decidable (Dotless s) := inferInstanceAs (Decidable (_ ∉ _))

theorem dotless_of_isSegment (s : String) (h : isSegment (Text.codePoints s) = true) : Dotless s :=
  not_mem_of_isSegment s h '.' (by decide) (by decide) (by decide) (by decide)

theorem null_not_mem_of_isSegment (s : String) (h : isSegment (Text.codePoints s) = true) :
    '\x00' ∉ s.toList :=
  not_mem_of_isSegment s h '\x00' (by decide) (by decide) (by decide) (by decide)

theorem ne_empty_of_isSegment (s : String) (h : isSegment (Text.codePoints s) = true) : s ≠ "" := by
  rintro rfl
  cases h

def AllSegments (names : List String) : Prop := ∀ s ∈ names, isSegment (Text.codePoints s) = true

instance (names : List String) : Decidable (AllSegments names) :=
  inferInstanceAs (Decidable (∀ s ∈ names, _))

/-! Dotted names -/

namespace TargetPath

/-- Names without dots can be told from their dotted text. -/
theorem dotted_injective (names names' : List String) (hne : names ≠ []) (hne' : names' ≠ [])
    (hfree : ∀ s ∈ names, Dotless s) (hfree' : ∀ s ∈ names', Dotless s)
    (h : dotted names = dotted names') : names = names' :=
  Text.intercalate_injective "." '.' rfl names names' hne hne' hfree hfree' h

theorem dotless_cons (first : String) (names : List String) (hfirst : Dotless first)
    (hnames : AllSegments names) (s : String) (hs : s ∈ first :: names) : Dotless s := by
  rcases List.mem_cons.mp hs with rfl | hs
  · exact hfirst
  · exact dotless_of_isSegment s (hnames s hs)

theorem dotted_cons_inj (first first' : String) (names names' : List String)
    (hfirst : Dotless first) (hfirst' : Dotless first') (hnames : AllSegments names)
    (hnames' : AllSegments names') :
    dotted (first :: names) = dotted (first' :: names') ↔
      first = first' ∧ names = names' := by
  constructor
  · intro h
    have hcons := dotted_injective _ _ (List.cons_ne_nil _ _) (List.cons_ne_nil _ _)
      (dotless_cons first names hfirst hnames) (dotless_cons first' names' hfirst' hnames') h
    exact List.cons.inj hcons
  · rintro ⟨rfl, rfl⟩
    rfl

theorem dotted_append (names : List String) (name : String) (hne : names ≠ []) :
    dotted (names ++ [name]) = dotted names ++ "." ++ name := by
  unfold dotted
  rw [String.intercalate_append_of_ne_nil hne (List.cons_ne_nil _ _), String.intercalate_singleton]

/-! The parts of a path -/

theorem segments_eq (path : TargetPath) :
    path.segments = path.root :: path.modules ++ [path.identifier] := by
  obtain ⟨segments, two, valid⟩ := path
  match segments with
  | first :: second :: rest =>
    have hne : second :: rest ≠ [] := List.cons_ne_nil _ _
    simp only [root, modules, identifier, List.headD_cons, List.dropLast_cons_of_ne_nil hne,
      List.drop_one, List.tail_cons, List.getLast?_cons_cons, List.cons_append]
    rw [List.getLast?_eq_some_getLast hne, Option.getD_some, List.dropLast_concat_getLast hne]

theorem modulePath_eq (path : TargetPath) : path.modulePath = dotted (path.root :: path.modules) := by
  rw [modulePath, segments_eq, List.dropLast_concat]

theorem toString_eq (path : TargetPath) :
    path.toString = dotted (path.root :: path.modules ++ [path.identifier]) := by
  rw [toString, segments_eq]

theorem isSegment_of_mem (path : TargetPath) (s : String)
    (h : s ∈ path.root :: path.modules ++ [path.identifier]) :
    isSegment (Text.codePoints s) = true := by
  rw [← segments_eq] at h
  exact path.valid s h

theorem dotless_root (path : TargetPath) : Dotless path.root :=
  dotless_of_isSegment _ (path.isSegment_of_mem _ (by simp))

theorem dotless_identifier (path : TargetPath) : Dotless path.identifier :=
  dotless_of_isSegment _ (path.isSegment_of_mem _ (by simp))

theorem allSegments_modules (path : TargetPath) : AllSegments path.modules :=
  fun s hs => path.isSegment_of_mem s (by simp [hs])

/-- A path can be told from its text. -/
theorem toString_injective (p q : TargetPath) (h : p.toString = q.toString) : p = q := by
  have hne : ∀ r : TargetPath, r.segments ≠ [] := fun r =>
    List.ne_nil_of_length_pos (Nat.zero_lt_of_lt r.two)
  have hsegments := dotted_injective p.segments q.segments (hne p) (hne q)
    (fun s hs => dotless_of_isSegment s (p.valid s hs))
    (fun s hs => dotless_of_isSegment s (q.valid s hs)) h
  cases p
  cases q
  cases hsegments
  rfl

end TargetPath
end Crosswalk
