import Crosswalk.Proofs.FieldMapping.Fit

/-! Optionals of optionals. A plain type may have any number of optionals around it. Each of them makes the
text of the type longer, so two such types are written alike just if they are as deep, and how they stand to
each other is a matter of their depths. -/

namespace Crosswalk

open Code (Expr)

namespace Optionality

/-- The forms of a plain type, as far as they can be seen from outside. -/
def isPlain : Expr → Bool
  | .member .. | .subscript _ (.member ..) _ => true
  | .name _ id | .subscript _ (.name _ id) _ => id.text ≠ wrapper
  | _ => false

theorem classify_of_isPlain (ty : TypeExpr) (location : Location) (h : isPlain ty.expr = true) :
    classify ty location = .plain ty := by
  obtain ⟨expr, text, htext⟩ := ty
  unfold isPlain at h
  dsimp only at h
  unfold classify
  split at h
  · rfl
  · rfl
  · exact if_neg (of_decide_eq_true h)
  · exact if_neg (of_decide_eq_true h)
  · cases h

theorem isPlain_of_classify (ty a : TypeExpr) (location : Location)
    (h : classify ty location = .plain a) : isPlain ty.expr = true := by
  unfold classify at h
  split at h <;> rename_i hexpr
  · rw [hexpr]
    rfl
  · rw [hexpr]
    split at h
    · cases h
    · exact decide_eq_true ‹_›
  · rw [hexpr]
    split at h
    · rfl
    · split at h
      · split at h
        · cases h
        · split at h <;> cases h
      · exact decide_eq_true ‹_›
    · cases h
  · cases h

/-- An expression that is itself the argument where it stands between brackets, and a type. -/
structure IsArgument (e : Expr) : Prop where
  isType : isType e = true
  first : firstArgument e = some e
  binding : e.indexBinding = Code.Binding.test

theorem isArgument_subscript (p : Code.Position) (value index : Expr) :
    IsArgument (.subscript p value index) := ⟨rfl, rfl, rfl⟩

theorem isArgument_of_isPlain (e : Expr) (h : isPlain e = true) : IsArgument e := by
  unfold isPlain at h
  split at h
  · exact ⟨rfl, rfl, rfl⟩
  · exact isArgument_subscript _ _ _
  · exact ⟨rfl, rfl, rfl⟩
  · exact isArgument_subscript _ _ _
  · cases h

end Optionality

namespace TypeExpr

/-- A type is its expression: there is one text that the expression has. -/
theorem eq_of_expr (a b : TypeExpr) (h : a.expr = b.expr) : a = b := by
  obtain ⟨expr, text, htext⟩ := a
  obtain ⟨expr', text', htext'⟩ := b
  cases h
  rw [htext] at htext'
  cases htext'
  rfl

/-- A type with one optional around another, wherever both are written. -/
def Encloses (outer inner : TypeExpr) : Prop :=
  ∃ p q, ∃ id : Code.Name, id.text = wrapper ∧ outer.expr = .subscript p (.name q id) inner.expr

/-- A type with a number of optionals around a base. -/
inductive Wraps (base : TypeExpr) : Nat → TypeExpr → Prop
  | bare : Wraps base 0 base
  | more (n : Nat) (inner outer : TypeExpr) (h : Wraps base n inner) (he : outer.Encloses inner) :
    Wraps base (n + 1) outer

theorem text_of_encloses (outer inner : TypeExpr) (h : outer.Encloses inner)
    (harg : Optionality.IsArgument inner.expr) : outer.text = wrapper ++ "[" ++ inner.text ++ "]" := by
  obtain ⟨p, q, id, hid, hexpr⟩ := h
  have hinner : inner.expr.textIn false Code.Binding.test = .ok inner.text := inner.text_eq
  have houter := outer.text_eq
  rw [hexpr] at houter
  unfold Expr.text at houter
  simp only [Expr.textIn, harg.binding, hinner] at houter
  rw [← hid]
  exact (Except.ok.inj houter).symm

theorem classify_of_encloses (outer inner : TypeExpr) (location : Location) (h : outer.Encloses inner)
    (harg : Optionality.IsArgument inner.expr) :
    Optionality.classify outer location = .optional inner outer := by
  obtain ⟨p, q, id, hid, hexpr⟩ := h
  obtain ⟨expr, text, htext⟩ := outer
  subst hexpr
  have hargument : ∀ he ha, argument ⟨.subscript p (.name q id) inner.expr, text, htext⟩ p (.name q id)
      inner.expr inner.expr he ha = inner := by
    intro he ha
    apply eq_of_expr
    unfold argument
    split
    · rfl
    · rename_i reason hreason
      rw [inner.text_eq] at hreason
      cases hreason
  unfold Optionality.classify
  dsimp only
  rw [if_pos hid]
  split
  · rename_i hnone
    rw [harg.first] at hnone
    cases hnone
  · rename_i e hsome
    obtain rfl := Option.some.inj (harg.first.symm.trans hsome)
    rw [if_pos harg.isType, hargument]

section

variable (base ty : TypeExpr) (n : Nat) (hplain : Optionality.isPlain base.expr = true)
  (h : Wraps base n ty)

include hplain h

theorem isArgument_of_wraps : Optionality.IsArgument ty.expr := by
  cases h with
  | bare => exact Optionality.isArgument_of_isPlain base.expr hplain
  | more m inner outer hinner he =>
    obtain ⟨p, q, id, -, hexpr⟩ := he
    rw [hexpr]
    exact Optionality.isArgument_subscript _ _ _

/-- Each optional is ten signs of text. -/
theorem length_of_wraps : ty.text.length = base.text.length + 10 * n := by
  induction h with
  | bare => rfl
  | more m inner outer hinner he ih =>
    have htext := text_of_encloses outer inner he (isArgument_of_wraps base inner m hplain hinner)
    have hwrapper : wrapper.length = 8 := rfl
    have hopen : "[".length = 1 := rfl
    have hclose : "]".length = 1 := rfl
    simp only [htext, String.length_append, ih, hwrapper, hopen, hclose]
    omega

end

theorem wraps_wrapped (base ty : TypeExpr) (n : Nat) (h : Wraps base n ty)
    (flat : ty.expr.indexBinding = Code.Binding.test) : Wraps base (n + 1) (ty.wrapped flat) :=
  .more n ty _ h ⟨{}, {}, wrapperName, rfl, rfl⟩

section

variable (base ty : TypeExpr) (location : Location) (hplain : Optionality.isPlain base.expr = true)

include hplain

/-- There are types of every depth. -/
theorem exists_wraps (n : Nat) : ∃ ty, Wraps base n ty := by
  induction n with
  | zero => exact ⟨base, .bare⟩
  | succ n ih =>
    obtain ⟨ty, h⟩ := ih
    exact ⟨_, wraps_wrapped base ty n h (isArgument_of_wraps base ty n hplain h).binding⟩

theorem classify_of_wraps_zero (h : Wraps base 0 ty) :
    Optionality.classify ty location = .plain ty := by
  cases h
  exact Optionality.classify_of_isPlain base location hplain

theorem classify_of_wraps_succ (n : Nat) (h : Wraps base (n + 1) ty) :
    ∃ inner, Wraps base n inner ∧ Optionality.classify ty location = .optional inner ty := by
  cases h with
  | more _ inner _ hinner he =>
    have harg := isArgument_of_wraps base inner n hplain hinner
    exact ⟨inner, hinner, classify_of_encloses ty inner location he harg⟩

end

section

variable (a b s t : TypeExpr) (m n : Nat) (ha : Optionality.isPlain a.expr = true)
  (hb : Optionality.isPlain b.expr = true) (hbase : a.text = b.text) (hs : Wraps a m s)
  (ht : Wraps b n t)

include ha hb hbase hs ht

theorem text_eq_of_depth_eq (hdepth : m = n) : s.text = t.text := by
  subst hdepth
  induction hs generalizing t with
  | bare =>
    cases ht
    exact hbase
  | more k inner outer hinner he ih =>
    cases ht with
    | more _ inner' outer' hinner' he' =>
      rw [text_of_encloses _ inner he (isArgument_of_wraps a inner k ha hinner),
        text_of_encloses _ inner' he' (isArgument_of_wraps b inner' k hb hinner'), ih inner' hinner']

/-- Types around one base are written alike just if they are as deep. -/
theorem same_iff_depth_eq : s.same t = true ↔ m = n := by
  unfold same
  rw [beq_iff_eq]
  constructor
  · intro htext
    -- Nothing is known of the text of the base, so the texts are compared by their lengths.
    have hlength := congrArg String.length htext
    rw [length_of_wraps a s m ha hs, length_of_wraps b t n hb ht, hbase] at hlength
    omega
  · exact text_eq_of_depth_eq a b s t m n ha hb hbase hs ht

end

end TypeExpr

namespace FieldOutcome

/-- One action of a kind. -/
def Does (o : FieldOutcome) (kind : ActionKind) : Prop := ∃ a, o = .act a ∧ a.kind = kind

/-- One error of a kind. -/
def Tells (o : FieldOutcome) (kind : ErrorKind) : Prop := ∃ d, o = .fail [d] ∧ d.kind = kind

end FieldOutcome

namespace FieldPair

/-! How types stand to each other that are one type with as many optionals around it -/

namespace Fit

def ofDepths : Nat → Nat → Fit
  | 0, 0 => plain
  | 0, n + 1 => if n = 0 then wrapping else mismatch
  | _ + 1, 0 => demotion
  | m + 1, n + 1 =>
    if m = n then passing else if m = n + 1 then narrowing else if m + 1 = n then widening else mismatch

theorem ofDepths_self (n : Nat) : ofDepths (n + 1) (n + 1) = passing := if_pos rfl

theorem ofDepths_narrowing (n : Nat) : ofDepths (n + 2) (n + 1) = narrowing := by
  simp [ofDepths]

theorem ofDepths_widening (m : Nat) : ofDepths (m + 1) (m + 2) = widening := by
  have hne : m ≠ m + 2 := by omega
  simp [ofDepths, hne]

/-- Depths that are neither equal nor next to each other. -/
theorem ofDepths_mismatch (m n : Nat) (hne : m ≠ n) (hmore : n ≠ m + 1) (hless : m ≠ n + 1)
    (hn : n ≠ 0) : ofDepths m n = mismatch := by
  obtain ⟨k, rfl⟩ := Nat.exists_eq_succ_of_ne_zero hn
  cases m with
  | zero => exact if_neg (by omega)
  | succ j =>
    dsimp only [ofDepths]
    rw [if_neg (by omega), if_neg (by omega), if_neg (by omega)]

end Fit

variable (pair : FieldPair) (v : Variant)

theorem fit_eq_ofDepths (a b : TypeExpr) (m n : Nat)
    (ha : Optionality.isPlain a.expr = true) (hb : Optionality.isPlain b.expr = true)
    (hbase : a.text = b.text) (hs : TypeExpr.Wraps a m pair.source.type)
    (ht : TypeExpr.Wraps b n pair.target.type) : pair.fit = Fit.ofDepths m n := by
  have hsame : ∀ s t j k, TypeExpr.Wraps a j s → TypeExpr.Wraps b k t →
      (s.same t = true ↔ j = k) := fun s t j k =>
    TypeExpr.same_iff_depth_eq a b s t j k ha hb hbase
  unfold fit sourceOptionality targetOptionality
  cases m with
  | zero =>
    rw [TypeExpr.classify_of_wraps_zero a _ _ ha hs]
    cases n with
    | zero =>
      rw [TypeExpr.classify_of_wraps_zero b _ _ hb ht]
      simp [Fit.ofTypes, Fit.ofDepths, hsame _ _ _ _ hs ht]
    | succ k =>
      obtain ⟨inner, hinner, htarget⟩ := TypeExpr.classify_of_wraps_succ b _ _ hb k ht
      rw [htarget]
      simp [Fit.ofTypes, Fit.ofDepths, hsame _ _ _ _ hs hinner, eq_comm]
  | succ j =>
    obtain ⟨inner, hinner, hsource⟩ := TypeExpr.classify_of_wraps_succ a _ _ ha j hs
    rw [hsource]
    cases n with
    | zero =>
      rw [TypeExpr.classify_of_wraps_zero b _ _ hb ht]
      rfl
    | succ k =>
      obtain ⟨inner', hinner', htarget⟩ := TypeExpr.classify_of_wraps_succ b _ _ hb k ht
      rw [htarget]
      simp [Fit.ofTypes, Fit.ofOptionals, Fit.ofDepths, hsame _ _ _ _ hinner hinner',
        hsame _ _ _ _ hinner ht, hsame _ _ _ _ hs hinner']

/-! What is made of them -/

theorem does_act (kind : ActionKind) (eager : Bool) : (pair.act v kind eager).Does kind :=
  ⟨_, rfl, rfl⟩

theorem tells_reject (p : MappingProblem) : (pair.reject v p).Tells p.kind :=
  ⟨_, rfl, pair.kind_report v.mode p⟩

/-- A construction with defaults and a soft update pass over an optional that is to be plain. -/
theorem demote_spec :
    (v.mode = .intoDefault ∨ v.soft = true → pair.demote v = .skip) ∧
      (¬ (v.mode = .intoDefault ∨ v.soft = true) → (pair.demote v).Tells .optionalDowngrade) := by
  unfold demote
  refine ⟨fun h => if_pos h.symm, fun h => ?_⟩
  rw [if_neg fun h' => h h'.symm]
  exact tells_reject pair v .downgrade

/-- An update that copies or is soft takes the value out of one optional too many. -/
theorem unwrap_spec :
    (v.mode = .mergeRef ∨ v.soft = true → (pair.unwrap v).Does .unwrapIfPresent) ∧
      (v.mode = .intoDefault → pair.unwrap v = .skip) ∧
      (v.mode = .into ∨ v.mode = .merge ∧ v.soft = false →
        (pair.unwrap v).Tells .optionalDowngrade) := by
  unfold unwrap
  refine ⟨fun h => ?_, fun hmode => ?_, fun h => ?_⟩
  · rw [if_pos h.symm]
    exact does_act pair v _ _
  · have hsoft := v.not_soft (by rw [hmode]; rfl)
    simp [hmode, hsoft]
  · have hsoft : v.soft = false := h.elim (fun h => v.not_soft (by rw [h]; rfl)) (·.2)
    have hneither : ¬ (v.soft = true ∨ v.mode = .mergeRef) ∧ v.mode ≠ .intoDefault := by
      rcases h with hmode | ⟨hmode, -⟩ <;> simp [hsoft, hmode]
    rw [if_neg hneither.1, if_neg hneither.2]
    exact tells_reject pair v .downgrade

/-- What becomes of one type under any number of optionals on both sides, in every variant. -/
theorem map_by_depth (a b : TypeExpr) (m n : Nat)
    (location location' : Location) (ha : Optionality.classify a location = .plain a)
    (hb : Optionality.classify b location' = .plain b) (hbase : a.same b = true)
    (hs : TypeExpr.Wraps a m pair.source.type) (ht : TypeExpr.Wraps b n pair.target.type) :
    (∀ k, ∃ ty, TypeExpr.Wraps a k ty) ∧
    (m = 0 → n = 0 →
      (v.soft = true → pair.map v = .skip) ∧ (v.soft = false → (pair.map v).Does .assign)) ∧
    (m = n → 1 ≤ n → (pair.map v).Does .passThrough) ∧
    (n = m + 1 → ∃ action, pair.map v = .act action ∧ action.kind = .wrap ∧
      (action.eagerClone = true ↔ 1 ≤ m ∧ v.soft = true ∧ v.mode = .mergeRef)) ∧
    (m = n + 1 → 1 ≤ n →
      (v.mode = .mergeRef ∨ v.soft = true → (pair.map v).Does .unwrapIfPresent) ∧
      (v.mode = .intoDefault → pair.map v = .skip) ∧
      (v.mode = .into ∨ v.mode = .merge ∧ v.soft = false → (pair.map v).Tells .optionalDowngrade)) ∧
    (1 ≤ m → n = 0 →
      (v.mode = .intoDefault ∨ v.soft = true → pair.map v = .skip) ∧
      (¬ (v.mode = .intoDefault ∨ v.soft = true) → (pair.map v).Tells .optionalDowngrade)) ∧
    (m ≠ n → n ≠ m + 1 → m ≠ n + 1 → n ≠ 0 → (pair.map v).Tells .typeMismatch) := by
  have hplain := Optionality.isPlain_of_classify a a location ha
  have hfit := fit_eq_ofDepths pair a b m n hplain
    (Optionality.isPlain_of_classify b b location' hb) (beq_iff_eq.mp hbase) hs ht
  rw [map_eq_outcome, hfit]
  refine ⟨fun k => a.exists_wraps hplain k, ?plain, ?passing, ?wrapping, ?narrowing, ?demotion, ?mismatch⟩
  case plain =>
    rintro rfl rfl
    refine ⟨fun hsoft => if_pos hsoft, fun hsoft => ?_⟩
    simpa [Fit.ofDepths, Fit.outcome, hsoft] using does_act pair v .assign false
  case passing =>
    rintro rfl hn
    obtain ⟨k, rfl⟩ := Nat.exists_eq_add_of_le' hn
    rw [Fit.ofDepths_self]
    exact does_act pair v .passThrough false
  case wrapping =>
    rintro rfl
    cases m with
    | zero => exact ⟨_, rfl, rfl, by simp⟩
    | succ k =>
      rw [Fit.ofDepths_widening]
      exact ⟨_, rfl, rfl, by simp [Mode.clones, and_comm]⟩
  case narrowing =>
    rintro rfl hn
    obtain ⟨k, rfl⟩ := Nat.exists_eq_add_of_le' hn
    rw [Fit.ofDepths_narrowing]
    exact unwrap_spec pair v
  case demotion =>
    rintro hm rfl
    obtain ⟨k, rfl⟩ := Nat.exists_eq_add_of_le' hm
    exact demote_spec pair v
  case mismatch =>
    intro hne hmore hless hn
    rw [Fit.ofDepths_mismatch m n hne hmore hless hn]
    exact tells_reject pair v (.mismatch _ _)

/-- Of three optionals one is too many for two, and an update that copies takes the value out; of four, none
is left that fits. -/
theorem map_by_depth_int :
    let maybe := (TypeExpr.named "int").wrapped
    let pair : FieldPair := ⟨{ name := "n", type := maybe.wrapped.wrapped },
      { name := "n", type := maybe.wrapped }⟩
    let far : FieldPair := ⟨{ name := "n", type := maybe.wrapped.wrapped.wrapped },
      { name := "n", type := maybe.wrapped }⟩
    (pair.map (.hard .mergeRef)).Does .unwrapIfPresent ∧
      (pair.map (.hard .merge)).Tells .optionalDowngrade ∧
      (far.map (.hard .mergeRef)).Tells .typeMismatch := by
  intro maybe pair far
  have hplain : ∀ location, Optionality.classify (TypeExpr.named "int") location =
      .plain (TypeExpr.named "int") :=
    fun location => Optionality.classify_of_isPlain _ location (by decide)
  have htwo : TypeExpr.Wraps (TypeExpr.named "int") 2 maybe.wrapped :=
    TypeExpr.wraps_wrapped _ _ 1 (TypeExpr.wraps_wrapped _ _ 0 .bare rfl) rfl
  have hthree := TypeExpr.wraps_wrapped _ _ 2 htwo rfl
  have hfour := TypeExpr.wraps_wrapped _ _ 3 hthree rfl
  have hnear := fun mode => map_by_depth pair (.hard mode) _ _ 3 2 {} {} (hplain _) (hplain _)
    (by decide) hthree htwo
  obtain ⟨-, -, -, -, -, -, hfar⟩ := map_by_depth far (.hard .mergeRef) _ _ 4 2 {} {} (hplain _)
    (hplain _) (by decide) hfour htwo
  exact ⟨((hnear .mergeRef).2.2.2.2.1 rfl (by decide)).1 (.inl rfl),
    ((hnear .merge).2.2.2.2.1 rfl (by decide)).2.2 (.inr ⟨rfl, rfl⟩),
    hfar (by decide) (by decide) (by decide) (by decide)⟩

end FieldPair
end Crosswalk
