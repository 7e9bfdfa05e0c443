import Crosswalk.Proofs.FieldMapping.Depth

/-! Both directions of a pair. A plain type can become the optional of it, and an optional type the optional of
that; neither has a way back, for which a value would have to be taken out. So where the hard variants let a
value through both ways, the types are of one shape. -/

namespace Crosswalk

/-- Types of one shape: both plain and written alike, or both optional around types that are written alike. -/
inductive Optionality.Level : Optionality → Optionality → Prop
  | plain (a b : TypeExpr) (same : a.text = b.text) : Level (.plain a) (.plain b)
  | optional (inner outer inner' outer' : TypeExpr) (same : inner.text = inner'.text) :
    Level (.optional inner outer) (.optional inner' outer')

theorem Optionality.Level.symm {s t : Optionality} (h : s.Level t) : t.Level s := by
  cases h with
  | plain a b same => exact .plain b a same.symm
  | optional inner outer inner' outer' same => exact .optional inner' outer' inner outer same.symm

theorem TypeExpr.same_iff (a b : TypeExpr) : a.same b = true ↔ a.text = b.text := beq_iff_eq

theorem TypeExpr.same_comm (a b : TypeExpr) : a.same b = b.same a := BEq.comm

namespace FieldOutcome

theorem errors_of_does (o : FieldOutcome) (kind : ActionKind) (h : o.Does kind) : o.errors = [] := by
  obtain ⟨a, rfl, -⟩ := h
  rfl

theorem errors_of_tells (o : FieldOutcome) (kind : ErrorKind) (h : o.Tells kind) : o.errors ≠ [] := by
  obtain ⟨d, rfl, -⟩ := h
  exact List.cons_ne_nil d []

end FieldOutcome

namespace FieldPair

/-- Which way a value would go from one type to another: to an optional more or less, or to the same shape. -/
inductive Slope
  | level
  | up
  | down
  | apart

namespace Fit

def slope : Fit → Slope
  | plain | passing => .level
  | wrapping | widening => .up
  | demotion | narrowing => .down
  | invalid .. | mismatch => .apart

theorem slope_ofOptionals (inner outer inner' outer' : TypeExpr) :
    (ofOptionals inner outer inner' outer').slope =
      if inner.same inner' then .level else if inner.same outer' then .down
        else if outer.same inner' then .up else .apart := by
  unfold ofOptionals
  split
  · rfl
  split
  · rfl
  split <;> rfl

theorem slope_eq_level_iff (s t : Optionality) : (ofTypes s t).slope = .level ↔ s.Level t := by
  constructor
  · intro h
    cases s with
    | invalid d => cases t <;> cases h
    | plain a =>
      cases t with
      | invalid e => cases h
      | plain b =>
        dsimp only [ofTypes] at h
        split at h
        · exact .plain a b ((a.same_iff b).mp (by assumption))
        · cases h
      | optional inner outer =>
        dsimp only [ofTypes] at h
        split at h <;> cases h
    | optional inner outer =>
      cases t with
      | invalid e => cases h
      | plain b => cases h
      | optional inner' outer' =>
        dsimp only [ofTypes] at h
        rw [slope_ofOptionals] at h
        split at h
        · exact .optional inner outer inner' outer' ((inner.same_iff inner').mp (by assumption))
        split at h
        · cases h
        split at h <;> cases h
  · rintro (⟨a, b, same⟩ | ⟨inner, outer, inner', outer', same⟩)
    · rw [← TypeExpr.same_iff] at same
      simp only [ofTypes, same, if_true, slope]
    · rw [← TypeExpr.same_iff] at same
      simp only [ofTypes, slope_ofOptionals, same, if_true]

/-- What goes up comes down where the types change places. -/
theorem slope_turned (s t : Optionality) (h : (ofTypes s t).slope = .up) :
    (ofTypes t s).slope = .down := by
  cases s with
  | invalid d => cases t <;> cases h
  | plain a =>
    cases t with
    | invalid e => cases h
    | plain b =>
      dsimp only [ofTypes] at h
      split at h <;> cases h
    | optional inner outer => rfl
  | optional inner outer =>
    cases t with
    | invalid e => cases h
    | plain b => cases h
    | optional inner' outer' =>
      dsimp only [ofTypes] at h ⊢
      rw [slope_ofOptionals] at h ⊢
      split at h
      · cases h
      rename_i hinner
      split at h
      · cases h
      split at h
      · rename_i hwhole
        -- Turned round, it is the whole target that the inner type of the source is written like.
        rw [TypeExpr.same_comm inner' inner, if_neg hinner, TypeExpr.same_comm inner' outer,
          if_pos hwhole]
      · cases h

end Fit

/-! What the hard variants make of it -/

section

variable (pair : FieldPair) (v : Variant)

theorem does_of_up (h : pair.fit.slope = .up) : (pair.map v).Does .wrap := by
  rw [map_eq_outcome]
  cases hfit : pair.fit with
  | wrapping => exact does_act pair v .wrap false
  | widening => exact does_act pair v .wrap true
  | invalid | mismatch | demotion | plain | narrowing | passing =>
    rw [hfit] at h
    cases h

theorem errors_of_apart (h : pair.fit.slope = .apart) : (pair.map v).errors ≠ [] := by
  rw [map_eq_outcome]
  cases hfit : pair.fit with
  | invalid first rest => exact List.cons_ne_nil first rest
  | mismatch => exact FieldOutcome.errors_of_tells _ _ (tells_reject pair v _)
  | demotion | wrapping | plain | narrowing | passing | widening =>
    rw [hfit] at h
    cases h

/-- What is done between types of one shape, of which the first is given. -/
def levelKind (s : Optionality) : ActionKind := if s.isOptional then .passThrough else .assign

theorem levelKind_eq {s t : Optionality} (h : s.Level t) : levelKind s = levelKind t := by
  cases h <;> rfl

variable (hv : v = .hard .into ∨ v = .hard .merge)

include hv

theorem does_of_level (h : pair.sourceOptionality.Level pair.targetOptionality) :
    (pair.map v).Does (levelKind pair.sourceOptionality) := by
  have hsoft : v.soft = false := by rcases hv with rfl | rfl <;> rfl
  rw [map_eq_outcome, fit]
  generalize pair.sourceOptionality = s at h ⊢
  generalize pair.targetOptionality = t at h ⊢
  cases h with
  | plain a b same =>
    have hfit : Fit.ofTypes (.plain a) (.plain b) = .plain := if_pos ((a.same_iff b).mpr same)
    have hassign : Fit.plain.outcome pair v = pair.act v .assign := if_neg (by simp [hsoft])
    rw [hfit, hassign]
    exact does_act pair v .assign false
  | optional inner outer inner' outer' same =>
    have hfit : Fit.ofTypes (.optional inner outer) (.optional inner' outer') = .passing :=
      if_pos ((inner.same_iff inner').mpr same)
    rw [hfit]
    exact does_act pair v .passThrough false

theorem tells_of_down (h : pair.fit.slope = .down) : (pair.map v).Tells .optionalDowngrade := by
  rw [map_eq_outcome]
  cases hfit : pair.fit with
  | demotion =>
    refine (demote_spec pair v).2 ?_
    rcases hv with rfl | rfl <;> decide
  | narrowing =>
    refine (unwrap_spec pair v).2.2 ?_
    rcases hv with rfl | rfl <;> decide
  | invalid | mismatch | wrapping | plain | widening | passing =>
    rw [hfit] at h
    cases h

/-- A value is let through to the same shape and upwards. -/
theorem level_or_up_of_errors (h : (pair.map v).errors = []) :
    pair.sourceOptionality.Level pair.targetOptionality ∨ pair.fit.slope = .up := by
  cases hslope : pair.fit.slope with
  | level => exact .inl ((Fit.slope_eq_level_iff _ _).mp hslope)
  | up => exact .inr rfl
  | down => exact absurd h (FieldOutcome.errors_of_tells _ _ (tells_of_down pair v hv hslope))
  | apart => exact absurd h (errors_of_apart pair v hslope)

end

/-- Two fields can be mapped both ways just if their types are of one shape, and then the same is done both
ways. Of any other two at least one way is refused: the way back from an optional that a value is wrapped
in. -/
theorem elevation_one_way (a b : Field) (v : Variant) (hv : v = .hard .into ∨ v = .hard .merge) :
    let forth := map ⟨a, b⟩ v
    let back := map ⟨b, a⟩ v
    let s := Optionality.classify a.type a.location
    let t := Optionality.classify b.type b.location
    (forth.errors = [] ∧ back.errors = [] ↔ s.Level t) ∧
    (s.Level t → forth.Does (levelKind s) ∧ back.Does (levelKind s)) ∧
    (¬ s.Level t → forth.errors ≠ [] ∨ forth.Does .wrap ∧ back.Tells .optionalDowngrade) := by
  intro forth back s t
  have hlevel : s.Level t → forth.Does (levelKind s) ∧ back.Does (levelKind s) := by
    intro h
    rw [levelKind_eq h]
    exact ⟨levelKind_eq h ▸ does_of_level ⟨a, b⟩ v hv h, does_of_level ⟨b, a⟩ v hv h.symm⟩
  have hother : ¬ s.Level t → forth.errors ≠ [] ∨ forth.Does .wrap ∧ back.Tells .optionalDowngrade := by
    intro h
    by_cases herrors : forth.errors = []
    · rcases level_or_up_of_errors ⟨a, b⟩ v hv herrors with hsame | hup
      · exact absurd hsame h
      · have hdown : (fit ⟨b, a⟩).slope = .down := Fit.slope_turned _ _ hup
        exact .inr ⟨does_of_up ⟨a, b⟩ v hup, tells_of_down ⟨b, a⟩ v hv hdown⟩
    · exact .inl herrors
  refine ⟨⟨fun ⟨hforth, hback⟩ => ?_, fun h => ?_⟩, hlevel, hother⟩
  · by_cases h : s.Level t
    · exact h
    · rcases hother h with herrors | ⟨-, htells⟩
      · exact absurd hforth herrors
      · exact absurd hback (FieldOutcome.errors_of_tells _ _ htells)
  · obtain ⟨hforth, hback⟩ := hlevel h
    exact ⟨FieldOutcome.errors_of_does _ _ hforth, FieldOutcome.errors_of_does _ _ hback⟩

/-- An optional with two arguments, of which the second does not count. -/
def optionalOfTwo : TypeExpr :=
  ⟨.subscript {} (.name {} TypeExpr.wrapperName)
      (.tuple {} [(TypeExpr.named "bool").expr, (TypeExpr.named "complex").expr]),
    "Optional[bool, complex]", by rfl⟩

/-- A flag can become optional and not be taken back; of the optional's arguments the first decides. -/
theorem elevation_one_way_bool :
    let flag : Field := { name := "f", type := TypeExpr.named "bool" }
    let maybe : Field := { name := "f", type := (TypeExpr.named "bool").wrapped }
    let either : Field := { name := "f", type := optionalOfTwo }
    ((map ⟨flag, maybe⟩ (.hard .into)).Does .wrap ∧
      (map ⟨maybe, flag⟩ (.hard .into)).Tells .optionalDowngrade) ∧
    (map ⟨maybe, either⟩ (.hard .merge)).errors = [] ∧
      (map ⟨either, maybe⟩ (.hard .merge)).errors = [] := by
  intro flag maybe either
  obtain ⟨-, -, hup⟩ := elevation_one_way flag maybe (.hard .into) (.inl rfl)
  obtain ⟨hboth, -, -⟩ := elevation_one_way maybe either (.hard .merge) (.inr rfl)
  refine ⟨?_, hboth.mpr (.optional _ _ _ _ rfl)⟩
  rcases hup nofun with herrors | hway
  · exact absurd rfl herrors
  · exact hway

end FieldPair
end Crosswalk
