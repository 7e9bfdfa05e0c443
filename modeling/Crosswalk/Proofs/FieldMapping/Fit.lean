import Crosswalk.Proofs.FieldMapping

/-! How the types of a pair stand to each other. There are eight ways, and none depends on the variant; the
variant only chooses what is made of them. So variants are compared way by way. -/

namespace Crosswalk

def MappingProblem.kind : MappingProblem → ErrorKind
  | mismatch .. => .typeMismatch
  | downgrade => .optionalDowngrade

namespace FieldOutcome

@[simp] theorem action?_act (a : FieldAction) : (act a).action? = some a := rfl

@[simp] theorem errors_act (a : FieldAction) : (act a).errors = [] := rfl

@[simp] theorem action?_skip : skip.action? = none := rfl

@[simp] theorem errors_skip : skip.errors = [] := rfl

@[simp] theorem action?_fail (ds : List Diagnostic) : (fail ds).action? = none := rfl

@[simp] theorem errors_fail (ds : List Diagnostic) : (fail ds).errors = ds := rfl

end FieldOutcome

namespace FieldPair

inductive Fit
  /-- One of the two is no type, or neither is. -/
  | invalid (first : Diagnostic) (rest : List Diagnostic)
  | mismatch
  /-- One plain type on both sides. -/
  | plain
  /-- An optional type before a plain one, whichever it is. -/
  | demotion
  /-- A plain type before the optional of it. -/
  | wrapping
  /-- One optional type on both sides. -/
  | passing
  /-- The optional of an optional type before that type. -/
  | narrowing
  /-- An optional type before the optional of it. -/
  | widening

namespace Fit

def ofOptionals (inner outer inner' outer' : TypeExpr) : Fit :=
  if inner.same inner' then passing
  else if inner.same outer' then narrowing
  else if outer.same inner' then widening
  else mismatch

def ofTypes : Optionality → Optionality → Fit
  | .invalid d, .invalid e => invalid d [e]
  | .invalid d, _ => invalid d []
  | _, .invalid e => invalid e []
  | .plain a, .plain b => if a.same b then plain else mismatch
  | .optional .., .plain _ => demotion
  | .plain a, .optional inner _ => if a.same inner then wrapping else mismatch
  | .optional inner outer, .optional inner' outer' => ofOptionals inner outer inner' outer'

/-- What a variant makes of a pair. -/
def outcome (pair : FieldPair) (v : Variant) : Fit → FieldOutcome
  | invalid first rest => .fail (first :: rest)
  | mismatch => pair.reject v (.mismatch pair.source.type pair.target.type)
  | plain => if v.soft then .skip else pair.act v .assign
  | demotion => pair.demote v
  | wrapping => pair.act v .wrap
  | passing => pair.act v .passThrough
  | narrowing => pair.unwrap v
  | widening => pair.act v .wrap true

/-- What the two types are if they stand so. -/
inductive Between : Optionality → Optionality → Fit → Prop
  | invalid (s t : Optionality) (first : Diagnostic) (rest : List Diagnostic)
      (told : ∀ d ∈ first :: rest, d.kind = .fieldType) : Between s t (invalid first rest)
  | mismatch (s t : Optionality) : Between s t mismatch
  | plain (a b : TypeExpr) : Between (.plain a) (.plain b) plain
  | demotion (inner outer b : TypeExpr) : Between (.optional inner outer) (.plain b) demotion
  | wrapping (a inner outer : TypeExpr) : Between (.plain a) (.optional inner outer) wrapping
  | passing (inner outer inner' outer' : TypeExpr) :
    Between (.optional inner outer) (.optional inner' outer') passing
  | narrowing (inner outer inner' outer' : TypeExpr) :
    Between (.optional inner outer) (.optional inner' outer') narrowing
  | widening (inner outer inner' outer' : TypeExpr) :
    Between (.optional inner outer) (.optional inner' outer') widening

theorem between_ofOptionals (inner outer inner' outer' : TypeExpr) :
    Between (.optional inner outer) (.optional inner' outer')
      (ofOptionals inner outer inner' outer') := by
  unfold ofOptionals
  split
  · exact .passing _ _ _ _
  split
  · exact .narrowing _ _ _ _
  split
  · exact .widening _ _ _ _
  · exact .mismatch _ _

theorem between_ofTypes (s t : Optionality) (hs : ∀ d, s = .invalid d → d.kind = .fieldType)
    (ht : ∀ d, t = .invalid d → d.kind = .fieldType) : Between s t (ofTypes s t) := by
  cases s with
  | invalid d =>
    have hd := hs d rfl
    cases t with
    | invalid e =>
      have he := ht e rfl
      exact .invalid _ _ _ _ (by simp [hd, he])
    | plain b | optional inner outer => exact .invalid _ _ _ _ (by simp [hd])
  | plain a =>
    cases t with
    | invalid e =>
      have he := ht e rfl
      exact .invalid _ _ _ _ (by simp [he])
    | plain b =>
      dsimp only [ofTypes]
      split
      · exact .plain a b
      · exact .mismatch _ _
    | optional inner outer =>
      dsimp only [ofTypes]
      split
      · exact .wrapping a inner outer
      · exact .mismatch _ _
  | optional inner outer =>
    cases t with
    | invalid e =>
      have he := ht e rfl
      exact .invalid _ _ _ _ (by simp [he])
    | plain b => exact .demotion inner outer b
    | optional inner' outer' => exact between_ofOptionals inner outer inner' outer'

end Fit

variable (pair : FieldPair) (v : Variant)

/-! What an outcome holds -/

@[simp] theorem action?_act (kind : ActionKind) (eager : Bool) :
    (pair.act v kind eager).action? = some ⟨pair.source.name, pair.target.name, kind, v.mode.clones,
      v.soft, eager && v.mode.clones && v.soft⟩ := rfl

@[simp] theorem errors_act (kind : ActionKind) (eager : Bool) :
    (pair.act v kind eager).errors = [] := rfl

@[simp] theorem action?_reject (p : MappingProblem) : (pair.reject v p).action? = none := rfl

@[simp] theorem errors_reject (p : MappingProblem) :
    (pair.reject v p).errors = [pair.report v.mode p] := rfl

@[simp] theorem kind_report (mode : Mode) (p : MappingProblem) : (pair.report mode p).kind = p.kind := by
  cases p <;> rfl

@[simp] theorem location_report (mode : Mode) (p : MappingProblem) :
    (pair.report mode p).location = pair.source.location := by
  cases p <;> rfl

/-! Both types of a pair -/

def fit : Fit := Fit.ofTypes pair.sourceOptionality pair.targetOptionality

theorem kind_of_classify_invalid (ty : TypeExpr) (location : Location) (d : Diagnostic)
    (h : Optionality.classify ty location = .invalid d) : d.kind = .fieldType := by
  obtain ⟨p, rfl, -⟩ := Optionality.problem_of_classify_invalid ty location d h
  rfl

theorem between_fit :
    ∃ s t, pair.sourceOptionality = s ∧ pair.targetOptionality = t ∧ Fit.Between s t pair.fit :=
  ⟨_, _, rfl, rfl,
    Fit.between_ofTypes _ _ (kind_of_classify_invalid _ _) (kind_of_classify_invalid _ _)⟩

theorem mapOptionals_eq (inner outer inner' outer' : TypeExpr) (hs : outer = pair.source.type)
    (ht : outer' = pair.target.type) :
    pair.mapOptionals v inner outer inner' outer' =
      (Fit.ofOptionals inner outer inner' outer').outcome pair v := by
  subst hs ht
  unfold mapOptionals Fit.ofOptionals
  split
  · rfl
  split
  · rfl
  split <;> rfl

/-- A pair comes to what the variant makes of how its types stand to each other. -/
theorem map_eq_outcome : pair.map v = pair.fit.outcome pair v := by
  have hplain := Optionality.eq_of_classify_plain pair.source.type
  have hplain' := Optionality.eq_of_classify_plain pair.target.type
  have houter := Optionality.eq_of_classify_optional pair.source.type
  have houter' := Optionality.eq_of_classify_optional pair.target.type
  unfold map fit sourceOptionality targetOptionality
  cases hs : Optionality.classify pair.source.type pair.source.location with
  | invalid d => cases Optionality.classify pair.target.type pair.target.location <;> rfl
  | plain a =>
    have ha := hplain a _ hs
    cases ht : Optionality.classify pair.target.type pair.target.location with
    | invalid e => rfl
    | plain b =>
      have hb := hplain' b _ ht
      subst ha hb
      by_cases hsame : pair.source.type.same pair.target.type = true <;>
        simp [Fit.ofTypes, Fit.outcome, hsame]
    | optional inner outer =>
      subst ha
      by_cases hsame : pair.source.type.same inner = true <;>
        simp [Fit.ofTypes, Fit.outcome, hsame]
  | optional inner outer =>
    cases ht : Optionality.classify pair.target.type pair.target.location with
    | invalid e => rfl
    | plain b => rfl
    | optional inner' outer' =>
      exact mapOptionals_eq pair v inner outer inner' outer' (houter _ _ _ hs) (houter' _ _ _ ht)

end FieldPair
end Crosswalk
