import Crosswalk.Optionality

/-! What it means to be classified: a plain type is the type itself, an optional type keeps the whole and
its first argument. Types can be built by name and by wrapping, and wrapping is what classification
undoes. -/

namespace Crosswalk

open Code (Expr)

namespace Optionality

def isOptional : Optionality → Bool
  | optional .. => true
  | plain _ | invalid _ => false

theorem eq_of_classify_plain (ty a : TypeExpr) (location : Location)
    (h : classify ty location = .plain a) : a = ty := by
  unfold classify at h
  split at h
  · cases h
    rfl
  · split at h <;> cases h
    rfl
  · split at h
    · cases h
      rfl
    · split at h
      · split at h
        · cases h
        · split at h <;> cases h
      · cases h
        rfl
    · cases h
  · cases h

theorem eq_of_classify_optional (ty inner outer : TypeExpr) (location : Location)
    (h : classify ty location = .optional inner outer) : outer = ty := by
  unfold classify at h
  split at h
  · cases h
  · split at h <;> cases h
  · split at h
    · cases h
    · split at h
      · split at h
        · cases h
        · split at h <;> cases h
          rfl
      · cases h
    · cases h
  · cases h

/-- A type that is refused is told in its own words, or in none. -/
theorem problem_of_classify_invalid (ty : TypeExpr) (location : Location) (d : Diagnostic)
    (h : classify ty location = .invalid d) :
    ∃ p : TypeProblem, d = ⟨.fieldType, p.message, location⟩ ∧
      (p = .missingArgument ∨ p = .badArgument ∨ p = .unsupported ty.text) := by
  unfold classify at h
  split at h
  · cases h
  · split at h <;> cases h
    exact ⟨.missingArgument, rfl, .inl rfl⟩
  · split at h
    · cases h
    · split at h
      · split at h
        · cases h
          exact ⟨.missingArgument, rfl, .inl rfl⟩
        · split at h <;> cases h
          exact ⟨.badArgument, rfl, .inr (.inl rfl)⟩
      · cases h
    · cases h
      exact ⟨.unsupported ty.text, rfl, .inr (.inr rfl)⟩
  · cases h
    exact ⟨.unsupported ty.text, rfl, .inr (.inr rfl)⟩

end Optionality

namespace TypeExpr

/-- The type of a single name, which is its own compatible form. -/
def named (id : String) (valid : Code.isSpelling id = true := by decide)
    (canonical : Code.canonicalName id = id := by decide) : TypeExpr :=
  ⟨.name {} ⟨id, id, valid, canonical⟩, id, rfl⟩

def wrapperName : Code.Name := ⟨wrapper, wrapper, by decide, by decide⟩

theorem text_wrapped (ty : TypeExpr) (flat : ty.expr.indexBinding = Code.Binding.test) :
    (Expr.subscript {} (.name {} wrapperName) ty.expr).text =
      .ok (wrapper ++ "[" ++ ty.text ++ "]") := by
  have htext : ty.expr.textIn false Code.Binding.test = .ok ty.text := ty.text_eq
  unfold Expr.text
  simp only [Expr.textIn, flat, htext]
  rfl

/-- An optional of a type; that of a tuple would be written without the tuple's parentheses. -/
def wrapped (ty : TypeExpr) (flat : ty.expr.indexBinding = Code.Binding.test := by rfl) : TypeExpr :=
  ⟨.subscript {} (.name {} wrapperName) ty.expr, wrapper ++ "[" ++ ty.text ++ "]",
    text_wrapped ty flat⟩

end TypeExpr

/-! Schemas of named types -/

def Schema.ofTypes (identifier : String) (fields : List (String × TypeExpr)) : Schema :=
  { identifier, fields := fields.map fun field => { name := field.1, type := field.2 } }

def article : Schema :=
  Schema.ofTypes "Article" [("tags", (TypeExpr.named "list").wrapped), ("size", TypeExpr.named "int")]

/-- An article of which less may be known. -/
def draft : Schema :=
  Schema.ofTypes "Draft"
    [("tags", (TypeExpr.named "list").wrapped.wrapped), ("size", (TypeExpr.named "int").wrapped)]

end Crosswalk
