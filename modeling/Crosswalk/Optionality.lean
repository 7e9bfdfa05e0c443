import Crosswalk.Schema

/-! Whether a type is optional. Only the bare name `Optional` with an argument makes a type so; a dotted
name and a union do not. Of several arguments the first counts. A type that is no path, or an argument
that is no type, is a problem of its field. -/

namespace Crosswalk

open Code (Expr PrintError)

inductive Optionality
  | plain (type : TypeExpr)
  | optional (inner outer : TypeExpr)
  | invalid (diagnostic : Diagnostic)

inductive TypeProblem
  | missingArgument
  | badArgument
  | unsupported (text : String)
  deriving DecidableEq, Repr

def TypeProblem.message : TypeProblem → String
  | missingArgument => "Optional doesn't have a type argument."
  | badArgument => "Optional argument isn't a type."
  | unsupported text =>
    "Found a non-path type '" ++ text ++ "'. This isn't supported by inter_struct."

def wrapper : String := "Optional"

/-- Whether an expression can be a type: a path, an application, a union of types, a quoted type or the
type of nothing. -/
def isType : Expr → Bool
  | .name .. | .member .. | .subscript .. => true
  | .binary _ .bitOr left right => isType left && isType right
  | .constant _ .none | .constant _ (.text ..) => true
  | _ => false

/-- The first argument between the brackets of a subscript, if there is one. -/
def firstArgument : Expr → Option Expr
  | .tuple _ elements => elements.head?
  | e => some e

theorem text_textIn_tuple (p : Code.Position) (b : Code.Binding) (e : Expr) (rest : List Expr)
    (t : String) (h : (Expr.tuple p (e :: rest)).textIn false b = .ok t) : ∃ u, e.text = .ok u := by
  unfold Expr.textIn Code.textsIn at h
  cases he : e.textIn false Code.Binding.test with
  | ok u => exact ⟨u, he⟩
  | error r =>
    rw [he] at h
    cases h

/-- A type application has a text only if its first argument has one. -/
theorem text_firstArgument (p : Code.Position) (value index argument : Expr) (t : String)
    (h : (Expr.subscript p value index).text = .ok t) (ha : firstArgument index = some argument) :
    ∃ u, argument.text = .ok u := by
  unfold Expr.text Expr.textIn at h
  cases hv : value.textIn false Code.Binding.atom with
  | error r =>
    rw [hv] at h
    cases h
  | ok v =>
    cases hi : index.textIn false index.indexBinding with
    | error r =>
      rw [hv, hi] at h
      cases h
    | ok i =>
      cases index with
      | tuple q elements =>
        cases elements with
        | nil => cases ha
        | cons e rest =>
          cases ha
          exact text_textIn_tuple q _ _ rest i hi
      | _ =>
        cases ha
        exact ⟨i, hi⟩

/-- The type that is the first argument of an application. -/
def TypeExpr.argument (ty : TypeExpr) (p : Code.Position) (value index argument : Expr)
    (he : ty.expr = .subscript p value index) (ha : firstArgument index = some argument) :
    TypeExpr :=
  match h : argument.text with
  | .ok text => ⟨argument, text, h⟩
  | .error _ =>
    absurd (text_firstArgument p value index argument ty.text (he ▸ ty.text_eq) ha)
      (by simp [h])

namespace Optionality

def problem (location : Location) (p : TypeProblem) : Optionality :=
  .invalid ⟨.fieldType, p.message, location⟩

def classify (ty : TypeExpr) (location : Location := {}) : Optionality :=
  match he : ty.expr with
  | .member .. => plain ty
  | .name _ id => if id.text = wrapper then problem location .missingArgument else plain ty
  | .subscript p value index =>
    match value with
    | .member .. => plain ty
    | .name q id =>
      if id.text = wrapper then
        match ha : firstArgument index with
        | none => problem location .missingArgument
        | some argument =>
          if isType argument then
            optional (ty.argument p (.name q id) index argument he ha) ty
          else problem location .badArgument
      else plain ty
    | _ => problem location (.unsupported ty.text)
  | _ => problem location (.unsupported ty.text)

end Optionality
end Crosswalk
