import Crosswalk.Code.Expr

/-! Statements, as far as declarations of classes and their fields need them. -/

namespace Crosswalk.Code

/-- An annotated name or place, with or without a value. -/
structure FieldDeclaration where
  position : Position
  target : Expr
  type : Expr
  hasValue : Bool
  deriving Repr

/-- A class stands where its keyword stands, whatever decorates it. -/
structure ClassDeclaration where
  name : String
  position : Position
  decorators : List Expr
  fields : List FieldDeclaration
  named : IsName name
  deriving Repr

inductive Statement
  | field (declaration : FieldDeclaration)
  | record (declaration : ClassDeclaration)
  | other (position : Position)
  deriving Repr

namespace Statement

def position : Statement → Position
  | field d => d.position
  | record d => d.position
  | other p => p

def field? : Statement → Option FieldDeclaration
  | field d => some d
  | _ => none

def record? : Statement → Option ClassDeclaration
  | record d => some d
  | _ => none

end Statement
end Crosswalk.Code
