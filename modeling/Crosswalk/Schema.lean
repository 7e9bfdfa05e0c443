import Crosswalk.Diagnostic
import Crosswalk.TypeExpr

/-! Schemas of records: a class as a flat list of typed fields. A class without fields, or with a field
that is no plain name, is kept with the problem it has. Two schemas are the same if their names, fields
and problems are, wherever they stand. -/

namespace Crosswalk

open Code (Expr Interpreter TextFault ClassDeclaration FieldDeclaration Statement)

structure Field where
  name : String
  type : TypeExpr
  hasDefault : Bool := false
  location : Location := {}

inductive ShapeProblem
  | noFields (identifier : String)
  | unnamedField (target : String)
  deriving DecidableEq, Repr

def ShapeProblem.message : ShapeProblem → String
  | noFields identifier =>
    identifier ++ " declares no fields; inter_struct only works on classes with named fields."
  | unnamedField target =>
    "'" ++ target ++
      "' isn't a named field; inter_struct only works on classes with named fields."

structure Schema where
  identifier : String
  fields : List Field
  problem : Option ShapeProblem := none
  file : Option Files.Path := none
  location : Location := {}
  decorators : List Expr := []

/-- What one annotated line of a class declares: a field, or a line that is none. -/
inductive Member
  | field (field : Field)
  | unnamed (target : String)

def Member.ofDeclaration (i : Interpreter) (file : Option Files.Path) (d : FieldDeclaration) :
    Except TextFault Member :=
  match d.target with
  | .name _ id => do
    let type ← TypeExpr.ofExpr i d.type
    return .field
      ⟨id.text, type, d.hasValue, Location.ofPosition d.position file (some id.text)⟩
  | target => do return .unnamed (← i.print target)

def Member.field? : Member → Option Field
  | field f => some f
  | unnamed _ => none

def Member.unnamed? : Member → Option String
  | field _ => none
  | unnamed target => some target

namespace Schema

/-- The last line that names no field tells the problem; else the lack of fields does. -/
def problemOf (identifier : String) (members : List Member) : Option ShapeProblem :=
  match (members.filterMap Member.unnamed?).getLast? with
  | some target => some (.unnamedField target)
  | none => if members.isEmpty then some (.noFields identifier) else none

def ofClass (i : Interpreter) (d : ClassDeclaration) (file : Option Files.Path := none) :
    Except TextFault Schema := do
  let members ← d.fields.mapM (Member.ofDeclaration i file)
  return {
    identifier := d.name
    fields := members.filterMap Member.field?
    problem := problemOf d.name members
    file
    location := Location.ofPosition d.position file
    decorators := d.decorators }

/-- The first top-level class, or the first of a name. -/
def parse (i : Interpreter) (source : String) (name : Option String := none) :
    Except SourceError Schema := do
  match ← (i.statements? source).mapError .fault with
  | none => .error .unreadable
  | some statements =>
    let wanted (d : ClassDeclaration) : Bool :=
      match name with
      | none => true
      | some n => d.name == n
    match (statements.filterMap Statement.record?).find? wanted with
    | some d => (ofClass i d).mapError .fault
    | none => .error (.noClass name)

def isNamed (s : Schema) : Bool := s.problem.isNone

def fieldNames (s : Schema) : List String := s.fields.map (·.name)

def get? (s : Schema) (name : String) : Option Field := s.fields.find? (·.name == name)

/-- The problem of a schema, reported where the schema stands unless a place is given. -/
def shapeError (s : Schema) (location : Option Location := none) : Option Diagnostic :=
  s.problem.map fun p => ⟨.schemaShape, p.message, location.getD s.location⟩

def sameField (a b : Field) : Bool :=
  a.name == b.name && a.type.same b.type && a.hasDefault == b.hasDefault

def sameFields : List Field → List Field → Bool
  | [], [] => true
  | a :: as, b :: bs => sameField a b && sameFields as bs
  | _, _ => false

def same (a b : Schema) : Bool :=
  a.identifier == b.identifier && sameFields a.fields b.fields &&
    a.problem.map ShapeProblem.message == b.problem.map ShapeProblem.message

theorem get?_name (s : Schema) (name : String) (f : Field) (h : s.get? name = some f) :
    f.name = name := by
  simpa using List.find?_some h

theorem get?_mem (s : Schema) (name : String) (f : Field) (h : s.get? name = some f) :
    f ∈ s.fields := List.mem_of_find?_eq_some h

end Schema
end Crosswalk
