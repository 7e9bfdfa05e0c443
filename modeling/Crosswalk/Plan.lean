import Crosswalk.FieldMapping
import Crosswalk.TargetPath

/-! Plans: what is done with every field of a source to make or update a target. Fields are matched by
name, in the order of the source; a bad field does not keep the others from being planned, but a schema
that is no list of named fields has no plan beyond that error. -/

namespace Crosswalk

structure Plan where
  source : Schema
  target : Schema
  variant : Variant
  targetPath : Option TargetPath := none
  actions : List FieldAction := []
  errors : List Diagnostic := []
  /-- The target fields no source field has the name of. -/
  unmatched : List String := []
  /-- The target fields no action writes. -/
  uncovered : List String := []

/-- The fields of a source that the target has too. -/
def matchFields (source target : Schema) : List FieldPair :=
  source.fields.filterMap fun f => (target.get? f.name).map fun g => ⟨f, g⟩

namespace Plan

def mode (p : Plan) : Mode := p.variant.mode

def soft (p : Plan) : Bool := p.variant.soft

def shapeValid (p : Plan) : Bool := p.source.isNamed && p.target.isNamed

def hasErrors (p : Plan) : Bool := !p.errors.isEmpty

def actionFor? (p : Plan) (target : String) : Option FieldAction :=
  p.actions.find? (·.target == target)

def targetText (p : Plan) : String :=
  match p.targetPath with
  | some path => path.toString
  | none => p.target.identifier

def toString (p : Plan) : String :=
  p.source.identifier ++ " -> " ++ p.targetText ++ " [" ++ p.mode.title ++
    (if p.soft then " (soft)" else "") ++ "]"

/-- The problem of the source, or else of the target where it was asked for. -/
def shapeError (source target : Schema) (location : Option Location) : Option Diagnostic :=
  source.shapeError <|> target.shapeError location

def synthesize (source target : Schema) (v : Variant) (targetPath : Option TargetPath := none)
    (location : Option Location := none) : Plan :=
  match shapeError source target location with
  | some error => { source, target, variant := v, targetPath, errors := [error] }
  | none =>
    let outcomes := (matchFields source target).map (·.map v)
    let actions := outcomes.filterMap FieldOutcome.action?
    let matched := (matchFields source target).map (·.target.name)
    let written := actions.map (·.target)
    { source, target, variant := v, targetPath, actions
      errors := outcomes.flatMap FieldOutcome.errors
      unmatched := target.fieldNames.filter (!matched.contains ·)
      uncovered := target.fieldNames.filter (!written.contains ·) }

/-- A construction without defaults needs every field; those no source field has the name of are
missing. -/
def missing (p : Plan) : List String :=
  if p.mode = .into ∧ p.shapeValid then p.unmatched else []

def missingError (p : Plan) (location : Option Location) (name : String) : Diagnostic :=
  ⟨.incompleteConstruction,
    "Missing field '" ++ name ++ "' in initializer of '" ++ p.target.identifier ++ "': " ++
      p.source.identifier ++ " has no field of that name.",
    location.getD p.source.location⟩

def completeness (p : Plan) (location : Option Location := none) : List Diagnostic :=
  p.missing.map (p.missingError location)

/-- All that keeps a plan from being carried out. -/
def problems (p : Plan) : List Diagnostic := p.errors ++ p.completeness

end Plan
end Crosswalk
